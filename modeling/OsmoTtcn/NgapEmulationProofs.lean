import OsmoTtcn.NasFreshnessProofs
import OsmoTtcn.NgapFunctionsProofs
import OsmoTtcn.TwoIdsProofs

/-! # UE associations of the NGAP emulation

    `NGAP_Emulation` is `S1AP_Emulation` for NGAP, with a table of 256 UE
    associations.  An association may begin with the AMF id alone, by a
    HandoverRequest of the peer, and the NAS security state of another
    emulation may be set in it.

    `mainStep_changes` has what one round may do to the table.  The test of the
    ids and the lookup are those of tables with two ids (`fNgapIdsKnown_eq`,
    `fAssocIdByNgapIds_ok`).  `mainStep_served`: a message whose ids are sound
    gets to its association.  `mainStep_fresh`: a new association is fresh where
    its slot is untouched. -/

namespace OsmoNgap

open OsmoTitan OsmoNas SlotTable

/-- Represents a single NGAP Association. -/
structure AssociationData (Comp : Type) where
  /-- component handling this UE connection; `none`: the null reference -/
  compRef : Option Comp
  ranUeNgapId : Option RanUeNgapId
  /-- AMF side NGAP ID -/
  amfUeNgapId : Option AmfUeNgapId
  uli : Option UserLocationInformation
  nus : NgNasUeState

/-- `NGapAssociationTable` -/
abbrev NGapAssociationTable (Comp : Type) : Type := Fin 256 → AssociationData Comp

/-- `ExpectData`, an expectation by the ids of a UE. -/
structure ExpectData (Comp : Type) where
  amfId : Option AmfUeNgapId
  ranId : Option RanUeNgapId
  vcConn : Option Comp

/-- Represents a single NGAP PDU that we expect. -/
structure ExpectDataProc (Comp : Type) where
  procedureCode : Option Nat
  vcConn : Option Comp

/-- `NGapExpectTable` -/
abbrev NGapExpectTable (Comp : Type) : Type := Fin 256 → ExpectData Comp

/-- `NGapExpectTableProc` -/
abbrev NGapExpectTableProc (Comp : Type) : Type := Fin 256 → ExpectDataProc Comp

/-- The variables of the component. -/
structure Emulation (Comp : Type) where
  table : NGapAssociationTable Comp
  expect : NGapExpectTable Comp
  expectProc : NGapExpectTableProc Comp

/-- The call-backs, the role, and the external functions and codecs. -/
structure Params (Comp Ul Dl : Type) where
  createCb : NGapExpectTable Comp → NGapExpectTableProc Comp → NgapPdu →
    Option AmfUeNgapId → Option RanUeNgapId → Except Fault (Comp × NGapExpectTable Comp)
  unitdataCb : NgapPdu → Option NgapPdu
  role : NgNasRole
  env : NgEnv Ul Dl
  decUl : List UInt8 → Except Fault (NgNasMessage Ul)

/-- `NGAPEM_Config`, what a component configures of its NAS. -/
inductive NgapemConfig where
  | setNasKeys (kNasInt kNasEnc : List UInt8)
  | resetNasCounts
  | setNasAlgInt (alg : NgNasAlgInt)
  | setNasAlgEnc (alg : NgNasAlgEnc)
  deriving DecidableEq

/-- What comes in: from a client, from the unit-data port, from the peer, or a
    call of a component. -/
inductive Input (Comp Ul : Type) where
  | config (client : Comp) (ngcfg : NgapemConfig)
  | clientNas (client : Comp) (ulNas : NgNasMessage Ul)
  | clientNgap (client : Comp) (msg : NgapPdu)
  | unit (msg : NgapPdu)
  | rx (msg : NgapPdu)
  | sctpEvent
  | register (amfId : AmfUeNgapId) (ranId : RanUeNgapId) (vcConn : Comp)
  | registerProc (procedureCode : Nat) (vcConn : Comp)
  | obtainAmfId (client : Comp)
  | obtainNus (client : Comp) (ranId : RanUeNgapId)
  | setNus (client : Comp) (ranId : RanUeNgapId) (nus : NgNasUeState)
      (createNonexist : Bool)

/-- What is sent, and what a call returns. -/
inductive Output (Comp Dl : Type) where
  | ngap (msg : NgapPdu)
  | clientNgap (client : Comp) (msg : NgapPdu)
  | clientNas (client : Comp) (dlNas : NgNasMessage Dl)
  | registered (client : Comp)
  | amfId (client : Comp) (amfId : AmfUeNgapId)
  | nus (client : Comp) (nus : NgNasUeState)
  | nusSet (client : Comp)

-- ── The association table ────────────────────────────────────────────────────

section Table

variable {Comp : Type} (t : NGapAssociationTable Comp)
variable (amfId : Option AmfUeNgapId) (ranId : Option RanUeNgapId)

/-- Whether the loop of `f_ngap_ids_known` ends with true at the entry. -/
def idsKnownAt (a : AssociationData Comp) : Bool :=
  if a.amfUeNgapId = none ∧ a.ranUeNgapId = none then
    -- skip empty records
    false
  else if a.amfUeNgapId = none then
    -- the AMF side ID is not known yet: only based on the RAN side ID
    decide (a.ranUeNgapId = ranId)
  else decide (a.ranUeNgapId = ranId) && decide (a.amfUeNgapId = amfId)

/-- The entry that the loop ends at. -/
def knownEntry : Option (Fin 256) := find t (idsKnownAt amfId ranId)

/-- `f_ngap_ids_known`, which updates the table with the AMF side ID. -/
def fNgapIdsKnown : Except Fault (Bool × NGapAssociationTable Comp) :=
  (knownEntry t amfId ranId).elim (.ok (false, t)) (fun i =>
    if (t i).amfUeNgapId = none then
      (bound amfId).map (fun amf =>
        (true, Function.update t i { t i with amfUeNgapId := some amf }))
    else .ok (true, t))

/-- Whether the loop of `f_assoc_id_by_ngap_ids` ends at the entry. -/
def assocIdAt (a : AssociationData Comp) : Bool :=
  (ranId.isNone || (a.ranUeNgapId.isSome && decide (a.ranUeNgapId = ranId)))
    && (amfId.isNone || (a.amfUeNgapId.isSome && decide (a.amfUeNgapId = amfId)))

/-- `f_assoc_id_by_ngap_ids` -/
def fAssocIdByNgapIds : Except Fault (Fin 256) :=
  if ranId.isNone && amfId.isNone then
    .error (.shutdown "Unexpected call f_assoc_id_by_ngap_ids(omit, omit)")
  else orShutdown (find t (assocIdAt amfId ranId))
    "NGAP Association Table not found by RAN-ID="

/-- The entry of a component, with a RAN id if one is given. -/
def compEntry [DecidableEq Comp] (client : Comp) : Option (Fin 256) :=
  find t (fun a => decide (a.compRef = some client)
    && (ranId.isNone || decide (a.ranUeNgapId = ranId)))

/-- `f_assoc_id_by_comp` with fail_notfound. -/
def fAssocIdByComp [DecidableEq Comp] (client : Comp) : Except Fault (Fin 256) :=
  orShutdown (compEntry t ranId client) "NGAP Association Table not found by component "

/-- The slot that a new association takes. -/
def freeSlot : Option (Fin 256) :=
  find t (fun a => a.ranUeNgapId.isNone && a.amfUeNgapId.isNone)

/-- `f_ngap_id_table_add`; the other fields of the slot are left as they are. -/
def fNgapIdTableAdd (compRef : Comp) : Except Fault (Fin 256 × NGapAssociationTable Comp) :=
  (orShutdown (freeSlot t) "NGAP Association Table full!").map
    (fun i => (i, Function.update t i
      { t i with
        ranUeNgapId := ranId
        amfUeNgapId := amfId
        compRef := some compRef }))

/-- `f_ngap_id_table_del`; here as well. -/
def fNgapIdTableDel [DecidableEq Comp] (compRef : Option Comp) (ran : RanUeNgapId) :
    Except Fault (NGapAssociationTable Comp) :=
  (orShutdown
    (find t (fun a => decide (a.compRef = compRef ∧ a.ranUeNgapId = some ran)))
    "NGAP Association Table: Couldn't find to-be-deleted entry!").map
    (fun i => Function.update t i
      { t i with
        ranUeNgapId := none
        amfUeNgapId := none
        compRef := none })

/-- `handle_NGAP_UeContextReleaseCmd` -/
def handleUeContextReleaseCmd [DecidableEq Comp] (relCmd : NgapPdu) :
    Except Fault (NGapAssociationTable Comp) :=
  match relCmd.protocolIEs.head?.bind (fun e => e.value.amfOfPair?),
    relCmd.protocolIEs.head?.bind (fun e => e.value.ranOfPair?) with
  | some amf, some ran =>
      (fAssocIdByNgapIds t (some amf) (some ran)).bind
        (fun assocId => fNgapIdTableDel t (t assocId).compRef ran)
  | _, _ => .error (.shutdown "complete implementation of UeContextReleaseCmd handling")

/-- The association that a message of the peer is for, if its ids are known. -/
def rxAssoc : Except Fault (Option (Fin 256) × NGapAssociationTable Comp) :=
  (fNgapIdsKnown t amfId ranId).bind (fun known =>
    if known.1 then
      (fAssocIdByNgapIds known.2 amfId ranId).map (fun i => (some i, known.2))
    else .ok (none, known.2))

end Table

/-- `f_ngap_id_table_init` -/
def fNgapIdTableInit {Comp : Type} (role : NgNasRole) : NGapAssociationTable Comp := fun _ =>
  { compRef := none, ranUeNgapId := none, amfUeNgapId := none, uli := none
    nus := tNgNasUeState role }

/-- `f_expect_table_init` -/
def fExpectTableInit {Comp : Type} : NGapExpectTable Comp := fun _ =>
  { amfId := none, ranId := none, vcConn := none }

/-- The same for the expectations by procedure. -/
def fExpectTableProcInit {Comp : Type} : NGapExpectTableProc Comp := fun _ =>
  { procedureCode := none, vcConn := none }

/-- The tables at the start. -/
def init {Comp : Type} (role : NgNasRole) : Emulation Comp :=
  { table := fNgapIdTableInit role, expect := fExpectTableInit
    expectProc := fExpectTableProcInit }

-- ── Expects ──────────────────────────────────────────────────────────────────

section Expect

variable {Comp : Type}

/-- An expectation without an id. -/
def ExpectData.isEmpty (e : ExpectData Comp) : Bool := e.amfId.isNone && e.ranId.isNone

/-- Whether the loop of `ExpectedCreateCallback` ends at the entry: `valueof` of
    an id that is compared must not be omit. -/
def expectAt (amfId : Option AmfUeNgapId) (ranId : Option RanUeNgapId)
    (e : ExpectData Comp) : Bool :=
  !e.isEmpty && (amfId.isNone
    || decide (amfId = e.amfId) && (ranId.isNone || decide (ranId = e.ranId)))

/-- The components that expect the procedure code of a message. -/
def expectProcConns (expectProc : NGapExpectTableProc Comp) (msg : NgapPdu) : List Comp :=
  (List.finRange 256).filterMap (fun i =>
    if (expectProc i).procedureCode = some msg.procedureCode then (expectProc i).vcConn
    else none)

/-- Function that can be used as create_cb and will use the expect table, and
    after it the message type. -/
def expectedCreateCallback (expect : NGapExpectTable Comp)
    (expectProc : NGapExpectTableProc Comp) (msg : NgapPdu) (amfId : Option AmfUeNgapId)
    (ranId : Option RanUeNgapId) : Except Fault (Comp × NGapExpectTable Comp) :=
  (find expect (expectAt amfId ranId)).elim
    ((orShutdown (expectProcConns expectProc msg).head? "Couldn't find Expect for ").map
      (fun vcConn => (vcConn, expect)))
    (fun i => (bound amfId).bind (fun _ => (bound ranId).bind (fun _ =>
      (bound (expect i).vcConn).map (fun vcConn => (vcConn,
        Function.update expect i { amfId := none, ranId := none, vcConn := none })))))

/-- `f_create_expect` -/
def fCreateExpect (expect : NGapExpectTable Comp) (amfId : AmfUeNgapId)
    (ranId : RanUeNgapId) (hdlr : Comp) : Except Fault (NGapExpectTable Comp) :=
  if (find expect (expectAt (some amfId) (some ranId))).isSome then
    .error (.shutdown "UE AMF id / UE RAN id pair already present")
  else (orShutdown (find expect ExpectData.isEmpty) "No space left in NGapExpectTable").map
    (fun i => Function.update expect i
      { amfId := some amfId, ranId := some ranId, vcConn := some hdlr })

/-- `f_create_expect_proc` -/
def fCreateExpectProc (expectProc : NGapExpectTableProc Comp) (procedureCode : Nat)
    (hdlr : Comp) : Except Fault (NGapExpectTableProc Comp) :=
  if (find expectProc (fun e =>
      e.vcConn.isSome && decide (e.procedureCode = some procedureCode))).isSome then
    .error (.shutdown "procedureCode ")
  else (orShutdown (find expectProc (fun e => e.vcConn.isNone))
    "No space left in NGapExpectTableProc").map
    (fun i => Function.update expectProc i
      { procedureCode := some procedureCode, vcConn := some hdlr })

end Expect

-- ── The loop of the component ────────────────────────────────────────────────

/-- What a configuration primitive does to the NAS state. -/
def NgapemConfig.apply (nus : NgNasUeState) : NgapemConfig → NgNasUeState
  | .setNasKeys kNasInt kNasEnc => { nus with kNasInt := kNasInt, kNasEnc := kNasEnc }
  | .resetNasCounts => { nus with rxCount := 0, txCount := 0 }
  -- mark as used even with NIA0 and NEA0
  | .setNasAlgInt alg => { nus with algInt := alg, useInt := true }
  | .setNasAlgEnc alg => { nus with algEnc := alg, useEnc := true }

section Fields

variable {Comp : Type} (t : NGapAssociationTable Comp) (i : Fin 256)

/-- The NAS state of an association is written. -/
def setNus (nus : NgNasUeState) : NGapAssociationTable Comp :=
  Function.update t i { t i with nus := nus }

/-- The location of an association is written. -/
def setUli (uli : UserLocationInformation) : NGapAssociationTable Comp :=
  Function.update t i { t i with uli := some uli }

/-- The RAN id of an association is written. -/
def setRan (ran : RanUeNgapId) : NGapAssociationTable Comp :=
  Function.update t i { t i with ranUeNgapId := some ran }

/-- The AMF id of an association is deleted. -/
def clearAmf : NGapAssociationTable Comp :=
  Function.update t i { t i with amfUeNgapId := none }

end Fields

/-- `valueof` of an id that is got from a message. -/
def valueof {α : Type} (got : Except Fault (Option α)) : Except Fault α :=
  got.bind bound

section Main

variable {Comp Ul Dl : Type} (p : Params Comp Ul Dl) (s : Emulation Comp)

/-- The NAS PDU of a message, decoded, and decapsulated if it is protected. -/
def rxNas (nus : NgNasUeState) (nasEnc : List UInt8) :
    Except Fault (NgNasUeState × NgNasMessage Dl) :=
  (p.env.decDl nasEnc).bind (fun dlNas =>
    match dlNas with
    | .plain _ => .ok (nus, dlNas)
    | .securityProtected _ => fNgNasTryDecapsDl p.env nus dlNas)

/-- Dispatch to the component of an association.  The AMF role decodes the NAS
    PDU and sends nothing. -/
def rxDispatch (t : NGapAssociationTable Comp) (assocId : Fin 256) (msg : NgapPdu) :
    Except Fault (NGapAssociationTable Comp × List (Output Comp Dl)) :=
  (bound (t assocId).compRef).bind (fun vcConn =>
    match fNgapGetNasPdu msg with
    | none => .ok (t, [.clientNgap vcConn msg])
    | some nasEnc =>
        if p.role = .ue then
          (rxNas p (t assocId).nus nasEnc).map (fun r =>
            (setNus t assocId r.1,
              (if isDownlinkNASTransport msg then [] else [.clientNgap vcConn msg])
                ++ [.clientNas vcConn r.2]))
        else (p.decUl nasEnc).map (fun _ => (t, [])))

/-- A new association for a message whose ids are not known. -/
def rxCreate (msg : NgapPdu) (amfId : Option AmfUeNgapId) (ranId : Option RanUeNgapId) :
    Except Fault (Emulation Comp × List (Output Comp Dl)) :=
  (p.createCb s.expect s.expectProc msg amfId ranId).bind (fun cb =>
    (fNgapIdTableAdd s.table amfId ranId cb.1).map (fun added =>
      ({ s with
          table := added.2
          expect := cb.2 },
        [.clientNgap cb.1 msg])))

/-- A UE-related message of the peer, up to the release. -/
def rxUe (msg : NgapPdu) : Except Fault (Emulation Comp × List (Output Comp Dl)) :=
  (fNgapGetAmfUeNgapId msg).bind (fun amfId =>
    (fNgapGetRanUeNgapId msg).bind (fun ranId =>
      (rxAssoc s.table amfId ranId).bind (fun r =>
        match r.1 with
        | some assocId =>
            (rxDispatch p r.2 assocId msg).map (fun d => ({ s with table := d.1 }, d.2))
        | none => rxCreate p { s with table := r.2 } msg amfId ranId)))

end Main

section Loop

variable {Comp Ul Dl : Type} [DecidableEq Comp] (p : Params Comp Ul Dl)
variable (s : Emulation Comp)

/-- The release, if the message is one. -/
def rxRelease (msg : NgapPdu) (r : Emulation Comp × List (Output Comp Dl)) :
    Except Fault (Emulation Comp × List (Output Comp Dl)) :=
  if mwN2UEContextReleaseCommand.accepts msg then
    (handleUeContextReleaseCmd r.1.table msg).map (fun t => ({ r.1 with table := t }, r.2))
  else .ok r

/-- The entry of a component, or a new one if there is none. -/
def entryOrAdd (client : Comp) (ran : RanUeNgapId) :
    Except Fault (Fin 256 × NGapAssociationTable Comp) :=
  (compEntry s.table (some ran) client).elim (fNgapIdTableAdd s.table none (some ran) client)
    (fun i => .ok (i, s.table))

/-- The table of an InitialUE from a client. -/
def initialUeTable (client : Comp) (msg : NgapPdu) :
    Except Fault (NGapAssociationTable Comp) :=
  (valueof (fNgapGetRanUeNgapId msg)).bind (fun ran =>
    ((compEntry s.table (some ran) client).elim
        (fNgapIdTableAdd s.table none (some ran) client)
        (fun i => .ok (i, clearAmf s.table i))).bind (fun r =>
      (bound (uliAt2 msg.protocolIEs)).map (fun uli => setUli r.2 r.1 uli)))

omit [DecidableEq Comp] in
/-- The table of a PathSwitchRequest from a client. -/
def pathSwitchTable (client : Comp) (msg : NgapPdu) :
    Except Fault (NGapAssociationTable Comp) :=
  (valueof (fNgapGetRanUeNgapId msg)).bind (fun ran =>
    (fNgapIdTableAdd s.table none (some ran) client).bind (fun r =>
      (bound (uliAt2 msg.protocolIEs)).map (fun uli => setUli r.2 r.1 uli)))

omit [DecidableEq Comp] in
/-- The table of a HandoverRequestAcknowledge from a client. -/
def handoverRequestAcknowledgeTable (msg : NgapPdu) :
    Except Fault (NGapAssociationTable Comp) :=
  (valueof (fNgapGetAmfUeNgapId msg)).bind (fun amf =>
    (fAssocIdByNgapIds s.table (some amf) none).bind (fun i =>
      (valueof (fNgapGetRanUeNgapId msg)).map (fun ran => setRan s.table i ran)))

omit [DecidableEq Comp] in
/-- The table of a HandoverNotify from a client. -/
def handoverNotifyTable (msg : NgapPdu) : Except Fault (NGapAssociationTable Comp) :=
  (valueof (fNgapGetAmfUeNgapId msg)).bind (fun amf =>
    (valueof (fNgapGetRanUeNgapId msg)).bind (fun ran =>
      (fAssocIdByNgapIds s.table (some amf) (some ran)).bind (fun i =>
        (bound (uliAt2 msg.protocolIEs)).map (fun uli => setUli s.table i uli))))

/-- What a message of a client does to the table; all of them are passed through. -/
def clientNgapTable (client : Comp) (msg : NgapPdu) :
    Except Fault (NGapAssociationTable Comp) :=
  if mwN2InitialUeMessage.accepts msg then initialUeTable s client msg
  else if mwN2PathSwitchRequest.accepts msg then pathSwitchTable s client msg
  else if mwN2HandoverRequestAcknowledge.accepts msg then
    handoverRequestAcknowledgeTable s msg
  else if mwN2HandoverNotify.accepts msg then handoverNotifyTable s msg
  else .ok s.table

/-- NAS from a client, wrapped in an Uplink NAS Transport. -/
def clientNas (client : Comp) (ulNas : NgNasMessage Ul) :
    Except Fault (Emulation Comp × List (Output Comp Dl)) :=
  (fAssocIdByComp s.table none client).bind (fun assocId =>
    (fNgNasEncapsUl p.env (s.table assocId).nus ulNas).bind (fun r =>
      (bound (s.table assocId).amfUeNgapId).bind (fun amf =>
        (bound (s.table assocId).ranUeNgapId).bind (fun ran =>
          (bound (s.table assocId).uli).map (fun uli =>
            ({ s with table := setNus s.table assocId r.1 },
              [.ngap (mN2UplinkNASTransport amf ran (p.env.encUl r.2) uli)]))))))

/-- The table of NGAPEM_set_nus. -/
def setNusTable (client : Comp) (ranId : RanUeNgapId) (nus : NgNasUeState)
    (createNonexist : Bool) : Except Fault (NGapAssociationTable Comp) :=
  (if createNonexist then entryOrAdd s client ranId
    else (fAssocIdByComp s.table (some ranId) client).map (fun i => (i, s.table))).map
    (fun r => setNus r.2 r.1 nus)

/-- One round of the loop of `main`. -/
def mainStep : Input Comp Ul → Except Fault (Emulation Comp × List (Output Comp Dl))
  | .config client ngcfg =>
      (fAssocIdByComp s.table none client).map (fun assocId =>
        ({ s with table := setNus s.table assocId (ngcfg.apply (s.table assocId).nus) }, []))
  | .clientNas client ulNas => clientNas p s client ulNas
  | .clientNgap client msg =>
      (clientNgapTable s client msg).map (fun t => ({ s with table := t }, [.ngap msg]))
  | .unit msg => .ok (s, [.ngap msg])
  | .rx msg =>
      if nonUErelated msg then
        .ok (s, (expectProcConns s.expectProc msg).map (fun c => .clientNgap c msg)
          ++ ((p.unitdataCb msg).map (fun resp => .ngap resp)).toList)
      else (rxUe p s msg).bind (rxRelease msg)
  | .sctpEvent => .ok (s, [])
  | .register amfId ranId vcConn =>
      (fCreateExpect s.expect amfId ranId vcConn).map
        (fun expect => ({ s with expect := expect }, [.registered vcConn]))
  | .registerProc procedureCode vcConn =>
      (fCreateExpectProc s.expectProc procedureCode vcConn).map
        (fun expectProc => ({ s with expectProc := expectProc }, [.registered vcConn]))
  | .obtainAmfId client =>
      (fAssocIdByComp s.table none client).bind (fun i =>
        (bound (s.table i).amfUeNgapId).map (fun amf => (s, [.amfId client amf])))
  | .obtainNus client ranId =>
      (fAssocIdByComp s.table (some ranId) client).map
        (fun i => (s, [.nus client (s.table i).nus]))
  | .setNus client ranId nus createNonexist =>
      (setNusTable s client ranId nus createNonexist).map
        (fun t => ({ s with table := t }, [.nusSet client]))

end Loop

-- ── What the functions do to the table ───────────────────────────────────────

/-- An association has a component. -/
def Owned {Comp : Type} (t : NGapAssociationTable Comp) : Prop :=
  ∀ i, (t i).ranUeNgapId ≠ none ∨ (t i).amfUeNgapId ≠ none → (t i).compRef ≠ none

/-- What the association of a slot gets: it makes use of the NAS security state,
    or it has a location. -/
inductive Trace where
  | nas (k : Fin 256)
  | location (k : Fin 256)
  deriving DecidableEq

section Traces

variable {Comp Ul Dl : Type} (p : Params Comp Ul Dl) (t : NGapAssociationTable Comp)

/-- Whether a message has a NAS PDU that is protected, for the UE role. -/
def hasProtectedNas (msg : NgapPdu) : Bool :=
  match fNgapGetNasPdu msg with
  | none => false
  | some nasEnc =>
      match p.env.decDl nasEnc with
      | .ok (.securityProtected _) => decide (p.role = .ue)
      | _ => false

/-- The slot of the association that a message of the peer is for. -/
def rxSlot (msg : NgapPdu) : Option (Fin 256) :=
  (fNgapGetAmfUeNgapId msg).toOption.bind (fun amfId =>
    (fNgapGetRanUeNgapId msg).toOption.bind (fun ranId =>
      (rxAssoc t amfId ranId).toOption.bind Prod.fst))

variable [DecidableEq Comp]

/-- The slot that gets the location in a message of a client. -/
def locationSlot (client : Comp) (msg : NgapPdu) : Option (Fin 256) :=
  if mwN2InitialUeMessage.accepts msg then
    match fNgapGetRanUeNgapId msg with
    | .ok (some ran) => (compEntry t (some ran) client).or (freeSlot t)
    | _ => none
  else if mwN2PathSwitchRequest.accepts msg then freeSlot t
  else if mwN2HandoverRequestAcknowledge.accepts msg then none
  else if mwN2HandoverNotify.accepts msg then
    match fNgapGetAmfUeNgapId msg, fNgapGetRanUeNgapId msg with
    | .ok (some amf), .ok (some ran) => find t (assocIdAt (some amf) (some ran))
    | _, _ => none
  else none

/-- What an input leaves in the slots. -/
def traces : Input Comp Ul → List Trace
  | .config client _ => (compEntry t none client).toList.map .nas
  | .clientNas client _ => (compEntry t none client).toList.map .nas
  | .setNus client ranId _ _ =>
      ((compEntry t (some ranId) client).or (freeSlot t)).toList.map .nas
  | .clientNgap client msg => (locationSlot t client msg).toList.map .location
  | .rx msg => if hasProtectedNas p msg then (rxSlot t msg).toList.map .nas else []
  | _ => []

end Traces

section Changes

variable {Comp : Type}

/-- One change of the table by an input that leaves these traces. -/
inductive Change (left : List Trace) (t : NGapAssociationTable Comp) :
    NGapAssociationTable Comp → Prop
  | fill (k : Fin 256) (amf : AmfUeNgapId)
      (hassoc : (t k).ranUeNgapId ≠ none ∨ (t k).amfUeNgapId ≠ none) :
      Change left t (Function.update t k { t k with amfUeNgapId := some amf })
  | nas (k : Fin 256) (nus : NgNasUeState) (hleft : .nas k ∈ left) :
      Change left t (setNus t k nus)
  | add (k : Fin 256) (client : Comp) (amfId : Option AmfUeNgapId)
      (ranId : Option RanUeNgapId) :
      Change left t (Function.update t k
        { t k with
          ranUeNgapId := ranId
          amfUeNgapId := amfId
          compRef := some client })
  | locate (k : Fin 256) (uli : UserLocationInformation) (hleft : .location k ∈ left) :
      Change left t (setUli t k uli)
  | ran (k : Fin 256) (ran : RanUeNgapId) (hassoc : (t k).amfUeNgapId ≠ none) :
      Change left t (setRan t k ran)
  | clear (k : Fin 256) : Change left t (clearAmf t k)
  | del (k : Fin 256) :
      Change left t (Function.update t k
        { t k with
          ranUeNgapId := none
          amfUeNgapId := none
          compRef := none })

/-- What an input may do to the table. -/
abbrev Changes (left : List Trace) :
    NGapAssociationTable Comp → NGapAssociationTable Comp → Prop :=
  Relation.ReflTransGen (Change left)

variable {left : List Trace} {t t' : NGapAssociationTable Comp} {k : Fin 256}

/-- A change leaves owners where they are. -/
theorem Owned.change (h : Owned t) (hchange : Change left t t') : Owned t' := by
  have hupdate : ∀ {i : Fin 256} {a : AssociationData Comp},
      (a.ranUeNgapId ≠ none ∨ a.amfUeNgapId ≠ none → a.compRef ≠ none) →
        Owned (Function.update t i a) :=
    fun ha => (Function.forall_update_iff t (fun _ a =>
      a.ranUeNgapId ≠ none ∨ a.amfUeNgapId ≠ none → a.compRef ≠ none)).mpr ⟨ha, fun j _ => h j⟩
  cases hchange with
  | fill k amf hassoc => exact hupdate (fun _ => h k hassoc)
  | nas k nus hleft => exact hupdate (h k)
  | add k client amfId ranId => exact hupdate (fun _ => Option.some_ne_none client)
  | locate k uli hleft => exact hupdate (h k)
  | ran k ran hassoc => exact hupdate (fun _ => h k (Or.inr hassoc))
  | clear k =>
      refine hupdate (fun hids => h k (hids.imp_right ?_))
      exact fun hnone => absurd rfl hnone
  | del k => exact hupdate (fun hids => hids.elim (absurd rfl) (absurd rfl))

/-- A slot without a trace keeps its NAS state. -/
theorem Change.nas_same (hchange : Change left t t') (hk : .nas k ∉ left) :
    (t' k).nus = (t k).nus := by
  cases hchange with
  | fill i amf hassoc => exact update_field AssociationData.nus k
  | nas i nus hleft =>
      rw [setNus, Function.update_of_ne]
      rintro rfl
      exact hk hleft
  | add i client amfId ranId => exact update_field AssociationData.nus k
  | locate i uli hleft => exact update_field AssociationData.nus k
  | ran i ran hassoc => exact update_field AssociationData.nus k
  | clear i => exact update_field AssociationData.nus k
  | del i => exact update_field AssociationData.nus k

/-- And its location. -/
theorem Change.location_same (hchange : Change left t t') (hk : .location k ∉ left) :
    (t' k).uli = (t k).uli := by
  cases hchange with
  | fill i amf hassoc => exact update_field AssociationData.uli k
  | nas i nus hleft => exact update_field AssociationData.uli k
  | add i client amfId ranId => exact update_field AssociationData.uli k
  | locate i uli hleft =>
      rw [setUli, Function.update_of_ne]
      rintro rfl
      exact hk hleft
  | ran i ran hassoc => exact update_field AssociationData.uli k
  | clear i => exact update_field AssociationData.uli k
  | del i => exact update_field AssociationData.uli k

/-- What every change keeps, an input keeps. -/
theorem Changes.keep {P : NGapAssociationTable Comp → Prop}
    (hkeep : ∀ {t t'}, P t → Change left t t' → P t') (h : P t)
    (hchanges : Changes left t t') : P t' := by
  induction hchanges with
  | refl => exact h
  | tail _ hchange ih => exact hkeep ih hchange

/-- What is not named keeps its NAS state. -/
theorem Changes.nas_same (hchanges : Changes left t t') (hk : .nas k ∉ left) :
    (t' k).nus = (t k).nus :=
  hchanges.keep (P := fun t'' => (t'' k).nus = (t k).nus)
    (fun h hchange => (hchange.nas_same hk).trans h) rfl

/-- What is not named keeps its location. -/
theorem Changes.location_same (hchanges : Changes left t t') (hk : .location k ∉ left) :
    (t' k).uli = (t k).uli :=
  hchanges.keep (P := fun t'' => (t'' k).uli = (t k).uli)
    (fun h hchange => (hchange.location_same hk).trans h) rfl

end Changes

section Functions

variable {Comp : Type} {left : List Trace} {t t' : NGapAssociationTable Comp}
variable {amfId : Option AmfUeNgapId} {ranId : Option RanUeNgapId} {client : Comp}

/-- At the start nothing is owned. -/
theorem owned_init (role : NgNasRole) :
    Owned (fNgapIdTableInit role : NGapAssociationTable Comp) :=
  fun _ hids => hids.elim (absurd rfl) (absurd rfl)

/-- The test of the ids fills in an AMF id, or does nothing. -/
theorem fNgapIdsKnown_ok {known : Bool}
    (hok : fNgapIdsKnown t amfId ranId = .ok (known, t')) :
    t' = t ∨ ∃ k amf, ((t k).ranUeNgapId ≠ none ∨ (t k).amfUeNgapId ≠ none)
      ∧ t' = Function.update t k { t k with amfUeNgapId := some amf } := by
  rw [fNgapIdsKnown] at hok
  cases hfind : knownEntry t amfId ranId with
  | none =>
      rw [hfind, Option.elim_none] at hok
      obtain ⟨-, rfl⟩ := Prod.mk.inj (Except.ok.inj hok)
      exact Or.inl rfl
  | some k =>
      rw [hfind, Option.elim_some] at hok
      by_cases hnone : (t k).amfUeNgapId = none
      · rw [if_pos hnone] at hok
        obtain ⟨amf, -, hupdate⟩ := map_ok hok
        obtain ⟨-, rfl⟩ := Prod.mk.inj hupdate
        refine Or.inr ⟨k, amf, Or.inl (fun hran => ?_), rfl⟩
        -- the entry is not empty
        have haccepts := find_accepts hfind
        rw [idsKnownAt, if_pos ⟨hnone, hran⟩] at haccepts
        exact nomatch haccepts
      · rw [if_neg hnone] at hok
        obtain ⟨-, rfl⟩ := Prod.mk.inj (Except.ok.inj hok)
        exact Or.inl rfl

/-- Looking ids up may add one to an association. -/
theorem fNgapIdsKnown_changes {known : Bool}
    (hok : fNgapIdsKnown t amfId ranId = .ok (known, t')) : Changes left t t' := by
  rcases fNgapIdsKnown_ok hok with rfl | ⟨k, amf, hassoc, rfl⟩
  · exact .refl
  · exact .single (.fill k amf hassoc)

/-- A new association takes the first free entry. -/
theorem fNgapIdTableAdd_ok {added : Fin 256 × NGapAssociationTable Comp}
    (h : fNgapIdTableAdd t amfId ranId client = .ok added) :
    freeSlot t = some added.1 ∧ added.2 = Function.update t added.1
      { t added.1 with
        ranUeNgapId := ranId
        amfUeNgapId := amfId
        compRef := some client } := by
  rw [fNgapIdTableAdd] at h
  obtain ⟨k, hfree, rfl⟩ := map_ok h
  exact ⟨orShutdown_eq_ok.mp hfree, rfl⟩

/-- What adds an association changes the table. -/
theorem fNgapIdTableAdd_changes {added : Fin 256 × NGapAssociationTable Comp}
    (h : fNgapIdTableAdd t amfId ranId client = .ok added) : Changes left t added.2 := by
  rw [(fNgapIdTableAdd_ok h).2]
  exact .single (.add added.1 client amfId ranId)

/-- The association that is dispatched to, and the table after the test. -/
theorem rxAssoc_ok {assoc : Option (Fin 256)}
    (hok : rxAssoc t amfId ranId = .ok (assoc, t')) :
    ∃ known, fNgapIdsKnown t amfId ranId = .ok (known, t')
      ∧ ∀ i, assoc = some i → fAssocIdByNgapIds t' amfId ranId = .ok i := by
  rw [rxAssoc] at hok
  obtain ⟨⟨known, t1⟩, hknown, hok⟩ := bind_ok hok
  cases known with
  | false =>
      obtain ⟨rfl, rfl⟩ := Prod.mk.inj (Except.ok.inj hok)
      exact ⟨false, hknown, fun i hi => nomatch hi⟩
  | true =>
      obtain ⟨k, hlook, hr⟩ := map_ok hok
      obtain ⟨rfl, rfl⟩ := Prod.mk.inj hr
      refine ⟨true, hknown, fun i hi => ?_⟩
      rw [← Option.some.inj hi]
      exact hlook

/-- Ids that nobody has address nobody. -/
theorem rxAssoc_unknown (h : knownEntry t amfId ranId = none) :
    rxAssoc t amfId ranId = .ok (none, t) := by
  rw [rxAssoc, fNgapIdsKnown, h]
  rfl

/-- An association that is looked up with an id has this id. -/
theorem fAssocIdByNgapIds_ids {i : Fin 256}
    (h : fAssocIdByNgapIds t amfId ranId = .ok i) :
    (ranId = none ∨ (t i).ranUeNgapId = ranId)
      ∧ (amfId = none ∨ (t i).amfUeNgapId = amfId) := by
  rw [fAssocIdByNgapIds] at h
  split at h
  · exact nomatch h
  · have haccepts := find_accepts (orShutdown_eq_ok.mp h)
    simp only [assocIdAt, Bool.and_eq_true, Bool.or_eq_true, Option.isNone_iff_eq_none,
      decide_eq_true_eq] at haccepts
    exact ⟨haccepts.1.imp_right And.right, haccepts.2.imp_right And.right⟩

variable [DecidableEq Comp]

/-- A release takes the ids away from one association. -/
theorem handleUeContextReleaseCmd_ok {msg : NgapPdu}
    (hok : handleUeContextReleaseCmd t msg = .ok t') :
    ∃ k, t' = Function.update t k
      { t k with
        ranUeNgapId := none
        amfUeNgapId := none
        compRef := none } := by
  rw [handleUeContextReleaseCmd] at hok
  cases hamf : msg.protocolIEs.head?.bind (fun e => e.value.amfOfPair?) with
  | none =>
      simp only [hamf] at hok
      exact nomatch hok
  | some amf =>
      cases hran : msg.protocolIEs.head?.bind (fun e => e.value.ranOfPair?) with
      | none =>
          simp only [hamf, hran] at hok
          exact nomatch hok
      | some ran =>
          simp only [hamf, hran] at hok
          obtain ⟨assocId, -, hdel⟩ := bind_ok hok
          rw [fNgapIdTableDel] at hdel
          obtain ⟨k, -, rfl⟩ := map_ok hdel
          exact ⟨k, rfl⟩

end Functions

-- ── Steps ────────────────────────────────────────────────────────────────────

section Steps

variable {Comp Ul Dl : Type} {p : Params Comp Ul Dl} {s s' : Emulation Comp}
variable {t t' : NGapAssociationTable Comp} {msg : NgapPdu} {os : List (Output Comp Dl)}
variable {amfId : Option AmfUeNgapId} {ranId : Option RanUeNgapId} {client : Comp}
variable {left : List Trace}

/-- A NAS PDU that is not protected leaves the NAS state. -/
theorem rxDispatch_ok {assocId : Fin 256}
    (hok : rxDispatch p t assocId msg = .ok (t', os)) :
    t' = t ∨ hasProtectedNas p msg = true ∧ ∃ nus, t' = setNus t assocId nus := by
  rw [rxDispatch] at hok
  obtain ⟨vcConn, -, hok⟩ := bind_ok hok
  cases hnas : fNgapGetNasPdu msg with
  | none =>
      simp only [hnas] at hok
      obtain ⟨rfl, -⟩ := Prod.mk.inj (Except.ok.inj hok)
      exact Or.inl rfl
  | some nasEnc =>
      simp only [hnas] at hok
      by_cases hrole : p.role = .ue
      · rw [if_pos hrole] at hok
        obtain ⟨r, hnas', hr⟩ := map_ok hok
        obtain ⟨rfl, -⟩ := Prod.mk.inj hr
        rw [rxNas] at hnas'
        obtain ⟨dlNas, hdec, hnas'⟩ := bind_ok hnas'
        cases dlNas with
        | plain nas =>
            rw [← Except.ok.inj hnas']
            exact Or.inl (Function.update_eq_self assocId t)
        | securityProtected secpNas =>
            refine Or.inr ⟨?_, r.1, rfl⟩
            rw [hasProtectedNas, hnas]
            simp only [hdec]
            exact decide_eq_true hrole
      · rw [if_neg hrole] at hok
        obtain ⟨ulNas, -, hr⟩ := map_ok hok
        obtain ⟨rfl, -⟩ := Prod.mk.inj hr
        exact Or.inl rfl

/-- Whom a message of the peer addresses. -/
theorem rxSlot_eq (hamf : fNgapGetAmfUeNgapId msg = .ok amfId)
    (hran : fNgapGetRanUeNgapId msg = .ok ranId) :
    rxSlot t msg = (rxAssoc t amfId ranId).toOption.bind Prod.fst := by
  rw [rxSlot, hamf, hran, Except.toOption, Except.toOption, Option.bind_some,
    Option.bind_some]

/-- A message whose ids are not known. -/
theorem rxCreate_ok (hok : rxCreate p s msg amfId ranId = .ok (s', os)) :
    ∃ client added, fNgapIdTableAdd s.table amfId ranId client = .ok added
      ∧ s'.table = added.2 := by
  rw [rxCreate] at hok
  obtain ⟨cb, -, hok⟩ := bind_ok hok
  obtain ⟨added, hadded, hr⟩ := map_ok hok
  obtain ⟨rfl, -⟩ := Prod.mk.inj hr
  exact ⟨cb.1, added, hadded, rfl⟩

/-- A message about a UE changes that UE's association only. -/
theorem rxUe_changes
    (hleft : hasProtectedNas p msg = true → ∀ k, rxSlot s.table msg = some k →
      .nas k ∈ left)
    (hok : rxUe p s msg = .ok (s', os)) : Changes left s.table s'.table := by
  rw [rxUe] at hok
  obtain ⟨amfId, hamf, hok⟩ := bind_ok hok
  obtain ⟨ranId, hran, hok⟩ := bind_ok hok
  obtain ⟨⟨assoc, t1⟩, hassoc, hok⟩ := bind_ok hok
  obtain ⟨known, hknown, -⟩ := rxAssoc_ok hassoc
  have htest : Changes left s.table t1 := fNgapIdsKnown_changes hknown
  cases assoc with
  | some assocId =>
      obtain ⟨⟨t2, os2⟩, hdispatch, hr⟩ := map_ok hok
      obtain ⟨rfl, -⟩ := Prod.mk.inj hr
      rcases rxDispatch_ok hdispatch with rfl | ⟨hprotected, nus, rfl⟩
      · exact htest
      · have hslot : rxSlot s.table msg = some assocId := by
          rw [rxSlot_eq hamf hran, hassoc, Except.toOption, Option.bind_some]
        exact htest.tail (.nas assocId nus (hleft hprotected assocId hslot))
  | none =>
      obtain ⟨client, added, hadded, htable⟩ := rxCreate_ok hok
      rw [htable]
      exact htest.trans (fNgapIdTableAdd_changes hadded)

/-- `valueof` gives what is there. -/
theorem valueof_ok {α : Type} {got : Except Fault (Option α)} {a : α}
    (h : valueof got = .ok a) : got = .ok (some a) := by
  obtain ⟨found, hgot, hbound⟩ := bind_ok h
  rw [hgot, bound_ok hbound]

/-- A PATH SWITCH REQUEST makes an association with a location. -/
theorem pathSwitchTable_ok (hok : pathSwitchTable s client msg = .ok t') :
    ∃ ran added uli, fNgapIdTableAdd s.table none (some ran) client = .ok added
      ∧ uliAt2 msg.protocolIEs = some uli ∧ t' = setUli added.2 added.1 uli := by
  rw [pathSwitchTable] at hok
  obtain ⟨ran, -, hok⟩ := bind_ok hok
  obtain ⟨added, hadded, hok⟩ := bind_ok hok
  obtain ⟨uli, huli, rfl⟩ := map_ok hok
  exact ⟨ran, added, uli, hadded, bound_ok huli, rfl⟩

variable [DecidableEq Comp]

/-- A release changes no NAS state and no location. -/
theorem rxRelease_changes {r : Emulation Comp × List (Output Comp Dl)}
    (hok : rxRelease msg r = .ok (s', os)) : Changes left r.1.table s'.table := by
  rw [rxRelease] at hok
  by_cases hrelease : mwN2UEContextReleaseCommand.accepts msg = true
  · rw [if_pos hrelease] at hok
    obtain ⟨t, ht, hr⟩ := map_ok hok
    obtain ⟨rfl, -⟩ := Prod.mk.inj hr
    obtain ⟨k, rfl⟩ := handleUeContextReleaseCmd_ok ht
    exact .single (.del k)
  · rw [if_neg hrelease] at hok
    obtain ⟨rfl, -⟩ := Prod.mk.inj (Except.ok.inj hok)
    exact .refl

/-- An InitialUE is for the entry of the component, or for a new one. -/
theorem initialUeTable_ok (hok : initialUeTable s client msg = .ok t') :
    ∃ ran uli, fNgapGetRanUeNgapId msg = .ok (some ran)
      ∧ uliAt2 msg.protocolIEs = some uli
      ∧ ((∃ k, compEntry s.table (some ran) client = some k
          ∧ t' = setUli (clearAmf s.table k) k uli)
        ∨ compEntry s.table (some ran) client = none
          ∧ ∃ added, fNgapIdTableAdd s.table none (some ran) client = .ok added
            ∧ t' = setUli added.2 added.1 uli) := by
  rw [initialUeTable] at hok
  obtain ⟨ran, hran, hok⟩ := bind_ok hok
  obtain ⟨r, hentry, hok⟩ := bind_ok hok
  obtain ⟨uli, huli, rfl⟩ := map_ok hok
  refine ⟨ran, uli, valueof_ok hran, bound_ok huli, ?_⟩
  cases hcomp : compEntry s.table (some ran) client with
  | some k =>
      rw [hcomp, Option.elim_some] at hentry
      rw [← Except.ok.inj hentry]
      exact Or.inl ⟨k, rfl, rfl⟩
  | none =>
      rw [hcomp, Option.elim_none] at hentry
      exact Or.inr ⟨rfl, r, hentry, rfl⟩

/-- What a message of a client may do. -/
theorem clientNgapTable_changes
    (hleft : ∀ k, locationSlot s.table client msg = some k → .location k ∈ left)
    (hok : clientNgapTable s client msg = .ok t') : Changes left s.table t' := by
  rw [clientNgapTable] at hok
  rw [locationSlot] at hleft
  by_cases hinitial : mwN2InitialUeMessage.accepts msg = true
  · rw [if_pos hinitial] at hok hleft
    obtain ⟨ran, uli, hran, -, hentry⟩ := initialUeTable_ok hok
    rw [hran] at hleft
    rcases hentry with ⟨k, hk, rfl⟩ | ⟨hnone, added, hadded, rfl⟩
    · refine Relation.ReflTransGen.tail (.single (.clear k)) (.locate k uli (hleft k ?_))
      show (compEntry s.table (some ran) client).or _ = some k
      rw [hk, Option.some_or]
    · refine (fNgapIdTableAdd_changes hadded).tail (.locate added.1 uli (hleft added.1 ?_))
      show (compEntry s.table (some ran) client).or _ = some added.1
      rw [hnone, Option.none_or]
      exact (fNgapIdTableAdd_ok hadded).1
  rw [if_neg hinitial] at hok hleft
  by_cases hswitch : mwN2PathSwitchRequest.accepts msg = true
  · rw [if_pos hswitch] at hok hleft
    obtain ⟨ran, added, uli, hadded, -, rfl⟩ := pathSwitchTable_ok hok
    exact (fNgapIdTableAdd_changes hadded).tail
      (.locate added.1 uli (hleft added.1 (fNgapIdTableAdd_ok hadded).1))
  rw [if_neg hswitch] at hok hleft
  by_cases hack : mwN2HandoverRequestAcknowledge.accepts msg = true
  · rw [if_pos hack, handoverRequestAcknowledgeTable] at hok
    obtain ⟨amf, -, hok⟩ := bind_ok hok
    obtain ⟨i, hlook, hok⟩ := bind_ok hok
    obtain ⟨ran, -, rfl⟩ := map_ok hok
    refine .single (.ran i ran ?_)
    rcases (fAssocIdByNgapIds_ids hlook).2 with habs | hamf
    · exact nomatch habs
    · rw [hamf]
      exact Option.some_ne_none amf
  rw [if_neg hack] at hok hleft
  by_cases hnotify : mwN2HandoverNotify.accepts msg = true
  · rw [if_pos hnotify] at hok hleft
    rw [handoverNotifyTable] at hok
    obtain ⟨amf, hamf, hok⟩ := bind_ok hok
    obtain ⟨ran, hran, hok⟩ := bind_ok hok
    obtain ⟨i, hlook, hok⟩ := bind_ok hok
    obtain ⟨uli, -, rfl⟩ := map_ok hok
    refine .single (.locate i uli (hleft i ?_))
    rw [valueof_ok hamf, valueof_ok hran]
    rw [fAssocIdByNgapIds, if_neg (by simp)] at hlook
    exact orShutdown_eq_ok.mp hlook
  · rw [if_neg hnotify] at hok
    rw [Except.ok.inj hok]

/-- A NAS message of a component counts in its own association. -/
theorem clientNas_ok {ulNas : NgNasMessage Ul}
    (hok : clientNas p s client ulNas = .ok (s', os)) :
    ∃ i nus, compEntry s.table none client = some i ∧ s'.table = setNus s.table i nus := by
  rw [clientNas] at hok
  obtain ⟨i, hslot, hok⟩ := bind_ok hok
  obtain ⟨r, -, hok⟩ := bind_ok hok
  obtain ⟨amf, -, hok⟩ := bind_ok hok
  obtain ⟨ran, -, hok⟩ := bind_ok hok
  obtain ⟨uli, -, hr⟩ := map_ok hok
  obtain ⟨rfl, -⟩ := Prod.mk.inj hr
  exact ⟨i, r.1, orShutdown_eq_ok.mp hslot, rfl⟩

/-- A NAS state that is set goes to the entry of the component, or to a new one. -/
theorem setNusTable_ok {ran : RanUeNgapId} {nus : NgNasUeState} {createNonexist : Bool}
    (hok : setNusTable s client ran nus createNonexist = .ok t') :
    (∃ k, compEntry s.table (some ran) client = some k ∧ t' = setNus s.table k nus)
      ∨ compEntry s.table (some ran) client = none
        ∧ ∃ added, fNgapIdTableAdd s.table none (some ran) client = .ok added
          ∧ t' = setNus added.2 added.1 nus := by
  rw [setNusTable] at hok
  obtain ⟨r, hentry, rfl⟩ := map_ok hok
  cases createNonexist with
  | true =>
      rw [if_pos rfl, entryOrAdd] at hentry
      cases hcomp : compEntry s.table (some ran) client with
      | some k =>
          rw [hcomp, Option.elim_some] at hentry
          rw [← Except.ok.inj hentry]
          exact Or.inl ⟨k, rfl, rfl⟩
      | none =>
          rw [hcomp, Option.elim_none] at hentry
          exact Or.inr ⟨rfl, r, hentry, rfl⟩
  | false =>
      rw [if_neg Bool.false_ne_true] at hentry
      obtain ⟨k, hk, rfl⟩ := map_ok hentry
      exact Or.inl ⟨k, orShutdown_eq_ok.mp hk, rfl⟩

/-- A configuration changes the association of its component. -/
theorem setNusTable_changes {ran : RanUeNgapId} {nus : NgNasUeState} {createNonexist : Bool}
    (hleft : ∀ k, (compEntry s.table (some ran) client).or (freeSlot s.table) = some k →
      .nas k ∈ left)
    (hok : setNusTable s client ran nus createNonexist = .ok t') :
    Changes left s.table t' := by
  rcases setNusTable_ok hok with ⟨k, hk, rfl⟩ | ⟨hnone, added, hadded, rfl⟩
  · refine .single (.nas k nus (hleft k ?_))
    rw [hk, Option.some_or]
  · refine (fNgapIdTableAdd_changes hadded).tail (.nas added.1 nus (hleft added.1 ?_))
    rw [hnone, Option.none_or]
    exact (fNgapIdTableAdd_ok hadded).1

/-- **WHAT A STEP DOES TO THE TABLE**: the changes that its input may make. -/
theorem mainStep_changes (i : Input Comp Ul) (hok : mainStep p s i = .ok (s', os)) :
    Changes (traces p s.table i) s.table s'.table := by
  cases i with
  | config client ngcfg =>
      rw [mainStep] at hok
      obtain ⟨k, hslot, hr⟩ := map_ok hok
      obtain ⟨rfl, -⟩ := Prod.mk.inj hr
      exact .single (.nas k _ (mem_found (orShutdown_eq_ok.mp hslot)))
  | clientNas client ulNas =>
      obtain ⟨k, nus, hslot, htable⟩ := clientNas_ok hok
      rw [htable]
      exact .single (.nas k nus (mem_found hslot))
  | clientNgap client msg =>
      rw [mainStep] at hok
      obtain ⟨t, ht, hr⟩ := map_ok hok
      obtain ⟨rfl, -⟩ := Prod.mk.inj hr
      exact clientNgapTable_changes (fun k hk => mem_found hk) ht
  | rx msg =>
      rw [mainStep] at hok
      by_cases hunit : nonUErelated msg = true
      · rw [if_pos hunit] at hok
        obtain ⟨rfl, -⟩ := Prod.mk.inj (Except.ok.inj hok)
        exact .refl
      · rw [if_neg hunit] at hok
        obtain ⟨⟨s1, os1⟩, hue, hrelease⟩ := bind_ok hok
        refine Relation.ReflTransGen.trans (rxUe_changes ?_ hue) (rxRelease_changes hrelease)
        intro hprotected k hslot
        rw [traces, if_pos hprotected]
        exact mem_found hslot
  | setNus client ranId nus createNonexist =>
      rw [mainStep] at hok
      obtain ⟨t, ht, hr⟩ := map_ok hok
      obtain ⟨rfl, -⟩ := Prod.mk.inj hr
      exact setNusTable_changes (fun k hk => mem_found hk) ht
  | unit msg =>
      rw [mainStep] at hok
      obtain ⟨rfl, -⟩ := Prod.mk.inj (Except.ok.inj hok)
      exact .refl
  | sctpEvent =>
      rw [mainStep] at hok
      obtain ⟨rfl, -⟩ := Prod.mk.inj (Except.ok.inj hok)
      exact .refl
  | register amfId ranId vcConn =>
      rw [mainStep] at hok
      obtain ⟨expect, -, hr⟩ := map_ok hok
      obtain ⟨rfl, -⟩ := Prod.mk.inj hr
      exact .refl
  | registerProc procedureCode vcConn =>
      rw [mainStep] at hok
      obtain ⟨expectProc, -, hr⟩ := map_ok hok
      obtain ⟨rfl, -⟩ := Prod.mk.inj hr
      exact .refl
  | obtainAmfId client =>
      rw [mainStep] at hok
      obtain ⟨assocId, -, hok⟩ := bind_ok hok
      obtain ⟨amf, -, hr⟩ := map_ok hok
      obtain ⟨rfl, -⟩ := Prod.mk.inj hr
      exact .refl
  | obtainNus client ranId =>
      rw [mainStep] at hok
      obtain ⟨assocId, -, hr⟩ := map_ok hok
      obtain ⟨rfl, -⟩ := Prod.mk.inj hr
      exact .refl

/-- **EVERY ASSOCIATION KEEPS ITS COMPONENT.** -/
theorem mainStep_owned (i : Input Comp Ul) (h : Owned s.table)
    (hok : mainStep p s i = .ok (s', os)) : Owned s'.table :=
  (mainStep_changes i hok).keep (fun h hchange => h.change hchange) h

end Steps

-- ── Test and lookup ──────────────────────────────────────────────────────────

section Ids

variable {Comp : Type}

/-- The two ids of an association. -/
def idsView : TwoIds.View (AssociationData Comp) AmfUeNgapId RanUeNgapId where
  ids a := (a.amfUeNgapId, a.ranUeNgapId)
  fill a amf := { a with amfUeNgapId := some amf }
  ids_fill _ _ := rfl

variable {t : NGapAssociationTable Comp} {i : Fin 256}
variable {ids : Option AmfUeNgapId × Option RanUeNgapId}

/-- An entry knows ids as a pair of two optional ids does. -/
theorem idsKnownAt_eq (a : AssociationData Comp) :
    idsKnownAt ids.1 ids.2 a = TwoIds.accepts (idsView.ids a) ids := by
  rw [idsKnownAt, TwoIds.accepts]
  cases hamf : a.amfUeNgapId with
  | none =>
      cases hran : a.ranUeNgapId with
      | none => simp [idsView, hamf, hran]
      | some ran => simp [idsView, hamf, hran]
  | some amf => simp [idsView, hamf]

/-- The test of the ids is that of a table with two ids. -/
theorem fNgapIdsKnown_eq (t : NGapAssociationTable Comp)
    (ids : Option AmfUeNgapId × Option RanUeNgapId) :
    fNgapIdsKnown t ids.1 ids.2 = TwoIds.known idsView t ids .unbound := by
  have hfind : knownEntry t ids.1 ids.2 = TwoIds.accepted idsView t ids := by
    rw [knownEntry, TwoIds.accepted]
    exact congrArg (find t) (funext idsKnownAt_eq)
  rw [fNgapIdsKnown, TwoIds.known, hfind]
  cases TwoIds.accepted idsView t ids with
  | none => rfl
  | some k =>
      rw [Option.elim_some]
      cases hamf : (t k).amfUeNgapId with
      | none =>
          rw [if_pos rfl]
          cases hfst : ids.1 with
          | none => simp [idsView, hamf, bound, Except.map]
          | some amf => simp [idsView, hamf, bound, Except.map]
      | some amf => simp [idsView, hamf]

/-- An entry is looked up as such a pair is. -/
theorem assocIdAt_eq (a : AssociationData Comp) :
    assocIdAt ids.1 ids.2 a = TwoIds.looksUp (idsView.ids a) ids := by
  obtain ⟨amfId, ranId⟩ := ids
  rw [assocIdAt, TwoIds.looksUp]
  cases amfId with
  | none =>
      cases ranId with
      | none => simp
      | some ran =>
          cases hran : a.ranUeNgapId <;> simp [idsView, hran]
  | some amf =>
      cases ranId with
      | none =>
          cases hamf : a.amfUeNgapId <;> simp [idsView, hamf]
      | some ran =>
          cases hran : a.ranUeNgapId <;> cases hamf : a.amfUeNgapId <;>
            simp [idsView, hran, hamf]

/-- So is the lookup. -/
theorem fAssocIdByNgapIds_ok (t : NGapAssociationTable Comp)
    (ids : Option AmfUeNgapId × Option RanUeNgapId) :
    TwoIds.lookup idsView t ids Fault.unbound = .ok i
      ↔ fAssocIdByNgapIds t ids.1 ids.2 = .ok i := by
  have hfind : find t (assocIdAt ids.1 ids.2)
      = find t (fun a => TwoIds.looksUp (idsView.ids a) ids) :=
    congrArg (find t) (funext assocIdAt_eq)
  rw [fAssocIdByNgapIds, Bool.and_comm, TwoIds.lookup_ok_iff, TwoIds.unlessNoId_ok, hfind,
    orShutdown_eq_ok]

/-- **THE LOOKUP IS RIGHT** for a pair of ids: the test and the lookup agree, and
    an association that the pair names gets the message. -/
def LookupRight (t : NGapAssociationTable Comp)
    (ids : Option AmfUeNgapId × Option RanUeNgapId) : Prop :=
  TwoIds.Consistent idsView (fun t ids => fNgapIdsKnown t ids.1 ids.2)
      (fun t ids => fAssocIdByNgapIds t ids.1 ids.2) t ids
    ∧ ∀ i, TwoIds.Addresses (idsView.ids (t i)) ids →
      ∃ t', rxAssoc t ids.1 ids.2 = .ok (some i, t')

/-- The look-up is right if no ids are split over two entries. -/
theorem lookupRight_iff : LookupRight t ids ↔ TwoIds.Sound idsView t ids := by
  refine Iff.trans ⟨fun h => h.1, fun h => ⟨h, fun i hi => h.dispatch hi⟩⟩
    (TwoIds.Consistent.iff_sound Fault.unbound Fault.unbound ?_ ?_)
  · exact fNgapIdsKnown_eq t ids
  · intro b t' _ i
    exact fAssocIdByNgapIds_ok t' ids

end Ids

-- ── Messages to their associations ───────────────────────────────────────────

/-- The ids in the IEs of a message are those of the association: one of them at
    least, and none of another. -/
def Names {Comp : Type} (msg : NgapPdu) (a : AssociationData Comp) : Prop :=
  ((∃ amf, CarriesAmf msg amf ∧ a.amfUeNgapId = some amf)
      ∨ ∃ ran, CarriesRan msg ran ∧ a.ranUeNgapId = some ran)
    ∧ (∀ amf, CarriesAmf msg amf → a.amfUeNgapId = none ∨ a.amfUeNgapId = some amf)
    ∧ ∀ ran, CarriesRan msg ran → a.ranUeNgapId = none ∨ a.ranUeNgapId = some ran

/-- The ids that are found in a message are all that it has. -/
def FindsIds (msg : NgapPdu) (ids : Option AmfUeNgapId × Option RanUeNgapId) : Prop :=
  fNgapGetAmfUeNgapId msg = .ok ids.1 ∧ fNgapGetRanUeNgapId msg = .ok ids.2
    ∧ (∀ amf, CarriesAmf msg amf → ids.1 = some amf)
    ∧ ∀ ran, CarriesRan msg ran → ids.2 = some ran

/-- **A MESSAGE GETS TO ITS ASSOCIATION**: its component gets the message, unless
    it is a NAS transport, and the NAS PDU; nothing but a NAS PDU that is not
    decoded or not decapsulated stops the test. -/
def Served {Comp Ul Dl : Type} [DecidableEq Comp] (p : Params Comp Ul Dl)
    (s : Emulation Comp) (a : AssociationData Comp) (msg : NgapPdu) : Prop :=
  ∃ client, a.compRef = some client ∧
    match fNgapGetNasPdu msg with
    | none => ∃ s', mainStep p s (.rx msg) = .ok (s', [.clientNgap client msg])
    | some nasEnc =>
        match rxNas p a.nus nasEnc with
        | .error e => mainStep p s (.rx msg) = .error e
        | .ok (_, dlNas) => ∃ s', mainStep p s (.rx msg) = .ok (s',
            (if isDownlinkNASTransport msg then [] else [.clientNgap client msg])
              ++ [.clientNas client dlNas])

section Served

variable {Comp Ul Dl : Type} {p : Params Comp Ul Dl} {s : Emulation Comp}
variable {t t' : NGapAssociationTable Comp} {msg : NgapPdu} {i : Fin 256}
variable {ids : Option AmfUeNgapId × Option RanUeNgapId}

/-- Where all ids are found, they name the association as well. -/
theorem Names.addresses {a : AssociationData Comp} (h : Names msg a)
    (hfinds : FindsIds msg ids) : TwoIds.Addresses (idsView.ids a) ids := by
  obtain ⟨hone, hamf, hran⟩ := h
  obtain ⟨hgetAmf, hgetRan, hallAmf, hallRan⟩ := hfinds
  refine ⟨?_, ?_, ?_⟩
  · rcases hone with ⟨amf, hcarries, hsame⟩ | ⟨ran, hcarries, hsame⟩
    · have hfound := hallAmf amf hcarries
      refine Or.inl ⟨?_, hsame.trans hfound.symm⟩
      rw [hfound]
      exact Option.some_ne_none amf
    · have hfound := hallRan ran hcarries
      refine Or.inr ⟨?_, hsame.trans hfound.symm⟩
      rw [hfound]
      exact Option.some_ne_none ran
  · cases hfound : ids.1 with
    | none => exact Or.inr (Or.inl rfl)
    | some amf =>
        rw [hfound] at hgetAmf
        exact (hamf amf (amfUeId_carried hgetAmf)).imp_right Or.inr
  · cases hfound : ids.2 with
    | none => exact Or.inr (Or.inl rfl)
    | some ran =>
        rw [hfound] at hgetRan
        exact (hran ran (ranUeId_carried hgetRan)).imp_right Or.inr

/-- The association that is dispatched to has the ids of the message, and is what
    it was before the test otherwise. -/
theorem rxAssoc_found (h : rxAssoc t ids.1 ids.2 = .ok (some i, t')) :
    (ids.2 = none ∨ (t' i).ranUeNgapId = ids.2)
      ∧ (ids.1 = none ∨ (t' i).amfUeNgapId = ids.1)
      ∧ (t' i).compRef = (t i).compRef ∧ (t' i).nus = (t i).nus := by
  obtain ⟨known, hknown, hlook⟩ := rxAssoc_ok h
  obtain ⟨hran, hamf⟩ := fAssocIdByNgapIds_ids (hlook i rfl)
  refine ⟨hran, hamf, ?_⟩
  rcases fNgapIdsKnown_ok hknown with rfl | ⟨k, filled, -, rfl⟩
  · exact ⟨rfl, rfl⟩
  · exact ⟨update_field AssociationData.compRef i, update_field AssociationData.nus i⟩

variable [DecidableEq Comp]

/-- The release of an association that is there. -/
theorem handleUeContextReleaseCmd_returns {amf : AmfUeNgapId} {ran : RanUeNgapId}
    (hids : msg.protocolIEs.head?.bind (fun e => e.value.amfOfPair?) = some amf
      ∧ msg.protocolIEs.head?.bind (fun e => e.value.ranOfPair?) = some ran)
    (hamf : (t i).amfUeNgapId = some amf) (hran : (t i).ranUeNgapId = some ran) :
    ∃ t', handleUeContextReleaseCmd t msg = .ok t' := by
  have haccepts : assocIdAt (some amf) (some ran) (t i) = true := by
    rw [assocIdAt, hamf, hran]
    simp
  obtain ⟨k, hk⟩ := exists_find haccepts
  have hlook : fAssocIdByNgapIds t (some amf) (some ran) = .ok k := by
    rw [fAssocIdByNgapIds, if_neg (by simp), orShutdown_eq_ok]
    exact hk
  obtain ⟨hkran, -⟩ := fAssocIdByNgapIds_ids hlook
  obtain ⟨d, hd⟩ := exists_find (t := t) (i := k)
    (p := fun a => decide (a.compRef = (t k).compRef ∧ a.ranUeNgapId = some ran))
    (decide_eq_true ⟨rfl, hkran.resolve_left (Option.some_ne_none ran)⟩)
  rw [handleUeContextReleaseCmd]
  simp only [hids.1, hids.2, hlook, Except.bind, fNgapIdTableDel, orShutdown_eq_ok.mpr hd,
    Except.map]
  exact ⟨_, rfl⟩

/-- The release that follows a dispatch comes through. -/
theorem rxRelease_returns (hfinds : FindsIds msg ids)
    (hran : ids.2 = none ∨ (s.table i).ranUeNgapId = ids.2)
    (hamf : ids.1 = none ∨ (s.table i).amfUeNgapId = ids.1) (os : List (Output Comp Dl)) :
    ∃ s', rxRelease msg (s, os) = .ok (s', os) := by
  rw [rxRelease]
  by_cases hrelease : mwN2UEContextReleaseCommand.accepts msg = true
  · rw [if_pos hrelease]
    obtain ⟨amf, hgetAmf, hpairAmf⟩ := amfUeId_release hrelease hfinds.1
    obtain ⟨ran, hgetRan, hpairRan⟩ := ranUeId_release hrelease hfinds.2.1
    rw [hgetAmf] at hamf
    rw [hgetRan] at hran
    obtain ⟨t', ht'⟩ := handleUeContextReleaseCmd_returns ⟨hpairAmf, hpairRan⟩
      (hamf.resolve_left (Option.some_ne_none amf))
      (hran.resolve_left (Option.some_ne_none ran))
    rw [ht']
    exact ⟨_, rfl⟩
  · rw [if_neg hrelease]
    exact ⟨s, rfl⟩

/-- **A MESSAGE WHOSE IDS ARE SOUND GETS TO ITS ASSOCIATION**; of the messages with
    a NAS PDU, in the UE role. -/
theorem mainStep_served (howned : Owned s.table) (hue : nonUErelated msg = false)
    (hrole : p.role = .ue ∨ fNgapGetNasPdu msg = none) (hfinds : FindsIds msg ids)
    (hsound : TwoIds.Sound idsView s.table ids) (hnames : Names msg (s.table i)) :
    Served p s (s.table i) msg := by
  have haddr := hnames.addresses hfinds
  obtain ⟨t', hassoc⟩ := (lookupRight_iff.mpr hsound).2 i haddr
  obtain ⟨hran, hamf, hcomp, hnus⟩ := rxAssoc_found hassoc
  have hlive : (s.table i).ranUeNgapId ≠ none ∨ (s.table i).amfUeNgapId ≠ none := by
    rcases haddr.1 with ⟨hne, hsame⟩ | ⟨hne, hsame⟩
    · exact Or.inr (fun hnone => hne (hsame.symm.trans hnone))
    · exact Or.inl (fun hnone => hne (hsame.symm.trans hnone))
  obtain ⟨client, hclient⟩ := Option.ne_none_iff_exists'.mp (howned i hlive)
  refine ⟨client, hclient, ?_⟩
  -- the dispatch, behind the test and the lookup
  have hstep : mainStep p s (.rx msg) = ((rxDispatch p t' i msg).map
      (fun d => (({ s with table := d.1 } : Emulation Comp), d.2))).bind (rxRelease msg) := by
    rw [mainStep, if_neg (Bool.eq_false_iff.mp hue), rxUe, hfinds.1, hfinds.2.1]
    simp only [Except.bind, hassoc]
  rw [hstep, rxDispatch, hcomp, hclient]
  cases hnas : fNgapGetNasPdu msg with
  | none =>
      exact rxRelease_returns (s := { s with table := t' }) hfinds hran hamf _
  | some nasEnc =>
      have hue : p.role = .ue := hrole.resolve_right (by rw [hnas]; exact Option.some_ne_none _)
      rw [← hnus]
      simp only [hue, if_true]
      cases hdec : rxNas p (t' i).nus nasEnc with
      | error e => rfl
      | ok r =>
          refine rxRelease_returns (s := { s with table := setNus t' i r.1 }) (i := i) hfinds
            ?_ ?_ _
          · exact hran.imp_right (update_field AssociationData.ranUeNgapId i).trans
          · exact hamf.imp_right (update_field AssociationData.amfUeNgapId i).trans

end Served

-- ── New associations ─────────────────────────────────────────────────────────

section New

variable {Comp Ul Dl : Type} {p : Params Comp Ul Dl} {s s' : Emulation Comp} {k : Fin 256}
variable {msg : NgapPdu} {os : List (Output Comp Dl)} {t t' : NGapAssociationTable Comp}
variable {client : Comp} {role : NgNasRole} {past left : List Trace}

/-- No association that the slot had before has left what a new one takes over. -/
def Unused (past : List Trace) (k : Fin 256) : Input Comp Ul → Prop
  | .clientNgap _ _ => .nas k ∉ past
  | .setNus _ _ _ _ => .location k ∉ past
  | _ => .nas k ∉ past ∧ .location k ∉ past

/-- A slot without traces is as the initialisation made it. -/
structure Untouched (role : NgNasRole) (past : List Trace) (t : NGapAssociationTable Comp) :
    Prop where
  nus : ∀ k, .nas k ∉ past → (t k).nus = tNgNasUeState role
  uli : ∀ k, .location k ∉ past → (t k).uli = none

/-- At the start nothing was touched. -/
theorem untouched_init (role : NgNasRole) :
    Untouched role [] (fNgapIdTableInit role : NGapAssociationTable Comp) where
  nus := fun _ _ => rfl
  uli := fun _ _ => rfl

/-- What no change has named is untouched. -/
theorem Untouched.changes (h : Untouched role past t) (hchanges : Changes left t t') :
    Untouched role (past ++ left) t' where
  nus := by
    intro k hk
    rw [List.mem_append, not_or] at hk
    rw [hchanges.nas_same hk.2]
    exact h.nus k hk.1
  uli := by
    intro k hk
    rw [List.mem_append, not_or] at hk
    rw [hchanges.location_same hk.2]
    exact h.uli k hk.1

/-- A new association that gets its location keeps the NAS state of the slot. -/
theorem addedUli_context {ran : RanUeNgapId} {uli : UserLocationInformation}
    {added : Fin 256 × NGapAssociationTable Comp} (hfree : freeSlot t = some k)
    (h : fNgapIdTableAdd t none (some ran) client = .ok added) :
    (setUli added.2 added.1 uli k).nus = (t k).nus
      ∧ (setUli added.2 added.1 uli k).uli = some uli := by
  obtain ⟨hslot, hadd⟩ := fNgapIdTableAdd_ok h
  have hk : added.1 = k := Option.some.inj (hslot.symm.trans hfree)
  rw [hadd, hk, setUli, Function.update_self, Function.update_self]
  exact ⟨rfl, rfl⟩

variable [DecidableEq Comp]

/-- Whether a message of a client makes a new association. -/
def clientCreates (t : NGapAssociationTable Comp) (client : Comp) (msg : NgapPdu) : Prop :=
  (mwN2InitialUeMessage.accepts msg = true
      ∧ ∃ ran, fNgapGetRanUeNgapId msg = .ok (some ran)
        ∧ compEntry t (some ran) client = none)
    ∨ (mwN2InitialUeMessage.accepts msg = false ∧ mwN2PathSwitchRequest.accepts msg = true)

/-- Whether an input makes a new association: a message of a client, a message of
    the peer with ids that are not known, or a NAS state for a component that
    has no association. -/
def Creates (t : NGapAssociationTable Comp) : Input Comp Ul → Prop
  | .clientNgap client msg => clientCreates t client msg
  | .rx msg => nonUErelated msg = false ∧ ∃ amfId ranId,
      fNgapGetAmfUeNgapId msg = .ok amfId ∧ fNgapGetRanUeNgapId msg = .ok ranId
        ∧ knownEntry t amfId ranId = none
  | .setNus client ranId _ createNonexist =>
      createNonexist = true ∧ compEntry t (some ranId) client = none
  | _ => False

/-- **A FRESH ASSOCIATION**: its NAS state is as the initialisation makes it, or
    the one that is given, and its location is that of the message. -/
def Fresh (role : NgNasRole) (a : AssociationData Comp) : Input Comp Ul → Prop
  | .clientNgap _ msg => a.nus = tNgNasUeState role ∧ a.uli = uliAt2 msg.protocolIEs
  | .setNus _ _ nus _ => a.nus = nus ∧ a.uli = none
  | _ => a.nus = tNgNasUeState role ∧ a.uli = none

/-- A component's first message makes its association. -/
theorem clientNgapTable_context (hcreates : clientCreates s.table client msg)
    (hfree : freeSlot s.table = some k) (hok : clientNgapTable s client msg = .ok t') :
    (t' k).nus = (s.table k).nus ∧ (t' k).uli = uliAt2 msg.protocolIEs := by
  rw [clientNgapTable] at hok
  rcases hcreates with ⟨hinitial, ran, hran, hnew⟩ | ⟨hother, hswitch⟩
  · rw [if_pos hinitial] at hok
    obtain ⟨ran', uli, hran', huli, ⟨i, hi, -⟩ | ⟨-, added, hadded, rfl⟩⟩ :=
      initialUeTable_ok hok
    · -- the component has no association
      rw [hran] at hran'
      rw [← Option.some.inj (Except.ok.inj hran'), hnew] at hi
      exact nomatch hi
    · rw [huli]
      exact addedUli_context hfree hadded
  · rw [if_neg (Bool.eq_false_iff.mp hother), if_pos hswitch] at hok
    obtain ⟨ran, added, uli, hadded, huli, rfl⟩ := pathSwitchTable_ok hok
    rw [huli]
    exact addedUli_context hfree hadded

/-- What NGAPEM_set_nus creates has the NAS state that is given. -/
theorem setNusTable_context {ran : RanUeNgapId} {nus : NgNasUeState} {createNonexist : Bool}
    (hnew : compEntry s.table (some ran) client = none) (hfree : freeSlot s.table = some k)
    (hok : setNusTable s client ran nus createNonexist = .ok t') :
    (t' k).nus = nus ∧ (t' k).uli = (s.table k).uli := by
  rcases setNusTable_ok hok with ⟨i, hi, -⟩ | ⟨-, added, hadded, rfl⟩
  · rw [hnew] at hi
    exact nomatch hi
  · obtain ⟨hslot, hadd⟩ := fNgapIdTableAdd_ok hadded
    have hk : added.1 = k := Option.some.inj (hslot.symm.trans hfree)
    rw [hadd, hk, setNus, Function.update_self, Function.update_self]
    exact ⟨rfl, rfl⟩

/-- The message of the peer that makes a new association leaves no traces. -/
theorem rx_creates_changes (hok : mainStep p s (.rx msg) = .ok (s', os))
    (hcreates : Creates s.table (.rx msg : Input Comp Ul)) :
    Changes [] s.table s'.table := by
  obtain ⟨hue, amfId, ranId, hamf, hran, hunknown⟩ := hcreates
  rw [mainStep, if_neg (Bool.eq_false_iff.mp hue)] at hok
  obtain ⟨⟨s1, os1⟩, hrx, hrelease⟩ := bind_ok hok
  refine (rxUe_changes (fun _ j hj => ?_) hrx).trans (rxRelease_changes hrelease)
  have hslot : rxSlot s.table msg = none := by
    rw [rxSlot_eq hamf hran, rxAssoc_unknown hunknown, Except.toOption, Option.bind_some]
  rw [hslot] at hj
  exact nomatch hj

/-- **A NEW ASSOCIATION OF AN UNUSED SLOT IS FRESH.** -/
theorem mainStep_fresh (i : Input Comp Ul) (huntouched : Untouched p.role past s.table)
    (hok : mainStep p s i = .ok (s', os)) (hcreates : Creates s.table i)
    (hfree : freeSlot s.table = some k) (hunused : Unused past k i) :
    Fresh p.role (s'.table k) i := by
  cases i with
  | clientNgap client msg =>
      rw [mainStep] at hok
      obtain ⟨t, ht, hr⟩ := map_ok hok
      obtain ⟨rfl, -⟩ := Prod.mk.inj hr
      obtain ⟨hnus, huli⟩ := clientNgapTable_context hcreates hfree ht
      exact ⟨hnus.trans (huntouched.nus k hunused), huli⟩
  | rx msg =>
      have hafter := huntouched.changes (rx_creates_changes hok hcreates)
      rw [List.append_nil] at hafter
      obtain ⟨hnas, hlocation⟩ := hunused
      exact ⟨hafter.nus k hnas, hafter.uli k hlocation⟩
  | setNus client ranId nus createNonexist =>
      obtain ⟨-, hnew⟩ := hcreates
      rw [mainStep] at hok
      obtain ⟨t, ht, hr⟩ := map_ok hok
      obtain ⟨rfl, -⟩ := Prod.mk.inj hr
      obtain ⟨hnus, huli⟩ := setNusTable_context hnew hfree ht
      exact ⟨hnus, huli.trans (huntouched.uli k hunused)⟩
  | config client ngcfg => exact absurd hcreates not_false
  | clientNas client ulNas => exact absurd hcreates not_false
  | unit msg => exact absurd hcreates not_false
  | sctpEvent => exact absurd hcreates not_false
  | register amfId ranId vcConn => exact absurd hcreates not_false
  | registerProc procedureCode vcConn => exact absurd hcreates not_false
  | obtainAmfId client => exact absurd hcreates not_false
  | obtainNus client ranId => exact absurd hcreates not_false

end New

end OsmoNgap
