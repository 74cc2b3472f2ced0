import OsmoTtcn.NasSecurityProofs
import OsmoTtcn.RunGuardProofs
import OsmoTtcn.S1apFunctionsProofs
import OsmoTtcn.TwoIdsProofs

/-! # UE associations of the S1AP emulation

    `S1AP_Emulation` has a table of 16 UE associations, with the two ids, the
    component, the location and the NAS security state of each.  An association
    begins with the InitialUE message of a component or with a message of the
    peer that no association is known for, and ends with the
    UeContextReleaseCmd of the peer.

    `mainStep_changes` has what one round may do to the table; all invariants are
    of single changes.  An association has no MME id unless it has an eNB id
    (`mainStep_wf`), so the test of the ids and the lookup are those of tables
    with two ids (`fS1apIdsKnown_eq`, `fAssocIdByS1apIds_ok`).
    `mainStep_served`: a message whose ids are sound gets to its association.
    `mainStep_fresh`: a new association is fresh where its slot is untouched. -/

namespace OsmoS1ap

open OsmoTitan OsmoNas SlotTable

/-- Represents a single S1AP Association. -/
structure AssociationData (Comp : Type) where
  /-- component handling this UE connection; `none`: the null reference -/
  compRef : Option Comp
  /-- eNB side S1AP ID -/
  enbUeS1apId : Option EnbUeS1apId
  /-- MME side S1AP ID -/
  mmeUeS1apId : Option MmeUeS1apId
  cgi : Option EutranCgi
  tai : Option Tai
  nus : NasUeState

/-- `S1apAssociationTable` -/
abbrev S1apAssociationTable (Comp : Type) : Type := Fin 16 → AssociationData Comp

/-- `ExpectData`, an expectation by the ids of a UE. -/
structure ExpectData (Comp : Type) where
  mmeId : Option MmeUeS1apId
  enbId : Option EnbUeS1apId
  vcConn : Option Comp

/-- Represents a single S1AP PDU that we expect. -/
structure ExpectDataProc (Comp : Type) where
  procedureCode : Option Nat
  vcConn : Option Comp

/-- `S1apExpectTable` -/
abbrev S1apExpectTable (Comp : Type) : Type := Fin 8 → ExpectData Comp

/-- `S1apExpectTableProc` -/
abbrev S1apExpectTableProc (Comp : Type) : Type := Fin 8 → ExpectDataProc Comp

/-- The variables of the component. -/
structure Emulation (Comp : Type) where
  table : S1apAssociationTable Comp
  expect : S1apExpectTable Comp
  expectProc : S1apExpectTableProc Comp

/-- The call-backs, the role and the external functions. -/
structure Params (Comp Plain : Type) where
  createCb : S1apExpectTable Comp → S1apPdu → Option MmeUeS1apId →
    Option EnbUeS1apId → Except Fault (Comp × S1apExpectTable Comp)
  unitdataCb : S1apPdu → Option S1apPdu
  role : NasRole
  env : Env Plain
  fKdfNasToken : (kasme : List UInt8) → (ulCount : Int) → List UInt8

/-- `S1APEM_Config`, what a component configures of its NAS. -/
inductive S1apemConfig where
  | setNasKeys (kNasInt kNasEnc : List UInt8)
  | resetNasCounts
  | setNasAlgInt (alg : NasAlgInt)
  | setNasAlgEnc (alg : NasAlgEnc)
  deriving DecidableEq

/-- What comes in: from a client, from the unit-data port, from the peer, or a
    call of a component. -/
inductive Input (Comp Plain : Type) where
  | config (client : Comp) (s1cfg : S1apemConfig)
  | clientNas (client : Comp) (nas : PduNasEps Plain)
  | clientS1ap (client : Comp) (msg : S1apPdu)
  | unit (msg : S1apPdu)
  | rx (msg : S1apPdu)
  | sctpEvent
  | register (mmeId : MmeUeS1apId) (enbId : EnbUeS1apId) (vcConn : Comp)
  | registerProc (procedureCode : Nat) (vcConn : Comp)
  | obtainMmeUeId (client : Comp)
  | deriveNasToken (kasme : List UInt8) (client : Comp)

/-- What is sent, and what a call returns. -/
inductive Output (Comp Plain : Type) where
  | s1ap (msg : S1apPdu)
  | clientS1ap (client : Comp) (msg : S1apPdu)
  | clientNas (client : Comp) (nas : PduNasEps Plain)
  | registered (client : Comp)
  | mmeUeId (client : Comp) (mmeId : MmeUeS1apId)
  | nasToken (client : Comp) (nasToken : List UInt8)

-- ── The association table ────────────────────────────────────────────────────

section Table

variable {Comp : Type} (t : S1apAssociationTable Comp)
variable (mmeId : Option MmeUeS1apId) (enbId : Option EnbUeS1apId)

/-- Whether the loop of `f_s1ap_ids_known` ends with true at the entry. -/
def idsKnownAt (a : AssociationData Comp) : Bool :=
  if a.mmeUeS1apId = none ∧ a.enbUeS1apId = none then
    -- skip empty records
    false
  else if a.mmeUeS1apId = none then
    -- the MME side ID is not known yet: only based on the eNB side ID
    decide (a.enbUeS1apId = enbId)
  else decide (a.enbUeS1apId = enbId) && decide (a.mmeUeS1apId = mmeId)

/-- The entry that the loop ends at. -/
def knownEntry : Option (Fin 16) := find t (idsKnownAt mmeId enbId)

/-- `f_s1ap_ids_known`, which updates the table with the MME side ID. -/
def fS1apIdsKnown : Except Fault (Bool × S1apAssociationTable Comp) :=
  (knownEntry t mmeId enbId).elim (.ok (false, t)) (fun i =>
    if (t i).mmeUeS1apId = none then
      (bound mmeId).map (fun mme =>
        (true, Function.update t i { t i with mmeUeS1apId := some mme }))
    else .ok (true, t))

/-- Whether the loop of `f_assoc_id_by_s1ap_ids` ends at the entry. -/
def assocIdAt (a : AssociationData Comp) : Bool :=
  a.enbUeS1apId.isSome
    && (enbId.isNone || decide (a.enbUeS1apId = enbId))
    && (mmeId.isNone || decide (a.mmeUeS1apId = mmeId))

/-- `f_assoc_id_by_s1ap_ids` -/
def fAssocIdByS1apIds : Except Fault (Fin 16) :=
  if enbId.isNone && mmeId.isNone then
    .error (.shutdown "Unexpected call f_assoc_id_by_s1ap_ids(omit, omit)")
  else orShutdown (find t (assocIdAt mmeId enbId))
    "S1AP Association Table not found by ENB-ID="

/-- `f_assoc_id_by_comp` -/
def fAssocIdByComp [DecidableEq Comp] (client : Comp) : Except Fault (Fin 16) :=
  orShutdown (find t (fun a => decide (a.compRef = some client)))
    "S1AP Association Table not found by component "

/-- The slot that a new association takes. -/
def freeSlot : Option (Fin 16) := find t (fun a => a.enbUeS1apId.isNone)

/-- `f_s1ap_id_table_add`; the other fields of the slot are left as they are. -/
def fS1apIdTableAdd (compRef : Comp) (enb : EnbUeS1apId) :
    Except Fault (Fin 16 × S1apAssociationTable Comp) :=
  (orShutdown (freeSlot t) "S1AP Association Table full!").map
    (fun i => (i, Function.update t i
      { t i with
        enbUeS1apId := some enb
        mmeUeS1apId := mmeId
        compRef := some compRef }))

/-- `f_s1ap_id_table_del`; here as well. -/
def fS1apIdTableDel [DecidableEq Comp] (compRef : Option Comp) (enb : EnbUeS1apId) :
    Except Fault (S1apAssociationTable Comp) :=
  (orShutdown
    (find t (fun a => decide (a.compRef = compRef ∧ a.enbUeS1apId = some enb)))
    "S1AP Association Table: Couldn't find to-be-deleted entry!").map
    (fun i => Function.update t i
      { t i with
        enbUeS1apId := none
        mmeUeS1apId := none
        compRef := none })

/-- `handle_S1AP_UeContextReleaseCmd` -/
def handleUeContextReleaseCmd [DecidableEq Comp] (relCmd : S1apPdu) :
    Except Fault (S1apAssociationTable Comp) :=
  match mmeOfIds relCmd.protocolIEs, enbOfIds relCmd.protocolIEs with
  | some mme, some enb =>
      (fAssocIdByS1apIds t (some mme) (some enb)).bind
        (fun assocId => fS1apIdTableDel t (t assocId).compRef enb)
  | _, _ => .error (.shutdown "complete implementation of UeContextReleaseCmd handling")

/-- The association that a message of the peer is for, if its ids are known. -/
def rxAssoc : Except Fault (Option (Fin 16) × S1apAssociationTable Comp) :=
  (fS1apIdsKnown t mmeId enbId).bind (fun known =>
    if known.1 then
      (fAssocIdByS1apIds known.2 mmeId enbId).map (fun i => (some i, known.2))
    else .ok (none, known.2))

end Table

/-- `f_s1ap_id_table_init` -/
def fS1apIdTableInit {Comp : Type} (role : NasRole) : S1apAssociationTable Comp := fun _ =>
  { compRef := none, enbUeS1apId := none, mmeUeS1apId := none, cgi := none, tai := none
    nus := tNasUeState role }

/-- `f_expect_table_init` -/
def fExpectTableInit {Comp : Type} : S1apExpectTable Comp := fun _ =>
  { mmeId := none, enbId := none, vcConn := none }

/-- The same for the expectations by procedure. -/
def fExpectTableProcInit {Comp : Type} : S1apExpectTableProc Comp := fun _ =>
  { procedureCode := none, vcConn := none }

/-- The tables at the start. -/
def init {Comp : Type} (role : NasRole) : Emulation Comp :=
  { table := fS1apIdTableInit role, expect := fExpectTableInit
    expectProc := fExpectTableProcInit }

-- ── Expects ──────────────────────────────────────────────────────────────────

section Expect

variable {Comp : Type}

/-- An expectation without an id. -/
def ExpectData.isEmpty (e : ExpectData Comp) : Bool := e.mmeId.isNone && e.enbId.isNone

/-- Whether the loop of `ExpectedCreateCallback` ends at the entry: `valueof` of
    an id that is compared must not be omit. -/
def expectAt (mmeId : Option MmeUeS1apId) (enbId : Option EnbUeS1apId)
    (e : ExpectData Comp) : Bool :=
  !e.isEmpty && (mmeId.isNone
    || decide (mmeId = e.mmeId) && (enbId.isNone || decide (enbId = e.enbId)))

/-- Function that can be used as create_cb and will use the expect table -/
def expectedCreateCallback (expect : S1apExpectTable Comp) (_msg : S1apPdu)
    (mmeId : Option MmeUeS1apId) (enbId : Option EnbUeS1apId) :
    Except Fault (Comp × S1apExpectTable Comp) :=
  (orShutdown (find expect (expectAt mmeId enbId)) "Couldn't find Expect for ").bind
    (fun i => (bound mmeId).bind (fun _ => (bound enbId).bind (fun _ =>
      (bound (expect i).vcConn).map (fun vcConn => (vcConn,
        Function.update expect i { mmeId := none, enbId := none, vcConn := none })))))

/-- `f_create_expect` -/
def fCreateExpect (expect : S1apExpectTable Comp) (mmeId : MmeUeS1apId)
    (enbId : EnbUeS1apId) (hdlr : Comp) : Except Fault (S1apExpectTable Comp) :=
  if (find expect (expectAt (some mmeId) (some enbId))).isSome then
    .error (.shutdown "UE MME id / UE ENB id pair already present")
  else (orShutdown (find expect ExpectData.isEmpty) "No space left in S1apExpectTable").map
    (fun i => Function.update expect i
      { mmeId := some mmeId, enbId := some enbId, vcConn := some hdlr })

/-- `f_create_expect_proc` -/
def fCreateExpectProc (expectProc : S1apExpectTableProc Comp) (procedureCode : Nat)
    (hdlr : Comp) : Except Fault (S1apExpectTableProc Comp) :=
  if (find expectProc (fun e =>
      e.vcConn.isSome && decide (e.procedureCode = some procedureCode))).isSome then
    .error (.shutdown "procedureCode ")
  else (orShutdown (find expectProc (fun e => e.vcConn.isNone))
    "No space left in S1apExpectTableProc").map
    (fun i => Function.update expectProc i
      { procedureCode := some procedureCode, vcConn := some hdlr })

/-- `SendToS1apExpectTableProc`: the components that get the message. -/
def sendToS1apExpectTableProc (expectProc : S1apExpectTableProc Comp) (msg : S1apPdu) :
    List Comp :=
  (List.finRange 8).filterMap (fun i =>
    if (expectProc i).procedureCode = some msg.procedureCode then (expectProc i).vcConn
    else none)

end Expect

-- ── The loop of the component ────────────────────────────────────────────────

/-- What a configuration primitive does to the NAS state. -/
def S1apemConfig.apply (nus : NasUeState) : S1apemConfig → NasUeState
  | .setNasKeys kNasInt kNasEnc => { nus with kNasInt := kNasInt, kNasEnc := kNasEnc }
  | .resetNasCounts => { nus with rxCount := 0, txCount := 0 }
  -- mark as used even with EIA0 and EEA0
  | .setNasAlgInt alg => { nus with algInt := alg, useInt := true }
  | .setNasAlgEnc alg => { nus with algEnc := alg, useEnc := true }

/-- The NAS state of an association is written. -/
def setNus {Comp : Type} (t : S1apAssociationTable Comp) (i : Fin 16) (nus : NasUeState) :
    S1apAssociationTable Comp :=
  Function.update t i { t i with nus := nus }

section Main

variable {Comp Plain : Type} (p : Params Comp Plain) (s : Emulation Comp)

/-- The NAS PDU of a message, decoded, and decapsulated if it is protected. -/
def rxNas (nus : NasUeState) (nasEnc : List UInt8) :
    Except Fault (NasUeState × PduNasEps Plain) :=
  (p.env.decPdu nasEnc).bind (fun nas =>
    match nas with
    | .plain _ => .ok (nus, nas)
    | .securityProtected _ => fNasTryDecaps p.env nus nas)

/-- Dispatch to the component of an association. -/
def rxDispatch (t : S1apAssociationTable Comp) (assocId : Fin 16) (msg : S1apPdu) :
    Except Fault (S1apAssociationTable Comp × List (Output Comp Plain)) :=
  (bound (t assocId).compRef).bind (fun vcConn =>
    match fS1apGetNasPdu msg with
    | none => .ok (t, [.clientS1ap vcConn msg])
    | some nasEnc =>
        (rxNas p (t assocId).nus nasEnc).map (fun r =>
          (setNus t assocId r.1,
            -- DL/UlNasTransport are not interesting
            (if trS1apDlNasTransport.accepts msg || trS1apUlNasTransport.accepts msg
              then [] else [.clientS1ap vcConn msg])
              ++ [.clientNas vcConn r.2])))

/-- A new association for a message whose ids are not known. -/
def rxCreate (msg : S1apPdu) : Except Fault (Emulation Comp × List (Output Comp Plain)) :=
  (p.createCb s.expect msg (fS1apGetMmeUeS1apId msg) (fS1apGetEnbUeS1apId msg)).bind
    (fun cb => (bound (fS1apGetEnbUeS1apId msg)).bind (fun enb =>
      (fS1apIdTableAdd s.table (fS1apGetMmeUeS1apId msg) cb.1 enb).map (fun added =>
        ({ s with
            table := added.2
            expect := cb.2 },
          [.clientS1ap cb.1 msg]))))

/-- InitialUE from a client. -/
def clientInitialUe (client : Comp) (msg : S1apPdu) :
    Except Fault (Emulation Comp × List (Output Comp Plain)) :=
  (bound (fS1apGetEnbUeS1apId msg)).bind (fun enb =>
    (fS1apIdTableAdd s.table none client enb).bind (fun added =>
      (bound (taiAt 2 msg.protocolIEs)).bind (fun tai =>
        (bound (eutranCgiAt 3 msg.protocolIEs)).map (fun cgi =>
          ({ s with
              table := Function.update added.2 added.1
                { added.2 added.1 with
                  tai := some tai
                  cgi := some cgi } },
            [.s1ap msg])))))

/-- A UE-related message of the peer, up to the release. -/
def rxUe (msg : S1apPdu) : Except Fault (Emulation Comp × List (Output Comp Plain)) :=
  (rxAssoc s.table (fS1apGetMmeUeS1apId msg) (fS1apGetEnbUeS1apId msg)).bind (fun r =>
    match r.1 with
    | some assocId =>
        (rxDispatch p r.2 assocId msg).map (fun d => ({ s with table := d.1 }, d.2))
    | none => rxCreate p { s with table := r.2 } msg)

end Main

section Loop

variable {Comp Plain : Type} [DecidableEq Comp] (p : Params Comp Plain)
variable (s : Emulation Comp)

/-- The release, if the message is one. -/
def rxRelease (msg : S1apPdu) (r : Emulation Comp × List (Output Comp Plain)) :
    Except Fault (Emulation Comp × List (Output Comp Plain)) :=
  if trS1apUeContextReleaseCmd.accepts msg then
    (handleUeContextReleaseCmd r.1.table msg).map (fun t => ({ r.1 with table := t }, r.2))
  else .ok r

/-- NAS from a client, wrapped in an Uplink NAS Transport. -/
def clientNas (client : Comp) (nas : PduNasEps Plain) :
    Except Fault (Emulation Comp × List (Output Comp Plain)) :=
  (fAssocIdByComp s.table client).bind (fun assocId =>
    (fNasEncaps p.env (s.table assocId).nus nas).bind (fun r =>
      (bound (s.table assocId).mmeUeS1apId).bind (fun mme =>
        (bound (s.table assocId).enbUeS1apId).bind (fun enb =>
          (bound (s.table assocId).cgi).bind (fun cgi =>
            (bound (s.table assocId).tai).map (fun tai =>
              ({ s with table := setNus s.table assocId r.1 },
                [.s1ap (tsS1apUlNasTransport mme enb (p.env.encPdu r.2) cgi tai)])))))))

/-- One round of the loop of `main`. -/
def mainStep : Input Comp Plain → Except Fault (Emulation Comp × List (Output Comp Plain))
  | .config client s1cfg =>
      (fAssocIdByComp s.table client).map (fun assocId =>
        ({ s with table := setNus s.table assocId (s1cfg.apply (s.table assocId).nus) }, []))
  | .clientNas client nas => clientNas p s client nas
  | .clientS1ap client msg =>
      if trS1apInitialUE.accepts msg then clientInitialUe s client msg
      else .ok (s, [.s1ap msg])
  | .unit msg => .ok (s, [.s1ap msg])
  | .rx msg =>
      if nonUErelated msg then
        .ok (s, (sendToS1apExpectTableProc s.expectProc msg).map (fun c => .clientS1ap c msg)
          ++ ((p.unitdataCb msg).map (fun resp => .s1ap resp)).toList)
      else (rxUe p s msg).bind (rxRelease msg)
  | .sctpEvent => .ok (s, [])
  | .register mmeId enbId vcConn =>
      (fCreateExpect s.expect mmeId enbId vcConn).map
        (fun expect => ({ s with expect := expect }, [.registered vcConn]))
  | .registerProc procedureCode vcConn =>
      (fCreateExpectProc s.expectProc procedureCode vcConn).map
        (fun expectProc => ({ s with expectProc := expectProc }, [.registered vcConn]))
  | .obtainMmeUeId client =>
      (fAssocIdByComp s.table client).bind (fun i =>
        (bound (s.table i).mmeUeS1apId).map (fun mme => (s, [.mmeUeId client mme])))
  | .deriveNasToken kasme client =>
      (fAssocIdByComp s.table client).map (fun assocId =>
        ({ s with
            table := setNus s.table assocId
              { (s.table assocId).nus with txCount := (s.table assocId).nus.txCount + 1 } },
          [.nasToken client (p.fKdfNasToken kasme (s.table assocId).nus.txCount)]))

end Loop

-- ── What the functions do to the table ───────────────────────────────────────

/-- Without an eNB id there is no MME id. -/
def Wf {Comp : Type} (t : S1apAssociationTable Comp) : Prop :=
  ∀ i, (t i).enbUeS1apId = none → (t i).mmeUeS1apId = none

/-- An association has a component. -/
def Owned {Comp : Type} (t : S1apAssociationTable Comp) : Prop :=
  ∀ i, (t i).enbUeS1apId ≠ none → (t i).compRef ≠ none

/-- What the association of a slot gets: it makes use of the NAS security state,
    or it has a location. -/
inductive Trace where
  | nas (k : Fin 16)
  | location (k : Fin 16)
  deriving DecidableEq

section Traces

variable {Comp Plain : Type} (p : Params Comp Plain) (t : S1apAssociationTable Comp)

/-- Whether a message has a NAS PDU that is protected. -/
def hasProtectedNas (msg : S1apPdu) : Bool :=
  match fS1apGetNasPdu msg with
  | none => false
  | some nasEnc =>
      match p.env.decPdu nasEnc with
      | .ok (.securityProtected _) => true
      | _ => false

/-- The slot of the association that a message of the peer is for. -/
def rxSlot (msg : S1apPdu) : Option (Fin 16) :=
  (rxAssoc t (fS1apGetMmeUeS1apId msg) (fS1apGetEnbUeS1apId msg)).toOption.bind Prod.fst

variable [DecidableEq Comp]

/-- The slot of the association of a component. -/
def compSlot (client : Comp) : Option (Fin 16) :=
  find t (fun a => decide (a.compRef = some client))

/-- What an input leaves in the slots. -/
def traces : Input Comp Plain → List Trace
  | .config client _ => (compSlot t client).toList.map .nas
  | .clientNas client _ => (compSlot t client).toList.map .nas
  | .deriveNasToken _ client => (compSlot t client).toList.map .nas
  | .clientS1ap _ msg =>
      if trS1apInitialUE.accepts msg then (freeSlot t).toList.map .location else []
  | .rx msg => if hasProtectedNas p msg then (rxSlot t msg).toList.map .nas else []
  | _ => []

end Traces

section Changes

variable {Comp : Type}

/-- One change of the table by an input that leaves these traces. -/
inductive Change (left : List Trace) (t : S1apAssociationTable Comp) :
    S1apAssociationTable Comp → Prop
  | fill (k : Fin 16) (mme : MmeUeS1apId) (hassoc : (t k).enbUeS1apId ≠ none) :
      Change left t (Function.update t k { t k with mmeUeS1apId := some mme })
  | nas (k : Fin 16) (nus : NasUeState) (hleft : .nas k ∈ left) :
      Change left t (setNus t k nus)
  | add (k : Fin 16) (client : Comp) (mmeId : Option MmeUeS1apId) (enb : EnbUeS1apId) :
      Change left t (Function.update t k
        { t k with
          enbUeS1apId := some enb
          mmeUeS1apId := mmeId
          compRef := some client })
  | locate (k : Fin 16) (tai : Tai) (cgi : EutranCgi) (hleft : .location k ∈ left) :
      Change left t (Function.update t k
        { t k with
          tai := some tai
          cgi := some cgi })
  | del (k : Fin 16) :
      Change left t (Function.update t k
        { t k with
          enbUeS1apId := none
          mmeUeS1apId := none
          compRef := none })

/-- What an input may do to the table. -/
abbrev Changes (left : List Trace) :
    S1apAssociationTable Comp → S1apAssociationTable Comp → Prop :=
  Relation.ReflTransGen (Change left)

variable {left : List Trace} {t t' : S1apAssociationTable Comp} {k : Fin 16}

theorem Wf.change (h : Wf t) (hchange : Change left t t') : Wf t' := by
  have hupdate : ∀ {i : Fin 16} {a : AssociationData Comp},
      (a.enbUeS1apId = none → a.mmeUeS1apId = none) → Wf (Function.update t i a) :=
    fun ha => (Function.forall_update_iff t
      (fun _ a => a.enbUeS1apId = none → a.mmeUeS1apId = none)).mpr ⟨ha, fun j _ => h j⟩
  cases hchange with
  | fill k mme hassoc => exact hupdate (fun henb => absurd henb hassoc)
  | nas k nus hleft => exact hupdate (h k)
  | add k client mmeId enb => exact hupdate (fun henb => nomatch henb)
  | locate k tai cgi hleft => exact hupdate (h k)
  | del k => exact hupdate (fun _ => rfl)

theorem Owned.change (h : Owned t) (hchange : Change left t t') : Owned t' := by
  have hupdate : ∀ {i : Fin 16} {a : AssociationData Comp},
      (a.enbUeS1apId ≠ none → a.compRef ≠ none) → Owned (Function.update t i a) :=
    fun ha => (Function.forall_update_iff t
      (fun _ a => a.enbUeS1apId ≠ none → a.compRef ≠ none)).mpr ⟨ha, fun j _ => h j⟩
  cases hchange with
  | fill k mme hassoc => exact hupdate (h k)
  | nas k nus hleft => exact hupdate (h k)
  | add k client mmeId enb => exact hupdate (fun _ => Option.some_ne_none client)
  | locate k tai cgi hleft => exact hupdate (h k)
  | del k => exact hupdate (fun hnone => absurd rfl hnone)

/-- A slot without a trace keeps its NAS state. -/
theorem Change.nas_same (hchange : Change left t t') (hk : .nas k ∉ left) :
    (t' k).nus = (t k).nus := by
  cases hchange with
  | fill i mme hassoc => exact update_field AssociationData.nus k
  | nas i nus hleft =>
      rw [setNus, Function.update_of_ne]
      rintro rfl
      exact hk hleft
  | add i client mmeId enb => exact update_field AssociationData.nus k
  | locate i tai cgi hleft => exact update_field AssociationData.nus k
  | del i => exact update_field AssociationData.nus k

/-- And its location. -/
theorem Change.location_same (hchange : Change left t t') (hk : .location k ∉ left) :
    (t' k).tai = (t k).tai ∧ (t' k).cgi = (t k).cgi := by
  cases hchange with
  | fill i mme hassoc =>
      exact ⟨update_field AssociationData.tai k, update_field AssociationData.cgi k⟩
  | nas i nus hleft =>
      exact ⟨update_field AssociationData.tai k, update_field AssociationData.cgi k⟩
  | add i client mmeId enb =>
      exact ⟨update_field AssociationData.tai k, update_field AssociationData.cgi k⟩
  | locate i tai cgi hleft =>
      rw [Function.update_of_ne]
      · exact ⟨rfl, rfl⟩
      · rintro rfl
        exact hk hleft
  | del i => exact ⟨update_field AssociationData.tai k, update_field AssociationData.cgi k⟩

/-- What every change keeps, an input keeps. -/
theorem Changes.keep {P : S1apAssociationTable Comp → Prop}
    (hkeep : ∀ {t t'}, P t → Change left t t' → P t') (h : P t)
    (hchanges : Changes left t t') : P t' := by
  induction hchanges with
  | refl => exact h
  | tail _ hchange ih => exact hkeep ih hchange

/-- What is not named keeps its NAS state. -/
theorem Changes.nas_same (hchanges : Changes left t t') (hk : .nas k ∉ left) :
    (t' k).nus = (t k).nus :=
  hchanges.keep (P := fun t'' => (t'' k).nus = (t k).nus)
    (fun h hchange => (hchange.nas_same hk).trans h) rfl

/-- What is not named keeps its location. -/
theorem Changes.location_same (hchanges : Changes left t t') (hk : .location k ∉ left) :
    (t' k).tai = (t k).tai ∧ (t' k).cgi = (t k).cgi :=
  hchanges.keep (P := fun t'' => (t'' k).tai = (t k).tai ∧ (t'' k).cgi = (t k).cgi)
    (fun h hchange => ⟨(hchange.location_same hk).1.trans h.1,
      (hchange.location_same hk).2.trans h.2⟩) ⟨rfl, rfl⟩

end Changes

section Functions

variable {Comp : Type} {left : List Trace} {t t' : S1apAssociationTable Comp}
variable {mmeId : Option MmeUeS1apId} {enbId : Option EnbUeS1apId}

theorem wf_init (role : NasRole) : Wf (fS1apIdTableInit role : S1apAssociationTable Comp) :=
  fun _ _ => rfl

theorem owned_init (role : NasRole) :
    Owned (fS1apIdTableInit role : S1apAssociationTable Comp) :=
  fun _ hassoc => absurd rfl hassoc

/-- The test of the ids fills in an MME id, or does nothing. -/
theorem fS1apIdsKnown_ok {known : Bool}
    (hok : fS1apIdsKnown t mmeId enbId = .ok (known, t')) :
    t' = t ∨ ∃ k mme, (t k).enbUeS1apId ≠ none
      ∧ t' = Function.update t k { t k with mmeUeS1apId := some mme } := by
  rw [fS1apIdsKnown] at hok
  cases hfind : knownEntry t mmeId enbId with
  | none =>
      rw [hfind, Option.elim_none] at hok
      obtain ⟨-, rfl⟩ := Prod.mk.inj (Except.ok.inj hok)
      exact Or.inl rfl
  | some k =>
      rw [hfind, Option.elim_some] at hok
      by_cases hnone : (t k).mmeUeS1apId = none
      · rw [if_pos hnone] at hok
        obtain ⟨mme, -, hupdate⟩ := map_ok hok
        obtain ⟨-, rfl⟩ := Prod.mk.inj hupdate
        refine Or.inr ⟨k, mme, fun henb => ?_, rfl⟩
        -- the entry is not empty
        have haccepts := find_accepts hfind
        rw [idsKnownAt, if_pos ⟨hnone, henb⟩] at haccepts
        exact nomatch haccepts
      · rw [if_neg hnone] at hok
        obtain ⟨-, rfl⟩ := Prod.mk.inj (Except.ok.inj hok)
        exact Or.inl rfl

theorem fS1apIdsKnown_changes {known : Bool}
    (hok : fS1apIdsKnown t mmeId enbId = .ok (known, t')) : Changes left t t' := by
  rcases fS1apIdsKnown_ok hok with rfl | ⟨k, mme, hassoc, rfl⟩
  · exact .refl
  · exact .single (.fill k mme hassoc)

theorem fS1apIdsKnown_wf {known : Bool} (h : Wf t)
    (hok : fS1apIdsKnown t mmeId enbId = .ok (known, t')) : Wf t' := by
  have hchanges : Changes [] t t' := fS1apIdsKnown_changes hok
  exact hchanges.keep (fun h hchange => h.change hchange) h

theorem fS1apIdTableAdd_ok {client : Comp} {enb : EnbUeS1apId}
    {added : Fin 16 × S1apAssociationTable Comp}
    (h : fS1apIdTableAdd t mmeId client enb = .ok added) :
    freeSlot t = some added.1 ∧ added.2 = Function.update t added.1
      { t added.1 with
        enbUeS1apId := some enb
        mmeUeS1apId := mmeId
        compRef := some client } := by
  rw [fS1apIdTableAdd] at h
  obtain ⟨k, hfree, rfl⟩ := map_ok h
  exact ⟨orShutdown_eq_ok.mp hfree, rfl⟩

/-- The association that is dispatched to, and the table after the test. -/
theorem rxAssoc_ok {assoc : Option (Fin 16)}
    (hok : rxAssoc t mmeId enbId = .ok (assoc, t')) :
    ∃ known, fS1apIdsKnown t mmeId enbId = .ok (known, t')
      ∧ ∀ i, assoc = some i → fAssocIdByS1apIds t' mmeId enbId = .ok i := by
  rw [rxAssoc] at hok
  obtain ⟨⟨known, t1⟩, hknown, hok⟩ := bind_ok hok
  cases known with
  | false =>
      obtain ⟨rfl, rfl⟩ := Prod.mk.inj (Except.ok.inj hok)
      exact ⟨false, hknown, fun i hi => nomatch hi⟩
  | true =>
      obtain ⟨k, hlook, hr⟩ := map_ok hok
      obtain ⟨rfl, rfl⟩ := Prod.mk.inj hr
      refine ⟨true, hknown, fun i hi => ?_⟩
      rw [← Option.some.inj hi]
      exact hlook

/-- Ids that nobody has address nobody. -/
theorem rxAssoc_unknown (h : knownEntry t mmeId enbId = none) :
    rxAssoc t mmeId enbId = .ok (none, t) := by
  rw [rxAssoc, fS1apIdsKnown, h]
  rfl

variable [DecidableEq Comp]

/-- A release takes the ids away from one association. -/
theorem handleUeContextReleaseCmd_ok {msg : S1apPdu}
    (hok : handleUeContextReleaseCmd t msg = .ok t') :
    ∃ k, t' = Function.update t k
      { t k with
        enbUeS1apId := none
        mmeUeS1apId := none
        compRef := none } := by
  rw [handleUeContextReleaseCmd] at hok
  cases hmme : mmeOfIds msg.protocolIEs with
  | none =>
      simp only [hmme] at hok
      exact nomatch hok
  | some mme =>
      cases henb : enbOfIds msg.protocolIEs with
      | none =>
          simp only [hmme, henb] at hok
          exact nomatch hok
      | some enb =>
          simp only [hmme, henb] at hok
          obtain ⟨assocId, -, hdel⟩ := bind_ok hok
          rw [fS1apIdTableDel] at hdel
          obtain ⟨k, -, rfl⟩ := map_ok hdel
          exact ⟨k, rfl⟩

end Functions

-- ── Steps ────────────────────────────────────────────────────────────────────

section Steps

variable {Comp Plain : Type} {p : Params Comp Plain} {s s' : Emulation Comp}
variable {t t' : S1apAssociationTable Comp} {msg : S1apPdu} {os : List (Output Comp Plain)}

/-- A NAS PDU that is not protected leaves the NAS state. -/
theorem rxDispatch_ok {assocId : Fin 16}
    (hok : rxDispatch p t assocId msg = .ok (t', os)) :
    t' = t ∨ hasProtectedNas p msg = true ∧ ∃ nus, t' = setNus t assocId nus := by
  rw [rxDispatch] at hok
  obtain ⟨vcConn, -, hok⟩ := bind_ok hok
  cases hnas : fS1apGetNasPdu msg with
  | none =>
      simp only [hnas] at hok
      obtain ⟨rfl, -⟩ := Prod.mk.inj (Except.ok.inj hok)
      exact Or.inl rfl
  | some nasEnc =>
      simp only [hnas] at hok
      obtain ⟨r, hnas', hr⟩ := map_ok hok
      obtain ⟨rfl, -⟩ := Prod.mk.inj hr
      rw [rxNas] at hnas'
      obtain ⟨nas, hdec, hnas'⟩ := bind_ok hnas'
      cases nas with
      | plain nas =>
          rw [← Except.ok.inj hnas']
          exact Or.inl (Function.update_eq_self assocId t)
      | securityProtected secpNas =>
          refine Or.inr ⟨?_, r.1, rfl⟩
          rw [hasProtectedNas, hnas]
          simp only [hdec]

/-- A message whose ids are not known. -/
theorem rxCreate_ok (hok : rxCreate p s msg = .ok (s', os)) :
    ∃ client enb added, fS1apIdTableAdd s.table (fS1apGetMmeUeS1apId msg) client enb
      = .ok added ∧ s'.table = added.2 := by
  rw [rxCreate] at hok
  obtain ⟨cb, -, hok⟩ := bind_ok hok
  obtain ⟨enb, -, hok⟩ := bind_ok hok
  obtain ⟨added, hadded, hr⟩ := map_ok hok
  obtain ⟨rfl, -⟩ := Prod.mk.inj hr
  exact ⟨cb.1, enb, added, hadded, rfl⟩

/-- An INITIAL UE MESSAGE makes an association with a location. -/
theorem clientInitialUe_ok {client : Comp}
    (hok : clientInitialUe s client msg = .ok (s', os)) :
    ∃ enb added tai cgi, fS1apIdTableAdd s.table none client enb = .ok added
      ∧ taiAt 2 msg.protocolIEs = some tai ∧ eutranCgiAt 3 msg.protocolIEs = some cgi
      ∧ s'.table = Function.update added.2 added.1
          { added.2 added.1 with
            tai := some tai
            cgi := some cgi } := by
  rw [clientInitialUe] at hok
  obtain ⟨enb, -, hok⟩ := bind_ok hok
  obtain ⟨added, hadded, hok⟩ := bind_ok hok
  obtain ⟨tai, htai, hok⟩ := bind_ok hok
  obtain ⟨cgi, hcgi, hr⟩ := map_ok hok
  obtain ⟨rfl, -⟩ := Prod.mk.inj hr
  exact ⟨enb, added, tai, cgi, hadded, bound_ok htai, bound_ok hcgi, rfl⟩

/-- What adds an association changes the table. -/
theorem fS1apIdTableAdd_changes {left : List Trace} {mmeId : Option MmeUeS1apId}
    {client : Comp} {enb : EnbUeS1apId} {added : Fin 16 × S1apAssociationTable Comp}
    (h : fS1apIdTableAdd t mmeId client enb = .ok added) : Changes left t added.2 := by
  rw [(fS1apIdTableAdd_ok h).2]
  exact .single (.add added.1 client mmeId enb)

theorem clientInitialUe_changes {client : Comp} {left : List Trace}
    (hleft : ∀ k, freeSlot s.table = some k → .location k ∈ left)
    (hok : clientInitialUe s client msg = .ok (s', os)) :
    Changes left s.table s'.table := by
  obtain ⟨enb, added, tai, cgi, hadded, -, -, htable⟩ := clientInitialUe_ok hok
  rw [htable]
  exact (fS1apIdTableAdd_changes hadded).tail
    (.locate added.1 tai cgi (hleft added.1 (fS1apIdTableAdd_ok hadded).1))

/-- A message about a UE changes that UE's association only. -/
theorem rxUe_changes {left : List Trace}
    (hleft : hasProtectedNas p msg = true → ∀ k, rxSlot s.table msg = some k →
      .nas k ∈ left)
    (hok : rxUe p s msg = .ok (s', os)) : Changes left s.table s'.table := by
  rw [rxUe] at hok
  obtain ⟨⟨assoc, t1⟩, hassoc, hok⟩ := bind_ok hok
  obtain ⟨known, hknown, -⟩ := rxAssoc_ok hassoc
  have htest : Changes left s.table t1 := fS1apIdsKnown_changes hknown
  cases assoc with
  | some assocId =>
      obtain ⟨⟨t2, os2⟩, hdispatch, hr⟩ := map_ok hok
      obtain ⟨rfl, -⟩ := Prod.mk.inj hr
      rcases rxDispatch_ok hdispatch with rfl | ⟨hprotected, nus, rfl⟩
      · exact htest
      · have hslot : rxSlot s.table msg = some assocId := by
          rw [rxSlot, hassoc]
          rfl
        exact htest.tail (.nas assocId nus (hleft hprotected assocId hslot))
  | none =>
      obtain ⟨client, enb, added, hadded, htable⟩ := rxCreate_ok hok
      rw [htable]
      exact htest.trans (fS1apIdTableAdd_changes hadded)

variable [DecidableEq Comp]

/-- A NAS message of a component counts in its own association. -/
theorem clientNas_ok {client : Comp} {nas : PduNasEps Plain}
    (hok : clientNas p s client nas = .ok (s', os)) :
    ∃ i nus, compSlot s.table client = some i ∧ s'.table = setNus s.table i nus := by
  rw [clientNas] at hok
  obtain ⟨i, hslot, hok⟩ := bind_ok hok
  obtain ⟨r, -, hok⟩ := bind_ok hok
  obtain ⟨mme, -, hok⟩ := bind_ok hok
  obtain ⟨enb, -, hok⟩ := bind_ok hok
  obtain ⟨cgi, -, hok⟩ := bind_ok hok
  obtain ⟨tai, -, hr⟩ := map_ok hok
  obtain ⟨rfl, -⟩ := Prod.mk.inj hr
  exact ⟨i, r.1, orShutdown_eq_ok.mp hslot, rfl⟩

theorem rxRelease_ok {r : Emulation Comp × List (Output Comp Plain)}
    (hok : rxRelease msg r = .ok (s', os)) :
    s'.table = r.1.table ∨ handleUeContextReleaseCmd r.1.table msg = .ok s'.table := by
  rw [rxRelease] at hok
  by_cases hrelease : trS1apUeContextReleaseCmd.accepts msg = true
  · rw [if_pos hrelease] at hok
    obtain ⟨t, ht, hr⟩ := map_ok hok
    obtain ⟨rfl, -⟩ := Prod.mk.inj hr
    exact Or.inr ht
  · rw [if_neg hrelease] at hok
    obtain ⟨rfl, -⟩ := Prod.mk.inj (Except.ok.inj hok)
    exact Or.inl rfl

theorem rxRelease_changes {left : List Trace} {r : Emulation Comp × List (Output Comp Plain)}
    (hok : rxRelease msg r = .ok (s', os)) : Changes left r.1.table s'.table := by
  rcases rxRelease_ok hok with htable | hhandle
  · rw [htable]
  · obtain ⟨k, htable⟩ := handleUeContextReleaseCmd_ok hhandle
    rw [htable]
    exact .single (.del k)

/-- **WHAT A STEP DOES TO THE TABLE**: the changes that its input may make. -/
theorem mainStep_changes (i : Input Comp Plain) (hok : mainStep p s i = .ok (s', os)) :
    Changes (traces p s.table i) s.table s'.table := by
  cases i with
  | config client s1cfg =>
      obtain ⟨k, hslot, hr⟩ := map_ok hok
      obtain ⟨rfl, -⟩ := Prod.mk.inj hr
      exact .single (.nas k _ (mem_found (orShutdown_eq_ok.mp hslot)))
  | clientNas client nas =>
      obtain ⟨k, nus, hslot, htable⟩ := clientNas_ok hok
      rw [htable]
      exact .single (.nas k nus (mem_found hslot))
  | clientS1ap client msg =>
      rw [mainStep] at hok
      by_cases hinitial : trS1apInitialUE.accepts msg = true
      · rw [if_pos hinitial] at hok
        refine clientInitialUe_changes (fun k hfree => ?_) hok
        rw [traces, if_pos hinitial]
        exact mem_found hfree
      · rw [if_neg hinitial] at hok
        obtain ⟨rfl, -⟩ := Prod.mk.inj (Except.ok.inj hok)
        exact .refl
  | rx msg =>
      rw [mainStep] at hok
      by_cases hunit : nonUErelated msg = true
      · rw [if_pos hunit] at hok
        obtain ⟨rfl, -⟩ := Prod.mk.inj (Except.ok.inj hok)
        exact .refl
      · rw [if_neg hunit] at hok
        obtain ⟨⟨s1, os1⟩, hue, hrelease⟩ := bind_ok hok
        refine Relation.ReflTransGen.trans (rxUe_changes ?_ hue) (rxRelease_changes hrelease)
        intro hprotected k hslot
        rw [traces, if_pos hprotected]
        exact mem_found hslot
  | unit msg =>
      obtain ⟨rfl, -⟩ := Prod.mk.inj (Except.ok.inj hok)
      exact .refl
  | sctpEvent =>
      obtain ⟨rfl, -⟩ := Prod.mk.inj (Except.ok.inj hok)
      exact .refl
  | register mmeId enbId vcConn =>
      obtain ⟨expect, -, hr⟩ := map_ok hok
      obtain ⟨rfl, -⟩ := Prod.mk.inj hr
      exact .refl
  | registerProc procedureCode vcConn =>
      obtain ⟨expectProc, -, hr⟩ := map_ok hok
      obtain ⟨rfl, -⟩ := Prod.mk.inj hr
      exact .refl
  | obtainMmeUeId client =>
      obtain ⟨assocId, -, hok⟩ := bind_ok hok
      obtain ⟨mme, -, hr⟩ := map_ok hok
      obtain ⟨rfl, -⟩ := Prod.mk.inj hr
      exact .refl
  | deriveNasToken kasme client =>
      obtain ⟨k, hslot, hr⟩ := map_ok hok
      obtain ⟨rfl, -⟩ := Prod.mk.inj hr
      exact .single (.nas k _ (mem_found (orShutdown_eq_ok.mp hslot)))

/-- **THE TABLE STAYS WELL FORMED.** -/
theorem mainStep_wf (i : Input Comp Plain) (h : Wf s.table)
    (hok : mainStep p s i = .ok (s', os)) : Wf s'.table :=
  (mainStep_changes i hok).keep (fun h hchange => h.change hchange) h

/-- **EVERY ASSOCIATION KEEPS ITS COMPONENT.** -/
theorem mainStep_owned (i : Input Comp Plain) (h : Owned s.table)
    (hok : mainStep p s i = .ok (s', os)) : Owned s'.table :=
  (mainStep_changes i hok).keep (fun h hchange => h.change hchange) h

end Steps

-- ── Test and lookup ──────────────────────────────────────────────────────────

section Ids

variable {Comp : Type}

/-- The two ids of an association. -/
def idsView : TwoIds.View (AssociationData Comp) MmeUeS1apId EnbUeS1apId where
  ids a := (a.mmeUeS1apId, a.enbUeS1apId)
  fill a mme := { a with mmeUeS1apId := some mme }
  ids_fill _ _ := rfl

variable {t t' : S1apAssociationTable Comp} {i : Fin 16}
variable {ids : Option MmeUeS1apId × Option EnbUeS1apId}

theorem idsKnownAt_eq (a : AssociationData Comp) :
    idsKnownAt ids.1 ids.2 a = TwoIds.accepts (idsView.ids a) ids := by
  rw [idsKnownAt, TwoIds.accepts]
  cases hmme : a.mmeUeS1apId with
  | none =>
      cases henb : a.enbUeS1apId with
      | none => simp [idsView, hmme, henb]
      | some enb => simp [idsView, hmme, henb]
  | some mme => simp [idsView, hmme]

/-- The test of the ids is that of a table with two ids. -/
theorem fS1apIdsKnown_eq (t : S1apAssociationTable Comp)
    (ids : Option MmeUeS1apId × Option EnbUeS1apId) :
    fS1apIdsKnown t ids.1 ids.2 = TwoIds.known idsView t ids .unbound := by
  have hfind : knownEntry t ids.1 ids.2 = TwoIds.accepted idsView t ids := by
    rw [knownEntry, TwoIds.accepted]
    exact congrArg (find t) (funext idsKnownAt_eq)
  rw [fS1apIdsKnown, TwoIds.known, hfind]
  cases TwoIds.accepted idsView t ids with
  | none => rfl
  | some k =>
      rw [Option.elim_some]
      cases hmme : (t k).mmeUeS1apId with
      | none =>
          rw [if_pos rfl]
          cases hfst : ids.1 with
          | none => simp [idsView, hmme, bound, Except.map]
          | some mme => simp [idsView, hmme, bound, Except.map]
      | some mme => simp [idsView, hmme]

theorem assocIdAt_eq {a : AssociationData Comp} (h : a.enbUeS1apId = none → a.mmeUeS1apId = none)
    (hids : ids.1 ≠ none ∨ ids.2 ≠ none) :
    assocIdAt ids.1 ids.2 a = TwoIds.looksUp (idsView.ids a) ids := by
  rw [assocIdAt, TwoIds.looksUp]
  cases henb : a.enbUeS1apId with
  | some enb => simp [idsView, henb]
  | none =>
      -- an empty entry has none of the ids
      have hmme := h henb
      rcases hids with hfst | hsnd
      · obtain ⟨mme, hmme'⟩ := Option.ne_none_iff_exists'.mp hfst
        simp [idsView, henb, hmme, hmme']
      · obtain ⟨enb, henb'⟩ := Option.ne_none_iff_exists'.mp hsnd
        simp [idsView, henb, henb']

/-- In a table that is well formed so is the lookup. -/
theorem fAssocIdByS1apIds_ok (h : Wf t) :
    TwoIds.lookup idsView t ids Fault.unbound = .ok i
      ↔ fAssocIdByS1apIds t ids.1 ids.2 = .ok i := by
  rw [fAssocIdByS1apIds, Bool.and_comm, TwoIds.lookup_ok_iff, TwoIds.unlessNoId_ok]
  refine and_congr_right (fun hids => ?_)
  have hfind : find t (assocIdAt ids.1 ids.2)
      = find t (fun a => TwoIds.looksUp (idsView.ids a) ids) := by
    rw [find, find]
    exact congrArg Fin.find? (funext (fun j => assocIdAt_eq (h j) hids))
  rw [hfind, orShutdown_eq_ok]

/-- **THE LOOKUP IS RIGHT** for a pair of ids: the test and the lookup agree, and
    an association that the pair names gets the message. -/
def LookupRight (t : S1apAssociationTable Comp)
    (ids : Option MmeUeS1apId × Option EnbUeS1apId) : Prop :=
  TwoIds.Consistent idsView (fun t ids => fS1apIdsKnown t ids.1 ids.2)
      (fun t ids => fAssocIdByS1apIds t ids.1 ids.2) t ids
    ∧ ∀ i, TwoIds.Addresses (idsView.ids (t i)) ids →
      ∃ t', rxAssoc t ids.1 ids.2 = .ok (some i, t')

/-- The look-up is right if no ids are split over two entries. -/
theorem lookupRight_iff (h : Wf t) : LookupRight t ids ↔ TwoIds.Sound idsView t ids := by
  refine Iff.trans ⟨fun h => h.1, fun h => ⟨h, fun i hi => h.dispatch hi⟩⟩
    (TwoIds.Consistent.iff_sound Fault.unbound Fault.unbound ?_ ?_)
  · exact fS1apIdsKnown_eq t ids
  · intro b t' hok i
    exact fAssocIdByS1apIds_ok (fS1apIdsKnown_wf h hok)

end Ids

-- ── Messages to their associations ───────────────────────────────────────────

/-- The ids in the IEs of a message are those of the association: one of them at
    least, and none of another. -/
def Names {Comp : Type} (msg : S1apPdu) (a : AssociationData Comp) : Prop :=
  ((∃ mme, CarriesMme msg mme ∧ a.mmeUeS1apId = some mme)
      ∨ ∃ enb, CarriesEnb msg enb ∧ a.enbUeS1apId = some enb)
    ∧ (∀ mme, CarriesMme msg mme → a.mmeUeS1apId = none ∨ a.mmeUeS1apId = some mme)
    ∧ ∀ enb, CarriesEnb msg enb → a.enbUeS1apId = none ∨ a.enbUeS1apId = some enb

/-- The ids that are found in a message are all that it has. -/
def FindsIds (msg : S1apPdu) (ids : Option MmeUeS1apId × Option EnbUeS1apId) : Prop :=
  (fS1apGetMmeUeS1apId msg, fS1apGetEnbUeS1apId msg) = ids
    ∧ (∀ mme, CarriesMme msg mme → ids.1 = some mme)
    ∧ ∀ enb, CarriesEnb msg enb → ids.2 = some enb

/-- **A MESSAGE GETS TO ITS ASSOCIATION**: its component gets the message, unless
    it is a NAS transport, and the NAS PDU; nothing but a NAS PDU that is not
    decoded or not decapsulated stops the test. -/
def Served {Comp Plain : Type} [DecidableEq Comp] (p : Params Comp Plain)
    (s : Emulation Comp) (a : AssociationData Comp) (msg : S1apPdu) : Prop :=
  ∃ client, a.compRef = some client ∧
    match fS1apGetNasPdu msg with
    | none => ∃ s', mainStep p s (.rx msg) = .ok (s', [.clientS1ap client msg])
    | some nasEnc =>
        match rxNas p a.nus nasEnc with
        | .error e => mainStep p s (.rx msg) = .error e
        | .ok (_, nas) => ∃ s', mainStep p s (.rx msg) = .ok (s',
            (if trS1apDlNasTransport.accepts msg || trS1apUlNasTransport.accepts msg
              then [] else [.clientS1ap client msg]) ++ [.clientNas client nas])

section Served

variable {Comp Plain : Type} {p : Params Comp Plain} {s : Emulation Comp}
variable {t t' : S1apAssociationTable Comp} {msg : S1apPdu} {i : Fin 16}
variable {ids : Option MmeUeS1apId × Option EnbUeS1apId}

/-- Where all ids are found, they name the association as well. -/
theorem Names.addresses {a : AssociationData Comp} (h : Names msg a)
    (hfinds : FindsIds msg ids) : TwoIds.Addresses (idsView.ids a) ids := by
  obtain ⟨hone, hmme, henb⟩ := h
  obtain ⟨rfl, hallMme, hallEnb⟩ := hfinds
  refine ⟨?_, ?_, ?_⟩
  · rcases hone with ⟨mme, hcarries, hsame⟩ | ⟨enb, hcarries, hsame⟩
    · have hfound := hallMme mme hcarries
      refine Or.inl ⟨?_, hsame.trans hfound.symm⟩
      rw [hfound]
      exact Option.some_ne_none mme
    · have hfound := hallEnb enb hcarries
      refine Or.inr ⟨?_, hsame.trans hfound.symm⟩
      rw [hfound]
      exact Option.some_ne_none enb
  · cases hfound : fS1apGetMmeUeS1apId msg with
    | none => exact Or.inr (Or.inl rfl)
    | some mme => exact (hmme mme (mmeUeId_carried hfound)).imp_right Or.inr
  · cases hfound : fS1apGetEnbUeS1apId msg with
    | none => exact Or.inr (Or.inl rfl)
    | some enb => exact (henb enb (enbUeId_carried hfound)).imp_right Or.inr

/-- Only with both ids does a sound pair name an association. -/
theorem sound_both (hwf : Wf t) (hsound : TwoIds.Sound idsView t ids)
    (haddr : TwoIds.Addresses (idsView.ids (t i)) ids) :
    ∃ mme enb, ids = (some mme, some enb) := by
  obtain ⟨mmeId, enbId⟩ := ids
  cases mmeId with
  | none =>
      rcases haddr.1 with ⟨habs, -⟩ | ⟨hne, henb⟩
      · exact absurd rfl habs
      · obtain ⟨enb, rfl⟩ := Option.ne_none_iff_exists'.mp hne
        exact absurd henb (hsound i)
  | some mme =>
      cases enbId with
      | some enb => exact ⟨mme, enb, rfl⟩
      | none =>
          rcases haddr.1 with ⟨-, hmme⟩ | ⟨habs, -⟩
          · have hnone := hwf i (hsound.2 i hmme)
            rw [show (idsView.ids (t i)).1 = (t i).mmeUeS1apId from rfl, hnone] at hmme
            exact nomatch hmme
          · exact absurd rfl habs

/-- The association that is dispatched to has the ids of the message, and is what
    it was before the test otherwise. -/
theorem rxAssoc_found {mme : MmeUeS1apId} {enb : EnbUeS1apId}
    (h : rxAssoc t (some mme) (some enb) = .ok (some i, t')) :
    (t' i).mmeUeS1apId = some mme ∧ (t' i).enbUeS1apId = some enb
      ∧ (t' i).compRef = (t i).compRef ∧ (t' i).nus = (t i).nus := by
  obtain ⟨known, hknown, hlook⟩ := rxAssoc_ok h
  have hlook := hlook i rfl
  rw [fAssocIdByS1apIds, if_neg (by simp), orShutdown_eq_ok] at hlook
  have haccepts := find_accepts hlook
  simp only [assocIdAt, Option.isNone_some, Bool.false_or, Bool.and_eq_true,
    decide_eq_true_eq] at haccepts
  refine ⟨haccepts.2, haccepts.1.2, ?_⟩
  rcases fS1apIdsKnown_ok hknown with rfl | ⟨k, filled, -, rfl⟩
  · exact ⟨rfl, rfl⟩
  · exact ⟨update_field AssociationData.compRef i, update_field AssociationData.nus i⟩

variable [DecidableEq Comp]

/-- The release of an association that is there. -/
theorem handleUeContextReleaseCmd_returns {mme : MmeUeS1apId} {enb : EnbUeS1apId}
    (hids : mmeOfIds msg.protocolIEs = some mme ∧ enbOfIds msg.protocolIEs = some enb)
    (hmme : (t i).mmeUeS1apId = some mme) (henb : (t i).enbUeS1apId = some enb) :
    ∃ t', handleUeContextReleaseCmd t msg = .ok t' := by
  have haccepts : assocIdAt (some mme) (some enb) (t i) = true := by
    rw [assocIdAt, hmme, henb]
    simp
  obtain ⟨k, hk⟩ := exists_find haccepts
  have hkenb : (t k).enbUeS1apId = some enb := by
    have hkaccepts := find_accepts hk
    simp only [assocIdAt, Option.isNone_some, Bool.false_or, Bool.and_eq_true,
      decide_eq_true_eq] at hkaccepts
    exact hkaccepts.1.2
  obtain ⟨d, hd⟩ := exists_find (t := t) (i := k)
    (p := fun a => decide (a.compRef = (t k).compRef ∧ a.enbUeS1apId = some enb))
    (decide_eq_true ⟨rfl, hkenb⟩)
  rw [handleUeContextReleaseCmd, hids.1, hids.2]
  show ∃ t', (fAssocIdByS1apIds t (some mme) (some enb)).bind _ = .ok t'
  rw [fAssocIdByS1apIds, if_neg (by simp), orShutdown_eq_ok.mpr hk]
  show ∃ t', fS1apIdTableDel t (t k).compRef enb = .ok t'
  rw [fS1apIdTableDel, orShutdown_eq_ok.mpr hd]
  exact ⟨_, rfl⟩

/-- The release that follows a dispatch comes through. -/
theorem rxRelease_returns {mme : MmeUeS1apId} {enb : EnbUeS1apId}
    (hfinds : FindsIds msg (some mme, some enb)) (hmme : (s.table i).mmeUeS1apId = some mme)
    (henb : (s.table i).enbUeS1apId = some enb) (os : List (Output Comp Plain)) :
    ∃ s', rxRelease msg (s, os) = .ok (s', os) := by
  rw [rxRelease]
  by_cases hrelease : trS1apUeContextReleaseCmd.accepts msg = true
  · rw [if_pos hrelease]
    obtain ⟨hgetMme, hgetEnb⟩ := Prod.mk.inj hfinds.1
    obtain ⟨t', ht'⟩ := handleUeContextReleaseCmd_returns
      ⟨(mmeUeId_release hrelease).symm.trans hgetMme,
        (enbUeId_release hrelease).symm.trans hgetEnb⟩ hmme henb
    rw [ht']
    exact ⟨_, rfl⟩
  · rw [if_neg hrelease]
    exact ⟨s, rfl⟩

/-- **A MESSAGE WHOSE IDS ARE SOUND GETS TO ITS ASSOCIATION.** -/
theorem mainStep_served (hwf : Wf s.table) (howned : Owned s.table)
    (hue : nonUErelated msg = false) (hfinds : FindsIds msg ids)
    (hsound : TwoIds.Sound idsView s.table ids) (hnames : Names msg (s.table i)) :
    Served p s (s.table i) msg := by
  have haddr := hnames.addresses hfinds
  obtain ⟨mme, enb, rfl⟩ := sound_both hwf hsound haddr
  obtain ⟨t', hassoc⟩ := ((lookupRight_iff hwf).mpr hsound).2 i haddr
  obtain ⟨hmme, henb, hcomp, hnus⟩ := rxAssoc_found hassoc
  have hlive : (s.table i).enbUeS1apId ≠ none := by
    intro hnone
    rcases haddr.1 with ⟨-, hsame⟩ | ⟨-, hsame⟩
    · rw [show (idsView.ids (s.table i)).1 = (s.table i).mmeUeS1apId from rfl,
        hwf i hnone] at hsame
      exact nomatch hsame
    · rw [show (idsView.ids (s.table i)).2 = (s.table i).enbUeS1apId from rfl,
        hnone] at hsame
      exact nomatch hsame
  obtain ⟨client, hclient⟩ := Option.ne_none_iff_exists'.mp (howned i hlive)
  refine ⟨client, hclient, ?_⟩
  -- the dispatch, behind the test and the lookup
  have hrx : rxUe p s msg = (rxDispatch p t' i msg).map
      (fun d => ({ s with table := d.1 }, d.2)) := by
    obtain ⟨hgetMme, hgetEnb⟩ := Prod.mk.inj hfinds.1
    rw [rxUe, hgetMme, hgetEnb, hassoc]
    rfl
  have hstep : mainStep p s (.rx msg) = ((rxDispatch p t' i msg).map
      (fun d => (({ s with table := d.1 } : Emulation Comp), d.2))).bind (rxRelease msg) := by
    rw [mainStep, if_neg (Bool.eq_false_iff.mp hue), hrx]
  rw [hstep, rxDispatch, hcomp, hclient]
  cases hnas : fS1apGetNasPdu msg with
  | none =>
      show ∃ s', rxRelease msg ({ s with table := t' }, [.clientS1ap client msg]) = .ok (s', _)
      exact rxRelease_returns (s := { s with table := t' }) hfinds hmme henb _
  | some nasEnc =>
      rw [← hnus]
      cases hdec : rxNas p (t' i).nus nasEnc with
      | error e => simp only [hdec]; rfl
      | ok r =>
          simp only [hdec]
          refine rxRelease_returns (s := { s with table := setNus t' i r.1 }) (i := i)
            hfinds ?_ ?_ _
          · exact (update_field AssociationData.mmeUeS1apId i).trans hmme
          · exact (update_field AssociationData.enbUeS1apId i).trans henb

end Served

-- ── New associations ─────────────────────────────────────────────────────────

section New

variable {Comp Plain : Type}

/-- Whether an input makes a new association: an InitialUE of a client, or a
    message of the peer with ids that are not known. -/
def Creates (t : S1apAssociationTable Comp) : Input Comp Plain → Prop
  | .clientS1ap _ msg => trS1apInitialUE.accepts msg = true
  | .rx msg => nonUErelated msg = false
      ∧ knownEntry t (fS1apGetMmeUeS1apId msg) (fS1apGetEnbUeS1apId msg) = none
  | _ => False

/-- **A FRESH ASSOCIATION**: its NAS state is as the initialisation makes it, and
    its location is that of the message. -/
def Fresh (role : NasRole) (a : AssociationData Comp) : Input Comp Plain → Prop
  | .clientS1ap _ msg => a.nus = tNasUeState role ∧ a.tai = taiAt 2 msg.protocolIEs
      ∧ a.cgi = eutranCgiAt 3 msg.protocolIEs
  | _ => a.nus = tNasUeState role ∧ a.tai = none ∧ a.cgi = none

/-- No association that the slot had before has left what a new one takes over. -/
def Unused (past : List Trace) (k : Fin 16) : Input Comp Plain → Prop
  | .clientS1ap _ _ => .nas k ∉ past
  | _ => .nas k ∉ past ∧ .location k ∉ past

/-- A slot without traces is as the initialisation made it. -/
structure Untouched (role : NasRole) (past : List Trace) (t : S1apAssociationTable Comp) :
    Prop where
  nus : ∀ k, .nas k ∉ past → (t k).nus = tNasUeState role
  location : ∀ k, .location k ∉ past → (t k).tai = none ∧ (t k).cgi = none

theorem untouched_init (role : NasRole) :
    Untouched role [] (fS1apIdTableInit role : S1apAssociationTable Comp) where
  nus := fun _ _ => rfl
  location := fun _ _ => ⟨rfl, rfl⟩

variable {p : Params Comp Plain} {s s' : Emulation Comp} {k : Fin 16} {msg : S1apPdu}
variable {os : List (Output Comp Plain)} {role : NasRole} {past left : List Trace}
variable {t t' : S1apAssociationTable Comp}

/-- What no change has named is untouched. -/
theorem Untouched.changes (h : Untouched role past t) (hchanges : Changes left t t') :
    Untouched role (past ++ left) t' where
  nus := by
    intro k hk
    rw [List.mem_append, not_or] at hk
    rw [hchanges.nas_same hk.2]
    exact h.nus k hk.1
  location := by
    intro k hk
    rw [List.mem_append, not_or] at hk
    obtain ⟨htai, hcgi⟩ := hchanges.location_same hk.2
    rw [htai, hcgi]
    exact h.location k hk.1

/-- What the client creates has its location from the message. -/
theorem clientInitialUe_context {client : Comp} (hfree : freeSlot s.table = some k)
    (hok : clientInitialUe s client msg = .ok (s', os)) :
    (s'.table k).nus = (s.table k).nus ∧ (s'.table k).tai = taiAt 2 msg.protocolIEs
      ∧ (s'.table k).cgi = eutranCgiAt 3 msg.protocolIEs := by
  obtain ⟨enb, added, tai, cgi, hadded, htai, hcgi, htable⟩ := clientInitialUe_ok hok
  obtain ⟨hslot, hadd⟩ := fS1apIdTableAdd_ok hadded
  have hk : added.1 = k := Option.some.inj (hslot.symm.trans hfree)
  rw [htable, hadd, hk, Function.update_self, Function.update_self, htai, hcgi]
  exact ⟨rfl, rfl, rfl⟩

variable [DecidableEq Comp]

/-- The message of the peer that makes a new association leaves no traces. -/
theorem rx_creates_changes (hok : mainStep p s (.rx msg) = .ok (s', os))
    (hcreates : Creates s.table (.rx msg : Input Comp Plain)) :
    Changes [] s.table s'.table := by
  obtain ⟨hue, hunknown⟩ := hcreates
  rw [mainStep, if_neg (Bool.eq_false_iff.mp hue)] at hok
  obtain ⟨⟨s1, os1⟩, hrx, hrelease⟩ := bind_ok hok
  refine (rxUe_changes (fun _ j hj => ?_) hrx).trans (rxRelease_changes hrelease)
  simp only [rxSlot, rxAssoc_unknown hunknown] at hj
  exact nomatch hj

/-- **A NEW ASSOCIATION OF AN UNUSED SLOT IS FRESH.** -/
theorem mainStep_fresh (i : Input Comp Plain) (huntouched : Untouched p.role past s.table)
    (hok : mainStep p s i = .ok (s', os)) (hcreates : Creates s.table i)
    (hfree : freeSlot s.table = some k) (hunused : Unused past k i) :
    Fresh p.role (s'.table k) i := by
  cases i with
  | clientS1ap client msg =>
      have hinitial : trS1apInitialUE.accepts msg = true := hcreates
      rw [mainStep, if_pos hinitial] at hok
      obtain ⟨hnus, hloc⟩ := clientInitialUe_context hfree hok
      exact ⟨hnus.trans (huntouched.nus k hunused), hloc⟩
  | rx msg =>
      have hchanges := rx_creates_changes hok hcreates
      have hafter := huntouched.changes hchanges
      rw [List.append_nil] at hafter
      obtain ⟨hnas, hlocation⟩ := hunused
      exact ⟨hafter.nus k hnas, hafter.location k hlocation⟩
  | config client s1cfg => exact absurd hcreates not_false
  | clientNas client nas => exact absurd hcreates not_false
  | unit msg => exact absurd hcreates not_false
  | sctpEvent => exact absurd hcreates not_false
  | register mmeId enbId vcConn => exact absurd hcreates not_false
  | registerProc procedureCode vcConn => exact absurd hcreates not_false
  | obtainMmeUeId client => exact absurd hcreates not_false
  | deriveNasToken kasme client => exact absurd hcreates not_false

end New

end OsmoS1ap
