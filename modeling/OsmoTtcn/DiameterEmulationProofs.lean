import OsmoTtcn.KeyedSlotsProofs
import OsmoTtcn.SlotPoolProofs
import OsmoTtcn.SpecRunProofs
import OsmoTtcn.TitanProofs

/-! # Routing of the DIAMETER emulation

    `DIAMETER_Emulation` maps IMSIs to the components that handle them, and
    end-to-end identifiers to the components that wait for an answer with them.
    The second table is looked at first, for whatever comes.

    A request has an identifier that the peer chose, and one that happens to be
    registered takes the registration away from the answer.  So does an answer
    whose user name is no IMSI, since the name is read before the tables are.
    `diameter_routing` proves the emulation right of every run in which neither
    happens. -/

namespace OsmoDiameter

open OsmoTitan SlotTable SlotMap SlotPool KeyedSlots SpecRun RunGuard

-- ── Data ─────────────────────────────────────────────────────────────────────

/-- `charstring`, as a list of characters. -/
abbrev Charstring := List Char

/-- The digits of a `hexstring`. -/
abbrev Imsi := List (Fin 16)

/-- `Subscription_Id_Type` -/
inductive SubscriptionIdType where
  | endUserE164
  | endUserImsi
  | endUserSipUri
  | endUserNai
  | endUserPrivate
  deriving DecidableEq, Repr

/-- `AVP_Header`, less the length. -/
structure AvpHeader where
  avpCode : Nat
  /-- `VMPxxxxx` -/
  flags : UInt8
  /-- `none`: omit, the code is one of `vendor_id_NONE`. -/
  vendorId : Option Nat
  deriving DecidableEq, Repr

mutual

/-- `AVP_Data`, by the AVPs that the emulation reads. -/
inductive AvpData where
  | userName (oct : List UInt8)
  | originHost (host : Charstring)
  | originRealm (realm : Charstring)
  | subscriptionId (grp : List GenericAvp)
  | subscriptionIdType (t : SubscriptionIdType)
  | subscriptionIdData (oct : List UInt8)
  | other (oct : List UInt8)

/-- `GenericAVP` -/
inductive GenericAvp where
  | avp (header : AvpHeader) (data : AvpData)
  /-- `avp_undefined`, `avp_UNKNOWN` -/
  | unknown (oct : List UInt8)

end

/-- `PDU_DIAMETER`, less the length. -/
structure PduDiameter where
  version : Nat
  /-- `RPETxxxx` -/
  flags : UInt8
  commandCode : Nat
  applicationId : UInt32
  hopByHopId : UInt32
  endToEndId : UInt32
  avps : List GenericAvp

/-- `Capabilities_Exchange` -/
def capabilitiesExchange : Nat := 257

/-- `Device_Watchdog` -/
def deviceWatchdog : Nat := 280

/-- `avp_code_BASE_NONE_User_Name` -/
def avpUserName : Nat := 1

/-- `avp_code_BASE_NONE_Origin_Host` -/
def avpOriginHost : Nat := 264

/-- `avp_code_BASE_NONE_Origin_Realm` -/
def avpOriginRealm : Nat := 296

/-- `avp_code_DCC_NONE_Subscription_Id` -/
def avpSubscriptionId : Nat := 443

/-- `avp_code_DCC_NONE_Subscription_Id_Type` -/
def avpSubscriptionIdType : Nat := 450

/-- What `main` is told of the peers.  The attribute lists of the answers come
    from `origin_host`, `origin_realm`, `local_ip` and the two application
    identifiers. -/
structure DiameterConnParameters where
  /-- `none`: neither application identifier is given. -/
  ceaAvps : Option (List GenericAvp)
  dwaAvps : List GenericAvp

/-- represents a single DIAMETER Association -/
structure AssociationData (Comp : Type) where
  /-- `none`: the null reference. -/
  compRef : Option Comp
  imsi : Option Imsi

/-- represents a single DIAMETER message identified by ete_id field -/
structure EteidData (Comp : Type) where
  compRef : Option Comp
  eteId : Option UInt32

/-- `ExpectData` -/
structure ExpectData (Comp : Type) where
  imsi : Option Imsi
  vcConn : Option Comp

/-- The three tables of the emulation, and its connection. -/
structure State (Comp : Type) where
  diameterAssocTable : Fin 256 → AssociationData Comp
  diameterEteidTable : Fin 256 → EteidData Comp
  diameterExpectTable : Fin 256 → ExpectData Comp
  gDiameterConnId : Int

/-- `f_imsi_table_init`, `f_eteid_table_init`, `f_expect_table_init` -/
def tablesInit {Comp : Type} (connId : Int) : State Comp where
  diameterAssocTable := fun _ => { compRef := none, imsi := none }
  diameterEteidTable := fun _ => { compRef := none, eteId := none }
  diameterExpectTable := fun _ => { imsi := none, vcConn := none }
  gDiameterConnId := connId

/-- What a round of `main` can start with. -/
inductive Input (Comp : Type) where
  | connOpened (connId : Int)
  | otherPortEvent
  | clientDiameter (vcConn : Comp) (msg : PduDiameter)
  | recvFrom (connId : Int) (msg : PduDiameter)
  /-- From the test suite, over `DIAMETER_UNIT`. -/
  | unitDiameter (msg : PduDiameter)
  | registerImsi (imsi : Imsi) (hdlr : Comp)
  | registerEteid (eteId : UInt32) (hdlr : Comp)

/-- What a round of `main` sends, and on which port. -/
inductive Output (Comp : Type) where
  | toSocket (connId : Int) (msg : PduDiameter)
  | toClient (vcConn : Comp) (msg : PduDiameter)
  | toUnit (msg : PduDiameter)
  /-- `DiameterCapabilityExchgInd` -/
  | capability (rx tx : PduDiameter)
  | reply (hdlr : Comp)

-- ── Messages ─────────────────────────────────────────────────────────────────

/-- `tr_DIA_Hdr`: no vendor, and the flag for one is not set. -/
def trDiaHdr (code : Nat) (hdr : AvpHeader) : Bool :=
  decide (hdr.avpCode = code ∧ hdr.flags.toNat < 128 ∧ hdr.vendorId = none)

/-- `tr_AVP_OriginHost` -/
def trAvpOriginHost : GenericAvp → Bool
  | .avp hdr (.originHost _) => trDiaHdr avpOriginHost hdr
  | _ => false

/-- `tr_AVP_OriginRealm` -/
def trAvpOriginRealm : GenericAvp → Bool
  | .avp hdr (.originRealm _) => trDiaHdr avpOriginRealm hdr
  | _ => false

/-- `tr_AVP_SubcrIdType` -/
def trAvpSubcrIdType (t : SubscriptionIdType) : GenericAvp → Bool
  | .avp hdr (.subscriptionIdType t') => trDiaHdr avpSubscriptionIdType hdr && decide (t' = t)
  | _ => false

/-- The flag R is set. -/
def PduDiameter.isRequest (msg : PduDiameter) : Bool := decide (128 ≤ msg.flags.toNat)

/-- `tr_DIAMETER_R(cmd_code)` -/
def trDiameterR (cmdCode : Nat) (msg : PduDiameter) : Bool :=
  decide (msg.version = 1) && msg.isRequest && decide (msg.commandCode = cmdCode)

/-- `tr_DIA_DWR` -/
def trDiaDwr (msg : PduDiameter) : Bool :=
  trDiameterR deviceWatchdog msg && decide (msg.applicationId = 0)
    && msg.avps.any trAvpOriginHost && msg.avps.any trAvpOriginRealm

/-- `f_ts_DIA_CEA`: `valueof` of an application identifier that is omitted
    fails. -/
def fTsDiaCea (p : DiameterConnParameters) (hbhId eteId : UInt32) :
    Except Fault PduDiameter :=
  match p.ceaAvps with
  | none => .error (.ttcnError
      "Performing a valueof or send operation on a non-specific template of type uint32_t.")
  | some avps => .ok
      { version := 1, flags := 0, commandCode := capabilitiesExchange, applicationId := 0,
        hopByHopId := hbhId, endToEndId := eteId, avps := avps }

/-- `ts_DIA_DWA` -/
def tsDiaDwa (p : DiameterConnParameters) (hbhId eteId : UInt32) : PduDiameter where
  version := 1
  flags := 0
  commandCode := deviceWatchdog
  applicationId := 0
  hopByHopId := hbhId
  endToEndId := eteId
  avps := p.dwaAvps

/-- The codes of AVPs without a vendor. -/
def GenericAvp.hasCode (code : Nat) : GenericAvp → Bool
  | .avp hdr _ => decide (hdr.vendorId = none ∧ hdr.avpCode = code)
  | .unknown _ => false

/-- `f_DIAMETER_get_avp` -/
def fDiameterGetAvp (pdu : PduDiameter) (code : Nat) : Option GenericAvp :=
  pdu.avps.find? (·.hasCode code)

/-- `oct2char` -/
def oct2char (o : List UInt8) : Except Fault Charstring :=
  o.mapM fun b => if b.toNat < 128 then .ok (Char.ofNat b.toNat) else .error
    (.ttcnError "The argument of function oct2char() contains an octet outside 00 .. 7F.")

/-- `str2hex` -/
def str2hex (s : Charstring) : Except Fault Imsi :=
  s.mapM fun c =>
    if '0' ≤ c ∧ c ≤ '9' then .ok (Fin.ofNat 16 (c.toNat - '0'.toNat))
    else if 'a' ≤ c ∧ c ≤ 'f' then .ok (Fin.ofNat 16 (c.toNat - 'a'.toNat + 10))
    else if 'A' ≤ c ∧ c ≤ 'F' then .ok (Fin.ofNat 16 (c.toNat - 'A'.toNat + 10))
    else .error (.ttcnError
      "The argument of function str2hex() shall contain hexadecimal digits only.")

/-- A field of a union that is not the one selected. -/
def notSelected (field : String) : Fault :=
  .ttcnError ("Using non-selected field " ++ field ++ " in a value of union type.")

/-- Username may be a NAI instead of IMSI. -/
def imsiOfUserName (oct : List UInt8) : Except Fault Imsi :=
  (oct2char oct).bind fun imsiStr => str2hex (imsiStr.takeWhile (· ≠ '@'))

/-- The Subscription-Id of a subscriber with an IMSI: its type, then its data. -/
def imsiOfSubscriptionId : List GenericAvp → Except Fault (Option Imsi)
  | [] => .error .badIndex
  | idType :: rest =>
      if trAvpSubcrIdType .endUserImsi idType then
        match rest with
        | [] => .error .badIndex
        | .avp _ (.subscriptionIdData oct) :: _ => ((oct2char oct).bind str2hex).map some
        | .avp _ _ :: _ => .error (notSelected "avp_DCC_NONE_Subscription_Id_Data")
        | .unknown _ :: _ => .error (notSelected "avp")
      else .ok none

/-- `f_DIAMETER_get_imsi` -/
def fDiameterGetImsi (pdu : PduDiameter) : Except Fault (Option Imsi) :=
  match fDiameterGetAvp pdu avpUserName with
  | some (.avp _ (.userName oct)) => (imsiOfUserName oct).map some
  | some _ => .error (notSelected "avp_BASE_NONE_User_Name")
  | none =>
      match fDiameterGetAvp pdu avpSubscriptionId with
      | none => .ok none
      | some (.avp _ (.subscriptionId grp)) => imsiOfSubscriptionId grp
      | some _ => .error (notSelected "avp_DCC_NONE_Subscription_Id")

-- ── Functions ────────────────────────────────────────────────────────────────

section Functions

variable {Comp : Type} [DecidableEq Comp]

/-- `f_imsi_known` -/
def fImsiKnown (s : State Comp) (imsi : Imsi) : Bool :=
  (find s.diameterAssocTable (fun d => decide (d.imsi = some imsi))).isSome

/-- `f_comp_by_imsi` -/
def fCompByImsi (s : State Comp) (imsi : Imsi) : Except Fault (Option Comp) :=
  (orShutdown (find s.diameterAssocTable (fun d => decide (d.imsi = some imsi)))
    "DIAMETER Association Table not found by IMSI").map
    (fun i => (s.diameterAssocTable i).compRef)

/-- `f_imsi_table_add` -/
def fImsiTableAdd (s : State Comp) (compRef : Option Comp) (imsi : Imsi) :
    Except Fault (State Comp) :=
  (orShutdown (find s.diameterAssocTable (fun d => d.imsi.isNone))
    "DIAMETER Association Table full!").map
    (fun i => { s with
      diameterAssocTable :=
        Function.update s.diameterAssocTable i { compRef := compRef, imsi := some imsi } })

/-- `f_ete_id_known` -/
def fEteIdKnown (s : State Comp) (eteId : UInt32) : Bool :=
  (find s.diameterEteidTable (fun d => decide (d.eteId = some eteId))).isSome

/-- `f_comp_by_ete_id` -/
def fCompByEteId (s : State Comp) (eteId : UInt32) : Except Fault (Option Comp) :=
  (orShutdown (find s.diameterEteidTable (fun d => decide (d.eteId = some eteId)))
    "DIAMETER ETEID Table not found by ete_id").map
    (fun i => (s.diameterEteidTable i).compRef)

/-- `f_eteid_table_add` -/
def fEteidTableAdd (s : State Comp) (compRef : Comp) (eteId : UInt32) :
    Except Fault (State Comp) :=
  (orShutdown (find s.diameterEteidTable (fun d => d.eteId.isNone))
    "DIAMETER ETEID Table full!").map
    (fun i => { s with
      diameterEteidTable := Function.update s.diameterEteidTable i
        { compRef := some compRef, eteId := some eteId } })

/-- `f_eteid_table_del` -/
def fEteidTableDel (s : State Comp) (compRef : Option Comp) (eteId : UInt32) :
    Except Fault (State Comp) :=
  (orShutdown (find s.diameterEteidTable
      (fun d => decide (d.compRef = compRef ∧ d.eteId = some eteId)))
    "DIAMETER ETEID Table: Couldn't find to-be-deleted entry!").map
    (fun i => { s with
      diameterEteidTable :=
        Function.update s.diameterEteidTable i { compRef := none, eteId := none } })

/-- `create_cb` of `DIAMETEROps`: it may use the tables, and returns a
    component. -/
abbrev DiameterCreateCallback (Comp : Type) : Type :=
  State Comp → PduDiameter → Imsi → Except Fault (State Comp × Option Comp)

/-- `unitdata_cb` of `DIAMETEROps`: what it sends, and the response that it
    returns. -/
abbrev DiameterUnitdataCallback (Comp : Type) : Type :=
  PduDiameter → List (Output Comp) × Option PduDiameter

/-- Function that can be used as create_cb and will use the expect table -/
def expectedCreateCallback : DiameterCreateCallback Comp := fun s _ imsi =>
  (orShutdown (find s.diameterExpectTable (fun e => decide (e.imsi = some imsi)))
    "Couldn't find Expect for ").map
    (fun i => ({ s with
        diameterExpectTable :=
          Function.update s.diameterExpectTable i { imsi := none, vcConn := none } },
      (s.diameterExpectTable i).vcConn))

/-- `f_create_expect` -/
def fCreateExpect (s : State Comp) (imsi : Imsi) (hdlr : Comp) :
    Except Fault (State Comp) :=
  match find s.diameterExpectTable (fun e => decide (e.imsi = some imsi)) with
  | some _ => .error (.shutdown "IMSI already present")
  | none =>
      (orShutdown (find s.diameterExpectTable (fun e => e.imsi.isNone))
        "No space left in DiameterExpectTable").map
        (fun i => { s with
          diameterExpectTable := Function.update s.diameterExpectTable i
            { imsi := some imsi, vcConn := some hdlr } })

/-- `DIAMETEROps` -/
structure DiameterOps (Comp : Type) where
  createCb : DiameterCreateCallback Comp
  unitdataCb : DiameterUnitdataCallback Comp
  raw : Bool

/-- message contained no IMSI; is not IMSI-oriented -/
def unitdata (unitdataCb : DiameterUnitdataCallback Comp) (connId : Int)
    (msg : PduDiameter) : List (Output Comp) :=
  (unitdataCb msg).1 ++ ((unitdataCb msg).2.map (fun resp => .toSocket connId resp)).toList

/-- DIAMETER from remote peer (IMSI based routing).  The null reference is no
    component to send to. -/
def onDiameter (ops : DiameterOps Comp) (s : State Comp) (msg : PduDiameter) :
    Except Fault (State Comp × List (Output Comp)) :=
  (fDiameterGetImsi msg).bind fun imsiT =>
    if fEteIdKnown s msg.endToEndId then
      (fCompByEteId s msg.endToEndId).bind fun compRef =>
      (fEteidTableDel s compRef msg.endToEndId).bind fun s' =>
      (bound compRef).map fun vcConn => (s', [.toClient vcConn msg])
    else
      match imsiT with
      | none => .ok (s, unitdata ops.unitdataCb s.gDiameterConnId msg)
      | some imsi =>
          if fImsiKnown s imsi then
            (fCompByImsi s imsi).bind fun compRef =>
            (bound compRef).map fun vcConn => (s, [.toClient vcConn msg])
          else
            (ops.createCb s msg imsi).bind fun r =>
            (fImsiTableAdd r.1 r.2 imsi).bind fun s' =>
            (bound r.2).map fun vcConn => (s', [.toClient vcConn msg])

/-- A message on the connection, in the order of the alternatives. -/
def onRecvFrom (p : DiameterConnParameters) (ops : DiameterOps Comp) (s : State Comp)
    (msg : PduDiameter) : Except Fault (State Comp × List (Output Comp)) :=
  if trDiameterR capabilitiesExchange msg then
    (fTsDiaCea p msg.hopByHopId msg.endToEndId).map fun resp =>
      (s, [.toSocket s.gDiameterConnId resp, .capability msg resp])
  else if trDiaDwr msg then
    .ok (s, [.toSocket s.gDiameterConnId (tsDiaDwa p msg.hopByHopId msg.endToEndId)])
  else if ops.raw then .ok (s, [.toUnit msg])
  else onDiameter ops s msg

/-- One round of `main`.  A message of another connection matches no
    alternative, nor does one over `DIAMETER_UNIT` without the raw mode. -/
def mainStep (p : DiameterConnParameters) (ops : DiameterOps Comp) (s : State Comp) :
    Input Comp → Except Fault (State Comp × List (Output Comp))
  | .connOpened connId => .ok ({ s with gDiameterConnId := connId }, [])
  | .otherPortEvent => .ok (s, [])
  | .clientDiameter _ msg => .ok (s, [.toSocket s.gDiameterConnId msg])
  | .recvFrom connId msg =>
      if connId = s.gDiameterConnId then onRecvFrom p ops s msg else .ok (s, [])
  | .unitDiameter msg =>
      .ok (s, if ops.raw then [.toSocket s.gDiameterConnId msg] else [])
  | .registerImsi imsi hdlr =>
      (fCreateExpect s imsi hdlr).map fun s' => (s', [.reply hdlr])
  | .registerEteid eteId hdlr =>
      (fEteidTableAdd s hdlr eteId).map fun s' => (s', [.reply hdlr])

end Functions

-- ── The IMSI of a message ────────────────────────────────────────────────────

/-- The message has no AVP of the code. -/
def NoAvp (msg : PduDiameter) (code : Nat) : Prop := ∀ a ∈ msg.avps, a.hasCode code = false

/-- The first AVP of the code that the message has. -/
def FirstAvp (msg : PduDiameter) (code : Nat) (a : GenericAvp) : Prop :=
  ∃ before after, msg.avps = before ++ a :: after ∧ a.hasCode code = true
    ∧ ∀ b ∈ before, b.hasCode code = false

/-- **WHERE THE IMSI IS**: the digits of the first User-Name, up to an '@'; or,
    without one, those of the data in the first Subscription-Id, whose type is an
    IMSI. -/
inductive HasImsi (msg : PduDiameter) (imsi : Imsi) : Prop
  | userName {hdr oct name} (havp : FirstAvp msg avpUserName (.avp hdr (.userName oct)))
      (htext : oct2char oct = .ok name)
      (hdigits : str2hex (name.takeWhile (· ≠ '@')) = .ok imsi)
  | subscriptionId {hdr idType hdr' oct rest text} (hname : NoAvp msg avpUserName)
      (havp : FirstAvp msg avpSubscriptionId
        (.avp hdr (.subscriptionId (idType :: .avp hdr' (.subscriptionIdData oct) :: rest))))
      (htype : trAvpSubcrIdType .endUserImsi idType = true)
      (htext : oct2char oct = .ok text) (hdigits : str2hex text = .ok imsi)

/-- The message is not about a subscriber, or about one without an IMSI. -/
inductive NoImsi (msg : PduDiameter) : Prop
  | nowhere (hname : NoAvp msg avpUserName) (hid : NoAvp msg avpSubscriptionId)
  | anotherType {hdr idType rest} (hname : NoAvp msg avpUserName)
      (havp : FirstAvp msg avpSubscriptionId (.avp hdr (.subscriptionId (idType :: rest))))
      (htype : trAvpSubcrIdType .endUserImsi idType = false)

section Imsi

variable {msg : PduDiameter} {code : Nat} {a : GenericAvp} {imsi : Imsi}

/-- An AVP that is found is the first one of its code. -/
theorem fDiameterGetAvp_some : fDiameterGetAvp msg code = some a ↔ FirstAvp msg code a := by
  rw [fDiameterGetAvp, List.find?_eq_some_iff_append]
  constructor
  · rintro ⟨hcode, before, after, heq, hno⟩
    exact ⟨before, after, heq, hcode, fun b hb => by simpa using hno b hb⟩
  · rintro ⟨before, after, heq, hcode, hno⟩
    exact ⟨hcode, before, after, heq, fun b hb => by simpa using hno b hb⟩

/-- None is found if none has the code. -/
theorem fDiameterGetAvp_none : fDiameterGetAvp msg code = none ↔ NoAvp msg code := by
  rw [fDiameterGetAvp, List.find?_eq_none]
  exact forall₂_congr fun b _ => Bool.eq_false_iff.symm

/-- **AN IMSI IS FOUND** where it is. -/
theorem fDiameterGetImsi_some : fDiameterGetImsi msg = .ok (some imsi) ↔ HasImsi msg imsi := by
  constructor
  · intro h
    rw [fDiameterGetImsi] at h
    split at h
    next hdr oct havp =>
      obtain ⟨i, hi, heq⟩ := map_ok h
      rw [← Option.some.inj heq]
      obtain ⟨name, hname, hdigits⟩ := bind_ok hi
      exact .userName (fDiameterGetAvp_some.mp havp) hname hdigits
    next => exact nomatch h
    next hname =>
      split at h
      next => exact nomatch h
      next hdr grp havp =>
        rw [fDiameterGetAvp_none] at hname
        rw [fDiameterGetAvp_some] at havp
        unfold imsiOfSubscriptionId at h
        split at h
        next => exact nomatch h
        next idType rest =>
          split at h
          next htype =>
            split at h
            next => exact nomatch h
            next hdr' oct rest' =>
              obtain ⟨i, hi, heq⟩ := map_ok h
              rw [← Option.some.inj heq]
              obtain ⟨text, htext, hdigits⟩ := bind_ok hi
              exact .subscriptionId hname havp htype htext hdigits
            next => exact nomatch h
            next => exact nomatch h
          next => exact nomatch h
      next => exact nomatch h
  · intro h
    cases h with
    | userName havp htext hdigits =>
        rw [fDiameterGetImsi, fDiameterGetAvp_some.mpr havp]
        dsimp only
        rw [imsiOfUserName, htext]
        dsimp only [Except.bind]
        rw [hdigits]
        rfl
    | subscriptionId hname havp htype htext hdigits =>
        rw [fDiameterGetImsi, fDiameterGetAvp_none.mpr hname, fDiameterGetAvp_some.mpr havp]
        dsimp only [imsiOfSubscriptionId]
        rw [if_pos htype, htext]
        dsimp only [Except.bind]
        rw [hdigits]
        rfl

/-- None is found where there is none. -/
theorem fDiameterGetImsi_none : fDiameterGetImsi msg = .ok none ↔ NoImsi msg := by
  constructor
  · intro h
    rw [fDiameterGetImsi] at h
    split at h
    next =>
      obtain ⟨i, -, heq⟩ := map_ok h
      exact nomatch heq
    next => exact nomatch h
    next hname =>
      rw [fDiameterGetAvp_none] at hname
      split at h
      next hid => exact .nowhere hname (fDiameterGetAvp_none.mp hid)
      next hdr grp havp =>
        rw [fDiameterGetAvp_some] at havp
        unfold imsiOfSubscriptionId at h
        split at h
        next => exact nomatch h
        next idType rest =>
          split at h
          next =>
            split at h
            next => exact nomatch h
            next =>
              obtain ⟨i, -, heq⟩ := map_ok h
              exact nomatch heq
            next => exact nomatch h
            next => exact nomatch h
          next htype => exact .anotherType hname havp (eq_false_of_ne_true htype)
      next => exact nomatch h
  · intro h
    cases h with
    | nowhere hname hid =>
        rw [fDiameterGetImsi, fDiameterGetAvp_none.mpr hname, fDiameterGetAvp_none.mpr hid]
    | anotherType hname havp htype =>
        rw [fDiameterGetImsi, fDiameterGetAvp_none.mpr hname, fDiameterGetAvp_some.mpr havp]
        dsimp only [imsiOfSubscriptionId]
        rw [htype]
        rfl

end Imsi

-- ── What the tables are for ──────────────────────────────────────────────────

/-- Who has an IMSI, who expects one, and who waits for an answer with which
    end-to-end identifier. -/
structure Routing (Comp : Type) where
  route : Imsi → Option Comp
  expects : Imsi → Option Comp
  pending : Pool 256 (UInt32 × Comp)
  connId : Int

section Spec

variable {Comp : Type}

/-- Nobody has an IMSI or an id. -/
def noRouting (connId : Int) : Routing Comp :=
  ⟨fun _ => none, fun _ => none, fun _ => none, connId⟩

/-- The registration is for the identifier. -/
def forId (eteId : UInt32) (e : UInt32 × Comp) : Bool := decide (e.1 = eteId)

/-- A message of the connection that is not one of the two handshakes. -/
def Routed (g : Routing Comp) (connId : Int) (msg : PduDiameter) : Prop :=
  connId = g.connId ∧ trDiameterR capabilitiesExchange msg = false ∧ trDiaDwr msg = false

/-- A message that no registration is for: the identifier of a request is the
    peer's own. -/
def Unclaimed (g : Routing Comp) (msg : PduDiameter) : Prop :=
  msg.isRequest = true ∨ NoFit g.pending (forId msg.endToEndId)

/-- **THE ROUTING**: what may happen on each input. -/
inductive DiameterAllowed (p : DiameterConnParameters)
    (unitdataCb : DiameterUnitdataCallback Comp) (g : Routing Comp) :
    Input Comp → Routing Comp → List (Output Comp) → Prop
  | connOpened (connId) :
      DiameterAllowed p unitdataCb g (.connOpened connId) { g with connId := connId } []
  | otherPortEvent : DiameterAllowed p unitdataCb g .otherPortEvent g []
  | clientDiameter (vcConn msg) :
      DiameterAllowed p unitdataCb g (.clientDiameter vcConn msg) g [.toSocket g.connId msg]
  | notTaken {i} (hi : (∃ connId msg, connId ≠ g.connId ∧ i = .recvFrom connId msg)
        ∨ ∃ msg, i = .unitDiameter msg) :
      DiameterAllowed p unitdataCb g i g []
  | capabilities {msg resp} (hcer : trDiameterR capabilitiesExchange msg = true)
      (hresp : fTsDiaCea p msg.hopByHopId msg.endToEndId = .ok resp) :
      DiameterAllowed p unitdataCb g (.recvFrom g.connId msg) g
        [.toSocket g.connId resp, .capability msg resp]
  | watchdog {msg} (hdwr : trDiaDwr msg = true) :
      DiameterAllowed p unitdataCb g (.recvFrom g.connId msg) g
        [.toSocket g.connId (tsDiaDwa p msg.hopByHopId msg.endToEndId)]
  | answer {connId msg k vcConn} (hrouted : Routed g connId msg)
      (hanswer : msg.isRequest = false)
      (hfirst : FirstFit g.pending (forId msg.endToEndId) k (msg.endToEndId, vcConn)) :
      DiameterAllowed p unitdataCb g (.recvFrom connId msg)
        { g with pending := Function.update g.pending k none } [.toClient vcConn msg]
  | known {connId msg imsi vcConn} (hrouted : Routed g connId msg)
      (hfree : Unclaimed g msg) (himsi : HasImsi msg imsi)
      (hroute : g.route imsi = some vcConn) :
      DiameterAllowed p unitdataCb g (.recvFrom connId msg) g [.toClient vcConn msg]
  | expected {connId msg imsi vcConn} (hrouted : Routed g connId msg)
      (hfree : Unclaimed g msg) (himsi : HasImsi msg imsi)
      (hroute : g.route imsi = none) (hexpects : g.expects imsi = some vcConn) :
      DiameterAllowed p unitdataCb g (.recvFrom connId msg)
        { g with
          route := Function.update g.route imsi (some vcConn)
          expects := Function.update g.expects imsi none }
        [.toClient vcConn msg]
  | unitdata {connId msg} (hrouted : Routed g connId msg) (hfree : Unclaimed g msg)
      (himsi : NoImsi msg) :
      DiameterAllowed p unitdataCb g (.recvFrom connId msg) g
        (unitdata unitdataCb g.connId msg)
  | registerImsi {imsi hdlr} (hnew : g.expects imsi = none) :
      DiameterAllowed p unitdataCb g (.registerImsi imsi hdlr)
        { g with expects := Function.update g.expects imsi (some hdlr) } [.reply hdlr]
  | registerEteid {eteId hdlr k} (hfree : FirstFree g.pending k) :
      DiameterAllowed p unitdataCb g (.registerEteid eteId hdlr)
        { g with pending := Function.update g.pending k (some (eteId, hdlr)) } [.reply hdlr]

/-- Where the test may end: a message that nothing is registered for has no
    readable IMSI or one that nobody expects, an IMSI is expected twice, or a
    table is full. -/
def DiameterStops (p : DiameterConnParameters) (g : Routing Comp) : Input Comp → Prop
  | .recvFrom connId msg => connId = g.connId ∧
      (trDiameterR capabilitiesExchange msg = true ∧ p.ceaAvps = none
        ∨ Routed g connId msg ∧ Unclaimed g msg ∧ ¬ NoImsi msg
          ∧ ∀ imsi, HasImsi msg imsi →
            g.route imsi = none ∧ (g.expects imsi = none ∨ Full 256 g.route))
  | .registerImsi imsi _ => g.expects imsi ≠ none ∨ Full 256 g.expects
  | .registerEteid _ _ => Crowded g.pending
  | .connOpened _ | .otherPortEvent | .clientDiameter _ _ | .unitDiameter _ => False

/-- **NOTHING IS LOST**: whoever has an IMSI keeps it, and a registration stays
    until an answer with its identifier goes to whoever registered it. -/
def Lasting (g : Routing Comp) (i : Input Comp) (g' : Routing Comp)
    (os : List (Output Comp)) : Prop :=
  (∀ imsi vcConn, g.route imsi = some vcConn → g'.route imsi = some vcConn)
    ∧ ∀ k eteId vcConn, g.pending k = some (eteId, vcConn) →
      g'.pending k = some (eteId, vcConn)
        ∨ ∃ msg, i = .recvFrom g.connId msg ∧ msg.isRequest = false
          ∧ msg.endToEndId = eteId ∧ os = [.toClient vcConn msg]

/-- A message with a registered identifier is an answer, with a readable IMSI if
    it has one. -/
def Guard (s : State Comp) : Input Comp → Prop
  | .recvFrom connId msg => connId = s.gDiameterConnId →
      trDiameterR capabilitiesExchange msg = false → trDiaDwr msg = false →
      fEteIdKnown s msg.endToEndId = true →
      msg.isRequest = false ∧ (fDiameterGetImsi msg).isOk = true
  | _ => True

instance (s : State Comp) : (i : Input Comp) → Decidable (Guard s i)
  | .recvFrom connId msg => inferInstanceAs (Decidable
      (connId = s.gDiameterConnId →
        trDiameterR capabilitiesExchange msg = false → trDiaDwr msg = false →
        fEteIdKnown s msg.endToEndId = true →
        msg.isRequest = false ∧ (fDiameterGetImsi msg).isOk = true))
  | .connOpened _ | .otherPortEvent | .clientDiameter _ _ | .unitDiameter _
  | .registerImsi _ _ | .registerEteid _ _ => isTrue trivial

end Spec

-- ── The tables ───────────────────────────────────────────────────────────────

section Tables

variable {Comp : Type} {s : State Comp} {g : Routing Comp}

/-- What a slot says of a registration. -/
def EteIs (d : EteidData Comp) : Option (UInt32 × Comp) → Prop
  | none => d.eteId = none
  | some e => d.eteId = some e.1 ∧ d.compRef = some e.2

/-- An entry is free if nothing is in it. -/
theorem eteIs_isNone (d : EteidData Comp) (o : Option (UInt32 × Comp)) (h : EteIs d o) :
    d.eteId.isNone = o.isNone := by
  cases o with
  | none => exact Option.isNone_iff_eq_none.mpr h
  | some e => rw [h.1]; rfl

/-- An entry has the id that was put there. -/
theorem eteIs_forId (eteId : UInt32) (d : EteidData Comp) (o : Option (UInt32 × Comp))
    (h : EteIs d o) : decide (d.eteId = some eteId) = o.any (forId eteId) := by
  cases o with
  | none =>
      rw [EteIs] at h
      rw [h]
      rfl
  | some e =>
      rw [h.1, Option.any_some, forId]
      exact decide_eq_decide.mpr Option.some_inj

/-- The three tables say who has an IMSI, who expects one, and who waits for an
    answer. -/
structure Routes (s : State Comp) (g : Routing Comp) : Prop where
  assoc : Keeps AssociationData.imsi AssociationData.compRef s.diameterAssocTable g.route
  expects : Keeps ExpectData.imsi ExpectData.vcConn s.diameterExpectTable g.expects
  pending : Shadows EteIs s.diameterEteidTable g.pending
  conn : s.gDiameterConnId = g.connId

/-- The emulation starts with empty tables. -/
theorem routes_init (connId : Int) :
    Routes (tablesInit connId : State Comp) (noRouting connId) where
  assoc := keeps_empty (fun _ => rfl)
  expects := keeps_empty (fun _ => rfl)
  pending := fun _ => rfl
  conn := rfl

/-- **THE ANSWER'S TABLE** is looked at for an identifier. -/
theorem Routes.eteId (h : Routes s g) (eteId : UInt32) :
    find s.diameterEteidTable (fun d => decide (d.eteId = some eteId))
      = find g.pending (fun o => o.any (forId eteId)) :=
  h.pending.find (eteIs_forId eteId)

/-- An identifier that nobody registered is not known. -/
theorem Routes.unknown (h : Routes s g) {eteId : UInt32} :
    fEteIdKnown s eteId = false ↔ NoFit g.pending (forId eteId) := by
  rw [fEteIdKnown, h.eteId, Option.isSome_eq_false_iff, Option.isNone_iff_eq_none]
  exact find_fit_none

/-- **A NEW REGISTRATION** takes the first free slot. -/
theorem Routes.register (h : Routes s g) (eteId : UInt32) (c : Comp) :
    (∃ k s', fEteidTableAdd s c eteId = .ok s' ∧ FirstFree g.pending k
        ∧ Routes s' { g with pending := Function.update g.pending k (some (eteId, c)) })
      ∨ (∃ e, fEteidTableAdd s c eteId = .error e) ∧ Crowded g.pending := by
  rw [fEteidTableAdd, h.pending.find eteIs_isNone]
  cases hf : find g.pending (fun o => o.isNone) with
  | none => exact Or.inr ⟨⟨_, rfl⟩, find_free_none.mp hf⟩
  | some k =>
      exact Or.inl ⟨k, _, rfl, find_free_iff.mp hf,
        ⟨h.assoc, h.expects, h.pending.update ⟨rfl, rfl⟩, h.conn⟩⟩

/-- **A NEW EXPECTATION**: none for this IMSI may be there. -/
theorem Routes.expect (h : Routes s g) (imsi : Imsi) (c : Comp) :
    (∃ s', fCreateExpect s imsi c = .ok s' ∧ g.expects imsi = none
        ∧ Routes s' { g with expects := Function.update g.expects imsi (some c) })
      ∨ (∃ e, fCreateExpect s imsi c = .error e)
        ∧ (g.expects imsi ≠ none ∨ Full 256 g.expects) := by
  unfold fCreateExpect
  cases hexp : g.expects imsi with
  | some c' =>
      obtain ⟨i, hf, -, -⟩ := h.expects.find_some hexp
      rw [hf]
      refine Or.inr ⟨⟨_, rfl⟩, Or.inl ?_⟩
      exact Option.some_ne_none c'
  | none =>
      rw [(h.expects.find_none imsi).mpr hexp]
      rcases h.expects.add hexp c with ⟨i, hf, hadd⟩ | ⟨hf, hfull⟩
      · rw [hf]
        exact Or.inl ⟨_, rfl, rfl, 
          ⟨h.assoc, hadd { imsi := some imsi, vcConn := some c } rfl rfl, h.pending, h.conn⟩⟩
      · rw [hf]
        exact Or.inr ⟨⟨_, rfl⟩, Or.inr hfull⟩

/-- **AN EXPECTATION IS TAKEN**, once. -/
theorem Routes.takeExpect (h : Routes s g) (msg : PduDiameter) (imsi : Imsi) :
    (∃ c s', expectedCreateCallback s msg imsi = .ok (s', some c)
        ∧ g.expects imsi = some c
        ∧ Routes s' { g with expects := Function.update g.expects imsi none })
      ∨ (∃ e, expectedCreateCallback s msg imsi = .error e) ∧ g.expects imsi = none := by
  rw [expectedCreateCallback]
  cases hexp : g.expects imsi with
  | none =>
      rw [(h.expects.find_none imsi).mpr hexp]
      exact Or.inr ⟨⟨_, rfl⟩, rfl⟩
  | some c =>
      obtain ⟨i, hf, hkey, hval⟩ := h.expects.find_some hexp
      rw [hf]
      have hdel := h.expects.del (s := { imsi := none, vcConn := none }) hkey hval rfl
      refine Or.inl ⟨c, { s with
        diameterExpectTable :=
          Function.update s.diameterExpectTable i { imsi := none, vcConn := none } },
        ?_, rfl, ⟨h.assoc, hdel, h.pending, h.conn⟩⟩
      dsimp only [orShutdown, Except.map]
      rw [hval]

/-- **AN IMSI GETS A COMPONENT**, unless all 256 slots are taken. -/
theorem Routes.associate (h : Routes s g) {imsi : Imsi} (hroute : g.route imsi = none)
    (c : Comp) :
    (∃ s', fImsiTableAdd s (some c) imsi = .ok s'
        ∧ Routes s' { g with route := Function.update g.route imsi (some c) })
      ∨ (∃ e, fImsiTableAdd s (some c) imsi = .error e) ∧ Full 256 g.route := by
  rw [fImsiTableAdd]
  rcases h.assoc.add hroute c with ⟨i, hf, hadd⟩ | ⟨hf, hfull⟩
  · rw [hf]
    exact Or.inl ⟨_, rfl, 
      ⟨hadd { compRef := some c, imsi := some imsi } rfl rfl, h.expects, h.pending, h.conn⟩⟩
  · rw [hf]
    exact Or.inr ⟨⟨_, rfl⟩, hfull⟩

variable [DecidableEq Comp]

/-- An entry is the one of a component and an id if both were put there. -/
theorem eteIs_exactly (eteId : UInt32) (c : Comp) (d : EteidData Comp)
    (o : Option (UInt32 × Comp)) (h : EteIs d o) :
    decide (d.compRef = some c ∧ d.eteId = some eteId)
      = o.any (fun e => decide (e = (eteId, c))) := by
  cases o with
  | none =>
      rw [EteIs] at h
      rw [h]
      exact decide_eq_false (fun hand => nomatch hand.2)
  | some e =>
      rw [h.1, h.2, Option.any_some]
      refine decide_eq_decide.mpr ?_
      rw [Option.some_inj, Option.some_inj, Prod.ext_iff, and_comm]

/-- **A REGISTRATION IS TAKEN**: the first one for the identifier. -/
theorem Routes.take (h : Routes s g) {eteId : UInt32} (hknown : fEteIdKnown s eteId = true) :
    ∃ k c, FirstFit g.pending (forId eteId) k (eteId, c)
      ∧ fCompByEteId s eteId = .ok (some c)
      ∧ ∃ s', fEteidTableDel s (some c) eteId = .ok s'
        ∧ Routes s' { g with pending := Function.update g.pending k none } := by
  rw [fEteIdKnown, h.eteId] at hknown
  obtain ⟨k, hk⟩ := Option.isSome_iff_exists.mp hknown
  obtain ⟨⟨eteId', c⟩, hfit⟩ := find_fit hk
  have heteId : eteId' = eteId := of_decide_eq_true hfit.2.1
  subst heteId
  have hslot : EteIs (s.diameterEteidTable k) (some (eteId', c)) := hfit.1 ▸ h.pending k
  -- The slot with this identifier and component is the one just found.
  have hexact : FirstFit g.pending (fun e => decide (e = (eteId', c))) k (eteId', c) := by
    refine hfit.narrow (decide_eq_true rfl) (fun e he => ?_)
    refine decide_eq_false (fun heq => ?_)
    rw [heq, forId] at he
    exact of_decide_eq_false he rfl
  have hdel : find s.diameterEteidTable
      (fun d => decide (d.compRef = some c ∧ d.eteId = some eteId')) = some k := by
    rw [h.pending.find (eteIs_exactly eteId' c)]
    exact hexact.find
  refine ⟨k, c, hfit, ?_, ?_⟩
  · rw [fCompByEteId, h.eteId, hk]
    dsimp only [orShutdown, Except.map]
    rw [hslot.2]
  · refine ⟨{ s with
      diameterEteidTable :=
        Function.update s.diameterEteidTable k { compRef := none, eteId := none } }, ?_, ?_⟩
    · rw [fEteidTableDel, hdel]
      rfl
    · exact ⟨h.assoc, h.expects, h.pending.update rfl, h.conn⟩

end Tables

-- ── Rounds ───────────────────────────────────────────────────────────────────

section Rounds

variable {Comp : Type} [DecidableEq Comp] {p : DiameterConnParameters}
variable {unitdataCb : DiameterUnitdataCallback Comp}
variable {s : State Comp} {g : Routing Comp} {connId : Int} {msg : PduDiameter}

/-- IMSI-based routing that uses the expectations. -/
def imsiOps (unitdataCb : DiameterUnitdataCallback Comp) : DiameterOps Comp where
  createCb := expectedCreateCallback
  unitdataCb := unitdataCb
  raw := false

/-- **A MESSAGE THAT NO REGISTRATION IS FOR** goes by its IMSI. -/
theorem onDiameter_unclaimed (h : Routes s g) (hrouted : Routed g connId msg)
    (hfree : Unclaimed g msg) (hunknown : fEteIdKnown s msg.endToEndId = false) :
    (∃ e, onDiameter (imsiOps unitdataCb) s msg = .error e
        ∧ DiameterStops p g (.recvFrom connId msg))
      ∨ ∃ s' os g', onDiameter (imsiOps unitdataCb) s msg = .ok (s', os)
        ∧ DiameterAllowed p unitdataCb g (.recvFrom connId msg) g' os ∧ Routes s' g' := by
  have hno : ¬ (fEteIdKnown s msg.endToEndId = true) := by
    rw [hunknown]
    exact nofun
  rw [onDiameter]
  cases himsi : fDiameterGetImsi msg with
  | error e =>
      refine Or.inl ⟨e, rfl, hrouted.1, Or.inr ⟨hrouted, hfree, fun hno => ?_,
        fun imsi hok => ?_⟩⟩
      · exact nomatch himsi.symm.trans (fDiameterGetImsi_none.mpr hno)
      · exact nomatch himsi.symm.trans (fDiameterGetImsi_some.mpr hok)
  | ok o =>
      dsimp only [Except.bind]
      rw [if_neg hno]
      cases o with
      | none =>
          refine Or.inr ⟨_, _, _, rfl, ?_, h⟩
          rw [h.conn]
          exact .unitdata hrouted hfree (fDiameterGetImsi_none.mp himsi)
      | some imsi =>
          have hhas := fDiameterGetImsi_some.mp himsi
          cases hroute : g.route imsi with
          | some c =>
              obtain ⟨i, hf, hkey, hval⟩ := h.assoc.find_some hroute
              have hknown : fImsiKnown s imsi = true := by
                rw [fImsiKnown, hf]
                rfl
              have hcomp : fCompByImsi s imsi = .ok (some c) := by
                rw [fCompByImsi, hf]
                dsimp only [orShutdown, Except.map]
                rw [hval]
              dsimp only
              rw [if_pos hknown, hcomp]
              exact Or.inr ⟨_, _, _, rfl, .known hrouted hfree hhas hroute, h⟩
          | none =>
              have hnot : ¬ (fImsiKnown s imsi = true) := by
                rw [fImsiKnown, (h.assoc.find_none imsi).mpr hroute]
                exact nofun
              have hstops : (g.expects imsi = none ∨ Full 256 g.route) →
                  DiameterStops p g (.recvFrom connId msg) := by
                intro hwhy
                refine ⟨hrouted.1, Or.inr ⟨hrouted, hfree, fun hnone => ?_,
                  fun imsi' hok => ?_⟩⟩
                · exact nomatch himsi.symm.trans (fDiameterGetImsi_none.mpr hnone)
                · have hsame := himsi.symm.trans (fDiameterGetImsi_some.mpr hok)
                  rw [← Option.some.inj (Except.ok.inj hsame)]
                  exact ⟨hroute, hwhy⟩
              dsimp only [imsiOps]
              rw [if_neg hnot]
              rcases h.takeExpect msg imsi with ⟨c, s', hcb, hexp, h'⟩ | ⟨⟨e, hcb⟩, hnone⟩
              · rw [hcb]
                dsimp only
                rcases h'.associate hroute c with ⟨s'', hadd, h''⟩ | ⟨⟨e, hadd⟩, hfull⟩
                · rw [hadd]
                  exact Or.inr ⟨_, _, _, rfl, .expected hrouted hfree hhas hroute hexp, h''⟩
                · rw [hadd]
                  exact Or.inl ⟨e, rfl, hstops (Or.inr hfull)⟩
              · rw [hcb]
                exact Or.inl ⟨e, rfl, hstops (Or.inl hnone)⟩

/-- **A MESSAGE THAT IS ROUTED**, where the condition holds. -/
theorem onDiameter_cases (h : Routes s g) (hrouted : Routed g connId msg)
    (hguard : fEteIdKnown s msg.endToEndId = true →
      msg.isRequest = false ∧ (fDiameterGetImsi msg).isOk = true) :
    (∃ e, onDiameter (imsiOps unitdataCb) s msg = .error e
        ∧ DiameterStops p g (.recvFrom connId msg))
      ∨ ∃ s' os g', onDiameter (imsiOps unitdataCb) s msg = .ok (s', os)
        ∧ DiameterAllowed p unitdataCb g (.recvFrom connId msg) g' os ∧ Routes s' g' := by
  cases hknown : fEteIdKnown s msg.endToEndId with
  | false =>
      exact onDiameter_unclaimed h hrouted (Or.inr (h.unknown.mp hknown)) hknown
  | true =>
      obtain ⟨hanswer, hok⟩ := hguard hknown
      obtain ⟨k, c, hfit, hcomp, s', hdel, h'⟩ := h.take hknown
      cases himsi : fDiameterGetImsi msg with
      | error e =>
          rw [himsi] at hok
          exact nomatch hok
      | ok o =>
          rw [onDiameter, himsi]
          dsimp only [Except.bind]
          rw [if_pos hknown, hcomp]
          dsimp only
          rw [hdel]
          exact Or.inr ⟨_, _, _, rfl, .answer hrouted hanswer hfit, h'⟩

/-- **A MESSAGE OF THE CONNECTION**: a handshake, or one that is routed. -/
theorem onRecvFrom_cases (p : DiameterConnParameters)
    (unitdataCb : DiameterUnitdataCallback Comp) (h : Routes s g)
    (hguard : Guard s (.recvFrom s.gDiameterConnId msg)) :
    (∃ e, onRecvFrom p (imsiOps unitdataCb) s msg = .error e
        ∧ DiameterStops p g (.recvFrom g.connId msg))
      ∨ ∃ s' os g', onRecvFrom p (imsiOps unitdataCb) s msg = .ok (s', os)
        ∧ DiameterAllowed p unitdataCb g (.recvFrom g.connId msg) g' os ∧ Routes s' g' := by
  rw [onRecvFrom]
  cases hcer : trDiameterR capabilitiesExchange msg with
  | true =>
      rw [if_pos rfl]
      cases hresp : fTsDiaCea p msg.hopByHopId msg.endToEndId with
      | error e =>
          have hnone : p.ceaAvps = none := by
            unfold fTsDiaCea at hresp
            split at hresp
            · assumption
            · exact nomatch hresp
          exact Or.inl ⟨e, rfl, rfl, Or.inl ⟨hcer, hnone⟩⟩
      | ok resp =>
          refine Or.inr ⟨_, _, _, rfl, ?_, h⟩
          rw [h.conn]
          exact .capabilities hcer hresp
  | false =>
      rw [if_neg Bool.false_ne_true]
      cases hdwr : trDiaDwr msg with
      | true =>
          rw [if_pos rfl]
          refine Or.inr ⟨_, _, _, rfl, ?_, h⟩
          rw [h.conn]
          exact .watchdog hdwr
      | false =>
          have hraw : ¬ ((imsiOps unitdataCb).raw = true) := nofun
          rw [if_neg Bool.false_ne_true, if_neg hraw]
          exact onDiameter_cases h ⟨rfl, hcer, hdwr⟩ (hguard rfl hcer hdwr)

/-- **ONE ROUND** that meets the condition. -/
theorem mainStep_cases (p : DiameterConnParameters)
    (unitdataCb : DiameterUnitdataCallback Comp) (i : Input Comp) (h : Routes s g)
    (hguard : Guard s i) :
    (∃ e, mainStep p (imsiOps unitdataCb) s i = .error e ∧ DiameterStops p g i)
      ∨ ∃ s' os g', mainStep p (imsiOps unitdataCb) s i = .ok (s', os)
        ∧ DiameterAllowed p unitdataCb g i g' os ∧ Routes s' g' := by
  rw [mainStep.eq_def]
  cases i with
  | connOpened connId =>
      exact Or.inr ⟨_, _, _, rfl, .connOpened connId, ⟨h.assoc, h.expects, h.pending, rfl⟩⟩
  | otherPortEvent => exact Or.inr ⟨_, _, _, rfl, .otherPortEvent, h⟩
  | clientDiameter vcConn msg =>
      refine Or.inr ⟨_, _, _, rfl, ?_, h⟩
      rw [h.conn]
      exact .clientDiameter vcConn msg
  | unitDiameter msg => exact Or.inr ⟨_, _, _, rfl, .notTaken (Or.inr ⟨msg, rfl⟩), h⟩
  | recvFrom connId msg =>
      dsimp only
      by_cases hconn : connId = s.gDiameterConnId
      · subst hconn
        rw [if_pos rfl]
        have hround := onRecvFrom_cases p unitdataCb h hguard
        rw [← h.conn] at hround
        exact hround
      · rw [if_neg hconn]
        refine Or.inr ⟨_, _, _, rfl, .notTaken (Or.inl ⟨connId, msg, ?_, rfl⟩), h⟩
        rw [← h.conn]
        exact hconn
  | registerImsi imsi hdlr =>
      dsimp only
      rcases h.expect imsi hdlr with ⟨s', hadd, hnew, h'⟩ | ⟨⟨e, hadd⟩, hwhy⟩
      · rw [hadd]
        exact Or.inr ⟨_, _, _, rfl, .registerImsi hnew, h'⟩
      · rw [hadd]
        exact Or.inl ⟨e, rfl, hwhy⟩
  | registerEteid eteId hdlr =>
      dsimp only
      rcases h.register eteId hdlr with ⟨k, s', hadd, hfree, h'⟩ | ⟨⟨e, hadd⟩, hall⟩
      · rw [hadd]
        exact Or.inr ⟨_, _, _, rfl, .registerEteid hfree, h'⟩
      · rw [hadd]
        exact Or.inl ⟨e, rfl, hall⟩

omit [DecidableEq Comp] in
/-- **WHAT IS ALLOWED LOSES NOTHING**. -/
theorem DiameterAllowed.lasting {i : Input Comp} {g' : Routing Comp}
    {os : List (Output Comp)} (h : DiameterAllowed p unitdataCb g i g' os) :
    Lasting g i g' os := by
  cases h with
  | connOpened connId => exact ⟨fun _ _ hr => hr, fun _ _ _ hp => Or.inl hp⟩
  | otherPortEvent => exact ⟨fun _ _ hr => hr, fun _ _ _ hp => Or.inl hp⟩
  | clientDiameter vcConn msg => exact ⟨fun _ _ hr => hr, fun _ _ _ hp => Or.inl hp⟩
  | notTaken hi => exact ⟨fun _ _ hr => hr, fun _ _ _ hp => Or.inl hp⟩
  | capabilities hcer hresp => exact ⟨fun _ _ hr => hr, fun _ _ _ hp => Or.inl hp⟩
  | watchdog hdwr => exact ⟨fun _ _ hr => hr, fun _ _ _ hp => Or.inl hp⟩
  | known hrouted hfree himsi hroute => exact ⟨fun _ _ hr => hr, fun _ _ _ hp => Or.inl hp⟩
  | unitdata hrouted hfree himsi => exact ⟨fun _ _ hr => hr, fun _ _ _ hp => Or.inl hp⟩
  | registerImsi hnew => exact ⟨fun _ _ hr => hr, fun _ _ _ hp => Or.inl hp⟩
  | @answer connId msg k vcConn hrouted hanswer hfirst =>
      refine ⟨fun _ _ hr => hr, fun k' eteId vcConn' hp => ?_⟩
      by_cases hk : k' = k
      · rw [hk, hfirst.1] at hp
        obtain ⟨rfl, rfl⟩ := Prod.mk.inj (Option.some.inj hp)
        exact Or.inr ⟨msg, by rw [hrouted.1], hanswer, rfl, rfl⟩
      · refine Or.inl ?_
        dsimp only
        rw [Function.update_of_ne hk]
        exact hp
  | @expected connId msg imsi vcConn hrouted hfree himsi hroute hexpects =>
      refine ⟨fun imsi' vcConn' hr => ?_, fun _ _ _ hp => Or.inl hp⟩
      have hne : imsi' ≠ imsi := by
        rintro rfl
        rw [hroute] at hr
        exact nomatch hr
      dsimp only
      rw [Function.update_of_ne hne]
      exact hr
  | @registerEteid eteId hdlr k hfree =>
      refine ⟨fun _ _ hr => hr, fun k' eteId' vcConn' hp => Or.inl ?_⟩
      have hne : k' ≠ k := by
        rintro rfl
        rw [hfree.1] at hp
        exact nomatch hp
      dsimp only
      rw [Function.update_of_ne hne]
      exact hp

end Rounds

-- ── Runs ─────────────────────────────────────────────────────────────────────

/-- **DIAMETER ROUTING**: a run whose steps meet the condition goes as the
    routing allows, up to a stop that it allows; nobody loses an IMSI or a
    registration; and in every state the tables are the routing, with at most
    one association for an IMSI. -/
theorem diameter_routing {Comp : Type} [DecidableEq Comp] (p : DiameterConnParameters)
    (unitdataCb : DiameterUnitdataCallback Comp) (connId : Int) (is : List (Input Comp))
    (hguard : Guarded (mainStep p (imsiOps unitdataCb)) Guard (tablesInit connId) is) :
    Follows (mainStep p (imsiOps unitdataCb))
      (fun g i g' os => DiameterAllowed p unitdataCb g i g' os ∧ Lasting g i g' os)
      (DiameterStops p)
      (fun s g => Routes s g
        ∧ KeyUnique (key (held AssociationData.imsi AssociationData.compRef))
          s.diameterAssocTable)
      (tablesInit connId) (noRouting connId) is := by
  refine (follows_of_guarded ?_ is (tablesInit connId) (noRouting connId)
    (routes_init connId) hguard).imp (fun s g h => ⟨h, h.assoc.rep.unique⟩)
  intro s g i h hi
  refine stepFollows_of ?_
  rcases mainStep_cases p unitdataCb i h hi with
    hstops | ⟨s', os, g', hstep, hallowed, h'⟩
  · exact Or.inl hstops
  · exact Or.inr ⟨s', os, g', hstep, ⟨hallowed, hallowed.lasting⟩, h'⟩

/-- Neither application identifier is given. -/
def noApplication : DiameterConnParameters := ⟨none, []⟩

/-- A callback that keeps everything. -/
def dummyUnitdataCallback : DiameterUnitdataCallback Nat := fun _ => ([], none)

/-- An AVP User-Name. -/
def userName (oct : List UInt8) : GenericAvp :=
  .avp { avpCode := avpUserName, flags := 64, vendorId := none } (.userName oct)

/-- A message with an end-to-end identifier and a user name: "262" or "bob". -/
def message (flags : UInt8) (eteId : UInt32) (name : List UInt8) : PduDiameter where
  version := 1
  flags := flags
  commandCode := 318
  applicationId := 16777251
  hopByHopId := 1
  endToEndId := eteId
  avps := [userName name]

/-- Component 7 waits for an answer and component 8 for an IMSI; the peer sends
    a request of its own, the answer, and a request for the IMSI with the same
    identifier. -/
def answered : List (Input Nat) :=
  [.registerEteid 5 7, .registerImsi [2, 6, 2] 8, .recvFrom 1 (message 192 9 [50, 54, 50]),
   .recvFrom 1 (message 64 5 [50, 54, 50]), .recvFrom 1 (message 192 5 [50, 54, 50])]

/-- An answer goes by its identifier, and requests go by their IMSI. -/
theorem diameter_routing_answered :
    Guarded (mainStep noApplication (imsiOps dummyUnitdataCallback)) Guard (tablesInit 1)
        answered
      ∧ Follows (mainStep noApplication (imsiOps dummyUnitdataCallback))
        (fun g i g' os => DiameterAllowed noApplication dummyUnitdataCallback g i g' os
          ∧ Lasting g i g' os)
        (DiameterStops noApplication)
        (fun s g => Routes s g
          ∧ KeyUnique (key (held AssociationData.imsi AssociationData.compRef))
            s.diameterAssocTable)
        (tablesInit 1) (noRouting 1) answered :=
  have hguard : Guarded (mainStep noApplication (imsiOps dummyUnitdataCallback)) Guard
      (tablesInit 1) answered := by decide +kernel
  ⟨hguard, diameter_routing noApplication dummyUnitdataCallback 1 answered hguard⟩

/- The first slot is a literal of `Fin 256`. -/
local instance neZero256 : NeZero 256 := ⟨by decide⟩

/-- The state once component 7 waits for the answer with identifier 5. -/
def waiting : State Nat where
  diameterAssocTable := (tablesInit 1 : State Nat).diameterAssocTable
  diameterEteidTable := Function.update (tablesInit 1 : State Nat).diameterEteidTable 0
    { compRef := some 7, eteId := some 5 }
  diameterExpectTable := (tablesInit 1 : State Nat).diameterExpectTable
  gDiameterConnId := 1

/-- The run starts with an id that a component waits for. -/
theorem waiting_step : mainStep noApplication (imsiOps dummyUnitdataCallback) (tablesInit 1)
    (.registerEteid 5 7) = .ok (waiting, [.reply 7]) := by
  have hfind : find (tablesInit 1 : State Nat).diameterEteidTable (fun d => d.eteId.isNone)
      = some 0 := find_eq_some.mpr ⟨rfl, fun j hj => absurd hj (Fin.not_lt_zero j)⟩
  rw [mainStep, fEteidTableAdd, hfind]
  rfl

/-- What the routing knows then. -/
theorem waiting_allowed {g : Routing Nat} (h : DiameterAllowed noApplication
    dummyUnitdataCallback (noRouting 1) (.registerEteid 5 7) g [.reply 7]) :
    g.connId = 1 ∧ g.route = (fun _ => none) ∧ g.expects = (fun _ => none)
      ∧ ∃ k, g.pending k = some (5, 7) := by
  cases h with
  | @registerEteid _ _ k hfree => exact ⟨rfl, rfl, rfl, k, Function.update_self k _ _⟩

/-- A request of the peer with identifier 5, and an answer for user "bob". -/
theorem request_and_name_misrouted :
    (¬ Follows (mainStep noApplication (imsiOps dummyUnitdataCallback))
      (fun g i g' os => DiameterAllowed noApplication dummyUnitdataCallback g i g' os
        ∧ Lasting g i g' os)
      (DiameterStops noApplication)
      (fun s g => Routes s g
        ∧ KeyUnique (key (held AssociationData.imsi AssociationData.compRef))
          s.diameterAssocTable)
      (tablesInit 1) (noRouting 1)
      [.registerEteid 5 7, .recvFrom 1 (message 192 5 [50, 54, 50])])
    ∧ ¬ Follows (mainStep noApplication (imsiOps dummyUnitdataCallback))
      (fun g i g' os => DiameterAllowed noApplication dummyUnitdataCallback g i g' os
        ∧ Lasting g i g' os)
      (DiameterStops noApplication)
      (fun s g => Routes s g
        ∧ KeyUnique (key (held AssociationData.imsi AssociationData.compRef))
          s.diameterAssocTable)
      (tablesInit 1) (noRouting 1)
      [.registerEteid 5 7, .recvFrom 1 (message 64 5 [98, 111, 98])] := by
  constructor
  · refine not_follows_cons waiting_step (fun g hallowed => ?_)
    obtain ⟨hconn, hroute, hexpects, -⟩ := waiting_allowed hallowed.1
    have hstep : ∃ s', mainStep noApplication (imsiOps dummyUnitdataCallback) waiting
        (.recvFrom 1 (message 192 5 [50, 54, 50]))
          = .ok (s', [.toClient 7 (message 192 5 [50, 54, 50])]) := by
      have hfind : find waiting.diameterEteidTable (fun d => decide (d.eteId = some 5))
          = some 0 := find_eq_some.mpr ⟨rfl, fun j hj => absurd hj (Fin.not_lt_zero j)⟩
      have hdel : find waiting.diameterEteidTable
          (fun d => decide (d.compRef = some 7 ∧ d.eteId = some 5)) = some 0 :=
        find_eq_some.mpr ⟨rfl, fun j hj => absurd hj (Fin.not_lt_zero j)⟩
      have himsi : fDiameterGetImsi (message 192 5 [50, 54, 50]) = .ok (some [2, 6, 2]) := rfl
      have hid : (message 192 5 [50, 54, 50]).endToEndId = 5 := rfl
      have hroutine : mainStep noApplication (imsiOps dummyUnitdataCallback) waiting
          (.recvFrom 1 (message 192 5 [50, 54, 50]))
          = onDiameter (imsiOps dummyUnitdataCallback) waiting
            (message 192 5 [50, 54, 50]) := rfl
      rw [hroutine, onDiameter, himsi, hid, fEteIdKnown, fCompByEteId, hfind]
      dsimp only [Except.bind, orShutdown, Except.map]
      have hcomp : (waiting.diameterEteidTable 0).compRef = some 7 := rfl
      rw [hcomp, fEteidTableDel, hdel]
      exact ⟨_, rfl⟩
    obtain ⟨s', hstep⟩ := hstep
    refine not_follows_cons hstep (fun g' hallowed' => ?_)
    have hno := hallowed'.1
    rw [← hconn] at hno
    -- Nobody has the IMSI or expects it, and a request is no answer.
    cases hno with
    | answer hrouted hanswer hfirst => exact nomatch hanswer
    | known hrouted hfree himsi hr =>
        rw [hroute] at hr
        exact nomatch hr
    | expected hrouted hfree himsi hr he =>
        rw [hexpects] at he
        exact nomatch he
  · refine not_follows_cons waiting_step (fun g hallowed => ?_)
    obtain ⟨-, -, -, k, hk⟩ := waiting_allowed hallowed.1
    have hstep : ∃ e, mainStep noApplication (imsiOps dummyUnitdataCallback) waiting
        (.recvFrom 1 (message 64 5 [98, 111, 98])) = .error e := ⟨_, rfl⟩
    obtain ⟨e, hstep⟩ := hstep
    refine not_follows_error hstep (fun hstops => ?_)
    obtain ⟨-, ⟨hcer, -⟩ | ⟨-, hrequest | hno, -⟩⟩ := hstops
    · exact nomatch hcer
    · exact nomatch hrequest
    · have hfit := hno k (5, 7) hk
      exact nomatch hfit

end OsmoDiameter
