import Mathlib.Data.List.Basic
import Mathlib.Tactic.Common
import OsmoTtcn.TitanProofs

/-! # NGAP PDUs and the ids that are found in them

    The functions of `NGAP_Functions` select on the procedure code and take an
    IE by its place, whatever it is: an IE that is not the one expected there
    stops the test.  Of a release command they take the pair of ids only.

    `amfUeId_carried` and `ranUeId_carried` say that an id that is found is in
    an IE of the PDU. -/

namespace OsmoNgap

open OsmoTitan

/-- `AMF_UE_NGAP_ID`, of 40 bits. -/
abbrev AmfUeNgapId : Type := BitVec 40

/-- `RAN_UE_NGAP_ID`, of 32 bits. -/
abbrev RanUeNgapId : Type := BitVec 32

/-- `Criticality` of an IE or a procedure. -/
inductive Criticality where
  | reject | ignore | notify
  deriving DecidableEq, Repr

/-- `UE_NGAP_IDs` -/
inductive UeNgapIds where
  | ueNgapIdPair (amf : AmfUeNgapId) (ran : RanUeNgapId)
  | amfUeNgapId (amf : AmfUeNgapId)
  deriving DecidableEq

/-- `UserLocationInformation`, passed on unread. -/
structure UserLocationInformation where
  content : List UInt8
  deriving DecidableEq

/-- The ids of IEs whose value is not looked at. -/
inductive OtherIeId where
  | rrcEstablishmentCause
  | cause
  | ueSecurityCapabilities
  | pDUSessionResourceToBeSwitchedDLList
  | pDUSessionResourceAdmittedList
  | targetToSourceTransparentContainer
  /-- An id that no template used here names. -/
  | unnamed (id : Nat)
  deriving DecidableEq

/-- The ids of the IEs that the templates name. -/
inductive ProtocolIeId where
  | amfUeNgapId
  | ranUeNgapId
  | sourceAmfUeNgapId
  | ueNgapIds
  | nasPdu
  | userLocationInformation
  | pDUSessionResourceSetupListCxtReq
  | pDUSessionResourceModifyListModReq
  | other (id : OtherIeId)
  deriving DecidableEq

/-- The value of an IE; the open type of an IE is fixed by its id.  Of the lists
    of PDU sessions there are the NAS PDUs of the items. -/
inductive IeValue where
  | amfUeNgapId (v : AmfUeNgapId)
  | ranUeNgapId (v : RanUeNgapId)
  | sourceAmfUeNgapId (v : AmfUeNgapId)
  | ueNgapIds (v : UeNgapIds)
  | nasPdu (v : List UInt8)
  | userLocationInformation (v : UserLocationInformation)
  | pDUSessionResourceSetupListCxtReq (nasPdus : List (Option (List UInt8)))
  | pDUSessionResourceModifyListModReq (nasPdus : List (Option (List UInt8)))
  | other (id : OtherIeId) (content : List UInt8)
  deriving DecidableEq

/-- The id that goes with a value. -/
def IeValue.id : IeValue → ProtocolIeId
  | .amfUeNgapId _ => .amfUeNgapId
  | .ranUeNgapId _ => .ranUeNgapId
  | .sourceAmfUeNgapId _ => .sourceAmfUeNgapId
  | .ueNgapIds _ => .ueNgapIds
  | .nasPdu _ => .nasPdu
  | .userLocationInformation _ => .userLocationInformation
  | .pDUSessionResourceSetupListCxtReq _ => .pDUSessionResourceSetupListCxtReq
  | .pDUSessionResourceModifyListModReq _ => .pDUSessionResourceModifyListModReq
  | .other id _ => .other id

/-- An IE of a PDU; its id follows from its value. -/
structure ProtocolIe where
  criticality : Criticality
  value : IeValue
  deriving DecidableEq

/-- The alternatives of `NGAP_PDU`. -/
inductive Outcome where
  | initiatingMessage | successfulOutcome | unsuccessfulOutcome
  deriving DecidableEq, Repr

/-- `NGAP_PDU`; the alternative and the procedure code fix the message. -/
structure NgapPdu where
  outcome : Outcome
  procedureCode : Nat
  criticality : Criticality
  protocolIEs : List ProtocolIe
  deriving DecidableEq

-- ── Procedure codes ──────────────────────────────────────────────────────────

/-- The procedure codes, as NGAP has them. -/
def idAMFStatusIndication : Nat := 1
def idDownlinkNASTransport : Nat := 4
def idErrorIndication : Nat := 9
def idHandoverCancel : Nat := 10
def idHandoverNotification : Nat := 11
def idHandoverPreparation : Nat := 12
def idHandoverResourceAllocation : Nat := 13
def idInitialContextSetup : Nat := 14
def idInitialUEMessage : Nat := 15
def idNGReset : Nat := 20
def idNGSetup : Nat := 21
def idOverloadStart : Nat := 22
def idOverloadStop : Nat := 23
def idPaging : Nat := 24
def idPathSwitchRequest : Nat := 25
def idPDUSessionResourceModify : Nat := 26
def idPDUSessionResourceRelease : Nat := 28
def idPDUSessionResourceSetup : Nat := 29
def idRANConfigurationUpdate : Nat := 35
def idUEContextRelease : Nat := 41
def idUplinkNASTransport : Nat := 46

/-- `match(pdu, tr_NGAP_nonUErelated)` -/
def nonUErelated (pdu : NgapPdu) : Bool :=
  [idNGSetup, idRANConfigurationUpdate, idAMFStatusIndication, idNGReset,
    idErrorIndication, idOverloadStart, idOverloadStop, idPaging].contains
    pdu.procedureCode

-- ── Templates ────────────────────────────────────────────────────────────────

/-- A receive template, with the whole list of IEs. -/
structure PduTemplate where
  outcome : Outcome
  procedureCode : Nat
  criticality : Criticality
  protocolIEs : List (ProtocolIeId × Criticality)

/-- `match(pdu, template)` -/
def PduTemplate.accepts (t : PduTemplate) (pdu : NgapPdu) : Bool :=
  decide (pdu.outcome = t.outcome ∧ pdu.procedureCode = t.procedureCode
    ∧ pdu.criticality = t.criticality
    ∧ pdu.protocolIEs.map (fun e => (e.value.id, e.criticality)) = t.protocolIEs)

/-- `mw_n2_initialUeMessage` -/
def mwN2InitialUeMessage : PduTemplate :=
  { outcome := .initiatingMessage, procedureCode := idInitialUEMessage
    criticality := .ignore
    protocolIEs := [(.ranUeNgapId, .reject), (.nasPdu, .reject),
      (.userLocationInformation, .reject), (.other .rrcEstablishmentCause, .ignore)] }

/-- `mw_n2_PathSwitchRequest` -/
def mwN2PathSwitchRequest : PduTemplate :=
  { outcome := .initiatingMessage, procedureCode := idPathSwitchRequest
    criticality := .reject
    protocolIEs := [(.ranUeNgapId, .reject), (.sourceAmfUeNgapId, .reject),
      (.userLocationInformation, .ignore), (.other .ueSecurityCapabilities, .ignore),
      (.other .pDUSessionResourceToBeSwitchedDLList, .reject)] }

/-- `mw_n2_HandoverRequestAcknowledge` -/
def mwN2HandoverRequestAcknowledge : PduTemplate :=
  { outcome := .successfulOutcome, procedureCode := idHandoverResourceAllocation
    criticality := .reject
    protocolIEs := [(.amfUeNgapId, .ignore), (.ranUeNgapId, .ignore),
      (.other .pDUSessionResourceAdmittedList, .ignore),
      (.other .targetToSourceTransparentContainer, .reject)] }

/-- `mw_n2_HandoverNotify` -/
def mwN2HandoverNotify : PduTemplate :=
  { outcome := .initiatingMessage, procedureCode := idHandoverNotification
    criticality := .ignore
    protocolIEs := [(.amfUeNgapId, .reject), (.ranUeNgapId, .reject),
      (.userLocationInformation, .ignore)] }

/-- `mw_n2_UEContextReleaseCommand` -/
def mwN2UEContextReleaseCommand : PduTemplate :=
  { outcome := .initiatingMessage, procedureCode := idUEContextRelease
    criticality := .reject
    protocolIEs := [(.ueNgapIds, .reject), (.other .cause, .ignore)] }

/-- `match(pdu, tr_NGAP_DownlinkNASTransport)` -/
def isDownlinkNASTransport (pdu : NgapPdu) : Bool :=
  decide (pdu.outcome = .initiatingMessage ∧ pdu.procedureCode = idDownlinkNASTransport)

-- ── Ids in a PDU ─────────────────────────────────────────────────────────────

/-- The AMF UE NGAP ID of an IE. -/
def IeValue.amf? : IeValue → Option AmfUeNgapId
  | .amfUeNgapId v => some v
  | _ => none

/-- The RAN UE NGAP ID of an IE. -/
def IeValue.ran? : IeValue → Option RanUeNgapId
  | .ranUeNgapId v => some v
  | _ => none

/-- The AMF id of the pair of `UE_NGAP_IDs`. -/
def IeValue.amfOfPair? : IeValue → Option AmfUeNgapId
  | .ueNgapIds (.ueNgapIdPair amf _) => some amf
  | _ => none

/-- The RAN id of the pair of `UE_NGAP_IDs`. -/
def IeValue.ranOfPair? : IeValue → Option RanUeNgapId
  | .ueNgapIds (.ueNgapIdPair _ ran) => some ran
  | _ => none

/-- What the IE at a place is read as; it must be there and must be one. -/
def ieAt {α : Type} (read : IeValue → Option α) (i : Nat) (ies : List ProtocolIe) :
    Except Fault (Option α) :=
  (bound (ies[i]?.bind (fun e => read e.value))).map some

/-- `f_NGAP_get_AMF_UE_NGAP_ID` -/
def fNgapGetAmfUeNgapId (pdu : NgapPdu) : Except Fault (Option AmfUeNgapId) :=
  match pdu.outcome with
  | .initiatingMessage =>
      if pdu.procedureCode = idUEContextRelease then
        ieAt IeValue.amfOfPair? 0 pdu.protocolIEs
      else if pdu.procedureCode ∈ [idDownlinkNASTransport, idInitialContextSetup,
          idPDUSessionResourceSetup, idPDUSessionResourceModify,
          idPDUSessionResourceRelease, idHandoverResourceAllocation,
          idHandoverNotification, idHandoverCancel] then
        ieAt IeValue.amf? 0 pdu.protocolIEs
      else .ok none
  | .successfulOutcome =>
      if pdu.procedureCode ∈ [idPathSwitchRequest, idHandoverResourceAllocation,
          idHandoverPreparation, idHandoverCancel] then
        ieAt IeValue.amf? 0 pdu.protocolIEs
      else .ok none
  | .unsuccessfulOutcome => .ok none

/-- `f_NGAP_get_RAN_UE_NGAP_ID` -/
def fNgapGetRanUeNgapId (pdu : NgapPdu) : Except Fault (Option RanUeNgapId) :=
  match pdu.outcome with
  | .initiatingMessage =>
      if pdu.procedureCode = idUEContextRelease then
        ieAt IeValue.ranOfPair? 0 pdu.protocolIEs
      else if pdu.procedureCode ∈ [idInitialUEMessage, idPathSwitchRequest] then
        ieAt IeValue.ran? 0 pdu.protocolIEs
      else if pdu.procedureCode ∈ [idDownlinkNASTransport, idInitialContextSetup,
          idPDUSessionResourceSetup, idPDUSessionResourceModify,
          idPDUSessionResourceRelease, idHandoverNotification, idHandoverCancel] then
        ieAt IeValue.ran? 1 pdu.protocolIEs
      else .ok none
  | .successfulOutcome =>
      if pdu.procedureCode ∈ [idPathSwitchRequest, idHandoverResourceAllocation,
          idHandoverPreparation, idHandoverCancel] then
        ieAt IeValue.ran? 1 pdu.protocolIEs
      else .ok none
  | .unsuccessfulOutcome => .ok none

/-- The first IE of a PDU is at index zero. -/
theorem ieAt_head {α : Type} {read : IeValue → Option α} {ies : List ProtocolIe}
    {found : Option α} (h : ieAt read 0 ies = .ok found) :
    ∃ a, found = some a ∧ ies.head?.bind (fun e => read e.value) = some a := by
  rw [ieAt] at h
  obtain ⟨a, ha, rfl⟩ := map_ok h
  rw [List.head?_eq_getElem?]
  exact ⟨a, rfl, bound_ok ha⟩

/-- A UE CONTEXT RELEASE COMMAND is an initiating message of that procedure. -/
theorem release_code {pdu : NgapPdu} (h : mwN2UEContextReleaseCommand.accepts pdu = true) :
    pdu.outcome = .initiatingMessage ∧ pdu.procedureCode = idUEContextRelease := by
  obtain ⟨hout, hcode, -⟩ := of_decide_eq_true h
  exact ⟨hout, hcode⟩

/-- Of a release command the pair in its first IE is taken. -/
theorem amfUeId_release {pdu : NgapPdu} {amfId : Option AmfUeNgapId}
    (h : mwN2UEContextReleaseCommand.accepts pdu = true)
    (hfound : fNgapGetAmfUeNgapId pdu = .ok amfId) : ∃ amf, amfId = some amf
      ∧ pdu.protocolIEs.head?.bind (fun e => e.value.amfOfPair?) = some amf := by
  obtain ⟨hout, hcode⟩ := release_code h
  rw [fNgapGetAmfUeNgapId, hout] at hfound
  simp only [hcode, if_true] at hfound
  exact ieAt_head hfound

/-- Of a UE CONTEXT RELEASE COMMAND the RAN id is read from the pair. -/
theorem ranUeId_release {pdu : NgapPdu} {ranId : Option RanUeNgapId}
    (h : mwN2UEContextReleaseCommand.accepts pdu = true)
    (hfound : fNgapGetRanUeNgapId pdu = .ok ranId) : ∃ ran, ranId = some ran
      ∧ pdu.protocolIEs.head?.bind (fun e => e.value.ranOfPair?) = some ran := by
  obtain ⟨hout, hcode⟩ := release_code h
  rw [fNgapGetRanUeNgapId, hout] at hfound
  simp only [hcode, if_true] at hfound
  exact ieAt_head hfound

-- ── NAS PDUs and locations in a PDU ──────────────────────────────────────────

/-- The NAS PDU of an IE. -/
def IeValue.nasPdu? : IeValue → Option (List UInt8)
  | .nasPdu v => some v
  | _ => none

/-- The first NAS PDU of the items of the list. -/
def IeValue.nasPduCxt? : IeValue → Option (List UInt8)
  | .pDUSessionResourceSetupListCxtReq nasPdus => nasPdus.findSome? (fun x => x)
  | _ => none

/-- The NAS PDU of the first item of the list, which need not have one. -/
def IeValue.nasPduMod? : IeValue → Option (Option (List UInt8))
  | .pDUSessionResourceModifyListModReq nasPdus => nasPdus.head?
  | _ => none

/-- `f_NGAP_get_NAS_PDU` -/
def fNgapGetNasPdu (pdu : NgapPdu) : Option (List UInt8) :=
  if pdu.outcome = .initiatingMessage then
    if pdu.procedureCode ∈ [idDownlinkNASTransport, idUplinkNASTransport,
        idInitialUEMessage, idPDUSessionResourceSetup, idPDUSessionResourceRelease] then
      pdu.protocolIEs.findSome? (fun e => e.value.nasPdu?)
    else if pdu.procedureCode = idInitialContextSetup then
      (pdu.protocolIEs.findSome? (fun e => e.value.nasPdu?)).or
        (pdu.protocolIEs.findSome? (fun e => e.value.nasPduCxt?))
    else if pdu.procedureCode = idPDUSessionResourceModify then
      (pdu.protocolIEs.findSome? (fun e => e.value.nasPduMod?)).join
    else none
  else none

/-- The user location of an IE. -/
def IeValue.uli? : IeValue → Option UserLocationInformation
  | .userLocationInformation v => some v
  | _ => none

/-- `protocolIEs[2].value_.userLocationInformation` -/
def uliAt2 (ies : List ProtocolIe) : Option UserLocationInformation :=
  ies[2]?.bind (fun e => e.value.uli?)

/-- `m_ngap_initMsg(m_n2_UplinkNASTransport)` -/
def mN2UplinkNASTransport (amfUeNgapId : AmfUeNgapId) (ranUeNgapId : RanUeNgapId)
    (nasPdu : List UInt8) (uli : UserLocationInformation) : NgapPdu :=
  { outcome := .initiatingMessage, procedureCode := idUplinkNASTransport
    criticality := .ignore
    protocolIEs := [⟨.reject, .amfUeNgapId amfUeNgapId⟩,
      ⟨.reject, .ranUeNgapId ranUeNgapId⟩, ⟨.reject, .nasPdu nasPdu⟩,
      ⟨.ignore, .userLocationInformation uli⟩] }

-- ── Ids that are carried ─────────────────────────────────────────────────────

/-- An IE of the PDU has the AMF UE id. -/
def CarriesAmf (pdu : NgapPdu) (amf : AmfUeNgapId) : Prop :=
  ∃ e ∈ pdu.protocolIEs, e.value = .amfUeNgapId amf
    ∨ (∃ ran, e.value = .ueNgapIds (.ueNgapIdPair amf ran))
    ∨ e.value = .ueNgapIds (.amfUeNgapId amf)

/-- An IE of the PDU has the RAN UE id. -/
def CarriesRan (pdu : NgapPdu) (ran : RanUeNgapId) : Prop :=
  ∃ e ∈ pdu.protocolIEs, e.value = .ranUeNgapId ran
    ∨ ∃ amf, e.value = .ueNgapIds (.ueNgapIdPair amf ran)

/-- What is read is in an IE. -/
theorem ieAt_mem {α : Type} {read : IeValue → Option α} {i : Nat} {ies : List ProtocolIe}
    {a : α} (h : ieAt read i ies = .ok (some a)) : ∃ e ∈ ies, read e.value = some a := by
  rw [ieAt] at h
  obtain ⟨b, hb, hab⟩ := map_ok h
  obtain ⟨e, he, hread⟩ := Option.bind_eq_some_iff.mp (bound_ok hb)
  refine ⟨e, List.mem_of_getElem? he, ?_⟩
  rw [hread]
  exact hab

/-- An AMF UE NGAP ID is read from no other IE. -/
theorem amf?_value {v : IeValue} {amf : AmfUeNgapId} (h : v.amf? = some amf) :
    v = .amfUeNgapId amf := by
  cases v with
  | amfUeNgapId w => rw [Option.some.inj h]
  | _ => cases h

/-- Nor is a RAN UE NGAP ID. -/
theorem ran?_value {v : IeValue} {ran : RanUeNgapId} (h : v.ran? = some ran) :
    v = .ranUeNgapId ran := by
  cases v with
  | ranUeNgapId w => rw [Option.some.inj h]
  | _ => cases h

/-- The AMF id of a pair is its first half. -/
theorem amfOfPair?_value {v : IeValue} {amf : AmfUeNgapId} (h : v.amfOfPair? = some amf) :
    ∃ ran, v = .ueNgapIds (.ueNgapIdPair amf ran) := by
  cases v with
  | ueNgapIds ids =>
      cases ids with
      | ueNgapIdPair amf' ran =>
          rw [← Option.some.inj h]
          exact ⟨ran, rfl⟩
      | amfUeNgapId amf' => cases h
  | _ => cases h

/-- The RAN id of a pair is its second half. -/
theorem ranOfPair?_value {v : IeValue} {ran : RanUeNgapId} (h : v.ranOfPair? = some ran) :
    ∃ amf, v = .ueNgapIds (.ueNgapIdPair amf ran) := by
  cases v with
  | ueNgapIds ids =>
      cases ids with
      | ueNgapIdPair amf ran' =>
          rw [← Option.some.inj h]
          exact ⟨amf, rfl⟩
      | amfUeNgapId amf => cases h
  | _ => cases h

/-- An AMF id that was read is one that the PDU carries. -/
theorem carriesAmf_at {pdu : NgapPdu} {i : Nat} {amf : AmfUeNgapId}
    (h : ieAt IeValue.amf? i pdu.protocolIEs = .ok (some amf)) : CarriesAmf pdu amf := by
  obtain ⟨e, he, hread⟩ := ieAt_mem h
  exact ⟨e, he, Or.inl (amf?_value hread)⟩

/-- A RAN id that was read is one that the PDU carries. -/
theorem carriesRan_at {pdu : NgapPdu} {i : Nat} {ran : RanUeNgapId}
    (h : ieAt IeValue.ran? i pdu.protocolIEs = .ok (some ran)) : CarriesRan pdu ran := by
  obtain ⟨e, he, hread⟩ := ieAt_mem h
  exact ⟨e, he, Or.inl (ran?_value hread)⟩

/-- **AN ID THAT IS FOUND IS THERE**: the AMF UE id. -/
theorem amfUeId_carried {pdu : NgapPdu} {amf : AmfUeNgapId}
    (h : fNgapGetAmfUeNgapId pdu = .ok (some amf)) : CarriesAmf pdu amf := by
  rw [fNgapGetAmfUeNgapId] at h
  cases hout : pdu.outcome with
  | initiatingMessage =>
      simp only [hout] at h
      split at h
      · obtain ⟨e, he, hread⟩ := ieAt_mem h
        exact ⟨e, he, Or.inr (Or.inl (amfOfPair?_value hread))⟩
      · split at h
        · exact carriesAmf_at h
        · cases h
  | successfulOutcome =>
      simp only [hout] at h
      split at h
      · exact carriesAmf_at h
      · cases h
  | unsuccessfulOutcome =>
      simp only [hout] at h
      cases h

/-- The RAN UE id. -/
theorem ranUeId_carried {pdu : NgapPdu} {ran : RanUeNgapId}
    (h : fNgapGetRanUeNgapId pdu = .ok (some ran)) : CarriesRan pdu ran := by
  rw [fNgapGetRanUeNgapId] at h
  cases hout : pdu.outcome with
  | initiatingMessage =>
      simp only [hout] at h
      split at h
      · obtain ⟨e, he, hread⟩ := ieAt_mem h
        exact ⟨e, he, Or.inr (ranOfPair?_value hread)⟩
      · split at h
        · exact carriesRan_at h
        · split at h
          · exact carriesRan_at h
          · cases h
  | successfulOutcome =>
      simp only [hout] at h
      split at h
      · exact carriesRan_at h
      · cases h
  | unsuccessfulOutcome =>
      simp only [hout] at h
      cases h

end OsmoNgap
