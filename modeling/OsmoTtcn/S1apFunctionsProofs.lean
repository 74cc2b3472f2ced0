import Mathlib.Data.List.Basic
import Mathlib.Tactic.Common

/-! # S1AP PDUs and the ids that are found in them

    An S1AP PDU has a list of IEs, each with its id.  The receive templates of
    `S1AP_Templates` fix the message and the ids and criticalities of some IEs,
    with `*` for any number of others; what the functions of `S1AP_Functions`
    find depends on which of these templates matches, so they find ids in some
    messages only, whatever IEs the others have.

    `fS1apGetMmeUeS1apId_iff` and `fS1apGetEnbUeS1apId_iff` name the messages
    and the places; `enbUeId_carried` and `mmeUeId_carried` say that an id that
    is found is in an IE of the PDU. -/

namespace OsmoS1ap

/-- `MME_UE_S1AP_ID`, of 32 bits. -/
abbrev MmeUeS1apId : Type := BitVec 32

/-- `ENB_UE_S1AP_ID`, of 24 bits. -/
abbrev EnbUeS1apId : Type := BitVec 24

/-- `Criticality` of an IE or a procedure. -/
inductive Criticality where
  | reject | ignore | notify
  deriving DecidableEq, Repr

/-- `UE_S1AP_IDs` -/
inductive UeS1apIds where
  | ueS1apIdPair (mme : MmeUeS1apId) (enb : EnbUeS1apId)
  | mmeUeS1apId (mme : MmeUeS1apId)
  deriving DecidableEq

/-- `TAI`, the tracking area. -/
structure Tai where
  pLMNidentity : List UInt8
  tAC : List UInt8
  deriving DecidableEq

/-- `EUTRAN_CGI`, the cell. -/
structure EutranCgi where
  pLMNidentity : List UInt8
  cellId : BitVec 28
  deriving DecidableEq

/-- The ids of IEs whose value is not looked at. -/
inductive OtherIeId where
  | cause
  | eRabSetupListCtxtSURes
  | uEaggregateMaximumBitrate
  | securityKey
  | ueSecurityCapabilities
  | rrcEstablishmentCause
  | globalEnbId
  | supportedTAs
  | servedGUMMEIs
  | relativeMMECapacity
  | resetType
  | ueAssociatedLogicalS1ConnectionListResAck
  | interSystemInformationTransferTypeMDT
  /-- An id that no template used here names. -/
  | unnamed (id : Nat)
  deriving DecidableEq

/-- The ids of the IEs that the templates name. -/
inductive ProtocolIeId where
  | mmeUeS1apId
  | enbUeS1apId
  | ueS1apIds
  | nasPdu
  | tai
  | eutranCgi
  | eRabToBeSetupListCtxtSUReq
  | eRabToBeSetupListBearerSUReq
  | other (id : OtherIeId)
  deriving DecidableEq

/-- The value of an IE; the open type of an IE is fixed by its id.  Of the lists
    of E-RABs there are the NAS PDUs of the items. -/
inductive IeValue where
  | mmeUeS1apId (v : MmeUeS1apId)
  | enbUeS1apId (v : EnbUeS1apId)
  | ueS1apIds (v : UeS1apIds)
  | nasPdu (v : List UInt8)
  | tai (v : Tai)
  | eutranCgi (v : EutranCgi)
  | eRabToBeSetupListCtxtSUReq (nasPdus : List (Option (List UInt8)))
  | eRabToBeSetupListBearerSUReq (nasPdus : List (List UInt8))
  | other (id : OtherIeId) (content : List UInt8)
  deriving DecidableEq

/-- The id that goes with a value. -/
def IeValue.id : IeValue → ProtocolIeId
  | .mmeUeS1apId _ => .mmeUeS1apId
  | .enbUeS1apId _ => .enbUeS1apId
  | .ueS1apIds _ => .ueS1apIds
  | .nasPdu _ => .nasPdu
  | .tai _ => .tai
  | .eutranCgi _ => .eutranCgi
  | .eRabToBeSetupListCtxtSUReq _ => .eRabToBeSetupListCtxtSUReq
  | .eRabToBeSetupListBearerSUReq _ => .eRabToBeSetupListBearerSUReq
  | .other id _ => .other id

/-- An IE of a PDU; its id follows from its value. -/
structure ProtocolIe where
  criticality : Criticality
  value : IeValue
  deriving DecidableEq

/-- The alternatives of `S1AP_PDU`. -/
inductive Outcome where
  | initiatingMessage | successfulOutcome | unsuccessfulOutcome
  deriving DecidableEq, Repr

/-- `S1AP_PDU`; the alternative and the procedure code fix the message. -/
structure S1apPdu where
  outcome : Outcome
  procedureCode : Nat
  criticality : Criticality
  protocolIEs : List ProtocolIe
  deriving DecidableEq

-- ── Procedure codes ──────────────────────────────────────────────────────────

/-- The procedure codes, as S1AP has them. -/
def idERABSetup : Nat := 5
def idInitialContextSetup : Nat := 9
def idDownlinkNASTransport : Nat := 11
def idInitialUEMessage : Nat := 12
def idUplinkNASTransport : Nat := 13
def idReset : Nat := 14
def idS1Setup : Nat := 17
def idUEContextReleaseRequest : Nat := 18
def idUEContextModification : Nat := 21
def idUEContextRelease : Nat := 23
def idMMEDirectInformationTransfer : Nat := 38
def idConnectionEstablishmentIndication : Nat := 54

-- ── Templates ────────────────────────────────────────────────────────────────

/-- An element of a template for a list of IEs: an IE with any value, or `*`. -/
inductive IeTemplate where
  | ie (id : ProtocolIeId) (criticality : Criticality)
  | anyOrNone
  deriving DecidableEq

/-- Whether a template for a list of IEs matches. -/
def matchIes : List IeTemplate → List ProtocolIe → Bool
  | [], ies => ies.isEmpty
  | .ie id criticality :: ts, ies =>
      match ies with
      | [] => false
      | e :: rest => decide (e.value.id = id ∧ e.criticality = criticality)
          && matchIes ts rest
  | .anyOrNone :: ts, ies => ies.tails.any (matchIes ts)

/-- A template of `S1AP_Templates`, by what it fixes. -/
structure PduTemplate where
  outcome : Outcome
  procedureCode : Nat
  criticality : Criticality
  protocolIEs : List IeTemplate

/-- `match(pdu, template)` -/
def PduTemplate.accepts (t : PduTemplate) (pdu : S1apPdu) : Bool :=
  decide (pdu.outcome = t.outcome ∧ pdu.procedureCode = t.procedureCode
      ∧ pdu.criticality = t.criticality)
    && matchIes t.protocolIEs pdu.protocolIEs

/-- The two ids at the head of most messages. -/
def ueIdIes (criticality : Criticality) : List IeTemplate :=
  [.ie .mmeUeS1apId criticality, .ie .enbUeS1apId criticality]

/-- `tr_S1AP_SetupReq` -/
def trS1apSetupReq : PduTemplate :=
  { outcome := .initiatingMessage, procedureCode := idS1Setup, criticality := .reject
    protocolIEs := [.ie (.other .globalEnbId) .ignore, .anyOrNone,
      .ie (.other .supportedTAs) .reject, .anyOrNone] }

/-- `tr_S1AP_SetupResp` -/
def trS1apSetupResp : PduTemplate :=
  { outcome := .successfulOutcome, procedureCode := idS1Setup, criticality := .reject
    protocolIEs := [.anyOrNone, .ie (.other .servedGUMMEIs) .reject,
      .ie (.other .relativeMMECapacity) .ignore, .anyOrNone] }

/-- `tr_S1AP_SetupFail` -/
def trS1apSetupFail : PduTemplate :=
  { outcome := .unsuccessfulOutcome, procedureCode := idS1Setup, criticality := .reject
    protocolIEs := [.ie (.other .cause) .ignore, .anyOrNone] }

/-- `tr_S1AP_Reset` -/
def trS1apReset : PduTemplate :=
  { outcome := .initiatingMessage, procedureCode := idReset, criticality := .reject
    protocolIEs := [.ie (.other .cause) .ignore, .ie (.other .resetType) .reject,
      .anyOrNone] }

/-- `tr_S1AP_ResetAck` -/
def trS1apResetAck : PduTemplate :=
  { outcome := .successfulOutcome, procedureCode := idReset, criticality := .reject
    protocolIEs :=
      [.ie (.other .ueAssociatedLogicalS1ConnectionListResAck) .ignore, .anyOrNone] }

/-- `tr_S1AP_ResetAck_any` -/
def trS1apResetAckAny : PduTemplate :=
  { outcome := .successfulOutcome, procedureCode := idReset, criticality := .reject
    protocolIEs := [.anyOrNone] }

/-- `tr_S1AP_InitialUE` -/
def trS1apInitialUE : PduTemplate :=
  { outcome := .initiatingMessage, procedureCode := idInitialUEMessage
    criticality := .ignore
    protocolIEs := [.ie .enbUeS1apId .reject, .ie .nasPdu .reject, .ie .tai .ignore,
      .ie .eutranCgi .ignore, .ie (.other .rrcEstablishmentCause) .ignore,
      .anyOrNone] }

/-- `tr_S1AP_DlNasTransport` -/
def trS1apDlNasTransport : PduTemplate :=
  { outcome := .initiatingMessage, procedureCode := idDownlinkNASTransport
    criticality := .ignore
    protocolIEs := ueIdIes .reject ++ [.ie .nasPdu .reject, .anyOrNone] }

/-- `tr_S1AP_UlNasTransport` -/
def trS1apUlNasTransport : PduTemplate :=
  { outcome := .initiatingMessage, procedureCode := idUplinkNASTransport
    criticality := .ignore
    protocolIEs := ueIdIes .reject ++ [.ie .nasPdu .reject, .ie .eutranCgi .ignore,
      .ie .tai .ignore, .anyOrNone] }

/-- `tr_S1AP_IntialCtxSetupReq` -/
def trS1apIntialCtxSetupReq : PduTemplate :=
  { outcome := .initiatingMessage, procedureCode := idInitialContextSetup
    criticality := .reject
    protocolIEs := ueIdIes .reject ++ [.ie (.other .uEaggregateMaximumBitrate) .reject,
      .ie .eRabToBeSetupListCtxtSUReq .reject,
      .ie (.other .ueSecurityCapabilities) .reject, .ie (.other .securityKey) .reject,
      .anyOrNone] }

/-- `tr_S1AP_InitialCtxSetupResp` -/
def trS1apInitialCtxSetupResp : PduTemplate :=
  { outcome := .successfulOutcome, procedureCode := idInitialContextSetup
    criticality := .reject
    protocolIEs := ueIdIes .reject ++ [.ie (.other .eRabSetupListCtxtSURes) .ignore,
      .anyOrNone] }

/-- `tr_S1AP_InitialCtxSetupFail` -/
def trS1apInitialCtxSetupFail : PduTemplate :=
  { outcome := .unsuccessfulOutcome, procedureCode := idInitialContextSetup
    criticality := .reject
    protocolIEs := ueIdIes .ignore ++ [.ie (.other .cause) .ignore, .anyOrNone] }

/-- `tr_S1AP_UeContextReleaseReq` -/
def trS1apUeContextReleaseReq : PduTemplate :=
  { outcome := .initiatingMessage, procedureCode := idUEContextReleaseRequest
    criticality := .ignore
    protocolIEs := ueIdIes .reject ++ [.ie (.other .cause) .ignore, .anyOrNone] }

/-- `tr_S1AP_UeContextReleaseCmd` -/
def trS1apUeContextReleaseCmd : PduTemplate :=
  { outcome := .initiatingMessage, procedureCode := idUEContextRelease
    criticality := .reject
    protocolIEs := [.ie .ueS1apIds .reject, .ie (.other .cause) .ignore, .anyOrNone] }

/-- `tr_S1AP_UeContextReleaseCompl` -/
def trS1apUeContextReleaseCompl : PduTemplate :=
  { outcome := .successfulOutcome, procedureCode := idUEContextRelease
    criticality := .reject
    protocolIEs := ueIdIes .ignore ++ [.anyOrNone] }

/-- With its default parameters, which are all `*`. -/
def trS1apUeContextModificationReq : PduTemplate :=
  { outcome := .initiatingMessage, procedureCode := idUEContextModification
    criticality := .reject
    protocolIEs := ueIdIes .reject ++ [.anyOrNone] }

/-- `tr_S1AP_ConnEstInd` -/
def trS1apConnEstInd : PduTemplate :=
  { outcome := .initiatingMessage, procedureCode := idConnectionEstablishmentIndication
    criticality := .reject
    protocolIEs := ueIdIes .ignore ++ [.anyOrNone] }

/-- `tr_S1AP_MMEDirectInfTrans` -/
def trS1apMMEDirectInfTrans : PduTemplate :=
  { outcome := .initiatingMessage, procedureCode := idMMEDirectInformationTransfer
    criticality := .ignore
    protocolIEs :=
      [.ie (.other .interSystemInformationTransferTypeMDT) .reject, .anyOrNone] }

/-- `tr_S1AP_RABSetupReq` -/
def trS1apRABSetupReq : PduTemplate :=
  { outcome := .initiatingMessage, procedureCode := idERABSetup, criticality := .reject
    protocolIEs := ueIdIes .reject ++ [.ie .eRabToBeSetupListBearerSUReq .reject,
      .anyOrNone] }

/-- `match(pdu, tr_S1AP_nonUErelated)` -/
def nonUErelated (pdu : S1apPdu) : Bool :=
  [trS1apSetupReq, trS1apSetupResp, trS1apSetupFail, trS1apReset, trS1apResetAck,
    trS1apResetAckAny, trS1apMMEDirectInfTrans].any (fun t => t.accepts pdu)

-- ── Ids in a PDU ─────────────────────────────────────────────────────────────

/-- `select (pdu)`: the first case whose template matches. -/
def select {α : Type} (pdu : S1apPdu)
    (cases : List (PduTemplate × (List ProtocolIe → Option α))) : Option α :=
  (cases.find? (fun c => c.1.accepts pdu)).bind (fun c => c.2 pdu.protocolIEs)

/-- The MME UE S1AP ID of an IE. -/
def IeValue.mme? : IeValue → Option MmeUeS1apId
  | .mmeUeS1apId v => some v
  | _ => none

/-- The eNB UE S1AP ID of an IE. -/
def IeValue.enb? : IeValue → Option EnbUeS1apId
  | .enbUeS1apId v => some v
  | _ => none

/-- The MME id of `UE_S1AP_IDs`, which every alternative has. -/
def IeValue.mmeOfIds? : IeValue → Option MmeUeS1apId
  | .ueS1apIds (.ueS1apIdPair mme _) => some mme
  | .ueS1apIds (.mmeUeS1apId mme) => some mme
  | _ => none

/-- The eNB id of `UE_S1AP_IDs`, if there is a pair. -/
def IeValue.enbOfIds? : IeValue → Option EnbUeS1apId
  | .ueS1apIds (.ueS1apIdPair _ enb) => some enb
  | _ => none

/-- `protocolIEs[i].value_.MME_UE_S1AP_ID` -/
def mmeAt (i : Nat) (ies : List ProtocolIe) : Option MmeUeS1apId :=
  ies[i]?.bind (fun e => e.value.mme?)

/-- `protocolIEs[i].value_.ENB_UE_S1AP_ID` -/
def enbAt (i : Nat) (ies : List ProtocolIe) : Option EnbUeS1apId :=
  ies[i]?.bind (fun e => e.value.enb?)

/-- The MME id of `protocolIEs[0].value_.uE_S1AP_IDs`. -/
def mmeOfIds (ies : List ProtocolIe) : Option MmeUeS1apId :=
  ies.head?.bind (fun e => e.value.mmeOfIds?)

/-- The eNB id of `protocolIEs[0].value_.uE_S1AP_IDs.uE_S1AP_ID_pair`. -/
def enbOfIds (ies : List ProtocolIe) : Option EnbUeS1apId :=
  ies.head?.bind (fun e => e.value.enbOfIds?)

/-- `f_S1AP_get_ENB_UE_S1AP_ID` -/
def fS1apGetEnbUeS1apId (pdu : S1apPdu) : Option EnbUeS1apId :=
  match pdu.outcome with
  | .initiatingMessage => select pdu
      [(trS1apInitialUE, enbAt 0), (trS1apDlNasTransport, enbAt 1),
        (trS1apUlNasTransport, enbAt 1), (trS1apIntialCtxSetupReq, enbAt 1),
        (trS1apUeContextReleaseReq, enbAt 1), (trS1apUeContextReleaseCmd, enbOfIds),
        (trS1apUeContextModificationReq, enbAt 1), (trS1apConnEstInd, enbAt 1),
        (trS1apRABSetupReq, enbAt 1)]
  | .successfulOutcome => select pdu
      [(trS1apInitialCtxSetupResp, enbAt 1), (trS1apUeContextReleaseCompl, enbAt 1)]
  | .unsuccessfulOutcome => select pdu [(trS1apInitialCtxSetupFail, enbAt 1)]

/-- `f_S1AP_get_MME_UE_S1AP_ID` -/
def fS1apGetMmeUeS1apId (pdu : S1apPdu) : Option MmeUeS1apId :=
  match pdu.outcome with
  | .initiatingMessage => select pdu
      [(trS1apDlNasTransport, mmeAt 0), (trS1apUlNasTransport, mmeAt 0),
        (trS1apIntialCtxSetupReq, mmeAt 0), (trS1apUeContextReleaseReq, mmeAt 0),
        (trS1apUeContextReleaseCmd, mmeOfIds), (trS1apConnEstInd, mmeAt 0),
        (trS1apUeContextModificationReq, mmeAt 0), (trS1apRABSetupReq, mmeAt 0)]
  | .successfulOutcome => select pdu
      [(trS1apInitialCtxSetupResp, mmeAt 0), (trS1apUeContextReleaseCompl, mmeAt 0)]
  | .unsuccessfulOutcome => select pdu [(trS1apInitialCtxSetupFail, mmeAt 0)]

/-- A case of another procedure is passed over. -/
theorem select_skip {α : Type} {pdu : S1apPdu} {t : PduTemplate}
    {f : List ProtocolIe → Option α} {cases : List (PduTemplate × (List ProtocolIe → Option α))}
    (h : pdu.procedureCode ≠ t.procedureCode) :
    select pdu ((t, f) :: cases) = select pdu cases := by
  have hother : t.accepts pdu = false := by
    rw [PduTemplate.accepts, decide_eq_false (fun hsame => h hsame.2.1), Bool.false_and]
  rw [select, select, List.find?_cons, hother]

/-- The first case that accepts the PDU is taken. -/
theorem select_first {α : Type} {pdu : S1apPdu} {t : PduTemplate}
    {f : List ProtocolIe → Option α} {cases : List (PduTemplate × (List ProtocolIe → Option α))}
    (h : t.accepts pdu = true) : select pdu ((t, f) :: cases) = f pdu.protocolIEs := by
  rw [select, List.find?_cons, h]
  rfl

/-- A UE CONTEXT RELEASE COMMAND is an initiating message of that procedure. -/
theorem release_code {pdu : S1apPdu} (h : trS1apUeContextReleaseCmd.accepts pdu = true) :
    pdu.outcome = .initiatingMessage ∧ pdu.procedureCode = idUEContextRelease := by
  obtain ⟨hcode, -⟩ := (Bool.and_eq_true _ _).mp h
  obtain ⟨hout, hproc, -⟩ := of_decide_eq_true hcode
  exact ⟨hout, hproc⟩

/-- Of a release command the ids in its first IE are taken. -/
theorem mmeUeId_release {pdu : S1apPdu} (h : trS1apUeContextReleaseCmd.accepts pdu = true) :
    fS1apGetMmeUeS1apId pdu = mmeOfIds pdu.protocolIEs := by
  obtain ⟨hout, hcode⟩ := release_code h
  rw [fS1apGetMmeUeS1apId, hout]
  show select pdu _ = _
  rw [select_skip, select_skip, select_skip, select_skip, select_first h] <;>
    rw [hcode] <;> decide

/-- Of a UE CONTEXT RELEASE COMMAND the eNB id is read from the pair. -/
theorem enbUeId_release {pdu : S1apPdu} (h : trS1apUeContextReleaseCmd.accepts pdu = true) :
    fS1apGetEnbUeS1apId pdu = enbOfIds pdu.protocolIEs := by
  obtain ⟨hout, hcode⟩ := release_code h
  rw [fS1apGetEnbUeS1apId, hout]
  show select pdu _ = _
  rw [select_skip, select_skip, select_skip, select_skip, select_skip, select_first h] <;>
    rw [hcode] <;> decide

-- ── The messages with ids ────────────────────────────────────────────────────

/-- The messages that begin with both ids, first the MME's. -/
def pairMessages : List PduTemplate :=
  [trS1apDlNasTransport, trS1apUlNasTransport, trS1apIntialCtxSetupReq,
    trS1apUeContextReleaseReq, trS1apConnEstInd, trS1apUeContextModificationReq,
    trS1apRABSetupReq, trS1apInitialCtxSetupResp, trS1apUeContextReleaseCompl,
    trS1apInitialCtxSetupFail]

/-- The value of the IE in a place. -/
def S1apPdu.ieAt (pdu : S1apPdu) (i : Nat) : Option IeValue :=
  (pdu.protocolIEs[i]?).map ProtocolIe.value

/-- **WHERE THE MME UE ID IS**: in the first IE, of ten messages as it is, of a
    UE CONTEXT RELEASE COMMAND in its `UE_S1AP_IDs`. -/
inductive MmeIdAt (pdu : S1apPdu) (mme : MmeUeS1apId) : Prop
  | first {t} (ht : t ∈ pairMessages) (hmsg : t.accepts pdu = true)
      (hie : pdu.ieAt 0 = some (.mmeUeS1apId mme))
  | release (hmsg : trS1apUeContextReleaseCmd.accepts pdu = true)
      (hie : pdu.ieAt 0 = some (.ueS1apIds (.mmeUeS1apId mme))
        ∨ ∃ enb, pdu.ieAt 0 = some (.ueS1apIds (.ueS1apIdPair mme enb)))

/-- **WHERE THE ENB UE ID IS**: in the second IE of the same ten, in the first of
    an INITIAL UE MESSAGE, and of a UE CONTEXT RELEASE COMMAND in the pair, if
    there is one. -/
inductive EnbIdAt (pdu : S1apPdu) (enb : EnbUeS1apId) : Prop
  | second {t} (ht : t ∈ pairMessages) (hmsg : t.accepts pdu = true)
      (hie : pdu.ieAt 1 = some (.enbUeS1apId enb))
  | initialUE (hmsg : trS1apInitialUE.accepts pdu = true)
      (hie : pdu.ieAt 0 = some (.enbUeS1apId enb))
  | release {mme} (hmsg : trS1apUeContextReleaseCmd.accepts pdu = true)
      (hie : pdu.ieAt 0 = some (.ueS1apIds (.ueS1apIdPair mme enb)))

section Ids

variable {pdu : S1apPdu} {mme : MmeUeS1apId} {enb : EnbUeS1apId}

/-- A template accepts PDUs of its own outcome and procedure only. -/
theorem accepts_outcome {t : PduTemplate} (h : t.accepts pdu = true) :
    pdu.outcome = t.outcome ∧ pdu.procedureCode = t.procedureCode := by
  obtain ⟨hcode, -⟩ := (Bool.and_eq_true _ _).mp h
  obtain ⟨hout, hproc, -⟩ := of_decide_eq_true hcode
  exact ⟨hout, hproc⟩

/-- **ONE MESSAGE A CODE**: of cases for different procedures `select` takes the
    one whose message it is. -/
theorem select_iff {α : Type} {a : α} :
    ∀ {cases : List (PduTemplate × (List ProtocolIe → Option α))},
      (cases.map (fun c => c.1.procedureCode)).Nodup →
      (select pdu cases = some a
        ↔ ∃ c ∈ cases, c.1.accepts pdu = true ∧ c.2 pdu.protocolIEs = some a) := by
  intro cases
  induction cases with
  | nil => exact fun _ => iff_of_false nofun (fun ⟨_, hc, _⟩ => nomatch hc)
  | cons c cases ih =>
      intro hnodup
      obtain ⟨hnew, hrest⟩ := List.nodup_cons.mp hnodup
      cases hc : c.1.accepts pdu with
      | true =>
          rw [select_first hc]
          constructor
          · exact fun h => ⟨c, List.mem_cons_self, hc, h⟩
          · rintro ⟨c', hmem, hc', h⟩
            rcases List.mem_cons.mp hmem with rfl | hmem
            · exact h
            · -- another case for the same procedure
              have hsame := (accepts_outcome hc).2.symm.trans (accepts_outcome hc').2
              exact absurd (List.mem_map.mpr ⟨c', hmem, hsame.symm⟩) hnew
      | false =>
          have hskip : select pdu (c :: cases) = select pdu cases := by
            rw [select, select, List.find?_cons, hc]
          rw [hskip, ih hrest]
          constructor
          · rintro ⟨c', hmem, h⟩
            exact ⟨c', List.mem_cons_of_mem c hmem, h⟩
          · rintro ⟨c', hmem, hc', h⟩
            rcases List.mem_cons.mp hmem with rfl | hmem
            · exact nomatch hc.symm.trans hc'
            · exact ⟨c', hmem, hc', h⟩

/-- The case in a place of the list is the one. -/
theorem select_at {α : Type} {a : α} {cases : List (PduTemplate × (List ProtocolIe → Option α))}
    {t : PduTemplate} {f : List ProtocolIe → Option α}
    (hnodup : (cases.map (fun c => c.1.procedureCode)).Nodup) (i : Nat)
    (hi : cases[i]? = some (t, f)) (hmsg : t.accepts pdu = true)
    (h : f pdu.protocolIEs = some a) : select pdu cases = some a :=
  (select_iff hnodup).mpr ⟨(t, f), List.mem_of_getElem? hi, hmsg, h⟩

/-- `mmeAt` reads the IE of that index, if it is an MME id. -/
theorem mmeAt_iff {i : Nat} :
    mmeAt i pdu.protocolIEs = some mme ↔ pdu.ieAt i = some (.mmeUeS1apId mme) := by
  rw [mmeAt, S1apPdu.ieAt]
  cases pdu.protocolIEs[i]? with
  | none => exact iff_of_false nofun nofun
  | some e =>
      rw [Option.bind_some, Option.map_some, Option.some_inj]
      cases hv : e.value <;> simp [IeValue.mme?]

/-- `enbAt` reads the IE of that index, if it is an eNB id. -/
theorem enbAt_iff {i : Nat} :
    enbAt i pdu.protocolIEs = some enb ↔ pdu.ieAt i = some (.enbUeS1apId enb) := by
  rw [enbAt, S1apPdu.ieAt]
  cases pdu.protocolIEs[i]? with
  | none => exact iff_of_false nofun nofun
  | some e =>
      rw [Option.bind_some, Option.map_some, Option.some_inj]
      cases hv : e.value <;> simp [IeValue.enb?]

/-- `mmeOfIds` reads the first IE, a pair or an MME id alone. -/
theorem mmeOfIds_iff : mmeOfIds pdu.protocolIEs = some mme
    ↔ pdu.ieAt 0 = some (.ueS1apIds (.mmeUeS1apId mme))
      ∨ ∃ enb, pdu.ieAt 0 = some (.ueS1apIds (.ueS1apIdPair mme enb)) := by
  rw [mmeOfIds, S1apPdu.ieAt, List.head?_eq_getElem?]
  cases pdu.protocolIEs[0]? with
  | none => simp
  | some e =>
      rw [Option.bind_some, Option.map_some]
      cases hv : e.value with
      | ueS1apIds ids => cases ids <;> simp [IeValue.mmeOfIds?]
      | _ => simp [IeValue.mmeOfIds?]

/-- `enbOfIds` reads the first IE, if it is a pair. -/
theorem enbOfIds_iff : enbOfIds pdu.protocolIEs = some enb
    ↔ ∃ mme, pdu.ieAt 0 = some (.ueS1apIds (.ueS1apIdPair mme enb)) := by
  rw [enbOfIds, S1apPdu.ieAt, List.head?_eq_getElem?]
  cases pdu.protocolIEs[0]? with
  | none => simp
  | some e =>
      rw [Option.bind_some, Option.map_some]
      cases hv : e.value with
      | ueS1apIds ids => cases ids <;> simp [IeValue.enbOfIds?]
      | _ => simp [IeValue.enbOfIds?]

/-- **THE MME UE ID IS FOUND** where it is. -/
theorem fS1apGetMmeUeS1apId_iff : fS1apGetMmeUeS1apId pdu = some mme ↔ MmeIdAt pdu mme := by
  constructor
  · intro h
    rw [fS1apGetMmeUeS1apId] at h
    cases hout : pdu.outcome <;> rw [hout] at h <;>
      obtain ⟨c, hc, hmsg, ha⟩ := (select_iff (by decide)).mp h <;>
      simp only [List.mem_cons, List.not_mem_nil, or_false] at hc
    · rcases hc with rfl | rfl | rfl | rfl | rfl | rfl | rfl | rfl <;> first
        | exact .first (by simp [pairMessages]) hmsg (mmeAt_iff.mp ha)
        | exact .release hmsg (mmeOfIds_iff.mp ha)
    · rcases hc with rfl | rfl <;>
        exact .first (by simp [pairMessages]) hmsg (mmeAt_iff.mp ha)
    · rw [hc] at hmsg ha
      exact .first (by simp [pairMessages]) hmsg (mmeAt_iff.mp ha)
  · intro h
    rw [fS1apGetMmeUeS1apId]
    cases h with
    | @first t ht hmsg hie =>
        simp only [pairMessages, List.mem_cons, List.not_mem_nil, or_false] at ht
        rcases ht with rfl | rfl | rfl | rfl | rfl | rfl | rfl | rfl | rfl | rfl <;>
          rw [(accepts_outcome hmsg).1]
        · exact select_at (by decide) 0 rfl hmsg (mmeAt_iff.mpr hie)
        · exact select_at (by decide) 1 rfl hmsg (mmeAt_iff.mpr hie)
        · exact select_at (by decide) 2 rfl hmsg (mmeAt_iff.mpr hie)
        · exact select_at (by decide) 3 rfl hmsg (mmeAt_iff.mpr hie)
        · exact select_at (by decide) 5 rfl hmsg (mmeAt_iff.mpr hie)
        · exact select_at (by decide) 6 rfl hmsg (mmeAt_iff.mpr hie)
        · exact select_at (by decide) 7 rfl hmsg (mmeAt_iff.mpr hie)
        · exact select_at (by decide) 0 rfl hmsg (mmeAt_iff.mpr hie)
        · exact select_at (by decide) 1 rfl hmsg (mmeAt_iff.mpr hie)
        · exact select_at (by decide) 0 rfl hmsg (mmeAt_iff.mpr hie)
    | release hmsg hie =>
        rw [(accepts_outcome hmsg).1]
        exact select_at (by decide) 4 rfl hmsg (mmeOfIds_iff.mpr hie)

/-- **THE ENB UE ID IS FOUND** where it is. -/
theorem fS1apGetEnbUeS1apId_iff : fS1apGetEnbUeS1apId pdu = some enb ↔ EnbIdAt pdu enb := by
  constructor
  · intro h
    rw [fS1apGetEnbUeS1apId] at h
    cases hout : pdu.outcome <;> rw [hout] at h <;>
      obtain ⟨c, hc, hmsg, ha⟩ := (select_iff (by decide)).mp h <;>
      simp only [List.mem_cons, List.not_mem_nil, or_false] at hc
    · rcases hc with rfl | rfl | rfl | rfl | rfl | rfl | rfl | rfl | rfl
      · exact .initialUE hmsg (enbAt_iff.mp ha)
      all_goals first
        | exact .second (by simp [pairMessages]) hmsg (enbAt_iff.mp ha)
        | exact (enbOfIds_iff.mp ha).elim fun _ hie => .release hmsg hie
    · rcases hc with rfl | rfl <;>
        exact .second (by simp [pairMessages]) hmsg (enbAt_iff.mp ha)
    · rw [hc] at hmsg ha
      exact .second (by simp [pairMessages]) hmsg (enbAt_iff.mp ha)
  · intro h
    rw [fS1apGetEnbUeS1apId]
    cases h with
    | @second t ht hmsg hie =>
        simp only [pairMessages, List.mem_cons, List.not_mem_nil, or_false] at ht
        rcases ht with rfl | rfl | rfl | rfl | rfl | rfl | rfl | rfl | rfl | rfl <;>
          rw [(accepts_outcome hmsg).1]
        · exact select_at (by decide) 1 rfl hmsg (enbAt_iff.mpr hie)
        · exact select_at (by decide) 2 rfl hmsg (enbAt_iff.mpr hie)
        · exact select_at (by decide) 3 rfl hmsg (enbAt_iff.mpr hie)
        · exact select_at (by decide) 4 rfl hmsg (enbAt_iff.mpr hie)
        · exact select_at (by decide) 7 rfl hmsg (enbAt_iff.mpr hie)
        · exact select_at (by decide) 6 rfl hmsg (enbAt_iff.mpr hie)
        · exact select_at (by decide) 8 rfl hmsg (enbAt_iff.mpr hie)
        · exact select_at (by decide) 0 rfl hmsg (enbAt_iff.mpr hie)
        · exact select_at (by decide) 1 rfl hmsg (enbAt_iff.mpr hie)
        · exact select_at (by decide) 0 rfl hmsg (enbAt_iff.mpr hie)
    | initialUE hmsg hie =>
        rw [(accepts_outcome hmsg).1]
        exact select_at (by decide) 0 rfl hmsg (enbAt_iff.mpr hie)
    | release hmsg hie =>
        rw [(accepts_outcome hmsg).1]
        exact select_at (by decide) 5 rfl hmsg (enbOfIds_iff.mpr ⟨_, hie⟩)

end Ids

-- ── NAS PDUs and locations in a PDU ──────────────────────────────────────────

/-- The NAS PDU of an IE. -/
def IeValue.nasPdu? : IeValue → Option (List UInt8)
  | .nasPdu v => some v
  | _ => none

/-- The NAS PDU of the first item of the list, which need not have one. -/
def IeValue.nasPduCtxt? : IeValue → Option (Option (List UInt8))
  | .eRabToBeSetupListCtxtSUReq nasPdus => nasPdus.head?
  | _ => none

/-- The NAS PDU of the first item of the list. -/
def IeValue.nasPduBearer? : IeValue → Option (List UInt8)
  | .eRabToBeSetupListBearerSUReq nasPdus => nasPdus.head?
  | _ => none

/-- `f_S1AP_get_NAS_PDU` -/
def fS1apGetNasPdu (pdu : S1apPdu) : Option (List UInt8) :=
  match pdu.outcome with
  | .initiatingMessage => select pdu
      [(trS1apDlNasTransport, fun ies => ies.findSome? (fun e => e.value.nasPdu?)),
        (trS1apUlNasTransport, fun ies => ies.findSome? (fun e => e.value.nasPdu?)),
        (trS1apIntialCtxSetupReq,
          fun ies => (ies.findSome? (fun e => e.value.nasPduCtxt?)).join),
        (trS1apRABSetupReq,
          fun ies => ies.findSome? (fun e => e.value.nasPduBearer?))]
  | _ => none

/-- The TAI of an IE. -/
def IeValue.tai? : IeValue → Option Tai
  | .tai v => some v
  | _ => none

/-- The cell of an IE. -/
def IeValue.eutranCgi? : IeValue → Option EutranCgi
  | .eutranCgi v => some v
  | _ => none

/-- `protocolIEs[i].value_.TAI` -/
def taiAt (i : Nat) (ies : List ProtocolIe) : Option Tai :=
  ies[i]?.bind (fun e => e.value.tai?)

/-- `protocolIEs[i].value_.EUTRAN_CGI` -/
def eutranCgiAt (i : Nat) (ies : List ProtocolIe) : Option EutranCgi :=
  ies[i]?.bind (fun e => e.value.eutranCgi?)

/-- `ts_S1AP_UlNasTransport` -/
def tsS1apUlNasTransport (mmeId : MmeUeS1apId) (enbId : EnbUeS1apId)
    (nasPdu : List UInt8) (eutranCgi : EutranCgi) (tai : Tai) : S1apPdu :=
  { outcome := .initiatingMessage, procedureCode := idUplinkNASTransport
    criticality := .ignore
    protocolIEs := [⟨.reject, .mmeUeS1apId mmeId⟩, ⟨.reject, .enbUeS1apId enbId⟩,
      ⟨.reject, .nasPdu nasPdu⟩, ⟨.ignore, .eutranCgi eutranCgi⟩,
      ⟨.ignore, .tai tai⟩] }

-- ── Ids that are carried ─────────────────────────────────────────────────────

/-- An IE of the PDU has the MME UE id. -/
def CarriesMme (pdu : S1apPdu) (mme : MmeUeS1apId) : Prop :=
  ∃ e ∈ pdu.protocolIEs, e.value = .mmeUeS1apId mme
    ∨ e.value = .ueS1apIds (.mmeUeS1apId mme)
    ∨ ∃ enb, e.value = .ueS1apIds (.ueS1apIdPair mme enb)

/-- An IE of the PDU has the eNB UE id. -/
def CarriesEnb (pdu : S1apPdu) (enb : EnbUeS1apId) : Prop :=
  ∃ e ∈ pdu.protocolIEs, e.value = .enbUeS1apId enb
    ∨ ∃ mme, e.value = .ueS1apIds (.ueS1apIdPair mme enb)

/-- What every case finds, `select` finds. -/
theorem select_property {α : Type} {pdu : S1apPdu} {P : α → Prop} {a : α}
    {cases : List (PduTemplate × (List ProtocolIe → Option α))}
    (hcases : ∀ c ∈ cases, ∀ a, c.2 pdu.protocolIEs = some a → P a)
    (h : select pdu cases = some a) : P a := by
  rw [select] at h
  obtain ⟨c, hc, ha⟩ := Option.bind_eq_some_iff.mp h
  exact hcases c (List.mem_of_find?_eq_some hc) a ha

/-- An MME id that was read is one that the PDU carries. -/
theorem mmeAt_carried {pdu : S1apPdu} {i : Nat} {mme : MmeUeS1apId}
    (h : mmeAt i pdu.protocolIEs = some mme) : CarriesMme pdu mme := by
  rw [mmeAt] at h
  obtain ⟨e, he, hv⟩ := Option.bind_eq_some_iff.mp h
  refine ⟨e, List.mem_of_getElem? he, Or.inl ?_⟩
  cases hvalue : e.value with
  | mmeUeS1apId v =>
      rw [hvalue] at hv
      rw [Option.some.inj hv]
  | _ =>
      rw [hvalue] at hv
      cases hv

/-- An eNB id that was read is one that the PDU carries. -/
theorem enbAt_carried {pdu : S1apPdu} {i : Nat} {enb : EnbUeS1apId}
    (h : enbAt i pdu.protocolIEs = some enb) : CarriesEnb pdu enb := by
  rw [enbAt] at h
  obtain ⟨e, he, hv⟩ := Option.bind_eq_some_iff.mp h
  refine ⟨e, List.mem_of_getElem? he, Or.inl ?_⟩
  cases hvalue : e.value with
  | enbUeS1apId v =>
      rw [hvalue] at hv
      rw [Option.some.inj hv]
  | _ =>
      rw [hvalue] at hv
      cases hv

/-- So is an MME id of the first IE. -/
theorem mmeOfIds_carried {pdu : S1apPdu} {mme : MmeUeS1apId}
    (h : mmeOfIds pdu.protocolIEs = some mme) : CarriesMme pdu mme := by
  rw [mmeOfIds] at h
  obtain ⟨e, he, hv⟩ := Option.bind_eq_some_iff.mp h
  refine ⟨e, List.mem_of_mem_head? he, Or.inr ?_⟩
  cases hvalue : e.value with
  | ueS1apIds ids =>
      rw [hvalue] at hv
      cases ids with
      | ueS1apIdPair mme' enb =>
          rw [← Option.some.inj hv]
          exact Or.inr ⟨enb, rfl⟩
      | mmeUeS1apId mme' =>
          rw [← Option.some.inj hv]
          exact Or.inl rfl
  | _ =>
      rw [hvalue] at hv
      cases hv

/-- So is an eNB id of the first IE. -/
theorem enbOfIds_carried {pdu : S1apPdu} {enb : EnbUeS1apId}
    (h : enbOfIds pdu.protocolIEs = some enb) : CarriesEnb pdu enb := by
  rw [enbOfIds] at h
  obtain ⟨e, he, hv⟩ := Option.bind_eq_some_iff.mp h
  refine ⟨e, List.mem_of_mem_head? he, Or.inr ?_⟩
  cases hvalue : e.value with
  | ueS1apIds ids =>
      rw [hvalue] at hv
      cases ids with
      | ueS1apIdPair mme enb' =>
          rw [← Option.some.inj hv]
          exact ⟨mme, rfl⟩
      | mmeUeS1apId mme => cases hv
  | _ =>
      rw [hvalue] at hv
      cases hv

/-- **AN ID THAT IS FOUND IS THERE**: the MME UE id. -/
theorem mmeUeId_carried {pdu : S1apPdu} {mme : MmeUeS1apId}
    (h : fS1apGetMmeUeS1apId pdu = some mme) : CarriesMme pdu mme := by
  rw [fS1apGetMmeUeS1apId] at h
  cases hout : pdu.outcome <;> rw [hout] at h <;> refine select_property ?_ h <;>
    intro c hc a ha <;> simp only [List.mem_cons, List.not_mem_nil, or_false] at hc
  · rcases hc with rfl | rfl | rfl | rfl | rfl | rfl | rfl | rfl <;> first
      | exact mmeAt_carried ha
      | exact mmeOfIds_carried ha
  · rcases hc with rfl | rfl <;> exact mmeAt_carried ha
  · rw [hc] at ha
    exact mmeAt_carried ha

/-- The eNB UE id. -/
theorem enbUeId_carried {pdu : S1apPdu} {enb : EnbUeS1apId}
    (h : fS1apGetEnbUeS1apId pdu = some enb) : CarriesEnb pdu enb := by
  rw [fS1apGetEnbUeS1apId] at h
  cases hout : pdu.outcome <;> rw [hout] at h <;> refine select_property ?_ h <;>
    intro c hc a ha <;> simp only [List.mem_cons, List.not_mem_nil, or_false] at hc
  · rcases hc with rfl | rfl | rfl | rfl | rfl | rfl | rfl | rfl | rfl <;> first
      | exact enbAt_carried ha
      | exact enbOfIds_carried ha
  · rcases hc with rfl | rfl <;> exact enbAt_carried ha
  · rw [hc] at ha
    exact enbAt_carried ha

end OsmoS1ap
