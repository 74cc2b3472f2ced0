import OsmoTtcn.SlotMapProofs
import OsmoTtcn.SpecRunProofs
import OsmoTtcn.TitanProofs

/-! # Requests and responses of the GTPv2 emulation

    `GTPv2_Emulation` sends the messages of its clients with sequence numbers of
    its own, and keeps for every request who sent it, so that the response goes
    back there.  Other messages of the peer are routed by IMSI, by TEID, or to
    whoever registered their type.

    When the response has come, the entry of its request is to be freed; but
    the assignment leaves the sequence number in the slot and only takes the
    component away.  So the slot is never free again, and a duplicate of the
    response still finds it.  The sequence number is counted up with nothing to
    bring it back.  `gtp_matching` proves the matching right of every run in
    which no such response comes and the counter does not reach its end. -/

namespace OsmoGtpv2

open OsmoTitan SlotTable SlotMap SpecRun

/-- An IMSI, digit by digit. -/
abbrev Imsi : Type := List (Fin 16)

/-- The alternatives of `gtpcv2_pdu` that the emulation asks for. -/
inductive Gtpcv2Pdu where
  | echoRequest | versionNotSupported | createSessionRequest | createBearerRequest
  | bearerResourceCommand | bearerResourceFailureIndication | modifyBearerRequest
  | deleteSessionRequest | deleteBearerRequest | downlinkDataNotification
  | downlinkDataNotificationAcknowledgement
  | downlinkDataNotificationFailureIndication
  | deleteIndirectDataForwardingTunnelRequest | modifyBearerCommand
  | modifyBearerFailureIndication | updateBearerRequest | deleteBearerCommand
  | createIndirectDataForwardingTunnelRequest | releaseAccessBearersRequest
  | stopPagingIndication | modifyAccessBearersRequest | remoteUEReportNotification
  | remoteUEReportAcknowledge | forwardRelocationRequest
  | forwardRelocationCompleteNotification | forwardRelocationCompleteAcknowledge
  | contextRequest | contextAcknowledge | identificationRequest
  | forwardAccessContextNotification | forwardAccessContextAcknowledge
  | detachNotification | detachAcknowledge | changeNotificationRequest
  | relocationCancelRequest | configurationTransferTunnel | ranInformationRelay
  | suspendNotification | suspendAcknowledge | resumeNotification
  | resumeAcknowledge | csPagingIndication | createForwardingTunnelRequest
  | deletePDNConnectionSetRequest | traceSessionActivation
  | traceSessionDeactivation | updatePDNConnectionSetRequest
  | pgwRestartNotification | pgwRestartNotificationAcknowledge
  | pgwDownlinkTriggeringNotification | pgwDownlinkTriggeringAcknowledge
  | alertMMENotification | alertMMEAcknowledge | ueActivityNotification
  | ueActivityAcknowledge | mBMSSessionStartRequest | mBMSSessionUpdateRequest
  | mBMSSessionStopRequest | isrStatusIndication | ueRegistrationQueryRequest
  | echoResponse | createSessionResponse | createBearerResponse
  | modifyBearerResponse | deleteSessionResponse | deleteBearerResponse
  | deleteIndirectDataForwardingTunnelResponse | updateBearerResponse
  | deleteBearerFailureIndication | createIndirectDataForwardingTunnelResponse
  | releaseAccessBearersResponse | modifyAccessBearersResponse
  | forwardRelocationResponse | contextResponse | identificationResponse
  | changeNotificationResponse | relocationCancelResponse
  | createForwardingTunnelResponse | deletePDNConnectionSetResponse
  | updatePDNConnectionSetResponse | ueRegistrationQueryResponse
  | mBMSSessionStartResponse | mBMSSessionUpdateResponse | mBMSSessionStopResponse
  /-- Any other alternative. -/
  | other
  deriving DecidableEq, Repr

/-- `PDU_GTPCv2`, by what the emulation reads. -/
structure PduGtpcv2 where
  spare : BitVec 3
  version : BitVec 3
  messageType : UInt8
  tEID : Option (BitVec 32)
  sequenceNumber : BitVec 24
  spare3 : UInt8
  gtpcv2Pdu : Gtpcv2Pdu
  /-- The IMSI information element of an alternative that has one. -/
  iMSI : Option Imsi
  deriving DecidableEq

/-- The message types of requests. -/
def gtp2Requests : List UInt8 :=
  [0x01, 0x20, 0x5F, 0x22, 0x24, 0x63, 0xA8, 0x61, 0x42, 0xA6, 0xAA, 0xB3, 0x85,
    0x82, 0x80, 0x26, 0x8B, 0xA0, 0x65, 0xC8, 0x9E, 0xE7, 0xE9, 0xEB]

/-- The message types of responses. -/
def gtp2Responses : List UInt8 :=
  [0x02, 0x21, 0x60, 0x23, 0x25, 0x64, 0xA9, 0x62, 0x43, 0xA7, 0xAB, 0xB4, 0x86,
    0x83, 0x81, 0x27, 0x8C, 0xA1, 0x66, 0xC9, 0x9F, 0xE8, 0xEA, 0xEC]

/-- The message types of the two lists, with the alternatives their comments
    name. -/
def Gtpcv2Pdu.messageType : Gtpcv2Pdu → Option UInt8
  | .echoRequest => some 0x01
  | .createSessionRequest => some 0x20
  | .createBearerRequest => some 0x5F
  | .modifyBearerRequest => some 0x22
  | .deleteSessionRequest => some 0x24
  | .deleteBearerRequest => some 0x63
  | .deleteIndirectDataForwardingTunnelRequest => some 0xA8
  | .updateBearerRequest => some 0x61
  | .deleteBearerCommand => some 0x42
  | .createIndirectDataForwardingTunnelRequest => some 0xA6
  | .releaseAccessBearersRequest => some 0xAA
  | .modifyAccessBearersRequest => some 0xB3
  | .forwardRelocationRequest => some 0x85
  | .contextRequest => some 0x82
  | .identificationRequest => some 0x80
  | .changeNotificationRequest => some 0x26
  | .relocationCancelRequest => some 0x8B
  | .createForwardingTunnelRequest => some 0xA0
  | .deletePDNConnectionSetRequest => some 0x65
  | .updatePDNConnectionSetRequest => some 0xC8
  | .ueRegistrationQueryRequest => some 0x9E
  | .mBMSSessionStartRequest => some 0xE7
  | .mBMSSessionUpdateRequest => some 0xE9
  | .mBMSSessionStopRequest => some 0xEB
  | .echoResponse => some 0x02
  | .createSessionResponse => some 0x21
  | .createBearerResponse => some 0x60
  | .modifyBearerResponse => some 0x23
  | .deleteSessionResponse => some 0x25
  | .deleteBearerResponse => some 0x64
  | .deleteIndirectDataForwardingTunnelResponse => some 0xA9
  | .updateBearerResponse => some 0x62
  | .deleteBearerFailureIndication => some 0x43
  | .createIndirectDataForwardingTunnelResponse => some 0xA7
  | .releaseAccessBearersResponse => some 0xAB
  | .modifyAccessBearersResponse => some 0xB4
  | .forwardRelocationResponse => some 0x86
  | .contextResponse => some 0x83
  | .identificationResponse => some 0x81
  | .changeNotificationResponse => some 0x27
  | .relocationCancelResponse => some 0x8C
  | .createForwardingTunnelResponse => some 0xA1
  | .deletePDNConnectionSetResponse => some 0x66
  | .updatePDNConnectionSetResponse => some 0xC9
  | .ueRegistrationQueryResponse => some 0x9F
  | .mBMSSessionStartResponse => some 0xE8
  | .mBMSSessionUpdateResponse => some 0xEA
  | .mBMSSessionStopResponse => some 0xEC
  | _ => none

/-- The message type and the alternative go together. -/
def Fits (pdu : PduGtpcv2) : Prop :=
  (pdu.messageType ∈ gtp2Requests ∨ pdu.messageType ∈ gtp2Responses) →
    pdu.gtpcv2Pdu.messageType = some pdu.messageType

instance (pdu : PduGtpcv2) : Decidable (Fits pdu) :=
  inferInstanceAs (Decidable (_ → _))

/-- A PDU as the codec makes it. -/
abbrev Gtp2Msg : Type := {pdu : PduGtpcv2 // Fits pdu}

/-- `match(pdu, tr_PDU_GTP2C_msgtypes(types))` -/
def trPduGtp2cMsgtypes (types : List UInt8) (pdu : PduGtpcv2) : Bool :=
  pdu.spare == 0 && pdu.version == 2 && pdu.spare3 == 0 && types.contains pdu.messageType

/-- `match(pdu, tr_PDU_GTP2C_msgtypes(gtp2_requests))` -/
def isRequest (pdu : PduGtpcv2) : Bool := trPduGtp2cMsgtypes gtp2Requests pdu

/-- `match(pdu, tr_PDU_GTP2C_msgtypes(gtp2_responses))` -/
def isResponse (pdu : PduGtpcv2) : Bool := trPduGtp2cMsgtypes gtp2Responses pdu

/-- Which alternatives make an initial message. -/
def Gtpcv2Pdu.isInitial : Gtpcv2Pdu → Bool
  | .echoResponse | .createSessionResponse | .createBearerResponse
  | .modifyBearerResponse | .deleteSessionResponse | .deleteBearerResponse
  | .deleteIndirectDataForwardingTunnelResponse | .updateBearerResponse
  | .deleteBearerFailureIndication | .createIndirectDataForwardingTunnelResponse
  | .releaseAccessBearersResponse | .modifyAccessBearersResponse
  | .forwardRelocationResponse | .contextResponse | .identificationResponse
  | .changeNotificationResponse | .relocationCancelResponse
  | .createForwardingTunnelResponse | .deletePDNConnectionSetResponse
  | .updatePDNConnectionSetResponse | .ueRegistrationQueryResponse
  | .mBMSSessionStartResponse | .mBMSSessionUpdateResponse
  | .mBMSSessionStopResponse | .other => false
  | _ => true

/-- `f_gtp2c_is_initial_msg` -/
def fGtp2cIsInitialMsg (pdu : PduGtpcv2) : Bool := pdu.gtpcv2Pdu.isInitial

/-- The alternatives whose IMSI is read.  That of a changeNotificationRequest is
    read without a look whether it is there. -/
def fGtp2cExtractImsi (pdu : PduGtpcv2) : Except Fault (Option Imsi) :=
  match pdu.gtpcv2Pdu with
  | .createSessionRequest | .downlinkDataNotification
  | .downlinkDataNotificationAcknowledgement
  | .downlinkDataNotificationFailureIndication
  | .createIndirectDataForwardingTunnelRequest | .stopPagingIndication
  | .forwardRelocationRequest | .contextRequest | .identificationResponse
  | .changeNotificationResponse | .relocationCancelRequest
  | .ueRegistrationQueryRequest | .ueRegistrationQueryResponse
  | .suspendNotification | .resumeNotification | .csPagingIndication
  | .pgwDownlinkTriggeringNotification | .pgwDownlinkTriggeringAcknowledge
  | .traceSessionActivation => .ok pdu.iMSI
  | .changeNotificationRequest => (bound pdu.iMSI).map some
  | _ => .ok none

/-- `int2oct(n, 3)` -/
def int2oct3 (n : Nat) : Except Fault (BitVec 24) :=
  if n < 16777216 then .ok (BitVec.ofNat 24 n) else .error .outOfRange

-- ── Tables ───────────────────────────────────────────────────────────────────

/-- A key and the component it stands for; the key is unbound in a free slot,
    and the component may be the null reference. -/
structure TableRec (κ Comp : Type) where
  key : Option κ
  vcConn : Option Comp

/-- A table of 256 entries. -/
abbrev Table (κ Comp : Type) : Type := Fin 256 → TableRec κ Comp

/-- A table in which nothing is set. -/
def unboundTable {κ Comp : Type} : Table κ Comp := fun _ => ⟨none, none⟩

section Tables

variable {κ Comp : Type} [DecidableEq κ] (t : Table κ Comp)

/-- The entry of a key. -/
def findKey (k : κ) : Option (Fin 256) := find t (fun r => decide (r.key = some k))

/-- Whether a key has an entry. -/
def known (k : κ) : Bool := (findKey t k).isSome

/-- The component of a key. -/
def compBy (k : κ) (msg : String) : Except Fault (Option Comp) :=
  (orShutdown (findKey t k) msg).map (fun i => (t i).vcConn)

/-- The first free entry takes the key and its component. -/
def tblAdd (k : κ) (vcConn : Comp) (msg : String) : Except Fault (Table κ Comp) :=
  (orShutdown (find t (fun r => r.key.isNone)) msg).map
    (fun i => Function.update t i ⟨some k, some vcConn⟩)

/-- In every slot with the key the component becomes the null reference, and
    `-` leaves the key. -/
def tblDel (k : κ) : Table κ Comp := fun i =>
  if (t i).key = some k then { t i with vcConn := none } else t i

end Tables

/-- `GTPv2_Emulation_CT`: the tables that clients register in. -/
structure RegisterTables (Comp : Type) where
  tidTable : Table (BitVec 32) Comp
  imsiTable : Table Imsi Comp
  udMsgTable : Table UInt8 Comp

/-- `GTPv2_Emulation_CT` -/
structure Gtpv2EmulationCT (Comp : Type) where
  /-- Declared as `uint16_t`; the runtime does not check it. -/
  gCSeqNr : Nat
  seqTable : Table (BitVec 24) Comp
  regs : RegisterTables Comp

/-- The two ports for clients. -/
inductive ClientPort where
  | teic0
  | client
  deriving DecidableEq, Repr

/-- The calls of `GTP2EM_PROC_PT`; `allocateTeic` comes with the TEID that is
    drawn. -/
inductive Registration (Comp : Type) where
  | registerImsi (imsi : Imsi) (vcConn : Comp)
  | registerUdmsg (messageType : UInt8) (vcConn : Comp)
  | registerTeic (teic : BitVec 32) (vcConn : Comp)
  | allocateTeic (drawn : BitVec 32) (vcConn : Comp)

/-- What a round of `main` can start with. -/
inductive Input (Comp : Type) where
  | gtp2c (msg : Gtp2Msg)
  | tx (port : ClientPort) (vcConn : Comp) (msg : Gtp2Msg)
  | register (reg : Registration Comp)

/-- What a round of `main` sends, and on which port. -/
inductive Output (Comp : Type) where
  | gtp2c (pdu : PduGtpcv2)
  | client (vcConn : Comp) (pdu : PduGtpcv2)
  | teic0 (pdu : PduGtpcv2)
  deriving DecidableEq

section Functions

variable {Comp : Type}

/-- `f_seq_known` -/
def fSeqKnown (t : Table (BitVec 24) Comp) (seq : BitVec 24) : Bool := known t seq

/-- `f_imsi_known` -/
def fImsiKnown (r : RegisterTables Comp) (imsi : Imsi) : Bool := known r.imsiTable imsi

/-- `f_teic_known` -/
def fTeicKnown (r : RegisterTables Comp) (teic : BitVec 32) : Bool :=
  known r.tidTable teic

/-- `f_comp_by_seq` -/
def fCompBySeq (t : Table (BitVec 24) Comp) (seq : BitVec 24) :
    Except Fault (Option Comp) :=
  compBy t seq "No Component for SEQ "

/-- `f_comp_by_imsi` -/
def fCompByImsi (r : RegisterTables Comp) (imsi : Imsi) : Except Fault (Option Comp) :=
  compBy r.imsiTable imsi "No Component for IMSI "

/-- `f_comp_by_teic` -/
def fCompByTeic (r : RegisterTables Comp) (teic : BitVec 32) :
    Except Fault (Option Comp) :=
  compBy r.tidTable teic "No Component for TEIC "

/-- `f_seq_tbl_add` -/
def fSeqTblAdd (t : Table (BitVec 24) Comp) (seq : BitVec 24) (vcConn : Comp) :
    Except Fault (Table (BitVec 24) Comp) :=
  tblAdd t seq vcConn "No Space in SeqTable for "

/-- `f_seq_tbl_del` -/
def fSeqTblDel (t : Table (BitVec 24) Comp) (seq : BitVec 24) :
    Table (BitVec 24) Comp :=
  tblDel t seq

/-- `f_tid_tbl_add` -/
def fTidTblAdd (r : RegisterTables Comp) (teic : BitVec 32) (vcConn : Comp) :
    Except Fault (RegisterTables Comp) :=
  (tblAdd r.tidTable teic vcConn "No Space in TidTable for ").map
    (fun t => { r with tidTable := t })

/-- `f_imsi_tbl_add` -/
def fImsiTblAdd (r : RegisterTables Comp) (imsi : Imsi) (vcConn : Comp) :
    Except Fault (RegisterTables Comp) :=
  (tblAdd r.imsiTable imsi vcConn "No Space in IMSI Table for ").map
    (fun t => { r with imsiTable := t })

/-- `f_udmsg_tbl_add` -/
def fUdmsgTblAdd (r : RegisterTables Comp) (messageType : UInt8) (vcConn : Comp) :
    Except Fault (RegisterTables Comp) :=
  (tblAdd r.udMsgTable messageType vcConn
    "No Space in UdMsg Table for messateType ").map
    (fun t => { r with udMsgTable := t })

/-- `f_alloc_teic` returns the first TEID it draws: its search compares with one
    slot only, and goes on when it finds it. -/
def fRegister (r : RegisterTables Comp) :
    Registration Comp → Except Fault (RegisterTables Comp)
  | .registerImsi imsi vcConn => fImsiTblAdd r imsi vcConn
  | .registerUdmsg messageType vcConn => fUdmsgTblAdd r messageType vcConn
  | .registerTeic teic vcConn => fTidTblAdd r teic vcConn
  | .allocateTeic drawn vcConn => fTidTblAdd r drawn vcConn

-- Which components are connected to the port `CLIENT`.
variable (connected : Comp → Bool)

/-- `CLIENT.send(gtpc) to vc_conn`; a component must be there and connected. -/
def clientSend (pdu : PduGtpcv2) (vcConn : Option Comp) :
    Except Fault (List (Output Comp)) :=
  (bound vcConn).bind (fun c =>
    if connected c then .ok [.client c pdu] else .error .unbound)

/-- `SendToUdMsgTable` -/
def sendToUdMsgTable (r : RegisterTables Comp) (pdu : PduGtpcv2) :
    Except Fault (List (Output Comp)) :=
  ((List.finRange 256).filter
      (fun i => decide ((r.udMsgTable i).key = some pdu.messageType))).foldr
    (fun i rest => (clientSend connected pdu (r.udMsgTable i).vcConn).bind
      (fun o => rest.map (fun os => o ++ os))) (.ok [])

/-- Routing by IMSI, by TEID, or by message type. -/
def routeOther (r : RegisterTables Comp) (pdu : PduGtpcv2) (imsi : Option Imsi) :
    Except Fault (List (Output Comp)) :=
  if imsi.any (fImsiKnown r) then
    (bound imsi).bind (fun imsi =>
      (fCompByImsi r imsi).bind (clientSend connected pdu))
  else if pdu.tEID.any (fun teid => teid != 0 && fTeicKnown r teid) then
    (bound pdu.tEID).bind (fun teid =>
      (fCompByTeic r teid).bind (clientSend connected pdu))
  else if pdu.tEID.all (fun teid => teid == 0) && fTeicKnown r 0 then
    (bound pdu.tEID).bind (fun teid =>
      (fCompByTeic r teid).bind (clientSend connected pdu))
  else
    (sendToUdMsgTable connected r pdu).map (fun os =>
      os ++ if pdu.tEID.all (fun teid => teid == 0) then [.teic0 pdu] else [])

variable (s : Gtpv2EmulationCT Comp)

/-- The alternative for messages of the peer. -/
def rxGtp2c (pdu : PduGtpcv2) :
    Except Fault (Gtpv2EmulationCT Comp × List (Output Comp)) :=
  (fGtp2cExtractImsi pdu).bind (fun imsi =>
    (if isResponse pdu && fSeqKnown s.seqTable pdu.sequenceNumber then
      (fCompBySeq s.seqTable pdu.sequenceNumber).bind (clientSend connected pdu)
    else routeOther connected s.regs pdu imsi).map (fun os =>
      -- remove sequence number if response was received
      (if isResponse pdu then
        { s with seqTable := fSeqTblDel s.seqTable pdu.sequenceNumber }
      else s, os)))

/-- The alternative for messages of a client, the same on both ports. -/
def rxClient (vcConn : Comp) (pdu : PduGtpcv2) :
    Except Fault (Gtpv2EmulationCT Comp × List (Output Comp)) :=
  -- patch in the next sequence number on outbound Initial message
  (if fGtp2cIsInitialMsg pdu then
    (int2oct3 s.gCSeqNr).map (fun seq =>
      ({ pdu with sequenceNumber := seq }, s.gCSeqNr + 1))
  else .ok (pdu, s.gCSeqNr)).bind (fun r =>
    if isRequest r.1 then
      (fSeqTblAdd s.seqTable r.1.sequenceNumber vcConn).map (fun t' =>
        ({ s with gCSeqNr := r.2, seqTable := t' }, [.gtp2c r.1]))
    else .ok ({ s with gCSeqNr := r.2 }, [.gtp2c r.1]))

/-- One round of `main`. -/
def mainStep : Input Comp → Except Fault (Gtpv2EmulationCT Comp × List (Output Comp))
  | .gtp2c msg => rxGtp2c connected s msg.1
  | .tx _ vcConn msg => rxClient s vcConn msg.1
  | .register reg => (fRegister s.regs reg).map (fun regs => ({ s with regs := regs }, []))

end Functions

/-- The component after `f_init`, with the number that is drawn. -/
def gtpInit {Comp : Type} (drawn : Fin 65535) : Gtpv2EmulationCT Comp :=
  { gCSeqNr := drawn, seqTable := unboundTable
    regs := ⟨unboundTable, unboundTable, unboundTable⟩ }

-- ── What the table is for ────────────────────────────────────────────────────

/-- The requests that wait for their response, by sequence number. -/
structure Matching (Comp : Type) where
  outstanding : BitVec 24 → Option Comp
  regs : RegisterTables Comp

/-- Nothing is outstanding and nothing is registered. -/
def noRequests {Comp : Type} : Matching Comp :=
  { outstanding := fun _ => none, regs := ⟨unboundTable, unboundTable, unboundTable⟩ }

section Spec

variable {Comp : Type} (connected : Comp → Bool)

/-- **REQUESTS AND RESPONSES**: what may happen on each input.  A request gets a
    number that no outstanding one has; the response goes to its sender, and
    from then on the number is nobody's. -/
inductive MatchAllowed : Matching Comp → Input Comp → Matching Comp →
    List (Output Comp) → Prop
  | response {g : Matching Comp} {msg : Gtp2Msg} {c} (htype : isResponse msg.1 = true)
      (hout : g.outstanding msg.1.sequenceNumber = some c) :
      MatchAllowed g (.gtp2c msg)
        { g with
          outstanding := Function.update g.outstanding msg.1.sequenceNumber none }
        [.client c msg.1]
  | other {g : Matching Comp} {msg : Gtp2Msg} {imsi os}
      (hnone : isResponse msg.1 = true → g.outstanding msg.1.sequenceNumber = none)
      (himsi : fGtp2cExtractImsi msg.1 = .ok imsi)
      (hroute : routeOther connected g.regs msg.1 imsi = .ok os) :
      MatchAllowed g (.gtp2c msg) g os
  | request {g : Matching Comp} {port c seq} {msg : Gtp2Msg}
      (htype : isRequest msg.1 = true) (hfresh : g.outstanding seq = none) :
      MatchAllowed g (.tx port c msg)
        { g with outstanding := Function.update g.outstanding seq (some c) }
        [.gtp2c { msg.1 with sequenceNumber := seq }]
  | initial {g : Matching Comp} {port c seq} {msg : Gtp2Msg}
      (htype : isRequest msg.1 = false) (hinit : fGtp2cIsInitialMsg msg.1 = true) :
      MatchAllowed g (.tx port c msg) g [.gtp2c { msg.1 with sequenceNumber := seq }]
  | plain {g : Matching Comp} {port c} {msg : Gtp2Msg}
      (htype : isRequest msg.1 = false) (hinit : fGtp2cIsInitialMsg msg.1 = false) :
      MatchAllowed g (.tx port c msg) g [.gtp2c msg.1]
  | register {g : Matching Comp} {reg regs} (hreg : fRegister g.regs reg = .ok regs) :
      MatchAllowed g (.register reg) { g with regs := regs } []

/-- Where the test may end: with a message of the peer that is no response to
    an outstanding request and cannot be routed, with a request when 256 are
    outstanding, or with a registration when the table is full. -/
def MatchStops (g : Matching Comp) : Input Comp → Prop
  | .gtp2c msg =>
      (isResponse msg.1 = true → g.outstanding msg.1.sequenceNumber = none)
        ∧ ((∃ e, fGtp2cExtractImsi msg.1 = .error e)
          ∨ ∃ imsi e, fGtp2cExtractImsi msg.1 = .ok imsi
            ∧ routeOther connected g.regs msg.1 imsi = .error e)
  | .tx _ _ msg => isRequest msg.1 = true ∧ Full 256 g.outstanding
  | .register reg => ∃ e, fRegister g.regs reg = .error e

/-- One entry for every outstanding request and none for any other; the counter
    fits its type; and the response to an outstanding request is delivered to
    who sent the request, and to nobody else. -/
structure Matches (s : Gtpv2EmulationCT Comp) (g : Matching Comp) : Prop where
  outstanding : ∀ seq c, g.outstanding seq = some c ↔ ∃ i,
    (s.seqTable i).key = some seq ∧ (s.seqTable i).vcConn = some c
  answered : ∀ i seq, (s.seqTable i).key = some seq → g.outstanding seq ≠ none
  distinct : ∀ i j seq, (s.seqTable i).key = some seq →
    (s.seqTable j).key = some seq → i = j
  counter : s.gCSeqNr < 65536
  delivers : ∀ (msg : Gtp2Msg) c, isResponse msg.1 = true →
    g.outstanding msg.1.sequenceNumber = some c →
    ∃ s', mainStep connected s (.gtp2c msg) = .ok (s', [.client c msg.1])
  regs : s.regs = g.regs

/-- What an input has to meet: a response bears no number of the table, and the
    counter has a number after the one it gives to a message; who sends a
    request can be reached. -/
def MatchGuard (s : Gtpv2EmulationCT Comp) : Input Comp → Prop
  | .gtp2c msg => isResponse msg.1 = true →
      fSeqKnown s.seqTable msg.1.sequenceNumber = false
  | .tx _ vcConn msg => fGtp2cIsInitialMsg msg.1 = true →
      s.gCSeqNr < 65535 ∧ (isRequest msg.1 = true → connected vcConn = true)
  | .register _ => True

instance (s : Gtpv2EmulationCT Comp) : (input : Input Comp) →
    Decidable (MatchGuard connected s input)
  | .gtp2c msg => inferInstanceAs (Decidable (isResponse msg.1 = true →
      fSeqKnown s.seqTable msg.1.sequenceNumber = false))
  | .tx _ vcConn msg => inferInstanceAs (Decidable (fGtp2cIsInitialMsg msg.1 = true →
      s.gCSeqNr < 65535 ∧ (isRequest msg.1 = true → connected vcConn = true)))
  | .register _ => .isTrue trivial

end Spec

-- ── Message types ────────────────────────────────────────────────────────────

/-- A request is a message of one of the request types. -/
theorem isRequest_mem {pdu : PduGtpcv2} (h : isRequest pdu = true) :
    pdu.messageType ∈ gtp2Requests :=
  List.contains_iff_mem.mp ((Bool.and_eq_true_iff.mp h).2)

/-- A response is a message of one of the response types. -/
theorem isResponse_mem {pdu : PduGtpcv2} (h : isResponse pdu = true) :
    pdu.messageType ∈ gtp2Responses :=
  List.contains_iff_mem.mp ((Bool.and_eq_true_iff.mp h).2)

/-- The alternatives of requests are initial messages. -/
theorem request_initial (a : Gtpcv2Pdu) :
    a.messageType.all (fun ty => !gtp2Requests.contains ty || a.isInitial) = true := by
  cases a <;> rfl

/-- **A REQUEST IS AN INITIAL MESSAGE**, so its number is the emulation's. -/
theorem isRequest_initial (msg : Gtp2Msg) (h : isRequest msg.1 = true) :
    fGtp2cIsInitialMsg msg.1 = true := by
  have hmem := isRequest_mem h
  have hall := request_initial msg.1.gtpcv2Pdu
  rw [msg.2 (Or.inl hmem)] at hall
  have hor : (!gtp2Requests.contains msg.1.messageType
      || msg.1.gtpcv2Pdu.isInitial) = true := hall
  rw [List.contains_iff_mem.mpr hmem] at hor
  exact hor

/-- The IMSI of a response can be asked for. -/
theorem isResponse_imsi (msg : Gtp2Msg) (h : isResponse msg.1 = true) :
    ∃ imsi, fGtp2cExtractImsi msg.1 = .ok imsi := by
  have hmem := isResponse_mem h
  have hty := msg.2 (Or.inr hmem)
  have hne : msg.1.gtpcv2Pdu ≠ .changeNotificationRequest := by
    intro heq
    rw [heq] at hty
    rw [← Option.some.inj hty] at hmem
    exact absurd hmem (by decide)
  rw [fGtp2cExtractImsi]
  cases ha : msg.1.gtpcv2Pdu <;> first
    | exact ⟨_, rfl⟩
    | exact absurd ha hne

-- ── The invariant ────────────────────────────────────────────────────────────

section Invariant

variable {Comp : Type} {connected : Comp → Bool}

/-- The request in a slot. -/
def entry (r : TableRec (BitVec 24) Comp) : Option (BitVec 24 × Comp) :=
  r.key.bind (fun seq => r.vcConn.map (fun c => (seq, c)))

/-- The table holds the outstanding requests, with numbers below the counter and
    senders that can be reached. -/
structure MatchInv (connected : Comp → Bool) (s : Gtpv2EmulationCT Comp)
    (g : Matching Comp) : Prop where
  rep : Represents entry s.seqTable g.outstanding
  wf : ∀ i seq, (s.seqTable i).key = some seq → seq.toNat < s.gCSeqNr
    ∧ ∃ c, (s.seqTable i).vcConn = some c ∧ connected c = true
  counter : s.gCSeqNr < 65536
  regs : s.regs = g.regs

/-- An entry counts once it has a number and a component. -/
theorem entry_iff {r : TableRec (BitVec 24) Comp} {seq : BitVec 24} {c : Comp} :
    entry r = some (seq, c) ↔ r.key = some seq ∧ r.vcConn = some c := by
  rw [entry, Option.bind_eq_some_iff]
  constructor
  · rintro ⟨seq', hseq, he⟩
    obtain ⟨c', hc, heq⟩ := Option.map_eq_some_iff.mp he
    obtain ⟨rfl, rfl⟩ := Prod.mk.inj heq
    exact ⟨hseq, hc⟩
  · rintro ⟨hseq, hc⟩
    exact ⟨seq, hseq, by rw [hc]; rfl⟩

/-- Deleting a key that is not there leaves the table as it is. -/
theorem tblDel_absent {κ : Type} [DecidableEq κ] {t : Table κ Comp} {k : κ}
    (h : known t k = false) : tblDel t k = t := by
  funext i
  have hnone : findKey t k = none :=
    Option.isNone_iff_eq_none.mp (Option.isSome_eq_false_iff.mp h)
  have hi : ¬ (t i).key = some k := of_decide_eq_false (find_eq_none.mp hnone i)
  exact if_neg hi

variable {s : Gtpv2EmulationCT Comp} {g : Matching Comp} {seq : BitVec 24} {c : Comp}

/-- The entry of a number is where its request was noted. -/
theorem MatchInv.accepts (h : MatchInv connected s g) (seq : BitVec 24)
    (i : Fin 256) : decide ((s.seqTable i).key = some seq) = true
      ↔ ∃ c, entry (s.seqTable i) = some (seq, c) := by
  rw [decide_eq_true_iff]
  constructor
  · intro hseq
    obtain ⟨-, c, hc, -⟩ := h.wf i seq hseq
    exact ⟨c, entry_iff.mpr ⟨hseq, hc⟩⟩
  · rintro ⟨c, he⟩
    exact (entry_iff.mp he).1

/-- **THE SEARCH FOR A NUMBER** finds the outstanding request. -/
theorem MatchInv.findSeq (h : MatchInv connected s g)
    (hout : g.outstanding seq = some c) : ∃ i, findKey s.seqTable seq = some i
      ∧ entry (s.seqTable i) = some (seq, c) := by
  obtain ⟨i, hf, hi⟩ := h.rep.find_of_get
    (p := fun r : TableRec (BitVec 24) Comp => decide (r.key = some seq))
    (h.accepts seq) hout
  exact ⟨i, hf, hi⟩

/-- `f_seq_known` says whether a request of that number is outstanding. -/
theorem MatchInv.known (h : MatchInv connected s g) :
    fSeqKnown s.seqTable seq = (g.outstanding seq).isSome := by
  rw [fSeqKnown, OsmoGtpv2.known]
  cases hout : g.outstanding seq with
  | none =>
      have hnone := (h.rep.find_none
        (p := fun r : TableRec (BitVec 24) Comp => decide (r.key = some seq))
        (h.accepts seq)).mpr hout
      rw [findKey, hnone]
      rfl
  | some c =>
      obtain ⟨i, hf, -⟩ := h.findSeq hout
      rw [hf]
      rfl

/-- **DELIVERY**: the response to an outstanding request goes to its sender. -/
theorem MatchInv.delivers (h : MatchInv connected s g) (msg : Gtp2Msg)
    (htype : isResponse msg.1 = true)
    (hout : g.outstanding msg.1.sequenceNumber = some c) :
    ∃ s', mainStep connected s (.gtp2c msg) = .ok (s', [.client c msg.1]) := by
  obtain ⟨i, hf, hi⟩ := h.findSeq hout
  obtain ⟨hkey, hc⟩ := entry_iff.mp hi
  obtain ⟨-, c', hc', hconn⟩ := h.wf i _ hkey
  rw [hc] at hc'
  rw [← Option.some.inj hc'] at hconn
  obtain ⟨imsi, himsi⟩ := isResponse_imsi msg htype
  have hcond : (isResponse msg.1 && fSeqKnown s.seqTable msg.1.sequenceNumber)
      = true := by
    rw [htype, h.known, hout]
    rfl
  have hsend : (fCompBySeq s.seqTable msg.1.sequenceNumber).bind
      (clientSend connected msg.1) = .ok [.client c msg.1] := by
    rw [fCompBySeq, compBy, hf]
    show clientSend connected msg.1 (s.seqTable i).vcConn = _
    rw [hc]
    exact if_pos hconn
  refine ⟨{ s with seqTable := fSeqTblDel s.seqTable msg.1.sequenceNumber }, ?_⟩
  show rxGtp2c connected s msg.1 = _
  rw [rxGtp2c, himsi]
  show Except.map _ (if _ then _ else _) = _
  rw [if_pos hcond, hsend, htype]
  rfl

/-- The invariant says what the specification says of the tables. -/
theorem MatchInv.holds (h : MatchInv connected s g) : Matches connected s g where
  outstanding := by
    intro seq c
    rw [h.rep.holds]
    exact exists_congr (fun i => entry_iff)
  answered := by
    intro i seq hseq
    obtain ⟨-, c, hc, -⟩ := h.wf i seq hseq
    rw [h.rep.get (entry_iff.mpr ⟨hseq, hc⟩)]
    exact Option.some_ne_none _
  distinct := by
    intro i j seq hi hj
    obtain ⟨-, c, hc, -⟩ := h.wf i seq hi
    obtain ⟨-, c', hc', -⟩ := h.wf j seq hj
    exact (h.rep.same (entry_iff.mpr ⟨hi, hc⟩) (entry_iff.mpr ⟨hj, hc'⟩)).1
  counter := h.counter
  delivers := fun msg _ => h.delivers msg
  regs := h.regs

/-- The emulation starts with empty tables. -/
theorem matchInv_init (drawn : Fin 65535) :
    MatchInv connected (gtpInit drawn) noRequests where
  rep := represents_empty (fun _ => rfl)
  wf := fun _ _ hseq => nomatch hseq
  counter := Nat.lt_of_lt_of_le drawn.isLt (by decide)
  regs := rfl

-- ── Every input keeps it ─────────────────────────────────────────────────────

/-- A message of the peer that is no response to a request in the table. -/
theorem MatchInv.rxGtp2c {msg : Gtp2Msg} (h : MatchInv connected s g)
    (hguard : MatchGuard connected s (.gtp2c msg)) :
    StepFollows (mainStep connected) (MatchAllowed connected) (MatchStops connected)
      (MatchInv connected) s g (.gtp2c msg) := by
  have hnone : isResponse msg.1 = true →
      g.outstanding msg.1.sequenceNumber = none := by
    intro htype
    have hknown := hguard htype
    rw [h.known] at hknown
    exact Option.isNone_iff_eq_none.mp (Option.isSome_eq_false_iff.mp hknown)
  have hcond : ¬ (isResponse msg.1 && fSeqKnown s.seqTable msg.1.sequenceNumber)
      = true := by
    rw [Bool.and_eq_true_iff]
    rintro ⟨htype, hknown⟩
    rw [hguard htype] at hknown
    exact nomatch hknown
  have hdel : (if isResponse msg.1 = true then
      { s with seqTable := fSeqTblDel s.seqTable msg.1.sequenceNumber } else s) = s := by
    cases htype : isResponse msg.1 with
    | false => rfl
    | true =>
        have hsame : fSeqTblDel s.seqTable msg.1.sequenceNumber = s.seqTable :=
          tblDel_absent (hguard htype)
        rw [hsame]
        rfl
  have hstep : mainStep connected s (.gtp2c msg) = (fGtp2cExtractImsi msg.1).bind
      (fun imsi => (routeOther connected s.regs msg.1 imsi).map (fun os => (s, os))) := by
    show OsmoGtpv2.rxGtp2c connected s msg.1 = _
    rw [OsmoGtpv2.rxGtp2c, hdel]
    simp only [if_neg hcond]
  cases himsi : fGtp2cExtractImsi msg.1 with
  | error e =>
      rw [himsi] at hstep
      exact stepFollows_error hstep ⟨hnone, Or.inl ⟨e, himsi⟩⟩
  | ok imsi =>
      rw [himsi] at hstep
      cases hroute : routeOther connected s.regs msg.1 imsi with
      | error e =>
          have herr : mainStep connected s (.gtp2c msg) = .error e := by
            refine hstep.trans ?_
            show (routeOther connected s.regs msg.1 imsi).map _ = _
            rw [hroute]
            rfl
          rw [h.regs] at hroute
          exact stepFollows_error herr ⟨hnone, Or.inr ⟨imsi, e, himsi, hroute⟩⟩
      | ok os =>
          have hok : mainStep connected s (.gtp2c msg) = .ok (s, os) := by
            refine hstep.trans ?_
            show (routeOther connected s.regs msg.1 imsi).map _ = _
            rw [hroute]
            rfl
          rw [h.regs] at hroute
          exact stepFollows_ok hok (MatchAllowed.other hnone himsi hroute) h

/-- The counter goes up. -/
theorem MatchInv.count (h : MatchInv connected s g) (hlt : s.gCSeqNr < 65535) :
    MatchInv connected { s with gCSeqNr := s.gCSeqNr + 1 } g where
  rep := h.rep
  wf := by
    intro i seq hseq
    obtain ⟨hbelow, hc⟩ := h.wf i seq hseq
    exact ⟨Nat.lt_succ_of_lt hbelow, hc⟩
  counter := Nat.succ_lt_succ hlt
  regs := h.regs

/-- **A NEW REQUEST** takes a free slot under the number of the counter, which
    is above all numbers of the table. -/
theorem MatchInv.add (h : MatchInv connected s g) (hlt : s.gCSeqNr < 65535)
    (hconn : connected c = true) (hseq : seq.toNat = s.gCSeqNr) :
    g.outstanding seq = none
      ∧ ((∃ t', fSeqTblAdd s.seqTable seq c = .ok t' ∧ MatchInv connected
          { s with gCSeqNr := s.gCSeqNr + 1, seqTable := t' }
          { g with outstanding := Function.update g.outstanding seq (some c) })
        ∨ (∃ e, fSeqTblAdd s.seqTable seq c = .error e) ∧ Full 256 g.outstanding) := by
  have hfresh : g.outstanding seq = none := by
    refine Option.eq_none_iff_forall_ne_some.mpr (fun c' hout => ?_)
    obtain ⟨i, hi⟩ := (h.rep.holds seq c').mp hout
    have hbelow := (h.wf i seq (entry_iff.mp hi).1).1
    omega
  refine ⟨hfresh, ?_⟩
  rw [fSeqTblAdd, tblAdd]
  cases hf : find s.seqTable (fun r => r.key.isNone) with
  | none =>
      refine Or.inr ⟨⟨_, rfl⟩, h.rep.full (fun i he => ?_)⟩
      have hi := find_eq_none.mp hf i
      obtain ⟨seq', hseq'⟩ := Option.isSome_iff_exists.mp
        (Option.isNone_eq_false_iff.mp hi)
      obtain ⟨-, c', hc', -⟩ := h.wf i seq' hseq'
      rw [entry_iff.mpr ⟨hseq', hc'⟩] at he
      exact nomatch he
  | some i =>
      have hfree : (s.seqTable i).key = none :=
        Option.isNone_iff_eq_none.mp (find_eq_some.mp hf).1
      refine Or.inl ⟨Function.update s.seqTable i ⟨some seq, some c⟩, rfl,
        ?_, ?_, Nat.succ_lt_succ hlt, h.regs⟩
      · refine h.rep.add ?_ hfresh (entry_iff.mpr ⟨rfl, rfl⟩)
        rw [entry, hfree]
        rfl
      · intro j seq' hj
        have hj' : (Function.update s.seqTable i ⟨some seq, some c⟩ j).key
            = some seq' := hj
        show seq'.toNat < s.gCSeqNr + 1 ∧ ∃ c', (Function.update s.seqTable i
          ⟨some seq, some c⟩ j).vcConn = some c' ∧ connected c' = true
        by_cases hji : j = i
        · rw [hji, Function.update_self] at hj' ⊢
          rw [← Option.some.inj hj', hseq]
          exact ⟨Nat.lt_succ_self _, c, rfl, hconn⟩
        · rw [Function.update_of_ne hji] at hj' ⊢
          obtain ⟨hbelow, hc⟩ := h.wf j seq' hj'
          exact ⟨Nat.lt_succ_of_lt hbelow, hc⟩

/-- A message of a client. -/
theorem MatchInv.rxClient {port : ClientPort} {msg : Gtp2Msg}
    (h : MatchInv connected s g) (hguard : MatchGuard connected s (.tx port c msg)) :
    StepFollows (mainStep connected) (MatchAllowed connected) (MatchStops connected)
      (MatchInv connected) s g (.tx port c msg) := by
  cases hinit : fGtp2cIsInitialMsg msg.1 with
  | false =>
      have htype : isRequest msg.1 = false := by
        refine Bool.eq_false_iff.mpr (fun hreq => ?_)
        rw [isRequest_initial msg hreq] at hinit
        exact nomatch hinit
      have hok : mainStep connected s (.tx port c msg) = .ok (s, [.gtp2c msg.1]) := by
        show OsmoGtpv2.rxClient s c msg.1 = _
        rw [OsmoGtpv2.rxClient, hinit]
        show (if isRequest msg.1 = true then _ else _) = _
        rw [htype]
        rfl
      exact stepFollows_ok hok (MatchAllowed.plain htype hinit) h
  | true =>
      obtain ⟨hlt, hconn⟩ := hguard hinit
      have hoct : int2oct3 s.gCSeqNr = .ok (BitVec.ofNat 24 s.gCSeqNr) :=
        if_pos (by omega)
      have hstep : mainStep connected s (.tx port c msg)
          = if isRequest msg.1 = true then
              (fSeqTblAdd s.seqTable (BitVec.ofNat 24 s.gCSeqNr) c).map (fun t' =>
                ({ s with gCSeqNr := s.gCSeqNr + 1, seqTable := t' },
                  [.gtp2c { msg.1 with sequenceNumber := BitVec.ofNat 24 s.gCSeqNr }]))
            else .ok ({ s with gCSeqNr := s.gCSeqNr + 1 },
              [.gtp2c { msg.1 with sequenceNumber := BitVec.ofNat 24 s.gCSeqNr }]) := by
        show OsmoGtpv2.rxClient s c msg.1 = _
        rw [OsmoGtpv2.rxClient, hinit, hoct]
        rfl
      cases htype : isRequest msg.1 with
      | false =>
          rw [htype] at hstep
          exact stepFollows_ok hstep (MatchAllowed.initial htype hinit) (h.count hlt)
      | true =>
          rw [htype] at hstep
          have hnat : (BitVec.ofNat 24 s.gCSeqNr).toNat = s.gCSeqNr := by
            rw [BitVec.toNat_ofNat]
            exact Nat.mod_eq_of_lt (by omega)
          obtain ⟨hfresh, ⟨t', hadd, hinv⟩ | ⟨⟨e, he⟩, hfull⟩⟩ :=
            h.add hlt (hconn htype) hnat
          · rw [if_pos rfl, hadd] at hstep
            exact stepFollows_ok hstep (MatchAllowed.request htype hfresh) hinv
          · rw [if_pos rfl, he] at hstep
            exact stepFollows_error hstep ⟨htype, hfull⟩

/-- **ONE INPUT** that meets the guard. -/
theorem mainStep_follows {input : Input Comp} (h : MatchInv connected s g)
    (hguard : MatchGuard connected s input) :
    StepFollows (mainStep connected) (MatchAllowed connected) (MatchStops connected)
      (MatchInv connected) s g input := by
  cases input with
  | gtp2c msg => exact h.rxGtp2c hguard
  | tx port vcConn msg => exact h.rxClient hguard
  | register reg =>
      cases hreg : fRegister s.regs reg with
      | error e =>
          have herr : mainStep connected s (.register reg) = .error e := by
            rw [mainStep, hreg]
            rfl
          rw [h.regs] at hreg
          exact stepFollows_error herr ⟨e, hreg⟩
      | ok regs =>
          have hok : mainStep connected s (.register reg)
              = .ok ({ s with regs := regs }, []) := by
            rw [mainStep, hreg]
            rfl
          rw [h.regs] at hreg
          exact stepFollows_ok hok (MatchAllowed.register hreg)
            ⟨h.rep, h.wf, h.counter, rfl⟩

/-- **GTP MATCHING**: a run whose inputs meet the guard matches requests and
    responses as the specification says. -/
theorem gtp_matching (connected : Comp → Bool) (drawn : Fin 65535)
    (inputs : List (Input Comp))
    (hguard : RunGuard.Guarded (mainStep connected) (MatchGuard connected)
      (gtpInit drawn) inputs) :
    Follows (mainStep connected) (MatchAllowed connected) (MatchStops connected)
      (Matches connected) (gtpInit drawn) noRequests inputs :=
  (follows_of_guarded (fun _ _ _ h hG => mainStep_follows h hG) inputs _ _
    (matchInv_init drawn) hguard).imp (fun _ _ h => h.holds)

/-- After a response its number is nobody's. -/
theorem MatchAllowed.answered {g' : Matching Comp} {msg : Gtp2Msg}
    {os : List (Output Comp)} (h : MatchAllowed connected g (.gtp2c msg) g' os)
    (htype : isResponse msg.1 = true) : g'.outstanding msg.1.sequenceNumber = none := by
  cases h with
  | response _ _ => exact Function.update_self _ _ _
  | other hnone _ _ => exact hnone htype

end Invariant

/-- A message of a type, with a sequence number and the TEID 0. -/
def message (ty : UInt8) (a : Gtpcv2Pdu) (seq : BitVec 24) : PduGtpcv2 :=
  { spare := 0, version := 2, messageType := ty, tEID := some 0
    sequenceNumber := seq, spare3 := 0, gtpcv2Pdu := a, iMSI := none }

/-- Two requests of two clients, a request of the peer and an old response. -/
def askTwice : List (Input Nat) :=
  [.register (.registerTeic 0 30),
    .tx .client 10 ⟨message 0x20 .createSessionRequest 0, by decide⟩,
    .tx .client 20 ⟨message 0x24 .deleteSessionRequest 0, by decide⟩,
    .gtp2c ⟨message 0x5F .createBearerRequest 9, by decide⟩,
    .tx .client 30 ⟨message 0x60 .createBearerResponse 9, by decide⟩,
    .gtp2c ⟨message 0x21 .createSessionResponse 1, by decide⟩]

set_option maxRecDepth 8000 in
/-- The requests of two clients, kept apart by their numbers. -/
theorem gtp_matching_askTwice : Follows (mainStep (fun _ : Nat => true))
    (MatchAllowed (fun _ => true)) (MatchStops (fun _ => true))
    (Matches (fun _ => true)) (gtpInit 7) noRequests askTwice :=
  gtp_matching (fun _ => true) 7 askTwice (by decide)

/-- A request, its response and a duplicate of the response. -/
def duplicate : List (Input Nat) :=
  [.tx .client 10 ⟨message 0x20 .createSessionRequest 0, by decide⟩,
    .gtp2c ⟨message 0x21 .createSessionResponse 7, by decide⟩,
    .gtp2c ⟨message 0x21 .createSessionResponse 7, by decide⟩]

set_option maxRecDepth 8000 in
/-- **THE NUMBER STAYS IN THE TABLE**: after the response its entry is still
    there, and the duplicate is routed by it, to no component. -/
theorem duplicate_found :
    (∃ s os, RunGuard.run (mainStep (fun _ : Nat => true)) (gtpInit 7)
        (duplicate.take 2) = .ok (s, os) ∧ fSeqKnown s.seqTable 7 = true)
      ∧ RunGuard.run (mainStep (fun _ : Nat => true)) (gtpInit 7) duplicate
        = .error .unbound
      ∧ ¬ Follows (mainStep (fun _ : Nat => true)) (MatchAllowed (fun _ => true))
        (MatchStops (fun _ => true)) (Matches (fun _ => true)) (gtpInit 7) noRequests
        duplicate := by
  refine ⟨⟨_, _, rfl, rfl⟩, rfl, fun h => ?_⟩
  obtain ⟨-, g1, -, -, g2, hallowed, hmatches, -⟩ := h
  exact hmatches.answered 0 7 rfl (hallowed.answered rfl)

end OsmoGtpv2
