import OsmoTtcn.TitanProofs

/-! # MNCC types

    The types of `MNCC_Types.ttcn`.  An `int` is a C int and an `uint8_t` an
    octet; an `uint32_t` is a plain integer, since nothing checks its range
    when the runtime converts one.  A `charstring` is the list of its
    characters. -/

namespace OsmoMncc

open OsmoTitan

-- ── Enumerated types ─────────────────────────────────────────────────────────

/-- GSM 04.08 Bearer Capability: Rate Adaption -/
inductive Gsm48BcapRa where
  | none | v110X30 | x31 | other
  deriving DecidableEq, Repr

instance : Enumerated Gsm48BcapRa where
  items := [.none, .v110X30, .x31, .other]
  num
    | .none => 0 | .v110X30 => 1 | .x31 => 2 | .other => 3
  find_num e := by cases e <;> rfl

/-- `GSM48_BCAP_SA_*`, the signalling access protocol. -/
inductive Gsm48BcapSigAccess where
  | none | i440I450 | x21 | x28DpIn | x28DpUn | x28Ndp | x32
  deriving DecidableEq, Repr

instance : Enumerated Gsm48BcapSigAccess where
  items := [.none, .i440I450, .x21, .x28DpIn, .x28DpUn, .x28Ndp, .x32]
  num
    | .none => 0 | .i440I450 => 1 | .x21 => 2 | .x28DpIn => 3 | .x28DpUn => 4
    | .x28Ndp => 5 | .x32 => 6
  find_num e := by cases e <;> rfl

/-- `GSM48_BCAP_UR_*`, the user rate. -/
inductive Gsm48BcapUserRate where
  | none | ur300 | ur1200 | ur2400 | ur4800 | ur9600 | ur12000 | ur1200to75
  deriving DecidableEq, Repr

instance : Enumerated Gsm48BcapUserRate where
  items := [.none, .ur300, .ur1200, .ur2400, .ur4800, .ur9600, .ur12000,
    .ur1200to75]
  num
    | .none => 0 | .ur300 => 1 | .ur1200 => 2 | .ur2400 => 3 | .ur4800 => 4
    | .ur9600 => 5 | .ur12000 => 6 | .ur1200to75 => 7
  find_num e := by cases e <;> rfl

/-- `GSM48_BCAP_PAR_*` -/
inductive Gsm48BcapParity where
  | odd | even | none | zero | one
  deriving DecidableEq, Repr

instance : Enumerated Gsm48BcapParity where
  items := [.odd, .even, .none, .zero, .one]
  num
    | .odd => 0 | .even => 2 | .none => 3 | .zero => 4 | .one => 5
  find_num e := by cases e <;> rfl

/-- `GSM48_BCAP_IR_*`, the intermediate rate. -/
inductive Gsm48BcapIntermRate where
  | none | ir8K | ir16K
  deriving DecidableEq, Repr

instance : Enumerated Gsm48BcapIntermRate where
  items := [.none, .ir8K, .ir16K]
  num
    | .none => 0 | .ir8K => 2 | .ir16K => 3
  find_num e := by cases e <;> rfl

/-- `GSM48_BCAP_TR_*`, the connection element. -/
inductive Gsm48BcapTransp where
  | transp | rlp | trPref | rlpPref
  deriving DecidableEq, Repr

instance : Enumerated Gsm48BcapTransp where
  items := [.transp, .rlp, .trPref, .rlpPref]
  num
    | .transp => 0 | .rlp => 1 | .trPref => 2 | .rlpPref => 3
  find_num e := by cases e <;> rfl

/-- `GSM48_BCAP_MT_*` -/
inductive Gsm48BcapModemType where
  | none | v21 | v22 | v22bis | v23 | v26ter | v32 | undef | auto1
  deriving DecidableEq, Repr

instance : Enumerated Gsm48BcapModemType where
  items := [.none, .v21, .v22, .v22bis, .v23, .v26ter, .v32, .undef, .auto1]
  num
    | .none => 0 | .v21 => 1 | .v22 => 2 | .v22bis => 3 | .v23 => 4 | .v26ter => 5
    | .v32 => 6 | .undef => 7 | .auto1 => 8
  find_num e := by cases e <;> rfl

/-- 24.008 10.5.118 -/
inductive Gsm48NumPlanInd where
  | unknown | e164 | x121 | f69 | national | privatePlan | cts | reserved
  deriving DecidableEq, Repr

instance : Enumerated Gsm48NumPlanInd where
  items := [.unknown, .e164, .x121, .f69, .national, .privatePlan, .cts, .reserved]
  num
    | .unknown => 0 | .e164 => 1 | .x121 => 3 | .f69 => 4 | .national => 8
    | .privatePlan => 9 | .cts => 11 | .reserved => 15
  find_num e := by cases e <;> rfl

/-- 04.08 10.5.118 -/
inductive Gsm48TypeOfNumber where
  | unknown | international | national | networkSpecific | shortCode
  deriving DecidableEq, Repr

instance : Enumerated Gsm48TypeOfNumber where
  items := [.unknown, .international, .national, .networkSpecific, .shortCode]
  num
    | .unknown => 0 | .international => 1 | .national => 2 | .networkSpecific => 3
    | .shortCode => 4
  find_num e := by cases e <;> rfl

/-- 04.08 10.5.120 -/
inductive Gsm48PresentInd where
  | allowed | restricted | numNotAvail | reserved
  deriving DecidableEq, Repr

instance : Enumerated Gsm48PresentInd where
  items := [.allowed, .restricted, .numNotAvail, .reserved]
  num
    | .allowed => 0 | .restricted => 1 | .numNotAvail => 2 | .reserved => 3
  find_num e := by cases e <;> rfl

/-- `GSM48_SCREEN_*` -/
inductive Gsm48ScreeningInd where
  | notScreened | verifPassed | verifFailed | netwProvided
  deriving DecidableEq, Repr

instance : Enumerated Gsm48ScreeningInd where
  items := [.notScreened, .verifPassed, .verifFailed, .netwProvided]
  num
    | .notScreened => 0 | .verifPassed => 1 | .verifFailed => 2 | .netwProvided => 3
  find_num e := by cases e <;> rfl

/-- 24.008 Table 10.5.122 -/
inductive Gsm48CauseCoding where
  | q931 | rsvd | national | gsm
  deriving DecidableEq, Repr

instance : Enumerated Gsm48CauseCoding where
  items := [.q931, .rsvd, .national, .gsm]
  num
    | .q931 => 0 | .rsvd => 1 | .national => 2 | .gsm => 3
  find_num e := by cases e <;> rfl

/-- `GSM48_CAUSE_LOC_*` -/
inductive Gsm48CauseLoc where
  | user | prnSLu | punSLu | transNet | punSRu | prnSRu | innNet | netBeyond
  deriving DecidableEq, Repr

instance : Enumerated Gsm48CauseLoc where
  items := [.user, .prnSLu, .punSLu, .transNet, .punSRu, .prnSRu, .innNet,
    .netBeyond]
  num
    | .user => 0 | .prnSLu => 1 | .punSLu => 2 | .transNet => 3 | .punSRu => 4
    | .prnSRu => 5 | .innNet => 7 | .netBeyond => 10
  find_num e := by cases e <;> rfl

/-- `MNCC_MsgType`, the messages of the socket. -/
inductive MnccMsgType where
  | setupReq | setupInd | setupRsp | setupCnf | setupComplReq | setupComplInd
  | callConfInd | callProcReq | progressReq | alertReq | alertInd | notifyReq
  | notifyInd | discReq | discInd | relReq | relInd | relCnf | facilityReq
  | facilityInd | startDtmfInd | startDtmfRsp | startDtmfRej | stopDtmfInd
  | stopDtmfRsp | modifyReq | modifyInd | modifyRsp | modifyCnf | modifyRej
  | holdInd | holdCnf | holdRej | retrieveInd | retrieveCnf | retrieveRej
  | userinfoReq | userinfoInd | rejReq | rejInd | progressInd | callProcInd
  | callConfReq | startDtmfReq | stopDtmfReq | holdReq | retrieveReq | bridge
  | frameRecv | frameDrop | lchanModify | rtpCreate | rtpConnect | rtpFree
  | gsmTchfFrame | gsmTchfFrameEfr | gsmTchhFrame | gsmTchFrameAmr | gsmBadFrame
  | socketHello
  deriving DecidableEq, Repr

instance : Enumerated MnccMsgType where
  items := [.setupReq, .setupInd, .setupRsp, .setupCnf, .setupComplReq,
    .setupComplInd, .callConfInd, .callProcReq, .progressReq, .alertReq, .alertInd,
    .notifyReq, .notifyInd, .discReq, .discInd, .relReq, .relInd, .relCnf,
    .facilityReq, .facilityInd, .startDtmfInd, .startDtmfRsp, .startDtmfRej,
    .stopDtmfInd, .stopDtmfRsp, .modifyReq, .modifyInd, .modifyRsp, .modifyCnf,
    .modifyRej, .holdInd, .holdCnf, .holdRej, .retrieveInd, .retrieveCnf,
    .retrieveRej, .userinfoReq, .userinfoInd, .rejReq, .rejInd, .progressInd,
    .callProcInd, .callConfReq, .startDtmfReq, .stopDtmfReq, .holdReq,
    .retrieveReq, .bridge, .frameRecv, .frameDrop, .lchanModify, .rtpCreate,
    .rtpConnect, .rtpFree, .gsmTchfFrame, .gsmTchfFrameEfr, .gsmTchhFrame,
    .gsmTchFrameAmr, .gsmBadFrame, .socketHello]
  num
    | .setupReq => 0x0101 | .setupInd => 0x0102 | .setupRsp => 0x0103
    | .setupCnf => 0x0104 | .setupComplReq => 0x0105 | .setupComplInd => 0x0106
    | .callConfInd => 0x0107 | .callProcReq => 0x0108 | .progressReq => 0x0109
    | .alertReq => 0x010a | .alertInd => 0x010b | .notifyReq => 0x010c
    | .notifyInd => 0x010d | .discReq => 0x010e | .discInd => 0x010f
    | .relReq => 0x0110 | .relInd => 0x0111 | .relCnf => 0x0112
    | .facilityReq => 0x0113 | .facilityInd => 0x0114 | .startDtmfInd => 0x0115
    | .startDtmfRsp => 0x0116 | .startDtmfRej => 0x0117 | .stopDtmfInd => 0x0118
    | .stopDtmfRsp => 0x0119 | .modifyReq => 0x011a | .modifyInd => 0x011b
    | .modifyRsp => 0x011c | .modifyCnf => 0x011d | .modifyRej => 0x011e
    | .holdInd => 0x011f | .holdCnf => 0x0120 | .holdRej => 0x0121
    | .retrieveInd => 0x0122 | .retrieveCnf => 0x0123 | .retrieveRej => 0x0124
    | .userinfoReq => 0x0125 | .userinfoInd => 0x0126 | .rejReq => 0x0127
    | .rejInd => 0x0128 | .progressInd => 0x0129 | .callProcInd => 0x012a
    | .callConfReq => 0x012b | .startDtmfReq => 0x012c | .stopDtmfReq => 0x012d
    | .holdReq => 0x012e | .retrieveReq => 0x012f | .bridge => 0x0200
    | .frameRecv => 0x0201 | .frameDrop => 0x0202 | .lchanModify => 0x0203
    | .rtpCreate => 0x0204 | .rtpConnect => 0x0205 | .rtpFree => 0x0206
    | .gsmTchfFrame => 0x0300 | .gsmTchfFrameEfr => 0x0301 | .gsmTchhFrame => 0x0302
    | .gsmTchFrameAmr => 0x0303 | .gsmBadFrame => 0x03ff | .socketHello => 0x0400
  find_num e := by cases e <;> rfl

-- ── Records ──────────────────────────────────────────────────────────────────

/-- `MNCC_bearer_cap_data`, what a bearer capability says of a data call. -/
structure MnccBearerCapData where
  rateAdaptation : Gsm48BcapRa
  sigAccess : Gsm48BcapSigAccess
  async : Int32
  nrStopBits : Int32
  nrDataBits : Int32
  userRate : Gsm48BcapUserRate
  parity : Gsm48BcapParity
  intermRate : Gsm48BcapIntermRate
  transp : Gsm48BcapTransp
  modemType : Gsm48BcapModemType
  deriving DecidableEq, Repr

/-- `record length(0..8) of int` -/
abbrev MnccSpeechVers := {vers : List Int32 // vers.length ≤ 8}

/-- Expanded fields from GSM TS 04.08, Table 10.5.102 -/
structure MnccBearerCap where
  transfer : Int32
  mode : Int32
  coding : Int32
  radio : Int32
  speechCtm : Int32
  speechVer : MnccSpeechVers
  data : Option MnccBearerCapData
  deriving DecidableEq, Repr

/-- `MNCC_number` -/
structure MnccNumber where
  numberType : Gsm48TypeOfNumber
  plan : Gsm48NumPlanInd
  presence : Gsm48PresentInd
  screen : Gsm48ScreeningInd
  number : List UInt8
  deriving DecidableEq, Repr

/-- `MNCC_cause` -/
structure MnccCause where
  location : Gsm48CauseLoc
  coding : Gsm48CauseCoding
  rec' : Int32
  recVal : Int32
  val : Int32
  diag : List UInt8
  deriving DecidableEq, Repr

/-- `MNCC_useruser` -/
structure MnccUseruser where
  proto : Int32
  info : List UInt8
  deriving DecidableEq, Repr

/-- `MNCC_progress` -/
structure MnccProgress where
  coding : Int32
  location : Int32
  descr : Int32
  deriving DecidableEq, Repr

/-- `MNCC_cccap` -/
structure MnccCccap where
  dtmf : Int32
  pcp : Int32
  deriving DecidableEq, Repr

/-- `MNCC_PDU_Signal`; a field that is omitted is not flagged in the structure. -/
structure MnccPduSignal where
  callref : Int
  bearerCap : Option MnccBearerCap
  called : Option MnccNumber
  calling : Option MnccNumber
  redirecting : Option MnccNumber
  connected : Option MnccNumber
  cause : Option MnccCause
  progress : Option MnccProgress
  useruser : Option MnccUseruser
  facility : Option (List UInt8)
  cccap : Option MnccCccap
  ssversion : Option (List UInt8)
  clirSup : Int32
  clirInv : Int32
  signal : Option Int32
  keypad : Option (List UInt8)
  more : Int32
  notify : Int32
  emergency : Option Int32
  imsi : List UInt8
  lchanType : UInt8
  lchanMode : UInt8
  gcr : Option (List UInt8)
  sdp : Option (List UInt8)
  deriving DecidableEq, Repr

/-- `MNCC_PDU_Data`, a frame of a call. -/
structure MnccPduData where
  callref : Int
  data : List UInt8
  deriving DecidableEq, Repr

/-- `MNCC_PDU_Rtp`, where the frames of a call go. -/
structure MnccPduRtp where
  callref : Int
  isIpv6 : Bool
  ip : List UInt8
  rtpPort : Int
  payloadType : Int
  payloadMsgType : Int
  sdp : Option (List UInt8)
  deriving DecidableEq, Repr

/-- `MNCC_PDU_Hello`, the layout that the other side was built with. -/
structure MnccPduHello where
  version : Int
  mnccSize : Int
  dataFrameSize : Int
  calledOffset : Int
  signalOffset : Int
  emergencyOffset : Int
  lchanTypeOffset : Int
  deriving DecidableEq, Repr

/-- The union of an `MNCC_PDU`. -/
inductive MnccMsgUnion where
  | signal (sign : MnccPduSignal)
  | data (frame : MnccPduData)
  | rtp (rtp : MnccPduRtp)
  | hello (hello : MnccPduHello)
  deriving DecidableEq, Repr

/-- `MNCC_PDU`; the message type fixes which alternative the decoder takes. -/
structure MnccPdu where
  msgType : MnccMsgType
  u : MnccMsgUnion
  deriving DecidableEq, Repr

end OsmoMncc
