import OsmoTtcn.CStructProofs

/-! # The structs of mncc.h

    Each struct with its layout on x86_64: `put` writes it, `get` reads it.
    Member defaults are those of `memset(&mncc, 0, sizeof(mncc))`.

    A struct that is read is not quite the one that was written, since its
    character arrays are pointers then: `before` says what they point at.  The
    decoders are given a struct of that form. -/

namespace OsmoMncc

open CStruct

-- ── Members of gsm_mncc ──────────────────────────────────────────────────────

/-- `data` of `struct gsm_mncc_bearer_cap`, ten members of four octets each. -/
structure GsmMnccBearerCapData where
  rateAdaption : Int32 := 0
  sigAccess : Int32 := 0
  async : Int32 := 0
  nrStopBits : Int32 := 0
  nrDataBits : Int32 := 0
  userRate : Int32 := 0
  parity : Int32 := 0
  intermRate : Int32 := 0
  transp : Int32 := 0
  modemType : Int32 := 0
  deriving DecidableEq, Repr

/-- Expanded fields from GSM TS 04.08, Table 10.5.102 -/
structure GsmMnccBearerCap where
  transfer : Int32 := 0
  mode : Int32 := 0
  coding : Int32 := 0
  radio : Int32 := 0
  speechCtm : Int32 := 0
  speechVer : List Int32 := []
  data : GsmMnccBearerCapData := {}
  deriving DecidableEq, Repr

/-- `struct gsm_mncc_number`; `number` is an array of 33 characters. -/
structure GsmMnccNumber where
  type : Int32 := 0
  plan : Int32 := 0
  present : Int32 := 0
  screen : Int32 := 0
  number : Octets := []
  deriving DecidableEq, Repr

/-- `struct gsm_mncc_cause`; `diagLen` says how much of `diag` counts. -/
structure GsmMnccCause where
  location : Int32 := 0
  coding : Int32 := 0
  rec' : Int32 := 0
  recVal : Int32 := 0
  value : Int32 := 0
  diagLen : Int32 := 0
  diag : Octets := []
  deriving DecidableEq, Repr

/-- `struct gsm_mncc_useruser` -/
structure GsmMnccUseruser where
  proto : Int32 := 0
  info : Octets := []
  deriving DecidableEq, Repr

/-- `struct gsm_mncc_progress` -/
structure GsmMnccProgress where
  coding : Int32 := 0
  location : Int32 := 0
  descr : Int32 := 0
  deriving DecidableEq, Repr

/-- `struct gsm_mncc_facility`, also used for the SS version. -/
structure GsmMnccFacility where
  len : Int32 := 0
  info : Octets := []
  deriving DecidableEq, Repr

/-- The two have the same members. -/
abbrev GsmMnccSsversion := GsmMnccFacility

/-- `struct gsm_mncc_cccap` -/
structure GsmMnccCccap where
  dtmf : Int32 := 0
  pcp : Int32 := 0
  deriving DecidableEq, Repr

/-- The member `clir`, an anonymous structure of the source. -/
structure GsmMnccClir where
  sup : Int32 := 0
  inv : Int32 := 0
  deriving DecidableEq, Repr

def gsmMaxFacility : Nat := 128
def gsmMaxSsversion : Nat := 128
def gsmMaxUseruser : Nat := 128

/-- How the members lie in memory, before the rest. -/
def GsmMnccBearerCapData.put (x : GsmMnccBearerCapData) (rest : Octets) : Octets :=
  putI32 x.rateAdaption (putI32 x.sigAccess (putI32 x.async
    (putI32 x.nrStopBits (putI32 x.nrDataBits (putI32 x.userRate
      (putI32 x.parity (putI32 x.intermRate (putI32 x.transp
        (putI32 x.modemType rest)))))))))

/-- The members, read in the order in which they lie. -/
def GsmMnccBearerCapData.get : Get GsmMnccBearerCapData := do
  let rateAdaption ← getI32
  let sigAccess ← getI32
  let async ← getI32
  let nrStopBits ← getI32
  let nrDataBits ← getI32
  let userRate ← getI32
  let parity ← getI32
  let intermRate ← getI32
  let transp ← getI32
  let modemType ← getI32
  pure { rateAdaption, sigAccess, async, nrStopBits, nrDataBits, userRate, parity,
         intermRate, transp, modemType }

/-- The bearer capability in memory; the speech versions fill eight places. -/
def GsmMnccBearerCap.put (x : GsmMnccBearerCap) (rest : Octets) : Octets :=
  putI32 x.transfer (putI32 x.mode (putI32 x.coding (putI32 x.radio
    (putI32 x.speechCtm (putI32s 8 x.speechVer (x.data.put rest))))))

/-- The bearer capability, read back. -/
def GsmMnccBearerCap.get : Get GsmMnccBearerCap := do
  let transfer ← getI32
  let mode ← getI32
  let coding ← getI32
  let radio ← getI32
  let speechCtm ← getI32
  let speechVer ← getI32s 8
  let data ← GsmMnccBearerCapData.get
  pure { transfer, mode, coding, radio, speechCtm, speechVer, data }

/-- The number in memory; three octets pad it to a multiple of four. -/
def GsmMnccNumber.put (x : GsmMnccNumber) (rest : Octets) : Octets :=
  putI32 x.type (putI32 x.plan (putI32 x.present (putI32 x.screen
    (putArray 33 x.number (putPad 3 rest)))))

/-- The number, read back; a pointer to the characters sees what is behind them. -/
def GsmMnccNumber.get : Get GsmMnccNumber := do
  let type ← getI32
  let plan ← getI32
  let present ← getI32
  let screen ← getI32
  let number ← getPtr 33
  skip 3
  pure { type, plan, present, screen, number }

/-- The cause in memory, the diagnostics last. -/
def GsmMnccCause.put (x : GsmMnccCause) (rest : Octets) : Octets :=
  putI32 x.location (putI32 x.coding (putI32 x.rec' (putI32 x.recVal
    (putI32 x.value (putI32 x.diagLen (putArray 32 x.diag rest))))))

/-- The cause, read back. -/
def GsmMnccCause.get : Get GsmMnccCause := do
  let location ← getI32
  let coding ← getI32
  let rec' ← getI32
  let recVal ← getI32
  let value ← getI32
  let diagLen ← getI32
  let diag ← getPtr 32
  pure { location, coding, rec', recVal, value, diagLen, diag }

/-- The progress indicator in memory. -/
def GsmMnccProgress.put (x : GsmMnccProgress) (rest : Octets) : Octets :=
  putI32 x.coding (putI32 x.location (putI32 x.descr rest))

/-- The progress indicator, read back. -/
def GsmMnccProgress.get : Get GsmMnccProgress := do
  let coding ← getI32
  let location ← getI32
  let descr ← getI32
  pure { coding, location, descr }

/-- The user-user element in memory, with three octets of padding. -/
def GsmMnccUseruser.put (x : GsmMnccUseruser) (rest : Octets) : Octets :=
  putI32 x.proto (putArray (gsmMaxUseruser + 1) x.info (putPad 3 rest))

/-- The user-user element, read back. -/
def GsmMnccUseruser.get : Get GsmMnccUseruser := do
  let proto ← getI32
  let info ← getPtr (gsmMaxUseruser + 1)
  skip 3
  pure { proto, info }

/-- `size` is `GSM_MAX_FACILITY` or `GSM_MAX_SSVERSION`. -/
def GsmMnccFacility.put (size : Nat) (x : GsmMnccFacility) (rest : Octets) :
    Octets :=
  putI32 x.len (putArray size x.info rest)

/-- A facility of the given size, read back. -/
def GsmMnccFacility.get (size : Nat) : Get GsmMnccFacility := do
  let len ← getI32
  let info ← getPtr size
  pure { len, info }

/-- The CC capabilities in memory. -/
def GsmMnccCccap.put (x : GsmMnccCccap) (rest : Octets) : Octets :=
  putI32 x.dtmf (putI32 x.pcp rest)

/-- The CC capabilities, read back. -/
def GsmMnccCccap.get : Get GsmMnccCccap := do
  let dtmf ← getI32
  let pcp ← getI32
  pure { dtmf, pcp }

/-- The two CLIR flags in memory. -/
def GsmMnccClir.put (x : GsmMnccClir) (rest : Octets) : Octets :=
  putI32 x.sup (putI32 x.inv rest)

/-- The two CLIR flags, read back. -/
def GsmMnccClir.get : Get GsmMnccClir := do
  let sup ← getI32
  let inv ← getI32
  pure { sup, inv }

/-- The array of speech versions is read with all its elements. -/
def GsmMnccBearerCap.filled (x : GsmMnccBearerCap) : GsmMnccBearerCap :=
  { x with speechVer :=
      x.speechVer ++ List.replicate (8 - x.speechVer.length) 0 }

/-- The number as it is seen when the rest is behind it. -/
def GsmMnccNumber.before (x : GsmMnccNumber) (rest : Octets) : GsmMnccNumber :=
  { x with number := putArray 33 x.number (putPad 3 rest) }

/-- The cause as it is seen when the rest is behind it. -/
def GsmMnccCause.before (x : GsmMnccCause) (rest : Octets) : GsmMnccCause :=
  { x with diag := putArray 32 x.diag rest }

/-- The user-user element as it is seen when the rest is behind it. -/
def GsmMnccUseruser.before (x : GsmMnccUseruser) (rest : Octets) : GsmMnccUseruser :=
  { x with info := putArray (gsmMaxUseruser + 1) x.info (putPad 3 rest) }

/-- A facility as it is seen when the rest is behind it. -/
def GsmMnccFacility.before (size : Nat) (x : GsmMnccFacility) (rest : Octets) :
    GsmMnccFacility :=
  { x with info := putArray size x.info rest }

/-- What was put is read back. -/
theorem GsmMnccBearerCapData.get_put (x : GsmMnccBearerCapData) (rest : Octets) :
    GsmMnccBearerCapData.get (x.put rest) = some (x, rest) := by
  simp only [GsmMnccBearerCapData.get, GsmMnccBearerCapData.put,
    get_bind (getI32_putI32 _ _)]
  rfl

/-- What was put is read back, the speech versions filled up. -/
theorem GsmMnccBearerCap.get_put {x : GsmMnccBearerCap}
    (h : x.speechVer.length ≤ 8) (rest : Octets) :
    GsmMnccBearerCap.get (x.put rest) = some (x.filled, rest) := by
  simp only [GsmMnccBearerCap.get, GsmMnccBearerCap.put,
    get_bind (getI32_putI32 _ _), get_bind (getI32s_putI32s h _),
    get_bind (GsmMnccBearerCapData.get_put _ _)]
  rfl

theorem GsmMnccNumber.get_put (x : GsmMnccNumber) (rest : Octets) :
    GsmMnccNumber.get (x.put rest) = some (x.before rest, rest) := by
  simp only [GsmMnccNumber.get, GsmMnccNumber.put, get_bind (getI32_putI32 _ _),
    get_bind (getPtr_putArray _ _ _), get_bind (skip_putPad _ _)]
  rfl

theorem GsmMnccCause.get_put (x : GsmMnccCause) (rest : Octets) :
    GsmMnccCause.get (x.put rest) = some (x.before rest, rest) := by
  simp only [GsmMnccCause.get, GsmMnccCause.put, get_bind (getI32_putI32 _ _),
    get_bind (getPtr_putArray _ _ _)]
  rfl

theorem GsmMnccProgress.get_put (x : GsmMnccProgress) (rest : Octets) :
    GsmMnccProgress.get (x.put rest) = some (x, rest) := by
  simp only [GsmMnccProgress.get, GsmMnccProgress.put, get_bind (getI32_putI32 _ _)]
  rfl

theorem GsmMnccUseruser.get_put (x : GsmMnccUseruser) (rest : Octets) :
    GsmMnccUseruser.get (x.put rest) = some (x.before rest, rest) := by
  simp only [GsmMnccUseruser.get, GsmMnccUseruser.put, get_bind (getI32_putI32 _ _),
    get_bind (getPtr_putArray _ _ _), get_bind (skip_putPad _ _)]
  rfl

theorem GsmMnccFacility.get_put (size : Nat) (x : GsmMnccFacility)
    (rest : Octets) :
    GsmMnccFacility.get size (x.put size rest) = some (x.before size rest, rest) := by
  simp only [GsmMnccFacility.get, GsmMnccFacility.put, get_bind (getI32_putI32 _ _),
    get_bind (getPtr_putArray _ _ _)]
  rfl

theorem GsmMnccCccap.get_put (x : GsmMnccCccap) (rest : Octets) :
    GsmMnccCccap.get (x.put rest) = some (x, rest) := by
  simp only [GsmMnccCccap.get, GsmMnccCccap.put, get_bind (getI32_putI32 _ _)]
  rfl

theorem GsmMnccClir.get_put (x : GsmMnccClir) (rest : Octets) :
    GsmMnccClir.get (x.put rest) = some (x, rest) := by
  simp only [GsmMnccClir.get, GsmMnccClir.put, get_bind (getI32_putI32 _ _)]
  rfl

-- ── struct gsm_mncc ──────────────────────────────────────────────────────────

/-- `struct gsm_mncc`; all members are there, and `fields` tells which count. -/
structure GsmMncc where
  msgType : UInt32 := 0
  callref : UInt32 := 0
  /-- which fields are present -/
  fields : UInt32 := 0
  bearerCap : GsmMnccBearerCap := {}
  called : GsmMnccNumber := {}
  calling : GsmMnccNumber := {}
  redirecting : GsmMnccNumber := {}
  connected : GsmMnccNumber := {}
  cause : GsmMnccCause := {}
  progress : GsmMnccProgress := {}
  useruser : GsmMnccUseruser := {}
  facility : GsmMnccFacility := {}
  cccap : GsmMnccCccap := {}
  ssversion : GsmMnccSsversion := {}
  clir : GsmMnccClir := {}
  signal : Int32 := 0
  keypad : Int32 := 0
  more : Int32 := 0
  notify : Int32 := 0
  emergency : Int32 := 0
  imsi : Octets := []
  lchanType : UInt8 := 0
  lchanMode : UInt8 := 0
  /-- The union of the members of versions 7 and 8. -/
  v : Octets := []
  deriving DecidableEq, Repr

/-- The whole structure in memory. -/
def GsmMncc.put (m : GsmMncc) : Octets :=
  putU32 m.msgType (putU32 m.callref (putU32 m.fields (m.bearerCap.put
    (m.called.put (m.calling.put (m.redirecting.put (m.connected.put
      (m.cause.put (m.progress.put (m.useruser.put
        (m.facility.put gsmMaxFacility (m.cccap.put
          (m.ssversion.put gsmMaxSsversion (m.clir.put (putI32 m.signal
            (putI32 m.keypad (putI32 m.more (putI32 m.notify
              (putI32 m.emergency (putArray 16 m.imsi
                (putU8 m.lchanType (putU8 m.lchanMode
                  (putArray 1040 m.v (putPad 2 []))))))))))))))))))))))))

/-- The whole structure, read in the order of its members. -/
def GsmMncc.get : Get GsmMncc := do
  let msgType ← getU32
  let callref ← getU32
  let fields ← getU32
  let bearerCap ← GsmMnccBearerCap.get
  let called ← GsmMnccNumber.get
  let calling ← GsmMnccNumber.get
  let redirecting ← GsmMnccNumber.get
  let connected ← GsmMnccNumber.get
  let cause ← GsmMnccCause.get
  let progress ← GsmMnccProgress.get
  let useruser ← GsmMnccUseruser.get
  let facility ← GsmMnccFacility.get gsmMaxFacility
  let cccap ← GsmMnccCccap.get
  let ssversion ← GsmMnccFacility.get gsmMaxSsversion
  let clir ← GsmMnccClir.get
  let signal ← getI32
  let keypad ← getI32
  let more ← getI32
  let notify ← getI32
  let emergency ← getI32
  let imsi ← getPtr 16
  let lchanType ← getU8
  let lchanMode ← getU8
  let v ← getRest
  pure { msgType, callref, fields, bearerCap, called, calling, redirecting,
         connected, cause, progress, useruser, facility, cccap, ssversion, clir,
         signal, keypad, more, notify, emergency, imsi, lchanType, lchanMode, v }

-- the offsets that `ts_MNCC_HELLO` announces
example : (GsmMncc.put { called := { type := 9 } })[104]? = some 9
    ∧ (GsmMncc.put { signal := 9 })[796]? = some 9
    ∧ (GsmMncc.put { emergency := 9 })[812]? = some 9 := by decide +kernel

/-- What is in memory behind the character arrays. -/
structure Behind where
  called : Octets
  calling : Octets
  redirecting : Octets
  connected : Octets
  cause : Octets
  useruser : Octets
  facility : Octets
  ssversion : Octets
  imsi : Octets

/-- The structure as it is seen, each array with what is behind it. -/
def GsmMncc.before (m : GsmMncc) (b : Behind) : GsmMncc :=
  { m with
    bearerCap := m.bearerCap.filled
    called := m.called.before b.called
    calling := m.calling.before b.calling
    redirecting := m.redirecting.before b.redirecting
    connected := m.connected.before b.connected
    cause := m.cause.before b.cause
    useruser := m.useruser.before b.useruser
    facility := m.facility.before gsmMaxFacility b.facility
    ssversion := m.ssversion.before gsmMaxSsversion b.ssversion
    imsi := putArray 16 m.imsi b.imsi
    v := putArray 1040 m.v (putPad 2 []) }

/-- **THE STRUCT IS READ AS IT WAS WRITTEN**, up to what its character arrays
    run into. -/
theorem GsmMncc.get_put {m : GsmMncc} (h : m.bearerCap.speechVer.length ≤ 8) :
    ∃ b, GsmMncc.get m.put = some (m.before b, []) := by
  refine ⟨⟨?_, ?_, ?_, ?_, ?_, ?_, ?_, ?_, ?_⟩, ?_⟩
  case refine_10 =>
    simp only [GsmMncc.get, GsmMncc.put, get_bind (getU32_putU32 _ _),
      get_bind (GsmMnccBearerCap.get_put h _), get_bind (GsmMnccNumber.get_put _ _),
      get_bind (GsmMnccCause.get_put _ _), get_bind (GsmMnccProgress.get_put _ _),
      get_bind (GsmMnccUseruser.get_put _ _), get_bind (GsmMnccFacility.get_put _ _ _),
      get_bind (GsmMnccCccap.get_put _ _), get_bind (GsmMnccClir.get_put _ _),
      get_bind (getI32_putI32 _ _), get_bind (getPtr_putArray _ _ _),
      get_bind (getU8_putU8 _ _)]
    rfl

-- ── The other structs ────────────────────────────────────────────────────────

/-- `struct gsm_data_frame`, without the data behind it. -/
structure GsmDataFrame where
  msgType : UInt32 := 0
  callref : UInt32 := 0
  deriving DecidableEq, Repr

/-- A data frame in memory. -/
def GsmDataFrame.put (x : GsmDataFrame) (rest : Octets) : Octets :=
  putU32 x.msgType (putU32 x.callref rest)

/-- A data frame, read back. -/
def GsmDataFrame.get : Get GsmDataFrame := do
  let msgType ← getU32
  let callref ← getU32
  pure { msgType, callref }

theorem GsmDataFrame.get_put (x : GsmDataFrame) (rest : Octets) :
    GsmDataFrame.get (x.put rest) = some (x, rest) := by
  rw [GsmDataFrame.get, GsmDataFrame.put, get_bind (getU32_putU32 _ _),
    get_bind (getU32_putU32 _ _)]
  rfl

/-- `struct gsm_mncc_hello` -/
structure GsmMnccHello where
  msgType : UInt32 := 0
  version : UInt32 := 0
  mnccSize : UInt32 := 0
  dataFrameSize : UInt32 := 0
  calledOffset : UInt32 := 0
  signalOffset : UInt32 := 0
  emergencyOffset : UInt32 := 0
  lchanTypeOffset : UInt32 := 0
  deriving DecidableEq, Repr

/-- A hello in memory. -/
def GsmMnccHello.put (x : GsmMnccHello) : Octets :=
  putU32 x.msgType (putU32 x.version (putU32 x.mnccSize (putU32 x.dataFrameSize
    (putU32 x.calledOffset (putU32 x.signalOffset (putU32 x.emergencyOffset
      (putU32 x.lchanTypeOffset [])))))))

/-- A hello, read back. -/
def GsmMnccHello.get : Get GsmMnccHello := do
  let msgType ← getU32
  let version ← getU32
  let mnccSize ← getU32
  let dataFrameSize ← getU32
  let calledOffset ← getU32
  let signalOffset ← getU32
  let emergencyOffset ← getU32
  let lchanTypeOffset ← getU32
  pure { msgType, version, mnccSize, dataFrameSize, calledOffset, signalOffset,
         emergencyOffset, lchanTypeOffset }

/-- The address is a `sockaddr_storage`: its family, the port, which is at the
    same place in a `sockaddr_in` and in a `sockaddr_in6`, and what follows. -/
structure GsmMnccRtp where
  msgType : UInt32 := 0
  callref : UInt32 := 0
  ssFamily : UInt16 := 0
  sinPort : UInt16 := 0
  ssRest : Octets := []
  payloadType : UInt32 := 0
  payloadMsgType : UInt32 := 0
  sdp : Octets := []
  deriving DecidableEq, Repr

/-- An RTP message in memory; the socket address is a `sockaddr_storage`. -/
def GsmMnccRtp.put (x : GsmMnccRtp) : Octets :=
  putU32 x.msgType (putU32 x.callref (putU16 x.ssFamily (putU16 x.sinPort
    (putArray 124 x.ssRest (putU32 x.payloadType (putU32 x.payloadMsgType
      (putArray 1024 x.sdp [])))))))

/-- An RTP message, read back. -/
def GsmMnccRtp.get : Get GsmMnccRtp := do
  let msgType ← getU32
  let callref ← getU32
  let ssFamily ← getU16
  let sinPort ← getU16
  let ssRest ← getPtr 124
  let payloadType ← getU32
  let payloadMsgType ← getU32
  let sdp ← getRest
  pure { msgType, callref, ssFamily, sinPort, ssRest, payloadType, payloadMsgType,
         sdp }

/-- The struct with what is behind the address and behind the SDP. -/
def GsmMnccRtp.filled (x : GsmMnccRtp) : GsmMnccRtp :=
  { x with
    ssRest := putArray 124 x.ssRest (putU32 x.payloadType (putU32 x.payloadMsgType
      (putArray 1024 x.sdp [])))
    sdp := putArray 1024 x.sdp [] }

/-- What was put is read back, the address and the SDP filled up. -/
theorem GsmMnccRtp.get_put (x : GsmMnccRtp) :
    GsmMnccRtp.get x.put = some (x.filled, []) := by
  simp only [GsmMnccRtp.get, GsmMnccRtp.put, get_bind (getU32_putU32 _ _),
    get_bind (getU16_putU16 _ _), get_bind (getPtr_putArray _ _ _)]
  rfl

end OsmoMncc
