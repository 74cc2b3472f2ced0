import OsmoTtcn.MnccStructProofs
import OsmoTtcn.MnccTypesProofs

/-! # MNCC encoding and decoding

    `MNCC_EncDec.cc` copies an `MNCC_PDU` into one of the structs of mncc.h and
    back.  An optional member of a signalling PDU is left zero when it is
    omitted, and most have a flag in `fields` that says so to the decoder.
    Neither `sdp` nor the data rates of a bearer capability have one: what
    comes back for an omitted one is an empty string, and the rates of an
    all-zero struct. -/

namespace OsmoMncc

open OsmoTitan CStruct Enumerated

-- ── The version of the socket ────────────────────────────────────────────────

/-- `mncc_sock_version`, of which `set__MNCC__version` only lets two values
    through. -/
structure MnccSockVersion where
  val : Int
  known : val = 7 ∨ val = 8

/-- `MNCC_SOCK_VERSION` -/
def mnccSockVersion : MnccSockVersion := ⟨7, Or.inl rfl⟩

-- ── Encoding a signalling PDU ────────────────────────────────────────────────

/-- The data part of a bearer capability. -/
def encBcapData (d : MnccBearerCapData) : GsmMnccBearerCapData where
  rateAdaption := num d.rateAdaptation
  sigAccess := num d.sigAccess
  async := d.async
  nrStopBits := d.nrStopBits
  nrDataBits := d.nrDataBits
  userRate := num d.userRate
  parity := num d.parity
  intermRate := num d.intermRate
  transp := num d.transp
  modemType := num d.modemType

/-- A bearer capability; without a data part its members are zero. -/
def encBcap (b : MnccBearerCap) : GsmMnccBearerCap where
  transfer := b.transfer
  mode := b.mode
  coding := b.coding
  radio := b.radio
  speechCtm := b.speechCtm
  speechVer := b.speechVer.val
  data := b.data.elim {} encBcapData

/-- A number, cut at 33 characters. -/
def encNumber (n : MnccNumber) : GsmMnccNumber where
  type := num n.numberType
  plan := num n.plan
  present := num n.presence
  screen := num n.screen
  number := strncpy 33 n.number

/-- A cause; longer diagnostics than there is room for are an error. -/
def encCause (c : MnccCause) : Except Fault GsmMnccCause :=
  if c.diag.length > 32 then
    .error (.ttcnError s!"MNCC diagnostics length {c.diag.length} too long")
  else
    .ok { location := num c.location, coding := num c.coding, rec' := c.rec',
          recVal := c.recVal, value := c.val, diagLen := Int32.ofNat c.diag.length,
          diag := c.diag }

/-- A progress indicator. -/
def encProgress (p : MnccProgress) : GsmMnccProgress where
  coding := p.coding
  location := p.location
  descr := p.descr

/-- A user-user element, cut at its size. -/
def encUseruser (u : MnccUseruser) : GsmMnccUseruser where
  proto := u.proto
  info := strncpy (gsmMaxUseruser + 1) u.info

/-- The facility and the ss-version.  Since the members behind the array are
    still zero, `strlen` of it is the length of what was copied. -/
def encFacility (size : Nat) (info : Octets) : GsmMnccFacility where
  len := Int32.ofNat (strncpy size info).length
  info := strncpy size info

/-- The CC capabilities. -/
def encCccap (c : MnccCccap) : GsmMnccCccap where
  dtmf := c.dtmf
  pcp := c.pcp

/-- `mncc.signal` takes the keypad information as well, over the signal. -/
def encSignalMember (s : MnccPduSignal) : Except Fault Int32 :=
  match s.keypad with
  | none => .ok (s.signal.getD 0)
  | some [] => .error .badIndex
  | some (c :: _) => .ok c.toInt8.toInt32

/-- `mncc.v8.gcr` -/
def encGcr (v : MnccSockVersion) : Option Octets → Except Fault Octets
  | none => .ok []
  | some gcr =>
      if v.val < 8 then
        .error (.ttcnError "GCR is only available since MNCCv8")
      else copyOctets 16 gcr

/-- The union of the members of both versions; `gcr` is empty in version 7. -/
def encUnion (v : MnccSockVersion) (gcr : Octets) (sdp : Option Octets) : Octets :=
  if v.val > 7 then putArray 16 gcr (sdp.elim [] (strncpy 1024))
  else sdp.elim [] (strncpy 1024)

/-- `MNCC_F_*`, one flag for each optional field. -/
def mnccFBearerCap : UInt32 := 0x0001
def mnccFCalled : UInt32 := 0x0002
def mnccFCalling : UInt32 := 0x0004
def mnccFRedirecting : UInt32 := 0x0008
def mnccFConnected : UInt32 := 0x0010
def mnccFCause : UInt32 := 0x0020
def mnccFUseruser : UInt32 := 0x0040
def mnccFProgress : UInt32 := 0x0080
def mnccFEmergency : UInt32 := 0x0100
def mnccFFacility : UInt32 := 0x0200
def mnccFSsversion : UInt32 := 0x0400
def mnccFCccap : UInt32 := 0x0800
def mnccFKeypad : UInt32 := 0x1000
def mnccFSignal : UInt32 := 0x2000
def mnccFGcr : UInt32 := 0x4000

/-- The flags with the condition each is set on. -/
def mnccFlags (s : MnccPduSignal) : List (UInt32 × Bool) :=
  [(mnccFBearerCap, s.bearerCap.isSome), (mnccFCalled, s.called.isSome),
   (mnccFCalling, s.calling.isSome), (mnccFRedirecting, s.redirecting.isSome),
   (mnccFConnected, s.connected.isSome), (mnccFCause, s.cause.isSome),
   (mnccFProgress, s.progress.isSome), (mnccFUseruser, s.useruser.isSome),
   (mnccFFacility, s.facility.isSome), (mnccFCccap, s.cccap.isSome),
   (mnccFSsversion, s.ssversion.isSome), (mnccFSignal, s.signal.isSome),
   (mnccFKeypad, s.keypad.isSome), (mnccFEmergency, s.emergency.isSome),
   (mnccFGcr, s.gcr.isSome)]

/-- The members, from those that need a check. -/
def fillMncc (v : MnccSockVersion) (msgType : MnccMsgType) (s : MnccPduSignal)
    (callref : Int32) (cause : GsmMnccCause) (signal : Int32) (gcr : Octets) :
    GsmMncc where
  msgType := (num msgType).toUInt32
  callref := callref.toUInt32
  fields := flagWord (mnccFlags s)
  bearerCap := s.bearerCap.elim {} encBcap
  called := s.called.elim {} encNumber
  calling := s.calling.elim {} encNumber
  redirecting := s.redirecting.elim {} encNumber
  connected := s.connected.elim {} encNumber
  cause := cause
  progress := s.progress.elim {} encProgress
  useruser := s.useruser.elim {} encUseruser
  facility := s.facility.elim {} (encFacility gsmMaxFacility)
  cccap := s.cccap.elim {} encCccap
  ssversion := s.ssversion.elim {} (encFacility gsmMaxSsversion)
  clir := { sup := s.clirSup, inv := s.clirInv }
  signal := signal
  more := s.more
  notify := s.notify
  emergency := s.emergency.getD 0
  imsi := strncpy 16 s.imsi
  lchanType := s.lchanType
  lchanMode := s.lchanMode
  v := encUnion v gcr s.sdp

/-- The case `ALT_signal` of the encoder, up to the octets. -/
def encSignal (v : MnccSockVersion) (msgType : MnccMsgType) (s : MnccPduSignal) :
    Except Fault GsmMncc := do
  let callref ← cInt s.callref
  let cause ← s.cause.elim (.ok {}) encCause
  let signal ← encSignalMember s
  let gcr ← encGcr v s.gcr
  pure (fillMncc v msgType s callref cause signal gcr)

-- ── Decoding a signalling PDU ────────────────────────────────────────────────

/-- A `CHARSTRING` from a pointer. -/
def charstring (ptr : Octets) : Except Fault Octets :=
  match cstr ptr with
  | some s => .ok s
  | none => .error .overread

/-- The data part, where every number is one of its enumeration. -/
def decBcapData (d : GsmMnccBearerCapData) : Except Fault MnccBearerCapData := do
  let rateAdaptation ← enumOfInt d.rateAdaption
  let sigAccess ← enumOfInt d.sigAccess
  let userRate ← enumOfInt d.userRate
  let parity ← enumOfInt d.parity
  let intermRate ← enumOfInt d.intermRate
  let transparency ← enumOfInt d.transp
  let modemType ← enumOfInt d.modemType
  pure { rateAdaptation, sigAccess, async := d.async, nrStopBits := d.nrStopBits,
         nrDataBits := d.nrDataBits, userRate, parity, intermRate,
         transp := transparency, modemType }

/-- At most the eight elements of the array, and none behind the first -1. -/
def decSpeechVer (speechVer : List Int32) : MnccSpeechVers where
  val := upTo (-1) (speechVer.take 8)
  property := Nat.le_trans (upTo_length_le _ _) (List.length_take_le 8 _)

/-- A bearer capability, always with a data part. -/
def decBcap (b : GsmMnccBearerCap) : Except Fault MnccBearerCap := do
  let data ← decBcapData b.data
  pure { transfer := b.transfer, mode := b.mode, coding := b.coding,
         radio := b.radio, speechCtm := b.speechCtm,
         speechVer := decSpeechVer b.speechVer, data := some data }

/-- A number up to its first zero. -/
def decNumber (n : GsmMnccNumber) : Except Fault MnccNumber := do
  let numberType ← enumOfInt n.type
  let plan ← enumOfInt n.plan
  let presence ← enumOfInt n.present
  let screen ← enumOfInt n.screen
  let number ← charstring n.number
  pure { numberType, plan, presence, screen, number }

/-- A cause, with as many octets of diagnostics as it says. -/
def decCause (c : GsmMnccCause) : Except Fault MnccCause := do
  let location ← enumOfInt c.location
  let coding ← enumOfInt c.coding
  let diag ←
    if c.diagLen < 0 then
      .error (.ttcnError "Initializing an octetstring with a negative length.")
    else copyOctets c.diagLen.toNatClampNeg c.diag
  pure { location, coding, rec' := c.rec', recVal := c.recVal, val := c.value, diag }

/-- A user-user element up to its first zero. -/
def decUseruser (u : GsmMnccUseruser) : Except Fault MnccUseruser := do
  let info ← charstring u.info
  pure { proto := u.proto, info }

/-- A progress indicator. -/
def decProgress (p : GsmMnccProgress) : MnccProgress where
  coding := p.coding
  location := p.location
  descr := p.descr

/-- The CC capabilities. -/
def decCccap (c : GsmMnccCccap) : MnccCccap where
  dtmf := c.dtmf
  pcp := c.pcp

/-- A string of at most the one character `(char) mncc->keypad`. -/
def decKeypad (keypad : Int32) : Octets := strncpy 1 [keypad.toUInt32.toUInt8]

/-- A member that is present when its flag is set. -/
def ifFlag {α : Type} (fields flag : UInt32) (member : Except Fault α) :
    Except Fault (Option α) :=
  if hasFlag fields flag then member.map some else .ok none

/-- Only version 8 has a group call reference. -/
def decGcr (v : MnccSockVersion) (fields : UInt32) (mem : Octets) :
    Except Fault (Option Octets) :=
  if v.val > 7 then ifFlag fields mnccFGcr (copyOctets 16 mem) else .ok none

/-- `in_mncc->v8.sdp` or `in_mncc->v7.sdp` -/
def sdpPtr (v : MnccSockVersion) (mem : Octets) : Octets :=
  if v.val > 7 then mem.drop 16 else mem

/-- The default case of the decoder, from the struct on. -/
def decSignal (v : MnccSockVersion) (m : GsmMncc) : Except Fault MnccPduSignal := do
  let bearerCap ← ifFlag m.fields mnccFBearerCap (decBcap m.bearerCap)
  let called ← ifFlag m.fields mnccFCalled (decNumber m.called)
  let calling ← ifFlag m.fields mnccFCalling (decNumber m.calling)
  let redirecting ← ifFlag m.fields mnccFRedirecting (decNumber m.redirecting)
  let connected ← ifFlag m.fields mnccFConnected (decNumber m.connected)
  let cause ← ifFlag m.fields mnccFCause (decCause m.cause)
  let useruser ← ifFlag m.fields mnccFUseruser (decUseruser m.useruser)
  let progress ← ifFlag m.fields mnccFProgress (.ok (decProgress m.progress))
  let emergency ← ifFlag m.fields mnccFEmergency (.ok m.emergency)
  let facility ← ifFlag m.fields mnccFFacility (charstring m.facility.info)
  let ssversion ← ifFlag m.fields mnccFSsversion (charstring m.ssversion.info)
  let cccap ← ifFlag m.fields mnccFCccap (.ok (decCccap m.cccap))
  let keypad ← ifFlag m.fields mnccFKeypad (.ok (decKeypad m.keypad))
  let signal ← ifFlag m.fields mnccFSignal (.ok m.signal)
  let imsi ← charstring m.imsi
  let gcr ← decGcr v m.fields m.v
  let sdp ← charstring (sdpPtr v m.v)
  pure { callref := m.callref.toInt32.toInt, bearerCap, called, calling, redirecting,
         connected, cause, progress, useruser, facility, cccap, ssversion,
         clirSup := m.clir.sup, clirInv := m.clir.inv, signal, keypad,
         more := m.more, notify := m.notify, emergency, imsi,
         lchanType := m.lchanType, lchanMode := m.lchanMode, gcr, sdp := some sdp }

-- ── What fits ────────────────────────────────────────────────────────────────

/-- The string fits an array with the memory behind it up to `size`. -/
structure StringOk (size : Nat) (s : Octets) : Prop where
  noNul : NoNul s
  length_lt : s.length < size

/-- A signalling PDU whose members fit the struct, with the terminators of the
    strings.  A number, the user-user and the SDP may take all of their array,
    which is followed by zeros. -/
structure SignalOk (v : MnccSockVersion) (s : MnccPduSignal) : Prop where
  callref : 0 ≤ s.callref ∧ s.callref < 2147483648
  speechVer : ∀ b ∈ s.bearerCap, EndsWith (-1) b.speechVer.val
  called : ∀ n ∈ s.called, StringOk 34 n.number
  calling : ∀ n ∈ s.calling, StringOk 34 n.number
  redirecting : ∀ n ∈ s.redirecting, StringOk 34 n.number
  connected : ∀ n ∈ s.connected, StringOk 34 n.number
  diag : ∀ c ∈ s.cause, c.diag.length ≤ 32
  useruser : ∀ u ∈ s.useruser, StringOk 130 u.info
  facility : ∀ f ∈ s.facility, StringOk gsmMaxFacility f
  ssversion : ∀ f ∈ s.ssversion, StringOk gsmMaxSsversion f
  keypad : s.keypad = none
  imsi : StringOk 16 s.imsi
  gcr : ∀ g ∈ s.gcr, v.val > 7 ∧ g.length = 16
  sdp : ∀ p ∈ s.sdp, StringOk 1025 p

/-- The data rates of an all-zero struct. -/
def zeroBcapData : MnccBearerCapData where
  rateAdaptation := .none
  sigAccess := .none
  async := 0
  nrStopBits := 0
  nrDataBits := 0
  userRate := .none
  parity := .odd
  intermRate := .none
  transp := .transp
  modemType := .none

/-- With the data part that the decoder adds. -/
def MnccBearerCap.withData (b : MnccBearerCap) : MnccBearerCap :=
  { b with data := some (b.data.getD zeroBcapData) }

/-- The members that the struct has no flag for are always decoded. -/
def MnccPduSignal.withUnflagged (s : MnccPduSignal) : MnccPduSignal :=
  { s with bearerCap := s.bearerCap.map MnccBearerCap.withData
           sdp := some (s.sdp.getD []) }

-- ── Member by member ─────────────────────────────────────────────────────────

/-- A field that is flagged as it was omitted or not is read back. -/
theorem ifFlag_eq {α : Type} {fields flag : UInt32} {o : Option α}
    {member : Except Fault α} (hflag : hasFlag fields flag = o.isSome)
    (hmember : ∀ a ∈ o, member = .ok a) : ifFlag fields flag member = .ok o := by
  rw [ifFlag, hflag]
  cases o with
  | none => rfl
  | some a =>
      rw [hmember a rfl]
      rfl

/-- A field that is not flagged is omitted, whatever its member is. -/
theorem ifFlag_none {α : Type} {fields flag : UInt32} (member : Except Fault α)
    (hflag : hasFlag fields flag = false) : ifFlag fields flag member = .ok none := by
  rw [ifFlag, hflag]
  rfl

/-- **EVERY FIELD HAS A FLAG OF ITS OWN**: the word has those of the fields that are
    there. -/
theorem hasFlag_mnccFlags (s : MnccPduSignal) {flag : UInt32} {b : Bool}
    (h : (flag, b) ∈ mnccFlags s) : hasFlag (flagWord (mnccFlags s)) flag = b := by
  have hdis : Disjoint ((mnccFlags s).map Prod.fst) := by
    show Disjoint [mnccFBearerCap, mnccFCalled, mnccFCalling, mnccFRedirecting,
      mnccFConnected, mnccFCause, mnccFProgress, mnccFUseruser, mnccFFacility,
      mnccFCccap, mnccFSsversion, mnccFSignal, mnccFKeypad, mnccFEmergency, mnccFGcr]
    decide
  exact hasFlag_flagWord hdis h

/-- A text that is shorter than its array is read back. -/
theorem charstring_putArray_lt {n : Nat} {s : Octets} (h : StringOk n s)
    (rest : Octets) : charstring (putArray n (strncpy n s) rest) = .ok s := by
  rw [charstring, cstr_putArray_lt h.noNul h.length_lt]

/-- A text that fills its array is read back when a zero is behind it. -/
theorem charstring_putArray_le {n : Nat} {s : Octets} (h : StringOk (n + 1) s)
    (rest : Octets) : charstring (putArray n (strncpy n s) (0 :: rest)) = .ok s := by
  rw [charstring, cstr_putArray_le h.noNul (Nat.le_of_lt_succ h.length_lt)]

/-- A data part is read back, and zeros where there was none. -/
theorem decBcapData_encBcapData (d : Option MnccBearerCapData) :
    decBcapData (d.elim {} encBcapData) = .ok (d.getD zeroBcapData) := by
  cases d with
  | none => rfl
  | some d =>
      show decBcapData (encBcapData d) = .ok d
      simp only [decBcapData, encBcapData, enumOfInt_num]
      rfl

/-- The list of speech versions ends with its -1. -/
theorem decSpeechVer_filled {vers : MnccSpeechVers} (h : EndsWith (-1) vers.val) :
    decSpeechVer (vers.val ++ List.replicate (8 - vers.val.length) 0) = vers := by
  have hlen : (vers.val ++ List.replicate (8 - vers.val.length) 0).length ≤ 8 := by
    rw [List.length_append, List.length_replicate]
    exact Nat.le_of_eq (Nat.add_sub_cancel' vers.property)
  refine Subtype.ext ?_
  show upTo (-1) (List.take 8 _) = vers.val
  rw [List.take_of_length_le hlen, upTo_append h]

/-- A bearer capability is read back, with a data part. -/
theorem decBcap_encBcap {b : MnccBearerCap} (h : EndsWith (-1) b.speechVer.val) :
    decBcap (encBcap b).filled = .ok b.withData := by
  have hvers : decSpeechVer (encBcap b).filled.speechVer = b.speechVer :=
    decSpeechVer_filled h
  have hdata : decBcapData (encBcap b).filled.data = .ok (b.data.getD zeroBcapData) :=
    decBcapData_encBcapData b.data
  rw [decBcap, hdata, hvers]
  rfl

/-- A number is read back, whatever is behind it. -/
theorem decNumber_encNumber {n : MnccNumber} (h : StringOk 34 n.number)
    (rest : Octets) : decNumber ((encNumber n).before rest) = .ok n := by
  have hnumber : charstring ((encNumber n).before rest).number = .ok n.number :=
    charstring_putArray_le h _
  simp only [decNumber, hnumber]
  simp only [GsmMnccNumber.before, encNumber, enumOfInt_num]
  rfl

/-- A cause with at most 32 octets of diagnostics is read back. -/
theorem decCause_encCause {c : MnccCause} (h : c.diag.length ≤ 32) :
    ∃ x, encCause c = .ok x ∧ ∀ rest, decCause (x.before rest) = .ok c := by
  refine ⟨_, if_neg (Nat.not_lt.mpr h), fun rest => ?_⟩
  have hlen : (Int32.ofNat c.diag.length).toInt = c.diag.length :=
    Int32.toInt_ofNat_of_lt (by omega)
  have hnat : (Int32.ofNat c.diag.length).toNatClampNeg = c.diag.length := by
    show (Int32.ofNat c.diag.length).toInt.toNat = _
    rw [hlen, Int.toNat_natCast]
  have hneg : ¬ Int32.ofNat c.diag.length < 0 := by
    rw [Int32.lt_iff_toInt_lt, hlen]
    exact Int.not_lt.mpr (Int.natCast_nonneg _)
  have hfits : c.diag.length ≤ (putArray 32 c.diag rest).length :=
    Nat.le_trans h (le_putArray_length 32 c.diag rest)
  have hcopy : copyOctets c.diag.length (putArray 32 c.diag rest) = .ok c.diag := by
    rw [copyOctets_ok hfits, take_putArray h]
  simp only [decCause, GsmMnccCause.before, enumOfInt_num, if_neg hneg, hnat, hcopy]
  rfl

/-- A user-user element is read back. -/
theorem decUseruser_encUseruser {u : MnccUseruser} (h : StringOk 130 u.info)
    (rest : Octets) : decUseruser ((encUseruser u).before rest) = .ok u := by
  have hinfo : charstring ((encUseruser u).before rest).info = .ok u.info :=
    charstring_putArray_le h _
  rw [decUseruser, hinfo]
  rfl

/-- A facility that fits is read back. -/
theorem charstring_encFacility {size : Nat} {f : Octets} (h : StringOk size f)
    (rest : Octets) : charstring ((encFacility size f).before size rest).info = .ok f :=
  charstring_putArray_lt h rest

-- ── The signalling PDU ───────────────────────────────────────────────────────

/-- An optional number is read back. -/
theorem ifFlag_number {fields flag : UInt32} {o : Option MnccNumber}
    (hflag : hasFlag fields flag = o.isSome) (h : ∀ n ∈ o, StringOk 34 n.number)
    (rest : Octets) :
    ifFlag fields flag (decNumber ((o.elim {} encNumber).before rest)) = .ok o := by
  refine ifFlag_eq hflag fun n hn => ?_
  rw [Option.mem_def.mp hn]
  exact decNumber_encNumber (h n hn) rest

/-- An optional facility is read back. -/
theorem ifFlag_facility {fields flag : UInt32} {o : Option Octets} {size : Nat}
    (hflag : hasFlag fields flag = o.isSome) (h : ∀ f ∈ o, StringOk size f)
    (rest : Octets) :
    ifFlag fields flag
      (charstring ((o.elim {} (encFacility size)).before size rest).info) = .ok o := by
  refine ifFlag_eq hflag fun f hf => ?_
  rw [Option.mem_def.mp hf]
  exact charstring_encFacility (h f hf) rest

/-- An optional user-user element is read back. -/
theorem ifFlag_useruser {fields : UInt32} {o : Option MnccUseruser}
    (hflag : hasFlag fields mnccFUseruser = o.isSome)
    (h : ∀ u ∈ o, StringOk 130 u.info) (rest : Octets) :
    ifFlag fields mnccFUseruser
      (decUseruser ((o.elim {} encUseruser).before rest)) = .ok o := by
  refine ifFlag_eq hflag fun u hu => ?_
  rw [Option.mem_def.mp hu]
  exact decUseruser_encUseruser (h u hu) rest

/-- A member that is copied both ways as it is. -/
theorem ifFlag_copied {α β : Type} {fields flag : UInt32} {o : Option α}
    (hflag : hasFlag fields flag = o.isSome) (dflt : β) {enc : α → β} {dec : β → α}
    (hinv : ∀ a, dec (enc a) = a) :
    ifFlag fields flag (.ok (dec (o.elim dflt enc))) = .ok o := by
  refine ifFlag_eq hflag fun a ha => ?_
  rw [Option.mem_def.mp ha]
  exact congrArg Except.ok (hinv a)

/-- An optional bearer capability is read back, with a data part. -/
theorem ifFlag_bcap {fields : UInt32} {o : Option MnccBearerCap}
    (hflag : hasFlag fields mnccFBearerCap = o.isSome)
    (h : ∀ b ∈ o, EndsWith (-1) b.speechVer.val) :
    ifFlag fields mnccFBearerCap (decBcap (o.elim {} encBcap).filled)
      = .ok (o.map MnccBearerCap.withData) := by
  refine ifFlag_eq (by rw [hflag, Option.isSome_map]) fun b hb => ?_
  obtain ⟨b', hb', rfl⟩ := Option.map_eq_some_iff.mp hb
  rw [hb']
  exact decBcap_encBcap (h b' hb')

/-- The diagnostics are what the encoder may refuse of a cause. -/
theorem encCause_ok {o : Option MnccCause} (h : ∀ c ∈ o, c.diag.length ≤ 32) :
    ∃ x, o.elim (.ok {}) encCause = .ok x ∧
      ∀ fields rest, hasFlag fields mnccFCause = o.isSome →
        ifFlag fields mnccFCause (decCause (x.before rest)) = .ok o := by
  cases o with
  | none => exact ⟨_, rfl, fun _ _ hflag => ifFlag_none _ hflag⟩
  | some c =>
      obtain ⟨x, henc, hdec⟩ := decCause_encCause (h c rfl)
      refine ⟨x, henc, fun fields rest hflag => ifFlag_eq hflag fun c' hc' => ?_⟩
      rw [hdec rest, Option.some.inj hc']

/-- The union in the memory of the struct. -/
def unionMem (v : MnccSockVersion) (gcr : Octets) (sdp : Option Octets) : Octets :=
  putArray 1040 (encUnion v gcr sdp) (putPad 2 [])

/-- From version 8 on the union holds the reference and the SDP. -/
theorem unionMem_v8 {v : MnccSockVersion} (hv : v.val > 7) (gcr : Octets)
    (sdp : Option Octets) :
    unionMem v gcr sdp
      = putArray 16 gcr
          (putArray 1024 (sdp.elim [] (strncpy 1024)) (putPad 2 [])) := by
  rw [unionMem, encUnion, if_pos hv]
  exact putArray_putArray 16 1024 gcr _ _

/-- **THE CALL REFERENCE** of 16 octets is read back from version 8 on. -/
theorem encGcr_ok {v : MnccSockVersion} {gcr : Option Octets}
    (h : ∀ g ∈ gcr, v.val > 7 ∧ g.length = 16) : ∃ g, encGcr v gcr = .ok g ∧
      ∀ fields sdp, hasFlag fields mnccFGcr = gcr.isSome →
        decGcr v fields (unionMem v g sdp) = .ok gcr := by
  cases gcr with
  | none =>
      refine ⟨[], rfl, fun fields sdp hflag => ?_⟩
      rw [decGcr, ifFlag_none _ hflag, ite_self]
  | some g =>
      obtain ⟨hv, hlen⟩ := h g rfl
      have hold : ¬ v.val < 8 := by omega
      have hle : g.length ≤ 16 := Nat.le_of_eq hlen
      have hcopy : copyOctets 16 g = .ok g := by
        rw [copyOctets_ok (Nat.le_of_eq hlen.symm), List.take_of_length_le hle]
      refine ⟨g, ?_, fun fields sdp hflag => ?_⟩
      · rw [encGcr, if_neg hold, hcopy]
      · rw [decGcr, if_pos hv, unionMem_v8 hv]
        refine ifFlag_eq hflag fun g' hg' => ?_
        have htake (rest : Octets) : (putArray 16 g rest).take 16 = g := by
          rw [← hlen, take_putArray (Nat.le_refl _)]
        rw [copyOctets_ok (le_putArray_length 16 g _), htake, Option.some.inj hg']

/-- The SDP is at its place in either version, with zeros behind it. -/
theorem sdp_read (v : MnccSockVersion) (gcr : Octets) {sdp : Option Octets}
    (h : ∀ p ∈ sdp, StringOk 1025 p) :
    charstring (sdpPtr v (unionMem v gcr sdp)) = .ok (sdp.getD []) := by
  have hfits : StringOk 1025 (sdp.getD []) := by
    cases sdp with
    | none => exact ⟨fun _ hc => (nomatch hc), Nat.succ_pos _⟩
    | some p => exact h p rfl
  have hcopied : sdp.elim [] (strncpy 1024) = strncpy 1024 (sdp.getD []) := by
    cases sdp <;> rfl
  by_cases hv : v.val > 7
  · rw [sdpPtr, if_pos hv, unionMem_v8 hv, drop_putArray, hcopied]
    exact charstring_putArray_le hfits _
  · have hwide : StringOk 1040 (sdp.getD []) :=
      ⟨hfits.noNul, Nat.lt_trans hfits.length_lt (by decide)⟩
    have hcopied' : strncpy 1024 (sdp.getD []) = strncpy 1040 (sdp.getD []) := by
      rw [strncpy_eq hfits.noNul (Nat.le_of_lt_succ hfits.length_lt),
        strncpy_eq hwide.noNul (Nat.le_of_lt hwide.length_lt)]
    rw [sdpPtr, if_neg hv, unionMem, encUnion, if_neg hv, hcopied, hcopied']
    exact charstring_putArray_lt hwide _

/-- A call reference that is not negative is the same after the way through
    `uint32_t`. -/
theorem callref_read {n : Int} (h : 0 ≤ n ∧ n < 2147483648) :
    cInt n = .ok (Int32.ofInt n) ∧
      ((Int32.ofInt n).toUInt32.toInt32).toInt = n := by
  refine ⟨cInt_ok ⟨by omega, h.2⟩, ?_⟩
  exact Int32.toInt_ofInt_of_le (by omega) h.2

/-- What the decoder makes of the members it reads. -/
theorem decSignal_ok {v : MnccSockVersion} {m : GsmMncc} (s : MnccPduSignal)
    {sdp : Octets} (hcallref : m.callref.toInt32.toInt = s.callref)
    (hbcap : ifFlag m.fields mnccFBearerCap (decBcap m.bearerCap) = .ok s.bearerCap)
    (hcalled : ifFlag m.fields mnccFCalled (decNumber m.called) = .ok s.called)
    (hcalling : ifFlag m.fields mnccFCalling (decNumber m.calling) = .ok s.calling)
    (hredirecting : ifFlag m.fields mnccFRedirecting (decNumber m.redirecting)
      = .ok s.redirecting)
    (hconnected : ifFlag m.fields mnccFConnected (decNumber m.connected)
      = .ok s.connected)
    (hcause : ifFlag m.fields mnccFCause (decCause m.cause) = .ok s.cause)
    (huseruser : ifFlag m.fields mnccFUseruser (decUseruser m.useruser)
      = .ok s.useruser)
    (hprogress : ifFlag m.fields mnccFProgress (.ok (decProgress m.progress))
      = .ok s.progress)
    (hemergency : ifFlag m.fields mnccFEmergency (.ok m.emergency) = .ok s.emergency)
    (hfacility : ifFlag m.fields mnccFFacility (charstring m.facility.info)
      = .ok s.facility)
    (hssversion : ifFlag m.fields mnccFSsversion (charstring m.ssversion.info)
      = .ok s.ssversion)
    (hcccap : ifFlag m.fields mnccFCccap (.ok (decCccap m.cccap)) = .ok s.cccap)
    (hkeypad : ifFlag m.fields mnccFKeypad (.ok (decKeypad m.keypad)) = .ok s.keypad)
    (hsignal : ifFlag m.fields mnccFSignal (.ok m.signal) = .ok s.signal)
    (himsi : charstring m.imsi = .ok s.imsi)
    (hgcr : decGcr v m.fields m.v = .ok s.gcr)
    (hsdp : charstring (sdpPtr v m.v) = .ok sdp)
    (hcopied : m.clir = ⟨s.clirSup, s.clirInv⟩ ∧ m.more = s.more ∧
      m.notify = s.notify ∧ m.lchanType = s.lchanType ∧ m.lchanMode = s.lchanMode) :
    decSignal v m = .ok { s with sdp := some sdp } := by
  obtain ⟨hclir, hmore, hnotify, htype, hmode⟩ := hcopied
  rw [decSignal, hbcap, hcalled, hcalling, hredirecting, hconnected, hcause, huseruser,
    hprogress, hemergency, hfacility, hssversion, hcccap, hkeypad, hsignal, himsi,
    hgcr, hsdp, hcallref, hclir, hmore, hnotify, htype, hmode]
  rfl

/-- **A SIGNALLING PDU THAT FITS COMES BACK** from its struct, whatever the
    arrays run into. -/
theorem decSignal_encSignal {v : MnccSockVersion} {s : MnccPduSignal}
    (h : SignalOk v s) (msgType : MnccMsgType) :
    ∃ m, encSignal v msgType s = .ok m ∧
      m.msgType = (num msgType).toUInt32 ∧ m.bearerCap.speechVer.length ≤ 8 ∧
      ∀ b, decSignal v (m.before b) = .ok s.withUnflagged := by
  obtain ⟨hcallref, hcallrefRead⟩ := callref_read h.callref
  obtain ⟨cause, hcause, hcauseRead⟩ := encCause_ok h.diag
  obtain ⟨gcr, hgcr, hgcrRead⟩ := encGcr_ok h.gcr
  have hsignal : encSignalMember s = .ok (s.signal.getD 0) := by
    rw [encSignalMember, h.keypad]
  refine ⟨fillMncc v msgType s (Int32.ofInt s.callref) cause (s.signal.getD 0) gcr,
    ?_, rfl, ?_, fun b => ?_⟩
  · rw [encSignal, hcallref, hcause, hsignal, hgcr]
    rfl
  · show (s.bearerCap.elim {} encBcap).speechVer.length ≤ 8
    cases s.bearerCap with
    | none => exact Nat.zero_le 8
    | some cap => exact cap.speechVer.property
  · have hflag {flag : UInt32} {c : Bool} (hmem : (flag, c) ∈ mnccFlags s) :
        hasFlag (flagWord (mnccFlags s)) flag = c := hasFlag_mnccFlags s hmem
    have hcopied {α : Type} {flag : UInt32} {o : Option α} (dflt : α)
        (hmem : (flag, o.isSome) ∈ mnccFlags s) :
        ifFlag (flagWord (mnccFlags s)) flag (.ok (o.getD dflt)) = .ok o := by
      refine ifFlag_eq (hflag hmem) fun a ha => ?_
      rw [Option.mem_def.mp ha, Option.getD_some]
    have hkeypad : ifFlag (flagWord (mnccFlags s)) mnccFKeypad (.ok (decKeypad 0))
        = .ok s.keypad := by
      rw [h.keypad]
      refine ifFlag_none _ (hflag ?_)
      simp [mnccFlags, h.keypad]
    refine decSignal_ok { s with bearerCap := s.bearerCap.map MnccBearerCap.withData }
      hcallrefRead (ifFlag_bcap (hflag ?_) h.speechVer)
      (ifFlag_number (hflag ?_) h.called _) (ifFlag_number (hflag ?_) h.calling _)
      (ifFlag_number (hflag ?_) h.redirecting _)
      (ifFlag_number (hflag ?_) h.connected _)
      (hcauseRead _ _ (hflag ?_)) (ifFlag_useruser (hflag ?_) h.useruser _)
      (ifFlag_copied (hflag ?_) _ fun _ => rfl) (hcopied 0 ?_)
      (ifFlag_facility (hflag ?_) h.facility _)
      (ifFlag_facility (hflag ?_) h.ssversion _)
      (ifFlag_copied (hflag ?_) _ fun _ => rfl) hkeypad (hcopied 0 ?_)
      (charstring_putArray_lt h.imsi _) (hgcrRead _ _ (hflag ?_))
      (sdp_read v gcr h.sdp) ⟨rfl, rfl, rfl, rfl, rfl⟩
    all_goals simp [mnccFlags]

-- ── The PDUs ─────────────────────────────────────────────────────────────────

def afInet : UInt16 := 2
def afInet6 : UInt16 := 10
def afUnspec : UInt16 := 0

/-- `htons`, and `ntohs`, on a little-endian host. -/
def htons (n : UInt16) : UInt16 :=
  UInt16.ofNat (n.toNat % 256 * 256 + n.toNat / 256)

/-- The case `ALT_rtp` of the encoder, up to the octets.  The address of a
    `sockaddr_in6` is behind its `sin6_flowinfo`. -/
def encRtp (msgType : MnccMsgType) (r : MnccPduRtp) : Except Fault GsmMnccRtp := do
  let callref ← cInt r.callref
  let ip ← copyOctets (if r.isIpv6 then 16 else 4) r.ip
  let rtpPort ← cInt r.rtpPort
  let payloadType ← cInt r.payloadType
  let payloadMsgType ← cInt r.payloadMsgType
  pure { msgType := (num msgType).toUInt32
         callref := callref.toUInt32
         ssFamily := if r.isIpv6 then afInet6 else afInet
         sinPort := htons rtpPort.toUInt32.toUInt16
         ssRest := if r.isIpv6 then putArray 4 [] ip else ip
         payloadType := payloadType.toUInt32
         payloadMsgType := payloadMsgType.toUInt32
         sdp := r.sdp.elim [] (strncpy 1024) }

/-- `version` and the sizes of a hello, each an `int` of the source. -/
def encHello (msgType : MnccMsgType) (h : MnccPduHello) :
    Except Fault GsmMnccHello := do
  let version ← cInt h.version
  let mnccSize ← cInt h.mnccSize
  let dataFrameSize ← cInt h.dataFrameSize
  let calledOffset ← cInt h.calledOffset
  let signalOffset ← cInt h.signalOffset
  let emergencyOffset ← cInt h.emergencyOffset
  let lchanTypeOffset ← cInt h.lchanTypeOffset
  pure { msgType := (num msgType).toUInt32
         version := version.toUInt32
         mnccSize := mnccSize.toUInt32
         dataFrameSize := dataFrameSize.toUInt32
         calledOffset := calledOffset.toUInt32
         signalOffset := signalOffset.toUInt32
         emergencyOffset := emergencyOffset.toUInt32
         lchanTypeOffset := lchanTypeOffset.toUInt32 }

/-- `enc__MNCC__PDU` -/
def encMnccPdu (v : MnccSockVersion) (pdu : MnccPdu) : Except Fault Octets :=
  match pdu.u with
  | .signal s => (encSignal v pdu.msgType s).map GsmMncc.put
  -- the call reference of a data frame is not set
  | .data d =>
      .ok (GsmDataFrame.put { msgType := (num pdu.msgType).toUInt32 } d.data)
  | .rtp r => (encRtp pdu.msgType r).map GsmMnccRtp.put
  | .hello h => (encHello pdu.msgType h).map GsmMnccHello.put

/-- A struct at the start of a piece of memory. -/
def readStruct {α : Type} (get : Get α) (mem : Octets) : Except Fault α :=
  match get mem with
  | some (x, _) => .ok x
  | none => .error .overread

/-- The members of a hello as integers. -/
def decHello (h : GsmMnccHello) : MnccPduHello where
  version := h.version.toInt32.toInt
  mnccSize := h.mnccSize.toInt32.toInt
  dataFrameSize := h.dataFrameSize.toInt32.toInt
  calledOffset := h.calledOffset.toInt32.toInt
  signalOffset := h.signalOffset.toInt32.toInt
  emergencyOffset := h.emergencyOffset.toInt32.toInt
  lchanTypeOffset := h.lchanTypeOffset.toInt32.toInt

/-- The rest of the stream behind the 8 octets of the struct is the frame. -/
def decData (stream : Octets) (x : GsmDataFrame) : Except Fault MnccPduData := do
  let data ← substr stream 8 (stream.length - 8)
  pure { callref := x.callref.toInt32.toInt, data }

/-- For an address of another family nothing sets `ip`. -/
def decRtp (r : GsmMnccRtp) : Except Fault MnccPduRtp := do
  let (isIpv6, ip) ←
    if r.ssFamily = afInet6 then do
      let ip ← copyOctets 16 (r.ssRest.drop 4)
      pure (true, ip)
    -- RTP_CREATE and RTP_FREE can contain fully zeroed addr
    else if r.ssFamily = afUnspec ∨ r.ssFamily = afInet then do
      let ip ← copyOctets 4 r.ssRest
      pure (false, ip)
    else .error .unbound
  let sdp ← charstring r.sdp
  pure { callref := r.callref.toInt32.toInt, isIpv6, ip,
         rtpPort := (htons r.sinPort).toNat,
         payloadType := r.payloadType.toInt32.toInt,
         payloadMsgType := r.payloadMsgType.toInt32.toInt, sdp := some sdp }

/-- The labels of the switch for each struct. -/
def mnccSocketHello : UInt32 := 0x0400

/-- The message types that are frames of a call. -/
def gsmFrames : List UInt32 := [0x0300, 0x0301, 0x0302, 0x0303, 0x03ff]

/-- The message types that are about RTP. -/
def mnccRtps : List UInt32 := [0x0204, 0x0205, 0x0206]

/-- The alternative that the message type of the stream fixes. -/
def decMsgUnion (v : MnccSockVersion) (msgType : UInt32) (stream : Octets) :
    Except Fault MnccMsgUnion :=
  if msgType = mnccSocketHello then do
    let h ← readStruct GsmMnccHello.get stream
    pure (.hello (decHello h))
  else if msgType ∈ gsmFrames then do
    let x ← readStruct GsmDataFrame.get stream
    let d ← decData stream x
    pure (.data d)
  else if msgType ∈ mnccRtps then do
    let x ← readStruct GsmMnccRtp.get stream
    let r ← decRtp x
    pure (.rtp r)
  else do
    let m ← readStruct GsmMncc.get stream
    let s ← decSignal v m
    pure (.signal s)

/-- `dec__MNCC__PDU` -/
def decMnccPdu (v : MnccSockVersion) (stream : Octets) : Except Fault MnccPdu := do
  let num ← readStruct getU32 stream
  let u ← decMsgUnion v num stream
  let msgType ← enumOfInt num.toInt32
  pure { msgType, u }

/-- The alternative `signal` of the CROSSTAG: no type that has a struct of its
    own. -/
def MnccMsgType.IsSignal : MnccMsgType → Prop
  | .socketHello => False
  | .rtpCreate | .rtpConnect | .rtpFree => False
  | .gsmTchfFrame | .gsmTchfFrameEfr | .gsmTchhFrame | .gsmTchFrameAmr => False
  | .gsmBadFrame => False
  | _ => True

/-- A type with the struct of the default case. -/
theorem MnccMsgType.IsSignal.default {t : MnccMsgType} (h : t.IsSignal) :
    (num t).toUInt32 ≠ mnccSocketHello ∧ (num t).toUInt32 ∉ gsmFrames ∧
      (num t).toUInt32 ∉ mnccRtps := by
  cases t <;> first | exact h.elim | decide

/-- One side encodes the PDU, and the other decodes the octets to `pdu'`. -/
def MnccReads (v : MnccSockVersion) (pdu pdu' : MnccPdu) : Prop :=
  ∃ stream, encMnccPdu v pdu = .ok stream ∧ decMnccPdu v stream = .ok pdu'

/-- Reading is decoding what was encoded. -/
theorem mnccReads_iff {v : MnccSockVersion} {pdu pdu' : MnccPdu} :
    MnccReads v pdu pdu'
      ↔ (encMnccPdu v pdu).bind (decMnccPdu v) = .ok pdu' := by
  constructor
  · rintro ⟨stream, henc, hdec⟩
    rw [henc]
    exact hdec
  · intro h
    obtain ⟨stream, henc, hdec⟩ := bind_ok h
    exact ⟨stream, henc, hdec⟩

instance (v : MnccSockVersion) (pdu pdu' : MnccPdu) :
    Decidable (MnccReads v pdu pdu') :=
  decidable_of_iff _ mnccReads_iff.symm

/-- A structure that is whole in memory is read. -/
theorem readStruct_ok {α : Type} {get : Get α} {mem rest : Octets} {x : α}
    (h : get mem = some (x, rest)) : readStruct get mem = .ok x := by
  rw [readStruct, h]

/-- What is left once the switch has its label: the octets start with the type
    and the case reads the rest. -/
theorem mnccReads_of {v : MnccSockVersion} {t : MnccMsgType} {u u' : MnccMsgUnion}
    {stream : Octets} (henc : encMnccPdu v ⟨t, u⟩ = .ok stream)
    (htype : readStruct getU32 stream = .ok (num t).toUInt32)
    (hdec : decMsgUnion v (num t).toUInt32 stream = .ok u') :
    MnccReads v ⟨t, u⟩ ⟨t, u'⟩ := by
  refine ⟨stream, henc, ?_⟩
  rw [decMnccPdu, htype]
  show (decMsgUnion v _ stream >>= _) = _
  rw [hdec]
  show (enumOfInt (num t) >>= _) = _
  rw [enumOfInt_num]
  rfl

/-- **A SIGNALLING PDU SURVIVES ITS STRUCT**: in either version and with any
    subset of the optional members, a PDU that fits is decoded from its octets
    with the same members present, and of these the same values; only the two
    members that have no flag come back with a value when they are omitted. -/
theorem mnccSignal_roundTrip (v : MnccSockVersion) {msgType : MnccMsgType}
    (htype : msgType.IsSignal) {s : MnccPduSignal} (h : SignalOk v s) :
    MnccReads v ⟨msgType, .signal s⟩ ⟨msgType, .signal s.withUnflagged⟩ := by
  obtain ⟨m, henc, hnum, hvers, hdec⟩ := decSignal_encSignal h msgType
  obtain ⟨b, hget⟩ := GsmMncc.get_put hvers
  obtain ⟨hhello, hframe, hrtp⟩ := htype.default
  have henc' : encMnccPdu v ⟨msgType, .signal s⟩ = .ok m.put := by
    show (encSignal v msgType s).map GsmMncc.put = _
    rw [henc]
    rfl
  have hread : readStruct getU32 m.put = .ok (num msgType).toUInt32 := by
    rw [← hnum]
    exact readStruct_ok (getU32_putU32 m.msgType _)
  refine mnccReads_of henc' hread ?_
  rw [decMsgUnion, if_neg hhello, if_neg hframe, if_neg hrtp, readStruct_ok hget]
  show (decSignal v (m.before b) >>= _) = _
  rw [hdec b]
  rfl

-- ── Templates of the tests ───────────────────────────────────────────────────

/-- Version 8 of the socket. -/
def mnccV8 : MnccSockVersion := ⟨8, Or.inr rfl⟩

/-- `ts_MNCC_bcap_voice` -/
def tsMnccBcapVoice : MnccBearerCap where
  transfer := 0
  mode := 0
  coding := 0
  radio := 3
  speechCtm := 0
  speechVer := ⟨[0, 2, 4, 1, 5, -1], by decide⟩
  data := none

/-- `ts_MNCC_number` -/
def tsMnccNumber (number : Octets) : MnccNumber where
  numberType := .international
  plan := .e164
  presence := .allowed
  screen := .notScreened
  number := number

/-- `ts_MNCC_cause` -/
def tsMnccCause (val : Int32) : MnccCause where
  location := .punSLu
  coding := .gsm
  rec' := 0
  recVal := 0
  val := val
  diag := []

/-- A signalling PDU with a call reference and nothing else. -/
def tsMnccSimple (callId : Int) : MnccPduSignal where
  callref := callId
  bearerCap := none
  called := none
  calling := none
  redirecting := none
  connected := none
  cause := none
  progress := none
  useruser := none
  facility := none
  cccap := none
  ssversion := none
  clirSup := 0
  clirInv := 0
  signal := none
  keypad := none
  more := 0
  notify := 0
  emergency := none
  imsi := []
  lchanType := 0
  lchanMode := 0
  gcr := none
  sdp := none

/-- A call to the number 491 with its group call reference. -/
def setupPdu : MnccPduSignal :=
  { tsMnccSimple 5 with
    bearerCap := some tsMnccBcapVoice
    called := some (tsMnccNumber [52, 57, 49])
    cause := some (tsMnccCause 16)
    facility := some [49]
    cccap := some { dtmf := 1, pcp := 0 }
    signal := some 7
    imsi := [48, 48, 49]
    gcr := some (List.replicate 16 170) }

/-- A SETUP with a called number, from the encoder to the decoder. -/
theorem mnccSignal_roundTrip_setup :
    MnccReads mnccV8 ⟨.setupReq, .signal setupPdu⟩
      ⟨.setupReq, .signal setupPdu.withUnflagged⟩ :=
  mnccSignal_roundTrip mnccV8 (show MnccMsgType.setupReq.IsSignal from trivial)
    { callref := by decide
      speechVer := fun b hb => Option.some.inj hb ▸ by decide
      called := fun n hn => Option.some.inj hn ▸ ⟨by decide, by decide⟩
      calling := fun _ hn => nomatch hn
      redirecting := fun _ hn => nomatch hn
      connected := fun _ hn => nomatch hn
      diag := fun c hc => Option.some.inj hc ▸ by decide
      useruser := fun _ hu => nomatch hu
      facility := fun f hf => Option.some.inj hf ▸ ⟨by decide, by decide⟩
      ssversion := fun _ hf => nomatch hf
      keypad := rfl
      imsi := ⟨by decide, by decide⟩
      gcr := fun g hg => Option.some.inj hg ▸ by decide
      sdp := fun _ hp => nomatch hp }

/-- An omitted SDP comes back empty and omitted data rates come back as zeros,
    and a call reference from 2^31 on is refused. -/
theorem simplePdu_altered :
    ¬ MnccReads mnccSockVersion ⟨.discReq, .signal (tsMnccSimple 5)⟩
        ⟨.discReq, .signal (tsMnccSimple 5)⟩
    ∧ ¬ MnccReads mnccSockVersion
        ⟨.setupReq, .signal { tsMnccSimple 5 with
          bearerCap := some tsMnccBcapVoice, sdp := some [] }⟩
        ⟨.setupReq, .signal { tsMnccSimple 5 with
          bearerCap := some tsMnccBcapVoice, sdp := some [] }⟩
    ∧ encMnccPdu mnccSockVersion ⟨.discReq, .signal (tsMnccSimple 2147483648)⟩
        = .error (.ttcnError
          "Using the value of a large integer value as an integer.") := by
  refine ⟨?_, ?_, ?_⟩
  · decide +kernel
  · decide +kernel
  · decide +kernel

end OsmoMncc
