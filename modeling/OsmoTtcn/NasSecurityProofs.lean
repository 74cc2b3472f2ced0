import OsmoTtcn.TitanProofs
import OsmoTtcn.RunGuardProofs

/-! # LTE NAS security: encapsulation and decapsulation

    `f_nas_encaps` protects a NAS message under the counter `tx_count`, and
    `f_nas_try_decaps` checks and deciphers it under `rx_count`.  The cipher
    f8, the integrity function f9 and the NAS codec are parameters.

    The two counters move apart in three ways.  The transmitter counts before
    it protects and the receiver after it accepted, so the receiver is one
    ahead (`PairedStates`); the receiver compares its counter with a sequence
    number of one octet; and for a ciphered message without a new context it
    counts before it deciphers.  `nasRoundTrip` is the round trip over all runs
    that stay clear of these. -/

namespace OsmoNas

open OsmoTitan RunGuard

-- ── Types ────────────────────────────────────────────────────────────────────

/-- `NAS_Role` -/
inductive NasRole where
  /-- ATS implements/emulates UE -/
  | ue
  /-- ATS implements/emulates MME -/
  | mme
  deriving DecidableEq, Repr

/-- `NAS_ALG_INT` -/
inductive NasAlgInt where
  | eia0 | eia1 | eia2 | eia3
  deriving DecidableEq, Repr

/-- `NAS_ALG_ENC` -/
inductive NasAlgEnc where
  | eea0 | eea1 | eea2 | eea3
  deriving DecidableEq, Repr

/-- `NAS_UE_State` -/
structure NasUeState where
  role : NasRole
  algInt : NasAlgInt
  kNasInt : List UInt8
  algEnc : NasAlgEnc
  kNasEnc : List UInt8
  /-- frame counter (ATS rx side) -/
  rxCount : Int
  /-- frame counter (ATS tx side) -/
  txCount : Int
  /-- Use "New EPS Security Context" when building next sec_hdr_t -/
  newCtx : Bool
  /-- Whether to use "Integrity" in sec_hdr_t -/
  useInt : Bool
  /-- Whether to use "Ciphering" in sec_hdr_t -/
  useEnc : Bool
  deriving DecidableEq, Repr

/-- `t_NAS_UE_State` -/
def tNasUeState (role : NasRole) : NasUeState where
  role := role
  algInt := .eia0
  kNasInt := []
  algEnc := .eea0
  kNasEnc := []
  rxCount := 0
  txCount := 0
  newCtx := false
  useInt := false
  useEnc := false

/-- `PDU_NAS_EPS_SecurityProtectedNASMessage` -/
structure SecurityProtectedNasMessage where
  /-- BIT4 -/
  securityHeaderType : Fin 16
  messageAuthenticationCode : List UInt8
  sequenceNumber : Int
  nasMessage : List UInt8
  deriving DecidableEq, Repr

/-- `PDU_NAS_EPS`: a security protected message or any other. -/
inductive PduNasEps (Plain : Type) where
  | plain (pdu : Plain)
  | securityProtected (pdu : SecurityProtectedNasMessage)
  deriving DecidableEq, Repr

/-- The external functions and the codec. -/
structure Env (Plain : Type) where
  snow3gF8 : (key : List UInt8) → (count bearer : Int) → (isDownlink : Bool) →
    (data : List UInt8) → List UInt8
  snow3gF9 : (key : List UInt8) → (count fresh : Int) → (isDownlink : Bool) →
    (data : List UInt8) → List UInt8
  encPdu : PduNasEps Plain → List UInt8
  decPdu : List UInt8 → Except Fault (PduNasEps Plain)

/-- What a call of f8 or f9 makes its keystream or its MAC of. -/
structure CryptoCall where
  key : List UInt8
  count : Int
  isDownlink : Bool
  deriving DecidableEq, Repr

-- ── The code ─────────────────────────────────────────────────────────────────

section Code

variable {Plain : Type} (env : Env Plain)

/-- f8 under the arguments of `c`, and `c`. -/
def f8Call (c : CryptoCall) (bearer : Int) (data : List UInt8) :
    List UInt8 × List CryptoCall :=
  (env.snow3gF8 c.key c.count bearer c.isDownlink data, [c])

/-- f9 under the arguments of `c`, and `c`. -/
def f9Call (c : CryptoCall) (fresh : Int) (data : List UInt8) :
    List UInt8 × List CryptoCall :=
  (env.snow3gF9 c.key c.count fresh c.isDownlink data, [c])

/-- `f_nas_mac_calc`, with the call of f9 that it makes. -/
def fNasMacCalcCalls (alg : NasAlgInt) (kNasInt : List UInt8)
    (seqNr bearer : Int) (isDownlink : Bool) (data : List UInt8) :
    Except Fault (List UInt8 × List CryptoCall) :=
  match alg with
  | .eia0 => .ok ([0, 0, 0, 0], [])
  | .eia1 => .ok (f9Call env ⟨kNasInt, seqNr, isDownlink⟩
      (bearer * 2 ^ 27 % 2 ^ 32) data)
  | _ => .error (.shutdown "Unsupported EIA: ")

/-- `f_nas_mac_calc` -/
def fNasMacCalc (alg : NasAlgInt) (kNasInt : List UInt8) (seqNr bearer : Int)
    (isDownlink : Bool) (data : List UInt8) : Except Fault (List UInt8) :=
  (fNasMacCalcCalls env alg kNasInt seqNr bearer isDownlink data).map Prod.fst

/-- `f_nas_encrypt`, with the call of f8 that it makes; `f_snow_3g_f8` ciphers
    the buffer of `data` in place. -/
def fNasEncryptCalls (alg : NasAlgEnc) (kNasEnc : List UInt8)
    (count bearer : Int) (isDownlink : Bool) (data : List UInt8) :
    Except Fault (List UInt8 × List CryptoCall) :=
  match alg with
  | .eea0 => .ok (data, [])
  | .eea1 => .ok (f8Call env ⟨kNasEnc, count, isDownlink⟩ bearer data)
  | _ => .error (.shutdown "Unsupported EEA: ")

/-- `f_nas_encrypt` -/
def fNasEncrypt (alg : NasAlgEnc) (kNasEnc : List UInt8) (count bearer : Int)
    (isDownlink : Bool) (data : List UInt8) : Except Fault (List UInt8) :=
  (fNasEncryptCalls env alg kNasEnc count bearer isDownlink data).map Prod.fst

/-- determine if a received (from the IUT) message is downlink or not -/
def fRxIsDownlink (nus : NasUeState) : Bool :=
  decide (nus.role = .ue)

/-- determine if a message transmitted to the IUT message is downlink or not -/
def fTxIsDownlink (nus : NasUeState) : Bool :=
  !fRxIsDownlink nus

/-- `f_nas_check_ip` -/
def fNasCheckIp (nus : NasUeState) (secpNas : SecurityProtectedNasMessage) :
    Except Fault Bool := do
  let seq ← int2oct1 secpNas.sequenceNumber
  let expMac ← fNasMacCalc env nus.algInt nus.kNasInt nus.rxCount 0
    (fRxIsDownlink nus) (seq :: secpNas.nasMessage)
  .ok (decide (nus.rxCount = secpNas.sequenceNumber
    ∧ expMac = secpNas.messageAuthenticationCode))

/-- A message that fails the check shuts the test down. -/
def checkIp (nus : NasUeState) (secpNas : SecurityProtectedNasMessage) :
    Except Fault Unit :=
  (fNasCheckIp env nus secpNas).bind (fun ok =>
    if ok then .ok () else .error (.shutdown "f_nas_check_ip() failed"))

/-- The branches '0001'B and '0011'B, after their assignments. -/
def decapsIp (nus : NasUeState) (secpNas : SecurityProtectedNasMessage) :
    Except Fault (NasUeState × PduNasEps Plain) := do
  let _ ← checkIp env nus secpNas
  let pdu ← env.decPdu secpNas.nasMessage
  .ok ({ nus with rxCount := nus.rxCount + 1 }, pdu)

/-- The branch '0010'B: it counts, and then deciphers. -/
def decapsIpCiphered (nus : NasUeState)
    (secpNas : SecurityProtectedNasMessage) :
    Except Fault (NasUeState × PduNasEps Plain) := do
  let _ ← checkIp env nus secpNas
  let nus := { nus with rxCount := nus.rxCount + 1 }
  let data ← fNasEncrypt env nus.algEnc nus.kNasEnc nus.rxCount 0
    (fRxIsDownlink nus) secpNas.nasMessage
  let pdu ← env.decPdu data
  .ok (nus, pdu)

/-- The branch '0100'B: it deciphers, and then counts. -/
def decapsIpCipheredNewCtx (nus : NasUeState)
    (secpNas : SecurityProtectedNasMessage) :
    Except Fault (NasUeState × PduNasEps Plain) := do
  let _ ← checkIp env nus secpNas
  let data ← fNasEncrypt env nus.algEnc nus.kNasEnc nus.rxCount 0
    (fRxIsDownlink nus) secpNas.nasMessage
  let pdu ← env.decPdu data
  .ok ({ nus with rxCount := nus.rxCount + 1 }, pdu)

/-- try to decapsulate (MAC verify, decrypt) NAS message -/
def fNasTryDecaps (nus : NasUeState) (nas : PduNasEps Plain) :
    Except Fault (NasUeState × PduNasEps Plain) :=
  match nas with
  -- transparently pass through any non-protected NAS
  | .plain _ => .ok (nus, nas)
  | .securityProtected secpNas =>
      match secpNas.securityHeaderType with
      -- IP with new EPS security context
      | 3 => decapsIp env
          { nus with newCtx := true, rxCount := 0, algInt := .eia1 } secpNas
      -- IP only
      | 1 => decapsIp env { nus with newCtx := false } secpNas
      -- IP + ciphered
      | 2 => decapsIpCiphered env { nus with newCtx := false } secpNas
      -- IP + ciphered; new EPS security context
      | 4 => decapsIpCipheredNewCtx env
          { nus with newCtx := true, rxCount := 0 } secpNas
      | _ => .error (.shutdown "Implement SecHdrType for ")

/-- `f_nas_determine_sec_hdr_t` -/
def fNasDetermineSecHdrT (encrypt authenticate newCtx : Bool) :
    Except Fault (Fin 16) :=
  match encrypt, authenticate, newCtx with
  | false, false, false => .ok 0
  | false, true, false => .ok 1
  | false, true, true => .ok 3
  | true, true, true => .ok 4
  | true, true, false => .ok 2
  | _, _, _ => .error (.shutdown "Invalid sec_hdr conditions")

/-- The counter of the next message. -/
def nextCount (newCtx : Bool) (txCount : Int) : Int :=
  if newCtx then 0 else txCount + 1

/-- The count of the next message that is sent. -/
def countTx (nus : NasUeState) : NasUeState :=
  { nus with txCount := nextCount nus.newCtx nus.txCount }

/-- A message is encrypted once a cipher is in use. -/
def encryptIfUsed (nus : NasUeState) (nasEnc : List UInt8) :
    Except Fault (List UInt8 × List CryptoCall) :=
  if nus.useEnc then
    fNasEncryptCalls env nus.algEnc nus.kNasEnc nus.txCount 0
      (fTxIsDownlink nus) nasEnc
  else .ok (nasEnc, [])

/-- It has a MAC once an integrity algorithm is in use. -/
def macIfUsed (nus : NasUeState) (nasEnc : List UInt8) :
    Except Fault (List UInt8 × List CryptoCall) :=
  if nus.useInt then
    fNasMacCalcCalls env nus.algInt nus.kNasInt nus.txCount 0
      (fTxIsDownlink nus)
      (UInt8.ofNat (nus.txCount % 256).toNat :: nasEnc)
  else .ok ([0, 0, 0, 0], [])

/-- The protected message, under the counter of `nus`, and the calls of f8 and
    f9 that were made for it. -/
def protect (nus : NasUeState) (nasIn : PduNasEps Plain) :
    Except Fault ((NasUeState × PduNasEps Plain) × List CryptoCall) := do
  let (nasEnc, ciphered) ← encryptIfUsed env nus (env.encPdu nasIn)
  let secHdrT ← fNasDetermineSecHdrT nus.useEnc nus.useInt nus.newCtx
  let (mac, signed) ← macIfUsed env nus nasEnc
  .ok ((nus, .securityProtected ⟨secHdrT, mac, nus.txCount, nasEnc⟩),
    ciphered ++ signed)

/-- `f_nas_encaps`, with the calls of f8 and f9 that it makes. -/
def fNasEncapsCalls (nus : NasUeState) (nasIn : PduNasEps Plain) :
    Except Fault ((NasUeState × PduNasEps Plain) × List CryptoCall) :=
  if nus.useEnc = false ∧ nus.useInt = false then
    .ok ((countTx nus, nasIn), [])
  else protect env (countTx nus) nasIn

/-- encapsulate a NAS message (encrypt, MAC) -/
def fNasEncaps (nus : NasUeState) (nasIn : PduNasEps Plain) :
    Except Fault (NasUeState × PduNasEps Plain) :=
  (fNasEncapsCalls env nus nasIn).map Prod.fst

end Code

-- ── Streams ──────────────────────────────────────────────────────────────────

/-- f8 is exclusive or with a keystream that its parameters determine. -/
def IsStreamCipher (f8 : List UInt8 → Int → Int → Bool → List UInt8 →
    List UInt8) : Prop :=
  ∃ keystream : List UInt8 → Int → Int → Bool → Nat → List UInt8,
    (∀ k c b d n, (keystream k c b d n).length = n)
    ∧ ∀ k c b d data, f8 k c b d data
      = List.zipWith (· ^^^ ·) data (keystream k c b d data.length)

/-- A key stream that is added twice does nothing. -/
theorem zipWith_xor_cancel : ∀ {xs ks : List UInt8}, ks.length = xs.length →
    List.zipWith (· ^^^ ·) (List.zipWith (· ^^^ ·) xs ks) ks = xs := by
  intro xs
  induction xs with
  | nil => intro ks _; rfl
  | cons x xs ih =>
      intro ks hlen
      cases ks with
      | nil => exact nomatch hlen
      | cons k ks =>
          have hx : x ^^^ k ^^^ k = x := by
            rw [UInt8.xor_assoc, UInt8.xor_self, UInt8.xor_zero]
          show (x ^^^ k ^^^ k) :: List.zipWith _ (List.zipWith _ xs ks) ks = _
          rw [hx, ih (Nat.succ.inj hlen)]

/-- **DECIPHERING**: f8 under the same parameters undoes f8. -/
theorem IsStreamCipher.involutive {f8 : List UInt8 → Int → Int → Bool →
    List UInt8 → List UInt8} (h : IsStreamCipher f8) (k : List UInt8)
    (c b : Int) (d : Bool) (data : List UInt8) :
    f8 k c b d (f8 k c b d data) = data := by
  obtain ⟨keystream, hlen, hf8⟩ := h
  have hsame : (List.zipWith (· ^^^ ·) data
      (keystream k c b d data.length)).length = data.length := by
    rw [List.length_zipWith, hlen, Nat.min_self]
  rw [hf8 k c b d data, hf8, hsame]
  exact zipWith_xor_cancel (hlen k c b d data.length)

-- ── One side for the other ───────────────────────────────────────────────────

/-- The two sides of one security context. -/
structure Paired (a b : NasUeState) : Prop where
  role : a.role ≠ b.role
  algInt : a.algInt = b.algInt
  kNasInt : a.kNasInt = b.kNasInt
  algEnc : a.algEnc = b.algEnc
  kNasEnc : a.kNasEnc = b.kNasEnc

/-- The integrity algorithms that the functions have. -/
def KnownInt (alg : NasAlgInt) : Prop := alg = .eia0 ∨ alg = .eia1

/-- The ciphers that the functions have. -/
def KnownEnc (alg : NasAlgEnc) : Prop := alg = .eea0 ∨ alg = .eea1

instance (alg : NasAlgInt) : Decidable (KnownInt alg) :=
  inferInstanceAs (Decidable (_ ∨ _))

instance (alg : NasAlgEnc) : Decidable (KnownEnc alg) :=
  inferInstanceAs (Decidable (_ ∨ _))

/-- What one side downlinks the other receives as downlink. -/
theorem Paired.direction {a b : NasUeState} (h : Paired a b) :
    fRxIsDownlink b = fTxIsDownlink a := by
  have hrole := h.role
  show decide (b.role = .ue) = !decide (a.role = .ue)
  cases ha : a.role with
  | ue =>
      cases hb : b.role with
      | ue => exact absurd (ha.trans hb.symm) hrole
      | mme => rfl
  | mme =>
      cases hb : b.role with
      | ue => rfl
      | mme => exact absurd (ha.trans hb.symm) hrole

section Sides

variable {Plain : Type} {env : Env Plain}

/-- Of those a MAC can be made. -/
theorem fNasMacCalc_known (env : Env Plain) {alg : NasAlgInt}
    (h : KnownInt alg) (k : List UInt8) (c bearer : Int) (d : Bool)
    (data : List UInt8) :
    ∃ mac, fNasMacCalc env alg k c bearer d data = .ok mac := by
  rcases h with rfl | rfl
  · exact ⟨_, rfl⟩
  · exact ⟨_, rfl⟩

/-- Enciphering twice under the same parameters gives the data back. -/
theorem fNasEncrypt_known {alg : NasAlgEnc} (hf8 : IsStreamCipher env.snow3gF8)
    (h : KnownEnc alg) (k : List UInt8) (c bearer : Int) (d : Bool)
    (data : List UInt8) :
    ∃ cipher, fNasEncrypt env alg k c bearer d data = .ok cipher
      ∧ fNasEncrypt env alg k c bearer d cipher = .ok data := by
  rcases h with rfl | rfl
  · exact ⟨data, rfl, rfl⟩
  · refine ⟨env.snow3gF8 k c bearer d data, rfl, ?_⟩
    show Except.ok (env.snow3gF8 k c bearer d _) = _
    rw [hf8.involutive]

/-- A message that comes with the counter of the receiver and the MAC the
    receiver expects passes the check. -/
theorem checkIp_ok {nus : NasUeState} {secpNas : SecurityProtectedNasMessage}
    (hseq : nus.rxCount = secpNas.sequenceNumber)
    (hpos : 0 ≤ nus.rxCount) (hoct : nus.rxCount < 256)
    (hmac : fNasMacCalc env nus.algInt nus.kNasInt nus.rxCount 0
      (fRxIsDownlink nus)
      (UInt8.ofNat (nus.rxCount % 256).toNat :: secpNas.nasMessage)
      = .ok secpNas.messageAuthenticationCode) :
    checkIp env nus secpNas = .ok () := by
  have hint : int2oct1 secpNas.sequenceNumber
      = .ok (UInt8.ofNat (nus.rxCount % 256).toNat) := by
    rw [int2oct1, ← hseq, if_pos ⟨hpos, hoct⟩, Int.emod_eq_of_lt hpos hoct]
  have hcheck : fNasCheckIp env nus secpNas = .ok true := by
    show (int2oct1 _).bind _ = _
    rw [hint]
    show (fNasMacCalc env _ _ _ _ _ _).bind _ = _
    rw [hmac]
    exact congrArg Except.ok (decide_eq_true ⟨hseq, rfl⟩)
  show (fNasCheckIp env nus secpNas).bind _ = _
  rw [hcheck]
  rfl

/-- A message with the right MAC is received. -/
theorem decapsIp_ok {nus : NasUeState} {secpNas : SecurityProtectedNasMessage}
    {pdu : PduNasEps Plain} (hcheck : checkIp env nus secpNas = .ok ())
    (hdec : env.decPdu secpNas.nasMessage = .ok pdu) :
    decapsIp env nus secpNas
      = .ok ({ nus with rxCount := nus.rxCount + 1 }, pdu) := by
  show (checkIp env nus secpNas).bind _ = _
  rw [hcheck]
  show (env.decPdu _).bind _ = _
  rw [hdec]
  rfl

/-- So is a ciphered one of a new context. -/
theorem decapsIpCipheredNewCtx_ok {nus : NasUeState}
    {secpNas : SecurityProtectedNasMessage} {pdu : PduNasEps Plain}
    {data : List UInt8} (hcheck : checkIp env nus secpNas = .ok ())
    (henc : fNasEncrypt env nus.algEnc nus.kNasEnc nus.rxCount 0
      (fRxIsDownlink nus) secpNas.nasMessage = .ok data)
    (hdec : env.decPdu data = .ok pdu) :
    decapsIpCipheredNewCtx env nus secpNas
      = .ok ({ nus with rxCount := nus.rxCount + 1 }, pdu) := by
  show (checkIp env nus secpNas).bind _ = _
  rw [hcheck]
  show (fNasEncrypt env _ _ _ _ _ _).bind _ = _
  rw [henc]
  show (env.decPdu _).bind _ = _
  rw [hdec]
  rfl

/-- Without a cipher the branch '0010'B does what '0001'B does. -/
theorem decapsIpCiphered_eea0 (env : Env Plain) {nus : NasUeState}
    (h : nus.algEnc = .eea0) (secpNas : SecurityProtectedNasMessage) :
    decapsIpCiphered env nus secpNas = decapsIp env nus secpNas := by
  rw [decapsIpCiphered, decapsIp]
  refine congrArg (checkIp env nus secpNas >>= ·) (funext fun _ => ?_)
  show (fNasEncrypt env nus.algEnc _ _ _ _ _).bind _ = _
  rw [h]
  rfl

/-- The sender counts, enciphers and signs. -/
theorem fNasEncaps_ok {nus : NasUeState} {nasIn : PduNasEps Plain}
    {hdr : Fin 16} {nasEnc mac : List UInt8} (huse : nus.useInt = true)
    (henc : (encryptIfUsed env (countTx nus) (env.encPdu nasIn)).map Prod.fst
      = .ok nasEnc)
    (hhdr : fNasDetermineSecHdrT nus.useEnc true nus.newCtx = .ok hdr)
    (hmac : fNasMacCalc env nus.algInt nus.kNasInt (countTx nus).txCount 0
      (fTxIsDownlink nus)
      (UInt8.ofNat ((countTx nus).txCount % 256).toNat :: nasEnc) = .ok mac) :
    fNasEncaps env nus nasIn = .ok (countTx nus,
      .securityProtected ⟨hdr, mac, (countTx nus).txCount, nasEnc⟩) := by
  obtain ⟨⟨enc, ciphered⟩, hciphered, rfl⟩ := map_ok henc
  obtain ⟨⟨sig, signed⟩, hsig, rfl⟩ := map_ok hmac
  have hsigned : macIfUsed env (countTx nus) enc = .ok (sig, signed) := by
    have hused : (countTx nus).useInt = true := huse
    rw [macIfUsed, if_pos hused]
    exact hsig
  have huses : ¬ (nus.useEnc = false ∧ nus.useInt = false) := by
    rw [huse]
    exact fun h => nomatch h.2
  rw [fNasEncaps, fNasEncapsCalls, if_neg huses]
  show Except.map _ ((encryptIfUsed env _ _).bind _) = _
  rw [hciphered]
  show Except.map _ ((fNasDetermineSecHdrT nus.useEnc nus.useInt nus.newCtx).bind _) = _
  rw [huse, hhdr]
  show Except.map _ ((macIfUsed env _ _).bind _) = _
  rw [hsigned]
  rfl

end Sides

-- ── Runs ─────────────────────────────────────────────────────────────────────

/-- One message of a run, with the protection the sender chooses for it. -/
structure NasInput (Plain : Type) where
  nas : PduNasEps Plain
  useEnc : Bool
  newCtx : Bool
  deriving DecidableEq, Repr

section Run

variable {Plain : Type} (env : Env Plain)

/-- The sender as it is set up for one message. -/
def NasInput.sender (i : NasInput Plain) (nus : NasUeState) : NasUeState :=
  { nus with useInt := true, useEnc := i.useEnc, newCtx := i.newCtx }

/-- The sender encapsulates a message and the receiver decapsulates it. -/
def nasStep (s : NasUeState × NasUeState) (i : NasInput Plain) :
    Except Fault ((NasUeState × NasUeState) × PduNasEps Plain) := do
  let (a, out) ← fNasEncaps env (i.sender s.1) i.nas
  let (b, got) ← fNasTryDecaps env s.2 out
  .ok ((a, b), got)

/-- How many messages are behind the last one with a new context. -/
def behindNewCtx (behind : Option Nat) (i : NasInput Plain) : Option Nat :=
  if i.newCtx then some 0 else behind.map (· + 1)

/-- The receiver gets what the sender was given. -/
def nasSpec (behind : Option Nat) (i : NasInput Plain) :
    Option Nat × PduNasEps Plain :=
  (behindNewCtx behind i, i.nas)

/-- At most 255 messages behind a new context. -/
def InCtx : Option Nat → Prop
  | some n => n < 255
  | none => False

instance decInCtx : ∀ behind, Decidable (InCtx behind)
  | some n => inferInstanceAs (Decidable (n < 255))
  | none => isFalse id

/-- Where one message comes through, by its header type. -/
def HdrFits (algInt : NasAlgInt) (algEnc : NasAlgEnc) (behind : Option Nat) :
    (useEnc newCtx : Bool) → Prop
  -- the receiver takes EIA1 for any such message
  | false, true => algInt = .eia1
  | false, false => KnownInt algInt ∧ InCtx behind
  | true, true => KnownInt algInt ∧ KnownEnc algEnc
  -- ciphered under one count and deciphered under the next
  | true, false => KnownInt algInt ∧ algEnc = .eea0 ∧ InCtx behind

instance decHdrFits (algInt : NasAlgInt) (algEnc : NasAlgEnc)
    (behind : Option Nat) :
    ∀ useEnc newCtx, Decidable (HdrFits algInt algEnc behind useEnc newCtx)
  | false, true => inferInstanceAs (Decidable (algInt = .eia1))
  | false, false => inferInstanceAs (Decidable (_ ∧ InCtx behind))
  | true, true => inferInstanceAs (Decidable (_ ∧ KnownEnc algEnc))
  | true, false => inferInstanceAs (Decidable (_ ∧ _ ∧ InCtx behind))

/-- What a message may use, when the receiver is so far behind. -/
def NasFits (algInt : NasAlgInt) (algEnc : NasAlgEnc) (behind : Option Nat)
    (i : NasInput Plain) : Prop :=
  HdrFits algInt algEnc behind i.useEnc i.newCtx

instance (algInt : NasAlgInt) (algEnc : NasAlgEnc) (behind : Option Nat)
    (i : NasInput Plain) : Decidable (NasFits algInt algEnc behind i) :=
  decHdrFits algInt algEnc behind i.useEnc i.newCtx

end Run

section Step

variable {Plain : Type} {env : Env Plain}

/-- A message that is sent and received. -/
theorem nasStep_eq {a a' b b' : NasUeState} {i : NasInput Plain}
    {out : PduNasEps Plain}
    (hencaps : fNasEncaps env (i.sender a) i.nas = .ok (a', out))
    (hdecaps : fNasTryDecaps env b out = .ok (b', i.nas)) :
    nasStep env (a, b) i = .ok ((a', b'), i.nas) := by
  show (fNasEncaps env _ _).bind _ = _
  rw [hencaps]
  show (fNasTryDecaps env _ _).bind _ = _
  rw [hdecaps]
  rfl

/-- The MAC both sides of a context compute for a message. -/
def IsMac (env : Env Plain) (a : NasUeState) (c : Int)
    (nasMessage mac : List UInt8) : Prop :=
  fNasMacCalc env a.algInt a.kNasInt c 0 (fTxIsDownlink a)
    (UInt8.ofNat (c % 256).toNat :: nasMessage) = .ok mac

/-- What the sender puts out, whatever it does to the encoded message. -/
theorem sender_ok (env : Env Plain) {a : NasUeState} (i : NasInput Plain)
    {nasEnc : List UInt8} {hdr : Fin 16} (hint : KnownInt a.algInt)
    (henc : (encryptIfUsed env (countTx (i.sender a)) (env.encPdu i.nas)).map
      Prod.fst = .ok nasEnc)
    (hhdr : fNasDetermineSecHdrT i.useEnc true i.newCtx = .ok hdr) :
    ∃ mac, IsMac env a (countTx (i.sender a)).txCount nasEnc mac
      ∧ fNasEncaps env (i.sender a) i.nas = .ok (countTx (i.sender a),
        .securityProtected ⟨hdr, mac, (countTx (i.sender a)).txCount,
          nasEnc⟩) := by
  obtain ⟨mac, hmac⟩ := fNasMacCalc_known env hint a.kNasInt
    (countTx (i.sender a)).txCount 0 (fTxIsDownlink a)
    (UInt8.ofNat ((countTx (i.sender a)).txCount % 256).toNat :: nasEnc)
  exact ⟨mac, hmac, fNasEncaps_ok rfl henc hhdr hmac⟩

/-- The receiver accepts the MAC of its sender under the same count. -/
theorem Paired.checkIp_ok {a b : NasUeState} {c : Int}
    {nasMessage mac : List UInt8} (h : Paired a b) (hdr : Fin 16)
    (hc : b.rxCount = c) (hpos : 0 ≤ c) (hoct : c < 256) (hmac : IsMac env a c nasMessage mac) :
    checkIp env b ⟨hdr, mac, c, nasMessage⟩ = .ok () := by
  refine OsmoNas.checkIp_ok hc (hc ▸ hpos) (hc ▸ hoct) ?_
  rw [hc, h.direction, ← h.algInt, ← h.kNasInt]
  exact hmac

/-- **THE COUNTERS AGREE**: the two contexts stay paired under the sender's
    algorithms, the sender's counter is the number of messages behind the last
    new context, and the receiver's is one ahead. -/
structure PairedStates (algInt : NasAlgInt) (algEnc : NasAlgEnc)
    (s : NasUeState × NasUeState) (behind : Option Nat) : Prop where
  paired : Paired s.1 s.2
  algInt : s.1.algInt = algInt
  algEnc : s.1.algEnc = algEnc
  counts : ∀ n : Nat, behind = some n → s.1.txCount = n ∧ s.2.rxCount = n + 1

variable {a b : NasUeState} {nas : PduNasEps Plain} {algInt : NasAlgInt}
variable {algEnc : NasAlgEnc} {behind : Option Nat}

/-- Within a context the receiver waits for the count that comes next. -/
theorem PairedStates.next {n : Nat}
    (h : PairedStates algInt algEnc (a, b) (some n)) (hn : InCtx (some n)) :
    b.rxCount = a.txCount + 1 ∧ 0 ≤ a.txCount + 1 ∧ a.txCount + 1 < 256 := by
  obtain ⟨htx, hrx⟩ := h.counts n rfl
  have hlt : n < 255 := hn
  simp only at htx hrx
  omega

/-- One message further both counters are one further. -/
theorem PairedStates.countOn {n : Nat} {a' b' : NasUeState}
    (h : PairedStates algInt algEnc (a, b) (some n)) (hpair : Paired a' b')
    (ha : a'.algInt = a.algInt ∧ a'.algEnc = a.algEnc)
    (htx : a'.txCount = a.txCount + 1) (hrx : b'.rxCount = b.rxCount + 1) :
    PairedStates algInt algEnc (a', b') (some (n + 1)) := by
  obtain ⟨hatx, hbrx⟩ := h.counts n rfl
  refine ⟨hpair, ha.1.trans h.algInt, ha.2.trans h.algEnc, fun m hm => ?_⟩
  obtain rfl := Option.some.inj hm
  simp only at hatx hbrx
  constructor
  · show a'.txCount = _
    omega
  · show b'.rxCount = _
    omega

/-- With a new context the counters start again. -/
theorem PairedStates.startAgain {a' b' : NasUeState}
    (h : PairedStates algInt algEnc (a, b) behind) (hpair : Paired a' b')
    (ha : a'.algInt = a.algInt ∧ a'.algEnc = a.algEnc)
    (htx : a'.txCount = 0) (hrx : b'.rxCount = 1) :
    PairedStates algInt algEnc (a', b') (some 0) := by
  refine ⟨hpair, ha.1.trans h.algInt, ha.2.trans h.algEnc, fun m hm => ?_⟩
  obtain rfl := Option.some.inj hm
  exact ⟨htx, hrx⟩

/-- '0001'B: the counters go on together. -/
theorem nasStep_ip {n : Nat} (h : PairedStates algInt algEnc (a, b) (some n))
    (hint : KnownInt algInt) (hn : InCtx (some n))
    (hcodec : env.decPdu (env.encPdu nas) = .ok nas) :
    StepOk (nasStep env) nasSpec (PairedStates algInt algEnc) (a, b) (some n)
      ⟨nas, false, false⟩ := by
  obtain ⟨hrx, hpos, hoct⟩ := h.next hn
  obtain ⟨mac, hmac, hencaps⟩ := sender_ok env
    ⟨nas, false, false⟩ (h.algInt.symm ▸ hint) rfl rfl
  have hp : Paired a b := h.paired
  have hpair : Paired a { b with newCtx := false } :=
    ⟨hp.role, hp.algInt, hp.kNasInt, hp.algEnc, hp.kNasEnc⟩
  have hcheck := hpair.checkIp_ok 1 hrx hpos hoct hmac
  exact ⟨_, nasStep_eq hencaps (decapsIp_ok hcheck hcodec), h.countOn
    ⟨hp.role, hp.algInt, hp.kNasInt, hp.algEnc, hp.kNasEnc⟩ ⟨rfl, rfl⟩ rfl rfl⟩

/-- '0010'B without a cipher is '0001'B. -/
theorem nasStep_ipCiphered {n : Nat}
    (h : PairedStates algInt algEnc (a, b) (some n)) (hint : KnownInt algInt)
    (hnull : algEnc = .eea0) (hn : InCtx (some n))
    (hcodec : env.decPdu (env.encPdu nas) = .ok nas) :
    StepOk (nasStep env) nasSpec (PairedStates algInt algEnc) (a, b) (some n)
      ⟨nas, true, false⟩ := by
  obtain ⟨hrx, hpos, hoct⟩ := h.next hn
  have hnullA : a.algEnc = .eea0 := h.algEnc.trans hnull
  have hplain : (encryptIfUsed env
      (countTx (NasInput.sender ⟨nas, true, false⟩ a)) (env.encPdu nas)).map
        Prod.fst = .ok (env.encPdu nas) := by
    show fNasEncrypt env a.algEnc _ _ _ _ _ = _
    rw [hnullA]
    rfl
  obtain ⟨mac, hmac, hencaps⟩ := sender_ok env
    ⟨nas, true, false⟩ (h.algInt.symm ▸ hint) hplain rfl
  have hp : Paired a b := h.paired
  have hpair : Paired a { b with newCtx := false } :=
    ⟨hp.role, hp.algInt, hp.kNasInt, hp.algEnc, hp.kNasEnc⟩
  have hcheck := hpair.checkIp_ok 2 hrx hpos hoct hmac
  have hnullB : { b with newCtx := false }.algEnc = .eea0 :=
    hp.algEnc.symm.trans hnullA
  have hdecaps := (decapsIpCiphered_eea0 env hnullB _).trans
    (decapsIp_ok hcheck hcodec)
  exact ⟨_, nasStep_eq hencaps hdecaps, h.countOn
    ⟨hp.role, hp.algInt, hp.kNasInt, hp.algEnc, hp.kNasEnc⟩ ⟨rfl, rfl⟩ rfl rfl⟩

/-- '0011'B: both counters start again, and the receiver takes EIA1. -/
theorem nasStep_ipNewCtx (h : PairedStates algInt algEnc (a, b) behind)
    (hint : algInt = .eia1) (hcodec : env.decPdu (env.encPdu nas) = .ok nas) :
    StepOk (nasStep env) nasSpec (PairedStates algInt algEnc) (a, b) behind
      ⟨nas, false, true⟩ := by
  have hintA : a.algInt = .eia1 := h.algInt.trans hint
  obtain ⟨mac, hmac, hencaps⟩ := sender_ok env
    ⟨nas, false, true⟩ (Or.inr hintA) rfl rfl
  have hp : Paired a b := h.paired
  have hpair : Paired a
      { b with newCtx := true, rxCount := 0, algInt := .eia1 } :=
    ⟨hp.role, hintA, hp.kNasInt, hp.algEnc, hp.kNasEnc⟩
  have hcheck := hpair.checkIp_ok (c := 0) 3 rfl (Int.le_refl 0) (by decide) hmac
  exact ⟨_, nasStep_eq hencaps (decapsIp_ok hcheck hcodec), h.startAgain
    ⟨hp.role, hintA, hp.kNasInt, hp.algEnc, hp.kNasEnc⟩ ⟨rfl, rfl⟩ rfl rfl⟩

/-- '0100'B: both sides cipher under the count 0. -/
theorem nasStep_ipCipheredNewCtx (hf8 : IsStreamCipher env.snow3gF8)
    (h : PairedStates algInt algEnc (a, b) behind) (hint : KnownInt algInt)
    (henc : KnownEnc algEnc) (hcodec : env.decPdu (env.encPdu nas) = .ok nas) :
    StepOk (nasStep env) nasSpec (PairedStates algInt algEnc) (a, b) behind
      ⟨nas, true, true⟩ := by
  have hencA : KnownEnc a.algEnc := h.algEnc.symm ▸ henc
  obtain ⟨cipher, hcipher, hplain⟩ := fNasEncrypt_known hf8 hencA a.kNasEnc 0 0
    (fTxIsDownlink a) (env.encPdu nas)
  obtain ⟨mac, hmac, hencaps⟩ := sender_ok env
    ⟨nas, true, true⟩ (h.algInt.symm ▸ hint) hcipher rfl
  have hp : Paired a b := h.paired
  have hpair : Paired a { b with newCtx := true, rxCount := 0 } :=
    ⟨hp.role, hp.algInt, hp.kNasInt, hp.algEnc, hp.kNasEnc⟩
  have hcheck := hpair.checkIp_ok (c := 0) 4 rfl (Int.le_refl 0) (by decide) hmac
  rw [hp.algEnc, hp.kNasEnc, ← hp.direction] at hplain
  have hdecaps := decapsIpCipheredNewCtx_ok hcheck hplain hcodec
  exact ⟨_, nasStep_eq hencaps hdecaps, h.startAgain
    ⟨hp.role, hp.algInt, hp.kNasInt, hp.algEnc, hp.kNasEnc⟩ ⟨rfl, rfl⟩ rfl rfl⟩

/-- **ONE MESSAGE** that meets the condition of its header type comes
    through. -/
theorem nasStep_ok (hf8 : IsStreamCipher env.snow3gF8) :
    ∀ s behind i, PairedStates algInt algEnc s behind →
      NasFits algInt algEnc behind i ∧ env.decPdu (env.encPdu i.nas) = .ok i.nas →
      StepOk (nasStep env) nasSpec (PairedStates algInt algEnc) s behind i := by
  rintro ⟨a, b⟩ behind ⟨nas, useEnc, newCtx⟩ h ⟨hfits, hcodec⟩
  cases newCtx with
  | true =>
      cases useEnc with
      | false => exact nasStep_ipNewCtx h hfits hcodec
      | true => exact nasStep_ipCipheredNewCtx hf8 h hfits.1 hfits.2 hcodec
  | false =>
      cases behind with
      | none =>
          -- without a context nothing fits
          cases useEnc with
          | false => exact hfits.2.elim
          | true => exact hfits.2.2.elim
      | some n =>
          cases useEnc with
          | false => exact nasStep_ip h hfits.1 hfits.2 hcodec
          | true => exact nasStep_ipCiphered h hfits.1 hfits.2.1 hfits.2.2 hcodec

end Step

-- ── The round trip ───────────────────────────────────────────────────────────

/-- **NAS SECURITY ROUND TRIP**: a run of any length, from contexts with the
    same keys and algorithms, is accepted message by message, and the receiver
    gets the messages of the sender, if each message fits by its header type,
    the algorithms and the number of messages since the last new context.  The
    two counters agree all the way. -/
theorem nasRoundTrip {Plain : Type} {env : Env Plain}
    (hf8 : IsStreamCipher env.snow3gF8) {a b : NasUeState}
    (hpair : Paired a b) {inputs : List (NasInput Plain)}
    (hcodec : ∀ i ∈ inputs, env.decPdu (env.encPdu i.nas) = .ok i.nas)
    (hfits : SpecGuarded nasSpec (NasFits a.algInt a.algEnc) none inputs) :
    RunOk (nasStep env) nasSpec (PairedStates a.algInt a.algEnc) (a, b) none
      inputs :=
  runOk_of_specGuarded (nasStep_ok hf8) inputs (a, b) none
    ⟨hpair, rfl, rfl, fun _ h => nomatch h⟩ (hfits.and_inputs hcodec)

-- ── SNOW 3G on a few messages ────────────────────────────────────────────────

section Snow3g

/-- The integrity key of the concrete runs. -/
def kNasInt : List UInt8 :=
  [0x00, 0x01, 0x02, 0x03, 0x04, 0x05, 0x06, 0x07,
   0x08, 0x09, 0x0a, 0x0b, 0x0c, 0x0d, 0x0e, 0x0f]

/-- The cipher key of the concrete runs. -/
def kNasEnc : List UInt8 :=
  [0x10, 0x11, 0x12, 0x13, 0x14, 0x15, 0x16, 0x17,
   0x18, 0x19, 0x1a, 0x1b, 0x1c, 0x1d, 0x1e, 0x1f]

/-- a security mode command -/
def smc : List UInt8 := [0x07, 0x5d, 0x11, 0x00, 0x02, 0xe0, 0xe0]

/-- a downlink NAS transport -/
def dlTransport : List UInt8 := [0x07, 0x62, 0x05, 0x09, 0x01, 0x00, 0x00, 0x00]

/-- The SNOW 3G keystream of the first three downlink messages of 8 octets:
    the wrapper passes the length in octets, so one word is used. -/
def snowKeystream (_ : List UInt8) (count _ : Int) (_ : Bool) (n : Nat) :
    List UInt8 :=
  let word : List UInt8 :=
    if count = 0 then [0x57, 0x82, 0x11, 0xd7]
    else if count = 1 then [0xa6, 0xe6, 0xdc, 0xc0]
    else [0xdd, 0x25, 0x5a, 0xd4]
  (word ++ List.replicate n 0).take n

/-- `f_snow_3g_f8` on the concrete key stream. -/
def snowF8 (k : List UInt8) (count bearer : Int) (isDownlink : Bool)
    (data : List UInt8) : List UInt8 :=
  List.zipWith (· ^^^ ·) data
    (snowKeystream k count bearer isDownlink data.length)

/-- The SNOW 3G MAC of these messages, downlink. -/
def snowF9 (_ : List UInt8) (_ _ : Int) (_ : Bool) (data : List UInt8) :
    List UInt8 :=
  if data = 0x00 :: smc then [0x18, 0xbe, 0xaf, 0x5b]
  else if data = 0x01 :: dlTransport then [0x04, 0xd0, 0x30, 0xb6]
  -- the same message enciphered under the count 0 and under the count 1
  else if data = [0x00, 0x50, 0xe0, 0x14, 0xde, 0x01, 0x00, 0x00, 0x00] then
    [0x0c, 0xbf, 0x0b, 0x02]
  else if data = [0x01, 0xa1, 0x84, 0xd9, 0xc9, 0x01, 0x00, 0x00, 0x00] then
    [0xdf, 0x1d, 0xa1, 0x57]
  else [0, 0, 0, 0]

/-- A plain message is its octets; the first one has the protocol
    discriminator, of EMM or of ESM. -/
def encNas : PduNasEps (List UInt8) → List UInt8
  | .plain pdu => pdu
  | .securityProtected pdu =>
      UInt8.ofNat (pdu.securityHeaderType.val * 16 + 7)
        :: (pdu.messageAuthenticationCode
          ++ UInt8.ofNat (pdu.sequenceNumber % 256).toNat :: pdu.nasMessage)

/-- A NAS message, plain or secured, by its first octet. -/
def decNas (octets : List UInt8) :
    Except Fault (PduNasEps (List UInt8)) :=
  let o := octets.headD 0
  if o = 0x07 ∨ o &&& 0x0f = 0x02 then .ok (.plain octets)
  else if o &&& 0x0f = 0x07 ∧ 6 ≤ octets.length then
    .ok (.securityProtected ⟨Fin.ofNat 16 (o.toNat / 16),
      (octets.drop 1).take 4, (octets.getD 5 0).toNat, octets.drop 6⟩)
  else .error (.ttcnError "invalid or incomplete message was received")

/-- The functions that the concrete runs call. -/
def snowEnv : Env (List UInt8) := ⟨snowF8, snowF9, encNas, decNas⟩

/-- The concrete cipher adds a key stream. -/
theorem snowF8_isStreamCipher : IsStreamCipher snowEnv.snow3gF8 := by
  refine ⟨snowKeystream, ?_, fun _ _ _ _ _ => rfl⟩
  intro k c b d n
  show List.length (List.take n (_ ++ List.replicate n 0)) = n
  rw [List.length_take, List.length_append, List.length_replicate]
  exact Nat.min_eq_left (Nat.le_add_left n _)

/-- A context with EEA1 before the first message. -/
def snowContext (algInt : NasAlgInt) (role : NasRole) : NasUeState :=
  { tNasUeState role with
    algInt := algInt, kNasInt := kNasInt, algEnc := .eea1, kNasEnc := kNasEnc }

/-- Both ends start with one context. -/
theorem snowContext_paired (algInt : NasAlgInt) :
    Paired (snowContext algInt .mme) (snowContext algInt .ue) :=
  ⟨fun h => (nomatch h), rfl, rfl, rfl, rfl⟩

end Snow3g

/-- Three messages, the first of a new context. -/
theorem nasRoundTrip_threeMessages :
    RunOk (nasStep snowEnv) nasSpec (PairedStates .eia1 .eea1)
      (snowContext .eia1 .mme, snowContext .eia1 .ue) none
      [⟨.plain smc, false, true⟩, ⟨.plain dlTransport, false, false⟩,
        ⟨.plain dlTransport, true, true⟩] :=
  nasRoundTrip snowF8_isStreamCipher (snowContext_paired .eia1) (by decide)
    (by decide)

/-- EIA2 is refused.  And a ciphered message behind the security mode command
    is enciphered under the count 1, but deciphered under the count 2. -/
theorem eia2_refused_ciphered_lost :
    IsStreamCipher snowEnv.snow3gF8
    ∧ (∀ pdu ∈ [smc, dlTransport],
        snowEnv.decPdu (snowEnv.encPdu (.plain pdu)) = .ok (.plain pdu))
    ∧ (∀ alg, Paired (snowContext alg .mme) (snowContext alg .ue))
    ∧ ¬ RunOk (nasStep snowEnv) nasSpec (fun _ _ => True)
      (snowContext .eia2 .mme, snowContext .eia2 .ue) none
      [⟨.plain smc, false, true⟩]
    ∧ ¬ RunOk (nasStep snowEnv) nasSpec (fun _ _ => True)
      (snowContext .eia1 .mme, snowContext .eia1 .ue) none
      [⟨.plain smc, false, true⟩, ⟨.plain dlTransport, true, false⟩] := by
  refine ⟨snowF8_isStreamCipher, by decide, snowContext_paired, ?_, ?_⟩
  · exact not_runOk_of_error trivial
      (show _ = Except.error (Fault.shutdown "Unsupported EIA: ") by decide)
  · exact not_runOk_of_error trivial
      (show _ = Except.error (Fault.ttcnError
        "invalid or incomplete message was received") by decide)

end OsmoNas
