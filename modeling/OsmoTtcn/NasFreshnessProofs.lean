import Mathlib.Order.ConditionallyCompleteLattice.Basic
import Mathlib.Data.Int.ConditionallyCompleteOrder
import OsmoTtcn.NasSecurityProofs
import OsmoTtcn.RecordedRunProofs

/-! # NAS keystream freshness, LTE and 5G

    Both stacks protect under the counter `tx_count`, which starts again at 0
    for every message that is built while `new_ctx` is set.  Receiving sets and
    clears the flag; sending does not clear it, although it is there for the
    next header only.  `nasKeystream_fresh`: as long as the flag is found set
    by the first protected message at most, no two messages of a run share
    keys, count and direction. -/

namespace OsmoNas

open OsmoTitan RecordedRun

-- ── 5G: types ────────────────────────────────────────────────────────────────

/-- `NG_NAS_Role` -/
inductive NgNasRole where
  /-- ATS implements/emulates UE -/
  | ue
  /-- ATS implements/emulates AMF -/
  | amf
  deriving DecidableEq, Repr

/-- `NG_NAS_ALG_INT` -/
inductive NgNasAlgInt where
  | nia0 | nia1 | nia2 | nia3
  deriving DecidableEq, Repr

/-- `NG_NAS_ALG_ENC` -/
inductive NgNasAlgEnc where
  | nea0 | nea1 | nea2 | nea3
  deriving DecidableEq, Repr

/-- `NG_NAS_UE_State` -/
structure NgNasUeState where
  role : NgNasRole
  algInt : NgNasAlgInt
  kNasInt : List UInt8
  algEnc : NgNasAlgEnc
  kNasEnc : List UInt8
  /-- frame counter (ATS rx side) -/
  rxCount : Int
  /-- frame counter (ATS tx side) -/
  txCount : Int
  /-- Use "New EPS Security Context" when building next sec_hdr_t -/
  newCtx : Bool
  /-- Whether to use "Integrity" in sec_hdr_t -/
  useInt : Bool
  /-- Whether to use "Ciphering" in sec_hdr_t -/
  useEnc : Bool
  deriving DecidableEq, Repr

/-- `t_NG_NAS_UE_State` -/
def tNgNasUeState (role : NgNasRole) : NgNasUeState where
  role := role
  algInt := .nia0
  kNasInt := List.replicate 32 0
  algEnc := .nea0
  kNasEnc := List.replicate 32 0
  rxCount := 0
  txCount := 0
  newCtx := false
  useInt := false
  useEnc := false

/-- `NG_SECURITY_PROTECTED_NAS_MESSAGE` -/
structure NgSecurityProtectedNasMessage where
  /-- BIT4 -/
  securityHeaderType : Fin 16
  messageAuthenticationCode : List UInt8
  sequenceNumber : UInt8
  plainNASMessage : List UInt8
  deriving DecidableEq, Repr

/-- `NG_NAS_UL_Message_Type` and `NG_NAS_DL_Message_Type`: a security protected
    message or any other of its direction. -/
inductive NgNasMessage (Plain : Type) where
  | plain (pdu : Plain)
  | securityProtected (pdu : NgSecurityProtectedNasMessage)
  deriving DecidableEq, Repr

/-- The external functions, the codecs and a constant of the NAS types. -/
structure NgEnv (Ul Dl : Type) where
  snow3gF8 : (key : List UInt8) → (count bearer : Int) → (isDownlink : Bool) →
    (data : List UInt8) → List UInt8
  snow3gF9 : (key : List UInt8) → (count fresh : Int) → (isDownlink : Bool) →
    (data : List UInt8) → List UInt8
  encUl : NgNasMessage Ul → List UInt8
  decDl : List UInt8 → Except Fault (NgNasMessage Dl)
  /-- `bit2int(tsc_NG_RegResult_3GPP)` -/
  regResult3gpp : Nat

-- ── 5G: the code ─────────────────────────────────────────────────────────────

section NgCode

variable {Ul Dl : Type} (env : NgEnv Ul Dl)

/-- f8 under the arguments of `c`, and `c`. -/
def ngF8Call (c : CryptoCall) (bearer : Int) (data : List UInt8) :
    List UInt8 × List CryptoCall :=
  (env.snow3gF8 c.key c.count bearer c.isDownlink data, [c])

/-- f9 under the arguments of `c`, and `c`. -/
def ngF9Call (c : CryptoCall) (fresh : Int) (data : List UInt8) :
    List UInt8 × List CryptoCall :=
  (env.snow3gF9 c.key c.count fresh c.isDownlink data, [c])

/-- `f_NG_NAS_mac_calc`, with the call of f9 that it makes. -/
def fNgNasMacCalcCalls (alg : NgNasAlgInt) (kNasInt : List UInt8)
    (seqNr bearer : Int) (isDownlink : Bool) (data : List UInt8) :
    Except Fault (List UInt8 × List CryptoCall) :=
  match alg with
  | .nia0 => .ok ([0, 0, 0, 0], [])
  | .nia1 => (substr kNasInt 16 16).bind (fun key => .ok
      (ngF9Call env ⟨key, seqNr, isDownlink⟩ (bearer * 2 ^ 27 % 2 ^ 32) data))
  | _ => .error (.shutdown "Unsupported EIA: ")

/-- `f_NG_NAS_mac_calc` -/
def fNgNasMacCalc (alg : NgNasAlgInt) (kNasInt : List UInt8)
    (seqNr bearer : Int) (isDownlink : Bool) (data : List UInt8) :
    Except Fault (List UInt8) :=
  (fNgNasMacCalcCalls env alg kNasInt seqNr bearer isDownlink data).map Prod.fst

/-- `f_NG_NAS_encrypt`, with the call of f8 that it makes. -/
def fNgNasEncryptCalls (alg : NgNasAlgEnc) (kNasEnc : List UInt8)
    (count bearer : Int) (isDownlink : Bool) (data : List UInt8) :
    Except Fault (List UInt8 × List CryptoCall) :=
  match alg with
  | .nea0 => .ok (data, [])
  | .nea1 => .ok (ngF8Call env ⟨kNasEnc, count, isDownlink⟩ bearer data)
  | _ => .error (.shutdown "Unsupported EEA: ")

/-- `f_NG_NAS_encrypt` -/
def fNgNasEncrypt (alg : NgNasAlgEnc) (kNasEnc : List UInt8)
    (count bearer : Int) (isDownlink : Bool) (data : List UInt8) :
    Except Fault (List UInt8) :=
  (fNgNasEncryptCalls env alg kNasEnc count bearer isDownlink data).map Prod.fst

/-- `f_rx_is_downlink` of 5G. -/
def fNgRxIsDownlink (nus : NgNasUeState) : Bool :=
  decide (nus.role = .ue)

/-- `f_tx_is_downlink` of 5G. -/
def fNgTxIsDownlink (nus : NgNasUeState) : Bool :=
  !fNgRxIsDownlink nus

/-- `f_NG_NAS_check_ip` -/
def fNgNasCheckIp (nus : NgNasUeState)
    (secpNas : NgSecurityProtectedNasMessage) : Except Fault Bool := do
  let expMac ← fNgNasMacCalc env nus.algInt nus.kNasInt nus.rxCount
    env.regResult3gpp (fNgRxIsDownlink nus)
    (secpNas.sequenceNumber :: secpNas.plainNASMessage)
  .ok (decide (nus.rxCount = secpNas.sequenceNumber.toNat
    ∧ expMac = secpNas.messageAuthenticationCode))

/-- A message that fails the check shuts the test down. -/
def ngCheckIp (nus : NgNasUeState) (secpNas : NgSecurityProtectedNasMessage) :
    Except Fault Unit :=
  (fNgNasCheckIp env nus secpNas).bind (fun ok =>
    if ok then .ok () else .error (.shutdown "f_NG_NAS_check_ip() failed"))

/-- The branches '0001'B and '0011'B, after their assignments. -/
def ngDecapsIp (nus : NgNasUeState) (secpNas : NgSecurityProtectedNasMessage) :
    Except Fault (NgNasUeState × NgNasMessage Dl) := do
  let _ ← ngCheckIp env nus secpNas
  let pdu ← env.decDl secpNas.plainNASMessage
  .ok ({ nus with rxCount := nus.rxCount + 1 }, pdu)

/-- The branches '0010'B and '0100'B, after their assignments: the first
    counts before it deciphers, the second after it. -/
def ngDecapsIpCiphered (count : Int) (nus : NgNasUeState)
    (secpNas : NgSecurityProtectedNasMessage) :
    Except Fault (NgNasUeState × NgNasMessage Dl) := do
  let _ ← ngCheckIp env nus secpNas
  let data ← fNgNasEncrypt env nus.algEnc nus.kNasEnc count env.regResult3gpp
    (fNgRxIsDownlink nus) secpNas.plainNASMessage
  let pdu ← env.decDl data
  .ok ({ nus with rxCount := nus.rxCount + 1 }, pdu)

/-- try to decapsulate (MAC verify, decrypt) NAS message -/
def fNgNasTryDecapsDl (nus : NgNasUeState) (nas : NgNasMessage Dl) :
    Except Fault (NgNasUeState × NgNasMessage Dl) :=
  match nas with
  -- transparently pass through any non-protected NAS
  | .plain _ => .ok (nus, nas)
  | .securityProtected secpNas =>
      match secpNas.securityHeaderType with
      -- IP with new 5GS security context
      | 3 => ngDecapsIp env
          { nus with newCtx := true, rxCount := 0, algInt := .nia1 } secpNas
      -- IP only
      | 1 => ngDecapsIp env { nus with newCtx := false } secpNas
      -- IP + ciphered
      | 2 => ngDecapsIpCiphered env (nus.rxCount + 1)
          { nus with newCtx := false } secpNas
      -- IP + ciphered; new EPS security context
      | 4 => ngDecapsIpCiphered env 0
          { nus with newCtx := true, rxCount := 0 } secpNas
      | _ => .error (.shutdown "Implement SecHdrType for ")

/-- `f_NG_NAS_determine_sec_hdr_t` -/
def fNgNasDetermineSecHdrT (encrypt authenticate newCtx : Bool) :
    Except Fault (Fin 16) :=
  fNasDetermineSecHdrT encrypt authenticate newCtx

/-- The count of the next message that is sent. -/
def ngCountTx (nus : NgNasUeState) : NgNasUeState :=
  { nus with txCount := nextCount nus.newCtx nus.txCount }

/-- A message is encrypted once a cipher is in use. -/
def ngEncryptIfUsed (nus : NgNasUeState) (nasEnc : List UInt8) :
    Except Fault (List UInt8 × List CryptoCall) :=
  if nus.useEnc then
    fNgNasEncryptCalls env nus.algEnc nus.kNasEnc nus.txCount
      env.regResult3gpp (fNgTxIsDownlink nus) nasEnc
  else .ok (nasEnc, [])

/-- Ciphering without integrity is not supported. -/
def ngRequireInt (nus : NgNasUeState) : Except Fault Unit :=
  if nus.useInt then .ok () else .error (.shutdown "Not supported")

/-- The protected message, under the counter of `nus`, and the calls of f8 and
    f9 that were made for it. -/
def ngProtect (nus : NgNasUeState) (nasIn : NgNasMessage Ul) :
    Except Fault ((NgNasUeState × NgNasMessage Ul) × List CryptoCall) := do
  let (nasEnc, ciphered) ← ngEncryptIfUsed env nus (env.encUl nasIn)
  let _ ← ngRequireInt nus
  let seqNr := UInt8.ofNat (nus.txCount % 256).toNat
  let secHdrT ← fNgNasDetermineSecHdrT nus.useEnc nus.useInt nus.newCtx
  let (mac, signed) ← fNgNasMacCalcCalls env nus.algInt nus.kNasInt nus.txCount
    env.regResult3gpp (fNgTxIsDownlink nus) (seqNr :: nasEnc)
  .ok ((nus, .securityProtected ⟨secHdrT, mac, seqNr, nasEnc⟩),
    ciphered ++ signed)

/-- `f_NG_NAS_encaps_ul`, with the calls of f8 and f9 that it makes. -/
def fNgNasEncapsUlCalls (nus : NgNasUeState) (nasIn : NgNasMessage Ul) :
    Except Fault ((NgNasUeState × NgNasMessage Ul) × List CryptoCall) :=
  if nus.useEnc = false ∧ nus.useInt = false then
    .ok ((ngCountTx nus, nasIn), [])
  else ngProtect env (ngCountTx nus) nasIn

/-- encapsulate a NAS message (encrypt, MAC) -/
def fNgNasEncapsUl (nus : NgNasUeState) (nasIn : NgNasMessage Ul) :
    Except Fault (NgNasUeState × NgNasMessage Ul) :=
  (fNgNasEncapsUlCalls env nus nasIn).map Prod.fst

end NgCode

-- ── What one step does to the counters ───────────────────────────────────────

section Counters

variable {Plain Ul Dl : Type} {env : Env Plain} {ng : NgEnv Ul Dl}

/-- f9 is called under the counter that it is to be called under. -/
theorem fNasMacCalcCalls_count {alg : NasAlgInt} {k : List UInt8}
    {c bearer : Int} {d : Bool} {data : List UInt8}
    {r : List UInt8 × List CryptoCall}
    (h : fNasMacCalcCalls env alg k c bearer d data = .ok r) :
    ∀ call ∈ r.2, call.count = c := by
  rw [fNasMacCalcCalls.eq_def] at h
  split at h
  · cases h
    exact fun _ hmem => absurd hmem List.not_mem_nil
  · cases h
    intro call hmem
    rw [List.mem_singleton.mp hmem]
  · exact nomatch h

/-- Encrypting calls the cipher with the count that it was given. -/
theorem fNasEncryptCalls_count {alg : NasAlgEnc} {k : List UInt8}
    {c bearer : Int} {d : Bool} {data : List UInt8}
    {r : List UInt8 × List CryptoCall}
    (h : fNasEncryptCalls env alg k c bearer d data = .ok r) :
    ∀ call ∈ r.2, call.count = c := by
  rw [fNasEncryptCalls.eq_def] at h
  split at h
  · cases h
    exact fun _ hmem => absurd hmem List.not_mem_nil
  · cases h
    intro call hmem
    rw [List.mem_singleton.mp hmem]
  · exact nomatch h

/-- So does the MAC of 5G. -/
theorem fNgNasMacCalcCalls_count {alg : NgNasAlgInt} {k : List UInt8}
    {c bearer : Int} {d : Bool} {data : List UInt8}
    {r : List UInt8 × List CryptoCall}
    (h : fNgNasMacCalcCalls ng alg k c bearer d data = .ok r) :
    ∀ call ∈ r.2, call.count = c := by
  rw [fNgNasMacCalcCalls.eq_def] at h
  split at h
  · cases h
    exact fun _ hmem => absurd hmem List.not_mem_nil
  · obtain ⟨key, -, h⟩ := bind_ok h
    cases h
    intro call hmem
    rw [List.mem_singleton.mp hmem]
  · exact nomatch h

/-- So does encrypting of 5G. -/
theorem fNgNasEncryptCalls_count {alg : NgNasAlgEnc} {k : List UInt8}
    {c bearer : Int} {d : Bool} {data : List UInt8}
    {r : List UInt8 × List CryptoCall}
    (h : fNgNasEncryptCalls ng alg k c bearer d data = .ok r) :
    ∀ call ∈ r.2, call.count = c := by
  rw [fNgNasEncryptCalls.eq_def] at h
  split at h
  · cases h
    exact fun _ hmem => absurd hmem List.not_mem_nil
  · cases h
    intro call hmem
    rw [List.mem_singleton.mp hmem]
  · exact nomatch h

/-- **ENCAPSULATING** moves the counter and nothing else of the context, and
    calls f8 and f9 under the new counter only. -/
theorem fNasEncapsCalls_ok {nus : NasUeState} {nasIn : PduNasEps Plain}
    {r : (NasUeState × PduNasEps Plain) × List CryptoCall}
    (h : fNasEncapsCalls env nus nasIn = .ok r) :
    r.1.1 = countTx nus ∧ ∀ call ∈ r.2, call.count = (countTx nus).txCount := by
  rw [fNasEncapsCalls] at h
  split at h
  · cases h
    exact ⟨rfl, fun _ hmem => absurd hmem List.not_mem_nil⟩
  · obtain ⟨⟨nasEnc, ciphered⟩, hciphered, h⟩ := bind_ok h
    obtain ⟨secHdrT, -, h⟩ := bind_ok h
    obtain ⟨⟨mac, signed⟩, hsigned, h⟩ := bind_ok h
    cases h
    refine ⟨rfl, fun call hmem => ?_⟩
    rcases List.mem_append.mp hmem with hin | hin
    · rw [encryptIfUsed] at hciphered
      split at hciphered
      · exact fNasEncryptCalls_count hciphered call hin
      · cases hciphered
        exact absurd hin List.not_mem_nil
    · rw [macIfUsed] at hsigned
      split at hsigned
      · exact fNasMacCalcCalls_count hsigned call hin
      · cases hsigned
        exact absurd hin List.not_mem_nil

/-- What was encapsulated was counted, or is sent as it is. -/
theorem fNgNasEncapsUlCalls_ok {nus : NgNasUeState} {nasIn : NgNasMessage Ul}
    {r : (NgNasUeState × NgNasMessage Ul) × List CryptoCall}
    (h : fNgNasEncapsUlCalls ng nus nasIn = .ok r) :
    r.1.1 = ngCountTx nus
      ∧ ∀ call ∈ r.2, call.count = (ngCountTx nus).txCount := by
  rw [fNgNasEncapsUlCalls] at h
  split at h
  · cases h
    exact ⟨rfl, fun _ hmem => absurd hmem List.not_mem_nil⟩
  · obtain ⟨⟨nasEnc, ciphered⟩, hciphered, h⟩ := bind_ok h
    obtain ⟨u, -, h⟩ := bind_ok h
    obtain ⟨secHdrT, -, h⟩ := bind_ok h
    obtain ⟨⟨mac, signed⟩, hsigned, h⟩ := bind_ok h
    cases h
    refine ⟨rfl, fun call hmem => ?_⟩
    rcases List.mem_append.mp hmem with hin | hin
    · rw [ngEncryptIfUsed] at hciphered
      split at hciphered
      · exact fNgNasEncryptCalls_count hciphered call hin
      · cases hciphered
        exact absurd hin List.not_mem_nil
    · exact fNgNasMacCalcCalls_count hsigned call hin

/-- Receiving does not count what is sent. -/
theorem decapsIp_txCount {nus : NasUeState}
    {secpNas : SecurityProtectedNasMessage} {r : NasUeState × PduNasEps Plain}
    (h : decapsIp env nus secpNas = .ok r) : r.1.txCount = nus.txCount := by
  obtain ⟨u, -, h⟩ := bind_ok h
  obtain ⟨pdu, -, h⟩ := bind_ok h
  exact congrArg (fun r => r.1.txCount) (Except.ok.inj h).symm

/-- Decapsulating leaves the transmit counter alone, in every branch. -/
theorem fNasTryDecaps_txCount {nus : NasUeState} {nas : PduNasEps Plain}
    {r : NasUeState × PduNasEps Plain}
    (h : fNasTryDecaps env nus nas = .ok r) : r.1.txCount = nus.txCount := by
  cases nas with
  | plain pdu => exact congrArg (fun r => r.1.txCount) (Except.ok.inj h).symm
  | securityProtected secpNas =>
      rw [fNasTryDecaps] at h
      split at h
      · exact (decapsIp_txCount h).trans rfl
      · exact (decapsIp_txCount h).trans rfl
      · obtain ⟨u, -, h⟩ := bind_ok h
        obtain ⟨data, -, h⟩ := bind_ok h
        obtain ⟨pdu, -, h⟩ := bind_ok h
        exact congrArg (fun r => r.1.txCount) (Except.ok.inj h).symm
      · obtain ⟨u, -, h⟩ := bind_ok h
        obtain ⟨data, -, h⟩ := bind_ok h
        obtain ⟨pdu, -, h⟩ := bind_ok h
        exact congrArg (fun r => r.1.txCount) (Except.ok.inj h).symm
      · exact nomatch h

/-- Nor does it in 5G. -/
theorem ngDecapsIp_txCount {nus : NgNasUeState}
    {secpNas : NgSecurityProtectedNasMessage}
    {r : NgNasUeState × NgNasMessage Dl}
    (h : ngDecapsIp ng nus secpNas = .ok r) : r.1.txCount = nus.txCount := by
  obtain ⟨u, -, h⟩ := bind_ok h
  obtain ⟨pdu, -, h⟩ := bind_ok h
  exact congrArg (fun r => r.1.txCount) (Except.ok.inj h).symm

/-- Nor does it for a ciphered message. -/
theorem ngDecapsIpCiphered_txCount {count : Int} {nus : NgNasUeState}
    {secpNas : NgSecurityProtectedNasMessage}
    {r : NgNasUeState × NgNasMessage Dl}
    (h : ngDecapsIpCiphered ng count nus secpNas = .ok r) :
    r.1.txCount = nus.txCount := by
  obtain ⟨u, -, h⟩ := bind_ok h
  obtain ⟨data, -, h⟩ := bind_ok h
  obtain ⟨pdu, -, h⟩ := bind_ok h
  exact congrArg (fun r => r.1.txCount) (Except.ok.inj h).symm

/-- Nor for any message at all. -/
theorem fNgNasTryDecapsDl_txCount {nus : NgNasUeState} {nas : NgNasMessage Dl}
    {r : NgNasUeState × NgNasMessage Dl}
    (h : fNgNasTryDecapsDl ng nus nas = .ok r) :
    r.1.txCount = nus.txCount := by
  cases nas with
  | plain pdu => exact congrArg (fun r => r.1.txCount) (Except.ok.inj h).symm
  | securityProtected secpNas =>
      rw [fNgNasTryDecapsDl] at h
      split at h
      · exact (ngDecapsIp_txCount h).trans rfl
      · exact (ngDecapsIp_txCount h).trans rfl
      · exact (ngDecapsIpCiphered_txCount h).trans rfl
      · exact (ngDecapsIpCiphered_txCount h).trans rfl
      · exact nomatch h

end Counters

-- ── Runs ─────────────────────────────────────────────────────────────────────

/-- What happens to one context. -/
inductive NasEvent (Tx Rx AlgInt AlgEnc : Type) where
  | encaps (nas : Tx)
  | decaps (nas : Rx)
  /-- `set_nas_alg_int` of the emulations -/
  | setAlgInt (alg : AlgInt)
  /-- `set_nas_alg_enc` of the emulations -/
  | setAlgEnc (alg : AlgEnc)
  deriving DecidableEq, Repr

/-- A new context is in force for the first protected message at most. -/
def NewCtxFirst {Tx Rx AlgInt AlgEnc : Type} (newCtx : Bool)
    (uses : List (List CryptoCall)) : NasEvent Tx Rx AlgInt AlgEnc → Prop
  | .encaps _ => newCtx = true → uses = []
  | _ => True

instance decNewCtxFirst {Tx Rx AlgInt AlgEnc : Type} (newCtx : Bool)
    (uses : List (List CryptoCall)) :
    ∀ e : NasEvent Tx Rx AlgInt AlgEnc, Decidable (NewCtxFirst newCtx uses e)
  | .encaps _ => inferInstanceAs (Decidable (_ → _))
  | .decaps _ => isTrue trivial
  | .setAlgInt _ => isTrue trivial
  | .setAlgEnc _ => isTrue trivial

section Runs

variable {Plain Ul Dl : Type} (env : Env Plain) (ng : NgEnv Ul Dl)

/-- What a UE of LTE does. -/
abbrev LteEvent (Plain : Type) :=
  NasEvent (PduNasEps Plain) (PduNasEps Plain) NasAlgInt NasAlgEnc

/-- What a UE of 5G does. -/
abbrev NgEvent (Ul Dl : Type) :=
  NasEvent (NgNasMessage Ul) (NgNasMessage Dl) NgNasAlgInt NgNasAlgEnc

/-- The calls of a message that is protected. -/
def callsOf (useEnc useInt : Bool) (calls : List CryptoCall) :
    Option (List CryptoCall) :=
  if useEnc = false ∧ useInt = false then none else some calls

/-- A step, and the calls of f8 and f9 for the message that it protects. -/
def lteStep (nus : NasUeState) : LteEvent Plain →
    Except Fault (NasUeState × Option (List CryptoCall))
  | .encaps nas => (fNasEncapsCalls env nus nas).map
      (fun r => (r.1.1, callsOf nus.useEnc nus.useInt r.2))
  | .decaps nas => (fNasTryDecaps env nus nas).map (fun r => (r.1, none))
  | .setAlgInt alg => .ok ({ nus with algInt := alg, useInt := true }, none)
  | .setAlgEnc alg => .ok ({ nus with algEnc := alg, useEnc := true }, none)

/-- One event of a UE of 5G, with the calls of the ciphers. -/
def ngStep (nus : NgNasUeState) : NgEvent Ul Dl →
    Except Fault (NgNasUeState × Option (List CryptoCall))
  | .encaps nas => (fNgNasEncapsUlCalls ng nus nas).map
      (fun r => (r.1.1, callsOf nus.useEnc nus.useInt r.2))
  | .decaps nas => (fNgNasTryDecapsDl ng nus nas).map (fun r => (r.1, none))
  | .setAlgInt alg => .ok ({ nus with algInt := alg, useInt := true }, none)
  | .setAlgEnc alg => .ok ({ nus with algEnc := alg, useEnc := true }, none)

/-- In LTE a context that is new is new before anything was sent. -/
def lteGuard (nus : NasUeState) (uses : List (List CryptoCall)) (e : LteEvent Plain) :
    Prop :=
  NewCtxFirst nus.newCtx uses e

/-- So it is in 5G. -/
def ngGuard (nus : NgNasUeState) (uses : List (List CryptoCall)) (e : NgEvent Ul Dl) :
    Prop :=
  NewCtxFirst nus.newCtx uses e

instance (nus : NasUeState) (uses : List (List CryptoCall)) (e : LteEvent Plain) :
    Decidable (lteGuard nus uses e) :=
  decNewCtxFirst nus.newCtx uses e

instance (nus : NgNasUeState) (uses : List (List CryptoCall)) (e : NgEvent Ul Dl) :
    Decidable (ngGuard nus uses e) :=
  decNewCtxFirst nus.newCtx uses e

end Runs

-- ── Freshness ────────────────────────────────────────────────────────────────

section Fresh

variable {Plain Ul Dl : Type} {env : Env Plain} {ng : NgEnv Ul Dl}

/-- The counter goes up, or starts again before the first use. -/
theorem nextCount_up {newCtx : Bool} {uses : List (List CryptoCall)}
    (h : newCtx = true → uses = []) (txCount : Int) :
    txCount < nextCount newCtx txCount ∨ uses = [] := by
  cases newCtx with
  | true => exact Or.inr (h rfl)
  | false => exact Or.inl (Int.lt_succ txCount)

/-- A message makes a call under this counter. -/
def CallAt (calls : List CryptoCall) (count : Int) : Prop :=
  ∃ c ∈ calls, c.count = count

/-- All calls of a message are made with its count. -/
theorem callsOf_at {useEnc useInt : Bool} {calls : List CryptoCall} {count : Int}
    (h : ∀ c ∈ calls, c.count = count) (t : List CryptoCall)
    (ht : callsOf useEnc useInt calls = some t) :
    ∀ k, CallAt t k → k = count := by
  rintro k ⟨c, hc, rfl⟩
  rw [callsOf] at ht
  split at ht
  · exact nomatch ht
  · cases ht
    exact h c hc

/-- **ONE LTE STEP**: only encapsulating counts, and it counts before it
    protects. -/
theorem lteStep_counts (nus : NasUeState) (uses : List (List CryptoCall))
    (e : LteEvent Plain) (nus' : NasUeState) (o : Option (List CryptoCall))
    (hguard : lteGuard nus uses e) (h : lteStep env nus e = .ok (nus', o)) :
    StepCounts NasUeState.txCount CallAt nus nus' uses o := by
  cases e with
  | encaps nas =>
      obtain ⟨r, hr, hres⟩ := map_ok h
      obtain ⟨rfl, rfl⟩ := Prod.mk.inj hres
      obtain ⟨hstate, hcalls⟩ := fNasEncapsCalls_ok hr
      rw [hstate]
      exact Or.inr ⟨fun t ht => callsOf_at hcalls t ht,
        nextCount_up hguard nus.txCount⟩
  | decaps nas =>
      obtain ⟨r, hr, hres⟩ := map_ok h
      obtain ⟨rfl, rfl⟩ := Prod.mk.inj hres
      exact Or.inl ⟨rfl, fNasTryDecaps_txCount hr⟩
  | setAlgInt alg =>
      obtain ⟨rfl, rfl⟩ := Prod.mk.inj (Except.ok.inj h)
      exact Or.inl ⟨rfl, rfl⟩
  | setAlgEnc alg =>
      obtain ⟨rfl, rfl⟩ := Prod.mk.inj (Except.ok.inj h)
      exact Or.inl ⟨rfl, rfl⟩

/-- **ONE 5G STEP.** -/
theorem ngStep_counts (nus : NgNasUeState) (uses : List (List CryptoCall))
    (e : NgEvent Ul Dl) (nus' : NgNasUeState) (o : Option (List CryptoCall))
    (hguard : ngGuard nus uses e) (h : ngStep ng nus e = .ok (nus', o)) :
    StepCounts NgNasUeState.txCount CallAt nus nus' uses o := by
  cases e with
  | encaps nas =>
      obtain ⟨r, hr, hres⟩ := map_ok h
      obtain ⟨rfl, rfl⟩ := Prod.mk.inj hres
      obtain ⟨hstate, hcalls⟩ := fNgNasEncapsUlCalls_ok hr
      rw [hstate]
      exact Or.inr ⟨fun t ht => callsOf_at hcalls t ht,
        nextCount_up hguard nus.txCount⟩
  | decaps nas =>
      obtain ⟨r, hr, hres⟩ := map_ok h
      obtain ⟨rfl, rfl⟩ := Prod.mk.inj hres
      exact Or.inl ⟨rfl, fNgNasTryDecapsDl_txCount hr⟩
  | setAlgInt alg =>
      obtain ⟨rfl, rfl⟩ := Prod.mk.inj (Except.ok.inj h)
      exact Or.inl ⟨rfl, rfl⟩
  | setAlgEnc alg =>
      obtain ⟨rfl, rfl⟩ := Prod.mk.inj (Except.ok.inj h)
      exact Or.inl ⟨rfl, rfl⟩

end Fresh

/-- No two messages have a call of f8 or f9 with the same key, count and
    direction. -/
def Apart (messages : List (List CryptoCall)) : Prop :=
  messages.Pairwise fun calls later => ∀ c ∈ calls, c ∉ later

instance (messages : List (List CryptoCall)) : Decidable (Apart messages) :=
  inferInstanceAs (Decidable (List.Pairwise _ _))

/-- Messages with counts of their own have calls of their own. -/
theorem apart_of_at {messages : List (List CryptoCall)}
    (h : messages.Pairwise fun t t' => ∀ k, CallAt t k → ¬ CallAt t' k) :
    Apart messages :=
  h.imp fun hapart c hc hc' => hapart c.count ⟨c, hc, rfl⟩ ⟨c, hc', rfl⟩

/-- **NAS KEYSTREAM FRESHNESS**: from any context, in any order of events, f8
    and f9 are called for no two messages of a run with the same key, count and
    direction, as long as a new context is in force for the first of them at
    most. -/
theorem nasKeystream_fresh {Plain Ul Dl : Type} (env : Env Plain)
    (ng : NgEnv Ul Dl) :
    (∀ (nus : NasUeState) (events : List (LteEvent Plain)),
      Guarded (lteStep env) lteGuard nus [] events →
      Apart (record (lteStep env) nus events))
    ∧ (∀ (nus : NgNasUeState) (events : List (NgEvent Ul Dl)),
      Guarded (ngStep ng) ngGuard nus [] events →
      Apart (record (ngStep ng) nus events)) :=
  ⟨fun _ _ h => apart_of_at (apart_record lteStep_counts h),
    fun _ _ h => apart_of_at (apart_record ngStep_counts h)⟩

-- ── Two attach procedures ────────────────────────────────────────────────────

section Attach

/-- The SNOW 3G MACs of the uplink messages beside those of `snowF9`. -/
def snowF9Ul (k : List UInt8) (count fresh : Int) (isDownlink : Bool)
    (data : List UInt8) : List UInt8 :=
  if data = [0x00, 0x07, 0x5e] then [0xcb, 0xcf, 0x88, 0x0f]
  else if data = [0x00, 0x07, 0x53] then [0x72, 0x41, 0xbc, 0x5e]
  else if data = [0x01, 0x07, 0x53] then [0x37, 0x31, 0xad, 0x1b]
  else snowF9 k count fresh isDownlink data

/-- The functions that the run of LTE calls. -/
def attachEnv : Env (List UInt8) := { snowEnv with snow3gF9 := snowF9Ul }

/-- a UE before the security mode command -/
def attachUe : NasUeState :=
  { tNasUeState .ue with kNasInt := kNasInt, kNasEnc := kNasEnc }

/-- the security mode command under a new context -/
def smcSecured : PduNasEps (List UInt8) :=
  .securityProtected ⟨3, [0x18, 0xbe, 0xaf, 0x5b], 0, smc⟩

/-- a downlink NAS transport that is not under a new context -/
def dlSecured : PduNasEps (List UInt8) :=
  .securityProtected ⟨1, [0x04, 0xd0, 0x30, 0xb6], 1, dlTransport⟩

/-- a security mode complete and another uplink message -/
def smcComplete : List UInt8 := [0x07, 0x5e]

/-- An uplink message with nothing but a type. -/
def identityUl : List UInt8 := [0x07, 0x53]

/-- The SNOW 3G MACs of the 5G messages, under the second half of the key. -/
def ngF9 (_ : List UInt8) (_ _ : Int) (_ : Bool) (data : List UInt8) :
    List UInt8 :=
  if data = [0x00, 0x7e, 0x00, 0x5d, 0x01, 0x00, 0x02, 0xf0, 0xf0] then
    [0x89, 0xbb, 0x10, 0xd1]
  else if data = [0x01, 0x7e, 0x00, 0x54] then [0x4e, 0xe3, 0xae, 0x5c]
  else if data = [0x00, 0x7e, 0x00, 0x5e] then [0x3a, 0x85, 0x92, 0xea]
  else if data = [0x01, 0x7e, 0x00, 0x55] then [0xe6, 0xfb, 0xb5, 0x9a]
  else [0, 0, 0, 0]

/-- The functions that the run of 5G calls. -/
def ngAttachEnv : NgEnv (List UInt8) (List UInt8) where
  snow3gF8 := snowF8
  snow3gF9 := ngF9
  encUl
    | .plain pdu => pdu
    | .securityProtected pdu =>
        0x7e :: UInt8.ofNat pdu.securityHeaderType.val
          :: (pdu.messageAuthenticationCode
            ++ pdu.sequenceNumber :: pdu.plainNASMessage)
  decDl octets := .ok (.plain octets)
  regResult3gpp := 1

/-- A UE of 5G with keys. -/
def ngAttachUe : NgNasUeState :=
  { tNgNasUeState .ue with
    kNasInt := kNasInt ++ kNasEnc, kNasEnc := kNasInt ++ kNasEnc }

end Attach

/-- An attach in LTE and one in 5G. -/
theorem nasKeystream_fresh_attach :
    Apart (record (lteStep attachEnv) attachUe
      [.setAlgInt .eia1, .decaps smcSecured, .encaps (.plain smcComplete),
        .decaps dlSecured, .encaps (.plain identityUl)])
    ∧ Apart (record (ngStep ngAttachEnv) ngAttachUe
      [.setAlgInt .nia1,
        .decaps (.securityProtected ⟨3, [0x89, 0xbb, 0x10, 0xd1], 0,
          [0x7e, 0x00, 0x5d, 0x01, 0x00, 0x02, 0xf0, 0xf0]⟩),
        .encaps (.plain [0x7e, 0x00, 0x5e]),
        .decaps (.securityProtected ⟨1, [0x4e, 0xe3, 0xae, 0x5c], 1,
          [0x7e, 0x00, 0x54]⟩),
        .encaps (.plain [0x7e, 0x00, 0x55])]) :=
  ⟨(nasKeystream_fresh attachEnv ngAttachEnv).1 _ _ (by decide),
    (nasKeystream_fresh attachEnv ngAttachEnv).2 _ _ (by decide)⟩

/-- Two messages behind the security mode command, nothing received in between:
    both go out under the count 0. -/
theorem secondUplink_reuses_count :
    ¬ Apart (record (lteStep attachEnv) attachUe
      [.setAlgInt .eia1, .decaps smcSecured, .encaps (.plain smcComplete),
        .encaps (.plain identityUl)]) := by
  decide

end OsmoNas
