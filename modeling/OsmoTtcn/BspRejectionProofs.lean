import OsmoTtcn.BspCryptoProofs

/-! # Rejected segments of the BSP channel

    `decrypt_and_verify` throws for a segment that is malformed, for one with a
    wrong MAC, and for one whose payload AES-CBC cannot take.  The MAC chain
    moves as soon as the MAC is found right, and the block counter before the
    payload is deciphered, so that the last of these leaves an instance that
    has moved on: it takes the next segment of the sender no more.

    `verify_unauthentic`, `verify_macOnly`, `verify_blocks` and
    `verify_noBlocks` say what a call does, for any segment, and
    `rejected_intact_iff` when a rejection leaves the instance as it was. -/

namespace OsmoBsp

open OsmoTitan Lockstep

-- ── What a call does ─────────────────────────────────────────────────────────

section Outcome

variable (ssl : Openssl)

/-- The segment is well formed and its MAC is right; `full` is the whole block
    that the MAC is the front of. -/
structure Authentic (s : BspCrypto) (segment : Octets) (tag : UInt8)
    (payload full : Octets) : Prop where
  parse : parseSegment segment = .ok (tag, payload, full.take macLength)
  mac : fullMac ssl s.sMac s.macChain tag payload = .ok full

/-- An instance behind a segment that was taken. -/
def moved (self : BspCrypto) (full : Octets) : BspCrypto :=
  incBlockNumber (setMacChain full self)

/-- The deciphered payload, with its padding. -/
def decryptedOf (self : BspCrypto) (payload : Octets) : Octets :=
  ssl.aesCbcDecrypt self.sEnc (icvOf ssl self) payload

variable {ssl} {self : BspCrypto} {segment : Octets}

/-- What is not authentic is rejected before anything is changed. -/
theorem verify_unauthentic (decrypt : Bool)
    (h : ∀ tag payload full, ¬ Authentic ssl self segment tag payload full) :
    ∃ e, decryptAndVerify ssl segment decrypt self = .error e self := by
  have hget : (get : Bsp BspCrypto) self = .ok self self := rfl
  cases hparse : parseSegment segment with
  | error e =>
      refine ⟨e, ?_⟩
      rw [decryptAndVerify, bind_ok_eq hget, verifyAndDecryptHelper,
        bind_error_eq (lift_error hparse self)]
  | ok r =>
      obtain ⟨tag, payload, receivedMac⟩ := r
      cases hfull : fullMac ssl self.sMac self.macChain tag payload with
      | error e =>
          refine ⟨e, ?_⟩
          rw [decryptAndVerify, bind_ok_eq hget, verifyAndDecryptHelper,
            bind_ok_eq (lift_ok hparse self)]
          show ((get : Bsp BspCrypto) >>= _) self = _
          rw [bind_ok_eq hget, bind_error_eq (lift_error hfull self)]
      | ok full =>
          have hwrong : ¬ receivedMac = full.take macLength := by
            intro heq
            exact h tag payload full ⟨heq ▸ hparse, hfull⟩
          refine ⟨.thrown "MAC verification failed", ?_⟩
          rw [decryptAndVerify, bind_ok_eq hget, verifyAndDecryptHelper,
            bind_ok_eq (lift_ok hparse self)]
          show ((get : Bsp BspCrypto) >>= _) self = _
          rw [bind_ok_eq hget, bind_ok_eq (lift_ok hfull self),
            bind_error_eq (lift_error (require_error hwrong _) self)]

/-- What is not made of blocks is not deciphered. -/
theorem aesCipherOperation_error {input key iv : Octets} {encrypt : Bool}
    (hinput : ¬ input.length % aesBlockSize = 0) :
    ∃ e, aesCipherOperation ssl input key iv encrypt = .error e := by
  cases hop : aesCipherOperation ssl input key iv encrypt with
  | error e => exact ⟨e, rfl⟩
  | ok output =>
      obtain ⟨_, -, hop⟩ := bind_ok hop
      obtain ⟨_, -, hop⟩ := bind_ok hop
      obtain ⟨_, hblocks, -⟩ := bind_ok hop
      exact absurd (require_inv hblocks) hinput

variable {tag : UInt8} {payload full : Octets}

/-- A MAC-only segment that is authentic is taken. -/
theorem verify_macOnly (h : Authentic ssl self segment tag payload full) :
    decryptAndVerify ssl segment false self = .ok payload (moved self full) := by
  rw [decryptAndVerify_eq false h.parse h.mac]
  rfl

variable (laws : ssl.Laws)

include laws in
/-- The ICV is made and counted before the payload is looked at. -/
theorem verify_decrypt (h : Authentic ssl self segment tag payload full) :
    decryptAndVerify ssl segment true self
      = aesDecryptWithIcv ssl payload (icvOf ssl self) (moved self full)
      ∧ (icvOf ssl self).length = aesBlockSize := by
  refine ⟨?_, icvOf_length laws self⟩
  rw [decryptAndVerify_eq true h.parse h.mac]
  show (generateIcv ssl >>= _) (setMacChain full self) = _
  rw [bind_ok_eq (generateIcv_eq _)]
  rfl

include laws in
/-- An authentic segment of whole blocks is taken. -/
theorem verify_blocks (h : Authentic ssl self segment tag payload full)
    (hblocks : payload.length % aesBlockSize = 0) :
    decryptAndVerify ssl segment true self
      = .ok (removePadding (decryptedOf ssl self payload)) (moved self full) := by
  obtain ⟨heq, hicv⟩ := verify_decrypt laws h
  have hget : (get : Bsp BspCrypto) (moved self full)
      = .ok (moved self full) (moved self full) := rfl
  have hplain : aesCipherOperation ssl payload (moved self full).sEnc
      (icvOf ssl self) false = .ok (decryptedOf ssl self payload) :=
    aesCipherOperation_ok self.sEnc_length hicv hblocks
  rw [heq, aesDecryptWithIcv, bind_ok_eq hget, bind_ok_eq (lift_ok hplain _)]
  rfl

include laws in
/-- An authentic segment of other sizes is rejected, behind both changes. -/
theorem verify_noBlocks (h : Authentic ssl self segment tag payload full)
    (hblocks : ¬ payload.length % aesBlockSize = 0) :
    ∃ e, decryptAndVerify ssl segment true self = .error e (moved self full) := by
  obtain ⟨heq, -⟩ := verify_decrypt laws h
  have hget : (get : Bsp BspCrypto) (moved self full)
      = .ok (moved self full) (moved self full) := rfl
  obtain ⟨e, hfail⟩ := @aesCipherOperation_error ssl payload (moved self full).sEnc
    (icvOf ssl self) false hblocks
  refine ⟨e, ?_⟩
  rw [heq, aesDecryptWithIcv, bind_ok_eq hget, bind_error_eq (lift_error hfail _)]

/-- The counter of an instance that moved on is another one. -/
theorem moved_ne : moved self full ≠ self := by
  intro h
  have hnumber : self.blockNumber + 1 = self.blockNumber :=
    congrArg BspCrypto.blockNumber h
  have hone : (1 : UInt32) = 0 := by
    have hzero : self.blockNumber + 1 = self.blockNumber + 0 := by
      rw [hnumber, UInt32.add_zero]
    exact (UInt32.add_right_inj self.blockNumber).mp hzero
  exact absurd hone (by decide)

end Outcome

-- ── Rejections ───────────────────────────────────────────────────────────────

/-- A rejection leaves the instance as it was. -/
def RejectedIntact (ssl : Openssl) (self : BspCrypto) (segment : Octets)
    (decrypt : Bool) : Prop :=
  ∀ e self', decryptAndVerify ssl segment decrypt self = .error e self' → self' = self

/-- What is authentic and is to be deciphered is made of whole blocks. -/
def BlocksWhereAuthentic (ssl : Openssl) (self : BspCrypto) (segment : Octets)
    (decrypt : Bool) : Prop :=
  decrypt = true → ∀ tag payload full, Authentic ssl self segment tag payload full →
    payload.length % aesBlockSize = 0

/-- **EXACTLY WHEN** a rejection leaves the instance as it was. -/
theorem rejected_intact_iff {ssl : Openssl} (laws : ssl.Laws) (self : BspCrypto)
    (segment : Octets) (decrypt : Bool) :
    RejectedIntact ssl self segment decrypt
      ↔ BlocksWhereAuthentic ssl self segment decrypt := by
  constructor
  · intro h hdecrypt tag payload full hauth
    by_contra hblocks
    obtain ⟨e, herror⟩ := verify_noBlocks laws hauth hblocks
    rw [← hdecrypt] at herror
    exact moved_ne (h e _ herror)
  · intro h e self' herror
    by_cases hauth : ∃ tag payload full, Authentic ssl self segment tag payload full
    · obtain ⟨tag, payload, full, hauth⟩ := hauth
      cases decrypt with
      | false =>
          rw [verify_macOnly hauth] at herror
          exact nomatch herror
      | true =>
          rw [verify_blocks laws hauth (h rfl tag payload full hauth)] at herror
          exact nomatch herror
    · obtain ⟨e', hrejected⟩ := verify_unauthentic decrypt
        (fun tag payload full ha => hauth ⟨tag, payload, full, ha⟩)
      rw [hrejected] at herror
      exact (EStateM.Result.error.inj herror).2.symm

/-- The encryption key is of the right size. -/
theorem sEncKey_length : sEncKey.length = aesKeySize := rfl

/-- The MAC key is of the right size. -/
theorem sMacKey_length : sMacKey.length = aesKeySize := rfl

/-- A receiver behind the first segment, and the MAC-only segment that comes
    next. -/
def bspSecond : BspCrypto := ⟨sEncKey, sMacKey, chain1, 2, sEncKey_length, sMacKey_length⟩

/-- The segment that follows the first one. -/
def secondSegment : Octets := octetsOf 5 0x880bbf2503 ++ chain2.take 8

/-- It is authentic for the second instance. -/
theorem secondSegment_authentic :
    Authentic (opensslBy segmentsAes segmentsCmac) bspSecond secondSegment 0x88
      (octetsOf 3 0xbf2503) chain2 where
  parse := by decide
  mac := by decide

/-- A segment that is too short changes nothing. -/
theorem rejected_intact_first :
    RejectedIntact (opensslBy segmentsAes segmentsCmac) bspSecond [0x88, 0x0b] true :=
  (rejected_intact_iff (opensslBy_laws segmentsAes segmentsCmac) bspSecond
    [0x88, 0x0b] true).mpr (fun _ _ _ _ h => nomatch h.parse)

/-- The MAC-only segment, taken for an encrypted one. -/
theorem rejected_moved :
    ¬ RejectedIntact (opensslBy segmentsAes segmentsCmac) bspSecond secondSegment true := by
  intro h
  obtain ⟨e, herror⟩ := verify_noBlocks (opensslBy_laws segmentsAes segmentsCmac)
    secondSegment_authentic (by decide)
  exact moved_ne (h e _ herror)

end OsmoBsp
