import OsmoTtcn.LockstepProofs
import OsmoTtcn.TitanProofs

/-! # The BSP secure channel

    A `BspCrypto` instance protects data segment by segment: encrypted and
    with a MAC, or with a MAC only.  Every segment moves a chain of MACs and a
    block counter, on the side that makes it and on the side that takes it.
    AES and CMAC are those of OpenSSL and are parameters.

    The two sides are written apart: the sender numbers a MAC-only segment
    behind its MAC, the receiver numbers every segment behind the verification.
    `bspRoundTrip` shows that they stay together over any sequence of calls. -/

namespace OsmoBsp

open OsmoTitan Lockstep WireOctet

/-- A string of octets, `std::vector<uint8_t>`. -/
abbrev Octets := List UInt8

-- ── Types ────────────────────────────────────────────────────────────────────

/-- `AES_KEY_SIZE` -/
def aesKeySize : Nat := 16

/-- `AES_BLOCK_SIZE` -/
def aesBlockSize : Nat := 16

/-- `MAC_LENGTH` -/
def macLength : Nat := 8

/-- `MAX_SEGMENT_SIZE` -/
def maxSegmentSize : Nat := 1020

/-- AES-128-CBC without padding on whole blocks, and AES-CMAC. -/
structure Openssl where
  aesCbcEncrypt : (key iv blocks : Octets) → Octets
  aesCbcDecrypt : (key iv blocks : Octets) → Octets
  cmac : (key data : Octets) → Octets

/-- The keys have the sizes that the constructor asserts and nothing
    changes. -/
structure BspCrypto where
  sEnc : Octets
  sMac : Octets
  macChain : Octets
  /-- uint32_t -/
  blockNumber : UInt32
  sEnc_length : sEnc.length = aesKeySize
  sMac_length : sMac.length = aesKeySize
  deriving DecidableEq

/-- What a method does to its instance, which it keeps when it throws. -/
abbrev Bsp := EStateM Fault BspCrypto

-- ── The code ─────────────────────────────────────────────────────────────────

/-- A static function that may throw. -/
def lift {α : Type} : Except Fault α → Bsp α
  | .ok a => pure a
  | .error e => throw e

/-- A check that throws when it fails. -/
def require (c : Prop) [Decidable c] (msg : String) : Except Fault Unit :=
  if c then .ok () else .error (.thrown msg)

/-- The constructor. -/
def BspCrypto.new (sEncKey sMacKey initialMcv : Octets) :
    Except Fault BspCrypto :=
  if h : sEncKey.length = aesKeySize ∧ sMacKey.length = aesKeySize
      ∧ initialMcv.length = aesBlockSize then
    .ok ⟨sEncKey, sMacKey, initialMcv, 1, h.1, h.2.1⟩
  else .error .assertion

/-- `encode_bertlv_length`, of up to three octets. -/
def encodeBertlvLength (length : Nat) : Except Fault Octets :=
  if length < 0x80 then .ok [UInt8.ofNat length]
  else if length < 0x100 then .ok [0x81, UInt8.ofNat length]
  else if length < 0x10000 then .ok (0x82 :: be16 length)
  else .error (.thrown "Length too large for BERTLV encoding")

/-- `parse_bertlv_length`: the length and where the value starts. -/
def parseBertlvLength (data : Octets) (offset : Nat) :
    Except Fault (Nat × Nat) :=
  match data.drop offset with
  | [] => .error (.thrown "Invalid length offset")
  | firstByte :: rest =>
      if firstByte < 0x80 then .ok (firstByte.toNat, offset + 1)
      else if firstByte = 0x81 then
        match rest with
        | [] => .error (.thrown "Invalid length encoding")
        | length :: _ => .ok (length.toNat, offset + 2)
      else if firstByte = 0x82 then
        match rest with
        | high :: low :: _ => .ok (ofBe16 high low, offset + 3)
        | _ => .error (.thrown "Invalid length encoding")
      else .error (.thrown "Unsupported length encoding")

/-- The loop of `add_padding`, one round for every octet of a block. -/
def padZeros : (rounds : Nat) → Octets → Octets
  | 0, padded => padded
  | rounds + 1, padded =>
      if padded.length % aesBlockSize ≠ 0 then padZeros rounds (padded ++ [0x00])
      else padded

/-- `add_padding`: 80, then zeros up to a whole block. -/
def addPadding (data : Octets) : Octets :=
  padZeros aesBlockSize (data ++ [0x80])

/-- `remove_padding`; data that do not end so are left alone. -/
def removePadding (data : Octets) : Octets :=
  match data.reverse.dropWhile (· == 0x00) with
  | [] => data
  | last :: front => if last = 0x80 then front.reverse else data

section Code

variable (ssl : Openssl)

/-- `compute_cmac` -/
def computeCmac (key data : Octets) : Except Fault Octets := do
  let _ ← require (key.length = aesKeySize) "Failed to init MAC"
  .ok (ssl.cmac key data)

/-- Of an input that is not made of blocks, OpenSSL puts out the whole blocks
    only. -/
def aesCipherOperation (input key iv : Octets) (encrypt : Bool) :
    Except Fault Octets := do
  let _ ← require (key.length = aesKeySize) "Invalid key size"
  let _ ← require (iv.length = aesBlockSize) "Invalid IV size"
  let _ ← require (input.length % aesBlockSize = 0)
    ("Unexpected " ++ (if encrypt then "encryption" else "decryption")
      ++ " output length: "
      ++ toString (input.length - input.length % aesBlockSize)
      ++ " expected: " ++ toString input.length)
  .ok (if encrypt then ssl.aesCbcEncrypt key iv input
    else ssl.aesCbcDecrypt key iv input)

/-- `htonl` of the block number behind twelve zero octets -/
def icvBlock (blockNum : UInt32) : Octets :=
  List.replicate 12 0x00 ++
    [UInt8.ofNat (blockNum.toNat / 2 ^ 24),
     UInt8.ofNat (blockNum.toNat / 2 ^ 16 % 2 ^ 8),
     UInt8.ofNat (blockNum.toNat / 2 ^ 8 % 2 ^ 8),
     UInt8.ofNat (blockNum.toNat % 2 ^ 8)]

/-- The initialisation vector of a single block. -/
def zeroIv : Octets := List.replicate aesBlockSize 0x00

/-- `generate_icv_for_block` -/
def generateIcvForBlock (sEnc : Octets) (blockNum : UInt32) :
    Except Fault Octets :=
  aesCipherOperation ssl (icvBlock blockNum) sEnc zeroIv true

/-- `block_number++` -/
def incBlockNumber (self : BspCrypto) : BspCrypto :=
  { self with blockNumber := self.blockNumber + 1 }

/-- `generate_icv`, which counts the block. -/
def generateIcv : Bsp Octets := do
  let self ← get
  let icv ← lift (generateIcvForBlock ssl self.sEnc self.blockNumber)
  modify incBlockNumber
  pure icv

/-- `aes_encrypt`: a fresh vector, then the padded plaintext. -/
def aesEncrypt (plaintext : Octets) : Bsp Octets := do
  let icv ← generateIcv ssl
  let self ← get
  lift (aesCipherOperation ssl (addPadding plaintext) self.sEnc icv true)

/-- `aes_decrypt_with_icv` -/
def aesDecryptWithIcv (ciphertext icv : Octets) : Bsp Octets := do
  let self ← get
  let decrypted ← lift (aesCipherOperation ssl ciphertext self.sEnc icv false)
  pure (removePadding decrypted)

/-- The MAC over the chain, the tag, the length and the data, which both
    `compute_mac` and `verify_and_decrypt_helper` spell out. -/
def fullMac (sMac macChain : Octets) (tag : UInt8) (data : Octets) :
    Except Fault Octets := do
  let lengthBytes ← encodeBertlvLength (data.length + macLength)
  computeCmac ssl sMac (macChain ++ tag :: (lengthBytes ++ data))

/-- The chaining value is the full MAC of the last segment. -/
def setMacChain (full : Octets) (self : BspCrypto) : BspCrypto :=
  { self with macChain := full }

/-- `compute_mac`: eight octets go into the segment, sixteen into the chain. -/
def computeMac (tag : UInt8) (data : Octets) : Bsp Octets := do
  let self ← get
  let full ← lift (fullMac ssl self.sMac self.macChain tag data)
  modify (setMacChain full)
  pure (full.take macLength)

/-- tag + length + data + mac -/
def frame (tag : UInt8) (data mac : Octets) : Except Fault Octets := do
  let lengthBytes ← encodeBertlvLength (data.length + macLength)
  .ok (tag :: (lengthBytes ++ (data ++ mac)))

/-- `encrypt_and_mac_one` -/
def encryptAndMacOne (tag : UInt8) (plaintext : Octets) : Bsp Octets := do
  let _ ← lift (require (plaintext.length ≤ maxSegmentSize - 10)
    "Segment too large")
  let ciphertext ← aesEncrypt ssl plaintext
  let mac ← computeMac ssl tag ciphertext
  lift (frame tag ciphertext mac)

/-- `mac_only_one`, which counts the block too. -/
def macOnlyOne (tag : UInt8) (plaintext : Octets) : Bsp Octets := do
  let _ ← lift (require (plaintext.length ≤ maxSegmentSize - 10)
    "Segment too large")
  let mac ← computeMac ssl tag plaintext
  let result ← lift (frame tag plaintext mac)
  modify incBlockNumber
  pure result

/-- The pieces that the loops of `encrypt_and_mac_seg` and `mac_only_seg` go
    through, from the offsets 0, 1010, 2020, … -/
def segmentsOf (data : Octets) : List Octets :=
  slices (maxSegmentSize - 10) data.length data

/-- `encrypt_and_mac_seg` -/
def encryptAndMacSeg (tag : UInt8) (data : Octets) : Bsp (List Octets) :=
  (segmentsOf data).mapM (encryptAndMacOne ssl tag)

/-- `mac_only_seg` -/
def macOnlySeg (tag : UInt8) (data : Octets) : Bsp (List Octets) :=
  (segmentsOf data).mapM (macOnlyOne ssl tag)

/-- The checks of `verify_and_decrypt_helper` before it computes the MAC: the
    tag, the payload and the received MAC. -/
def parseSegment (segment : Octets) : Except Fault (UInt8 × Octets × Octets) :=
  match segment with
  | [] => .error (.thrown "Segment too small")
  | tag :: _ => do
      let _ ← require (3 ≤ segment.length) "Segment too small"
      let (length, lengthEnd) ← parseBertlvLength segment 1
      let _ ← require (lengthEnd + length ≤ segment.length)
        "Invalid segment length"
      let _ ← require (macLength < length)
        "Invalid segment length: payload too small"
      let value := segment.drop lengthEnd
      let payloadLength := length - macLength
      .ok (tag, value.take payloadLength,
        (value.drop payloadLength).take macLength)

/-- `verify_and_decrypt_helper` -/
def verifyAndDecryptHelper (segment macChainToUse : Octets) (decrypt : Bool) :
    Bsp Octets := do
  let (tag, payload, receivedMac) ← lift (parseSegment segment)
  let self ← get
  let full ← lift (fullMac ssl self.sMac macChainToUse tag payload)
  let _ ← lift (require (receivedMac = full.take macLength)
    "MAC verification failed")
  modify (setMacChain full)
  if decrypt then do
    let icv ← generateIcv ssl
    aesDecryptWithIcv ssl payload icv
  else do
    modify incBlockNumber
    pure payload

/-- `decrypt_and_verify`, with the chaining value of the instance. -/
def decryptAndVerify (segments : Octets) (decrypt : Bool) : Bsp Octets := do
  let self ← get
  verifyAndDecryptHelper ssl segments self.macChain decrypt

end Code

-- ── Padding and lengths ──────────────────────────────────────────────────────

/-- The loop appends zeros up to the end of the block. -/
theorem padZeros_eq : ∀ (rounds : Nat) (padded : Octets),
    (16 - padded.length % 16) % 16 ≤ rounds →
    padZeros rounds padded
      = padded ++ List.replicate ((16 - padded.length % 16) % 16) 0x00 := by
  intro rounds
  induction rounds with
  | zero =>
      intro padded henough
      rw [Nat.le_zero.mp henough]
      exact (List.append_nil padded).symm
  | succ rounds ih =>
      intro padded henough
      by_cases hblock : padded.length % aesBlockSize = 0
      · have hnone : (16 - padded.length % 16) % 16 = 0 := by
          rw [show padded.length % 16 = 0 from hblock]
        rw [padZeros, if_neg (not_not_intro hblock), hnone]
        exact (List.append_nil padded).symm
      · have hlen : (padded ++ [(0x00 : UInt8)]).length = padded.length + 1 :=
          List.length_append
        have hmod : padded.length % 16 ≠ 0 := hblock
        have hless : (16 - padded.length % 16) % 16
            = (16 - (padded.length + 1) % 16) % 16 + 1 := by omega
        rw [padZeros, if_pos hblock, ih _ (by omega), hlen, hless, List.append_assoc]
        rfl

/-- The padded data: the data, the marker and zeros up to the end of the block. -/
theorem addPadding_eq (data : Octets) :
    addPadding data = data ++ 0x80 :: List.replicate (15 - data.length % 16) 0x00 := by
  have hlen : (data ++ [(0x80 : UInt8)]).length = data.length + 1 := List.length_append
  have hzeros : (16 - (data.length + 1) % 16) % 16 = 15 - data.length % 16 := by omega
  rw [addPadding, padZeros_eq _ _ (by rw [aesBlockSize]; omega), hlen, hzeros,
    List.append_assoc]
  rfl

/-- The padded text is the next whole number of blocks. -/
theorem addPadding_length (data : Octets) :
    (addPadding data).length = 16 * (data.length / 16 + 1) := by
  rw [addPadding_eq, List.length_append, List.length_cons, List.length_replicate]
  omega

/-- A padded text is a whole number of blocks. -/
theorem addPadding_blocks (data : Octets) :
    (addPadding data).length % 16 = 0 := by
  rw [addPadding_length, Nat.mul_mod_right]

/-- **PADDING ROUND TRIP**: the marker is the last octet that is not zero. -/
theorem removePadding_addPadding (data : Octets) :
    removePadding (addPadding data) = data := by
  have hzeros : ∀ a ∈ List.replicate (15 - data.length % 16) (0x00 : UInt8),
      (a == 0x00) = true := by
    intro a ha
    rw [List.eq_of_mem_replicate ha]
    rfl
  have hrev : (addPadding data).reverse
      = List.replicate (15 - data.length % 16) 0x00 ++ 0x80 :: data.reverse := by
    rw [addPadding_eq, List.reverse_append, List.reverse_cons, List.reverse_replicate,
      List.append_assoc]
    rfl
  have hdrop : (addPadding data).reverse.dropWhile (· == 0x00)
      = 0x80 :: data.reverse := by
    rw [hrev, List.dropWhile_append_of_pos hzeros]
    rfl
  rw [removePadding, hdrop]
  exact List.reverse_reverse data

/-- **LENGTHS ROUND TRIP**, across all three forms. -/
theorem encodeBertlvLength_spec {n : Nat} (h : n < 0x10000) :
    ∃ lengthBytes, encodeBertlvLength n = .ok lengthBytes
      ∧ 0 < lengthBytes.length
      ∧ ∀ tag rest, parseBertlvLength (tag :: (lengthBytes ++ rest)) 1
        = .ok (n, 1 + lengthBytes.length) := by
  by_cases hshort : n < 0x80
  · have hoct : (UInt8.ofNat n).toNat = n := toNat_octet (by omega)
    have hlt : UInt8.ofNat n < 0x80 := UInt8.lt_iff_toNat_lt.mpr (by
      rw [hoct]
      exact hshort)
    refine ⟨[UInt8.ofNat n], if_pos hshort, Nat.one_pos, fun tag rest => ?_⟩
    show (if UInt8.ofNat n < 0x80 then _ else _) = _
    rw [if_pos hlt, hoct]
    rfl
  · by_cases hone : n < 0x100
    · have hoct : (UInt8.ofNat n).toNat = n := toNat_octet hone
      refine ⟨[0x81, UInt8.ofNat n], ?_, Nat.two_pos, fun tag rest => ?_⟩
      · rw [encodeBertlvLength, if_neg hshort, if_pos hone]
      · show Except.ok ((UInt8.ofNat n).toNat, 1 + 2) = _
        rw [hoct]
        rfl
    · refine ⟨0x82 :: be16 n, ?_, Nat.succ_pos 2, fun tag rest => ?_⟩
      · rw [encodeBertlvLength, if_neg hshort, if_neg hone, if_pos h]
      · show Except.ok (ofBe16 (UInt8.ofNat (n / 256)) (UInt8.ofNat (n % 256)),
          1 + 3) = _
        rw [ofBe16_be16 h]
        rfl

-- ── One segment ──────────────────────────────────────────────────────────────

/-- A check that holds is passed. -/
theorem require_ok {c : Prop} [Decidable c] (h : c) (msg : String) :
    require c msg = .ok () :=
  if_pos h

/-- A check that fails throws its text. -/
theorem require_error {c : Prop} [Decidable c] (h : ¬ c) (msg : String) :
    require c msg = .error (.thrown msg) :=
  if_neg h

/-- Who has passed the check knows that it holds. -/
theorem require_inv {c : Prop} [Decidable c] {msg : String} {u : Unit}
    (h : require c msg = .ok u) : c := by
  rw [require] at h
  split at h
  · assumption
  · exact nomatch h

/-- A value leaves the state alone. -/
theorem lift_ok {α : Type} {x : Except Fault α} {a : α} (h : x = .ok a)
    (self : BspCrypto) : lift x self = .ok a self := by
  rw [h]
  rfl

/-- An exception leaves the state alone. -/
theorem lift_error {α : Type} {x : Except Fault α} {e : Fault} (h : x = .error e)
    (self : BspCrypto) : lift x self = .error e self := by
  rw [h]
  rfl

/-- What came back is what was lifted. -/
theorem lift_inv {α : Type} {x : Except Fault α} {self self' : BspCrypto}
    {a : α} (h : lift x self = .ok a self') : x = .ok a := by
  cases x with
  | error e => exact nomatch h
  | ok b =>
      obtain ⟨rfl, -⟩ := EStateM.Result.ok.inj h
      rfl

/-- A segment is taken apart into what it was made of, whatever stands behind
    it. -/
theorem parseSegment_frame (tag : UInt8) {data mac : Octets}
    (hpos : 0 < data.length) (hlen : data.length + 8 < 0x10000)
    (hmac : mac.length = 8) :
    ∃ segment, frame tag data mac = .ok segment
      ∧ ∀ rest, parseSegment (segment ++ rest) = .ok (tag, data, mac) := by
  obtain ⟨lengthBytes, henc, hlb, hparse⟩ := encodeBertlvLength_spec hlen
  refine ⟨tag :: (lengthBytes ++ (data ++ mac)), ?_, fun rest => ?_⟩
  · show (encodeBertlvLength (data.length + 8)).bind _ = _
    rw [henc]
    rfl
  · have hassoc : tag :: (lengthBytes ++ (data ++ mac)) ++ rest
        = tag :: (lengthBytes ++ (data ++ (mac ++ rest))) := by
      rw [List.cons_append, List.append_assoc, List.append_assoc]
    have hsize : (tag :: (lengthBytes ++ (data ++ (mac ++ rest)))).length
        = 1 + lengthBytes.length + (data.length + 8) + rest.length := by
      rw [List.length_cons, List.length_append, List.length_append,
        List.length_append, hmac]
      omega
    have hvalue : (tag :: (lengthBytes ++ (data ++ (mac ++ rest)))).drop
        (1 + lengthBytes.length) = data ++ (mac ++ rest) := by
      rw [Nat.add_comm, List.drop_succ_cons, List.drop_left]
    rw [hassoc]
    show (require _ _).bind _ = _
    rw [require_ok (by rw [hsize]; omega)]
    show (parseBertlvLength (tag :: (lengthBytes ++ _)) 1).bind _ = _
    rw [hparse]
    show (require _ _).bind _ = _
    rw [require_ok (by rw [hsize]; omega)]
    show (require _ _).bind _ = _
    rw [require_ok (by show 8 < data.length + 8; omega)]
    show Except.ok (tag, List.take (data.length + 8 - 8) _,
      List.take 8 (List.drop (data.length + 8 - 8) _)) = _
    rw [hvalue, Nat.add_sub_cancel, List.take_left, List.drop_left,
      ← hmac, List.take_left]

/-- What the code relies on in OpenSSL: AES-CBC is invertible on whole blocks
    and a MAC has one block. -/
structure Openssl.Laws (ssl : Openssl) : Prop where
  encrypt_length : ∀ key iv blocks : Octets, key.length = 16 → iv.length = 16 →
    blocks.length % 16 = 0 →
    (ssl.aesCbcEncrypt key iv blocks).length = blocks.length
  decrypt_encrypt : ∀ key iv blocks : Octets, key.length = 16 →
    iv.length = 16 → blocks.length % 16 = 0 →
    ssl.aesCbcDecrypt key iv (ssl.aesCbcEncrypt key iv blocks) = blocks
  cmac_length : ∀ key data : Octets, key.length = 16 →
    (ssl.cmac key data).length = 16

section Segment

variable {ssl : Openssl} (laws : ssl.Laws)

/-- With a key, a vector and data of the right sizes OpenSSL is called, and nothing
    throws. -/
theorem aesCipherOperation_ok {input key iv : Octets} {encrypt : Bool}
    (hkey : key.length = aesKeySize) (hiv : iv.length = aesBlockSize)
    (hinput : input.length % aesBlockSize = 0) :
    aesCipherOperation ssl input key iv encrypt
      = .ok (if encrypt then ssl.aesCbcEncrypt key iv input
        else ssl.aesCbcDecrypt key iv input) := by
  show (require _ _).bind _ = _
  rw [require_ok hkey]
  show (require _ _).bind _ = _
  rw [require_ok hiv]
  show (require _ _).bind _ = _
  rw [require_ok hinput]
  rfl

/-- The block number fills one block. -/
theorem icvBlock_length (blockNum : UInt32) :
    (icvBlock blockNum).length = 16 := by
  rw [icvBlock, List.length_append, List.length_replicate]
  rfl

/-- It can be encrypted as it is. -/
theorem icvBlock_blocks (blockNum : UInt32) :
    (icvBlock blockNum).length % 16 = 0 :=
  congrArg (· % 16) (icvBlock_length blockNum)

/-- The ICV of the next segment. -/
def icvOf (ssl : Openssl) (self : BspCrypto) : Octets :=
  ssl.aesCbcEncrypt self.sEnc zeroIv (icvBlock self.blockNumber)

include laws in

/-- The vector of a block is one block. -/
theorem icvOf_length (self : BspCrypto) : (icvOf ssl self).length = 16 :=
  (laws.encrypt_length self.sEnc zeroIv (icvBlock self.blockNumber)
    self.sEnc_length rfl (icvBlock_blocks self.blockNumber)).trans
    (icvBlock_length self.blockNumber)

/-- `generate_icv` never fails, and counts one block. -/
theorem generateIcv_eq (self : BspCrypto) :
    generateIcv ssl self = .ok (icvOf ssl self) (incBlockNumber self) := by
  have hget : (get : Bsp BspCrypto) self = .ok self self := rfl
  have hicv : generateIcvForBlock ssl self.sEnc self.blockNumber
      = .ok (icvOf ssl self) :=
    aesCipherOperation_ok self.sEnc_length rfl
      (icvBlock_blocks self.blockNumber)
  rw [generateIcv, bind_ok_eq hget, bind_ok_eq (lift_ok hicv self)]
  rfl

/-- The payload of an encrypted segment. -/
def cipherOf (ssl : Openssl) (self : BspCrypto) (plaintext : Octets) : Octets :=
  ssl.aesCbcEncrypt self.sEnc (icvOf ssl self) (addPadding plaintext)

include laws in

/-- The ciphertext is as long as the padded plaintext. -/
theorem cipherOf_length (self : BspCrypto) (plaintext : Octets) :
    (cipherOf ssl self plaintext).length = (addPadding plaintext).length :=
  laws.encrypt_length _ _ _ self.sEnc_length (icvOf_length laws self)
    (addPadding_blocks plaintext)

include laws in

/-- `aes_encrypt` never fails, and counts one block. -/
theorem aesEncrypt_eq (self : BspCrypto) (plaintext : Octets) :
    aesEncrypt ssl plaintext self
      = .ok (cipherOf ssl self plaintext) (incBlockNumber self) := by
  have hget : (get : Bsp BspCrypto) (incBlockNumber self)
      = .ok (incBlockNumber self) (incBlockNumber self) := rfl
  rw [aesEncrypt, bind_ok_eq (generateIcv_eq self), bind_ok_eq hget]
  exact lift_ok (aesCipherOperation_ok self.sEnc_length
    (icvOf_length laws self) (addPadding_blocks plaintext)) _

include laws in
/-- The receiver deciphers under the key and the ICV of the sender. -/
theorem aesDecryptWithIcv_cipherOf (self sender : BspCrypto)
    (hkey : self.sEnc = sender.sEnc) (plaintext : Octets) :
    aesDecryptWithIcv ssl (cipherOf ssl sender plaintext) (icvOf ssl sender)
      self = .ok plaintext self := by
  have hget : (get : Bsp BspCrypto) self = .ok self self := rfl
  have hblocks : (cipherOf ssl sender plaintext).length % 16 = 0 := by
    rw [cipherOf_length laws, addPadding_blocks]
  have hplain : aesCipherOperation ssl (cipherOf ssl sender plaintext) self.sEnc
      (icvOf ssl sender) false = .ok (addPadding plaintext) := by
    rw [aesCipherOperation_ok self.sEnc_length (icvOf_length laws sender)
      hblocks, hkey]
    exact congrArg Except.ok (laws.decrypt_encrypt _ _ _ sender.sEnc_length
      (icvOf_length laws sender) (addPadding_blocks plaintext))
  rw [aesDecryptWithIcv, bind_ok_eq hget, bind_ok_eq (lift_ok hplain self)]
  show EStateM.Result.ok (removePadding (addPadding plaintext)) self = _
  rw [removePadding_addPadding]

/-- The MAC of a segment over the chain so far. -/
def macOf (ssl : Openssl) (self : BspCrypto) (tag : UInt8) (lengthBytes data :
    Octets) : Octets :=
  ssl.cmac self.sMac (self.macChain ++ tag :: (lengthBytes ++ data))

include laws in
/-- A MAC of a bounded payload can be computed, and has one block. -/
theorem fullMac_ok (self : BspCrypto) (tag : UInt8) {data : Octets}
    (hlen : data.length + 8 < 0x10000) :
    ∃ full, fullMac ssl self.sMac self.macChain tag data = .ok full
      ∧ full.length = 16 := by
  obtain ⟨lengthBytes, henc, -, -⟩ := encodeBertlvLength_spec hlen
  refine ⟨macOf ssl self tag lengthBytes data, ?_,
    laws.cmac_length _ _ self.sMac_length⟩
  show (encodeBertlvLength (data.length + 8)).bind _ = _
  rw [henc]
  show (require _ _).bind _ = _
  rw [require_ok self.sMac_length]
  rfl

/-- The MAC in the segment is the head of the new chaining value. -/
theorem computeMac_eq {self : BspCrypto} {tag : UInt8} {data full : Octets}
    (hfull : fullMac ssl self.sMac self.macChain tag data = .ok full) :
    computeMac ssl tag data self
      = .ok (full.take macLength) (setMacChain full self) := by
  have hget : (get : Bsp BspCrypto) self = .ok self self := rfl
  rw [computeMac, bind_ok_eq hget, bind_ok_eq (lift_ok hfull self)]
  rfl

/-- The receiver recomputes the MAC of the sender. -/
theorem decryptAndVerify_eq {self : BspCrypto} {segment : Octets}
    {tag : UInt8} {payload full : Octets} (decrypt : Bool)
    (hparse : parseSegment segment = .ok (tag, payload, full.take macLength))
    (hfull : fullMac ssl self.sMac self.macChain tag payload = .ok full) :
    decryptAndVerify ssl segment decrypt self
      = (if decrypt then (do
          let icv ← generateIcv ssl
          aesDecryptWithIcv ssl payload icv)
        else (do
          modify incBlockNumber
          pure payload) : Bsp Octets) (setMacChain full self) := by
  have hget : (get : Bsp BspCrypto) self = .ok self self := rfl
  have hmac : require (full.take macLength = full.take macLength)
      "MAC verification failed" = .ok () := require_ok rfl _
  have hset : (modify (setMacChain full) : Bsp PUnit) self
      = .ok ⟨⟩ (setMacChain full self) := rfl
  rw [decryptAndVerify, bind_ok_eq hget, verifyAndDecryptHelper,
    bind_ok_eq (lift_ok hparse self)]
  show ((get : Bsp BspCrypto) >>= _) self = _
  rw [bind_ok_eq hget, bind_ok_eq (lift_ok hfull self),
    bind_ok_eq (lift_ok hmac self), bind_ok_eq hset]

include laws in
/-- **AN ENCRYPTED SEGMENT** is taken by a receiver in the state of the sender,
    whatever stands behind it, and both move to the same state. -/
theorem encryptedSegment (self : BspCrypto) (tag : UInt8) {plaintext : Octets}
    (hlen : plaintext.length ≤ 1010) :
    ∃ segment self', encryptAndMacOne ssl tag plaintext self = .ok segment self'
      ∧ ∀ rest, decryptAndVerify ssl (segment ++ rest) true self
        = .ok plaintext self' := by
  have hcipher := cipherOf_length laws self plaintext
  rw [addPadding_length] at hcipher
  have hpos : 0 < (cipherOf ssl self plaintext).length := by omega
  have hfits : (cipherOf ssl self plaintext).length + 8 < 0x10000 := by omega
  obtain ⟨full, hfull, hblock⟩ := fullMac_ok laws (incBlockNumber self) tag hfits
  have hmac : (full.take macLength).length = 8 := by
    rw [List.length_take, hblock]
    rfl
  obtain ⟨segment, hframe, hparse⟩ := parseSegment_frame tag hpos hfits hmac
  refine ⟨segment, setMacChain full (incBlockNumber self), ?_, fun rest => ?_⟩
  · have hsize := require_ok (c := plaintext.length ≤ maxSegmentSize - 10) hlen
      "Segment too large"
    rw [encryptAndMacOne, bind_ok_eq (lift_ok hsize self),
      bind_ok_eq (aesEncrypt_eq laws self plaintext),
      bind_ok_eq (computeMac_eq hfull)]
    exact lift_ok hframe _
  · -- the block number is no part of the MAC
    have hsame : fullMac ssl self.sMac self.macChain tag
        (cipherOf ssl self plaintext) = .ok full := hfull
    rw [decryptAndVerify_eq true (hparse rest) hsame]
    show (generateIcv ssl >>= _) (setMacChain full self) = _
    rw [bind_ok_eq (generateIcv_eq _)]
    exact aesDecryptWithIcv_cipherOf laws
      (incBlockNumber (setMacChain full self)) self rfl plaintext

include laws in
/-- **A MAC-ONLY SEGMENT**, likewise, as long as its payload is not empty. -/
theorem macOnlySegment (self : BspCrypto) (tag : UInt8) {plaintext : Octets}
    (hpos : 0 < plaintext.length) (hlen : plaintext.length ≤ 1010) :
    ∃ segment self', macOnlyOne ssl tag plaintext self = .ok segment self'
      ∧ ∀ rest, decryptAndVerify ssl (segment ++ rest) false self
        = .ok plaintext self' := by
  have hfits : plaintext.length + 8 < 0x10000 := by omega
  obtain ⟨full, hfull, hblock⟩ := fullMac_ok laws self tag hfits
  have hmac : (full.take macLength).length = 8 := by
    rw [List.length_take, hblock]
    rfl
  obtain ⟨segment, hframe, hparse⟩ := parseSegment_frame tag hpos hfits hmac
  refine ⟨segment, incBlockNumber (setMacChain full self), ?_, fun rest => ?_⟩
  · have hsize := require_ok (c := plaintext.length ≤ maxSegmentSize - 10) hlen
      "Segment too large"
    rw [macOnlyOne, bind_ok_eq (lift_ok hsize self),
      bind_ok_eq (computeMac_eq hfull), bind_ok_eq (lift_ok hframe _)]
    rfl
  · rw [decryptAndVerify_eq false (hparse rest) hfull]
    rfl

end Segment

-- ── The channel ──────────────────────────────────────────────────────────────

/-- One call on the sender: `encrypt_and_mac_seg` or `mac_only_seg`. -/
structure BspCall where
  encrypted : Bool
  tag : UInt8
  data : Octets
  deriving DecidableEq, Repr

/-- Two instances with the same keys, MAC chain and block number. -/
structure InStep (a b : BspCrypto) : Prop where
  sEnc : a.sEnc = b.sEnc
  sMac : a.sMac = b.sMac
  macChain : a.macChain = b.macChain
  blockNumber : a.blockNumber = b.blockNumber

/-- Two instances in step are the same. -/
theorem InStep.eq {a b : BspCrypto} (h : InStep a b) : a = b := by
  obtain ⟨enc, mac, chain, number, he, hm⟩ := a
  obtain ⟨rfl, rfl, rfl, rfl⟩ := h
  rfl

section Channel

variable (ssl : Openssl)

/-- The call on one segment. -/
def BspCall.one (c : BspCall) (segment : Octets) : Bsp Octets :=
  if c.encrypted then encryptAndMacOne ssl c.tag segment
  else macOnlyOne ssl c.tag segment

/-- The call on its data, cut into segments. -/
def BspCall.send (c : BspCall) : Bsp (List Octets) :=
  if c.encrypted then encryptAndMacSeg ssl c.tag c.data
  else macOnlySeg ssl c.tag c.data

/-- What a call puts out, with the sender behind every segment. -/
def BspCall.sendTrace (c : BspCall) : Bsp (List (Octets × BspCrypto)) :=
  mapTrace (c.one ssl) (segmentsOf c.data)

/-- What the receiver makes of segments, with the receiver behind every
    segment. -/
def BspCall.takeTrace (c : BspCall) (segments : List Octets) :
    Bsp (List (Octets × BspCrypto)) :=
  mapTrace (fun segment => decryptAndVerify ssl segment c.encrypted) segments

/-- One call goes through: both sides come to their end, the receiver has the
    data, and the two instances are in step behind every segment. -/
def CallOk (s r : BspCrypto) (c : BspCall) (s' r' : BspCrypto) : Prop :=
  ∃ sent got, c.sendTrace ssl s = .ok sent s'
    ∧ c.send ssl s = .ok (sent.map Prod.fst) s'
    ∧ c.takeTrace ssl (sent.map Prod.fst) r = .ok got r'
    ∧ (got.map Prod.fst).flatten = c.data
    ∧ List.Forall₂ (fun x y => InStep x.2 y.2) sent got

/-- Call after call goes through. -/
def ChannelOk : BspCrypto → BspCrypto → List BspCall → Prop
  | _, _, [] => True
  | s, r, c :: cs => ∃ s' r', CallOk ssl s r c s' r' ∧ ChannelOk s' r' cs

end Channel

section Run

variable {ssl : Openssl}

/-- Each segment is sent in its turn. -/
theorem BspCall.send_eq (c : BspCall) :
    c.send ssl = (segmentsOf c.data).mapM (c.one ssl) := by
  cases hc : c.encrypted with
  | true =>
      have hone : c.one ssl = encryptAndMacOne ssl c.tag :=
        funext fun segment => if_pos hc
      rw [BspCall.send, if_pos hc, hone, encryptAndMacSeg]
  | false =>
      have hone : c.one ssl = macOnlyOne ssl c.tag :=
        funext fun segment => if_neg (by rw [hc]; exact Bool.false_ne_true)
      rw [BspCall.send, hc, if_neg Bool.false_ne_true, hone, macOnlySeg]

/-- A segment of either kind, whatever stands behind it. -/
theorem BspCall.one_ok (laws : ssl.Laws) (c : BspCall) (self : BspCrypto)
    {piece : Octets} (hpiece : 0 < piece.length ∧ piece.length ≤ 1010) :
    ∃ segment self', c.one ssl piece self = .ok segment self'
      ∧ ∀ rest, decryptAndVerify ssl (segment ++ rest) c.encrypted self
        = .ok piece self' := by
  obtain ⟨encrypted, tag, data⟩ := c
  cases encrypted with
  | true => exact encryptedSegment laws self tag hpiece.2
  | false => exact macOnlySegment laws self tag hpiece.1 hpiece.2

/-- Sender and receiver move by one segment. -/
theorem BspCall.one_step (laws : ssl.Laws) (c : BspCall) (s r : BspCrypto)
    (piece : Octets) (h : InStep s r)
    (hpiece : 0 < piece.length ∧ piece.length ≤ 1010) :
    ∃ segment s' r', c.one ssl piece s = .ok segment s'
      ∧ decryptAndVerify ssl segment c.encrypted r = .ok piece r'
      ∧ InStep s' r' := by
  obtain rfl := h.eq
  obtain ⟨segment, s', hsend, htake⟩ := c.one_ok laws s hpiece
  have htaken := htake []
  rw [List.append_nil] at htaken
  exact ⟨segment, s', s', hsend, htaken, rfl, rfl, rfl, rfl⟩

/-- **ONE CALL** goes through, whatever the size of its data. -/
theorem callOk (laws : ssl.Laws) {s r : BspCrypto} (h : InStep s r)
    (c : BspCall) : ∃ s' r', CallOk ssl s r c s' r' ∧ InStep s' r' := by
  obtain ⟨sent, s', got, r', hsent, hgot, hmean, hall, hstep⟩ :=
    lockstep id (c.one_step laws) (segmentsOf c.data) s r h
      (slices_bounds (by decide) _ _)
  refine ⟨s', r', ⟨sent, got, hsent, ?_, hgot, ?_, hall⟩, hstep⟩
  · rw [BspCall.send_eq]
    exact mapM_of_mapTrace hsent
  · rw [hmean, List.map_id]
    exact slices_flatten (by decide) _ _ (Nat.le_refl _)

end Run

-- ── OpenSSL on a few inputs ──────────────────────────────────────────────────

/-- The octets of a number, most significant first. -/
def octetsOf : (length : Nat) → (value : Nat) → Octets
  | 0, _ => []
  | n + 1, v => UInt8.ofNat (v / 256 ^ n % 256) :: octetsOf n v

/-- One known pair of AES-128-CBC. -/
structure AesPair where
  key : Octets
  iv : Octets
  plain : Octets
  cipher : Octets
  same : plain.length = cipher.length

/-- The pair is exchanged and everything else is left alone. -/
def AesPair.swap (p : AesPair) (key iv x : Octets) : Octets :=
  if p.key = key ∧ p.iv = iv then
    if x = p.plain then p.cipher else if x = p.cipher then p.plain else x
  else x

/-- A pair exchanges two blocks, so doing it twice does nothing. -/
theorem AesPair.swap_swap (p : AesPair) (key iv x : Octets) :
    p.swap key iv (p.swap key iv x) = x := by
  simp only [AesPair.swap]
  split_ifs <;> simp_all

/-- The two texts of a pair are of one length. -/
theorem AesPair.swap_length (p : AesPair) (key iv x : Octets) :
    (p.swap key iv x).length = x.length := by
  have hsame := p.same
  simp only [AesPair.swap]
  split_ifs <;> simp_all

/-- A cipher that is right on the given pairs. -/
def aesEncryptBy (key iv : Octets) (pairs : List AesPair) (x : Octets) :
    Octets :=
  pairs.foldr (fun p y => p.swap key iv y) x

/-- Its inverse, the pairs taken from the other end. -/
def aesDecryptBy (key iv : Octets) (pairs : List AesPair) (x : Octets) :
    Octets :=
  pairs.foldl (fun y p => p.swap key iv y) x

/-- It keeps lengths. -/
theorem aesEncryptBy_length (key iv : Octets) (pairs : List AesPair)
    (x : Octets) : (aesEncryptBy key iv pairs x).length = x.length := by
  induction pairs with
  | nil => rfl
  | cons p ps ih =>
      show (p.swap key iv (aesEncryptBy key iv ps x)).length = x.length
      rw [AesPair.swap_length, ih]

/-- What it encrypted it decrypts. -/
theorem aesDecryptBy_aesEncryptBy (key iv : Octets) (pairs : List AesPair)
    (x : Octets) :
    aesDecryptBy key iv pairs (aesEncryptBy key iv pairs x) = x := by
  induction pairs with
  | nil => rfl
  | cons p ps ih =>
      show aesDecryptBy key iv ps
        (p.swap key iv (p.swap key iv (aesEncryptBy key iv ps x))) = x
      rw [AesPair.swap_swap, ih]

/-- One known MAC of AES-CMAC. -/
structure CmacPair where
  key : Octets
  data : Octets
  mac : Octets
  size : mac.length = 16

/-- A MAC that is right on the given pairs. -/
def cmacBy (key data : Octets) (pairs : List CmacPair) : Octets :=
  match pairs with
  | [] => zeroIv
  | p :: ps => if p.key = key ∧ p.data = data then p.mac else cmacBy key data ps

/-- It is sixteen octets long. -/
theorem cmacBy_length (key data : Octets) (pairs : List CmacPair) :
    (cmacBy key data pairs).length = 16 := by
  induction pairs with
  | nil => rfl
  | cons p ps ih =>
      rw [cmacBy]
      split_ifs with hp
      · exact p.size
      · exact ih

/-- OpenSSL as far as the pairs go. -/
def opensslBy (aes : List AesPair) (cmac : List CmacPair) : Openssl where
  aesCbcEncrypt key iv blocks := aesEncryptBy key iv aes blocks
  aesCbcDecrypt key iv blocks := aesDecryptBy key iv aes blocks
  cmac key data := cmacBy key data cmac

/-- **THE CONCRETE OPENSSL** obeys the documented laws. -/
theorem opensslBy_laws (aes : List AesPair) (cmac : List CmacPair) :
    (opensslBy aes cmac).Laws where
  encrypt_length key iv blocks _ _ _ := aesEncryptBy_length key iv aes blocks
  decrypt_encrypt key iv blocks _ _ _ :=
    aesDecryptBy_aesEncryptBy key iv aes blocks
  cmac_length key data _ := cmacBy_length key data cmac

/-- The encryption key of the concrete runs. -/
def sEncKey : Octets := octetsOf 16 0x000102030405060708090a0b0c0d0e0f

/-- The MAC key of the concrete runs. -/
def sMacKey : Octets := octetsOf 16 0x101112131415161718191a1b1c1d1e1f

/-- The initial chaining value of the concrete runs. -/
def initialMcv : Octets := octetsOf 16 0x202122232425262728292a2b2c2d2e2f

/-- The ICVs of the blocks 1 and 3. -/
def icv1 : Octets := octetsOf 16 0x7346139595c0b41e497bbde365f42d0a

/-- The vector of the third block. -/
def icv3 : Octets := octetsOf 16 0xb9ad2b2e346ac238505d365e9cb7fc56

/-- What the segments 1 (encrypted), 2 (MAC only) and 3 (encrypted) need. -/
def segmentsAes : List AesPair :=
  [⟨sEncKey, zeroIv, icvBlock 1, icv1, rfl⟩,
   ⟨sEncKey, zeroIv, icvBlock 3, icv3, rfl⟩,
   ⟨sEncKey, icv1, octetsOf 16 0xbf24030a0b0c80000000000000000000,
     octetsOf 16 0xb6960997ac9629a2121393ce6878b159, rfl⟩,
   ⟨sEncKey, icv3, octetsOf 16 0xa0800000000000000000000000000000,
     octetsOf 16 0x194776c7f32d74c3647c08064e2206bb, rfl⟩]

/-- The chaining value after one segment. -/
def chain1 : Octets := octetsOf 16 0x0b7b2cb5b348b854d6d95b67bc0945ef

/-- The chaining value after two segments. -/
def chain2 : Octets := octetsOf 16 0xd31c1827b65345916986bd57c04a0f43

/-- The MACs of the three segments, as AES-CMAC has them. -/
def segmentsCmac : List CmacPair :=
  [⟨sMacKey, initialMcv ++ octetsOf 18 0x8718b6960997ac9629a2121393ce6878b159,
     chain1, rfl⟩,
   ⟨sMacKey, chain1 ++ octetsOf 5 0x880bbf2503, chain2, rfl⟩,
   ⟨sMacKey, chain2 ++ octetsOf 18 0x8618194776c7f32d74c3647c08064e2206bb,
     octetsOf 16 0xe45eacd3f991a5c7b2d2de3a4d390e5e, rfl⟩]

/-- an instance as the constructor leaves it -/
def bspFresh : BspCrypto := ⟨sEncKey, sMacKey, initialMcv, 1, rfl, rfl⟩

/-- **THE BSP SECURE CHANNEL**: from instances in step, every sequence of
    calls, of either kind and on data of any length, goes through. -/
theorem bspRoundTrip {ssl : Openssl} (laws : ssl.Laws) {s r : BspCrypto}
    (h : InStep s r) (calls : List BspCall) : ChannelOk ssl s r calls := by
  induction calls generalizing s r with
  | nil => exact trivial
  | cons c cs ih =>
      obtain ⟨s', r', hcall, hstep⟩ := callOk laws h c
      exact ⟨s', r', hcall, ih hstep⟩

/-- Three calls, encrypted, MAC only and encrypted again. -/
theorem bspRoundTrip_threeCalls :
    ChannelOk (opensslBy segmentsAes segmentsCmac) bspFresh bspFresh
      [⟨true, 0x87, octetsOf 6 0xbf24030a0b0c⟩,
       ⟨false, 0x88, octetsOf 3 0xbf2503⟩, ⟨true, 0x86, [0xa0]⟩] :=
  bspRoundTrip (opensslBy_laws segmentsAes segmentsCmac) ⟨rfl, rfl, rfl, rfl⟩ _

end OsmoBsp
