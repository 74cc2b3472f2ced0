import Mathlib.Data.Fintype.Vector
import OsmoTtcn.BspRejectionProofs

/-! # Sizes and forms of BSP segments

    `MAX_SEGMENT_SIZE` is the size of a whole segment.  The sender cuts its
    data so that ten octets are left for what comes on top; there are up to
    twelve of tag, length and MAC, and the padding of an encrypted segment
    (`sendOne_length`).

    The receiver takes any form of the length and anything behind the segment,
    and it computes the MAC over the shortest form.  `parseSegment_inv` says
    what a segment looks like that it takes apart, and `canonical_iff` when it
    is the one that the sender makes. -/

namespace OsmoBsp

open OsmoTitan Lockstep WireOctet

-- ── Lengths ──────────────────────────────────────────────────────────────────

/-- The octets of the shortest form of a length. -/
def lengthSize (n : Nat) : Nat := if n < 0x80 then 1 else if n < 0x100 then 2 else 3

/-- The length field takes the octets that its size says. -/
theorem encodeBertlvLength_size {n : Nat} {lengthBytes : Octets}
    (h : encodeBertlvLength n = .ok lengthBytes) :
    lengthBytes.length = lengthSize n := by
  rw [encodeBertlvLength] at h
  rw [lengthSize]
  by_cases hshort : n < 0x80
  · rw [if_pos hshort] at h ⊢
    rw [← Except.ok.inj h]
    rfl
  · rw [if_neg hshort] at h ⊢
    by_cases hone : n < 0x100
    · rw [if_pos hone] at h ⊢
      rw [← Except.ok.inj h]
      rfl
    · rw [if_neg hone] at h ⊢
      by_cases htwo : n < 0x10000
      · rw [if_pos htwo] at h
        rw [← Except.ok.inj h]
        rfl
      · rw [if_neg htwo] at h
        cases h

/-- A number of two octets is written as it was read. -/
theorem octet_ofBe16 (hi lo : UInt8) :
    ofBe16 hi lo < 0x10000 ∧ be16 (ofBe16 hi lo) = [hi, lo] := by
  have hhi := hi.toNat_lt
  have hlo := lo.toNat_lt
  have hdiv : ofBe16 hi lo / 256 = hi.toNat := by
    rw [ofBe16]
    omega
  have hmod : ofBe16 hi lo % 256 = lo.toNat := by
    rw [ofBe16]
    omega
  refine ⟨by rw [ofBe16]; omega, ?_⟩
  rw [be16, hdiv, hmod, UInt8.ofNat_toNat, UInt8.ofNat_toNat]

/-- A length field that is read: it has at least the octets of the shortest form,
    and with so many it is the shortest form. -/
theorem parseBertlvLength_inv {tag : UInt8} {rest : Octets} {n lengthEnd : Nat}
    (h : parseBertlvLength (tag :: rest) 1 = .ok (n, lengthEnd)) :
    n < 0x10000 ∧ ∃ field value, rest = field ++ value
      ∧ lengthEnd = 1 + field.length ∧ lengthSize n ≤ field.length
      ∧ (field.length = lengthSize n → encodeBertlvLength n = .ok field) := by
  cases rest with
  | nil => cases h
  | cons first rest =>
      have hdrop : (tag :: first :: rest).drop 1 = first :: rest := rfl
      rw [parseBertlvLength, hdrop] at h
      dsimp only at h
      by_cases hshort : first < 0x80
      · rw [if_pos hshort] at h
        obtain ⟨rfl, rfl⟩ := Prod.mk.inj (Except.ok.inj h)
        have hlt : first.toNat < 0x80 := UInt8.lt_iff_toNat_lt.mp hshort
        refine ⟨by omega, [first], rest, rfl, rfl, ?_, fun _ => ?_⟩
        · rw [lengthSize, if_pos hlt]
          exact Nat.le_refl 1
        · rw [encodeBertlvLength, if_pos hlt, UInt8.ofNat_toNat]
      · rw [if_neg hshort] at h
        by_cases hone : first = 0x81
        · rw [if_pos hone] at h
          cases rest with
          | nil => cases h
          | cons length rest =>
              obtain ⟨rfl, rfl⟩ := Prod.mk.inj (Except.ok.inj h)
              have hlt := length.toNat_lt
              refine ⟨by omega, [first, length], rest, rfl, rfl, ?_, fun hsize => ?_⟩
              · rw [lengthSize]
                split_ifs
                · exact Nat.le_add_left 1 1
                · exact Nat.le_refl 2
              · rw [lengthSize] at hsize
                split_ifs at hsize with h80
                · cases hsize
                · rw [encodeBertlvLength, if_neg h80, if_pos hlt, UInt8.ofNat_toNat, hone]
        · rw [if_neg hone] at h
          by_cases htwo : first = 0x82
          · rw [if_pos htwo] at h
            cases rest with
            | nil => cases h
            | cons high rest =>
              cases rest with
              | nil => cases h
              | cons low rest =>
                obtain ⟨rfl, rfl⟩ := Prod.mk.inj (Except.ok.inj h)
                obtain ⟨hlt, hbe⟩ := octet_ofBe16 high low
                refine ⟨hlt, [first, high, low], rest, rfl, rfl, ?_, fun hsize => ?_⟩
                · rw [lengthSize]
                  split_ifs
                  · exact Nat.le_add_left 1 2
                  · exact Nat.le_add_left 2 1
                  · exact Nat.le_refl 3
                · rw [lengthSize] at hsize
                  split_ifs at hsize with h80 h100
                  · cases hsize
                  · cases hsize
                  · rw [encodeBertlvLength, if_neg h80, if_neg h100, if_pos hlt, hbe, htwo]
          · rw [if_neg htwo] at h
            cases h

-- ── Segments ─────────────────────────────────────────────────────────────────

/-- What a segment looks like that is taken apart. -/
theorem parseSegment_inv {segment payload mac : Octets} {tag : UInt8}
    (h : parseSegment segment = .ok (tag, payload, mac)) :
    0 < payload.length ∧ mac.length = macLength
      ∧ ∃ field trail, segment = tag :: (field ++ (payload ++ (mac ++ trail)))
        ∧ lengthSize (payload.length + macLength) ≤ field.length
        ∧ (field.length = lengthSize (payload.length + macLength) →
          encodeBertlvLength (payload.length + macLength) = .ok field) := by
  cases segment with
  | nil => exact nomatch h
  | cons first rest =>
      obtain ⟨_, -, h⟩ := bind_ok h
      obtain ⟨⟨length, lengthEnd⟩, hparse, h⟩ := bind_ok h
      obtain ⟨_, hinside, h⟩ := bind_ok h
      obtain ⟨_, hpayload, h⟩ := bind_ok h
      have hend := require_inv hinside
      have hmac := require_inv hpayload
      obtain ⟨-, field, value, rfl, rfl, hsize, hshortest⟩ := parseBertlvLength_inv hparse
      have hparts := Except.ok.inj h
      obtain ⟨htag, hparts⟩ := Prod.mk.inj hparts
      obtain ⟨rfl, rfl⟩ := Prod.mk.inj hparts
      have hvalue : (first :: (field ++ value)).drop (1 + field.length) = value := by
        rw [Nat.add_comm, List.drop_succ_cons, List.drop_left]
      have hroom : length ≤ value.length := by
        rw [List.length_cons, List.length_append] at hend
        omega
      have hlength : (value.take (length - macLength)).length = length - macLength :=
        List.length_take_of_le (by omega)
      have hback : length - macLength + macLength = length := by omega
      rw [hvalue, hlength, hback]
      refine ⟨by omega, ?_, field, value.drop length, ?_, hsize, hshortest⟩
      · exact List.length_take_of_le (by rw [List.length_drop]; omega)
      · have hmac' : (value.drop (length - macLength)).take macLength ++ value.drop length
            = value.drop (length - macLength) := by
          have hdrop : value.drop length
              = (value.drop (length - macLength)).drop macLength := by
            rw [List.drop_drop, hback]
          rw [hdrop, List.take_append_drop]
        rw [hmac', List.take_append_drop, htag]

/-- The size of a segment with nothing behind it and a length in its shortest
    form. -/
def strictSize (payload : Octets) : Nat :=
  1 + lengthSize (payload.length + macLength) + (payload.length + macLength)

/-- A segment is its tag, its length, its data and the MAC. -/
theorem frame_length {tag : UInt8} {data mac segment : Octets}
    (h : frame tag data mac = .ok segment) (hmac : mac.length = macLength) :
    segment.length = strictSize data := by
  obtain ⟨lengthBytes, henc, h⟩ := bind_ok h
  rw [← Except.ok.inj h, List.length_cons, List.length_append, List.length_append,
    encodeBertlvLength_size henc, hmac, strictSize]
  omega

/-- A segment is the one that the sender makes of its parts if its size is. -/
theorem frame_parseSegment {segment payload mac : Octets} {tag : UInt8}
    (h : parseSegment segment = .ok (tag, payload, mac)) :
    frame tag payload mac = .ok segment ↔ segment.length = strictSize payload := by
  obtain ⟨-, hmac, field, trail, rfl, hsize, hshortest⟩ := parseSegment_inv h
  constructor
  · exact fun hframe => frame_length hframe hmac
  · intro hlength
    rw [List.length_cons, List.length_append, List.length_append, List.length_append,
      hmac, strictSize] at hlength
    have htrail : trail = [] := List.eq_nil_of_length_eq_zero (by omega)
    have henc := hshortest (by omega)
    show (encodeBertlvLength (payload.length + macLength)).bind _ = _
    rw [henc, htrail, List.append_nil]
    rfl

section Sender

variable {ssl : Openssl} (laws : ssl.Laws)

/-- The payload of the segment that a piece of data becomes. -/
def payloadOf (ssl : Openssl) (self : BspCrypto) (encrypted : Bool) (piece : Octets) :
    Octets :=
  if encrypted then cipherOf ssl self piece else piece

/-- `encrypt_and_mac_one`, or `mac_only_one` -/
def sendOne (ssl : Openssl) (encrypted : Bool) (tag : UInt8) (piece : Octets) : Bsp Octets :=
  if encrypted then encryptAndMacOne ssl tag piece else macOnlyOne ssl tag piece

include laws in

/-- A ciphertext is the next whole number of blocks. -/
theorem payloadOf_encrypted_length (self : BspCrypto) (piece : Octets) :
    (payloadOf ssl self true piece).length = 16 * (piece.length / 16 + 1) :=
  (cipherOf_length laws self piece).trans (addPadding_length piece)

include laws in
/-- What the sender protects fits a length field. -/
theorem payloadOf_fits (self : BspCrypto) (encrypted : Bool) {piece : Octets}
    (hsize : piece.length ≤ maxSegmentSize - 10) :
    (payloadOf ssl self encrypted piece).length + 8 < 0x10000 := by
  have hmax : piece.length ≤ 1010 := hsize
  cases encrypted with
  | true =>
      have hcipher := payloadOf_encrypted_length laws self piece
      omega
  | false =>
      have hplain : (payloadOf ssl self false piece).length = piece.length := rfl
      omega

include laws in

/-- A payload is not empty, unless it was so without encryption. -/
theorem payloadOf_pos (self : BspCrypto) {encrypted : Bool} {piece : Octets}
    (hpos : encrypted = false → 0 < piece.length) :
    0 < (payloadOf ssl self encrypted piece).length := by
  cases encrypted with
  | true =>
      have hcipher := payloadOf_encrypted_length laws self piece
      omega
  | false => exact hpos rfl

include laws in
/-- **ONE SEGMENT** of the sender. -/
theorem sendOne_ok (self : BspCrypto) (encrypted : Bool) (tag : UInt8) {piece : Octets}
    (hsize : piece.length ≤ maxSegmentSize - 10) :
    ∃ full segment, full.length = 16
      ∧ fullMac ssl self.sMac self.macChain tag (payloadOf ssl self encrypted piece)
        = .ok full
      ∧ frame tag (payloadOf ssl self encrypted piece) (full.take macLength)
        = .ok segment
      ∧ sendOne ssl encrypted tag piece self = .ok segment (moved self full) := by
  have hfits := payloadOf_fits laws self encrypted hsize
  obtain ⟨full, hfull, hblock⟩ := fullMac_ok laws self tag hfits
  obtain ⟨lengthBytes, henc, -, -⟩ := encodeBertlvLength_spec hfits
  have hframe : frame tag (payloadOf ssl self encrypted piece) (full.take macLength)
      = .ok (tag :: (lengthBytes
        ++ (payloadOf ssl self encrypted piece ++ full.take macLength))) := by
    show (encodeBertlvLength _).bind _ = _
    rw [show (payloadOf ssl self encrypted piece).length + macLength
      = (payloadOf ssl self encrypted piece).length + 8 from rfl, henc]
    rfl
  refine ⟨full, _, hblock, hfull, hframe, ?_⟩
  have hreq := require_ok hsize "Segment too large"
  cases encrypted with
  | true =>
      show encryptAndMacOne ssl tag piece self = _
      -- the block number is no part of the MAC
      have hsame : fullMac ssl (incBlockNumber self).sMac (incBlockNumber self).macChain tag
          (cipherOf ssl self piece) = .ok full := hfull
      rw [encryptAndMacOne, bind_ok_eq (lift_ok hreq self),
        bind_ok_eq (aesEncrypt_eq laws self piece), bind_ok_eq (computeMac_eq hsame)]
      exact lift_ok hframe _
  | false =>
      show macOnlyOne ssl tag piece self = _
      have hplain : fullMac ssl self.sMac self.macChain tag piece = .ok full := hfull
      rw [macOnlyOne, bind_ok_eq (lift_ok hreq self), bind_ok_eq (computeMac_eq hplain)]
      show (lift (frame tag (payloadOf ssl self false piece) (full.take macLength))
        >>= _) (setMacChain full self) = _
      rw [bind_ok_eq (lift_ok hframe _)]
      rfl

/-- A piece that is too large is refused. -/
theorem sendOne_large (self : BspCrypto) (encrypted : Bool) (tag : UInt8) {piece : Octets}
    (hsize : ¬ piece.length ≤ maxSegmentSize - 10) :
    ∃ e, sendOne ssl encrypted tag piece self = .error e self := by
  have hreq := require_error hsize "Segment too large"
  refine ⟨.thrown "Segment too large", ?_⟩
  cases encrypted with
  | true =>
      show encryptAndMacOne ssl tag piece self = _
      rw [encryptAndMacOne, bind_error_eq (lift_error hreq self)]
  | false =>
      show macOnlyOne ssl tag piece self = _
      rw [macOnlyOne, bind_error_eq (lift_error hreq self)]

/-- The size of the segment that a piece becomes. -/
def segmentSize (encrypted : Bool) (n : Nat) : Nat :=
  let payload := if encrypted then 16 * (n / 16 + 1) else n
  1 + lengthSize (payload + macLength) + (payload + macLength)

include laws in

/-- How long a segment is follows from its piece. -/
theorem sendOne_length {self self' : BspCrypto} {encrypted : Bool} {tag : UInt8}
    {piece segment : Octets}
    (h : sendOne ssl encrypted tag piece self = .ok segment self') :
    segment.length = segmentSize encrypted piece.length := by
  by_cases hsize : piece.length ≤ maxSegmentSize - 10
  · obtain ⟨full, segment', hblock, -, hframe, hsend⟩ :=
      sendOne_ok laws self encrypted tag hsize
    rw [h] at hsend
    obtain ⟨rfl, -⟩ := EStateM.Result.ok.inj hsend
    rw [frame_length hframe (by rw [List.length_take, hblock]; rfl)]
    cases encrypted with
    | true =>
        show strictSize (cipherOf ssl self piece) = _
        rw [strictSize, cipherOf_length laws, addPadding_length]
        rfl
    | false => rfl
  · obtain ⟨e, hlarge⟩ := @sendOne_large ssl self encrypted tag piece hsize
    rw [h] at hlarge
    exact nomatch hlarge

end Sender

-- ── The size of segments ─────────────────────────────────────────────────────

/-- No segment of a call is larger than a segment may be. -/
def SizeOk (ssl : Openssl) (self : BspCrypto) (c : BspCall) : Prop :=
  ∀ segments self', c.send ssl self = .ok segments self' →
    ∀ segment ∈ segments, segment.length ≤ maxSegmentSize

/-- The octets up to which padding, length and MAC find room. -/
def roomFor (c : BspCall) : Nat := if c.encrypted then 1007 else 1008

section Size

variable {ssl : Openssl} (laws : ssl.Laws)

/-- Both kinds of calls send in this way. -/
theorem BspCall.one_eq (c : BspCall) : c.one ssl = sendOne ssl c.encrypted c.tag := by
  funext piece
  rfl

/-- Up to `roomFor` a segment has its size, and with one octet more it has not. -/
theorem segmentSize_le_iff (c : BspCall) {n : Nat} (hn : n ≤ 1010) :
    segmentSize c.encrypted n ≤ maxSegmentSize ↔ n ≤ roomFor c := by
  obtain ⟨encrypted, tag, data⟩ := c
  cases encrypted with
  | true =>
      show 1 + lengthSize (16 * (n / 16 + 1) + 8) + (16 * (n / 16 + 1) + 8) ≤ 1020
        ↔ n ≤ 1007
      rw [lengthSize]
      split_ifs
      · omega
      · omega
      · omega
  | false =>
      show 1 + lengthSize (n + 8) + (n + 8) ≤ 1020 ↔ n ≤ 1008
      rw [lengthSize]
      split_ifs
      · omega
      · omega
      · omega

include laws in
/-- What a list of pieces becomes has the sizes of the pieces. -/
theorem mapM_sendOne_length (encrypted : Bool) (tag : UInt8) {bound : Nat} :
    ∀ (pieces : List Octets) {self self' : BspCrypto} {segments : List Octets},
      pieces.mapM (sendOne ssl encrypted tag) self = .ok segments self' →
      ((∀ segment ∈ segments, segment.length ≤ bound)
        ↔ ∀ piece ∈ pieces, segmentSize encrypted piece.length ≤ bound) := by
  intro pieces
  induction pieces with
  | nil =>
      intro self self' segments h
      rw [List.mapM_nil] at h
      obtain ⟨rfl, -⟩ := EStateM.Result.ok.inj h
      constructor
      · exact fun _ piece hpiece => nomatch hpiece
      · exact fun _ segment hsegment => nomatch hsegment
  | cons piece pieces ih =>
      intro self self' segments h
      rw [List.mapM_cons] at h
      obtain ⟨segment, s1, hone, h⟩ := bind_ok_inv h
      obtain ⟨rest, s2, hrest, h⟩ := bind_ok_inv h
      obtain ⟨rfl, -⟩ := EStateM.Result.ok.inj h
      rw [List.forall_mem_cons, List.forall_mem_cons, ih hrest, sendOne_length laws hone]

include laws in
/-- **THE SIZE LIMIT** is kept exactly up to `roomFor`. -/
theorem sizeOk_iff (self : BspCrypto) (c : BspCall) :
    SizeOk ssl self c ↔ c.data.length ≤ roomFor c := by
  have hroom : roomFor c ≤ 1008 := by
    rw [roomFor]
    split_ifs
    · exact Nat.le_succ 1007
    · exact Nat.le_refl 1008
  have hpieces : SizeOk ssl self c
      ↔ ∀ piece ∈ segmentsOf c.data, segmentSize c.encrypted piece.length ≤ maxSegmentSize := by
    obtain ⟨s', r', ⟨sent, got, -, hsend, -, -, -⟩, -⟩ :=
      callOk laws (⟨rfl, rfl, rfl, rfl⟩ : InStep self self) c
    have hmap := hsend
    rw [BspCall.send_eq, BspCall.one_eq] at hmap
    rw [← mapM_sendOne_length laws c.encrypted c.tag _ hmap]
    constructor
    · exact fun h => h _ _ hsend
    · intro h segments self' hsegments
      rw [hsend] at hsegments
      obtain ⟨rfl, -⟩ := EStateM.Result.ok.inj hsegments
      exact h
  rw [hpieces]
  cases hdata : c.data with
  | nil =>
      constructor
      · exact fun _ => Nat.zero_le _
      · exact fun _ piece hpiece => nomatch hpiece
  | cons x xs =>
      have hfront : (x :: xs).take 1010 ∈ segmentsOf (x :: xs) := List.mem_cons_self
      constructor
      · intro h
        have hfirst := (segmentSize_le_iff c (List.length_take_le _ _)).mp (h _ hfront)
        rw [List.length_take] at hfirst
        omega
      · intro h piece hpiece
        have honly : segmentsOf (x :: xs) = [x :: xs] :=
          slices_single (Nat.succ_pos _) (by show _ ≤ 1010; omega)
        rw [honly, List.mem_singleton] at hpiece
        rw [hpiece]
        exact (segmentSize_le_iff c (by omega)).mpr h

end Size

-- ── The form of segments ─────────────────────────────────────────────────────

/-- What is taken is what the sender makes of what is returned, in the same state
    and with the same state behind it. -/
def CanonicalWhereTaken (ssl : Openssl) (self : BspCrypto) (segment : Octets)
    (decrypt : Bool) : Prop :=
  ∀ data self', decryptAndVerify ssl segment decrypt self = .ok data self' →
    ∃ tag, sendOne ssl decrypt tag data self = .ok segment self'

/-- Whole blocks that `add_padding` makes of something that fits a segment. -/
def PaddedPiece (padded : Octets) : Prop :=
  addPadding (removePadding padded) = padded
    ∧ (removePadding padded).length ≤ maxSegmentSize - 10

/-- What is authentic has its length in the shortest form and nothing behind it,
    and a payload of a size and a padding that the sender makes. -/
def StrictWhereAuthentic (ssl : Openssl) (self : BspCrypto) (segment : Octets)
    (decrypt : Bool) : Prop :=
  ∀ tag payload full, Authentic ssl self segment tag payload full →
    if decrypt then payload.length % aesBlockSize = 0 →
      segment.length = strictSize payload ∧ PaddedPiece (decryptedOf ssl self payload)
    else segment.length = strictSize payload ∧ payload.length ≤ maxSegmentSize - 10

section Canonical

variable {ssl : Openssl} (laws : ssl.Laws)

/-- What keeps the length of strings and is inverted from one side is inverted
    from the other: there are only so many strings of a length. -/
theorem inverse_of_length {n : Nat} {f g : Octets → Octets}
    (hlength : ∀ x : Octets, x.length = n → (f x).length = n)
    (hinverse : ∀ x : Octets, x.length = n → g (f x) = x) {y : Octets} (hy : y.length = n) :
    f (g y) = y := by
  have hfinite : Finite UInt8 := Finite.of_injective UInt8.toFin
    (fun a b h => UInt8.toFin_inj.mp h)
  let onStrings : List.Vector UInt8 n → List.Vector UInt8 n :=
    fun v => ⟨f v.val, hlength v.val v.property⟩
  have hinj : Function.Injective onStrings := by
    intro v w hvw
    have hsame : f v.val = f w.val := congrArg Subtype.val hvw
    refine Subtype.ext ?_
    rw [← hinverse v.val v.property, hsame, hinverse w.val w.property]
  obtain ⟨v, hv⟩ := Finite.injective_iff_surjective.mp hinj ⟨y, hy⟩
  have himage : f v.val = y := congrArg Subtype.val hv
  rw [← himage, hinverse v.val v.property]

include laws in

/-- Ciphertext that is decrypted is what its plaintext encrypts to. -/
theorem encrypt_decrypt {key iv blocks : Octets} (hkey : key.length = 16)
    (hiv : iv.length = 16) (hblocks : blocks.length % 16 = 0) :
    ssl.aesCbcEncrypt key iv (ssl.aesCbcDecrypt key iv blocks) = blocks :=
  inverse_of_length
    (fun x hx => (laws.encrypt_length key iv x hkey hiv (hx ▸ hblocks)).trans hx)
    (fun x hx => laws.decrypt_encrypt key iv x hkey hiv (hx ▸ hblocks)) rfl

include laws in
/-- The sender gives a payload back exactly if its padding is right. -/
theorem cipherOf_eq_iff (self : BspCrypto) (data : Octets) {payload : Octets}
    (hblocks : payload.length % aesBlockSize = 0) :
    cipherOf ssl self data = payload ↔ addPadding data = decryptedOf ssl self payload := by
  have hicv := icvOf_length laws self
  constructor
  · intro h
    rw [decryptedOf, ← h]
    exact (laws.decrypt_encrypt _ _ _ self.sEnc_length hicv (addPadding_blocks data)).symm
  · intro h
    rw [cipherOf, h]
    exact encrypt_decrypt laws self.sEnc_length hicv hblocks

include laws in
/-- The sender makes a segment with a given payload exactly if the payload and the
    size are the ones that it makes. -/
theorem sendOne_authentic_iff (encrypted : Bool) {self : BspCrypto}
    {segment payload full data : Octets} {tag : UInt8}
    (hauth : Authentic ssl self segment tag payload full)
    (hpos : encrypted = false → 0 < data.length) :
    (∃ tag', sendOne ssl encrypted tag' data self = .ok segment (moved self full))
      ↔ data.length ≤ maxSegmentSize - 10 ∧ payloadOf ssl self encrypted data = payload
        ∧ segment.length = strictSize payload := by
  constructor
  · rintro ⟨tag', hsend⟩
    by_cases hsize : data.length ≤ maxSegmentSize - 10
    · obtain ⟨full', segment', hblock, hfull, hframe, hsend'⟩ :=
        sendOne_ok laws self encrypted tag' hsize
      rw [hsend] at hsend'
      obtain ⟨rfl, -⟩ := EStateM.Result.ok.inj hsend'
      have hfits := payloadOf_fits laws self encrypted hsize
      have hmac : (full'.take macLength).length = 8 := by
        rw [List.length_take, hblock]
        rfl
      obtain ⟨segment', hframe', hparse⟩ :=
        parseSegment_frame tag' (payloadOf_pos laws self hpos) hfits hmac
      rw [hframe] at hframe'
      obtain rfl := Except.ok.inj hframe'
      have hparsed := hparse []
      rw [List.append_nil, hauth.parse] at hparsed
      obtain ⟨rfl, hparts⟩ := Prod.mk.inj (Except.ok.inj hparsed)
      obtain ⟨hpayload, hfront⟩ := Prod.mk.inj hparts
      rw [← hpayload, ← hfront] at hframe
      exact ⟨hsize, hpayload.symm, (frame_parseSegment hauth.parse).mp hframe⟩
    · obtain ⟨e, hlarge⟩ := @sendOne_large ssl self encrypted tag' data hsize
      rw [hsend] at hlarge
      exact nomatch hlarge
  · rintro ⟨hsize, hpayload, hlength⟩
    obtain ⟨full', segment', hblock, hfull, hframe, hsend⟩ :=
      sendOne_ok laws self encrypted tag hsize
    rw [hpayload, hauth.mac] at hfull
    have hsame := Except.ok.inj hfull
    rw [hpayload, ← hsame, (frame_parseSegment hauth.parse).mpr hlength] at hframe
    refine ⟨tag, ?_⟩
    rw [hsend, ← hsame, Except.ok.inj hframe]

/-- A segment that is taken is authentic. -/
theorem authentic_of_taken {self self' : BspCrypto} {segment data : Octets} {decrypt : Bool}
    (htaken : decryptAndVerify ssl segment decrypt self = .ok data self') :
    ∃ tag payload full, Authentic ssl self segment tag payload full := by
  by_contra hnone
  obtain ⟨e, hrejected⟩ := verify_unauthentic decrypt
    (fun tag payload full hauth => hnone ⟨tag, payload, full, hauth⟩)
  rw [hrejected] at htaken
  cases htaken

include laws in

/-- With a MAC only the form that is taken is the strict one. -/
theorem canonical_macOnly_iff (self : BspCrypto) (segment : Octets) :
    CanonicalWhereTaken ssl self segment false ↔ StrictWhereAuthentic ssl self segment false := by
  constructor
  · intro h tag payload full hauth
    have hpos := (parseSegment_inv hauth.parse).1
    obtain ⟨hsize, -, hlength⟩ := (sendOne_authentic_iff laws false hauth (fun _ => hpos)).mp
      (h payload _ (verify_macOnly hauth))
    exact ⟨hlength, hsize⟩
  · intro h data self' htaken
    obtain ⟨tag, payload, full, hauth⟩ := authentic_of_taken htaken
    have hpos := (parseSegment_inv hauth.parse).1
    rw [verify_macOnly hauth] at htaken
    obtain ⟨rfl, rfl⟩ := EStateM.Result.ok.inj htaken
    obtain ⟨hlength, hsize⟩ := h tag payload full hauth
    exact (sendOne_authentic_iff laws false hauth (fun _ => hpos)).mpr ⟨hsize, rfl, hlength⟩

include laws in

/-- So it is with encryption. -/
theorem canonical_encrypted_iff (self : BspCrypto) (segment : Octets) :
    CanonicalWhereTaken ssl self segment true ↔ StrictWhereAuthentic ssl self segment true := by
  constructor
  · intro h tag payload full hauth hblocks
    obtain ⟨hsize, hpayload, hlength⟩ :=
      (sendOne_authentic_iff laws true hauth (fun h => Bool.noConfusion h)).mp
        (h _ _ (verify_blocks laws hauth hblocks))
    exact ⟨hlength, (cipherOf_eq_iff laws self _ hblocks).mp hpayload, hsize⟩
  · intro h data self' htaken
    obtain ⟨tag, payload, full, hauth⟩ := authentic_of_taken htaken
    by_cases hblocks : payload.length % aesBlockSize = 0
    · rw [verify_blocks laws hauth hblocks] at htaken
      obtain ⟨rfl, rfl⟩ := EStateM.Result.ok.inj htaken
      obtain ⟨hlength, hpadded, hsize⟩ := h tag payload full hauth hblocks
      exact (sendOne_authentic_iff laws true hauth (fun h => Bool.noConfusion h)).mpr
        ⟨hsize, (cipherOf_eq_iff laws self _ hblocks).mpr hpadded, hlength⟩
    · obtain ⟨e, hrejected⟩ := verify_noBlocks laws hauth hblocks
      rw [hrejected] at htaken
      cases htaken

include laws in
/-- **THE FORM**: what is taken is what the sender makes exactly where the segment
    is strict. -/
theorem canonical_iff (self : BspCrypto) (segment : Octets) (decrypt : Bool) :
    CanonicalWhereTaken ssl self segment decrypt
      ↔ StrictWhereAuthentic ssl self segment decrypt := by
  cases decrypt with
  | true => exact canonical_encrypted_iff laws self segment
  | false => exact canonical_macOnly_iff laws self segment

end Canonical

-- ── Sizes and forms together ─────────────────────────────────────────────────

/-- **EXACTLY WHEN** the segments of a call keep the limit, and exactly when what
    is taken is what the sender makes. -/
theorem bspSegments_iff {ssl : Openssl} (laws : ssl.Laws) (self : BspCrypto) :
    (∀ c : BspCall, SizeOk ssl self c ↔ c.data.length ≤ roomFor c)
      ∧ ∀ (segment : Octets) (decrypt : Bool),
        CanonicalWhereTaken ssl self segment decrypt
          ↔ StrictWhereAuthentic ssl self segment decrypt :=
  ⟨sizeOk_iff laws self, canonical_iff laws self⟩

/-- The two halves, of an instance that has sent one segment. -/
theorem bspSegments_second :
    (∀ c : BspCall, SizeOk (opensslBy segmentsAes segmentsCmac) bspSecond c
        ↔ c.data.length ≤ roomFor c)
      ∧ ∀ (segment : Octets) (decrypt : Bool),
        CanonicalWhereTaken (opensslBy segmentsAes segmentsCmac) bspSecond segment decrypt
          ↔ StrictWhereAuthentic (opensslBy segmentsAes segmentsCmac) bspSecond segment
            decrypt :=
  bspSegments_iff (opensslBy_laws segmentsAes segmentsCmac) bspSecond

/-- The MAC-only segment with its length in two octets and one octet behind it. -/
def looseSegment : Octets := octetsOf 6 0x88810bbf2503 ++ chain2.take 8 ++ [0x00]

/-- A segment with an octet too many is authentic. -/
theorem looseSegment_authentic :
    Authentic (opensslBy segmentsAes segmentsCmac) bspSecond looseSegment 0x88
      (octetsOf 3 0xbf2503) chain2 where
  parse := by decide
  mac := by decide

/-- A piece of 1009 octets is sent in 1021, and the loose segment is taken. -/
theorem bspSegments_wrong :
    ¬ SizeOk (opensslBy segmentsAes segmentsCmac) bspSecond
        ⟨false, 0x88, List.replicate 1009 0x00⟩
      ∧ ¬ CanonicalWhereTaken (opensslBy segmentsAes segmentsCmac) bspSecond looseSegment
        false := by
  have laws := opensslBy_laws segmentsAes segmentsCmac
  constructor
  · rw [sizeOk_iff laws]
    show ¬ (List.replicate 1009 (0x00 : UInt8)).length ≤ 1008
    rw [List.length_replicate]
    decide
  · rw [canonical_iff laws]
    intro h
    have hlength := (h _ _ _ looseSegment_authentic).1
    exact absurd hlength (by decide)

end OsmoBsp
