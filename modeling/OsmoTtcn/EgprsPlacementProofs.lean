import OsmoTtcn.EgprsUlProofs

/-! # Where the bits of an EGPRS uplink data block go

    The data block of each header type starts at a bit offset of its own, behind
    the last bit of the header.  The encoder shifts the block up from the octet
    boundary, six bits too low for TI and E.

    With header type 3 what is copied back into the first octets is right.  With
    type 2 it is right for TI and E that are not set, and type 1 overwrites the
    header: `egprsPlacement_iff`. -/

namespace OsmoRlcmac

open OsmoTitan WireOctet BitCopy

-- ── Placement ────────────────────────────────────────────────────────────────

/-- A data block that starts on an octet boundary, of the size of its coding
    scheme. -/
structure AlignedBlock (dbl : Nat) where
  ti : Bool
  e : Bool
  data : List UInt8
  size : data.length = dbl

section Blocks

variable {dbl : Nat}

/-- The octets of the block; the top six bits of the first are spare. -/
def AlignedBlock.octets (b : AlignedBlock dbl) : List UInt8 :=
  tiEOctet b.ti b.e :: b.data

/-- Bit `n` of some octets. -/
def octetBit (octets : List UInt8) (n : Nat) : Bool := bitAt (memOf octets fun _ => 0) n

/-- The bits of the block without the spare ones. -/
def AlignedBlock.bits (b : AlignedBlock dbl) : Nat → Bool
  | 0 => b.e
  | 1 => b.ti
  | n + 2 => octetBit b.data n

/-- The block lies at the offset, in front of it lies what lay there, and the
    block can be taken out again. -/
structure Placed (offset lengthBits : Nat) (hdr : List UInt8) (b : AlignedBlock dbl)
    (out : List UInt8) : Prop where
  header : ∀ n, n < offset → octetBit out n = octetBit hdr n
  block : ∀ n, n < lengthBits → octetBit out (offset + n) = b.bits n
  back : getEgprsDataBlock out offset lengthBits = .ok b.octets

/-- The data block of a header goes where it should, whatever the heap holds. -/
def PlacementRight (mcs : CodingScheme) (htype : EgprsHeaderType) (hdr : List UInt8)
    (b : AlignedBlock dbl) : Prop :=
  ∀ heap, Placed (setupRlcMacPriv mcs htype true).dataBlockOffsets.1
    (setupRlcMacPriv mcs htype true).dataBlockBits hdr b
    (putEgprsDataBlock heap b.octets (setupRlcMacPriv mcs htype true).dataBlockOffsets.1 hdr)

/-- A block is its octets of data and one for `TI` and `E`. -/
theorem AlignedBlock.octets_length (b : AlignedBlock dbl) : b.octets.length = dbl + 1 := by
  rw [AlignedBlock.octets, List.length_cons, b.size]

/-- The octet with TI and E. -/
theorem AlignedBlock.first (b : AlignedBlock dbl) (past : Mem) :
    memOf b.octets past 0 = tiEOctet b.ti b.e := rfl

/-- The bits of the octet with `TI` and `E`. -/
theorem tiE_bits (ti e : Bool) :
    (tiEOctet ti e).toNat.testBit 0 = e
      ∧ (tiEOctet ti e).toNat.testBit 1 = ti
      ∧ ∀ r, 2 ≤ r → (tiEOctet ti e).toNat.testBit r = false := by
  have hlt : (tiEOctet ti e).toNat < 2 ^ 2 := by
    cases ti <;> cases e <;> decide
  refine ⟨?_, ?_, fun r hr => ?_⟩
  · cases ti <;> cases e <;> decide
  · cases ti <;> cases e <;> decide
  · exact Nat.testBit_lt_two_pow
      (Nat.lt_of_lt_of_le hlt (Nat.pow_le_pow_right (by decide) hr))

/-- Six bits behind TI and E, the octets hold the data. -/
theorem AlignedBlock.bitAt_octets (b : AlignedBlock dbl) (past : Mem) {n : Nat}
    (hn : n < dbl * 8) : bitAt (memOf b.octets past) (n + 8) = octetBit b.data n := by
  have hidx : n / 8 < b.data.length := by
    rw [b.size]
    exact Nat.div_lt_of_lt_mul (by omega)
  have hdiv : (n + 8) / 8 = n / 8 + 1 := by omega
  have hmod : (n + 8) % 8 = n % 8 := by omega
  have hlt : n / 8 + 1 < b.octets.length := Nat.succ_lt_succ hidx
  rw [octetBit, bitAt, bitAt, hdiv, hmod, memOf_lt hlt, memOf_lt hidx]
  rfl

-- ── Taking the block out again ───────────────────────────────────────────────

/-- **A BLOCK AT THE OFFSET** is taken out as it was. -/
theorem getEgprsDataBlock_ok {out : List UInt8} {offset : Nat} (b : AlignedBlock dbl)
    (hoff : initialSpareBits ≤ offset)
    (hreach : (offset - initialSpareBits) / 8 + dbl + 2 ≤ out.length)
    (hblock : ∀ n, n < dbl * 8 + 2 → octetBit out (offset + n) = b.bits n) :
    getEgprsDataBlock out offset (dbl * 8 + 2) = .ok b.octets := by
  have hoff' : 6 ≤ offset := hoff
  have hlen : (initialSpareBits + (dbl * 8 + 2) + 7) / 8 = dbl + 1 := by
    rw [initialSpareBits]
    omega
  have henough : ¬ out.length < (offset - initialSpareBits) / 8 + (dbl + 1)
      + if (offset - initialSpareBits) % 8 = 0 then 0 else 1 := by
    split <;> omega
  have hget : ∀ n, 6 ≤ n → n < (dbl + 1) * 8 →
      bitAt (cloneAlignedBufferLsbf (offset - initialSpareBits) (dbl + 1)
        (memOf out fun _ => 0) fun _ => 0) n = b.bits (n - 6) := by
    intro n h6 hn
    have hidx : offset - 6 + n = offset + (n - 6) := by omega
    rw [cloneAligned_bit hn, ← hblock (n - 6) (by omega), octetBit, initialSpareBits, hidx]
  simp only [getEgprsDataBlock, hlen]
  rw [if_neg henough, ← octetsAt_memOf b.octets fun _ => 0, b.octets_length]
  refine congrArg Except.ok (octetsAt_congr (fun i hi => octet_ext (fun r hr => ?_)))
  by_cases hi0 : i = 0
  · obtain ⟨he, hti, hspare⟩ := tiE_bits b.ti b.e
    have hspare6 : initialSpareBits = 6 := rfl
    have hshift : initialSpareBits < 8 := by decide
    rw [hi0, Function.update_self, testBit_shiftRight _ hshift, b.first]
    rcases Nat.lt_or_ge r 2 with hr2 | hr2
    · have hfirst := hget (initialSpareBits + r) (by omega) (by omega)
      have hidx : initialSpareBits + r - 6 = r := by omega
      rw [bitAt, Nat.div_eq_of_lt (by omega), Nat.mod_eq_of_lt (by omega), hidx] at hfirst
      rw [hfirst]
      rcases Nat.lt_or_ge r 1 with hr1 | hr1
      · obtain rfl : r = 0 := by omega
        exact he.symm
      · obtain rfl : r = 1 := by omega
        exact hti.symm
    · rw [hspare r hr2]
      exact testBit_high _ (by omega)
  · have hbit := hget (i * 8 + r) (by omega) (by omega)
    have hbits : i * 8 + r - 6 = (i * 8 + r - 8) + 2 := by omega
    have hback : i * 8 + r - 8 + 8 = i * 8 + r := by omega
    rw [bitAt_octet _ _ hr, hbits] at hbit
    rw [Function.update_of_ne hi0, hbit, ← bitAt_octet _ _ hr, ← hback,
        b.bitAt_octets _ (by omega), hback]
    rfl

/-- Bits that make the same octets. -/
theorem eq_of_octetBit {xs ys : List UInt8} (hlen : xs.length = ys.length)
    (h : ∀ n, n < xs.length * 8 → octetBit xs n = octetBit ys n) : xs = ys := by
  refine List.ext_getElem hlen (fun i hx hy => octet_ext (fun r hr => ?_))
  have hbit := h (i * 8 + r) (by omega)
  rw [octetBit, octetBit, bitAt_octet _ _ hr, bitAt_octet _ _ hr, memOf_lt hx, memOf_lt hy]
    at hbit
  exact hbit

/-- The bits at an offset of the stream are those of the block. -/
def LiesAt (stream : List UInt8) (offset : Nat) (b : AlignedBlock dbl) : Prop :=
  ∀ n, n < dbl * 8 + 2 → octetBit stream (offset + n) = b.bits n

/-- Bits of the first octets of some memory. -/
theorem octetBit_octetsAt (m : Mem) {k n : Nat} (hn : n < k * 8) :
    octetBit (octetsAt m k) n = bitAt m n := by
  have hidx : n / 8 < (octetsAt m k).length := by
    rw [octetsAt_length]
    omega
  rw [octetBit, bitAt, memOf_lt hidx, octetsAt_getElem, bitAt]

/-- **SOME BLOCK LIES AT THE OFFSET** of a stream. -/
theorem exists_liesAt (dbl : Nat) (stream : List UInt8) (offset : Nat) :
    ∃ b : AlignedBlock dbl, LiesAt stream offset b := by
  refine ⟨⟨octetBit stream (offset + 1), octetBit stream offset,
    octetsAt (cloneAlignedBufferLsbf (offset + 2) dbl (memOf stream fun _ => 0) fun _ => 0) dbl,
    octetsAt_length _ _⟩, fun n hn => ?_⟩
  match n with
  | 0 => rfl
  | 1 => rfl
  | n + 2 =>
      have hn' : n < dbl * 8 := by omega
      have hidx : offset + (n + 2) = offset + 2 + n := by omega
      rw [AlignedBlock.bits, octetBit_octetsAt _ hn', cloneAligned_bit hn', hidx, octetBit]

/-- Two blocks at one offset are the same. -/
theorem LiesAt.unique {stream : List UInt8} {offset : Nat} {b b' : AlignedBlock dbl}
    (h : LiesAt stream offset b) (h' : LiesAt stream offset b') : b = b' := by
  have hbits : ∀ n, n < dbl * 8 + 2 → b.bits n = b'.bits n := fun n hn =>
    (h n hn).symm.trans (h' n hn)
  obtain ⟨ti, e, data, size⟩ := b
  obtain ⟨ti', e', data', size'⟩ := b'
  obtain rfl : e = e' := hbits 0 (by omega)
  obtain rfl : ti = ti' := hbits 1 (by omega)
  obtain rfl : data = data' := eq_of_octetBit (size.trans size'.symm)
    (fun n hn => hbits (n + 2) (by omega))
  rfl

/-- A longer block at the same offset starts with the shorter one, and goes on
    with the bits behind it. -/
theorem LiesAt.extend {n : Nat} {stream : List UInt8} {offset : Nat} {b : AlignedBlock n}
    (h : LiesAt stream offset b) (hle : n ≤ dbl) :
    ∃ whole : AlignedBlock dbl, LiesAt stream offset whole ∧ ∃ junk,
      whole.octets = b.octets ++ junk ∧ junk.length = dbl - n
        ∧ ∀ m, m < (dbl - n) * 8 →
          octetBit junk m = octetBit stream (offset + (n * 8 + m + 2)) := by
  obtain ⟨whole, hwhole⟩ := exists_liesAt dbl stream offset
  have hbits : ∀ m, m < n * 8 + 2 → whole.bits m = b.bits m := fun m hm =>
    (hwhole m (by omega)).symm.trans (h m hm)
  have hdata : whole.data.take n = b.data := by
    have hlen : (whole.data.take n).length = n := by
      rw [List.length_take, whole.size, Nat.min_eq_left hle]
    refine eq_of_octetBit (hlen.trans b.size.symm) (fun m hm => ?_)
    rw [hlen] at hm
    have hidx : m / 8 < (whole.data.take n).length := by
      rw [hlen]
      omega
    have hbit : octetBit whole.data m = octetBit b.data m := hbits (m + 2) (by omega)
    have hlt : m / 8 < whole.data.length := by
      rw [whole.size]
      omega
    rw [← hbit, octetBit, octetBit, bitAt, bitAt, memOf_lt hidx, memOf_lt hlt, List.getElem_take]
  refine ⟨whole, hwhole, whole.data.drop n, ?_, ?_, fun m hm => ?_⟩
  · have he : whole.e = b.e := hbits 0 (by omega)
    have hti : whole.ti = b.ti := hbits 1 (by omega)
    rw [AlignedBlock.octets, AlignedBlock.octets, he, hti, List.cons_append, ← hdata,
        List.take_append_drop]
  · rw [List.length_drop, whole.size]
  · rw [hwhole (n * 8 + m + 2) (by omega)]
    have hidx : m / 8 < (whole.data.drop n).length := by
      rw [List.length_drop, whole.size]
      omega
    have hlt : (n * 8 + m) / 8 < whole.data.length := by
      rw [whole.size]
      omega
    have hdiv : (n * 8 + m) / 8 = n + m / 8 := by omega
    have hmod : (n * 8 + m) % 8 = m % 8 := by omega
    show _ = octetBit whole.data (n * 8 + m)
    rw [octetBit, octetBit, bitAt, bitAt, memOf_lt hidx, memOf_lt hlt, List.getElem_drop]
    simp only [hdiv, hmod]

-- ── Putting it behind a header ───────────────────────────────────────────────

/-- What lies in the parent buffer. -/
theorem octetBit_put (heap : Heap) (b : AlignedBlock dbl) (offset : Nat) (hdr : List UInt8)
    {n : Nat} (hn : n < (hdr.length + (dbl + 1)) * 8) :
    octetBit (putEgprsDataBlock heap b.octets offset hdr) n
      = bitAt (cloneUnalignedBufferLsbf (offset - initialSpareBits) (hdr.length + (dbl + 1))
        (memOf b.octets heap.past) (memOf hdr heap.fresh)) n := by
  rw [putEgprsDataBlock, b.octets_length, octetBit_octetsAt _ hn]

section Shifted

variable (heap : Heap) (b : AlignedBlock dbl) {offset q k : Nat} {hdr : List UInt8}

/-- What the encoder's loop leaves where the offset is not on an octet
    boundary. -/
theorem shift_split (hoff : offset = initialSpareBits + (q * 8 + k)) (h8 : k < 8) :
    offset - initialSpareBits = q * 8 + k ∧ (offset - initialSpareBits) / 8 = q
      ∧ (offset - initialSpareBits) % 8 = k := by
  omega

/-- **TYPES 2 AND 3**: behind TI and E, the block lies where it should. -/
theorem put_data (hoff : offset = initialSpareBits + (q * 8 + k)) (h0 : 0 < k) (h8 : k < 8)
    (hhdr : q < hdr.length) {n : Nat} (hn : n < dbl * 8) :
    octetBit (putEgprsDataBlock heap b.octets offset hdr) (offset + (n + 2))
      = b.bits (n + 2) := by
  obtain ⟨hsub, -, hmod⟩ := shift_split hoff h8
  have h6 : initialSpareBits = 6 := rfl
  have hidx : offset + (n + 2) = offset - initialSpareBits + (n + 8) := by omega
  rw [octetBit_put _ _ _ _ (by omega), hidx, cloneUnaligned_bit (by omega) (by omega) (by omega),
      b.bitAt_octets _ hn]
  rfl

/-- The octets in front of the offset stay. -/
theorem put_before (hoff : offset = initialSpareBits + (q * 8 + k)) (h0 : 0 < k) (h8 : k < 8)
    (hhdr : q < hdr.length) {n : Nat} (hn : n < q * 8) :
    octetBit (putEgprsDataBlock heap b.octets offset hdr) n = octetBit hdr n := by
  obtain ⟨-, hdiv, hmod⟩ := shift_split hoff h8
  have hlt : n / 8 < hdr.length := by omega
  rw [octetBit_put _ _ _ _ (by omega), bitAt, cloneUnaligned_before (by omega) (by omega),
      octetBit, bitAt, memOf_lt hlt, memOf_lt hlt]

/-- The octet at the offset gets bits of TI and E on top of the header. -/
theorem put_first (hoff : offset = initialSpareBits + (q * 8 + k)) (h0 : 0 < k) (h8 : k < 8)
    (hhdr : q < hdr.length) {r : Nat} (hr : r < 8) :
    octetBit (putEgprsDataBlock heap b.octets offset hdr) (q * 8 + r)
      = (octetBit hdr (q * 8 + r) || (decide (8 - k ≤ r)
        && (tiEOctet b.ti b.e).toNat.testBit (r - (8 - k)))) := by
  obtain ⟨-, hdiv, hmod⟩ := shift_split hoff h8
  have hfirst := @cloneUnaligned_first (offset - initialSpareBits) (hdr.length + (dbl + 1))
    (memOf b.octets heap.past) (memOf hdr heap.fresh) (by omega)
  rw [hdiv, hmod] at hfirst
  rw [octetBit_put _ _ _ _ (by omega), bitAt_octet _ _ hr, hfirst, UInt8.toNat_or,
      Nat.testBit_or, testBit_shiftLeft _ (by omega) hr, b.first, octetBit, bitAt_octet _ _ hr,
      memOf_lt hhdr, memOf_lt hhdr]

/-- The octet behind it is made anew, below the data from TI and E alone. -/
theorem put_second (hoff : offset = initialSpareBits + (q * 8 + k)) (h8 : k < 8)
    (hhdr : q < hdr.length) {r : Nat} (hr : r < k) :
    octetBit (putEgprsDataBlock heap b.octets offset hdr) ((q + 1) * 8 + r)
      = ((tiEOctet b.ti b.e).toNat.testBit (8 - k + r)
        || (tiEOctet b.ti b.e).toNat.testBit (k + r)) := by
  obtain ⟨-, hdiv, hmod⟩ := shift_split hoff h8
  have hr8 : r < 8 := Nat.lt_trans hr h8
  have hmask : (0xff >>> UInt8.ofNat (8 - k)).toNat.testBit r = true := by
    rw [testBit_shiftRight _ (by omega)]
    exact (Nat.testBit_two_pow_sub_one 8 _).trans (decide_eq_true (by omega))
  have hsecond := @cloneUnaligned_second (offset - initialSpareBits) (hdr.length + (dbl + 1))
    (memOf b.octets heap.past) (memOf hdr heap.fresh) (by omega) (by omega)
  rw [hdiv, hmod] at hsecond
  rw [octetBit_put _ _ _ _ (by omega), bitAt_octet _ _ hr8, hsecond, UInt8.toNat_or,
      Nat.testBit_or, testBit_join (by omega) h8 _ _ hr8, if_pos hr, UInt8.toNat_and,
      Nat.testBit_and, hmask, Bool.and_true, testBit_shiftRight _ h8, b.first]

/-- **THE REST FOLLOWS** from the bits of the header in the shared octets, and
    from TI and E. -/
theorem placed_of (hoff : offset = initialSpareBits + (q * 8 + k)) (h0 : 0 < k) (h8 : k < 8)
    (hhdr : q + 1 ≤ hdr.length)
    (hheader : ∀ n, q * 8 ≤ n → n < offset →
      octetBit (putEgprsDataBlock heap b.octets offset hdr) n = octetBit hdr n)
    (he : octetBit (putEgprsDataBlock heap b.octets offset hdr) offset = b.e)
    (hti : octetBit (putEgprsDataBlock heap b.octets offset hdr) (offset + 1) = b.ti) :
    Placed offset (dbl * 8 + 2) hdr b
      (putEgprsDataBlock heap b.octets offset hdr) := by
  have hblock : ∀ n, n < dbl * 8 + 2 →
      octetBit (putEgprsDataBlock heap b.octets offset hdr) (offset + n) = b.bits n := by
    intro n hn
    match n with
    | 0 => exact he
    | 1 => exact hti
    | n + 2 => exact put_data heap b hoff h0 h8 hhdr (by omega)
  refine ⟨fun n hn => ?_, hblock, getEgprsDataBlock_ok b (by omega) ?_ hblock⟩
  · rcases Nat.lt_or_ge n (q * 8) with hlt | hge
    · exact put_before heap b hoff h0 h8 hhdr hlt
    · exact hheader n hge hn
  · obtain ⟨-, hdiv, -⟩ := shift_split hoff h8
    rw [putEgprsDataBlock, octetsAt_length, b.octets_length]
    omega

end Shifted

-- ── Header types ─────────────────────────────────────────────────────────────

/-- **TYPE 3**: one bit of the header octet, and one of the octet behind. -/
theorem placed_type3 (heap : Heap) (b : AlignedBlock dbl) {h0 h1 h2 h3 : UInt8}
    (hh3 : h3.toNat < 128) :
    Placed 31 (dbl * 8 + 2) [h0, h1, h2, h3] b
      (putEgprsDataBlock heap b.octets 31 [h0, h1, h2, h3]) := by
  obtain ⟨hbe, hbti, hspare⟩ := tiE_bits b.ti b.e
  have hoff : 31 = initialSpareBits + (3 * 8 + 1) := rfl
  have hhdr : 3 < [h0, h1, h2, h3].length := Nat.lt_succ_self 3
  have hfirst : ∀ {r : Nat}, r < 8 → _ := fun {r} hr =>
    put_first heap b hoff (by decide) (by decide) hhdr (r := r) hr
  refine placed_of heap b hoff (by decide) (by decide) hhdr (fun n hge hn => ?_) ?_ ?_
  · obtain ⟨r, rfl⟩ := Nat.exists_eq_add_of_le hge
    rw [hfirst (by omega), decide_eq_false (by omega), Bool.false_and, Bool.or_false]
  · have htop : octetBit [h0, h1, h2, h3] (3 * 8 + 7) = false := Nat.testBit_lt_two_pow hh3
    exact (hfirst (show 7 < 8 by decide)).trans (by rw [htop]; exact hbe)
  · have hsecond := put_second heap b hoff (by decide) hhdr (show 0 < 1 by decide)
    exact hsecond.trans (by rw [hspare 7 (by decide), hbti]; rfl)

/-- **TYPE 2**: TI and E end up in the header, and are read as zero. -/
theorem placed_type2_iff (heap : Heap) (b : AlignedBlock dbl) (h0 h1 h2 h3 : UInt8) :
    Placed 37 (dbl * 8 + 2) [h0, h1, h2, h3, 0] b
        (putEgprsDataBlock heap b.octets 37 [h0, h1, h2, h3, 0])
      ↔ b.ti = false ∧ b.e = false := by
  obtain ⟨hbe, hbti, hspare⟩ := tiE_bits b.ti b.e
  have hoff : 37 = initialSpareBits + (3 * 8 + 7) := rfl
  have hhdr : 3 + 1 < [h0, h1, h2, h3, 0].length := Nat.lt_succ_self 4
  have hsecond : ∀ {r : Nat}, r < 7 → _ := fun {r} hr =>
    put_second heap b hoff (by decide) (Nat.lt_of_succ_lt hhdr) (r := r) hr
  have hlost : ∀ r, 1 ≤ r → r < 7 → octetBit (putEgprsDataBlock heap b.octets 37
      [h0, h1, h2, h3, 0]) ((3 + 1) * 8 + r) = false := by
    intro r h1r hr
    rw [hsecond hr, hspare (8 - 7 + r) (by omega), hspare (7 + r) (by omega)]
    rfl
  constructor
  · intro h
    have he := h.block 0 (by omega)
    have hti := h.block 1 (by omega)
    exact ⟨hti.symm.trans (hlost 6 (by decide) (by decide)),
      he.symm.trans (hlost 5 (by decide) (by decide))⟩
  · rintro ⟨hti, he⟩
    have hzero : ∀ r, (tiEOctet b.ti b.e).toNat.testBit r = false := by
      intro r
      match r with
      | 0 => exact hbe.trans he
      | 1 => exact hbti.trans hti
      | r + 2 => exact hspare _ (Nat.le_add_left 2 r)
    refine placed_of heap b hoff (by decide) (by decide) (Nat.lt_of_succ_lt hhdr)
      (fun n hge hn => ?_) ?_ ?_
    · rcases Nat.lt_or_ge n 32 with hlt | hge'
      · obtain ⟨r, rfl⟩ := Nat.exists_eq_add_of_le hge
        rw [put_first heap b hoff (by decide) (by decide) (Nat.lt_of_succ_lt hhdr) (by omega),
            hzero, Bool.and_false, Bool.or_false]
      · obtain ⟨r, rfl⟩ := Nat.exists_eq_add_of_le hge'
        have hr : r < 5 := by omega
        have hspareLo : octetBit [h0, h1, h2, h3, 0] ((3 + 1) * 8 + r) = false :=
          (bitAt_octet _ _ (by omega)).trans (Nat.zero_testBit r)
        exact (hsecond (by omega)).trans (by rw [hzero, hzero, hspareLo]; rfl)
    · exact (hlost 5 (by decide) (by decide)).trans he.symm
    · exact (hlost 6 (by decide) (by decide)).trans hti.symm

/-- **TYPE 1**: the last octet of the block comes from behind its end. -/
theorem put_type1 (heap : Heap) (b : AlignedBlock dbl) {hdr : List UInt8}
    (hhdr : hdr.length = 6) :
    octetBit (putEgprsDataBlock heap b.octets 46 hdr) (46 + (dbl * 8 + 1))
      = (heap.past 9).toNat.testBit 7 := by
  have he : (46 - initialSpareBits) % 8 = 0 := rfl
  have hidx : 46 + (dbl * 8 + 1) = (dbl + 5) * 8 + 7 := by omega
  have hpast : memOf b.octets heap.past (5 + (dbl + 5)) = heap.past 9 := by
    have hbehind : b.octets.length ≤ 5 + (dbl + 5) := by
      rw [b.octets_length]
      omega
    rw [memOf, List.getD_eq_getElem?_getD, List.getElem?_eq_none hbehind, Option.getD_none,
        b.octets_length]
    exact congrArg heap.past (by omega)
  rw [octetBit_put _ _ _ _ (by omega), hidx, bitAt_octet _ _ (by decide)]
  simp only [cloneUnalignedBufferLsbf, if_pos he]
  rw [memcpy, if_pos ⟨Nat.zero_le _, by omega⟩]
  exact congrArg (fun o : UInt8 => o.toNat.testBit 7) hpast

/-- Under a header of type 1 the last bit comes from an octet that nobody wrote. -/
theorem not_placementRight_type1 (mcs : CodingScheme) {hdr : List UInt8} (hhdr : hdr.length = 6)
    (b : AlignedBlock (codingScheme2DataBlockLen mcs)) :
    ¬ PlacementRight mcs .type1 hdr b := by
  intro h
  have hlast : ∀ o : UInt8, o.toNat.testBit 7
      = b.bits (codingScheme2DataBlockLen mcs * 8 + 1) := fun o =>
    (put_type1 ⟨fun _ => o, fun _ => 0⟩ b hhdr).symm.trans
      ((h ⟨fun _ => o, fun _ => 0⟩).block _ (Nat.lt_succ_self _))
  exact absurd ((hlast 0).trans (hlast 0x80).symm) (by decide)

end Blocks

-- ── All header types ─────────────────────────────────────────────────────────

/-- A header of type 1 is of six octets. -/
theorem encType1_length {h : EgprsUlMacDataHeader} {hdr : List UInt8}
    (henc : encRlcmacUlEgprsDataHeaderType1 h = .ok hdr) : hdr.length = 6 := by
  rw [encRlcmacUlEgprsDataHeaderType1] at henc
  cases hbsn : h.bsn2Offset with
  | none =>
      rw [hbsn] at henc
      exact nomatch henc
  | some bsn2 =>
      rw [hbsn] at henc
      rw [← Except.ok.inj henc]
      rfl

/-- **WHEN THE DATA BLOCK GOES TO ITS PLACE**: for every header and every block
    of the size of the coding scheme, iff the header is of type 3, or it is of
    type 2 and neither TI nor E is set. -/
theorem egprsPlacement_iff {mcs : CodingScheme} {h : EgprsUlMacDataHeader} {hdr : List UInt8}
    (henc : encRlcmacUlEgprsDataHeader h = .ok hdr)
    (b : AlignedBlock (codingScheme2DataBlockLen mcs)) :
    PlacementRight mcs h.headerType hdr b
      ↔ h.headerType = .type3 ∨ h.headerType = .type2 ∧ b.ti = false ∧ b.e = false := by
  rw [encRlcmacUlEgprsDataHeader] at henc
  cases htype : h.headerType with
  | type1 =>
      rw [htype] at henc
      refine iff_of_false (not_placementRight_type1 mcs (encType1_length henc) b) ?_
      rintro (h3 | ⟨h2, -⟩)
      · cases h3
      · cases h2
  | type2 =>
      rw [htype] at henc
      obtain rfl := Except.ok.inj henc
      constructor
      · intro hright
        exact Or.inr ⟨rfl, (placed_type2_iff _ b _ _ _ _).mp
          (hright ⟨fun _ => 0, fun _ => 0⟩)⟩
      · rintro (h3 | ⟨-, hzero⟩)
        · cases h3
        · exact fun heap => (placed_type2_iff heap b _ _ _ _).mpr hzero
  | type3 =>
      rw [htype] at henc
      refine iff_of_true (fun heap => ?_) (Or.inl rfl)
      cases hspb : h.spb with
      | none =>
          have hnone : encRlcmacUlEgprsDataHeaderType3 h = .ok hdr := henc
          rw [encRlcmacUlEgprsDataHeaderType3, hspb] at hnone
          cases hnone
      | some spb =>
          obtain ⟨o0, o1, o2, o3, henc', hlt, -⟩ := decEgprsUlMacDataHeaderType3_enc hspb
          obtain rfl := Except.ok.inj (henc.symm.trans henc')
          exact placed_type3 heap b hlt

/-- A header of the type, with a coding scheme of that type. -/
def placementHdr (htype : EgprsHeaderType) (cps : Fin 16) : EgprsUlMacDataHeader where
  headerType := htype
  tfi := ⟨3, by decide⟩
  countdown := ⟨15, by decide⟩
  foiSi := false
  rRi := false
  bsn1 := ⟨1029, by decide⟩
  bsn2Offset := some ⟨1, by decide⟩
  cps := cps
  pfiInd := false
  rsb := false
  spb := some (false, false)

/-- A block that has no extension octets. -/
def filledBlock (dbl : Nat) (e : Bool) : AlignedBlock dbl :=
  ⟨false, e, List.replicate dbl 0x2b, List.length_replicate⟩

/-- An MCS-1 block lies at the bits of its header type. -/
theorem egprsPlacement_iff_mcs1 :
    encRlcmacUlEgprsDataHeader (placementHdr .type3 11) = .ok [0xfc, 0x28, 0xe0, 0x02]
      ∧ PlacementRight .mcs1 .type3 [0xfc, 0x28, 0xe0, 0x02] (filledBlock 22 true) :=
  have henc : encRlcmacUlEgprsDataHeader (placementHdr .type3 11)
      = .ok [0xfc, 0x28, 0xe0, 0x02] := rfl
  ⟨henc, (@egprsPlacement_iff .mcs1 _ _ henc (filledBlock 22 true)).mpr (Or.inl rfl)⟩

/-- **TYPES 1 AND 2**: an MCS-5 block with E, and an MCS-7 block. -/
theorem not_placementRight_mcs5_mcs7 :
    (∃ hdr, encRlcmacUlEgprsDataHeader (placementHdr .type2 4) = .ok hdr
      ∧ ¬ PlacementRight .mcs5 .type2 hdr (filledBlock 56 true))
    ∧ ∃ hdr, encRlcmacUlEgprsDataHeader (placementHdr .type1 15) = .ok hdr
      ∧ ¬ PlacementRight .mcs8 .type1 hdr (filledBlock 68 false) := by
  refine ⟨⟨_, rfl, fun h => ?_⟩, ⟨_, rfl, ?_⟩⟩
  · have hplaced := (placed_type2_iff _ (filledBlock 56 true) _ _ _ _).mp
      (h ⟨fun _ => 0, fun _ => 0⟩)
    exact nomatch hplaced.2
  · exact not_placementRight_type1 .mcs8 rfl (filledBlock 68 false)

end OsmoRlcmac
