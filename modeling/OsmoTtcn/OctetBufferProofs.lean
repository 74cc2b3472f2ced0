import OsmoTtcn.DerProofs

/-! # Buffers of a fixed size

    C code for ciphers works on buffers whose sizes are constants: it puts one
    over another by exclusive or, copies a piece out of one, and compares two
    with `memcmp`.  A buffer is a vector of octets here, and `memcmp` is the
    order of the numbers that the buffers are, most significant octet first. -/

namespace OctetBuffer

variable {m n : Nat}

/-- Octet by octet, exclusive or. -/
def xor (a b : Vector UInt8 n) : Vector UInt8 n := Vector.zipWith (fun x y => x ^^^ y) a b

/-- Each octet is that of both. -/
theorem xor_getElem (a b : Vector UInt8 n) (i : Nat) (h : i < n) :
    (xor a b)[i] = a[i] ^^^ b[i] := Vector.getElem_zipWith h

/-- What is added twice does nothing. -/
theorem xor_xor (a b : Vector UInt8 n) : xor (xor a b) b = a := by
  refine Vector.ext fun i h => ?_
  rw [xor_getElem, xor_getElem, UInt8.xor_assoc, UInt8.xor_self, UInt8.xor_zero]

/-- `n` octets from octet `i` on. -/
def slice (v : Vector UInt8 m) (i n : Nat) : Vector UInt8 n :=
  Vector.ofFn fun j => v[i + j.val]?.getD 0

/-- An octet of a part is one of the whole. -/
theorem slice_getElem (v : Vector UInt8 m) {i j : Nat} (h : i + n ≤ m) (hj : j < n) :
    (slice v i n)[j] = v[i + j] := by
  rw [slice, Vector.getElem_ofFn, Vector.getElem?_eq_getElem (by omega), Option.getD_some]

/-- The piece in front. -/
theorem slice_append_left (a : Vector UInt8 m) (b : Vector UInt8 n) :
    slice (a ++ b) 0 m = a := by
  refine Vector.ext fun i h => ?_
  rw [slice_getElem _ (by omega), Vector.getElem_append_left (by omega)]
  simp

/-- The piece behind. -/
theorem slice_append_right (a : Vector UInt8 m) (b : Vector UInt8 n) :
    slice (a ++ b) m n = b := by
  refine Vector.ext fun i h => ?_
  have hi : m ≤ m + i := Nat.le_add_right m i
  rw [slice_getElem _ (by omega), Vector.getElem_append_right (by omega) hi]
  simp

/-- Both pieces give the buffer. -/
theorem append_slices (v : Vector UInt8 (m + n)) :
    slice v 0 m ++ slice v m n = v := by
  refine Vector.ext fun i h => ?_
  by_cases hi : i < m
  · rw [Vector.getElem_append_left hi, slice_getElem _ (by omega)]
    simp
  · have hle : m ≤ i := Nat.le_of_not_lt hi
    rw [Vector.getElem_append_right (by omega) hle, slice_getElem _ (by omega)]
    simp [Nat.add_sub_cancel' hle]

/-- The number that the octets are. -/
def num (v : Vector UInt8 n) : Nat := Der.ofOctets v.toList

/-- The first octets that differ, as `memcmp` compares them. -/
def compareOctets : List UInt8 → List UInt8 → Int
  | a :: as, b :: bs => if a = b then compareOctets as bs else (a.toNat : Int) - b.toNat
  | _, _ => 0

/-- `memcmp` on two buffers of one size. -/
def memcmp (a b : Vector UInt8 n) : Int := compareOctets a.toList b.toList

/-- The first octet is worth most. -/
theorem ofOctets_cons (o : UInt8) (os : List UInt8) :
    Der.ofOctets (o :: os) = o.toNat * 256 ^ os.length + Der.ofOctets os := by
  rw [Der.ofOctets, Der.ofOctets, List.map_cons, List.reverse_cons, Nat.ofDigits_append,
    Nat.ofDigits_singleton, List.length_reverse, List.length_map]
  ring

/-- Octets compare as the numbers that they are. -/
theorem compareOctets_nonpos_iff : ∀ {as bs : List UInt8}, as.length = bs.length →
    (compareOctets as bs ≤ 0 ↔ Der.ofOctets as ≤ Der.ofOctets bs) := by
  intro as
  induction as with
  | nil =>
      intro bs h
      obtain rfl : bs = [] := List.eq_nil_of_length_eq_zero h.symm
      exact iff_of_true (Int.le_refl 0) (Nat.le_refl _)
  | cons a as ih =>
      intro bs h
      cases bs with
      | nil => exact absurd h (Nat.succ_ne_zero _)
      | cons b bs =>
          have hlen : as.length = bs.length := Nat.succ.inj h
          rw [compareOctets, ofOctets_cons, ofOctets_cons, hlen]
          by_cases hab : a = b
          · rw [if_pos hab, ih hlen, hab]
            omega
          · -- the octet that differs outweighs all that follow
            have has := hlen ▸ Der.ofOctets_lt as
            have hbs := Der.ofOctets_lt bs
            have hne : a.toNat ≠ b.toNat := fun h => hab (UInt8.toNat_inj.mp h)
            rw [if_neg hab]
            rcases Nat.lt_or_gt_of_ne hne with hlt | hgt
            · have hmul := Nat.mul_le_mul_right (256 ^ bs.length) (Nat.succ_le_of_lt hlt)
              rw [Nat.succ_mul] at hmul
              exact iff_of_true (by omega) (by omega)
            · have hmul := Nat.mul_le_mul_right (256 ^ bs.length) (Nat.succ_le_of_lt hgt)
              rw [Nat.succ_mul] at hmul
              exact iff_of_false (by omega) (by omega)

/-- **`memcmp` COMPARES NUMBERS.** -/
theorem memcmp_nonpos_iff (a b : Vector UInt8 n) : memcmp a b ≤ 0 ↔ num a ≤ num b :=
  compareOctets_nonpos_iff (by rw [Vector.length_toList, Vector.length_toList])

/-- They compare as equal if they are. -/
theorem compareOctets_eq_zero_iff : ∀ {as bs : List UInt8}, as.length = bs.length →
    (compareOctets as bs = 0 ↔ as = bs) := by
  intro as
  induction as with
  | nil =>
      intro bs h
      obtain rfl : bs = [] := List.eq_nil_of_length_eq_zero h.symm
      exact iff_of_true rfl rfl
  | cons a as ih =>
      intro bs h
      cases bs with
      | nil => exact absurd h (Nat.succ_ne_zero _)
      | cons b bs =>
          rw [compareOctets]
          by_cases hab : a = b
          · rw [if_pos hab, ih (Nat.succ.inj h), hab, List.cons_inj_right]
          · have hne : a.toNat ≠ b.toNat := fun h => hab (UInt8.toNat_inj.mp h)
            rw [if_neg hab]
            exact iff_of_false (by omega) (fun h => hab (List.cons.inj h).1)

/-- `memcmp` is zero for equal buffers. -/
theorem memcmp_eq_zero_iff (a b : Vector UInt8 n) : memcmp a b = 0 ↔ a = b :=
  (compareOctets_eq_zero_iff (by rw [Vector.length_toList, Vector.length_toList])).trans
    Vector.toList_inj

end OctetBuffer
