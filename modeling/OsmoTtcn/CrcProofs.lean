import Mathlib.Algebra.CharP.Two
import Mathlib.Algebra.Field.ZMod
import Mathlib.Algebra.Polynomial.Div
import Mathlib.Data.Nat.Bitwise
import Mathlib.Data.ZMod.Basic
import Mathlib.Tactic.Ring

/-! # Cyclic redundancy checks, a bit at a time

    A register of `k` bits is shifted once for every bit of the message and
    reduced by the generator when its top bit falls out.  Over the field of two
    elements that is long division: `register_eq_modByMonic` says that the
    register holds the remainder of the message, followed by `k` zero bits,
    divided by the generator.

    A word of `k` bits is a polynomial of degree below `k` (`wordPoly`);
    exclusive or is addition and a shift is multiplication by `X`. -/

namespace Crc

open Polynomial

-- ── The register ─────────────────────────────────────────────────────────────

/-- One bit of the message.  `poly` is the generator without its top bit. -/
def step (bits poly crc : Nat) (bit : Bool) : Nat :=
  let n := bits - 1
  let crc := crc ^^^ (bit.toNat <<< n)
  let crc := if crc &&& (1 <<< n) ≠ 0 then (crc <<< 1) ^^^ poly else crc <<< 1
  crc &&& ((1 <<< bits) - 1)

/-- A register stays within its bits. -/
theorem step_lt (bits poly crc : Nat) (bit : Bool) :
    step bits poly crc bit < 2 ^ bits := by
  have hpos : 0 < 2 ^ bits := Nat.two_pow_pos bits
  have hle : step bits poly crc bit ≤ (1 <<< bits) - 1 := Nat.and_le_right
  rw [Nat.one_shiftLeft] at hle
  omega

/-- It does so over a whole message. -/
theorem foldl_step_lt {bits poly : Nat} : ∀ (msg : List Bool) {crc : Nat},
    crc < 2 ^ bits → msg.foldl (step bits poly) crc < 2 ^ bits := by
  intro msg
  induction msg with
  | nil => intro crc h; exact h
  | cons b bs ih => intro crc _; exact ih (step_lt bits poly crc b)

-- ── Words as polynomials ─────────────────────────────────────────────────────

/-- The coefficient of a bit. -/
noncomputable def bitPoly (b : Bool) : (ZMod 2)[X] := if b then 1 else 0

/-- The `k` low bits of a word, as a polynomial. -/
noncomputable def wordPoly (k n : Nat) : (ZMod 2)[X] :=
  ∑ i ∈ Finset.range k, bitPoly (n.testBit i) * X ^ i

/-- Exclusive or of bits is a sum. -/
theorem bitPoly_xor (a b : Bool) : bitPoly (a ^^ b) = bitPoly a + bitPoly b := by
  cases a <;> cases b <;> simp [bitPoly, CharTwo.add_self_eq_zero]

/-- Exclusive or of words is a sum. -/
theorem wordPoly_xor (k a b : Nat) :
    wordPoly k (a ^^^ b) = wordPoly k a + wordPoly k b := by
  rw [wordPoly, wordPoly, wordPoly, ← Finset.sum_add_distrib]
  refine Finset.sum_congr rfl (fun i _ => ?_)
  rw [Nat.testBit_xor, bitPoly_xor, add_mul]

/-- The polynomial of a word, by its highest bit. -/
theorem wordPoly_succ (k n : Nat) :
    wordPoly (k + 1) n = wordPoly k n + bitPoly (n.testBit k) * X ^ k :=
  Finset.sum_range_succ _ _

/-- A shift is a product with `X`. -/
theorem wordPoly_shiftLeft (k n : Nat) :
    wordPoly (k + 1) (n <<< 1) = X * wordPoly k n := by
  rw [wordPoly, wordPoly, Finset.sum_range_succ', Finset.mul_sum]
  have hzero : (n <<< 1).testBit 0 = false := by
    rw [Nat.testBit_shiftLeft]
    rfl
  have hshift : ∀ i, (n <<< 1).testBit (i + 1) = n.testBit i := by
    intro i
    rw [Nat.testBit_shiftLeft, Nat.add_sub_cancel]
    exact Bool.and_eq_right_iff_imp.mpr (fun _ => decide_eq_true (by omega))
  rw [hzero]
  have hnone : bitPoly false * X ^ 0 = 0 := zero_mul _
  rw [hnone, add_zero]
  refine Finset.sum_congr rfl (fun i _ => ?_)
  rw [hshift]
  ring

/-- Bits above the highest do not count. -/
theorem wordPoly_mask (k n : Nat) :
    wordPoly k (n &&& ((1 <<< k) - 1)) = wordPoly k n := by
  refine Finset.sum_congr rfl (fun i hi => ?_)
  have hlt : i < k := Finset.mem_range.mp hi
  rw [Nat.one_shiftLeft, Nat.testBit_and, Nat.testBit_two_pow_sub_one,
      decide_eq_true hlt, Bool.and_true]

/-- A single bit at the top is a power of `X`. -/
theorem wordPoly_top (k : Nat) (b : Bool) :
    wordPoly (k + 1) (b.toNat <<< k) = bitPoly b * X ^ k := by
  rw [wordPoly_succ]
  have hlow : wordPoly k (b.toNat <<< k) = 0 := by
    refine Finset.sum_eq_zero (fun i hi => ?_)
    have hlt : i < k := Finset.mem_range.mp hi
    rw [Nat.testBit_shiftLeft, decide_eq_false (by omega), Bool.false_and]
    exact zero_mul _
  have htop : (b.toNat <<< k).testBit k = b := by
    rw [Nat.testBit_shiftLeft, Nat.sub_self]
    cases b <;> simp
  rw [hlow, htop, zero_add]

/-- A word is of lower degree than its width. -/
theorem degree_wordPoly_lt (k n : Nat) : (wordPoly k n).degree < k := by
  induction k with
  | zero =>
      have hzero : wordPoly 0 n = 0 := Finset.sum_range_zero _
      rw [hzero, degree_zero]
      exact WithBot.bot_lt_coe 0
  | succ k ih =>
      rw [wordPoly_succ]
      have hcast : ((k : Nat) : WithBot Nat) < ((k + 1 : Nat) : WithBot Nat) :=
        WithBot.coe_lt_coe.mpr (Nat.lt_succ_self k)
      refine lt_of_le_of_lt (degree_add_le _ _) (max_lt (ih.trans hcast) ?_)
      cases n.testBit k with
      | false =>
          have hnone : bitPoly false * X ^ k = 0 := zero_mul _
          rw [hnone, degree_zero]
          exact WithBot.bot_lt_coe (k + 1)
      | true =>
          have hone : bitPoly true * X ^ k = X ^ k := one_mul _
          rw [hone, degree_X_pow]
          exact hcast

-- ── Long division ────────────────────────────────────────────────────────────

/-- The generator, with its top bit. -/
noncomputable def generator (bits poly : Nat) : (ZMod 2)[X] :=
  X ^ bits + wordPoly bits poly

/-- The generator has a leading one. -/
theorem generator_monic (bits poly : Nat) : (generator bits poly).Monic :=
  monic_X_pow_add (degree_wordPoly_lt bits poly)

/-- The generator is of the degree of the register. -/
theorem degree_generator (bits poly : Nat) :
    (generator bits poly).degree = bits := by
  rw [generator, degree_add_eq_left_of_degree_lt]
  · exact degree_X_pow bits
  · rw [degree_X_pow]
    exact degree_wordPoly_lt bits poly

/-- The message, first bit first. -/
noncomputable def msgPoly (msg : List Bool) : (ZMod 2)[X] :=
  msg.foldl (fun m b => X * m + bitPoly b) 0

/-- One bit: the register is multiplied by `X`, the bit comes in at the top,
    and the generator is subtracted or not. -/
theorem wordPoly_step {n poly : Nat} (hpoly : poly < 2 ^ (n + 1)) (crc : Nat)
    (b : Bool) :
    ∃ t : Bool, wordPoly (n + 1) (step (n + 1) poly crc b)
      = X * wordPoly (n + 1) crc + bitPoly b * X ^ (n + 1)
        + bitPoly t * generator (n + 1) poly := by
  obtain ⟨s, hs⟩ : ∃ s, s = crc ^^^ (b.toNat <<< n) := ⟨_, rfl⟩
  have hsPoly : wordPoly (n + 1) s
      = wordPoly (n + 1) crc + bitPoly b * X ^ n := by
    rw [hs, wordPoly_xor, wordPoly_top]
  have htest : s &&& (1 <<< n) ≠ 0 ↔ s.testBit n = true := by
    rw [Nat.one_shiftLeft, Nat.and_two_pow]
    cases s.testBit n <;> simp
  have hshiftTop : (s <<< 1).testBit (n + 1) = s.testBit n := by
    rw [Nat.testBit_shiftLeft, Nat.add_sub_cancel]
    exact Bool.and_eq_right_iff_imp.mpr (fun _ => decide_eq_true (by omega))
  have hpolyTop : poly.testBit (n + 1) = false := Nat.testBit_lt_two_pow hpoly
  -- the bit that falls out of the register
  have hfall : ∀ w, wordPoly (n + 1) w
      = wordPoly (n + 2) w + bitPoly (w.testBit (n + 1)) * X ^ (n + 1) := by
    intro w
    rw [wordPoly_succ (n + 1), add_assoc, CharTwo.add_self_eq_zero, add_zero]
  have hstep : step (n + 1) poly crc b
      = (if s &&& (1 <<< n) ≠ 0 then (s <<< 1) ^^^ poly else s <<< 1)
        &&& ((1 <<< (n + 1)) - 1) := by
    rw [hs]
    rfl
  rw [hstep, wordPoly_mask]
  by_cases h : s &&& (1 <<< n) ≠ 0
  · refine ⟨true, ?_⟩
    rw [if_pos h, hfall, wordPoly_xor, wordPoly_shiftLeft, hsPoly,
        Nat.testBit_xor, hshiftTop, htest.mp h, hpolyTop, wordPoly_succ (n + 1),
        hpolyTop, generator]
    simp only [bitPoly, Bool.xor_false, if_true, Bool.false_eq_true, if_false]
    ring
  · refine ⟨false, ?_⟩
    have hfalse : s.testBit n = false := by
      cases hb : s.testBit n with
      | false => rfl
      | true => exact absurd (htest.mpr hb) h
    rw [if_neg h, hfall, wordPoly_shiftLeft, hsPoly, hshiftTop, hfalse]
    simp only [bitPoly, Bool.false_eq_true, if_false]
    ring

/-- The invariant of the division: what the register holds is congruent to
    what was read, moved up by the width of the register. -/
theorem generator_dvd_foldl {n poly : Nat} (hpoly : poly < 2 ^ (n + 1)) :
    ∀ (msg : List Bool) (crc : Nat) (m : (ZMod 2)[X]),
      generator (n + 1) poly ∣ wordPoly (n + 1) crc - X ^ (n + 1) * m →
      generator (n + 1) poly ∣
        wordPoly (n + 1) (msg.foldl (step (n + 1) poly) crc)
          - X ^ (n + 1) * msg.foldl (fun m b => X * m + bitPoly b) m := by
  intro msg
  induction msg with
  | nil => intro crc m h; exact h
  | cons b bs ih =>
      intro crc m h
      refine ih _ _ ?_
      obtain ⟨t, ht⟩ := wordPoly_step hpoly crc b
      have hsplit : wordPoly (n + 1) (step (n + 1) poly crc b)
          - X ^ (n + 1) * (X * m + bitPoly b)
          = X * (wordPoly (n + 1) crc - X ^ (n + 1) * m)
            + bitPoly t * generator (n + 1) poly := by
        rw [ht]
        ring
      rw [hsplit]
      exact dvd_add (Dvd.dvd.mul_left h X) (Dvd.intro_left _ rfl)

/-- **THE REGISTER IS THE REMAINDER** of the message times `X ^ bits` divided
    by the generator. -/
theorem register_eq_modByMonic {bits poly : Nat} (hbits : 0 < bits)
    (hpoly : poly < 2 ^ bits) (msg : List Bool) :
    wordPoly bits (msg.foldl (step bits poly) 0)
      = (X ^ bits * msgPoly msg) %ₘ generator bits poly := by
  obtain ⟨n, rfl⟩ : ∃ n, bits = n + 1 := ⟨bits - 1, by omega⟩
  have hzero : wordPoly (n + 1) 0 = 0 := by
    refine Finset.sum_eq_zero (fun i _ => ?_)
    rw [Nat.zero_testBit]
    exact zero_mul _
  have hstart : generator (n + 1) poly ∣ wordPoly (n + 1) 0 - X ^ (n + 1) * 0 := by
    rw [hzero, mul_zero, sub_zero]
    exact dvd_zero _
  obtain ⟨q, hq⟩ := generator_dvd_foldl hpoly msg 0 0 hstart
  have hsum : wordPoly (n + 1) (msg.foldl (step (n + 1) poly) 0)
      + generator (n + 1) poly * (-q) = X ^ (n + 1) * msgPoly msg := by
    have hexp : wordPoly (n + 1) (msg.foldl (step (n + 1) poly) 0)
        = X ^ (n + 1) * msgPoly msg + generator (n + 1) poly * q := by
      rw [← hq, msgPoly]
      ring
    rw [hexp]
    ring
  have hdeg : (wordPoly (n + 1) (msg.foldl (step (n + 1) poly) 0)).degree
      < (generator (n + 1) poly).degree := by
    rw [degree_generator]
    exact degree_wordPoly_lt (n + 1) _
  exact ((div_modByMonic_unique _ _ (generator_monic (n + 1) poly)
    ⟨hsum, hdeg⟩).2).symm

end Crc
