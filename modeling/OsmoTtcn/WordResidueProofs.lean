import Mathlib.Algebra.BigOperators.Fin
import Mathlib.RingTheory.AdjoinRoot
import OsmoTtcn.CrcProofs

/-! # Words as residues

    A word of `k` bits stands for a residue of polynomials over the field of
    two elements modulo a generator of degree `k`, and different words for
    different residues.  A word that is shifted, and reduced when its top bit
    falls out, is multiplied by the root of the generator; so words are
    multiplied by shifting one and adding up where the other has its bits.

    A message of words is evaluated at a residue by Horner's rule. -/

namespace WordResidue

open Polynomial Crc

/-- The residues modulo the generator. -/
abbrev Residue (k poly : Nat) : Type := AdjoinRoot (generator k poly)

/-- The residue of a word. -/
noncomputable def res (k poly n : Nat) : Residue k poly :=
  AdjoinRoot.mk (generator k poly) (wordPoly k n)

-- ── Words and residues ───────────────────────────────────────────────────────

theorem res_xor (k poly a b : Nat) :
    res k poly (a ^^^ b) = res k poly a + res k poly b := by
  rw [res, wordPoly_xor, map_add]
  rfl

theorem res_zero (k poly : Nat) : res k poly 0 = 0 := by
  have hzero : wordPoly k 0 = 0 := by
    refine Finset.sum_eq_zero fun i _ => ?_
    rw [Nat.zero_testBit]
    exact zero_mul _
  rw [res, hzero, map_zero]

/-- A bit of a word is a coefficient of its polynomial. -/
theorem coeff_wordPoly (k n : Nat) {i : Nat} (hi : i < k) :
    (wordPoly k n).coeff i = if n.testBit i then 1 else 0 := by
  rw [wordPoly, finsetSum_coeff, Finset.sum_eq_single i]
  · cases n.testBit i <;> simp [bitPoly]
  · intro j _ hj
    cases n.testBit j <;> simp [bitPoly, coeff_X_pow, Ne.symm hj]
  · intro h
    exact absurd (Finset.mem_range.mpr hi) h

/-- **DIFFERENT WORDS, DIFFERENT RESIDUES.** -/
theorem res_injective {k poly a b : Nat} (ha : a < 2 ^ k) (hb : b < 2 ^ k)
    (h : res k poly a = res k poly b) : a = b := by
  have hdvd : generator k poly ∣ wordPoly k a - wordPoly k b := AdjoinRoot.mk_eq_mk.mp h
  have hdeg : (wordPoly k a - wordPoly k b).degree < (generator k poly).degree := by
    rw [degree_generator]
    exact lt_of_le_of_lt (degree_sub_le _ _)
      (max_lt (degree_wordPoly_lt k a) (degree_wordPoly_lt k b))
  have heq : wordPoly k a = wordPoly k b :=
    sub_eq_zero.mp (eq_zero_of_dvd_of_degree_lt hdvd hdeg)
  refine Nat.eq_of_testBit_eq fun i => ?_
  by_cases hi : i < k
  · have hcoeff := congrArg (fun p => coeff p i) heq
    simp only [coeff_wordPoly k _ hi] at hcoeff
    cases hx : a.testBit i <;> cases hy : b.testBit i <;> simp [hx, hy] at hcoeff ⊢
  · have hle : 2 ^ k ≤ 2 ^ i := Nat.pow_le_pow_right (by omega) (by omega)
    rw [Nat.testBit_lt_two_pow (by omega), Nat.testBit_lt_two_pow (by omega)]

-- ── Products ─────────────────────────────────────────────────────────────────

/-- One shift is a product with the root. -/
theorem res_step {k poly : Nat} (hk : 0 < k) (hpoly : poly < 2 ^ k) (v : Nat) :
    res k poly (step k poly v false) = AdjoinRoot.root (generator k poly) * res k poly v := by
  obtain ⟨n, rfl⟩ : ∃ n, k = n + 1 := ⟨k - 1, by omega⟩
  obtain ⟨t, ht⟩ := wordPoly_step hpoly v false
  have hnone : bitPoly false * X ^ (n + 1) = 0 := zero_mul _
  rw [res, ht, hnone, add_zero, map_add, map_mul, map_mul, AdjoinRoot.mk_self, mul_zero,
    add_zero, AdjoinRoot.mk_X]
  rfl

/-- A word shifted so many times. -/
def shifted (k poly v : Nat) : Nat → Nat
  | 0 => v
  | i + 1 => step k poly (shifted k poly v i) false

theorem res_shifted {k poly : Nat} (hk : 0 < k) (hpoly : poly < 2 ^ k) (v i : Nat) :
    res k poly (shifted k poly v i)
      = AdjoinRoot.root (generator k poly) ^ i * res k poly v := by
  induction i with
  | zero => rw [shifted, pow_zero, one_mul]
  | succ i ih =>
      rw [shifted, res_step hk hpoly, ih, pow_succ]
      ring

/-- What the first `n` bits of `p` add up to. -/
def product (k poly v p : Nat) : Nat → Nat
  | 0 => 0
  | n + 1 =>
      if p.testBit n then product k poly v p n ^^^ shifted k poly v n
      else product k poly v p n

/-- **SHIFTING AND ADDING IS THE PRODUCT.** -/
theorem res_product {k poly : Nat} (hk : 0 < k) (hpoly : poly < 2 ^ k) (v p : Nat) :
    res k poly (product k poly v p k) = res k poly v * res k poly p := by
  have hfirst : ∀ n, res k poly (product k poly v p n)
      = res k poly v * AdjoinRoot.mk (generator k poly) (wordPoly n p) := by
    intro n
    induction n with
    | zero =>
        have hzero : wordPoly 0 p = 0 := Finset.sum_range_zero _
        rw [product, res_zero, hzero, map_zero, mul_zero]
    | succ n ih =>
        rw [product, wordPoly_succ, map_add, mul_add, ← ih]
        cases p.testBit n with
        | false =>
            have hnone : bitPoly false * X ^ n = 0 := zero_mul _
            rw [if_neg Bool.false_ne_true, hnone, map_zero, mul_zero, add_zero]
        | true =>
            have hone : bitPoly true * X ^ n = X ^ n := one_mul _
            rw [if_pos rfl, res_xor, res_shifted hk hpoly, hone, map_pow, AdjoinRoot.mk_X]
            ring
  exact hfirst k

-- ── Horner's rule ────────────────────────────────────────────────────────────

section Horner

variable {R : Type} [CommRing R]

/-- The message evaluated at `p`: the last coefficient stands with `p` itself. -/
def evalAt (p : R) (ms : List R) : R :=
  ∑ i : Fin ms.length, ms[i] * p ^ (ms.length - i)

theorem horner (p : R) : ∀ (ms : List R) (e : R),
    ms.foldl (fun e m => (e + m) * p) e = e * p ^ ms.length + evalAt p ms := by
  intro ms
  induction ms with
  | nil =>
      intro e
      rw [evalAt]
      simp
  | cons m ms ih =>
      intro e
      have hcons : evalAt p (m :: ms) = m * p ^ (ms.length + 1) + evalAt p ms := by
        rw [evalAt, evalAt]
        exact (Fin.sum_univ_succ (n := ms.length) _).trans (by simp)
      rw [List.foldl_cons, ih, hcons, List.length_cons, pow_succ]
      ring

end Horner

end WordResidue
