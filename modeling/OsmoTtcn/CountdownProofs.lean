import Mathlib.Algebra.Order.Floor.Div
import Mathlib.Tactic.Common

/-! # Countdowns

    A sender announces with each item how many are to follow, as far as this is
    at most `mx`, and `mx + 1` before.  It has to foresee this number.  A
    countdown is right exactly if each item from the first announced number on
    is foreseen to be followed by one item more than the next one
    (`countsDown_cons`). -/

namespace Countdown

/-- What is announced where `x` items are foreseen. -/
def announce (mx x : Nat) : Nat := if x ≤ mx then x else mx + 1

/-- Up to `mx` the number of items that follow is announced; the numbers never
    increase, and the last one only is 0. -/
def CountsDown (mx : Nat) : List Nat → Prop
  | [] => True
  | c :: cs => (c ≤ mx → c = cs.length) ∧ (∀ c' ∈ cs.head?, c' ≤ c) ∧ (c = 0 ↔ cs = [])
      ∧ CountsDown mx cs

variable {mx : Nat}

/-- Up to the maximum the number itself is announced. -/
theorem announce_of_le {x : Nat} (h : x ≤ mx) : announce mx x = x := if_pos h

/-- Beyond it one more than the maximum is. -/
theorem announce_of_lt {x : Nat} (h : mx < x) : announce mx x = mx + 1 :=
  if_neg (Nat.not_le.mpr h)

/-- More is never announced. -/
theorem announce_le (x : Nat) : announce mx x ≤ mx + 1 := by
  by_cases h : x ≤ mx
  · rw [announce_of_le h]
    omega
  · rw [announce_of_lt (Nat.not_le.mp h)]

/-- The last item. -/
theorem countsDown_last : CountsDown mx [announce mx 0] := by
  have hzero : announce mx 0 = 0 := announce_of_le (Nat.zero_le mx)
  rw [hzero]
  refine ⟨fun _ => rfl, fun c' h => ?_, iff_of_true rfl rfl, trivial⟩
  cases h

/-- **ONE MORE THAN THE NEXT**: what is foreseen in front of a right countdown. -/
theorem countsDown_cons {x x' : Nat} {cs : List Nat} :
    CountsDown mx (announce mx x :: announce mx x' :: cs)
      ↔ (x ≤ mx → x = x' + 1) ∧ CountsDown mx (announce mx x' :: cs) := by
  constructor
  · rintro ⟨hcount, hle, -, hrest⟩
    refine ⟨fun hx => ?_, hrest⟩
    rw [announce_of_le hx] at hcount hle
    have hnext : announce mx x' ≤ x := hle _ rfl
    have hx' : x' ≤ mx := by
      by_contra hlt
      rw [announce_of_lt (Nat.not_le.mp hlt)] at hnext
      omega
    have hhere : x = (announce mx x' :: cs).length := hcount hx
    have hthere := hrest.1
    rw [announce_of_le hx'] at hthere
    rw [hhere, List.length_cons, ← hthere hx']
  · rintro ⟨hforeseen, hrest⟩
    have hbound := @announce_le mx x'
    by_cases hx : x ≤ mx
    · have heq := hforeseen hx
      have hx' : x' ≤ mx := by omega
      have hthere := hrest.1
      rw [announce_of_le hx'] at hthere hrest ⊢
      rw [announce_of_le hx]
      refine ⟨fun _ => ?_, ?_, ?_, hrest⟩
      · rw [List.length_cons, ← hthere hx']
        exact heq
      · intro c' hc'
        rw [← Option.some.inj hc']
        omega
      · exact iff_of_false (by omega) (List.cons_ne_nil _ _)
    · rw [announce_of_lt (Nat.not_le.mp hx)]
      refine ⟨fun h => absurd h (Nat.not_succ_le_self mx), ?_, ?_, hrest⟩
      · intro c' hc'
        rw [← Option.some.inj hc']
        exact hbound
      · exact iff_of_false (Nat.succ_ne_zero mx) (List.cons_ne_nil _ _)

-- ── Whole blocks ─────────────────────────────────────────────────────────────

/-- Something to send takes a block. -/
theorem ceilDiv_pos {n m : Nat} (hm : 0 < m) (hn : 0 < n) : 0 < n ⌈/⌉ m := by
  by_contra h
  have hle := (ceilDiv_le_iff_le_mul hm).mp (Nat.le_of_not_lt h)
  rw [Nat.mul_zero] at hle
  omega

/-- What fits one block. -/
theorem ceilDiv_eq_one {n m : Nat} (hn : 0 < n) (hnm : n ≤ m) : n ⌈/⌉ m = 1 := by
  have hm : 0 < m := Nat.lt_of_lt_of_le hn hnm
  refine Nat.le_antisymm ((ceilDiv_le_iff_le_mul hm).mpr ?_) (ceilDiv_pos hm hn)
  rw [Nat.mul_one]
  exact hnm

/-- **EXTRA OCTETS** cost no block of their own exactly if they fit what the last
    block leaves free. -/
theorem ceilDiv_extra_iff {n l m : Nat} (hm : 0 < m) (hn : 0 < n) (h : m < n + l) :
    (n + l - m) ⌈/⌉ m + 1 = n ⌈/⌉ m ↔ l ≤ m * (n ⌈/⌉ m) - n := by
  obtain ⟨q, hq⟩ := Nat.exists_eq_succ_of_ne_zero (Nat.ne_of_gt (ceilDiv_pos hm hn))
  have hup : n ≤ m * (q + 1) := (ceilDiv_le_iff_le_mul hm).mp (Nat.le_of_eq hq)
  have hlow : ¬ n ≤ m * q := fun hle => by
    have hlt := (ceilDiv_le_iff_le_mul hm).mpr hle
    omega
  rw [Nat.mul_add, Nat.mul_one] at hup
  rw [hq, Nat.succ_eq_add_one, Nat.mul_add, Nat.mul_one, Nat.add_right_cancel_iff]
  constructor
  · intro heq
    have hle := (ceilDiv_le_iff_le_mul hm).mp (Nat.le_of_eq heq)
    omega
  · intro hl
    refine Nat.le_antisymm ((ceilDiv_le_iff_le_mul hm).mpr (by omega)) ?_
    by_contra hlt
    obtain ⟨k, rfl⟩ : ∃ k, q = k + 1 := ⟨q - 1, by omega⟩
    have hle := (ceilDiv_le_iff_le_mul hm).mp
      (show (n + l - m) ⌈/⌉ m ≤ k by omega)
    rw [Nat.mul_add, Nat.mul_one] at hlow
    omega

end Countdown
