import Mathlib.Data.Int.ModEq
import Mathlib.Data.Nat.Find
import Mathlib.Tactic.Common

/-! # Sequence numbers in a window

    A protocol numbers its blocks modulo `2 * w` and a receiver takes a number
    for the block in the window of `w` below and `w` above the next one it
    expects.  `unwrap` is that block, counted without wrapping;
    `nextExpected` is what a receiver expects after the blocks it got, and
    `lowestMissing` the first of the blocks it waits for.  A window that is not
    centred is cut out by `residueFrom`. -/

namespace SeqWindow

/-- The block with sequence number `b` in the window around `next`. -/
def unwrap (w next b : Int) : Int := next + ((b - next + w) % (2 * w) - w)

/-- **THE ONLY CANDIDATE**: a block in the window with the number `b` is the
    one that `b` stands for. -/
theorem unwrap_unique {w next b a : Int} (hmod : a ≡ b [ZMOD 2 * w])
    (hlo : next - w ≤ a) (hhi : a < next + w) : unwrap w next b = a := by
  have hshift : (b - next + w) % (2 * w) = (a - next + w) % (2 * w) :=
    ((hmod.symm.sub_right next).add_right w)
  have hsmall : (a - next + w) % (2 * w) = a - next + w :=
    Int.emod_eq_of_lt (by omega) (by omega)
  rw [unwrap, hshift, hsmall]
  omega

/-- The block with sequence number `b` modulo `m` among the `m` blocks from
    `lo` on. -/
def residueFrom (lo m b : Int) : Int := lo + (b - lo) % m

/-- Only one number of a window has the residue. -/
theorem residueFrom_unique {lo m b a : Int} (hmod : a ≡ b [ZMOD m]) (hlo : lo ≤ a)
    (hhi : a < lo + m) : residueFrom lo m b = a := by
  have hshift : (b - lo) % m = (a - lo) % m := (hmod.symm.sub_right lo)
  have hsmall : (a - lo) % m = a - lo := Int.emod_eq_of_lt (by omega) (by omega)
  rw [residueFrom, hshift, hsmall]
  omega

/-- One above the highest block received, or the first block of all. -/
def nextExpected : List Int → Int
  | [] => 0
  | a :: as => max (a + 1) (nextExpected as)

@[simp] theorem nextExpected_cons (a : Int) (as : List Int) :
    nextExpected (a :: as) = max (a + 1) (nextExpected as) := rfl

/-- What was seen is before what is expected. -/
theorem lt_nextExpected : ∀ {seen : List Int} {a : Int}, a ∈ seen →
    a < nextExpected seen := by
  intro seen
  induction seen with
  | nil => intro a hmem; exact nomatch hmem
  | cons b bs ih =>
      intro a hmem
      rw [nextExpected_cons]
      rcases List.mem_cons.mp hmem with rfl | htail
      · omega
      · have hlt := ih htail
        omega

/-- What is expected next was not received. -/
theorem not_mem_of_nextExpected_le {seen : List Int} {a : Int}
    (h : nextExpected seen ≤ a) : a ∉ seen :=
  fun hmem => absurd (lt_nextExpected hmem) (Int.not_lt.mpr h)

theorem exists_missing (seen : List Int) : ∃ n : Nat, (n : Int) ∉ seen :=
  ⟨(nextExpected seen).toNat, not_mem_of_nextExpected_le (Int.self_le_toNat _)⟩

/-- The lowest block not received. -/
def lowestMissing (seen : List Int) : Nat := Nat.find (exists_missing seen)

/-- The lowest that is missing was not seen. -/
theorem lowestMissing_not_mem (seen : List Int) : (lowestMissing seen : Int) ∉ seen :=
  Nat.find_spec (exists_missing seen)

/-- All below it were seen. -/
theorem mem_of_lt_lowestMissing {seen : List Int} {n : Nat}
    (h : n < lowestMissing seen) : (n : Int) ∈ seen :=
  not_not.mp (Nat.find_min (exists_missing seen) h)

/-- No other number has both properties. -/
theorem lowestMissing_eq {seen : List Int} {n : Nat} (hbelow : ∀ m < n, (m : Int) ∈ seen)
    (hn : (n : Int) ∉ seen) : lowestMissing seen = n :=
  (Nat.find_eq_iff (exists_missing seen)).mpr
    ⟨hn, fun m hm => not_not_intro (hbelow m hm)⟩

/-- Another block than the lowest missing one leaves that where it is. -/
theorem lowestMissing_cons_ne {seen : List Int} {a : Int}
    (h : a ≠ lowestMissing seen) : lowestMissing (a :: seen) = lowestMissing seen := by
  refine lowestMissing_eq ?_ ?_
  · intro m hm
    exact List.mem_cons_of_mem a (mem_of_lt_lowestMissing hm)
  · intro hmem
    rcases List.mem_cons.mp hmem with heq | htail
    · exact h heq.symm
    · exact lowestMissing_not_mem seen htail

/-- The lowest missing block moves on by one when the block above it is
    missing too. -/
theorem lowestMissing_cons_self {seen : List Int}
    (h : (lowestMissing seen : Int) + 1 ∉ seen) :
    lowestMissing ((lowestMissing seen : Int) :: seen) = lowestMissing seen + 1 := by
  refine lowestMissing_eq ?_ ?_
  · intro m hm
    rcases Nat.lt_or_eq_of_le (Nat.le_of_lt_succ hm) with hlt | rfl
    · exact List.mem_cons_of_mem _ (mem_of_lt_lowestMissing hlt)
    · exact List.mem_cons_self
  · intro hmem
    rcases List.mem_cons.mp hmem with heq | htail
    · omega
    · exact h (by simpa using htail)

end SeqWindow
