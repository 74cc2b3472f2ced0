import Mathlib.Data.Fin.Tuple.Basic
import Mathlib.Data.Finset.Card
import Mathlib.Data.Fintype.Card
import Mathlib.Logic.Function.Basic
import Mathlib.Tactic.Common

/-! # Fixed tables of slots

    An array of a fixed number of slots, searched from the front for the first
    slot that a test accepts.  A slot may carry a key; where no two slots carry
    the same one, the search for a key finds the slot that carries it, whatever
    the order of the slots. -/

namespace SlotTable

variable {n : Nat} {S κ : Type}

/-- The first slot that the test accepts. -/
def find (t : Fin n → S) (p : S → Bool) : Option (Fin n) :=
  Fin.find? (fun i => p (t i))

variable {t : Fin n → S} {p : S → Bool} {i : Fin n}

theorem find_eq_some :
    find t p = some i ↔ p (t i) = true ∧ ∀ j, j < i → p (t j) = false :=
  Fin.find?_eq_some_iff

theorem find_eq_none : find t p = none ↔ ∀ i, p (t i) = false :=
  Fin.find?_eq_none_iff

theorem find_accepts (h : find t p = some i) : p (t i) = true :=
  (find_eq_some.mp h).1

/-- Where a slot is accepted, one is found. -/
theorem exists_find (h : p (t i) = true) : ∃ k, find t p = some k := by
  cases hf : find t p with
  | none =>
      rw [find_eq_none.mp hf i] at h
      exact nomatch h
  | some k => exact ⟨k, rfl⟩

/-- What is made of the slot that is found. -/
theorem mem_found {α β : Type} {found : Option α} {a : α} {f : α → β}
    (h : found = some a) : f a ∈ found.toList.map f := by
  rw [h]
  exact List.mem_singleton.mpr rfl

/-- What an update does not touch is what it was. -/
theorem update_field {β : Type} (f : S → β) {s : S} (j : Fin n)
    (h : f s = f (t i) := by rfl) : f (Function.update t i s j) = f (t j) := by
  by_cases hj : j = i
  · rw [hj, Function.update_self, h]
  · rw [Function.update_of_ne hj]

/-- A slot that alone is accepted is found. -/
theorem find_of_unique (hi : p (t i) = true)
    (huniq : ∀ j, p (t j) = true → j = i) : find t p = some i := by
  refine find_eq_some.mpr ⟨hi, fun j hj => ?_⟩
  cases hp : p (t j) with
  | false => rfl
  | true =>
      rw [huniq j hp] at hj
      exact absurd hj (Fin.not_lt.mpr (Fin.le_refl i))

/-- A slot that is refused before and after does not count. -/
theorem find_update_refused {s : S} (hold : p (t i) = false) (hnew : p s = false) :
    find (Function.update t i s) p = find t p := by
  have hp : (fun j => p (Function.update t i s j)) = fun j => p (t j) := by
    funext j
    by_cases hj : j = i
    · rw [hj, Function.update_self, hold, hnew]
    · rw [Function.update_of_ne hj]
  rw [find, find, hp]

/-- A slot that alone is accepted, once it is updated. -/
theorem find_update_new {s : S} (hnone : find t p = none) (hnew : p s = true) :
    find (Function.update t i s) p = some i := by
  refine find_of_unique (by rw [Function.update_self]; exact hnew) (fun j hj => ?_)
  by_contra hji
  rw [Function.update_of_ne hji, find_eq_none.mp hnone j] at hj
  exact nomatch hj

/-- What is found in front of an updated slot was found before. -/
theorem find_update_behind {s : S} {k : Fin n} (hk : k < i) :
    find (Function.update t i s) p = some k ↔ find t p = some k := by
  have hsame : ∀ j, j ≤ k → Function.update t i s j = t j := fun j hj =>
    Function.update_of_ne (Fin.ne_of_lt (Fin.lt_of_le_of_lt hj hk)) s t
  rw [find_eq_some, find_eq_some, hsame k (Fin.le_refl k)]
  refine and_congr_right (fun _ => forall_congr' (fun j => imp_congr_right (fun hj => ?_)))
  rw [hsame j (Fin.le_of_lt hj)]

/-- What was found stays found when another slot is refused. -/
theorem find_update_refused_of_some {s : S} {k : Fin n} (hki : k ≠ i) (hnew : p s = false)
    (h : find t p = some k) : find (Function.update t i s) p = some k := by
  obtain ⟨hk, hfirst⟩ := find_eq_some.mp h
  refine find_eq_some.mpr ⟨by rw [Function.update_of_ne hki]; exact hk, fun j hj => ?_⟩
  by_cases hji : j = i
  · rw [hji, Function.update_self]
    exact hnew
  · rw [Function.update_of_ne hji]
    exact hfirst j hj

-- ── How many slots ───────────────────────────────────────────────────────────

/-- How many slots the test accepts. -/
def count (t : Fin n → S) (p : S → Bool) : Nat :=
  (Finset.univ.filter (fun i => p (t i) = true)).card

/-- A slot that is refused is one less. -/
theorem count_lt (h : p (t i) = false) : count t p < n := by
  have hno : i ∉ Finset.univ.filter (fun j => p (t j) = true) := by
    simp [h]
  have hlt := Finset.card_lt_univ_of_notMem hno
  rwa [Fintype.card_fin] at hlt

/-- A slot that was refused is accepted. -/
theorem count_update_new {s : S} (hold : p (t i) = false) (hnew : p s = true) :
    count (Function.update t i s) p = count t p + 1 := by
  have hfilter : Finset.univ.filter (fun j => p (Function.update t i s j) = true)
      = insert i (Finset.univ.filter (fun j => p (t j) = true)) := by
    ext j
    by_cases hj : j = i
    · simp [hj, hnew]
    · simp [hj]
  have hno : i ∉ Finset.univ.filter (fun j => p (t j) = true) := by
    simp [hold]
  rw [count, hfilter, Finset.card_insert_of_notMem hno, count]

/-- A slot that was accepted is refused. -/
theorem count_update_gone {s : S} (hold : p (t i) = true) (hnew : p s = false) :
    count t p = count (Function.update t i s) p + 1 := by
  have hback : Function.update (Function.update t i s) i (t i) = t := by
    rw [Function.update_idem, Function.update_eq_self]
  rw [← count_update_new (t := Function.update t i s) (i := i) (s := t i)
    (by rw [Function.update_self]; exact hnew) hold, hback]

-- ── Keys ─────────────────────────────────────────────────────────────────────

variable {key : S → Option κ}

/-- No two slots carry the same key. -/
def KeyUnique (key : S → Option κ) (t : Fin n → S) : Prop :=
  ∀ i j k, key (t i) = some k → key (t j) = some k → i = j

/-- A slot may get a key that no other slot carries. -/
theorem KeyUnique.update {s : S} (h : KeyUnique key t)
    (hnew : ∀ k, key s = some k → ∀ j, j ≠ i → key (t j) ≠ some k) :
    KeyUnique key (Function.update t i s) := by
  intro a b k ha hb
  by_cases hai : a = i
  · by_cases hbi : b = i
    · rw [hai, hbi]
    · rw [hai, Function.update_self] at ha
      rw [Function.update_of_ne hbi] at hb
      exact absurd hb (hnew k ha b hbi)
  · rw [Function.update_of_ne hai] at ha
    by_cases hbi : b = i
    · rw [hbi, Function.update_self] at hb
      exact absurd ha (hnew k hb a hai)
    · rw [Function.update_of_ne hbi] at hb
      exact h a b k ha hb

/-- Only the key of the updated slot changes. -/
theorem KeyUnique.update_same {s : S} (h : KeyUnique key t)
    (hkey : key s = key (t i)) : KeyUnique key (Function.update t i s) :=
  h.update (fun k hk j hji hj =>
    hji (h j i k hj (hkey.symm.trans hk)))

/-- A slot may lose its key. -/
theorem KeyUnique.update_none {s : S} (h : KeyUnique key t)
    (hkey : key s = none) : KeyUnique key (Function.update t i s) :=
  h.update (fun k hk => by rw [hkey] at hk; exact nomatch hk)

/-- **THE SEARCH FOR A KEY** finds the slot that carries it. -/
theorem find_key [DecidableEq κ] (h : KeyUnique key t) {k : κ} :
    find t (fun s => decide (key s = some k)) = some i ↔ key (t i) = some k := by
  constructor
  · intro hf
    exact of_decide_eq_true (find_eq_some.mp hf).1
  · intro hk
    refine find_of_unique (decide_eq_true hk) (fun j hj => ?_)
    exact h j i k (of_decide_eq_true hj) hk

end SlotTable
