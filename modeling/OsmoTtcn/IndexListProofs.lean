import Mathlib.Data.List.Nodup
import Mathlib.Tactic.Common

/-! # Lists of indices

    Beside a table there is a list of the indices of the entries that meet a
    condition.  It is not computed anew when an entry changes: the index is
    added, removed or left as it is.  `Indexes` is what the list has to be, and
    `push`, `set_add`, `set_del` and `set_same` say when each of these keeps it
    so. -/

namespace IndexList

section Lists

variable {α : Type} [DecidableEq α]

/-- An element is added at the end, if it is new. -/
def addUnique (r : List α) (x : α) : List α := if x ∈ r then r else r ++ [x]

/-- All occurrences are removed. -/
def del (r : List α) (x : α) : List α := r.filter (fun y => decide (y ≠ x))

@[simp] theorem del_cons_self {r : List α} {x : α} : del (x :: r) x = del r x :=
  List.filter_cons_of_neg (by simp)

/-- Another number stays. -/
theorem del_cons_of_ne {r : List α} {x y : α} (h : y ≠ x) :
    del (y :: r) x = y :: del r x :=
  List.filter_cons_of_pos (decide_eq_true h)

/-- A number that is added is there, with all the others. -/
theorem mem_addUnique {r : List α} {x y : α} :
    y ∈ addUnique r x ↔ y = x ∨ y ∈ r := by
  rw [addUnique]
  by_cases hx : x ∈ r
  · rw [if_pos hx]
    constructor
    · exact Or.inr
    · rintro (rfl | hy)
      · exact hx
      · exact hy
  · rw [if_neg hx, List.mem_append, List.mem_singleton]
    exact or_comm

/-- It is there once. -/
theorem nodup_addUnique {r : List α} {x : α} (h : r.Nodup) :
    (addUnique r x).Nodup := by
  rw [addUnique]
  by_cases hx : x ∈ r
  · rw [if_pos hx]
    exact h
  · rw [if_neg hx]
    exact List.nodup_append.mpr ⟨h, List.nodup_singleton x, fun y hy z hz heq =>
      hx (List.mem_singleton.mp hz ▸ heq ▸ hy)⟩

/-- A number that is deleted is not there, all the others are. -/
theorem mem_del {r : List α} {x y : α} : y ∈ del r x ↔ y ∈ r ∧ y ≠ x := by
  rw [del, List.mem_filter, decide_eq_true_iff]

/-- They are there once. -/
theorem nodup_del {r : List α} {x : α} (h : r.Nodup) : (del r x).Nodup :=
  h.filter _

end Lists

-- ── Indices of a table ───────────────────────────────────────────────────────

variable {τ : Type} {p : τ → Prop} {l : List τ} {r : List Int}

/-- The number is the index of an entry that meets the condition. -/
def At (p : τ → Prop) (l : List τ) (x : Int) : Prop :=
  ∃ i : Nat, x = i ∧ ∃ e, l[i]? = some e ∧ p e

/-- The list has the indices of the entries that meet the condition, each
    once. -/
structure Indexes (p : τ → Prop) (l : List τ) (r : List Int) : Prop where
  nodup : r.Nodup
  mem : ∀ x, x ∈ r ↔ At p l x

/-- There are no indexes of an empty list. -/
theorem indexes_nil : Indexes p [] [] where
  nodup := List.nodup_nil
  mem := by
    intro x
    constructor
    · exact fun hx => nomatch hx
    · rintro ⟨i, -, e, he, -⟩
      exact nomatch he

/-- Which indexes hold after one element was set. -/
theorem at_set {i : Nat} {e : τ} {x : Int} (hi : i < l.length) :
    At p (l.set i e) x ↔ (x = i ∧ p e) ∨ (x ≠ i ∧ At p l x) := by
  constructor
  · rintro ⟨j, rfl, e', he', hp⟩
    by_cases hij : i = j
    · rw [← hij, List.getElem?_set_self hi] at he'
      rw [← Option.some.inj he'] at hp
      exact Or.inl ⟨congrArg Nat.cast hij.symm, hp⟩
    · rw [List.getElem?_set_ne hij] at he'
      exact Or.inr ⟨fun heq => hij (Int.ofNat.inj heq).symm, j, rfl, e', he', hp⟩
  · rintro (⟨rfl, hp⟩ | ⟨hne, j, rfl, e', he', hp⟩)
    · exact ⟨i, rfl, e, List.getElem?_set_self hi, hp⟩
    · have hij : i ≠ j := fun heq => hne (congrArg Nat.cast heq.symm)
      exact ⟨j, rfl, e', (List.getElem?_set_ne hij).trans he', hp⟩

/-- A new entry that does not meet the condition. -/
theorem Indexes.push {e : τ} (h : Indexes p l r) (he : ¬ p e) :
    Indexes p (l ++ [e]) r := by
  refine ⟨h.nodup, fun x => (h.mem x).trans ?_⟩
  constructor
  · rintro ⟨i, rfl, e', he', hp⟩
    exact ⟨i, rfl, e', List.getElem?_append_left (List.getElem?_eq_some_iff.mp he').1
      ▸ he', hp⟩
  · rintro ⟨i, rfl, e', he', hp⟩
    by_cases hi : i < l.length
    · rw [List.getElem?_append_left hi] at he'
      exact ⟨i, rfl, e', he', hp⟩
    · rw [List.getElem?_append_right (Nat.le_of_not_lt hi)] at he'
      rw [List.mem_singleton.mp (List.mem_of_getElem? he')] at hp
      exact absurd hp he

/-- An entry meets the condition now. -/
theorem Indexes.set_add {i : Nat} {e : τ} (h : Indexes p l r) (hi : i < l.length)
    (he : p e) : Indexes p (l.set i e) (addUnique r i) := by
  refine ⟨nodup_addUnique h.nodup, fun x => ?_⟩
  rw [mem_addUnique, at_set hi, h.mem]
  by_cases hx : x = i
  · exact ⟨fun _ => Or.inl ⟨hx, he⟩, fun _ => Or.inl hx⟩
  · constructor
    · rintro (heq | hat)
      · exact absurd heq hx
      · exact Or.inr ⟨hx, hat⟩
    · rintro (⟨heq, -⟩ | ⟨-, hat⟩)
      · exact absurd heq hx
      · exact Or.inr hat

/-- An entry does not meet the condition any more. -/
theorem Indexes.set_del {i : Nat} {e : τ} (h : Indexes p l r) (hi : i < l.length)
    (he : ¬ p e) : Indexes p (l.set i e) (del r i) := by
  refine ⟨nodup_del h.nodup, fun x => ?_⟩
  rw [mem_del, at_set hi, h.mem]
  constructor
  · rintro ⟨hat, hne⟩
    exact Or.inr ⟨hne, hat⟩
  · rintro (⟨-, hp⟩ | ⟨hne, hat⟩)
    · exact absurd hp he
    · exact ⟨hat, hne⟩

/-- An entry meets the condition if it did before. -/
theorem Indexes.set_same {i : Nat} {e e' : τ} (h : Indexes p l r)
    (hi : l[i]? = some e') (he : p e ↔ p e') : Indexes p (l.set i e) r := by
  have hlt : i < l.length := (List.getElem?_eq_some_iff.mp hi).1
  refine ⟨h.nodup, fun x => ?_⟩
  rw [h.mem, at_set hlt]
  by_cases hx : x = i
  · rw [hx]
    constructor
    · rintro ⟨j, hj, e1, he1, hp⟩
      rw [← Int.ofNat.inj hj, hi] at he1
      rw [← Option.some.inj he1] at hp
      exact Or.inl ⟨rfl, he.mpr hp⟩
    · rintro (⟨-, hp⟩ | ⟨hne, -⟩)
      · exact ⟨i, rfl, e', hi, he.mp hp⟩
      · exact absurd rfl hne
  · constructor
    · exact fun hat => Or.inr ⟨hx, hat⟩
    · rintro (⟨heq, -⟩ | ⟨-, hat⟩)
      · exact absurd heq hx
      · exact hat

end IndexList
