import OsmoTtcn.SlotTableProofs

/-! # Pools of things to be picked up

    A fixed number of places, each empty or holding something that waits to be
    picked up.  What comes takes the first empty place; who comes for something
    gets the first one that fits.  A table of slots `Shadows` such a pool where
    every slot says what its place holds: then a search of the table is a
    search of the pool. -/

namespace SlotPool

open SlotTable

variable {n : Nat} {S E : Type}

/-- The places and what they hold. -/
abbrev Pool (n : Nat) (E : Type) : Type := Fin n → Option E

/-- Place `k` is the first empty one. -/
def FirstFree (a : Pool n E) (k : Fin n) : Prop :=
  a k = none ∧ ∀ j, j < k → a j ≠ none

/-- Place `k` holds `e`, which is the first that fits. -/
def FirstFit (a : Pool n E) (q : E → Bool) (k : Fin n) (e : E) : Prop :=
  a k = some e ∧ q e = true ∧ ∀ j e', j < k → a j = some e' → q e' = false

/-- Nothing fits. -/
def NoFit (a : Pool n E) (q : E → Bool) : Prop := ∀ k e, a k = some e → q e = false

/-- Every place holds something. -/
def Crowded (a : Pool n E) : Prop := ∀ k, a k ≠ none

variable {a : Pool n E} {q : E → Bool} {k : Fin n} {e : E}

/-- What is found is the first free slot. -/
theorem find_free_iff : find a (fun o => o.isNone) = some k ↔ FirstFree a k := by
  rw [find_eq_some, Option.isNone_iff_eq_none]
  refine and_congr_right (fun _ => forall_congr' (fun j => imp_congr_right (fun _ => ?_)))
  cases a j with
  | none => exact ⟨fun h => (nomatch h), fun h => absurd rfl h⟩
  | some e => exact ⟨fun _ => Option.some_ne_none e, fun _ => rfl⟩

theorem find_free_none : find a (fun o => o.isNone) = none ↔ Crowded a := by
  rw [find_eq_none]
  refine forall_congr' (fun j => ?_)
  cases a j with
  | none => exact ⟨fun h => (nomatch h), fun h => absurd rfl h⟩
  | some e => exact ⟨fun _ => Option.some_ne_none e, fun _ => rfl⟩

/-- What `any` accepts. -/
theorem any_eq_false {o : Option E} : o.any q = false ↔ ∀ e, o = some e → q e = false := by
  cases o with
  | none => exact ⟨fun _ e h => (nomatch h), fun _ => rfl⟩
  | some e => exact ⟨fun h e' he => (Option.some.inj he) ▸ h, fun h => h e rfl⟩

/-- What is found is the first slot that fits. -/
theorem find_fit (h : find a (fun o => o.any q) = some k) : ∃ e, FirstFit a q k e := by
  obtain ⟨hk, hfirst⟩ := find_eq_some.mp h
  obtain ⟨e, he, hq⟩ := (Option.any_eq_true q (a k)).mp hk
  exact ⟨e, he, hq, fun j e' hj he' => any_eq_false.mp (hfirst j hj) e' he'⟩

/-- Nothing is found if nothing fits. -/
theorem find_fit_none : find a (fun o => o.any q) = none ↔ NoFit a q := by
  rw [find_eq_none]
  exact forall_congr' (fun j => any_eq_false)

/-- What fits first is the first of fewer, where it is among them. -/
theorem FirstFit.narrow {q' : E → Bool} (h : FirstFit a q k e) (hq : q' e = true)
    (hsub : ∀ e', q e' = false → q' e' = false) : FirstFit a q' k e :=
  ⟨h.1, hq, fun j e' hj he' => hsub e' (h.2.2 j e' hj he')⟩

theorem FirstFit.find (h : FirstFit a q k e) : find a (fun o => o.any q) = some k := by
  refine find_eq_some.mpr ⟨?_, fun j hj => any_eq_false.mpr (fun e' he' => ?_)⟩
  · rw [h.1]
    exact h.2.1
  · exact h.2.2 j e' hj he'

/-- A place that is emptied or filled leaves the others as they are. -/
theorem update_elsewhere {o : Option E} {j : Fin n} {e' : E} (hq : q e' = true)
    (hold : ∀ x, a k = some x → q x = false) (hnew : ∀ x, o = some x → q x = false) :
    Function.update a k o j = some e' ↔ a j = some e' := by
  by_cases hj : j = k
  · rw [hj, Function.update_self]
    constructor
    · intro ho
      rw [hnew e' ho] at hq
      exact nomatch hq
    · intro ha
      rw [hold e' ha] at hq
      exact nomatch hq
  · rw [Function.update_of_ne hj]

-- ── Tables that are pools ────────────────────────────────────────────────────

/-- Every slot says what its place holds. -/
def Shadows (rel : S → Option E → Prop) (t : Fin n → S) (a : Pool n E) : Prop :=
  ∀ i, rel (t i) (a i)

variable {rel : S → Option E → Prop} {t : Fin n → S} {p : S → Bool}

/-- Both change at the same slot. -/
theorem Shadows.update (h : Shadows rel t a) {s : S} {o : Option E} (hs : rel s o) :
    Shadows rel (Function.update t k s) (Function.update a k o) := by
  intro i
  by_cases hi : i = k
  · rw [hi, Function.update_self, Function.update_self]
    exact hs
  · rw [Function.update_of_ne hi, Function.update_of_ne hi]
    exact h i

/-- **A SEARCH OF THE TABLE** is a search of the pool. -/
theorem Shadows.find (h : Shadows rel t a) {r : Option E → Bool}
    (hp : ∀ s o, rel s o → p s = r o) : find t p = find a r := by
  have hsame : (fun i => p (t i)) = fun i => r (a i) := funext (fun i => hp _ _ (h i))
  rw [SlotTable.find, SlotTable.find, hsame]

end SlotPool
