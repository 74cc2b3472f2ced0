import OsmoTtcn.RunGuardProofs
import Mathlib.Algebra.BigOperators.Group.List.Basic

/-! # Tallies of what a run reports

    A machine keeps a tally in its state, and what it reports amounts to something.
    The tally is right in every state that a run reaches iff every step adds to it
    what its report amounts to (`right_iff_guarded`). -/

namespace Tally

open RunGuard

variable {σ ι ο ε κ : Type} [AddMonoid κ]

section Defs

variable (step : σ → ι → Except ε (σ × ο)) (tally : σ → κ) (amount : ο → κ)

/-- What comes of a step adds to the tally what the report amounts to. -/
def Adds (s : σ) : Except ε (σ × ο) → Prop
  | .error _ => True
  | .ok (s', o) => tally s' = tally s + amount o

/-- **THE TALLY IS RIGHT** in every state that is reached. -/
def Right (s : σ) (is : List ι) : Prop :=
  ∀ is' s' os, is' <+: is → run step s is' = .ok (s', os) →
    tally s' = tally s + (os.map amount).sum

instance decAdds [DecidableEq κ] (s : σ) : ∀ r : Except ε (σ × ο),
    Decidable (Adds tally amount s r)
  | .error _ => isTrue trivial
  | .ok (s', o) => inferInstanceAs (Decidable (tally s' = tally s + amount o))

end Defs

variable {step : σ → ι → Except ε (σ × ο)} {tally : σ → κ} {amount : ο → κ}

/-- A run that goes on behind a step. -/
theorem right_cons_ok {s s' : σ} {i : ι} {o : ο} {is : List ι} (h : step s i = .ok (s', o)) :
    Right step tally amount s (i :: is)
      ↔ tally s' = tally s + amount o ∧ Right step tally amount s' is := by
  constructor
  · intro hright
    have hone : tally s' = tally s + amount o := by
      have hrun : run step s [i] = .ok (s', [o]) := by
        rw [run, h]
        rfl
      have hsum := hright [i] s' [o] (List.prefix_append [i] is) hrun
      rw [List.map_singleton, List.sum_singleton] at hsum
      exact hsum
    refine ⟨hone, fun is' s'' os hp hrun => ?_⟩
    have hrun' : run step s (i :: is') = .ok (s'', o :: os) := by
      rw [run, h]
      dsimp only
      rw [hrun]
      rfl
    have hsum := hright (i :: is') s'' (o :: os) ((List.prefix_cons_inj i).mpr hp) hrun'
    rw [List.map_cons, List.sum_cons, ← add_assoc, ← hone] at hsum
    exact hsum
  · rintro ⟨hone, hrest⟩ is' s'' os hp hrun
    cases is' with
    | nil =>
        cases hrun
        exact (add_zero _).symm
    | cons j is' =>
        obtain ⟨rfl, hp'⟩ := List.cons_prefix_cons.mp hp
        obtain ⟨s₁, o₁, os₁, hs, hr, hos⟩ := run_cons_ok hrun
        rw [h] at hs
        cases hs
        rw [hos, List.map_cons, List.sum_cons, ← add_assoc, ← hone]
        exact hrest is' s'' os₁ hp' hr

/-- **EVERY STEP ADDS** what its report amounts to, iff the tally is right. -/
theorem right_iff_guarded : ∀ (is : List ι) (s : σ),
    Right step tally amount s is
      ↔ Guarded step (fun s i => Adds tally amount s (step s i)) s is := by
  intro is
  induction is with
  | nil =>
      intro s
      refine iff_of_true (fun is' s' os hp hrun => ?_) trivial
      obtain rfl := List.prefix_nil.mp hp
      cases hrun
      exact (add_zero _).symm
  | cons i is ih =>
      intro s
      cases hs : step s i with
      | error e =>
          refine iff_of_true (fun is' s' os hp hrun => ?_) ?_
          · cases is' with
            | nil =>
                cases hrun
                exact (add_zero _).symm
            | cons j is' =>
                obtain ⟨rfl, -⟩ := List.cons_prefix_cons.mp hp
                obtain ⟨s₁, o₁, os₁, hs₁, -⟩ := run_cons_ok hrun
                rw [hs] at hs₁
                cases hs₁
          · rw [Guarded, hs]
            exact ⟨trivial, trivial⟩
      | ok r =>
          obtain ⟨s', o⟩ := r
          rw [right_cons_ok hs, guarded_cons_ok hs, ih s', hs]
          exact Iff.rfl

end Tally
