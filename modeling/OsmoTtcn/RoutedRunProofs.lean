import Mathlib.Data.List.Basic
import Mathlib.Tactic.Common

/-! # Runs over items of which each goes to one of two parts

    A machine takes items one by one and complains about some.  Where each item
    goes to one of two parts, and which one does not depend on what has come
    before, a run is a run of the first part over the items that it takes beside
    a run of the second part over the others (`final_routed`,
    `quiet_routed_iff`). -/

namespace RoutedRun

variable {σ τ ρ ι κ ω : Type}

/-- The state behind a run. -/
def final (step : σ → ι → σ × List ω) : σ → List ι → σ
  | s, [] => s
  | s, i :: is => final step (step s i).1 is

/-- No item of a run is complained about. -/
def Quiet (step : σ → ι → σ × List ω) : σ → List ι → Prop
  | _, [] => True
  | s, i :: is => (step s i).2 = [] ∧ Quiet step (step s i).1 is

/-- Items that are read off others. -/
theorem final_map (step : σ → ι → σ × List ω) (f : κ → ι) : ∀ (ks : List κ) (s : σ),
    final step s (ks.map f) = final (fun s k => step s (f k)) s ks := by
  intro ks
  induction ks with
  | nil => exact fun _ => rfl
  | cons k ks ih => exact fun s => ih _

theorem quiet_map (step : σ → ι → σ × List ω) (f : κ → ι) : ∀ (ks : List κ) (s : σ),
    Quiet step s (ks.map f) ↔ Quiet (fun s k => step s (f k)) s ks := by
  intro ks
  induction ks with
  | nil => exact fun _ => Iff.rfl
  | cons k ks ih => exact fun s => and_congr Iff.rfl (ih _)

/-- Complaints that do not depend on the state, in front of others. -/
theorem quiet_append_iff (step : σ → ι → σ × List ω) (check : ι → List ω) :
    ∀ (is : List ι) (s : σ),
      Quiet (fun s i => ((step s i).1, check i ++ (step s i).2)) s is
        ↔ (∀ i ∈ is, check i = []) ∧ Quiet step s is := by
  intro is
  induction is with
  | nil =>
      intro s
      exact iff_of_true trivial ⟨fun i hi => absurd hi List.not_mem_nil, trivial⟩
  | cons i is ih =>
      intro s
      rw [Quiet, Quiet, List.append_eq_nil_iff, ih, List.forall_mem_cons]
      constructor
      · rintro ⟨⟨hi, hs⟩, his, hrest⟩
        exact ⟨⟨hi, his⟩, hs, hrest⟩
      · rintro ⟨⟨hi, his⟩, hs, hrest⟩
        exact ⟨⟨hi, hs⟩, his, hrest⟩

/-- A check that only reports does not change the end. -/
theorem final_append_check (step : σ → ι → σ × List ω) (check : ι → List ω) :
    ∀ (is : List ι) (s : σ),
      final (fun s i => ((step s i).1, check i ++ (step s i).2)) s is = final step s is := by
  intro is
  induction is with
  | nil => exact fun _ => rfl
  | cons i is ih => exact fun s => ih _

/-- A part that need not be there; without it, nothing is complained about. -/
def optStep (step : σ → ι → σ × List ω) : Option σ → ι → Option σ × List ω
  | none, _ => (none, [])
  | some s, i => (some (step s i).1, (step s i).2)

theorem final_optStep (step : σ → ι → σ × List ω) : ∀ (is : List ι) (o : Option σ),
    final (optStep step) o is = o.map (fun s => final step s is) := by
  intro is
  induction is with
  | nil =>
      intro o
      cases o with
      | none => rfl
      | some s => rfl
  | cons i is ih =>
      intro o
      rw [final, ih]
      cases o with
      | none => rfl
      | some s => rfl

/-- A run that may be missing is quiet if it is when it is there. -/
theorem quiet_optStep_iff (step : σ → ι → σ × List ω) : ∀ (is : List ι) (o : Option σ),
    Quiet (optStep step) o is ↔ ∀ s ∈ o, Quiet step s is := by
  intro is
  induction is with
  | nil => exact fun o => iff_of_true trivial (fun _ _ => trivial)
  | cons i is ih =>
      intro o
      rw [Quiet, ih]
      cases o with
      | none =>
          refine iff_of_true ⟨rfl, ?_⟩ ?_
          · rintro s hs
            cases hs
          · rintro s hs
            cases hs
      | some s =>
          constructor
          · rintro ⟨hi, hrest⟩ s' hs'
            rw [← Option.some.inj hs']
            exact ⟨hi, hrest _ rfl⟩
          · intro h
            refine ⟨(h s rfl).1, ?_⟩
            rintro s' hs'
            rw [← Option.some.inj hs']
            exact (h s rfl).2

section Routed

variable {step : ρ → ι → ρ × List ω} {stepL : σ → ι → σ × List ω} {stepR : τ → ι → τ × List ω}
variable {join : σ → τ → ρ} {takes : ι → Bool} {I : σ → Prop}

/-- Each item goes to the part that takes it, as long as the first part is what
    `I` says. -/
structure Routed (step : ρ → ι → ρ × List ω) (stepL : σ → ι → σ × List ω)
    (stepR : τ → ι → τ × List ω) (join : σ → τ → ρ) (takes : ι → Bool) (I : σ → Prop) :
    Prop where
  left : ∀ s t i, I s → takes i = true → step (join s t) i
    = (join (stepL s i).1 t, (stepL s i).2)
  right : ∀ s t i, I s → takes i = false → step (join s t) i
    = (join s (stepR t i).1, (stepR t i).2)
  keeps : ∀ s i, I s → takes i = true → I (stepL s i).1

/-- **THE PARTS RUN BESIDE EACH OTHER.** -/
theorem final_routed (h : Routed step stepL stepR join takes I) :
    ∀ (is : List ι) (s : σ) (t : τ), I s → final step (join s t) is
      = join (final stepL s (is.filter takes)) (final stepR t (is.filter (fun i => !takes i))) := by
  intro is
  induction is with
  | nil => exact fun _ _ _ => rfl
  | cons i is ih =>
      intro s t hs
      rw [final]
      cases htakes : takes i with
      | true =>
          rw [h.left s t i hs htakes, ih _ _ (h.keeps s i hs htakes),
            List.filter_cons_of_pos htakes, List.filter_cons_of_neg (by rw [htakes]; decide),
            final]
      | false =>
          rw [h.right s t i hs htakes, ih _ _ hs,
            List.filter_cons_of_neg (by rw [htakes]; decide),
            List.filter_cons_of_pos (by rw [htakes]; rfl)]
          rfl

/-- **TWO RUNS IN ONE** are quiet if each of them is on its own inputs. -/
theorem quiet_routed_iff (h : Routed step stepL stepR join takes I) :
    ∀ (is : List ι) (s : σ) (t : τ), I s → (Quiet step (join s t) is
      ↔ Quiet stepL s (is.filter takes) ∧ Quiet stepR t (is.filter (fun i => !takes i))) := by
  intro is
  induction is with
  | nil => exact fun _ _ _ => iff_of_true trivial ⟨trivial, trivial⟩
  | cons i is ih =>
      intro s t hs
      rw [Quiet]
      cases htakes : takes i with
      | true =>
          rw [h.left s t i hs htakes, ih _ _ (h.keeps s i hs htakes),
            List.filter_cons_of_pos htakes, List.filter_cons_of_neg (by rw [htakes]; decide),
            Quiet]
          exact and_assoc.symm
      | false =>
          rw [h.right s t i hs htakes, ih _ _ hs,
            List.filter_cons_of_neg (by rw [htakes]; decide),
            List.filter_cons_of_pos (by rw [htakes]; rfl), Quiet]
          exact and_left_comm

end Routed

end RoutedRun
