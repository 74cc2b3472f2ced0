import Mathlib.Data.List.Basic
import Mathlib.Tactic.Common

/-! # Runs over batches of items

    A machine takes items in batches.  It may leave the run at any item, it looks
    between the batches whether it is done, and it is late if the batches end
    before.  Two machines with related steps have related runs (`run_related`),
    what every item keeps holds at the end (`run_inv`), and the reasons to leave
    are those of an item or of being late (`run_error`). -/

namespace BatchRun

variable {σ τ ι ε δ : Type}

/-- The items of one batch. -/
def batch (step : σ → ι → Except ε σ) : σ → List ι → Except ε σ
  | s, [] => .ok s
  | s, i :: is => (step s i).bind fun s' => batch step s' is

/-- The batches, until the machine is done. -/
def run (step : σ → ι → Except ε σ) (done : σ → Bool) (late : σ → ε) :
    σ → List (List ι) → Except ε σ
  | s, [] => if done s then .ok s else .error (late s)
  | s, b :: bs =>
      if done s then .ok s else (batch step s b).bind fun s' => run step done late s' bs

/-- Both go on, in related states, or both are left for the same reason, which `f`
    reads. -/
inductive Related (R : σ → τ → Prop) (f : ε → δ) : Except ε σ → Except δ τ → Prop where
  | ok {s : σ} {t : τ} (h : R s t) : Related R f (.ok s) (.ok t)
  | error (e : ε) : Related R f (.error e) (.error (f e))

section Two

variable {R : σ → τ → Prop} {f : ε → δ}

/-- What follows related results is related. -/
theorem Related.bind {x : Except ε σ} {y : Except δ τ} {k : σ → Except ε σ}
    {k' : τ → Except δ τ} (h : Related R f x y)
    (hk : ∀ s t, R s t → Related R f (k s) (k' t)) :
    Related R f (x.bind k) (y.bind k') := by
  cases h with
  | ok hR => exact hk _ _ hR
  | error e => exact .error e

variable {step : σ → ι → Except ε σ} {step' : τ → ι → Except δ τ}

/-- Steps that are related make runs that are. -/
theorem batch_related (hstep : ∀ s t i, R s t → Related R f (step s i) (step' t i)) :
    ∀ (is : List ι) (s : σ) (t : τ), R s t →
      Related R f (batch step s is) (batch step' t is) := by
  intro is
  induction is with
  | nil => exact fun s t hR => .ok hR
  | cons i is ih => exact fun s t hR => (hstep s t i hR).bind ih

/-- **TWO MACHINES WITH RELATED STEPS** that are done together have related runs. -/
theorem run_related {done : σ → Bool} {done' : τ → Bool} {late : σ → ε} {late' : τ → δ}
    (hstep : ∀ s t i, R s t → Related R f (step s i) (step' t i))
    (hdone : ∀ s t, R s t → done s = done' t) (hlate : ∀ s t, R s t → late' t = f (late s)) :
    ∀ (bs : List (List ι)) (s : σ) (t : τ), R s t →
      Related R f (run step done late s bs) (run step' done' late' t bs) := by
  intro bs
  induction bs with
  | nil =>
      intro s t hR
      rw [run, run, ← hdone s t hR, hlate s t hR]
      by_cases hd : done s = true
      · rw [if_pos hd, if_pos hd]
        exact .ok hR
      · rw [if_neg hd, if_neg hd]
        exact .error _
  | cons b bs ih =>
      intro s t hR
      rw [run, run, ← hdone s t hR]
      by_cases hd : done s = true
      · rw [if_pos hd, if_pos hd]
        exact .ok hR
      · rw [if_neg hd, if_neg hd]
        exact (batch_related hstep b s t hR).bind ih

end Two

section One

variable {step : σ → ι → Except ε σ} {done : σ → Bool} {late : σ → ε}

/-- A step that succeeds hands on its state. -/
theorem batch_cons_ok {s s' : σ} {i : ι} {is : List ι} (h : step s i = .ok s') :
    batch step s (i :: is) = batch step s' is := by
  rw [batch, h]
  rfl

/-- A step that fails ends the run. -/
theorem batch_cons_error {s : σ} {i : ι} {is : List ι} {e : ε} (h : step s i = .error e) :
    batch step s (i :: is) = .error e := by
  rw [batch, h]
  rfl

/-- What each step keeps holds at the end. -/
theorem batch_inv {I : σ → Prop} : ∀ (is : List ι) (s s' : σ),
    (∀ i ∈ is, ∀ s s', I s → step s i = .ok s' → I s') →
      I s → batch step s is = .ok s' → I s' := by
  intro is
  induction is with
  | nil =>
      intro s s' _ hI h
      cases h
      exact hI
  | cons i is ih =>
      intro s s' hkeep hI h
      cases hs : step s i with
      | error e =>
          rw [batch_cons_error hs] at h
          cases h
      | ok s₁ =>
          rw [batch_cons_ok hs] at h
          exact ih s₁ s' (fun j hj => hkeep j (List.mem_cons_of_mem i hj))
            (hkeep i List.mem_cons_self s s₁ hI hs) h

/-- **WHAT EVERY ITEM KEEPS** holds where a run is done. -/
theorem run_inv {I : σ → Prop} : ∀ (bs : List (List ι)) (s s' : σ),
    (∀ i ∈ bs.flatten, ∀ s s', I s → step s i = .ok s' → I s') →
      I s → run step done late s bs = .ok s' → I s' ∧ done s' = true := by
  intro bs
  induction bs with
  | nil =>
      intro s s' _ hI h
      rw [run] at h
      by_cases hd : done s = true
      · rw [if_pos hd] at h
        cases h
        exact ⟨hI, hd⟩
      · rw [if_neg hd] at h
        cases h
  | cons b bs ih =>
      intro s s' hkeep hI h
      rw [run] at h
      by_cases hd : done s = true
      · rw [if_pos hd] at h
        cases h
        exact ⟨hI, hd⟩
      · rw [if_neg hd] at h
        rw [List.flatten_cons] at hkeep
        cases hb : batch step s b with
        | error e =>
            rw [hb] at h
            cases h
        | ok s₁ =>
            rw [hb] at h
            exact ih s₁ s' (fun i hi => hkeep i (List.mem_append_right b hi))
              (batch_inv b s s₁ (fun i hi => hkeep i (List.mem_append_left _ hi)) hI hb) h

/-- A run fails in no other way than a step does. -/
theorem batch_error {P : ε → Prop} (hstep : ∀ s i e, step s i = .error e → P e) :
    ∀ (is : List ι) (s : σ) (e : ε), batch step s is = .error e → P e := by
  intro is
  induction is with
  | nil =>
      intro s e h
      cases h
  | cons i is ih =>
      intro s e h
      cases hs : step s i with
      | error e' =>
          rw [batch_cons_error hs] at h
          cases h
          exact hstep s i e hs
      | ok s' =>
          rw [batch_cons_ok hs] at h
          exact ih s' e h

/-- **WHY A RUN IS LEFT**: for the reason of an item, or because it is late. -/
theorem run_error {P : ε → Prop} (hstep : ∀ s i e, step s i = .error e → P e)
    (hlate : ∀ s, P (late s)) :
    ∀ (bs : List (List ι)) (s : σ) (e : ε), run step done late s bs = .error e → P e := by
  intro bs
  induction bs with
  | nil =>
      intro s e h
      rw [run] at h
      by_cases hd : done s = true
      · rw [if_pos hd] at h
        cases h
      · rw [if_neg hd] at h
        cases h
        exact hlate s
  | cons b bs ih =>
      intro s e h
      rw [run] at h
      by_cases hd : done s = true
      · rw [if_pos hd] at h
        cases h
      · rw [if_neg hd] at h
        cases hb : batch step s b with
        | error e' =>
            rw [hb] at h
            cases h
            exact batch_error hstep b s e hb
        | ok s' =>
            rw [hb] at h
            exact ih s' e h

/-- A run of one batch that is left. -/
theorem run_single_error {s : σ} {b : List ι} {e : ε} (hs : done s = false)
    (h : batch step s b = .error e) : run step done late s [b] = .error e := by
  rw [run, if_neg (ne_true_of_eq_false hs), h]
  rfl

/-- A run of one batch that does not suffice. -/
theorem run_single_late {s s' : σ} {b : List ι} (hs : done s = false)
    (h : batch step s b = .ok s') (hs' : done s' = false) :
    run step done late s [b] = .error (late s') := by
  rw [run, if_neg (ne_true_of_eq_false hs), h]
  exact if_neg (ne_true_of_eq_false hs')

/-- A run that succeeds hands on its state. -/
theorem batch_append_ok {s s' : σ} {is js : List ι} (h : batch step s is = .ok s') :
    batch step s (is ++ js) = batch step s' js := by
  induction is generalizing s with
  | nil =>
      cases h
      rfl
  | cons i is ih =>
      cases hs : step s i with
      | error e =>
          rw [batch_cons_error hs] at h
          cases h
      | ok s₁ =>
          rw [batch_cons_ok hs] at h
          rw [List.cons_append, batch_cons_ok hs]
          exact ih h

/-- A run that fails does so whatever follows. -/
theorem batch_append_error {s : σ} {is js : List ι} {e : ε} (h : batch step s is = .error e) :
    batch step s (is ++ js) = .error e := by
  induction is generalizing s with
  | nil => cases h
  | cons i is ih =>
      cases hs : step s i with
      | error e' =>
          rw [batch_cons_error hs] at h
          rw [List.cons_append, batch_cons_error hs]
          exact h
      | ok s₁ =>
          rw [batch_cons_ok hs] at h
          rw [List.cons_append, batch_cons_ok hs]
          exact ih h

end One

end BatchRun
