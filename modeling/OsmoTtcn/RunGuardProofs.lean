import Mathlib.Data.List.Basic
import Mathlib.Tactic.Common

/-! # Runs of a machine beside their specification

    A machine takes steps that may fail and that report something; a
    specification takes the same steps and never fails.  `RunOk` says that the
    machine goes through a whole run, reports what the specification reports,
    and is in a related state after every step.

    Where a machine is right only in some states, the condition is a guard on
    the state before a step and the input.  `runOk_iff_guarded` lifts an exact
    guard from one step to every run, `runOk_of_guarded` a sufficient one.
    Where the condition can be told from the inputs, it is a condition on the
    specification's state, and `runOk_of_specGuarded` lifts it. -/

namespace RunGuard

variable {σ γ ι ο ε : Type}

section Defs

variable (step : σ → ι → Except ε (σ × ο)) (spec : γ → ι → γ × ο)
variable (R : σ → γ → Prop) (G : σ → ι → Prop)

/-- One step returns, reports what the specification reports and ends in a
    related state. -/
def StepOk (s : σ) (g : γ) (i : ι) : Prop :=
  ∃ s', step s i = .ok (s', (spec g i).2) ∧ R s' (spec g i).1

/-- Every step of a run is as the specification says. -/
def RunOk : σ → γ → List ι → Prop
  | _, _, [] => True
  | s, g, i :: is => ∃ s', step s i = .ok (s', (spec g i).2)
      ∧ R s' (spec g i).1 ∧ RunOk s' (spec g i).1 is

/-- Every step of a run meets the guard in the state it is taken in.  A run
    ends with the first step that fails. -/
def Guarded : σ → List ι → Prop
  | _, [] => True
  | s, i :: is => G s i ∧
      match step s i with
      | .error _ => True
      | .ok (s', _) => Guarded s' is

instance decGuarded [h : ∀ s i, Decidable (G s i)] :
    ∀ s is, Decidable (Guarded step G s is)
  | _, [] => isTrue trivial
  | s, i :: is =>
      @instDecidableAnd _ _ (h s i)
        (match step s i with
          | .error _ => isTrue trivial
          | .ok (s', _) => decGuarded s' is)

/-- Every step of a run meets a condition on what the specification knows of
    the inputs before it. -/
def SpecGuarded (G : γ → ι → Prop) : γ → List ι → Prop
  | _, [] => True
  | g, i :: is => G g i ∧ SpecGuarded G (spec g i).1 is

instance decSpecGuarded {G : γ → ι → Prop} [h : ∀ g i, Decidable (G g i)] :
    ∀ g is, Decidable (SpecGuarded spec G g is)
  | _, [] => isTrue trivial
  | g, i :: is =>
      @instDecidableAnd _ _ (h g i) (decSpecGuarded (spec g i).1 is)

/-- Every step of a run returns, and `P` holds of every state on the way. -/
def Always (P : σ → Prop) : σ → List ι → Prop
  | s, [] => P s
  | s, i :: is => P s ∧ ∃ s' o, step s i = .ok (s', o) ∧ Always P s' is

/-- The reports of a whole run. -/
def run : σ → List ι → Except ε (σ × List ο)
  | s, [] => .ok (s, [])
  | s, i :: is =>
      match step s i with
      | .error e => .error e
      | .ok (s', o) => (run s' is).map (fun r => (r.1, o :: r.2))

/-- The machine, beside a record of what its steps leave. -/
def recording {τ : Type} (leaves : σ → ι → List τ) (s : σ × List τ) (i : ι) :
    Except ε ((σ × List τ) × ο) :=
  (step s.1 i).map (fun r => ((r.1, s.2 ++ leaves s.1 i), r.2))

/-- The reports of the specification. -/
def specRun : γ → List ι → γ × List ο
  | g, [] => (g, [])
  | g, i :: is =>
      ((specRun (spec g i).1 is).1, (spec g i).2 :: (specRun (spec g i).1 is).2)

end Defs

variable {step : σ → ι → Except ε (σ × ο)} {spec : γ → ι → γ × ο}
variable {R : σ → γ → Prop} {G : σ → ι → Prop}

theorem guarded_cons_ok {s s' : σ} {i : ι} {o : ο} {is : List ι}
    (h : step s i = .ok (s', o)) :
    Guarded step G s (i :: is) ↔ G s i ∧ Guarded step G s' is := by
  rw [Guarded, h]

/-- Guards that are the same. -/
theorem guarded_congr {G' : σ → ι → Prop} (h : ∀ s i, G s i ↔ G' s i) :
    ∀ (is : List ι) (s : σ), Guarded step G s is ↔ Guarded step G' s is := by
  intro is
  induction is with
  | nil => exact fun _ => Iff.rfl
  | cons i is ih =>
      intro s
      rw [Guarded, Guarded]
      refine and_congr (h s i) ?_
      cases step s i with
      | error e => exact Iff.rfl
      | ok r => exact ih r.1

/-- Guards that are the same where an invariant holds. -/
theorem guarded_congr_of_inv {I : σ → Prop} {G' : σ → ι → Prop}
    (h : ∀ s i, I s → (G s i ↔ G' s i))
    (hkeep : ∀ s i s' o, I s → step s i = .ok (s', o) → I s') :
    ∀ (is : List ι) (s : σ), I s → (Guarded step G s is ↔ Guarded step G' s is) := by
  intro is
  induction is with
  | nil => exact fun _ _ => Iff.rfl
  | cons i is ih =>
      intro s hI
      rw [Guarded, Guarded]
      refine and_congr (h s i hI) ?_
      cases hs : step s i with
      | error e => exact Iff.rfl
      | ok r => exact ih r.1 (hkeep s i r.1 r.2 hI hs)

/-- A guard that is always met. -/
theorem guarded_of_forall (h : ∀ s i, G s i) : ∀ (is : List ι) (s : σ),
    Guarded step G s is := by
  intro is
  induction is with
  | nil => exact fun _ => trivial
  | cons i is ih =>
      intro s
      refine ⟨h s i, ?_⟩
      cases step s i with
      | error e => trivial
      | ok r => exact ih r.1

/-- A guard that an invariant gives. -/
theorem guarded_of_inv {I : σ → Prop} (hG : ∀ s i, I s → G s i)
    (hkeep : ∀ s i s' o, I s → step s i = .ok (s', o) → I s') :
    ∀ (is : List ι) (s : σ), I s → Guarded step G s is := by
  intro is
  induction is with
  | nil => exact fun _ _ => trivial
  | cons i is ih =>
      intro s hI
      refine ⟨hG s i hI, ?_⟩
      cases hs : step s i with
      | error e => trivial
      | ok r => exact ih r.1 (hkeep s i r.1 r.2 hI hs)

/-- **EXACT GUARDS LIFT**: where one step is right iff the guard holds, a run
    is right iff all its steps meet the guard. -/
theorem runOk_iff_guarded (hstep : ∀ s g i, R s g →
    (StepOk step spec R s g i ↔ G s i)) :
    ∀ (is : List ι) (s : σ) (g : γ), R s g →
      (RunOk step spec R s g is ↔ Guarded step G s is) := by
  intro is
  induction is with
  | nil => intro s g _; exact Iff.rfl
  | cons i is ih =>
      intro s g hR
      constructor
      · rintro ⟨s', hs, hR', hrun⟩
        have hG := (hstep s g i hR).mp ⟨s', hs, hR'⟩
        exact (guarded_cons_ok hs).mpr ⟨hG, (ih s' _ hR').mp hrun⟩
      · intro hguard
        obtain ⟨s', hs, hR'⟩ := (hstep s g i hR).mpr hguard.1
        have hrest := ((guarded_cons_ok hs).mp hguard).2
        exact ⟨s', hs, hR', (ih s' _ hR').mpr hrest⟩

/-- **SUFFICIENT GUARDS LIFT.** -/
theorem runOk_of_guarded (hstep : ∀ s g i, R s g → G s i →
    StepOk step spec R s g i) :
    ∀ (is : List ι) (s : σ) (g : γ), R s g → Guarded step G s is →
      RunOk step spec R s g is := by
  intro is
  induction is with
  | nil => intro s g _ _; exact trivial
  | cons i is ih =>
      intro s g hR hguard
      obtain ⟨s', hs, hR'⟩ := hstep s g i hR hguard.1
      have hrest := ((guarded_cons_ok hs).mp hguard).2
      exact ⟨s', hs, hR', ih s' _ hR' hrest⟩

/-- A condition on what the specification knows is enough where every related
    state comes through under it. -/
theorem runOk_of_specGuarded {G : γ → ι → Prop} (hstep : ∀ s g i, R s g → G g i →
    StepOk step spec R s g i) :
    ∀ (is : List ι) (s : σ) (g : γ), R s g → SpecGuarded spec G g is →
      RunOk step spec R s g is := by
  intro is
  induction is with
  | nil => exact fun _ _ _ _ => trivial
  | cons i is ih =>
      intro s g hR hguard
      obtain ⟨s', hs, hR'⟩ := hstep s g i hR hguard.1
      exact ⟨s', hs, hR', ih s' _ hR' hguard.2⟩

/-- A condition on the inputs alone joins it. -/
theorem SpecGuarded.and_inputs {G : γ → ι → Prop} {P : ι → Prop} :
    ∀ {is : List ι} {g : γ}, SpecGuarded spec G g is → (∀ i ∈ is, P i) →
      SpecGuarded spec (fun g i => G g i ∧ P i) g is := by
  intro is
  induction is with
  | nil => exact fun _ _ => trivial
  | cons i is ih =>
      intro g hguard hP
      exact ⟨⟨hguard.1, hP i List.mem_cons_self⟩,
        ih hguard.2 fun j hj => hP j (List.mem_cons_of_mem _ hj)⟩

/-- A condition on the inputs alone joins a guard. -/
theorem Guarded.and_inputs {P : ι → Prop} : ∀ {is : List ι} {s : σ},
    Guarded step G s is → (∀ i ∈ is, P i) →
    Guarded step (fun s i => G s i ∧ P i) s is := by
  intro is
  induction is with
  | nil => intro s _ _; exact trivial
  | cons i is ih =>
      intro s hguard hP
      refine ⟨⟨hguard.1, hP i List.mem_cons_self⟩, ?_⟩
      cases hs : step s i with
      | error e => exact trivial
      | ok r =>
          obtain ⟨s', o⟩ := r
          exact ih ((guarded_cons_ok hs).mp hguard).2
            (fun j hj => hP j (List.mem_cons_of_mem _ hj))

/-- **A RUN THAT IS RIGHT** comes through with the reports of the
    specification. -/
theorem RunOk.run_eq : ∀ {is : List ι} {s : σ} {g : γ}, R s g →
    RunOk step spec R s g is →
    ∃ s', run step s is = .ok (s', (specRun spec g is).2)
      ∧ R s' (specRun spec g is).1 := by
  intro is
  induction is with
  | nil => intro s g hR _; exact ⟨s, rfl, hR⟩
  | cons i is ih =>
      intro s g _ hrun
      obtain ⟨s', hs, hR', hrest⟩ := hrun
      obtain ⟨s'', hrun', hR''⟩ := ih hR' hrest
      refine ⟨s'', ?_, hR''⟩
      rw [run, hs]
      show (run step s' is).map _ = _
      rw [hrun']
      rfl

/-- A run that comes through came through its first step. -/
theorem run_cons_ok {s s' : σ} {i : ι} {is : List ι} {os : List ο}
    (h : run step s (i :: is) = .ok (s', os)) :
    ∃ s1 o os', step s i = .ok (s1, o) ∧ run step s1 is = .ok (s', os')
      ∧ os = o :: os' := by
  rw [run] at h
  cases hs : step s i with
  | error e =>
      rw [hs] at h
      exact nomatch h
  | ok r =>
      obtain ⟨s1, o⟩ := r
      rw [hs] at h
      have h' : (run step s1 is).map (fun r => (r.1, o :: r.2))
          = .ok (s', os) := h
      cases hr : run step s1 is with
      | error e =>
          rw [hr] at h'
          exact nomatch h'
      | ok r =>
          rw [hr] at h'
          obtain ⟨rfl, rfl⟩ := Prod.mk.inj (Except.ok.inj h')
          exact ⟨s1, o, r.2, rfl, hr, rfl⟩

/-- The guard of the step after a run. -/
theorem Guarded.after : ∀ {is : List ι} {s s' : σ} {os : List ο} {i : ι},
    Guarded step G s (is ++ [i]) → run step s is = .ok (s', os) → G s' i := by
  intro is
  induction is with
  | nil =>
      intro s s' os i hguard hrun
      rw [← (Prod.mk.inj (Except.ok.inj hrun)).1]
      exact hguard.1
  | cons j is ih =>
      intro s s' os i hguard hrun
      obtain ⟨s1, o, os', hs, hr, -⟩ := run_cons_ok hrun
      exact ih ((guarded_cons_ok hs).mp hguard).2 hr

/-- **INVARIANTS OF BOTH**: what every guarded step keeps holds at the end of
    a guarded run that comes through. -/
theorem run_inv (hstep : ∀ s g i s' o, R s g → G s i →
    step s i = .ok (s', o) → R s' (spec g i).1) :
    ∀ (is : List ι) (s : σ) (g : γ) (s' : σ) (os : List ο), R s g →
      Guarded step G s is → run step s is = .ok (s', os) →
      R s' (specRun spec g is).1 := by
  intro is
  induction is with
  | nil =>
      intro s g s' os hR _ hrun
      rw [← (Prod.mk.inj (Except.ok.inj hrun)).1]
      exact hR
  | cons i is ih =>
      intro s g s' os hR hguard hrun
      obtain ⟨s1, o, os', hs, hr, -⟩ := run_cons_ok hrun
      have hrest := ((guarded_cons_ok hs).mp hguard).2
      exact ih s1 _ s' os' (hstep s g i s1 o hR hguard.1 hs) hrest hr

/-- A guard that an invariant of the state and the record gives. -/
theorem guarded_recording {τ : Type} {leaves : σ → ι → List τ} {I : σ → List τ → Prop}
    {G : σ × List τ → ι → Prop} (hG : ∀ s past i, I s past → G (s, past) i)
    (hkeep : ∀ s past i s' o, I s past → step s i = .ok (s', o) →
      I s' (past ++ leaves s i)) (is : List ι) {s : σ} {past : List τ} (h : I s past) :
    Guarded (recording step leaves) G (s, past) is := by
  refine guarded_of_inv (I := fun s => I s.1 s.2) (fun s i hI => hG s.1 s.2 i hI) ?_ is _ h
  intro s i s' o hI hok
  rw [recording] at hok
  cases hs : step s.1 i with
  | error e =>
      rw [hs] at hok
      exact nomatch hok
  | ok r =>
      rw [hs] at hok
      obtain ⟨rfl, rfl⟩ := Prod.mk.inj (Except.ok.inj hok)
      exact hkeep s.1 s.2 i r.1 r.2 hI hs

/-- **INVARIANTS OF STATE AND HISTORY**: what every step keeps beside a record
    of the inputs holds at the end of every run that comes through. -/
theorem run_history_inv {ρ : Type} {note : ρ → ι → ρ} {I : σ → ρ → Prop}
    (hstep : ∀ s h i s' o, I s h → step s i = .ok (s', o) → I s' (note h i)) :
    ∀ (is : List ι) (s : σ) (h : ρ) (s' : σ) (os : List ο), I s h →
      run step s is = .ok (s', os) → I s' (is.foldl note h) := by
  intro is
  induction is with
  | nil =>
      intro s h s' os hI hrun
      rw [← (Prod.mk.inj (Except.ok.inj hrun)).1]
      exact hI
  | cons i is ih =>
      intro s h s' os hI hrun
      obtain ⟨s1, o, os', hs, hr, -⟩ := run_cons_ok hrun
      exact ih s1 (note h i) s' os' (hstep s h i s1 o hI hs) hr

/-- **INVARIANTS OF STATE AND REPORTS**: what every step keeps holds at the end
    of every run that comes through. -/
theorem run_reports_inv {I : σ → List ο → Prop}
    (hstep : ∀ s h i s' o, I s h → step s i = .ok (s', o) → I s' (h ++ [o])) :
    ∀ (is : List ι) (s : σ) (h : List ο) (s' : σ) (os : List ο), I s h →
      run step s is = .ok (s', os) → I s' (h ++ os) := by
  intro is
  induction is with
  | nil =>
      intro s h s' os hI hrun
      obtain ⟨rfl, rfl⟩ := Prod.mk.inj (Except.ok.inj hrun)
      exact (List.append_nil h).symm ▸ hI
  | cons i is ih =>
      intro s h s' os hI hrun
      obtain ⟨s1, o, os', hs, hr, rfl⟩ := run_cons_ok hrun
      have h' := ih s1 (h ++ [o]) s' os' (hstep s h i s1 o hI hs) hr
      rw [List.append_assoc] at h'
      exact h'

/-- **INVARIANTS OF STATE, INPUTS AND REPORTS**: what every step keeps holds at
    the end of every run that comes through. -/
theorem run_record_inv {I : σ → List ι → List ο → Prop}
    (hstep : ∀ s js h i s' o, I s js h → step s i = .ok (s', o) → I s' (js ++ [i]) (h ++ [o])) :
    ∀ (is : List ι) (s : σ) (js : List ι) (h : List ο) (s' : σ) (os : List ο), I s js h →
      run step s is = .ok (s', os) → I s' (js ++ is) (h ++ os) := by
  intro is
  induction is with
  | nil =>
      intro s js h s' os hI hrun
      obtain ⟨rfl, rfl⟩ := Prod.mk.inj (Except.ok.inj hrun)
      rw [List.append_nil, List.append_nil]
      exact hI
  | cons i is ih =>
      intro s js h s' os hI hrun
      obtain ⟨s1, o, os', hs, hr, rfl⟩ := run_cons_ok hrun
      have h' := ih s1 (js ++ [i]) (h ++ [o]) s' os' (hstep s js h i s1 o hI hs) hr
      rw [List.append_assoc, List.append_assoc] at h'
      exact h'

/-- **WHICH RUNS COME THROUGH**: where an invariant of state, inputs and reports
    tells from the inputs so far whether a step returns, it tells of a run. -/
theorem run_ok_iff {I : σ → List ι → List ο → Prop} {P : List ι → ι → Prop}
    (hkeep : ∀ s js h i s' o, I s js h → step s i = .ok (s', o) → I s' (js ++ [i]) (h ++ [o]))
    (hok : ∀ s js h i, I s js h → ((∃ r, step s i = .ok r) ↔ P js i)) :
    ∀ (is : List ι) (s : σ) (js : List ι) (h : List ο), I s js h →
      ((∃ r, run step s is = .ok r) ↔ ∀ is₁ i is₂, is = is₁ ++ i :: is₂ → P (js ++ is₁) i) := by
  intro is
  induction is with
  | nil =>
      intro s js h _
      exact iff_of_true ⟨_, rfl⟩ (fun is₁ i is₂ heq => absurd heq.symm (by simp))
  | cons i is ih =>
      intro s js h hI
      constructor
      · rintro ⟨⟨s', os⟩, hrun⟩ is₁ j is₂ heq
        obtain ⟨s1, o, os', hs, hr, -⟩ := run_cons_ok hrun
        have hrest := (ih s1 (js ++ [i]) (h ++ [o]) (hkeep s js h i s1 o hI hs)).mp ⟨_, hr⟩
        cases is₁ with
        | nil =>
            obtain ⟨rfl, -⟩ := List.cons.inj heq
            rw [List.append_nil]
            exact (hok s js h i hI).mp ⟨_, hs⟩
        | cons i₁ is₁ =>
            obtain ⟨rfl, htail⟩ := List.cons.inj heq
            have hP := hrest is₁ j is₂ htail
            rwa [List.append_assoc] at hP
      · intro hP
        have hfirst := hP [] i is rfl
        rw [List.append_nil] at hfirst
        obtain ⟨⟨s1, o⟩, hs⟩ := (hok s js h i hI).mpr hfirst
        obtain ⟨⟨s', os⟩, hr⟩ := (ih s1 (js ++ [i]) (h ++ [o])
          (hkeep s js h i s1 o hI hs)).mpr fun is₁ j is₂ heq => by
            rw [List.append_assoc]
            exact hP (i :: is₁) j is₂ (by rw [heq]; rfl)
        refine ⟨(s', o :: os), ?_⟩
        rw [run, hs]
        show (run step s1 is).map _ = _
        rw [hr]
        rfl

/-- **REPORTS OF GUARDED STEPS**: what every guarded step's report satisfies,
    the reports of a guarded run satisfy. -/
theorem run_reports_all {Q : ο → Prop}
    (hstep : ∀ s i s' o, G s i → step s i = .ok (s', o) → Q o) :
    ∀ (is : List ι) (s s' : σ) (os : List ο), Guarded step G s is →
      run step s is = .ok (s', os) → ∀ o ∈ os, Q o := by
  intro is
  induction is with
  | nil =>
      intro s s' os _ hrun o ho
      rw [← (Prod.mk.inj (Except.ok.inj hrun)).2] at ho
      exact nomatch ho
  | cons i is ih =>
      intro s s' os hguard hrun o ho
      obtain ⟨s1, o1, os', hs, hr, rfl⟩ := run_cons_ok hrun
      have hrest := ((guarded_cons_ok hs).mp hguard).2
      rcases List.mem_cons.mp ho with rfl | ho
      · exact hstep s i s1 o hguard.1 hs
      · exact ih s1 s' os' hrest hr o ho

theorem Always.head {P : σ → Prop} {s : σ} {is : List ι}
    (h : Always step P s is) : P s := by
  cases is with
  | nil => exact h
  | cons i is => exact h.1

/-- A run whose steps all return returns. -/
theorem Always.returns {P : σ → Prop} : ∀ {is : List ι} {s : σ},
    Always step P s is → ∃ s' os, run step s is = .ok (s', os) ∧ P s' := by
  intro is
  induction is with
  | nil => intro s h; exact ⟨s, [], rfl, h⟩
  | cons i is ih =>
      intro s h
      obtain ⟨-, s1, o, hstep, hrest⟩ := h
      obtain ⟨s', os, hrun, hP⟩ := ih hrest
      refine ⟨s', o :: os, ?_, hP⟩
      rw [run, hstep]
      show (run step s1 is).map _ = _
      rw [hrun]
      rfl

/-- The state that a run ends in is one of those on the way. -/
theorem Always.run_end {P : σ → Prop} : ∀ {is : List ι} {s s' : σ} {os : List ο},
    Always step P s is → run step s is = .ok (s', os) → P s' := by
  intro is
  induction is with
  | nil =>
      intro s s' os h hrun
      rw [← (Prod.mk.inj (Except.ok.inj hrun)).1]
      exact h
  | cons i is ih =>
      intro s s' os h hrun
      obtain ⟨-, s1, o, hs, hrest⟩ := h
      obtain ⟨s2, o2, os2, hs2, hr2, -⟩ := run_cons_ok hrun
      rw [hs] at hs2
      obtain ⟨rfl, rfl⟩ := Prod.mk.inj (Except.ok.inj hs2)
      exact ih hrest hr2

/-- **EXACT GUARDS FOR SAFETY**: where a guarded step keeps an invariant that
    is safe, and any other step ends in an unsafe state, a run is safe in every
    state iff all its steps meet the guard. -/
theorem always_iff_guarded {I P : σ → Prop} (hsafe : ∀ s, I s → P s)
    (hkeep : ∀ s i, I s → G s i → ∃ s' o, step s i = .ok (s', o) ∧ I s')
    (hbreak : ∀ s i, I s → ¬ G s i →
      ∀ s' o, step s i = .ok (s', o) → ¬ P s') :
    ∀ (is : List ι) (s : σ), I s →
      (Always step P s is ↔ Guarded step G s is) := by
  intro is
  induction is with
  | nil => intro s hI; exact ⟨fun _ => trivial, fun _ => hsafe s hI⟩
  | cons i is ih =>
      intro s hI
      constructor
      · rintro ⟨-, s', o, hs, hrest⟩
        have hG : G s i := by
          by_contra hG
          exact hbreak s i hI hG s' o hs hrest.head
        obtain ⟨s1, o1, hs1, hI1⟩ := hkeep s i hI hG
        rw [hs] at hs1
        obtain ⟨rfl, rfl⟩ := Prod.mk.inj (Except.ok.inj hs1)
        exact (guarded_cons_ok hs).mpr ⟨hG, (ih s' hI1).mp hrest⟩
      · intro hguard
        obtain ⟨s', o, hs, hI'⟩ := hkeep s i hI hguard.1
        have hrest := ((guarded_cons_ok hs).mp hguard).2
        exact ⟨hsafe s hI, s', o, hs, (ih s' hI').mpr hrest⟩

/-- **GUARDED STEPS KEEP AN INVARIANT**: it holds in every state of a guarded
    run. -/
theorem always_of_guarded {I : σ → Prop}
    (hkeep : ∀ s i, I s → G s i → ∃ s' o, step s i = .ok (s', o) ∧ I s') :
    ∀ (is : List ι) (s : σ), I s → Guarded step G s is → Always step I s is := by
  intro is
  induction is with
  | nil => intro s hI _; exact hI
  | cons i is ih =>
      intro s hI hguard
      obtain ⟨s', o, hs, hI'⟩ := hkeep s i hI hguard.1
      exact ⟨hI, s', o, hs, ih s' hI' ((guarded_cons_ok hs).mp hguard).2⟩

theorem Always.imp {P Q : σ → Prop} (hPQ : ∀ s, P s → Q s) :
    ∀ {is : List ι} {s : σ}, Always step P s is → Always step Q s is := by
  intro is
  induction is with
  | nil => intro s h; exact hPQ s h
  | cons i is ih =>
      intro s h
      obtain ⟨hP, s', o, hs, hrest⟩ := h
      exact ⟨hPQ s hP, s', o, hs, ih hrest⟩

/-- A run that fails is not right. -/
theorem not_runOk_of_error {is : List ι} {s : σ} {g : γ} {e : ε} (hR : R s g)
    (h : run step s is = .error e) : ¬ RunOk step spec R s g is := by
  intro hrun
  obtain ⟨s', hs, -⟩ := hrun.run_eq hR
  rw [h] at hs
  exact nomatch hs

end RunGuard
