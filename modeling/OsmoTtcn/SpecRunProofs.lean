import OsmoTtcn.RunGuardProofs

/-! # Runs that a specification allows

    A specification need not be a function: `Allowed` relates what was before
    an input to what may be after it and what may be reported, and `Stops` says
    where a machine may give up.  `Follows` says that a machine takes a whole
    run as the specification allows, related to it in every state on the way.

    `follows_of_guarded` lifts a guard from one step to every run, and
    `follows_iff_guarded` an exact one.  A condition on the inputs that can be
    told from what the specification knows is part of the run: `FollowsWithin`
    asks for nothing behind an input that breaks it.  Where it matters with
    which error a machine gives up, `FollowsUntil` says so. -/

namespace SpecRun

open RunGuard

variable {σ γ ι ο ε : Type}

section Defs

variable (step : σ → ι → Except ε (σ × ο))
variable (Allowed : γ → ι → γ → ο → Prop) (Stops : γ → ι → Prop)
variable (R : σ → γ → Prop)

/-- One step is allowed and ends in a related state, or stops where it may. -/
def StepFollows (s : σ) (g : γ) (i : ι) : Prop :=
  match step s i with
  | .error _ => Stops g i
  | .ok (s', o) => ∃ g', Allowed g i g' o ∧ R s' g'

/-- Every step of a run is allowed, up to the first one that stops. -/
def Follows : σ → γ → List ι → Prop
  | s, g, [] => R s g
  | s, g, i :: is => R s g ∧
      match step s i with
      | .error _ => Stops g i
      | .ok (s', o) => ∃ g', Allowed g i g' o ∧ Follows s' g' is

end Defs

variable {step : σ → ι → Except ε (σ × ο)}
variable {Allowed : γ → ι → γ → ο → Prop} {Stops : γ → ι → Prop}
variable {R Q : σ → γ → Prop} {G : σ → ι → Prop}

theorem stepFollows_error {s : σ} {g : γ} {i : ι} {e : ε}
    (h : step s i = .error e) (hstop : Stops g i) :
    StepFollows step Allowed Stops R s g i := by
  rw [StepFollows, h]
  exact hstop

theorem stepFollows_ok {s s' : σ} {g g' : γ} {i : ι} {o : ο}
    (h : step s i = .ok (s', o)) (hallowed : Allowed g i g' o) (hR : R s' g') :
    StepFollows step Allowed Stops R s g i := by
  rw [StepFollows, h]
  exact ⟨g', hallowed, hR⟩

theorem follows_cons_ok {s s' : σ} {g : γ} {i : ι} {o : ο} {is : List ι}
    (h : step s i = .ok (s', o)) : Follows step Allowed Stops R s g (i :: is)
      ↔ R s g ∧ ∃ g', Allowed g i g' o ∧ Follows step Allowed Stops R s' g' is := by
  rw [Follows, h]

/-- How a step may follow, to be shown without a look at what the step is. -/
theorem stepFollows_of {s : σ} {g : γ} {i : ι}
    (h : (∃ e, step s i = .error e ∧ Stops g i)
      ∨ ∃ s' o g', step s i = .ok (s', o) ∧ Allowed g i g' o ∧ R s' g') :
    StepFollows step Allowed Stops R s g i := by
  rcases h with ⟨e, hs, hstop⟩ | ⟨s', o, g', hs, hallowed, hR⟩
  · exact stepFollows_error hs hstop
  · exact stepFollows_ok hs hallowed hR

/-- A run that stops where it may not. -/
theorem not_follows_error {s : σ} {g : γ} {i : ι} {e : ε} {is : List ι}
    (h : step s i = .error e) (hstop : ¬ Stops g i) :
    ¬ Follows step Allowed Stops R s g (i :: is) := by
  rw [Follows, h]
  exact fun hand => hstop hand.2

/-- A run that goes wrong after one step. -/
theorem not_follows_cons {s s' : σ} {g : γ} {i : ι} {o : ο} {is : List ι}
    (h : step s i = .ok (s', o))
    (hrest : ∀ g', Allowed g i g' o → ¬ Follows step Allowed Stops R s' g' is) :
    ¬ Follows step Allowed Stops R s g (i :: is) := by
  rw [follows_cons_ok h]
  rintro ⟨-, g', hallowed, hfollows⟩
  exact hrest g' hallowed hfollows

/-- **A RUN THAT STOPS** with its last input stops where it may. -/
theorem Follows.stops : ∀ {is : List ι} {s s' : σ} {g : γ} {os : List ο} {i : ι} {e : ε},
    Follows step Allowed Stops R s g (is ++ [i]) → run step s is = .ok (s', os) →
    step s' i = .error e → ∃ g', Stops g' i := by
  intro is
  induction is with
  | nil =>
      intro s s' g os i e h hrun hstep
      rw [← (Prod.mk.inj (Except.ok.inj hrun)).1] at hstep
      have hlast := h.2
      rw [hstep] at hlast
      exact ⟨g, hlast⟩
  | cons j is ih =>
      intro s s' g os i e h hrun hstep
      obtain ⟨s1, o, os', hs, hr, -⟩ := run_cons_ok hrun
      rw [List.cons_append] at h
      obtain ⟨-, g', -, hrest⟩ := (follows_cons_ok hs).mp h
      exact ih hrest hr hstep

/-- **GUARDS LIFT TO RUNS**: where every guarded step follows the
    specification, every guarded run does. -/
theorem follows_of_guarded
    (hstep : ∀ s g i, R s g → G s i → StepFollows step Allowed Stops R s g i) :
    ∀ (is : List ι) (s : σ) (g : γ), R s g → Guarded step G s is →
      Follows step Allowed Stops R s g is := by
  intro is
  induction is with
  | nil => intro s g hR _; exact hR
  | cons i is ih =>
      intro s g hR hguard
      have hone := hstep s g i hR hguard.1
      refine ⟨hR, ?_⟩
      cases hs : step s i with
      | error e =>
          rw [StepFollows, hs] at hone
          exact hone
      | ok r =>
          obtain ⟨s', o⟩ := r
          rw [StepFollows, hs] at hone
          obtain ⟨g', hallowed, hR'⟩ := hone
          have hrest := ((guarded_cons_ok hs).mp hguard).2
          exact ⟨g', hallowed, ih s' g' hR' hrest⟩

/-- **STEPS LIFT TO RUNS**: where every step follows the specification, every
    run does. -/
theorem follows_of_step (hstep : ∀ s g i, R s g → StepFollows step Allowed Stops R s g i)
    (is : List ι) {s : σ} {g : γ} (hR : R s g) : Follows step Allowed Stops R s g is :=
  follows_of_guarded (fun s g i h _ => hstep s g i h) is s g hR
    (guarded_of_forall (fun _ _ => trivial) is s)

theorem Follows.related {s : σ} {g : γ} :
    ∀ {is : List ι}, Follows step Allowed Stops R s g is → R s g
  | [], h => h
  | _ :: _, h => h.1

/-- A run that follows begins with a step that does. -/
theorem Follows.head {s : σ} {g : γ} {i : ι} {is : List ι}
    (h : Follows step Allowed Stops R s g (i :: is)) :
    StepFollows step Allowed Stops R s g i := by
  obtain ⟨-, hstep⟩ := h
  cases hs : step s i with
  | error e =>
      rw [hs] at hstep
      exact stepFollows_error hs hstep
  | ok r =>
      rw [hs] at hstep
      obtain ⟨g', hallowed, hrest⟩ := hstep
      exact stepFollows_ok hs hallowed hrest.related

/-- **EXACT GUARDS LIFT TO RUNS**: a run follows the specification exactly if
    every step of it is guarded. -/
theorem follows_iff_guarded
    (hstep : ∀ s g i, R s g → (StepFollows step Allowed Stops R s g i ↔ G s i)) :
    ∀ (is : List ι) (s : σ) (g : γ), R s g →
      (Follows step Allowed Stops R s g is ↔ Guarded step G s is) := by
  intro is
  induction is with
  | nil => exact fun _ _ hR => iff_of_true hR trivial
  | cons i is ih =>
      intro s g hR
      constructor
      · intro h
        refine ⟨(hstep s g i hR).mp h.head, ?_⟩
        cases hs : step s i with
        | error e => exact trivial
        | ok r =>
            obtain ⟨-, g', -, hrest⟩ := (follows_cons_ok hs).mp h
            exact (ih r.1 g' hrest.related).mp hrest
      · exact follows_of_guarded (fun s g i hR hG => (hstep s g i hR).mpr hG) (i :: is) s g hR

/-- What the relation gives holds in every state of the run. -/
theorem Follows.imp (hRQ : ∀ s g, R s g → Q s g) :
    ∀ {is : List ι} {s : σ} {g : γ}, Follows step Allowed Stops R s g is →
      Follows step Allowed Stops Q s g is := by
  intro is
  induction is with
  | nil => intro s g h; exact hRQ s g h
  | cons i is ih =>
      intro s g h
      obtain ⟨hR, hrest⟩ := h
      refine ⟨hRQ s g hR, ?_⟩
      cases hs : step s i with
      | error e =>
          rw [hs] at hrest
          exact hrest
      | ok r =>
          obtain ⟨s', o⟩ := r
          rw [hs] at hrest
          obtain ⟨g', hallowed, hfollows⟩ := hrest
          exact ⟨g', hallowed, ih hfollows⟩

-- ── Runs that may end with some errors ───────────────────────────────────────

section Ends

variable (step : σ → ι → Except ε (σ × ο))
variable (Allowed : γ → ι → γ → ο → Prop) (Ends : γ → ι → ε → Prop)
variable (R : σ → γ → Prop)

/-- One step is allowed and ends in a related state, or ends the run with an
    error it may end with there. -/
def StepFollowsUntil (s : σ) (g : γ) (i : ι) : Prop :=
  (∃ e, step s i = .error e ∧ Ends g i e)
    ∨ ∃ s' o g', step s i = .ok (s', o) ∧ Allowed g i g' o ∧ R s' g'

/-- Every step of a run is allowed, up to the first one that ends it. -/
def FollowsUntil : σ → γ → List ι → Prop
  | s, g, [] => R s g
  | s, g, i :: is => R s g ∧
      match step s i with
      | .error e => Ends g i e
      | .ok (s', o) => ∃ g', Allowed g i g' o ∧ FollowsUntil s' g' is

end Ends

variable {Ends : γ → ι → ε → Prop}

/-- **GUARDS LIFT TO RUNS** that may end with some errors. -/
theorem followsUntil_of_guarded
    (hstep : ∀ s g i, R s g → G s i → StepFollowsUntil step Allowed Ends R s g i) :
    ∀ (is : List ι) (s : σ) (g : γ), R s g → Guarded step G s is →
      FollowsUntil step Allowed Ends R s g is := by
  intro is
  induction is with
  | nil => intro s g hR _; exact hR
  | cons i is ih =>
      intro s g hR hguard
      refine ⟨hR, ?_⟩
      rcases hstep s g i hR hguard.1 with ⟨e, hs, hend⟩ | ⟨s', o, g', hs, hallowed, hR'⟩
      · rw [hs]
        exact hend
      · rw [hs]
        exact ⟨g', hallowed, ih s' g' hR' ((guarded_cons_ok hs).mp hguard).2⟩

/-- A run goes on behind a step. -/
theorem followsUntil_cons_ok {s s' : σ} {g : γ} {i : ι} {o : ο} {is : List ι}
    (h : step s i = .ok (s', o)) : FollowsUntil step Allowed Ends R s g (i :: is)
      ↔ R s g ∧ ∃ g', Allowed g i g' o ∧ FollowsUntil step Allowed Ends R s' g' is := by
  rw [FollowsUntil, h]

/-- What the relation gives holds in every state of the run. -/
theorem FollowsUntil.imp (hRQ : ∀ s g, R s g → Q s g) :
    ∀ {is : List ι} {s : σ} {g : γ}, FollowsUntil step Allowed Ends R s g is →
      FollowsUntil step Allowed Ends Q s g is := by
  intro is
  induction is with
  | nil => intro s g h; exact hRQ s g h
  | cons i is ih =>
      intro s g h
      obtain ⟨hR, hrest⟩ := h
      refine ⟨hRQ s g hR, ?_⟩
      cases hs : step s i with
      | error e =>
          rw [hs] at hrest
          exact hrest
      | ok r =>
          obtain ⟨s', o⟩ := r
          rw [hs] at hrest
          obtain ⟨g', hallowed, hfollows⟩ := hrest
          exact ⟨g', hallowed, ih hfollows⟩

/-- **A RUN THAT ENDS** ends with an error it may end with. -/
theorem FollowsUntil.ends : ∀ {is : List ι} {s s' : σ} {g : γ} {os : List ο} {i : ι} {e : ε},
    FollowsUntil step Allowed Ends R s g (is ++ [i]) → run step s is = .ok (s', os) →
    step s' i = .error e → ∃ g', R s' g' ∧ Ends g' i e := by
  intro is
  induction is with
  | nil =>
      intro s s' g os i e h hrun hstep
      rw [← (Prod.mk.inj (Except.ok.inj hrun)).1] at hstep ⊢
      obtain ⟨hR, hlast⟩ := h
      rw [hstep] at hlast
      exact ⟨g, hR, hlast⟩
  | cons j is ih =>
      intro s s' g os i e h hrun hstep
      obtain ⟨s1, o, os', hs, hr, -⟩ := run_cons_ok hrun
      obtain ⟨-, g', -, hrest⟩ := (followsUntil_cons_ok hs).mp h
      exact ih hrest hr hstep

-- ── Runs with a condition on their inputs ────────────────────────────────────

section Within

variable (step : σ → ι → Except ε (σ × ο))
variable (Allowed : γ → ι → γ → ο → Prop) (Stops : γ → ι → ε → Prop)
variable (R : σ → γ → Prop) (G : γ → ι → Prop)

/-- Every step of a run is allowed, up to the first one that stops and as long
    as the inputs meet a condition on what the specification knows. -/
def FollowsWithin : σ → γ → List ι → Prop
  | s, g, [] => R s g
  | s, g, i :: is => R s g ∧ (G g i →
      match step s i with
      | .error e => Stops g i e
      | .ok (s', o) => ∃ g', Allowed g i g' o ∧ FollowsWithin s' g' is)

end Within

section Within

variable {Stops : γ → ι → ε → Prop} {G : γ → ι → Prop}

/-- **CONDITIONS ON WHAT IS KNOWN LIFT TO RUNS.** -/
theorem followsWithin_of_step
    (hstep : ∀ s g i, R s g → G g i → StepFollowsUntil step Allowed Stops R s g i) :
    ∀ (is : List ι) {s : σ} {g : γ}, R s g →
      FollowsWithin step Allowed Stops R G s g is := by
  intro is
  induction is with
  | nil => exact fun hR => hR
  | cons i is ih =>
      intro s g hR
      refine ⟨hR, fun hG => ?_⟩
      rcases hstep s g i hR hG with ⟨e, hs, hstop⟩ | ⟨s', o, g', hs, hallowed, hR'⟩
      · rw [hs]
        exact hstop
      · rw [hs]
        exact ⟨g', hallowed, ih hR'⟩

/-- A run goes on behind a step that meets the condition. -/
theorem followsWithin_cons_ok {s s' : σ} {g : γ} {i : ι} {o : ο} {is : List ι}
    (h : step s i = .ok (s', o)) : FollowsWithin step Allowed Stops R G s g (i :: is)
      ↔ R s g ∧ (G g i → ∃ g', Allowed g i g' o
        ∧ FollowsWithin step Allowed Stops R G s' g' is) := by
  rw [FollowsWithin, h]

/-- A step that meets the condition stops where it may. -/
theorem FollowsWithin.error {s : σ} {g : γ} {i : ι} {e : ε} {is : List ι}
    (h : FollowsWithin step Allowed Stops R G s g (i :: is)) (hs : step s i = .error e)
    (hG : G g i) : Stops g i e := by
  have hstop := h.2 hG
  rw [hs] at hstop
  exact hstop

/-- What the relation gives holds in every state of the run. -/
theorem FollowsWithin.imp (hRQ : ∀ s g, R s g → Q s g) :
    ∀ {is : List ι} {s : σ} {g : γ}, FollowsWithin step Allowed Stops R G s g is →
      FollowsWithin step Allowed Stops Q G s g is := by
  intro is
  induction is with
  | nil => exact fun h => hRQ _ _ h
  | cons i is ih =>
      intro s g h
      refine ⟨hRQ s g h.1, fun hG => ?_⟩
      have hrest := h.2 hG
      cases hs : step s i with
      | error e =>
          rw [hs] at hrest
          exact hrest
      | ok r =>
          rw [hs] at hrest
          obtain ⟨g', hallowed, hfollows⟩ := hrest
          exact ⟨g', hallowed, ih hfollows⟩

end Within

end SpecRun

/-! # Two machines with the same runs

    Two machines take the same inputs.  Where every step of one is a step of the
    other, with the same report and to related states, or ends both for related
    reasons, the runs of the two are the same (`run_same`), and what one reports
    in a run the other does. -/

namespace SameRun

open RunGuard

variable {σ γ ι ο ε δ : Type} {R : σ → γ → Prop} {E : ε → δ → Prop}

/-- Both go on, in related states and with one report, or both end. -/
inductive Same (R : σ → γ → Prop) (E : ε → δ → Prop) :
    Except ε (σ × ο) → Except δ (γ × ο) → Prop where
  | ok {s : σ} {g : γ} (h : R s g) (o : ο) : Same R E (.ok (s, o)) (.ok (g, o))
  | error {e : ε} {d : δ} (h : E e d) : Same R E (.error e) (.error d)

/-- A report that is made of the report. -/
theorem Same.map {κ : Type} {x : Except ε (σ × ο)} {y : Except δ (γ × ο)} (h : Same R E x y)
    (f : ο → κ) : Same R E (x.map fun r => (r.1, f r.2)) (y.map fun r => (r.1, f r.2)) := by
  cases h with
  | ok hR o => exact .ok hR (f o)
  | error hE => exact .error hE

/-- What one machine goes on to, the other does. -/
theorem Same.of_ok {s : σ} {o : ο} {y : Except δ (γ × ο)} (h : Same R E (.ok (s, o)) y) :
    ∃ g, y = .ok (g, o) ∧ R s g := by
  cases h with
  | ok hR o => exact ⟨_, rfl, hR⟩

-- ── What may fail, and what is defined ───────────────────────────────────────

/-- One returns what the other is defined as, or fails where it is not defined. -/
inductive Both {α β : Type} (Q : α → β → Prop) : Except ε α → Option β → Prop where
  | ok {a : α} {b : β} (h : Q a b) : Both Q (.ok a) (some b)
  | none (e : ε) : Both Q (.error e) .none

section Both

variable {α β α' β' : Type} {Q : α → β → Prop} {Q' : α' → β' → Prop}
variable {x : Except ε α} {y : Option β}

theorem both_toOption (x : Except ε α) : Both Eq x x.toOption := by
  cases x with
  | ok a => exact .ok rfl
  | error e => exact .none e

theorem Both.bind {f : α → Except ε α'} {k : β → Option β'} (h : Both Q x y)
    (hf : ∀ a b, Q a b → Both Q' (f a) (k b)) : Both Q' (x.bind f) (y.bind k) := by
  cases h with
  | ok hQ => exact hf _ _ hQ
  | none e => exact .none e

theorem Both.map {f : α → α'} {k : β → β'} (h : Both Q x y)
    (hf : ∀ a b, Q a b → Q' (f a) (k b)) : Both Q' (x.map f) (y.map k) := by
  cases h with
  | ok hQ => exact .ok (hf _ _ hQ)
  | none e => exact .none e

theorem Both.of_some {b : β} (h : Both Q x (some b)) : ∃ a, x = .ok a ∧ Q a b := by
  cases h with
  | ok hQ => exact ⟨_, rfl, hQ⟩

theorem Both.of_none (h : Both Q x Option.none) : ∃ e, x = .error e := by
  cases h with
  | none e => exact ⟨e, rfl⟩

end Both

-- ── Runs ─────────────────────────────────────────────────────────────────────

variable {step : σ → ι → Except ε (σ × ο)} {spec : γ → ι → Except δ (γ × ο)}

/-- **STEPS LIFT TO RUNS**: machines with the same steps have the same runs. -/
theorem run_same (hstep : ∀ s g i, R s g → Same R E (step s i) (spec g i)) (is : List ι) :
    ∀ (s : σ) (g : γ), R s g → Same R E (run step s is) (run spec g is) := by
  induction is with
  | nil =>
      intro s g hR
      exact .ok hR []
  | cons i is ih =>
      intro s g hR
      have hfirst := hstep s g i hR
      rw [run, run]
      generalize step s i = x at hfirst ⊢
      generalize spec g i = y at hfirst ⊢
      cases hfirst with
      | ok hR' o => exact (ih _ _ hR').map fun os => o :: os
      | error hE => exact .error hE

end SameRun
