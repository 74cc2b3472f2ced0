import Mathlib.Data.List.Basic
import Mathlib.Order.Basic
import Mathlib.Tactic.Common

/-! # Runs that record what they used

    A machine takes steps that may fail; some of its steps record a value, and
    the record of a run is the list of these.  A guard may look at the record
    so far.  `record_inv` carries an invariant of the state and the record
    through a run, and `apart_record` is the use of it for counters: where
    every step that records does so at values behind all earlier ones, no two
    records are at the same value. -/

namespace RecordedRun

variable {σ ι ε τ κ : Type}

section Defs

variable (step : σ → ι → Except ε (σ × Option τ)) (G : σ → List τ → ι → Prop)

/-- What a run records, up to the first step that fails. -/
def record : σ → List ι → List τ
  | _, [] => []
  | s, i :: is =>
      match step s i with
      | .error _ => []
      | .ok (s', o) => o.toList ++ record s' is

/-- Every step of a run meets the guard in the state it is taken in, behind
    what was recorded before it. -/
def Guarded : σ → List τ → List ι → Prop
  | _, _, [] => True
  | s, h, i :: is => G s h i ∧
      match step s i with
      | .error _ => True
      | .ok (s', o) => Guarded s' (h ++ o.toList) is

instance decGuarded [dec : ∀ s h i, Decidable (G s h i)] :
    ∀ s h is, Decidable (Guarded step G s h is)
  | _, _, [] => isTrue trivial
  | s, h, i :: is =>
      @instDecidableAnd _ _ (dec s h i)
        (match step s i with
          | .error _ => isTrue trivial
          | .ok (s', o) => decGuarded s' (h ++ o.toList) is)

end Defs

variable {step : σ → ι → Except ε (σ × Option τ)}
variable {G : σ → List τ → ι → Prop}

/-- **INVARIANTS OF STATE AND RECORD**: what every guarded step keeps holds at
    the end of a guarded run. -/
theorem record_inv {I : σ → List τ → Prop}
    (hstep : ∀ s h i s' o, I s h → G s h i → step s i = .ok (s', o) →
      I s' (h ++ o.toList)) :
    ∀ (is : List ι) (s : σ) (h : List τ), I s h → Guarded step G s h is →
      ∃ s', I s' (h ++ record step s is) := by
  intro is
  induction is with
  | nil =>
      intro s h hI _
      exact ⟨s, (List.append_nil h).symm ▸ hI⟩
  | cons i is ih =>
      intro s h hI hguard
      obtain ⟨hG, hrest⟩ := hguard
      cases hs : step s i with
      | error e =>
          rw [record, hs]
          exact ⟨s, (List.append_nil h).symm ▸ hI⟩
      | ok r =>
          obtain ⟨s', o⟩ := r
          rw [hs] at hrest
          obtain ⟨s'', hI''⟩ := ih s' (h ++ o.toList)
            (hstep s h i s' o hI hG hs) hrest
          rw [record, hs]
          exact ⟨s'', (List.append_assoc _ _ _) ▸ hI''⟩

/-- What every step keeps, whatever it is, holds at the end of every run. -/
theorem record_keeps {I : σ → List τ → Prop}
    (hstep : ∀ s h i s' o, I s h → step s i = .ok (s', o) → I s' (h ++ o.toList)) :
    ∀ (is : List ι) (s : σ) (h : List τ), I s h →
      ∃ s', I s' (h ++ record step s is) := by
  have hguard : ∀ (is : List ι) (s : σ) (h : List τ),
      Guarded step (fun _ _ _ => True) s h is := by
    intro is
    induction is with
    | nil => intro s h; exact trivial
    | cons i is ih =>
        intro s h
        refine ⟨trivial, ?_⟩
        cases step s i with
        | error e => exact trivial
        | ok r => exact ih r.1 (h ++ r.2.toList)
  intro is s h hI
  exact record_inv (fun s h i s' o hI _ hs => hstep s h i s' o hI hs) is s h hI
    (hguard is s h)

/-- **EACH RECORD AND ITS INPUT**: where every step records something, keeps an
    invariant of the state and the record, and what it records is related to its
    input and to the record so far, this holds of every record of a run. -/
theorem record_rounds {I : σ → List τ → Prop} {Q : List τ → ι → τ → Prop}
    (hstep : ∀ s h i s' o, I s h → step s i = .ok (s', o) →
      ∃ t, o = some t ∧ Q h i t ∧ I s' (h ++ [t])) :
    ∀ (is : List ι) (s : σ) (h : List τ), I s h → ∀ k i t, is[k]? = some i →
      (record step s is)[k]? = some t → Q (h ++ (record step s is).take k) i t := by
  intro is
  induction is with
  | nil => intro s h _ k i t hi; exact nomatch hi
  | cons j is ih =>
      intro s h hI k i t hi ht
      cases hs : step s j with
      | error e =>
          rw [record, hs] at ht
          exact nomatch ht
      | ok r =>
          obtain ⟨s', o⟩ := r
          obtain ⟨u, rfl, hQ, hI'⟩ := hstep s h j s' o hI hs
          have hrec : record step s (j :: is) = u :: record step s' is := by
            rw [record, hs]
            rfl
          rw [hrec] at ht ⊢
          cases k with
          | zero =>
              rw [← Option.some.inj hi, ← Option.some.inj ht, List.take_zero, List.append_nil]
              exact hQ
          | succ k =>
              have hrest := ih s' (h ++ [u]) hI' k i t hi ht
              rw [List.append_assoc] at hrest
              exact hrest

section Counter

variable [Preorder κ] (tx : σ → κ) (At : τ → κ → Prop)

/-- What is recorded goes up, and the counter is not behind it. -/
def Counted (s : σ) (h : List τ) : Prop :=
  h.Pairwise (fun t t' => ∀ k k', At t k → At t' k' → k < k')
    ∧ ∀ t ∈ h, ∀ k, At t k → k ≤ tx s

variable {tx At}

/-- One more record behind the others. -/
theorem Counted.record {s s' : σ} {h : List τ} {t : τ}
    (hc : Counted tx At s h) (ht : ∀ k, At t k → k = tx s')
    (hup : tx s < tx s' ∨ h = []) : Counted tx At s' (h ++ [t]) := by
  have hlt : ∀ u ∈ h, ∀ k, At u k → k < tx s' := by
    intro u hu k hk
    rcases hup with hup | rfl
    · exact lt_of_le_of_lt (hc.2 u hu k hk) hup
    · exact nomatch hu
  constructor
  · refine List.pairwise_append.mpr ⟨hc.1, List.pairwise_singleton _ _, ?_⟩
    intro u hu v hv k k' hk hk'
    rw [List.mem_singleton.mp hv] at hk'
    rw [ht k' hk']
    exact hlt u hu k hk
  · intro u hu k hk
    rcases List.mem_append.mp hu with hu | hu
    · exact (hlt u hu k hk).le
    · rw [List.mem_singleton.mp hu] at hk
      exact (ht k hk).le

/-- A step that records nothing may count, and may start again as long as
    nothing was recorded. -/
theorem Counted.skip {s s' : σ} {h : List τ} (hc : Counted tx At s h)
    (hup : tx s ≤ tx s' ∨ h = []) : Counted tx At s' h := by
  refine ⟨hc.1, fun u hu k hk => ?_⟩
  rcases hup with hup | rfl
  · exact (hc.2 u hu k hk).trans hup
  · exact nomatch hu

/-- What a step may do: leave the counter and record nothing, or record what
    it does under a counter it raised, or started again before the first
    record. -/
def StepCounts (tx : σ → κ) (At : τ → κ → Prop) (s s' : σ) (h : List τ)
    (o : Option τ) : Prop :=
  (o = none ∧ tx s' = tx s)
    ∨ ((∀ t, o = some t → ∀ k, At t k → k = tx s') ∧ (tx s < tx s' ∨ h = []))

theorem StepCounts.counted {s s' : σ} {h : List τ} {o : Option τ}
    (hs : StepCounts tx At s s' h o) (hc : Counted tx At s h) :
    Counted tx At s' (h ++ o.toList) := by
  rcases hs with ⟨rfl, htx⟩ | ⟨hcount, hup⟩
  · exact (List.append_nil h).symm ▸ hc.skip (Or.inl htx.ge)
  · cases o with
    | none => exact (List.append_nil h).symm ▸ hc.skip (hup.imp_left le_of_lt)
    | some t => exact hc.record (hcount t rfl) hup

/-- **NO VALUE TWICE**: where every guarded step counts, no two records of a
    guarded run are at the same value. -/
theorem apart_record
    (hstep : ∀ s h i s' o, G s h i → step s i = .ok (s', o) →
      StepCounts tx At s s' h o)
    {s : σ} {is : List ι} (hguard : Guarded step G s [] is) :
    (record step s is).Pairwise fun t t' => ∀ k, At t k → ¬ At t' k := by
  have hinit : Counted tx At s [] :=
    ⟨List.Pairwise.nil, fun t ht => nomatch ht⟩
  have hkeep : ∀ s h i s' o, Counted tx At s h → G s h i →
      step s i = .ok (s', o) → Counted tx At s' (h ++ o.toList) :=
    fun s h i s' o hc hG hs => (hstep s h i s' o hG hs).counted hc
  obtain ⟨s', hc⟩ := record_inv hkeep is s [] hinit hguard
  refine hc.1.imp ?_
  intro t t' hlt k hk hk'
  exact lt_irrefl k (hlt k k hk hk')

end Counter

end RecordedRun
