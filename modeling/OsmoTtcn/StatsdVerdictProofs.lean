import OsmoTtcn.StatsdExpectProofs

/-! # The verdict of the StatsD checker and the order of the expectations

    Expectations that are accepted have different names, so the first one of a name
    is the only one.  Where a failure may show in two ways, and a metric can be
    missing from the snapshot, two expectations of one name that differ are enough
    for the order to decide between them. -/

namespace OsmoStatsd

open KeyedList BatchRun

-- ── One comparison ───────────────────────────────────────────────────────────

theorem getVal_congr {metric metric' : StatsDMetric} (hname : metric.name = metric'.name)
    (htype : metric.mtype = metric'.mtype) : ∀ snapshot : List StatsDMetric,
    getValFromSnapshot metric snapshot = getValFromSnapshot metric' snapshot := by
  intro snapshot
  induction snapshot with
  | nil => rfl
  | cons s snapshot ih => rw [getValFromSnapshot, getValFromSnapshot, hname, htype, ih]

/-- A value is in range between both bounds. -/
theorem inRange_iff {e : StatsDExpect} {v : Int} :
    e.inRange v = true ↔ e.min ≤ v ∧ v ≤ e.max := by
  rw [StatsDExpect.inRange, Bool.not_eq_true', Bool.or_eq_false_iff, decide_eq_false_iff_not,
    decide_eq_false_iff_not, not_lt, not_lt]

theorem SameRange.inRange_eq {e e' : StatsDExpect} (h : SameRange e e') (v : Int) :
    e.inRange v = e'.inRange v := by
  rw [Bool.eq_iff_iff, inRange_iff, inRange_iff]
  rcases h with h | h <;> omega

/-- Two ranges that differ differ at a value. -/
theorem exists_inRange_ne {e e' : StatsDExpect} (h : ¬ SameRange e e') :
    ∃ v, (e.inRange v = true ∧ e'.inRange v = false)
      ∨ (e'.inRange v = true ∧ e.inRange v = false) := by
  by_contra hall
  have hiff : ∀ v, (e.min ≤ v ∧ v ≤ e.max) ↔ (e'.min ≤ v ∧ v ≤ e'.max) := by
    intro v
    rw [← inRange_iff, ← inRange_iff]
    cases hv : e.inRange v <;> cases hv' : e'.inRange v
    · exact Iff.rfl
    · exact absurd ⟨v, .inr ⟨hv', hv⟩⟩ hall
    · exact absurd ⟨v, .inl ⟨hv, hv'⟩⟩ hall
    · exact Iff.rfl
  have h₁ := hiff e.min
  have h₂ := hiff e.max
  have h₃ := hiff e'.min
  have h₄ := hiff e'.max
  exact h (by rw [SameRange]; omega)

section Compare

variable {a : ExpectArgs} {snapshot : List StatsDMetric} {metric : StatsDMetric}
variable {e e' : StatsDExpect}

/-- An expectation of another metric is not met. -/
theorem compare_other (h : ¬ (metric.name = e.name ∧ metric.mtype = e.mtype)) :
    fCompareExpect a.useSnapshot snapshot metric e = .ok false :=
  if_pos (not_and_or.mp h)

/-- An expectation of the metric's name and type looks at the value alone. -/
theorem compare_same (hname : metric.name = e.name) (htype : metric.mtype = e.mtype) :
    fCompareExpect a.useSnapshot snapshot metric e
      = match valueOf a snapshot metric with
        | none => .error (.notInSnapshot metric.name snapshot)
        | some v => .ok (e.inRange v) := by
  rw [fCompareExpect, if_neg (fun h => h.elim (· hname) (· htype)), valueOf]
  by_cases huse : a.useSnapshot = true
  · rw [if_pos huse, if_pos huse]
    cases getValFromSnapshot metric snapshot <;> rfl
  · rw [if_neg huse, if_neg huse]

/-- What compares as met is met. -/
theorem meets_of_compare (h : fCompareExpect a.useSnapshot snapshot metric e = .ok true) :
    Meets a snapshot metric e := by
  by_cases hsame : metric.name = e.name ∧ metric.mtype = e.mtype
  · rw [compare_same hsame.1 hsame.2] at h
    cases hv : valueOf a snapshot metric with
    | none =>
        rw [hv] at h
        cases h
    | some v =>
        rw [hv] at h
        exact ⟨hsame.1, hsame.2, v, hv, inRange_iff.mp (Except.ok.inj h)⟩
  · rw [compare_other hsame] at h
    cases h

/-- A comparison fails for want of a value in the snapshot only. -/
theorem missing_of_compare {why : Shutdown}
    (h : fCompareExpect a.useSnapshot snapshot metric e = .error why) :
    (metric.name = e.name ∧ metric.mtype = e.mtype) ∧ a.useSnapshot = true
      ∧ getValFromSnapshot metric snapshot = none := by
  by_cases hsame : metric.name = e.name ∧ metric.mtype = e.mtype
  · rw [compare_same hsame.1 hsame.2, valueOf] at h
    refine ⟨hsame, ?_⟩
    by_cases huse : a.useSnapshot = true
    · refine ⟨huse, ?_⟩
      rw [if_pos huse] at h
      cases hv : getValFromSnapshot metric snapshot with
      | none => rfl
      | some prev =>
          rw [hv] at h
          cases h
    · rw [if_neg huse] at h
      cases h
  · rw [compare_other hsame] at h
    cases h

/-- **WHICH EXPECTATIONS COMPARE ALIKE**: those of one name and one type, with one
    range or without a value to look at. -/
theorem compare_alike (hname : e.name = e'.name) (htype : e.mtype = e'.mtype)
    (h : SameRange e e' ∨ ∀ metric : StatsDMetric, metric.name = e.name →
      metric.mtype = e.mtype → valueOf a snapshot metric = none) :
    fCompareExpect a.useSnapshot snapshot metric e
      = fCompareExpect a.useSnapshot snapshot metric e' := by
  by_cases hsame : metric.name = e.name ∧ metric.mtype = e.mtype
  · rw [compare_same hsame.1 hsame.2,
      compare_same (hsame.1.trans hname) (hsame.2.trans htype)]
    rcases h with hrange | hnone
    · cases valueOf a snapshot metric with
      | none => rfl
      | some v => exact congrArg Except.ok (hrange.inRange_eq v)
    · rw [hnone metric hsame.1 hsame.2]
  · rw [compare_other hsame, compare_other (hname ▸ htype ▸ hsame)]

end Compare

-- ── One step, by name ────────────────────────────────────────────────────────

section Steps

variable {a : ExpectArgs} {snapshot : List StatsDMetric}
variable {fst fst' : String → Option StatsDExpect} {seen : Finset String}
variable {metric : StatsDMetric} {e : StatsDExpect}

theorem nameStep_some (he : fst metric.name = some e) :
    nameStep a snapshot fst seen metric
      = match fCompareExpect a.useSnapshot snapshot metric e with
        | .error _ => .error none
        | .ok true => .ok (insert metric.name seen)
        | .ok false =>
            if a.waitConverge = true ∧ metric.name ∉ seen then .ok seen
            else .error (refusal a) := by
  rw [nameStep]
  generalize fst metric.name = o at he ⊢
  subst he
  rfl

/-- **WHAT ONE METRIC DOES**: nothing, or its name is met, or it is refused, or it is
    missing from the snapshot. -/
theorem nameStep_cases (a : ExpectArgs) (snapshot : List StatsDMetric)
    (fst : String → Option StatsDExpect) (seen : Finset String) (metric : StatsDMetric) :
    nameStep a snapshot fst seen metric = .ok seen
      ∨ (nameStep a snapshot fst seen metric = .ok (insert metric.name seen)
        ∧ ∃ e, fst metric.name = some e
          ∧ fCompareExpect a.useSnapshot snapshot metric e = .ok true)
      ∨ nameStep a snapshot fst seen metric = .error (refusal a)
      ∨ (nameStep a snapshot fst seen metric = .error none
        ∧ ∃ e, fst metric.name = some e
          ∧ ∃ why, fCompareExpect a.useSnapshot snapshot metric e = .error why) := by
  cases he : fst metric.name with
  | none =>
      left
      rw [nameStep, he]
  | some e =>
      rw [nameStep_some he]
      cases hc : fCompareExpect a.useSnapshot snapshot metric e with
      | error why => exact .inr (.inr (.inr ⟨rfl, e, rfl, why, hc⟩))
      | ok met =>
          cases met with
          | true => exact .inr (.inl ⟨rfl, e, rfl, hc⟩)
          | false =>
              by_cases hw : a.waitConverge = true ∧ metric.name ∉ seen
              · exact .inl (if_pos hw)
              · exact .inr (.inr (.inl (if_neg hw)))

/-- Expectations of one name and one range lead to one step. -/
theorem nameStep_congr (h : ∀ metric : StatsDMetric,
    (fst metric.name = none ∧ fst' metric.name = none)
      ∨ ∃ e e', fst metric.name = some e ∧ fst' metric.name = some e'
        ∧ fCompareExpect a.useSnapshot snapshot metric e
          = fCompareExpect a.useSnapshot snapshot metric e') :
    nameStep a snapshot fst = nameStep a snapshot fst' := by
  funext seen metric
  rcases h metric with ⟨hnone, hnone'⟩ | ⟨e, e', he, he', hc⟩
  · rw [nameStep, nameStep, hnone, hnone']
  · rw [nameStep_some he, nameStep_some he', hc]

end Steps

-- ── The first of a name ──────────────────────────────────────────────────────

/-- In another order there is another first one, of the same list. -/
theorem first_perm {l l' : List StatsDExpect} (hp : l.Perm l') (n : String) :
    (first l n = none ∧ first l' n = none)
      ∨ ∃ e e', first l n = some e ∧ first l' n = some e' ∧ e ∈ l ∧ e' ∈ l
        ∧ e.name = n ∧ e'.name = n := by
  cases he : first l n with
  | none =>
      left
      refine ⟨rfl, holder_none.mpr ?_⟩
      exact fun e hmem => holder_none.mp he e (hp.mem_iff.mpr hmem)
  | some e =>
      right
      obtain ⟨hmem, hn⟩ := first_some he
      obtain ⟨e', he'⟩ := first_isSome (hp.mem_iff.mp hmem)
      rw [hn] at he'
      obtain ⟨hmem', hn'⟩ := first_some he'
      exact ⟨e, e', rfl, he', hmem, hp.mem_iff.mpr hmem', hn, hn'⟩

/-- A refusal is no success. -/
theorem refusal_ne (a : ExpectArgs) : refusal a ≠ some true := by
  rw [refusal]
  by_cases hab : a.abortOnFailure = true
  · rw [if_pos hab]
    exact (Option.some_ne_none true).symm
  · rw [if_neg hab]
    decide

/-- The first expectation of the name is met by one of the metrics. -/
def Met (a : ExpectArgs) (snapshot : List StatsDMetric) (l : List StatsDExpect)
    (metrics : List StatsDMetric) (n : String) : Prop :=
  ∃ metric ∈ metrics, ∃ e, first l n = some e
    ∧ fCompareExpect a.useSnapshot snapshot metric e = .ok true

/-- Every name that was met is one of the list, and was met by a metric. -/
def AllMet (a : ExpectArgs) (snapshot : List StatsDMetric) (l : List StatsDExpect)
    (metrics : List StatsDMetric) (seen : Finset String) : Prop :=
  ∀ n ∈ seen, n ∈ l.map StatsDExpect.name ∧ Met a snapshot l metrics n

theorem AllMet.step {a : ExpectArgs} {snapshot : List StatsDMetric} {l : List StatsDExpect}
    {metrics : List StatsDMetric} {seen seen' : Finset String} {metric : StatsDMetric}
    (h : AllMet a snapshot l metrics seen) (hmetric : metric ∈ metrics)
    (hs : nameStep a snapshot (first l) seen metric = .ok seen') :
    AllMet a snapshot l metrics seen' := by
  rcases nameStep_cases a snapshot (first l) seen metric with
    hs' | ⟨hs', e, he, hc⟩ | hs' | ⟨hs', -⟩ <;> rw [hs'] at hs <;> cases hs
  · exact h
  · intro n hn
    rcases Finset.mem_insert.mp hn with rfl | hn
    · obtain ⟨hmem, hname⟩ := first_some he
      exact ⟨List.mem_map.mpr ⟨e, hmem, hname⟩, metric, hmetric, e, he, hc⟩
    · exact h n hn

section Order

variable {a : ExpectArgs} {snapshot : List StatsDMetric} {l l' : List StatsDExpect}
variable {events : List Event}

/-- **WHERE EXPECTATIONS OF ONE NAME COMPARE ALIKE**, their order does not matter. -/
theorem verdict_perm (hp : l.Perm l')
    (h : ∀ e ∈ l, ∀ e' ∈ l, e.name = e'.name → ∀ metric : StatsDMetric,
      fCompareExpect a.useSnapshot snapshot metric e
        = fCompareExpect a.useSnapshot snapshot metric e') :
    verdict (fStatsdCheckerExpect a snapshot l' events)
      = verdict (fStatsdCheckerExpect a snapshot l events) := by
  have hstep : nameStep a snapshot (first l) = nameStep a snapshot (first l') := by
    apply nameStep_congr
    intro metric
    rcases first_perm hp metric.name with hnone | ⟨e, e', he, he', hmem, hmem', hn, hn'⟩
    · exact .inl hnone
    · exact .inr ⟨e, e', he, he', h e hmem e' hmem' (hn.trans hn'.symm) metric⟩
  rw [verdict_eq, verdict_eq, nameVerdict, nameVerdict, nameRun, nameRun, hstep, hp.length_eq]

/-- **WHAT IS ACCEPTED**: the names are met one by one, and none is expected twice. -/
theorem accepted_names (h : verdict (fStatsdCheckerExpect a snapshot l events) = some true) :
    (l.map StatsDExpect.name).Nodup
      ∧ ∀ n ∈ l.map StatsDExpect.name, Met a snapshot l (events.flatMap Event.metrics) n := by
  rw [verdict_eq, nameVerdict] at h
  cases hrun : nameRun a snapshot (first l) l.length (events.map Event.metrics) with
  | error v =>
      exfalso
      rw [hrun] at h
      have hne : v ≠ some true := by
        refine run_error (P := fun v => v ≠ some true) ?_ ?_ _ _ _ hrun
        · intro seen metric v hv
          rcases nameStep_cases a snapshot (first l) seen metric with
            hs | ⟨hs, -⟩ | hs | ⟨hs, -⟩ <;> rw [hs] at hv <;> cases hv
          · exact refusal_ne a
          · exact (Option.some_ne_none true).symm
        · exact fun _ => refusal_ne a
      exact hne h
  | ok seen =>
      obtain ⟨hmet, hdone⟩ := run_inv (I := AllMet a snapshot l (events.flatMap Event.metrics))
        _ ∅ seen (fun metric hmetric s s' hI hs => hI.step hmetric hs)
        (fun n hn => absurd hn (Finset.notMem_empty n)) hrun
      have hcard := of_decide_eq_true hdone
      have hsub : seen ⊆ (l.map StatsDExpect.name).toFinset :=
        fun n hn => List.mem_toFinset.mpr (hmet n hn).1
      have hle : (l.map StatsDExpect.name).toFinset.card ≤ seen.card := by
        rw [hcard, ← l.length_map StatsDExpect.name]
        exact List.toFinset_card_le _
      have heq := Finset.eq_of_subset_of_card_le hsub hle
      constructor
      · rw [← Multiset.coe_nodup, ← Multiset.toFinset_card_eq_card_iff_nodup]
        show (l.map StatsDExpect.name).toFinset.card = (l.map StatsDExpect.name).length
        rw [← heq, hcard, List.length_map]
      · intro n hn
        exact (hmet n (by rw [heq]; exact List.mem_toFinset.mpr hn)).2

/-- **ACCEPTED EXPECTATIONS** are met by metrics that were received. -/
theorem accepted_meets (h : verdict (fStatsdCheckerExpect a snapshot l events) = some true) :
    ∀ e ∈ l, ∃ metric ∈ events.flatMap Event.metrics, Meets a snapshot metric e := by
  intro e hmem
  obtain ⟨hnodup, hmet⟩ := accepted_names h
  obtain ⟨metric, hmetric, e', he', hc⟩ := hmet e.name (List.mem_map_of_mem hmem)
  obtain ⟨hmem', hname⟩ := first_some he'
  rw [List.inj_on_of_nodup_map hnodup hmem' hmem hname] at hc
  exact ⟨metric, hmetric, meets_of_compare hc⟩

/-- **WHETHER EXPECTATIONS ARE ACCEPTED** does not depend on their order. -/
theorem accepted_perm (hp : l.Perm l')
    (h : verdict (fStatsdCheckerExpect a snapshot l events) = some true) :
    verdict (fStatsdCheckerExpect a snapshot l' events) = some true := by
  rw [← h]
  apply verdict_perm hp
  intro e hmem e' hmem' hname metric
  rw [List.inj_on_of_nodup_map (accepted_names h).1 hmem hmem' hname]

/-- Where a failure shows in one way only. -/
theorem accepted_or_refused (events : List Event)
    (h : a.abortOnFailure = true ∨ ∀ e ∈ l, ∀ (metric : StatsDMetric) why,
      fCompareExpect a.useSnapshot snapshot metric e ≠ .error why) :
    verdict (fStatsdCheckerExpect a snapshot l events) = some true
      ∨ verdict (fStatsdCheckerExpect a snapshot l events) = refusal a := by
  rw [verdict_eq, nameVerdict]
  cases hrun : nameRun a snapshot (first l) l.length (events.map Event.metrics) with
  | ok seen => exact .inl rfl
  | error v =>
      right
      refine run_error (P := fun v => v = refusal a) ?_ (fun _ => rfl) _ _ _ hrun
      intro seen metric v hv
      rcases nameStep_cases a snapshot (first l) seen metric with
        hs | ⟨hs, -⟩ | hs | ⟨hs, e, he, why, hc⟩ <;> rw [hs] at hv <;> cases hv
      · rfl
      · rcases h with hab | hno
        · rw [refusal, if_pos hab]
        · exact absurd hc (hno e (first_some he).1 metric why)

/-- Then the order does not matter. -/
theorem verdict_perm_of_refused (hp : l.Perm l')
    (h : a.abortOnFailure = true ∨ ∀ e ∈ l, ∀ (metric : StatsDMetric) why,
      fCompareExpect a.useSnapshot snapshot metric e ≠ .error why) :
    verdict (fStatsdCheckerExpect a snapshot l' events)
      = verdict (fStatsdCheckerExpect a snapshot l events) := by
  have h' : a.abortOnFailure = true ∨ ∀ e ∈ l', ∀ (metric : StatsDMetric) why,
      fCompareExpect a.useSnapshot snapshot metric e ≠ .error why :=
    h.imp id fun hno e hmem => hno e (hp.mem_iff.mpr hmem)
  rcases accepted_or_refused events h with hl | hl
  · rw [hl, accepted_perm hp hl]
  · rcases accepted_or_refused events h' with hl' | hl'
    · rw [hl', accepted_perm hp.symm hl']
    · rw [hl, hl']

/-- **THE ORDER DOES NOT MATTER** where it cannot. -/
theorem OrderFree.verdict_perm (h : OrderFree a l) (hp : l.Perm l') :
    verdict (fStatsdCheckerExpect a snapshot l' events)
      = verdict (fStatsdCheckerExpect a snapshot l events) := by
  rcases h with hab | huse | hname
  · exact verdict_perm_of_refused hp (.inl hab)
  · refine verdict_perm_of_refused hp (.inr fun e _ metric why hc => ?_)
    have htrue := (missing_of_compare hc).2.1
    rw [huse] at htrue
    cases htrue
  · by_cases hsame : ∀ e ∈ l, ∀ e' ∈ l, e.name = e'.name → SameRange e e'
    · refine OsmoStatsd.verdict_perm hp fun e hmem e' hmem' hn metric => ?_
      exact compare_alike hn (hname e hmem e' hmem' hn).1 (.inl (hsame e hmem e' hmem' hn))
    · -- all expectations have one name and one type
      push Not at hsame
      obtain ⟨d, hd, d', hd', hdn, hrange⟩ := hsame
      have hall : ∀ e ∈ l, e.name = d.name :=
        (hname d hd d' hd' hdn).2.resolve_left hrange
      have htype : ∀ e ∈ l, e.mtype = d.mtype :=
        fun e hmem => (hname e hmem d hd (hall e hmem)).1
      by_cases hmissing : ∀ metric : StatsDMetric, metric.name = d.name →
          metric.mtype = d.mtype → valueOf a snapshot metric = none
      · refine OsmoStatsd.verdict_perm hp fun e hmem e' hmem' hn metric => ?_
        refine compare_alike hn ((htype e hmem).trans (htype e' hmem').symm) (.inr ?_)
        intro metric hmn hmt
        exact hmissing metric (hmn.trans (hall e hmem)) (hmt.trans (htype e hmem))
      · refine verdict_perm_of_refused hp (.inr fun e hmem metric why hc => hmissing ?_)
        obtain ⟨⟨hmn, hmt⟩, huse, hnone⟩ := missing_of_compare hc
        intro metric' hmn' hmt'
        have hcongr := getVal_congr (hmn'.trans ((hall e hmem).symm.trans hmn.symm))
          (hmt'.trans ((htype e hmem).symm.trans hmt.symm)) snapshot
        rw [valueOf, if_pos huse, hcongr, hnone]
        rfl

end Order

-- ── Where the order decides ──────────────────────────────────────────────────

section Decides

variable {a : ExpectArgs} {snapshot : List StatsDMetric} {l : List StatsDExpect}

/-- **THE ORDER DECIDES**: the test case is stopped in one order, and in another one
    the caller is told false. -/
def OrderDecides (a : ExpectArgs) (l : List StatsDExpect) : Prop :=
  ∃ snapshot events l₁ l₂, l.Perm l₁ ∧ l.Perm l₂
    ∧ verdict (fStatsdCheckerExpect a snapshot l₁ events) = none
    ∧ verdict (fStatsdCheckerExpect a snapshot l₂ events) = some false

theorem nameVerdict_error {fst : String → Option StatsDExpect} {total : Nat}
    {bs : List (List StatsDMetric)} {v : Option Bool}
    (h : nameRun a snapshot fst total bs = .error v) : nameVerdict a snapshot fst total bs = v := by
  rw [nameVerdict, h]

theorem not_done_empty {e : StatsDExpect} (hmem : e ∈ l) :
    decide ((∅ : Finset String).card = l.length) = false := by
  rw [Finset.card_empty]
  exact decide_eq_false (List.length_pos_of_mem hmem).ne

/-- One report that is not gone through. -/
theorem verdict_left {ms : List StatsDMetric} {v : Option Bool} {e : StatsDExpect} (hmem : e ∈ l)
    (h : batch (nameStep a snapshot (first l)) ∅ ms = .error v) :
    verdict (fStatsdCheckerExpect a snapshot l [.receive ms]) = v := by
  have hrun : nameRun a snapshot (first l) l.length [ms] = .error v :=
    run_single_error (not_done_empty hmem) h
  rw [verdict_eq]
  exact nameVerdict_error hrun

/-- One report that meets nothing. -/
theorem verdict_late {ms : List StatsDMetric} {e : StatsDExpect} (hmem : e ∈ l)
    (h : batch (nameStep a snapshot (first l)) ∅ ms = .ok ∅) :
    verdict (fStatsdCheckerExpect a snapshot l [.receive ms]) = refusal a := by
  have hrun : nameRun a snapshot (first l) l.length [ms] = .error (refusal a) :=
    run_single_late (not_done_empty hmem) h (not_done_empty hmem)
  rw [verdict_eq]
  exact nameVerdict_error hrun

/-- A metric that the snapshot does not have. -/
theorem nameStep_missing {fst : String → Option StatsDExpect} {seen : Finset String}
    {metric : StatsDMetric} {e : StatsDExpect} (huse : a.useSnapshot = true)
    (he : fst metric.name = some e) (hname : metric.name = e.name)
    (htype : metric.mtype = e.mtype) (hnone : getValFromSnapshot metric snapshot = none) :
    nameStep a snapshot fst seen metric = .error none := by
  rw [nameStep_some he, compare_same hname htype, valueOf, if_pos huse, hnone]
  rfl

/-- **TWO TYPES**: the metric that one expectation is about, and the snapshot does
    not have, is a mere mismatch for the other one. -/
theorem types_decide (huse : a.useSnapshot = true) (hab : a.abortOnFailure = false)
    {e e' : StatsDExpect} (hmem : e ∈ l) (hmem' : e' ∈ l) (hname : e.name = e'.name)
    (htype : e.mtype ≠ e'.mtype) :
    OrderDecides a l := by
  have hstop : verdict (fStatsdCheckerExpect a [] (e :: l.erase e)
      [.receive [⟨e.name, 0, e.mtype, none⟩]]) = none := by
    refine verdict_left List.mem_cons_self ?_
    have he : first (e :: l.erase e) e.name = some e := by
      rw [first_cons, if_pos rfl]
    exact batch_cons_error (nameStep_missing huse he rfl rfl rfl)
  have hrefused : verdict (fStatsdCheckerExpect a [] (e' :: l.erase e')
      [.receive [⟨e.name, 0, e.mtype, none⟩]]) = some false := by
    have he' : first (e' :: l.erase e') e.name = some e' := by
      rw [first_cons, if_pos hname.symm]
    have hrefusal : refusal a = some false := if_neg (ne_true_of_eq_false hab)
    have hstep : nameStep a [] (first (e' :: l.erase e')) ∅ ⟨e.name, 0, e.mtype, none⟩
        = if a.waitConverge = true ∧ e.name ∉ (∅ : Finset String) then .ok ∅
          else .error (refusal a) := by
      rw [nameStep_some he', compare_other (fun h => htype h.2)]
    by_cases hw : a.waitConverge = true ∧ e.name ∉ (∅ : Finset String)
    · rw [if_pos hw] at hstep
      rw [← hrefusal]
      exact verdict_late List.mem_cons_self (batch_cons_ok hstep)
    · rw [if_neg hw, hrefusal] at hstep
      exact verdict_left List.mem_cons_self (batch_cons_error hstep)
  exact ⟨_, _, _, _, List.perm_cons_erase hmem, List.perm_cons_erase hmem', hstop, hrefused⟩

/-- A value of the metric that the two expectations are about, with a snapshot where
    it was 0. -/
def metricOf (e : StatsDExpect) (v : Int) : StatsDMetric := ⟨e.name, v, e.mtype, none⟩

section Values

variable {fst : String → Option StatsDExpect} {seen : Finset String} {e d : StatsDExpect} {v : Int}

theorem nameStep_value (huse : a.useSnapshot = true) (hname : d.name = e.name)
    (htype : d.mtype = e.mtype) (he : fst e.name = some d) :
    nameStep a [metricOf e 0] fst seen (metricOf e v)
      = if d.inRange v then .ok (insert e.name seen)
        else if a.waitConverge = true ∧ e.name ∉ seen then .ok seen
        else .error (refusal a) := by
  have hval : valueOf a [metricOf e 0] (metricOf e v) = some v := by
    have hget : getValFromSnapshot (metricOf e v) [metricOf e 0] = some 0 :=
      if_neg (fun h => h.elim (· rfl) (· rfl))
    rw [valueOf, if_pos huse, hget]
    exact congrArg some (Int.sub_zero v)
  have hc : fCompareExpect a.useSnapshot [metricOf e 0] (metricOf e v) d = .ok (d.inRange v) := by
    rw [compare_same hname.symm htype.symm, hval]
  rw [nameStep_some he, hc]
  cases d.inRange v <;> rfl

/-- A metric in range is met. -/
theorem nameStep_met (huse : a.useSnapshot = true) (hname : d.name = e.name)
    (htype : d.mtype = e.mtype) (he : fst e.name = some d) (hv : d.inRange v = true) :
    nameStep a [metricOf e 0] fst seen (metricOf e v) = .ok (insert e.name seen) := by
  rw [nameStep_value huse hname htype he, if_pos hv]

theorem nameStep_ignored (huse : a.useSnapshot = true) (hname : d.name = e.name)
    (htype : d.mtype = e.mtype) (he : fst e.name = some d) (hv : d.inRange v = false)
    (hwait : a.waitConverge = true) (hn : e.name ∉ seen) :
    nameStep a [metricOf e 0] fst seen (metricOf e v) = .ok seen := by
  rw [nameStep_value huse hname htype he, if_neg (ne_true_of_eq_false hv), if_pos ⟨hwait, hn⟩]

/-- A metric out of range is refused. -/
theorem nameStep_refused (huse : a.useSnapshot = true) (hname : d.name = e.name)
    (htype : d.mtype = e.mtype) (he : fst e.name = some d) (hv : d.inRange v = false)
    (hw : ¬ (a.waitConverge = true ∧ e.name ∉ seen)) :
    nameStep a [metricOf e 0] fst seen (metricOf e v) = .error (refusal a) := by
  rw [nameStep_value huse hname htype he, if_neg (ne_true_of_eq_false hv), if_neg hw]

end Values

/-- The values are gone through, with `d` as the first expectation of its name. -/
def GoesOn (a : ExpectArgs) (e d : StatsDExpect) (vs : List Int) : Prop :=
  ∀ fst : String → Option StatsDExpect, fst e.name = some d →
    ∃ seen, batch (nameStep a [metricOf e 0] fst) ∅ (vs.map (metricOf e)) = .ok seen

/-- The values are refused. -/
def Refuses (a : ExpectArgs) (e d : StatsDExpect) (vs : List Int) : Prop :=
  ∀ fst : String → Option StatsDExpect, fst e.name = some d →
    batch (nameStep a [metricOf e 0] fst) ∅ (vs.map (metricOf e)) = .error (refusal a)

/-- **TWO RANGES**: there are values that one expectation lets through and the other
    one refuses. -/
theorem exists_separating (huse : a.useSnapshot = true) {e b c : StatsDExpect}
    (hbn : b.name = e.name) (hbt : b.mtype = e.mtype) (hcn : c.name = e.name)
    (hct : c.mtype = e.mtype) {v : Int} (hb : b.inRange v = true) (hc : c.inRange v = false) :
    ∃ vs, (GoesOn a e b vs ∧ Refuses a e c vs) ∨ (GoesOn a e c vs ∧ Refuses a e b vs) := by
  have hempty : e.name ∉ (∅ : Finset String) := Finset.notMem_empty _
  have hmet : ¬ (a.waitConverge = true ∧ e.name ∉ insert e.name (∅ : Finset String)) :=
    fun h => h.2 (Finset.mem_insert_self _ _)
  by_cases hwait : a.waitConverge = true
  · by_cases hcne : c.min ≤ c.max
    · -- `c` is met at its bound first, and then refuses what it would have ignored
      have hcmin : c.inRange c.min = true := inRange_iff.mpr ⟨le_refl _, hcne⟩
      refine ⟨[c.min, v], .inl ⟨fun fst hfst => ?_, fun fst hfst => ?_⟩⟩
      · cases hbmin : b.inRange c.min with
        | true =>
            exact ⟨_, (batch_cons_ok (nameStep_met huse hbn hbt hfst hbmin)).trans
              (batch_cons_ok (nameStep_met huse hbn hbt hfst hb))⟩
        | false =>
            exact ⟨_, (batch_cons_ok (nameStep_ignored huse hbn hbt hfst hbmin hwait hempty)).trans
              (batch_cons_ok (nameStep_met huse hbn hbt hfst hb))⟩
      · exact (batch_cons_ok (nameStep_met huse hcn hct hfst hcmin)).trans
          (batch_cons_error (nameStep_refused huse hcn hct hfst hc hmet))
    · -- `c` is never met, so that it refuses nothing
      have hbmax : b.inRange (b.max + 1) = false := by
        rw [Bool.eq_false_iff, ne_eq, inRange_iff]
        omega
      have hcmax : c.inRange (b.max + 1) = false := by
        rw [Bool.eq_false_iff, ne_eq, inRange_iff]
        omega
      refine ⟨[v, b.max + 1], .inr ⟨fun fst hfst => ⟨∅, ?_⟩, fun fst hfst => ?_⟩⟩
      · exact (batch_cons_ok (nameStep_ignored huse hcn hct hfst hc hwait hempty)).trans
          (batch_cons_ok (nameStep_ignored huse hcn hct hfst hcmax hwait hempty))
      · exact (batch_cons_ok (nameStep_met huse hbn hbt hfst hb)).trans
          (batch_cons_error (nameStep_refused huse hbn hbt hfst hbmax hmet))
  · refine ⟨[v], .inl ⟨fun fst hfst => ?_, fun fst hfst => ?_⟩⟩
    · exact ⟨_, batch_cons_ok (nameStep_met huse hbn hbt hfst hb)⟩
    · exact batch_cons_error (nameStep_refused huse hcn hct hfst hc fun h => hwait h.1)

/-- Where one of two expectations of a name refuses what the other one lets through,
    a metric that is missing from the snapshot comes too late for it. -/
theorem ranges_decide (huse : a.useSnapshot = true) (hab : a.abortOnFailure = false)
    {e b c d : StatsDExpect} (hb : b ∈ l) (hc : c ∈ l) (hd : d ∈ l) (hbn : b.name = e.name)
    (hcn : c.name = e.name) (hdn : d.name ≠ e.name) {vs : List Int} (hgo : GoesOn a e b vs)
    (hrefuse : Refuses a e c vs) : OrderDecides a l := by
  have hdb : d ∈ l.erase b := by
    refine (List.mem_erase_of_ne ?_).mpr hd
    rintro rfl
    exact hdn hbn
  have hstop : verdict (fStatsdCheckerExpect a [metricOf e 0] (b :: d :: (l.erase b).erase d)
      [.receive (vs.map (metricOf e) ++ [metricOf d 0])]) = none := by
    have hfirst : first (b :: d :: (l.erase b).erase d) e.name = some b := by
      rw [first_cons, if_pos hbn]
    have hfirstd : first (b :: d :: (l.erase b).erase d) d.name = some d := by
      rw [first_cons, if_neg (fun h => hdn (h.symm.trans hbn)), first_cons, if_pos rfl]
    obtain ⟨seen, hseen⟩ := hgo _ hfirst
    refine verdict_left List.mem_cons_self ?_
    rw [batch_append_ok hseen]
    exact batch_cons_error (nameStep_missing huse hfirstd rfl rfl (if_pos (.inl hdn)))
  have hrefused : verdict (fStatsdCheckerExpect a [metricOf e 0] (c :: l.erase c)
      [.receive (vs.map (metricOf e) ++ [metricOf d 0])]) = some false := by
    have hfirst : first (c :: l.erase c) e.name = some c := by
      rw [first_cons, if_pos hcn]
    have hrefusal : refusal a = some false := if_neg (ne_true_of_eq_false hab)
    rw [← hrefusal]
    exact verdict_left List.mem_cons_self (batch_append_error (hrefuse _ hfirst))
  exact ⟨_, _, _, _, (List.perm_cons_erase hb).trans ((List.perm_cons_erase hdb).cons b),
    List.perm_cons_erase hc, hstop, hrefused⟩

/-- **WHERE THE ORDER CAN MATTER**, it does. -/
theorem orderDecides_of_not_free (h : ¬ OrderFree a l) : OrderDecides a l := by
  rw [OrderFree, not_or, not_or] at h
  obtain ⟨hab, huse, hall⟩ := h
  have hab := Bool.not_eq_true _ ▸ hab
  have huse := Bool.not_eq_false _ ▸ huse
  push Not at hall
  obtain ⟨e, he, e', he', hname, hdiffer⟩ := hall
  by_cases htype : e.mtype = e'.mtype
  · obtain ⟨hrange, d, hd, hdn⟩ := hdiffer htype
    obtain ⟨v, ⟨hin, hout⟩ | ⟨hin, hout⟩⟩ := exists_inRange_ne hrange
    · obtain ⟨vs, ⟨hgo, hrefuse⟩ | ⟨hgo, hrefuse⟩⟩ := exists_separating (e := e) huse rfl rfl
        hname.symm htype.symm hin hout
      · exact ranges_decide huse hab he he' hd rfl hname.symm hdn hgo hrefuse
      · exact ranges_decide huse hab he' he hd hname.symm rfl hdn hgo hrefuse
    · obtain ⟨vs, ⟨hgo, hrefuse⟩ | ⟨hgo, hrefuse⟩⟩ := exists_separating (e := e) huse hname.symm
        htype.symm rfl rfl hin hout
      · exact ranges_decide huse hab he' he hd hname.symm rfl hdn hgo hrefuse
      · exact ranges_decide huse hab he he' hd rfl hname.symm hdn hgo hrefuse
  · exact types_decide huse hab he he' hname htype

end Decides

-- ── The verdict ──────────────────────────────────────────────────────────────

/-- **THE VERDICT OF THE CHECKER**: what is accepted is always met, and the verdict is
    the same for every order of the expectations, whatever the snapshot and the
    reports are, exactly where the order cannot matter. -/
theorem statsd_verdict_iff (a : ExpectArgs) (expects : List StatsDExpect) :
    (∀ snapshot events, VerdictRight a snapshot expects events) ↔ OrderFree a expects := by
  constructor
  · intro h
    by_contra hfree
    obtain ⟨snapshot, events, l₁, l₂, hp₁, hp₂, hstop, hrefused⟩ := orderDecides_of_not_free hfree
    have h₁ := (h snapshot events).order l₁ hp₁
    have h₂ := (h snapshot events).order l₂ hp₂
    rw [hstop] at h₁
    rw [hrefused, ← h₁] at h₂
    cases h₂
  · intro hfree snapshot events
    exact ⟨accepted_meets, fun expects' hp => hfree.verdict_perm hp⟩

/-- A counter and a gauge of one name are expected, and the snapshot has the gauge
    only: the counter stops the test case if it is expected first. -/
theorem statsd_order_decides :
    ¬ VerdictRight { abortOnFailure := false, useSnapshot := true } [⟨"x", 0, .g, none⟩]
      [⟨"x", .c, 0, 9⟩, ⟨"x", .g, 0, 9⟩] [.receive [⟨"x", 5, .c, none⟩]] := by
  intro h
  have horder := h.order [⟨"x", .g, 0, 9⟩, ⟨"x", .c, 0, 9⟩] (List.Perm.swap _ _ [])
  have hne : verdict (fStatsdCheckerExpect { abortOnFailure := false, useSnapshot := true }
      [⟨"x", 0, .g, none⟩] [⟨"x", .g, 0, 9⟩, ⟨"x", .c, 0, 9⟩] [.receive [⟨"x", 5, .c, none⟩]])
      ≠ verdict (fStatsdCheckerExpect { abortOnFailure := false, useSnapshot := true }
      [⟨"x", 0, .g, none⟩] [⟨"x", .c, 0, 9⟩, ⟨"x", .g, 0, 9⟩]
      [.receive [⟨"x", 5, .c, none⟩]]) := by decide
  exact hne horder

end OsmoStatsd
