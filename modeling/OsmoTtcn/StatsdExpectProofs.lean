import OsmoTtcn.BatchRunProofs
import OsmoTtcn.KeyedListProofs
import Mathlib.Data.Finset.Card
import Mathlib.Data.Finset.Dedup

/-! # The expectations of the StatsD checker

    `f_statsd_checker_expect` receives reports until every expectation has been met
    by a metric.  A metric is held against the first expectation of its name, and
    against no other: a name that is expected twice is never met twice, and which
    of the two decides is a matter of their order.

    Expectations are a `set of`.  Whether they are accepted does not depend on the
    order (`accepted_perm`), but whether the caller is told false or the test case
    is stopped may: `statsd_verdict_iff` says for which lists it cannot. -/

namespace OsmoStatsd

open KeyedList BatchRun

-- ── Data ─────────────────────────────────────────────────────────────────────

/-- `MetricType`, the pattern `(g|c|ms|h|m)` -/
inductive MetricType where
  | g
  | c
  | ms
  | h
  | m
  deriving DecidableEq, Repr

/-- `StatsDMetric` -/
structure StatsDMetric where
  name : String
  val : Int
  mtype : MetricType
  srate : Option String
  deriving DecidableEq, Repr

/-- `StatsDExpect` -/
structure StatsDExpect where
  name : String
  mtype : MetricType
  min : Int
  max : Int
  deriving DecidableEq, Repr

/-- `StatsDExpectResult`, of which only `e_NotFound` has no index. -/
inductive StatsDExpectResult where
  | matched (idx : Nat)
  | mismatched (idx : Nat)
  | notFound
  deriving DecidableEq, Repr

/-- The arguments of `f_statsd_checker_expect` beside the expectations and the
    snapshot, with their defaults. -/
structure ExpectArgs where
  waitConverge : Bool := false
  abortOnFailure : Bool := true
  useSnapshot : Bool := false
  deriving DecidableEq, Repr

/-- Why `f_shutdown` is called, with the verdict fail and the values of its text. -/
inductive Shutdown where
  /-- `Metric … not found in snapshot …` -/
  | notInSnapshot (name : String) (snapshot : List StatsDMetric)
  /-- `Metric failed expectation … vs …` -/
  | failedExpectation (metric : StatsDMetric) (expect : Option StatsDExpect)
  /-- `Timeout waiting for expect=… matched=…` -/
  | timeout (expects : List StatsDExpect) (matched : List Bool)
  deriving DecidableEq, Repr

-- ── One metric ───────────────────────────────────────────────────────────────

/-- `get_val_from_snapshot` -/
def getValFromSnapshot (metric : StatsDMetric) : List StatsDMetric → Option Int
  | [] => none
  | s :: snapshot =>
      if metric.name ≠ s.name ∨ metric.mtype ≠ s.mtype then getValFromSnapshot metric snapshot
      else some s.val

/-- `not ((val < expect.min) or (val > expect.max))` -/
def StatsDExpect.inRange (expect : StatsDExpect) (val : Int) : Bool :=
  !(val < expect.min || expect.max < val)

/-- False if the expectation doesn't match the metric, otherwise true. -/
def fCompareExpect (useSnapshot : Bool) (snapshot : List StatsDMetric) (metric : StatsDMetric)
    (expect : StatsDExpect) : Except Shutdown Bool :=
  if metric.name ≠ expect.name ∨ metric.mtype ≠ expect.mtype then .ok false
  else if useSnapshot then
    match getValFromSnapshot metric snapshot with
    | none => .error (.notInSnapshot metric.name snapshot)
    | some prevVal => .ok (expect.inRange (metric.val - prevVal))
  else .ok (expect.inRange metric.val)

/-- The search from the index `i` on, which the first expectation of the name ends. -/
def fStatsdCheckerMetricExpects (useSnapshot : Bool) (snapshot : List StatsDMetric)
    (metric : StatsDMetric) : (i : Nat) → List StatsDExpect → Except Shutdown StatsDExpectResult
  | _, [] => .ok .notFound
  | i, exp :: expects =>
      if exp.name ≠ metric.name then
        fStatsdCheckerMetricExpects useSnapshot snapshot metric (i + 1) expects
      else (fCompareExpect useSnapshot snapshot metric exp).map fun met =>
        if met then .matched i else .mismatched i

-- ── The reports ──────────────────────────────────────────────────────────────

/-- `matched` and `matched_remain` -/
structure Progress where
  matched : List Bool
  matchedRemain : Nat
  deriving DecidableEq, Repr

/-- How the loop is left before every expectation is met. -/
inductive Leave where
  /-- `return false` -/
  | returnFalse
  | shutdown (why : Shutdown)
  deriving DecidableEq, Repr

/-- What ends a round of the `alt` statement.  There is no more after the last one
    but the timeout of `T_statsd`. -/
inductive Event where
  | receive (msg : List StatsDMetric)
  /-- `T_poll_converge` asks for another report. -/
  | pollConverge
  deriving DecidableEq, Repr

section Expect

variable (a : ExpectArgs) (snapshot : List StatsDMetric) (expects : List StatsDExpect)

/-- The end of a check that has failed. -/
def giveUp (why : Shutdown) : Leave :=
  if a.abortOnFailure then .shutdown why else .returnFalse

/-- One metric of a report. -/
def onMetric (p : Progress) (metric : StatsDMetric) : Except Leave Progress :=
  match fStatsdCheckerMetricExpects a.useSnapshot snapshot metric 0 expects with
  | .error why => .error (.shutdown why)
  | .ok .notFound => .ok p
  | .ok (.mismatched idx) =>
      if a.waitConverge && !p.matched.getD idx false then .ok p
      else .error (giveUp a (.failedExpectation metric expects[idx]?))
  | .ok (.matched idx) =>
      if p.matched.getD idx false then .ok p
      else .ok ⟨p.matched.set idx true, p.matchedRemain - 1⟩

/-- The metrics of a report. -/
def onMessage : Progress → List StatsDMetric → Except Leave Progress
  | p, [] => .ok p
  | p, metric :: msg => (onMetric a snapshot expects p metric).bind fun p => onMessage p msg

/-- `while (matched_remain > 0)` -/
def expectLoop : Progress → List Event → Except Leave Progress
  | p, [] =>
      if p.matchedRemain = 0 then .ok p else .error (giveUp a (.timeout expects p.matched))
  | p, .receive msg :: events =>
      if p.matchedRemain = 0 then .ok p
      else (onMessage a snapshot expects p msg).bind fun p => expectLoop p events
  | p, .pollConverge :: events =>
      if p.matchedRemain = 0 then .ok p else expectLoop p events

/-- `f_statsd_checker_expect`, over what is received. -/
def fStatsdCheckerExpect (events : List Event) : Except Shutdown Bool :=
  match expectLoop a snapshot expects ⟨expects.map fun _ => false, expects.length⟩ events with
  | .ok _ => .ok true
  | .error .returnFalse => .ok false
  | .error (.shutdown why) => .error why

end Expect

-- ── What is expected of the verdict ──────────────────────────────────────────

/-- What becomes of the test case: the caller goes on with the boolean, or it is
    stopped with the verdict fail. -/
def verdict (r : Except Shutdown Bool) : Option Bool := r.toOption

/-- The metrics of an event. -/
def Event.metrics : Event → List StatsDMetric
  | .receive msg => msg
  | .pollConverge => []

/-- The value that is held against the range. -/
def valueOf (a : ExpectArgs) (snapshot : List StatsDMetric) (metric : StatsDMetric) :
    Option Int :=
  if a.useSnapshot then (getValFromSnapshot metric snapshot).map fun prev => metric.val - prev
  else some metric.val

/-- The metric meets the expectation. -/
structure Meets (a : ExpectArgs) (snapshot : List StatsDMetric) (metric : StatsDMetric)
    (e : StatsDExpect) : Prop where
  name : metric.name = e.name
  mtype : metric.mtype = e.mtype
  value : ∃ v ∈ valueOf a snapshot metric, e.min ≤ v ∧ v ≤ e.max

/-- **THE VERDICT IS RIGHT**: expectations that are accepted are met by metrics that
    were received, and their order does not matter. -/
structure VerdictRight (a : ExpectArgs) (snapshot : List StatsDMetric)
    (expects : List StatsDExpect) (events : List Event) : Prop where
  sound : verdict (fStatsdCheckerExpect a snapshot expects events) = some true →
    ∀ e ∈ expects, ∃ metric ∈ events.flatMap Event.metrics, Meets a snapshot metric e
  order : ∀ expects', expects.Perm expects' →
    verdict (fStatsdCheckerExpect a snapshot expects' events)
      = verdict (fStatsdCheckerExpect a snapshot expects events)

/-- The same values are in range. -/
def SameRange (e e' : StatsDExpect) : Prop :=
  (e.min = e'.min ∧ e.max = e'.max) ∨ (e.max < e.min ∧ e'.max < e'.min)

instance (e e' : StatsDExpect) : Decidable (SameRange e e') :=
  inferInstanceAs (Decidable (_ ∨ _))

/-- **WHERE THE ORDER CANNOT MATTER**: a failure always stops the test case, or no
    metric can be missing from the snapshot, or expectations of one name have one
    type and, if there is another name as well, one range. -/
def OrderFree (a : ExpectArgs) (expects : List StatsDExpect) : Prop :=
  a.abortOnFailure = true ∨ a.useSnapshot = false ∨
    ∀ e ∈ expects, ∀ e' ∈ expects, e.name = e'.name →
      e.mtype = e'.mtype ∧ (SameRange e e' ∨ ∀ d ∈ expects, d.name = e.name)

instance (a : ExpectArgs) (expects : List StatsDExpect) : Decidable (OrderFree a expects) :=
  inferInstanceAs (Decidable (_ ∨ _ ∨ _))

-- ── By name ──────────────────────────────────────────────────────────────────

/-- The first expectation of a name. -/
def first (expects : List StatsDExpect) : String → Option StatsDExpect :=
  holder (fun e => some e.name) expects

/-- Where the first expectation of a name stands. -/
def place (expects : List StatsDExpect) (n : String) : Nat :=
  expects.findIdx fun e => decide (e.name = n)

/-- The first expectation of a name is found first. -/
theorem first_cons (e : StatsDExpect) (expects : List StatsDExpect) (n : String) :
    first (e :: expects) n = if e.name = n then some e else first expects n := by
  rw [first, holder, List.find?_cons]
  by_cases hn : e.name = n
  · rw [if_pos hn, decide_eq_true (congrArg some hn)]
  · rw [if_neg hn, decide_eq_false (fun h => hn (Option.some.inj h))]
    rfl

theorem place_cons (e : StatsDExpect) (expects : List StatsDExpect) (n : String) :
    place (e :: expects) n = if e.name = n then 0 else place expects n + 1 := by
  rw [place, List.findIdx_cons]
  by_cases hn : e.name = n
  · rw [if_pos hn, decide_eq_true hn]
    rfl
  · rw [if_neg hn, decide_eq_false hn]
    rfl

/-- What is found is an expectation of that name. -/
theorem first_some {expects : List StatsDExpect} {n : String} {e : StatsDExpect}
    (h : first expects n = some e) : e ∈ expects ∧ e.name = n := by
  obtain ⟨hmem, hn⟩ := holder_some h
  exact ⟨hmem, Option.some.inj hn⟩

theorem first_isSome {expects : List StatsDExpect} {e : StatsDExpect} (h : e ∈ expects) :
    ∃ e', first expects e.name = some e' := by
  cases hf : first expects e.name with
  | some e' => exact ⟨e', rfl⟩
  | none => exact absurd rfl (holder_none.mp hf e h)

/-- The first expectation of a name stands at its place. -/
theorem getElem?_place : ∀ {expects : List StatsDExpect} {n : String} {e : StatsDExpect},
    first expects n = some e → expects[place expects n]? = some e := by
  intro expects n e
  induction expects with
  | nil =>
      intro h
      cases h
  | cons d expects ih =>
      intro h
      rw [first_cons] at h
      rw [place_cons]
      by_cases hn : d.name = n
      · rw [if_pos hn] at h
        rw [if_pos hn]
        exact h
      · rw [if_neg hn] at h
        rw [if_neg hn]
        exact ih h

/-- **ONE SEARCH** ends at the first expectation of the name. -/
theorem metricExpects_eq (useSnapshot : Bool) (snapshot : List StatsDMetric)
    (metric : StatsDMetric) : ∀ (expects : List StatsDExpect) (i : Nat),
    fStatsdCheckerMetricExpects useSnapshot snapshot metric i expects
      = match first expects metric.name with
        | none => .ok .notFound
        | some e => (fCompareExpect useSnapshot snapshot metric e).map fun met =>
            if met then .matched (i + place expects metric.name)
            else .mismatched (i + place expects metric.name) := by
  intro expects
  induction expects with
  | nil => exact fun i => rfl
  | cons e expects ih =>
      intro i
      rw [fStatsdCheckerMetricExpects, first_cons, place_cons]
      by_cases hn : e.name = metric.name
      · rw [if_neg (not_not_intro hn), if_pos hn, if_pos hn]
        rfl
      · rw [if_pos hn, if_neg hn, if_neg hn, ih, Nat.add_right_comm, Nat.add_assoc]

section Names

variable (a : ExpectArgs) (snapshot : List StatsDMetric)

/-- What a failure comes to. -/
def refusal : Option Bool := if a.abortOnFailure then none else some false

/-- One metric, with the names met so far. -/
def nameStep (fst : String → Option StatsDExpect) (seen : Finset String)
    (metric : StatsDMetric) : Except (Option Bool) (Finset String) :=
  match fst metric.name with
  | none => .ok seen
  | some e =>
      match fCompareExpect a.useSnapshot snapshot metric e with
      | .error _ => .error none
      | .ok true => .ok (insert metric.name seen)
      | .ok false =>
          if a.waitConverge = true ∧ metric.name ∉ seen then .ok seen else .error (refusal a)

/-- A run of the look-up by name. -/
def nameRun (fst : String → Option StatsDExpect) (total : Nat) :
    List (List StatsDMetric) → Except (Option Bool) (Finset String) :=
  run (nameStep a snapshot fst) (fun seen => decide (seen.card = total)) (fun _ => refusal a) ∅

/-- **THE VERDICT BY NAMES**: as many names have to be met as there are expectations. -/
def nameVerdict (fst : String → Option StatsDExpect) (total : Nat)
    (bs : List (List StatsDMetric)) : Option Bool :=
  match nameRun a snapshot fst total bs with
  | .ok _ => some true
  | .error v => v

end Names

-- ── The loop, by name ────────────────────────────────────────────────────────

/-- What the test sees of an early end. -/
def Leave.verdict : Leave → Option Bool
  | .returnFalse => some false
  | .shutdown _ => none

/-- Giving up is the refusal of the check. -/
theorem giveUp_verdict (a : ExpectArgs) (why : Shutdown) :
    (giveUp a why).verdict = refusal a := by
  rw [giveUp, refusal]
  by_cases hab : a.abortOnFailure = true
  · rw [if_pos hab, if_pos hab]
    rfl
  · rw [if_neg hab, if_neg hab]
    rfl

/-- The flags are those of the names met, at their places. -/
structure Reflects (expects : List StatsDExpect) (p : Progress) (seen : Finset String) :
    Prop where
  length : p.matched.length = expects.length
  flag : ∀ n e, first expects n = some e →
    p.matched[place expects n]? = some (decide (n ∈ seen))
  named : ∀ n ∈ seen, n ∈ expects.map StatsDExpect.name
  remain : p.matchedRemain + seen.card = expects.length

theorem Reflects.getD {expects : List StatsDExpect} {p : Progress} {seen : Finset String}
    (h : Reflects expects p seen) {n : String} {e : StatsDExpect}
    (he : first expects n = some e) :
    p.matched.getD (place expects n) false = decide (n ∈ seen) := by
  rw [List.getD_eq_getElem?_getD, h.flag n e he]
  rfl

/-- At the start nothing was met. -/
theorem reflects_init (expects : List StatsDExpect) :
    Reflects expects ⟨expects.map fun _ => false, expects.length⟩ ∅ where
  length := List.length_map _
  flag := by
    intro n e he
    rw [List.getElem?_map, getElem?_place he, decide_eq_false (Finset.notMem_empty n)]
    rfl
  named := fun n hn => absurd hn (Finset.notMem_empty n)
  remain := by rw [Finset.card_empty, Nat.add_zero]

/-- There are no more names than expectations. -/
theorem card_names_le {expects : List StatsDExpect} {seen : Finset String}
    (h : ∀ n ∈ seen, n ∈ expects.map StatsDExpect.name) : seen.card ≤ expects.length := by
  calc seen.card ≤ (expects.map StatsDExpect.name).toFinset.card :=
        Finset.card_le_card fun n hn => List.mem_toFinset.mpr (h n hn)
    _ ≤ (expects.map StatsDExpect.name).length := List.toFinset_card_le _
    _ = expects.length := List.length_map _

/-- A name that is met for the first time. -/
theorem Reflects.meet {expects : List StatsDExpect} {p : Progress} {seen : Finset String}
    (h : Reflects expects p seen) {n : String} {e : StatsDExpect}
    (he : first expects n = some e) (hn : n ∉ seen) :
    Reflects expects ⟨p.matched.set (place expects n) true, p.matchedRemain - 1⟩
      (insert n seen) where
  length := by rw [List.length_set, h.length]
  flag := by
    intro n' e' he'
    rw [List.getElem?_set]
    by_cases hnn : n' = n
    · subst hnn
      have hlt : place expects n' < p.matched.length :=
        (List.getElem?_eq_some_iff.mp (h.flag n' e' he')).1
      rw [if_pos rfl, if_pos hlt, decide_eq_true (Finset.mem_insert_self n' seen)]
    · -- two names do not have one place
      have hplace : place expects n ≠ place expects n' := by
        intro heq
        have hsame : some e = some e' := by
          rw [← getElem?_place he, ← getElem?_place he', heq]
        apply hnn
        rw [← (first_some he).2, ← (first_some he').2, Option.some.inj hsame]
      rw [if_neg hplace, h.flag n' e' he']
      exact congrArg some (decide_eq_decide.mpr (by rw [Finset.mem_insert, or_iff_right hnn]))
  named := by
    intro n' hn'
    rcases Finset.mem_insert.mp hn' with rfl | hn'
    · exact List.mem_map.mpr ⟨e, (first_some he).1, (first_some he).2⟩
    · exact h.named n' hn'
  remain := by
    have hrem := h.remain
    have hle : (insert n seen).card ≤ expects.length := by
      apply card_names_le
      intro n' hn'
      rcases Finset.mem_insert.mp hn' with rfl | hn'
      · exact List.mem_map.mpr ⟨e, (first_some he).1, (first_some he).2⟩
      · exact h.named n' hn'
    rw [Finset.card_insert_of_notMem hn] at hle ⊢
    simp only
    omega

/-- **ONE METRIC**, with flags and by name. -/
theorem onMetric_related (a : ExpectArgs) (snapshot : List StatsDMetric)
    (expects : List StatsDExpect) (p : Progress) (seen : Finset String) (metric : StatsDMetric)
    (h : Reflects expects p seen) :
    Related (Reflects expects) Leave.verdict (onMetric a snapshot expects p metric)
      (nameStep a snapshot (first expects) seen metric) := by
  rw [onMetric, nameStep, metricExpects_eq, Nat.zero_add]
  cases he : first expects metric.name with
  | none => exact .ok h
  | some e =>
      have hflag := h.getD he
      dsimp only
      cases hc : fCompareExpect a.useSnapshot snapshot metric e with
      | error why => exact .error (Leave.shutdown why)
      | ok met =>
          cases met with
          | true =>
              show Related _ _ (if p.matched.getD (place expects metric.name) false = true
                then _ else _) (.ok (insert metric.name seen))
              rw [hflag]
              by_cases hn : metric.name ∈ seen
              · rw [if_pos (decide_eq_true hn), Finset.insert_eq_of_mem hn]
                exact .ok h
              · rw [if_neg (fun hd => hn (of_decide_eq_true hd))]
                exact .ok (h.meet he hn)
          | false =>
              show Related _ _ (if (a.waitConverge
                && !p.matched.getD (place expects metric.name) false) = true
                then _ else _) (if a.waitConverge = true ∧ metric.name ∉ seen then _ else _)
              rw [hflag]
              by_cases hw : a.waitConverge = true ∧ metric.name ∉ seen
              · rw [if_pos (by rw [hw.1, decide_eq_false hw.2]; rfl), if_pos hw]
                exact .ok h
              · have hb : ¬ (a.waitConverge && !decide (metric.name ∈ seen)) = true := by
                  intro hb
                  obtain ⟨hwait, hn⟩ := (Bool.and_eq_true _ _).mp hb
                  exact hw ⟨hwait, of_decide_eq_false (Bool.not_eq_true' _ |>.mp hn)⟩
                rw [if_neg hb, if_neg hw, ← giveUp_verdict a]
                exact .error _

/-- A message is taken metric by metric. -/
theorem onMessage_eq (a : ExpectArgs) (snapshot : List StatsDMetric)
    (expects : List StatsDExpect) : ∀ (msg : List StatsDMetric) (p : Progress),
    onMessage a snapshot expects p msg = batch (onMetric a snapshot expects) p msg := by
  intro msg
  induction msg with
  | nil => exact fun _ => rfl
  | cons metric msg ih =>
      intro p
      rw [onMessage, batch]
      exact congrArg _ (funext ih)

/-- The loop takes the reports as batches, and polling as an empty one. -/
theorem expectLoop_eq (a : ExpectArgs) (snapshot : List StatsDMetric)
    (expects : List StatsDExpect) : ∀ (events : List Event) (p : Progress),
    expectLoop a snapshot expects p events
      = run (onMetric a snapshot expects) (fun p => decide (p.matchedRemain = 0))
          (fun p => giveUp a (.timeout expects p.matched)) p (events.map Event.metrics) := by
  intro events
  induction events with
  | nil =>
      intro p
      rw [expectLoop, List.map_nil, run]
      exact if_congr decide_eq_true_iff.symm rfl rfl
  | cons ev events ih =>
      intro p
      rw [List.map_cons, run]
      cases ev with
      | receive msg =>
          rw [expectLoop, onMessage_eq]
          exact if_congr decide_eq_true_iff.symm rfl (congrArg _ (funext ih))
      | pollConverge =>
          rw [expectLoop]
          exact if_congr decide_eq_true_iff.symm rfl (ih p)

/-- **THE VERDICT DEPENDS** on the first expectation of each name and on how many
    expectations there are. -/
theorem verdict_eq (a : ExpectArgs) (snapshot : List StatsDMetric)
    (expects : List StatsDExpect) (events : List Event) :
    verdict (fStatsdCheckerExpect a snapshot expects events)
      = nameVerdict a snapshot (first expects) expects.length (events.map Event.metrics) := by
  have hrel : Related (Reflects expects) Leave.verdict
      (expectLoop a snapshot expects ⟨expects.map fun _ => false, expects.length⟩ events)
      (nameRun a snapshot (first expects) expects.length (events.map Event.metrics)) := by
    rw [expectLoop_eq, nameRun]
    refine run_related (onMetric_related a snapshot expects) ?_ ?_ _ _ _ (reflects_init expects)
    · intro p seen h
      have hrem := h.remain
      exact decide_eq_decide.mpr (by omega)
    · exact fun p seen _ => (giveUp_verdict a _).symm
  rw [fStatsdCheckerExpect, nameVerdict]
  generalize expectLoop a snapshot expects _ events = x at hrel ⊢
  generalize nameRun a snapshot _ _ _ = y at hrel ⊢
  cases hrel with
  | ok h => rfl
  | error why => cases why <;> rfl

end OsmoStatsd
