import OsmoTtcn.MiscHelpersProofs

/-! # The Prometheus checker

    `Prometheus_Checker` reads the metrics that an HTTP server gives out as text,
    three lines for each, and polls it until all expectations are met.

    `prometheus_parse` says what is read from a text that has the lines of some
    metrics, with empty lines anywhere and a metric cut short at its end.
    `prometheus_expect_iff` says when the checker is content: with the first
    poll that leaves no expectation open, unless a metric misses its own before
    the end of it. -/

namespace OsmoPrometheus

open OsmoTitan OsmoMisc TextPieces

-- ── Data ─────────────────────────────────────────────────────────────────────

/-- `PrometheusMetricType` -/
inductive PrometheusMetricType where
  | counter
  | gauge
  deriving DecidableEq, Repr

/-- `PrometheusMetricKey` -/
structure PrometheusMetricKey where
  name : Charstring
  mtype : PrometheusMetricType
  deriving DecidableEq, Repr

/-- `PrometheusMetric` -/
structure PrometheusMetric where
  key : PrometheusMetricKey
  val : Int
  deriving DecidableEq, Repr

/-- `PrometheusExpect` -/
structure PrometheusExpect where
  key : PrometheusMetricKey
  min : Int
  max : Int
  deriving DecidableEq, Repr

/-- `PrometheusResultType` -/
inductive PrometheusResultType where
  | matched
  | mismatched
  | notFound
  deriving DecidableEq, Repr

/-- `PrometheusExpectResult` -/
structure PrometheusExpectResult where
  kind : PrometheusResultType
  idx : Int
  deriving DecidableEq, Repr

-- ── The parser ───────────────────────────────────────────────────────────────

/-- An element of a list. -/
def element {A : Type} (l : List A) (i : Nat) : Except Fault A :=
  match l[i]? with
  | some a => .ok a
  | none => .error .badIndex

/-- `f_prometheus_metric_mtype_from_string` -/
def fPrometheusMetricMtypeFromString (str : Charstring) : Except Fault PrometheusMetricType :=
  if str = "counter".toList then .ok .counter
  else if str = "gauge".toList then .ok .gauge
  else .error (.shutdown "Unknown Prometheus metric type: ")

/-- The end of a test whose response cannot be parsed. -/
def failedParsing : Fault := .shutdown "Failed parsing Prometheus HTTP response line: "

/-- A test that ends the parsing where it fails. -/
def orFailedParsing (r : Except Fault Bool) : Except Fault Unit :=
  r.bind fun b => if b = true then .ok () else .error failedParsing

section Parser

variable (fStrstr : Charstring → Charstring → Int → Int)

/-- One round of the loop of `f_prometheus_parse_http_response`: the HELP line,
    the TYPE line and the value line. -/
def parseMetric (help type value : Charstring) : Except Fault PrometheusMetric :=
  (orFailedParsing (fStrStartswith help "# HELP ".toList)).bind fun _ =>
  (orFailedParsing (fStrStartswith type "# TYPE ".toList)).bind fun _ =>
  (fStrSplit fStrstr type [' ']).bind fun typeTokens =>
  if typeTokens.length < 4 then .error failedParsing
  else
    (element typeTokens 2).bind fun name =>
    (element typeTokens 3).bind fun typeName =>
    (fPrometheusMetricMtypeFromString typeName).bind fun mtype =>
    (orFailedParsing (fStrStartswith value name)).bind fun _ =>
    (fStrSplit fStrstr value [' ']).bind fun valueTokens =>
    (element valueTokens 1).bind fun number =>
    (str2int number).map fun val => { key := { name := name, mtype := mtype }, val := val }

/-- The loop, which leaves up to two lines behind. -/
def parseLines : List Charstring → Except Fault (List PrometheusMetric)
  | help :: type :: value :: lines =>
      (parseMetric fStrstr help type value).bind fun it =>
      (parseLines lines).map fun metrics => it :: metrics
  | _ => .ok []

/-- `f_prometheus_parse_http_response` -/
def fPrometheusParseHttpResponse (body : Charstring) : Except Fault (List PrometheusMetric) :=
  (fStrSplit fStrstr body ['\n']).bind (parseLines fStrstr)

end Parser

-- ── A text of metrics ────────────────────────────────────────────────────────

/-- The name of a type. -/
def typeName : PrometheusMetricType → Charstring
  | .counter => "counter".toList
  | .gauge => "gauge".toList

/-- A metric with its help. -/
abbrev Described : Type := PrometheusMetric × Charstring

/-- The line that says what a metric is. -/
def helpLine (m : Described) : Charstring := "# HELP ".toList ++ (m.1.key.name ++ ' ' :: m.2)

/-- The line that says of what type it is. -/
def typeLine (m : Described) : Charstring :=
  "# TYPE ".toList ++ (m.1.key.name ++ ' ' :: typeName m.1.key.mtype)

/-- The line that says its value. -/
def valueLine (m : Described) : Charstring := m.1.key.name ++ ' ' :: int2str m.1.val

/-- The three lines of a metric. -/
def metricLines (m : Described) : List Charstring := [helpLine m, typeLine m, valueLine m]

/-- A name that is one word. -/
structure Named (m : Described) : Prop where
  nonempty : m.1.key.name ≠ []
  noSpace : ' ' ∉ m.1.key.name
  noNul : nul ∉ m.1.key.name

/-- A type is read from its name. -/
theorem mtype_typeName (t : PrometheusMetricType) :
    fPrometheusMetricMtypeFromString (typeName t) = .ok t := by
  cases t with
  | counter => exact if_pos rfl
  | gauge => rfl

/-- A text starts with its first part. -/
theorem startsWith_append (token rest : Charstring) :
    orFailedParsing (fStrStartswith (token ++ rest) token) = .ok () := by
  rw [fStrStartswith_eq, decide_eq_true (List.prefix_append token rest)]
  rfl

/-- The words of a type line. -/
theorem type_joined (name mtype : Charstring) : "# TYPE ".toList ++ (name ++ ' ' :: mtype)
    = [' '].intercalate ["#".toList, "TYPE".toList, name, mtype] := by
  simp [List.intercalate_cons_cons]

/-- The words of a value line. -/
theorem value_joined (name number : Charstring) :
    name ++ ' ' :: number = [' '].intercalate [name, number] := by
  simp [List.intercalate_cons_cons]

/-- An element that is there is given. -/
theorem element_eq {A : Type} {l : List A} {i : Nat} {a : A} (h : l[i]? = some a) :
    element l i = .ok a := by
  rw [element, h]

/-- A value is handed on. -/
theorem bind_ok_eq {A B : Type} (a : A) (f : A → Except Fault B) :
    (Except.ok a : Except Fault A).bind f = f a := rfl

section Reading

variable {fStrstr : Charstring → Charstring → Int → Int} (hstrstr : Strstr fStrstr)

include hstrstr

/-- The words of a line. -/
theorem words {ps : List Charstring} (hne : ps ≠ []) (hps : ∀ p ∈ ps, p ≠ [] ∧ ' ' ∉ p ∧ nul ∉ p) :
    fStrSplit fStrstr ([' '].intercalate ps) [' '] = .ok ps := by
  rw [fStrSplit_joined hstrstr (by decide) hne (fun p hp => (hps p hp).2.1)
    (fun p hp => (hps p hp).2.2)]
  exact congrArg Except.ok (List.filter_eq_self.mpr fun p hp => decide_eq_true (hps p hp).1)

/-- A type line is split into its words. -/
theorem typeLine_words {m : Described} (h : Named m) : fStrSplit fStrstr (typeLine m) [' ']
    = .ok ["#".toList, "TYPE".toList, m.1.key.name, typeName m.1.key.mtype] := by
  have hline : typeLine m = [' '].intercalate
      ["#".toList, "TYPE".toList, m.1.key.name, typeName m.1.key.mtype] := type_joined _ _
  rw [hline]
  refine words hstrstr (List.cons_ne_nil _ _) fun p hp => ?_
  simp only [List.mem_cons, List.not_mem_nil, or_false] at hp
  rcases hp with hp | hp | hp | hp
  · rw [hp]
    decide
  · rw [hp]
    decide
  · rw [hp]
    exact ⟨h.nonempty, h.noSpace, h.noNul⟩
  · rw [hp]
    cases m.1.key.mtype with
    | counter => decide
    | gauge => decide

/-- A value line is split into its words. -/
theorem valueLine_words {m : Described} (h : Named m) :
    fStrSplit fStrstr (valueLine m) [' '] = .ok [m.1.key.name, int2str m.1.val] := by
  have hline : valueLine m = [' '].intercalate [m.1.key.name, int2str m.1.val] :=
    value_joined _ _
  rw [hline]
  refine words hstrstr (List.cons_ne_nil _ _) fun p hp => ?_
  simp only [List.mem_cons, List.not_mem_nil, or_false] at hp
  rcases hp with hp | hp
  · rw [hp]
    exact ⟨h.nonempty, h.noSpace, h.noNul⟩
  · rw [hp]
    exact ⟨int2str_ne_nil _, int2str_notMem _ (by decide) (by decide),
      int2str_notMem _ (by decide) (by decide)⟩

/-- **A METRIC** is read from its three lines. -/
theorem parseMetric_ok {m : Described} (h : Named m) :
    parseMetric fStrstr (helpLine m) (typeLine m) (valueLine m) = .ok m.1 := by
  have hhelp : orFailedParsing (fStrStartswith (helpLine m) "# HELP ".toList) = .ok () :=
    startsWith_append _ _
  have hstart : orFailedParsing (fStrStartswith (typeLine m) "# TYPE ".toList) = .ok () :=
    startsWith_append _ _
  have hname : orFailedParsing (fStrStartswith (valueLine m) m.1.key.name) = .ok () :=
    startsWith_append _ _
  have hfour : ¬ ["#".toList, "TYPE".toList, m.1.key.name, typeName m.1.key.mtype].length < 4 :=
    Nat.lt_irrefl 4
  rw [parseMetric, hhelp, bind_ok_eq, hstart, bind_ok_eq,
    typeLine_words hstrstr h, bind_ok_eq, if_neg hfour, element_eq rfl, bind_ok_eq,
    element_eq rfl, bind_ok_eq, mtype_typeName, bind_ok_eq, hname, bind_ok_eq,
    valueLine_words hstrstr h, bind_ok_eq, element_eq rfl, bind_ok_eq, str2int_int2str]
  rfl

/-- **THE LINES** of metrics are parsed, with less than three more behind them. -/
theorem parseLines_ok {tail : List Charstring} (htail : tail.length < 3) :
    ∀ {ms : List Described}, (∀ m ∈ ms, Named m) →
      parseLines fStrstr (ms.flatMap metricLines ++ tail) = .ok (ms.map Prod.fst) := by
  intro ms
  induction ms with
  | nil =>
      intro _
      match tail, htail with
      | [], _ => rfl
      | [_], _ => rfl
      | [_, _], _ => rfl
  | cons m ms ih =>
      intro h
      show (parseMetric fStrstr (helpLine m) (typeLine m) (valueLine m)).bind (fun it =>
        (parseLines fStrstr (ms.flatMap metricLines ++ tail)).map fun metrics => it :: metrics) = _
      rw [parseMetric_ok hstrstr (h m List.mem_cons_self),
        ih fun m' hm' => h m' (List.mem_cons_of_mem m hm')]
      rfl

/-- **READING METRICS**: from any lines that are those of some metrics, with
    empty lines anywhere and less than a metric behind them. -/
theorem prometheus_parse {lines : List Charstring} (ms : List Described)
    (tail : List Charstring) (hne : lines ≠ []) (hlines : ∀ l ∈ lines, '\n' ∉ l ∧ nul ∉ l)
    (hcontent : lines.filter (fun l => decide (l ≠ [])) = ms.flatMap metricLines ++ tail)
    (htail : tail.length < 3) (hnamed : ∀ m ∈ ms, Named m) :
    fPrometheusParseHttpResponse fStrstr (['\n'].intercalate lines)
      = .ok (ms.map Prod.fst) := by
  rw [fPrometheusParseHttpResponse, fStrSplit_joined hstrstr (by decide) hne
    (fun l hl => (hlines l hl).1) (fun l hl => (hlines l hl).2), hcontent]
  exact parseLines_ok hstrstr htail hnamed

end Reading

/-- A response with one metric and an empty line. -/
theorem prometheus_parse_rx : fPrometheusParseHttpResponse strstrOf
      (['\n'].intercalate ["# HELP rx Received".toList, "# TYPE rx counter".toList, [],
        "rx -7".toList, "# HELP tx".toList, []])
    = .ok ([(⟨⟨"rx".toList, .counter⟩, -7⟩, "Received".toList)].map Prod.fst) :=
  prometheus_parse strstrOf_strstr [(⟨⟨"rx".toList, .counter⟩, -7⟩, "Received".toList)]
    ["# HELP tx".toList] (by decide) (by decide)
    (by decide) (by decide) (fun m hm => by
      rw [List.mem_singleton.mp hm]
      exact ⟨by decide, by decide, by decide⟩)

-- ── Expectations ─────────────────────────────────────────────────────────────

/-- `f_compare_PrometheusMetricKey` -/
def fComparePrometheusMetricKey (a b : PrometheusMetricKey) : Bool :=
  decide (a.name = b.name ∧ a.mtype = b.mtype)

/-- `get_val_from_snapshot` -/
def getValFromSnapshot (metric : PrometheusMetric) (snapshot : List PrometheusMetric) :
    Option Int :=
  (snapshot.find? fun s => fComparePrometheusMetricKey metric.key s.key).map (·.val)

section Expecting

variable (useSnapshot : Bool) (snapshot : List PrometheusMetric)

/-- What is compared with an expectation. -/
def comparedVal (metric : PrometheusMetric) : Except Fault Int :=
  if useSnapshot = true then
    match getValFromSnapshot metric snapshot with
    | none => .error (.shutdown "Metric ... not found in snapshot ")
    | some prevVal => .ok (metric.val - prevVal)
  else .ok metric.val

/-- Return false if the expectation doesn't match the metric, otherwise return
    true -/
def fCompareExpect (metric : PrometheusMetric) (expect : PrometheusExpect) :
    Except Fault Bool :=
  if fComparePrometheusMetricKey metric.key expect.key = true then
    (comparedVal useSnapshot snapshot metric).map fun val =>
      if val < expect.min ∨ val > expect.max then false else true
  else .ok false

/-- The loop of `f_prometheus_metric_expects`: the first expectation of the name
    decides. -/
def metricExpectsFrom (metric : PrometheusMetric) :
    Nat → List PrometheusExpect → Except Fault PrometheusExpectResult
  | _, [] => .ok { kind := .notFound, idx := -1 }
  | i, exp :: expects =>
      if exp.key.name ≠ metric.key.name then metricExpectsFrom metric (i + 1) expects
      else (fCompareExpect useSnapshot snapshot metric exp).map fun met =>
        if met = true then { kind := .matched, idx := i } else { kind := .mismatched, idx := i }

/-- `f_prometheus_metric_expects` -/
def fPrometheusMetricExpects (expects : List PrometheusExpect) (metric : PrometheusMetric) :
    Except Fault PrometheusExpectResult :=
  metricExpectsFrom useSnapshot snapshot metric 0 expects

/-- Which expectations were met, and how many were not. -/
structure Progress where
  matched : List Bool
  matchedRemain : Int

variable (expects : List PrometheusExpect) (waitConverge : Bool)

/-- The metrics of one response; `none` where the verdict is fail. -/
def scanMetrics : List PrometheusMetric → Progress → Except Fault (Option Progress)
  | [], p => .ok (some p)
  | metric :: metrics, p =>
      (fPrometheusMetricExpects useSnapshot snapshot expects metric).bind fun res =>
        match res.kind with
        | .notFound => scanMetrics metrics p
        | .mismatched =>
            (element p.matched res.idx.toNat).bind fun before =>
            if waitConverge = true ∧ before = false then scanMetrics metrics p
            else .ok none
        | .matched =>
            (element p.matched res.idx.toNat).bind fun before =>
            if before = false then
              scanMetrics metrics {
                matched := p.matched.set res.idx.toNat true
                matchedRemain := p.matchedRemain - 1 }
            else scanMetrics metrics p

/-- The loop of `f_prometheus_expect_ext`, over the metrics that are read until
    the timer expires.  When it has, the verdict is fail. -/
def expectLoop : List (List PrometheusMetric) → Progress → Except Fault Bool
  | [], p => if p.matchedRemain > 0 then .ok false else .ok true
  | rxMetrics :: polls, p =>
      if p.matchedRemain > 0 then
        (scanMetrics useSnapshot snapshot expects waitConverge rxMetrics p).bind fun p' =>
          match p' with
          | none => .ok false
          | some p' => expectLoop polls p'
      else .ok true

/-- `f_prometheus_expect_ext`, over the responses of the peer. -/
def fPrometheusExpectExt (polls : List (List PrometheusMetric)) : Except Fault Bool :=
  expectLoop useSnapshot snapshot expects waitConverge polls
    { matched := List.replicate expects.length false, matchedRemain := expects.length }

-- ── When it is content ───────────────────────────────────────────────────────

/-- The first expectation of a metric's name, and what the comparison with it
    comes to. -/
def judge (metric : PrometheusMetric) : Option (Nat × Except Fault Bool) :=
  (expects.findIdx? fun exp => decide (exp.key.name = metric.key.name)).bind fun i =>
    (expects[i]?).map fun exp => (i, fCompareExpect useSnapshot snapshot metric exp)

/-- The metric meets the expectation with the index. -/
def Meets (metric : PrometheusMetric) (i : Nat) : Prop :=
  judge useSnapshot snapshot expects metric = some (i, .ok true)

/-- What the metrics that came before it leave open for a metric: that it meets
    the expectation of its name, or that it may still converge. -/
def Fits (before : List PrometheusMetric) (metric : PrometheusMetric) : Prop :=
  match judge useSnapshot snapshot expects metric with
  | none => True
  | some (_, .ok true) => True
  | some (i, .ok false) =>
      waitConverge = true ∧ ∀ m ∈ before, ¬ Meets useSnapshot snapshot expects m i
  | some (_, .error _) => False

/-- Every metric fits behind those that came before. -/
def AllFit : List PrometheusMetric → List PrometheusMetric → Prop
  | _, [] => True
  | before, m :: ms => Fits useSnapshot snapshot expects waitConverge before m
      ∧ AllFit (before ++ [m]) ms

end Expecting

-- ── What the metrics come to ─────────────────────────────────────────────────

section Polling

variable {useSnapshot : Bool} {snapshot : List PrometheusMetric}
variable {expects : List PrometheusExpect} {waitConverge : Bool}

/-- What the loop returns is the judgement of the first expectation. -/
theorem metricExpectsFrom_eq (metric : PrometheusMetric) :
    ∀ (expects : List PrometheusExpect) (k : Nat),
      metricExpectsFrom useSnapshot snapshot metric k expects
        = match judge useSnapshot snapshot expects metric with
          | none => .ok { kind := .notFound, idx := -1 }
          | some (i, met) => met.map fun met => if met = true
              then { kind := .matched, idx := (k + i : Nat) }
              else { kind := .mismatched, idx := (k + i : Nat) } := by
  intro expects
  induction expects with
  | nil => exact fun _ => rfl
  | cons exp expects ih =>
      intro k
      rw [metricExpectsFrom, judge, List.findIdx?_cons]
      by_cases hname : exp.key.name = metric.key.name
      · rw [if_neg (not_not_intro hname), decide_eq_true hname]
        rfl
      · rw [if_pos hname, ih (k + 1), judge, decide_eq_false hname]
        cases hidx : expects.findIdx? fun exp => decide (exp.key.name = metric.key.name) with
        | none => rfl
        | some i =>
            have hshift : k + 1 + i = k + (i + 1) := by omega
            have hcons : (if false = true then some 0 else Option.map (· + 1) (some i))
                = some (i + 1) := rfl
            rw [hcons, Option.bind_some, Option.bind_some, List.getElem?_cons_succ]
            cases expects[i]? with
            | none => rfl
            | some e => simp only [Option.map_some, hshift]

/-- The index is one of the expectations. -/
theorem judge_lt {metric : PrometheusMetric} {i : Nat} {met : Except Fault Bool}
    (h : judge useSnapshot snapshot expects metric = some (i, met)) : i < expects.length := by
  obtain ⟨j, -, hj⟩ := Option.bind_eq_some_iff.mp h
  obtain ⟨exp, hexp, heq⟩ := Option.map_eq_some_iff.mp hj
  rw [← (Prod.mk.inj heq).1]
  exact (List.getElem?_eq_some_iff.mp hexp).1

variable (useSnapshot snapshot expects) in
/-- The progress is that of the metrics that came. -/
structure Tracks (seen : List PrometheusMetric) (p : Progress) : Prop where
  length : p.matched.length = expects.length
  bits : ∀ i, p.matched[i]? = some true ↔ ∃ m ∈ seen, Meets useSnapshot snapshot expects m i
  remain : p.matchedRemain = (p.matched.count false : Nat)

/-- At the start nothing was met. -/
theorem tracks_start : Tracks useSnapshot snapshot expects []
    { matched := List.replicate expects.length false, matchedRemain := expects.length } where
  length := List.length_replicate
  bits := by
    intro i
    refine iff_of_false (fun h => ?_) (fun ⟨m, hm, _⟩ => List.not_mem_nil hm)
    have hmem := List.mem_of_getElem? h
    exact absurd (List.eq_of_mem_replicate hmem) (by decide)
  remain := by rw [List.count_replicate_self]

variable {seen : List PrometheusMetric} {p : Progress}

/-- Nothing is open where everything was met. -/
theorem Tracks.done (h : Tracks useSnapshot snapshot expects seen p) : ¬ p.matchedRemain > 0
    ↔ ∀ i, i < expects.length → ∃ m ∈ seen, Meets useSnapshot snapshot expects m i := by
  rw [h.remain]
  constructor
  · intro hzero i hi
    refine (h.bits i).mp ?_
    have hlt : i < p.matched.length := by
      rw [h.length]
      exact hi
    have hcount : p.matched.count false = 0 := by omega
    rw [List.getElem?_eq_getElem hlt]
    cases hb : p.matched[i] with
    | true => rfl
    | false =>
        have hmem : false ∈ p.matched := hb ▸ List.getElem_mem hlt
        exact absurd hmem (List.count_eq_zero.mp hcount)
  · intro hall hpos
    have hmem : false ∈ p.matched := by
      refine List.count_pos_iff.mp ?_
      omega
    obtain ⟨i, hi, hb⟩ := List.mem_iff_getElem.mp hmem
    have htrue := (h.bits i).mpr (hall i (by rw [← h.length]; exact hi))
    rw [List.getElem?_eq_getElem hi, hb] at htrue
    cases htrue

/-- A metric that meets nothing new. -/
theorem Tracks.same (h : Tracks useSnapshot snapshot expects seen p) {m : PrometheusMetric}
    (hm : ∀ i, Meets useSnapshot snapshot expects m i → p.matched[i]? = some true) :
    Tracks useSnapshot snapshot expects (seen ++ [m]) p where
  length := h.length
  bits := by
    intro i
    rw [h.bits i]
    constructor
    · rintro ⟨m', hm', hmeets⟩
      exact ⟨m', List.mem_append_left _ hm', hmeets⟩
    · rintro ⟨m', hm', hmeets⟩
      rcases List.mem_append.mp hm' with hm' | hm'
      · exact ⟨m', hm', hmeets⟩
      · rw [List.mem_singleton.mp hm'] at hmeets
        exact (h.bits i).mp (hm i hmeets)
  remain := h.remain

/-- A metric meets what nothing met before. -/
theorem Tracks.met (h : Tracks useSnapshot snapshot expects seen p) {m : PrometheusMetric}
    {i : Nat} (hm : Meets useSnapshot snapshot expects m i) (hopen : p.matched[i]? = some false) :
    Tracks useSnapshot snapshot expects (seen ++ [m])
      { matched := p.matched.set i true, matchedRemain := p.matchedRemain - 1 } where
  length := by rw [List.length_set, h.length]
  bits := by
    intro j
    have hi := (List.getElem?_eq_some_iff.mp hopen).1
    by_cases hj : i = j
    · rw [← hj, List.getElem?_set_self hi]
      exact iff_of_true rfl ⟨m, List.mem_append_right _ (List.mem_singleton_self m), hm⟩
    · rw [List.getElem?_set_ne hj, h.bits j]
      constructor
      · rintro ⟨m', hm', hmeets⟩
        exact ⟨m', List.mem_append_left _ hm', hmeets⟩
      · rintro ⟨m', hm', hmeets⟩
        rcases List.mem_append.mp hm' with hm' | hm'
        · exact ⟨m', hm', hmeets⟩
        · rw [List.mem_singleton.mp hm'] at hmeets
          exact absurd (Prod.mk.inj (Option.some.inj (hm.symm.trans hmeets))).1 hj
  remain := by
    obtain ⟨hi, hb⟩ := List.getElem?_eq_some_iff.mp hopen
    have hpos : 0 < p.matched.count false := List.count_pos_iff.mpr (hb ▸ List.getElem_mem hi)
    show p.matchedRemain - 1 = ((p.matched.set i true).count false : Nat)
    rw [List.count_set hi, hb, h.remain]
    simp only [beq_self_eq_true, if_true]
    simp
    omega

/-- The bit of an expectation. -/
theorem Tracks.bit (h : Tracks useSnapshot snapshot expects seen p) {metric : PrometheusMetric}
    {i : Nat} {met : Except Fault Bool}
    (hj : judge useSnapshot snapshot expects metric = some (i, met)) :
    p.matched[i]? = some true ∧ (∃ m ∈ seen, Meets useSnapshot snapshot expects m i)
    ∨ p.matched[i]? = some false ∧ ∀ m ∈ seen, ¬ Meets useSnapshot snapshot expects m i := by
  have hi : i < p.matched.length := by
    rw [h.length]
    exact judge_lt hj
  have hbits := h.bits i
  rw [List.getElem?_eq_getElem hi] at hbits ⊢
  cases hb : p.matched[i] with
  | true =>
      rw [hb] at hbits
      exact Or.inl ⟨rfl, hbits.mp rfl⟩
  | false =>
      refine Or.inr ⟨rfl, fun m hm hmeets => ?_⟩
      have htrue := hbits.mpr ⟨m, hm, hmeets⟩
      rw [hb] at htrue
      cases htrue

/-- The first expectation of the name, as one search. -/
theorem metricExpects_eq (metric : PrometheusMetric) :
    fPrometheusMetricExpects useSnapshot snapshot expects metric
      = match judge useSnapshot snapshot expects metric with
        | none => .ok { kind := .notFound, idx := -1 }
        | some (i, met) => met.map fun met => if met = true
            then { kind := .matched, idx := (i : Nat) }
            else { kind := .mismatched, idx := (i : Nat) } := by
  rw [fPrometheusMetricExpects, metricExpectsFrom_eq]
  cases judge useSnapshot snapshot expects metric with
  | none => rfl
  | some r => simp only [Nat.zero_add]

section Cases

variable {metric : PrometheusMetric} {metrics : List PrometheusMetric} {i : Nat} {before : Bool}

/-- A metric that nobody expects is passed over. -/
theorem scan_none (hj : judge useSnapshot snapshot expects metric = none) :
    scanMetrics useSnapshot snapshot expects waitConverge (metric :: metrics) p
      = scanMetrics useSnapshot snapshot expects waitConverge metrics p := by
  rw [scanMetrics, metricExpects_eq, hj]
  rfl

/-- A metric that is not in the snapshot ends the scan. -/
theorem scan_error {e : Fault}
    (hj : judge useSnapshot snapshot expects metric = some (i, .error e)) :
    scanMetrics useSnapshot snapshot expects waitConverge (metric :: metrics) p = .error e := by
  rw [scanMetrics, metricExpects_eq, hj]
  rfl

/-- A metric that is met is marked. -/
theorem scan_met (hj : Meets useSnapshot snapshot expects metric i)
    (hbit : p.matched[i]? = some before) :
    scanMetrics useSnapshot snapshot expects waitConverge (metric :: metrics) p
      = if before = false then
          scanMetrics useSnapshot snapshot expects waitConverge metrics
            { matched := p.matched.set i true, matchedRemain := p.matchedRemain - 1 }
        else scanMetrics useSnapshot snapshot expects waitConverge metrics p := by
  rw [Meets] at hj
  rw [scanMetrics, metricExpects_eq, hj]
  show (element p.matched i).bind _ = _
  rw [element_eq hbit]
  rfl

/-- A metric that is missed ends the scan, or waits. -/
theorem scan_missed (hj : judge useSnapshot snapshot expects metric = some (i, .ok false))
    (hbit : p.matched[i]? = some before) :
    scanMetrics useSnapshot snapshot expects waitConverge (metric :: metrics) p
      = if waitConverge = true ∧ before = false then
          scanMetrics useSnapshot snapshot expects waitConverge metrics p
        else .ok none := by
  rw [scanMetrics, metricExpects_eq, hj]
  show (element p.matched i).bind _ = _
  rw [element_eq hbit]
  rfl

/-- A metric that nobody expects fits. -/
theorem fits_none (hj : judge useSnapshot snapshot expects metric = none) :
    Fits useSnapshot snapshot expects waitConverge seen metric := by
  rw [Fits, hj]
  trivial

/-- One that is not in the snapshot does not. -/
theorem not_fits_error {e : Fault}
    (hj : judge useSnapshot snapshot expects metric = some (i, .error e)) :
    ¬ Fits useSnapshot snapshot expects waitConverge seen metric := by
  rw [Fits, hj]
  exact not_false

/-- One that is met does. -/
theorem fits_met (hj : Meets useSnapshot snapshot expects metric i) :
    Fits useSnapshot snapshot expects waitConverge seen metric := by
  rw [Meets] at hj
  rw [Fits, hj]
  trivial

/-- One that is missed does while there is time and it was not met. -/
theorem fits_missed (hj : judge useSnapshot snapshot expects metric = some (i, .ok false)) :
    Fits useSnapshot snapshot expects waitConverge seen metric ↔ waitConverge = true
      ∧ ∀ m ∈ seen, ¬ Meets useSnapshot snapshot expects m i := by
  rw [Fits, hj]

end Cases

/-- **ONE RESPONSE**: the verdict is not fail exactly if every metric fits, and
    then the progress is that of all of them. -/
theorem scan_spec : ∀ (ms : List PrometheusMetric) {seen : List PrometheusMetric} {p : Progress},
    Tracks useSnapshot snapshot expects seen p →
      AllFit useSnapshot snapshot expects waitConverge seen ms
        ∧ (∃ p', scanMetrics useSnapshot snapshot expects waitConverge ms p = .ok (some p')
          ∧ Tracks useSnapshot snapshot expects (seen ++ ms) p')
      ∨ ¬ AllFit useSnapshot snapshot expects waitConverge seen ms
        ∧ ∀ p', scanMetrics useSnapshot snapshot expects waitConverge ms p ≠ .ok (some p') := by
  intro ms
  induction ms with
  | nil =>
      intro seen p h
      rw [List.append_nil]
      exact Or.inl ⟨trivial, p, rfl, h⟩
  | cons m ms ih =>
      intro seen p h
      -- the metric fits, and what is left to do is what follows it
      have hgo : ∀ p', Tracks useSnapshot snapshot expects (seen ++ [m]) p' →
          Fits useSnapshot snapshot expects waitConverge seen m →
          scanMetrics useSnapshot snapshot expects waitConverge (m :: ms) p
            = scanMetrics useSnapshot snapshot expects waitConverge ms p' →
          AllFit useSnapshot snapshot expects waitConverge seen (m :: ms)
            ∧ (∃ p', scanMetrics useSnapshot snapshot expects waitConverge (m :: ms) p
                = .ok (some p') ∧ Tracks useSnapshot snapshot expects (seen ++ m :: ms) p')
          ∨ ¬ AllFit useSnapshot snapshot expects waitConverge seen (m :: ms)
            ∧ ∀ p', scanMetrics useSnapshot snapshot expects waitConverge (m :: ms) p
              ≠ .ok (some p') := by
        intro p' h' hfits hscan
        rw [hscan, List.append_cons]
        rcases ih h' with ⟨hall, hex⟩ | ⟨hnot, hne⟩
        · exact Or.inl ⟨⟨hfits, hall⟩, hex⟩
        · exact Or.inr ⟨fun hand => hnot hand.2, hne⟩
      have hmeets : ∀ {i met}, judge useSnapshot snapshot expects m = some (i, met) →
          ∀ j, Meets useSnapshot snapshot expects m j → j = i ∧ met = .ok true := by
        intro i met hj j hm
        rw [Meets, hj] at hm
        obtain ⟨hij, hmet⟩ := Prod.mk.inj (Option.some.inj hm)
        exact ⟨hij.symm, hmet⟩
      match hj : judge useSnapshot snapshot expects m with
      | none =>
          refine hgo p (h.same fun i hm => ?_) (fits_none hj) (scan_none hj)
          rw [Meets, hj] at hm
          cases hm
      | some (i, .error e) =>
          refine Or.inr ⟨fun hand => not_fits_error hj hand.1, fun p' heq => ?_⟩
          rw [scan_error hj] at heq
          cases heq
      | some (i, .ok true) =>
          rcases h.bit hj with ⟨hbit, -⟩ | ⟨hbit, -⟩
          · have hsame := h.same (m := m) fun j hm => by rw [(hmeets hj j hm).1, hbit]
            exact hgo p hsame (fits_met hj)
              ((scan_met hj hbit).trans (if_neg Bool.true_eq_false.mp))
          · exact hgo _ (h.met hj hbit) (fits_met hj) ((scan_met hj hbit).trans (if_pos rfl))
      | some (i, .ok false) =>
          rcases h.bit hj with ⟨hbit, m', hm', hmet⟩ | ⟨hbit, hnever⟩
          · -- what was met before must not be missed again
            refine Or.inr ⟨fun hand => ((fits_missed hj).mp hand.1).2 m' hm' hmet, fun p' heq => ?_⟩
            rw [scan_missed hj hbit, if_neg fun hand => Bool.true_eq_false.mp hand.2] at heq
            cases heq
          · by_cases hwait : waitConverge = true
            · have hsame := h.same (m := m) fun j hm =>
                absurd (Except.ok.inj (hmeets hj j hm).2) Bool.false_ne_true
              exact hgo p hsame ((fits_missed hj).mpr ⟨hwait, hnever⟩)
                ((scan_missed hj hbit).trans (if_pos ⟨hwait, rfl⟩))
            · refine Or.inr ⟨fun hand => hwait ((fits_missed hj).mp hand.1).1, fun p' heq => ?_⟩
              rw [scan_missed hj hbit, if_neg fun hand => hwait hand.1] at heq
              cases heq

/-- Metrics fit one after the other. -/
theorem allFit_append (ms ms' : List PrometheusMetric) : ∀ seen : List PrometheusMetric,
    AllFit useSnapshot snapshot expects waitConverge seen (ms ++ ms')
      ↔ AllFit useSnapshot snapshot expects waitConverge seen ms
        ∧ AllFit useSnapshot snapshot expects waitConverge (seen ++ ms) ms' := by
  induction ms with
  | nil =>
      intro seen
      rw [List.append_nil]
      exact (and_iff_right trivial).symm
  | cons m ms ih =>
      intro seen
      rw [List.append_cons]
      show Fits _ _ _ _ seen m ∧ AllFit _ _ _ _ (seen ++ [m]) (ms ++ ms') ↔ (_ ∧ _) ∧ _
      rw [ih (seen ++ [m]), and_assoc]

/-- **THE LOOP** ends well in front of the first poll with nothing open. -/
theorem loop_iff : ∀ (polls : List (List PrometheusMetric)) {seen : List PrometheusMetric}
    {p : Progress}, Tracks useSnapshot snapshot expects seen p →
      (expectLoop useSnapshot snapshot expects waitConverge polls p = .ok true
        ↔ ∃ n, n ≤ polls.length
          ∧ (∀ i, i < expects.length → ∃ m ∈ seen ++ (polls.take n).flatten,
              Meets useSnapshot snapshot expects m i)
          ∧ AllFit useSnapshot snapshot expects waitConverge seen (polls.take n).flatten) := by
  intro polls
  induction polls with
  | nil =>
      intro seen p h
      rw [expectLoop]
      by_cases hopen : p.matchedRemain > 0
      · rw [if_pos hopen]
        refine iff_of_false (fun heq => Bool.false_ne_true (Except.ok.inj heq)) ?_
        rintro ⟨n, -, hall, -⟩
        rw [List.take_nil, List.flatten_nil, List.append_nil] at hall
        exact h.done.mpr hall hopen
      · rw [if_neg hopen]
        refine iff_of_true rfl ⟨0, Nat.le_refl 0, ?_, trivial⟩
        rw [List.take_nil, List.flatten_nil, List.append_nil]
        exact h.done.mp hopen
  | cons rxMetrics polls ih =>
      intro seen p h
      rw [expectLoop]
      by_cases hopen : p.matchedRemain > 0
      · rw [if_pos hopen]
        have hmore : ∀ n, (∀ i, i < expects.length →
            ∃ m ∈ seen ++ ((rxMetrics :: polls).take n).flatten,
              Meets useSnapshot snapshot expects m i) → n ≠ 0 := by
          rintro n hall rfl
          rw [List.take_zero, List.flatten_nil, List.append_nil] at hall
          exact h.done.mpr hall hopen
        rcases scan_spec rxMetrics h with ⟨hfit, p', hscan, h'⟩ | ⟨hnot, hne⟩
        · rw [hscan]
          refine (ih h').trans ?_
          constructor
          · rintro ⟨n, hn, hall, hrest⟩
            refine ⟨n + 1, Nat.succ_le_succ hn, ?_, ?_⟩
            · rw [List.take_succ_cons, List.flatten_cons, ← List.append_assoc]
              exact hall
            · rw [List.take_succ_cons, List.flatten_cons]
              exact (allFit_append _ _ seen).mpr ⟨hfit, hrest⟩
          · rintro ⟨n, hn, hall, hrest⟩
            obtain ⟨n, rfl⟩ := Nat.exists_eq_add_one_of_ne_zero (hmore n hall)
            rw [List.take_succ_cons, List.flatten_cons] at hall hrest
            rw [← List.append_assoc] at hall
            exact ⟨n, Nat.le_of_succ_le_succ hn, hall, ((allFit_append _ _ seen).mp hrest).2⟩
        · refine iff_of_false (fun heq => ?_) ?_
          · obtain ⟨r, hscan, hr⟩ := bind_ok heq
            cases r with
            | none => exact Bool.false_ne_true (Except.ok.inj hr)
            | some p' => exact hne p' hscan
          · rintro ⟨n, hn, hall, hrest⟩
            obtain ⟨n, rfl⟩ := Nat.exists_eq_add_one_of_ne_zero (hmore n hall)
            rw [List.take_succ_cons, List.flatten_cons] at hrest
            exact hnot ((allFit_append _ _ seen).mp hrest).1
      · rw [if_neg hopen]
        refine iff_of_true rfl ⟨0, Nat.zero_le _, ?_, trivial⟩
        rw [List.take_zero, List.flatten_nil, List.append_nil]
        exact h.done.mp hopen

end Polling

/-- Keys are compared in both parts. -/
theorem compareKey_iff {a b : PrometheusMetricKey} :
    fComparePrometheusMetricKey a b = true ↔ a = b := by
  rw [fComparePrometheusMetricKey, decide_eq_true_iff]
  constructor
  · rintro ⟨hname, hmtype⟩
    cases a
    cases b
    rw [PrometheusMetricKey.mk.injEq]
    exact ⟨hname, hmtype⟩
  · rintro rfl
    exact ⟨rfl, rfl⟩

/-- The value of a metric that is compared, with a snapshot and without one. -/
theorem comparedVal_ok_iff {useSnapshot : Bool} {snapshot : List PrometheusMetric}
    {metric : PrometheusMetric} {val : Int} :
    comparedVal useSnapshot snapshot metric = .ok val ↔
      (useSnapshot = false ∧ val = metric.val) ∨ (useSnapshot = true ∧ ∃ prev,
        getValFromSnapshot metric snapshot = some prev ∧ val = metric.val - prev) := by
  rw [comparedVal]
  cases useSnapshot with
  | false =>
      rw [if_neg Bool.false_ne_true]
      constructor
      · intro h
        exact Or.inl ⟨rfl, (Except.ok.inj h).symm⟩
      · rintro (⟨-, rfl⟩ | ⟨h, -⟩)
        · rfl
        · cases h
  | true =>
      rw [if_pos rfl]
      cases hprev : getValFromSnapshot metric snapshot with
      | none =>
          refine iff_of_false (fun h => nomatch h) ?_
          rintro (⟨h, -⟩ | ⟨-, prev, h, -⟩)
          · cases h
          · cases h
      | some prev =>
          constructor
          · intro h
            exact Or.inr ⟨rfl, prev, rfl, (Except.ok.inj h).symm⟩
          · rintro (⟨h, -⟩ | ⟨-, prev', h, rfl⟩)
            · cases h
            · rw [Option.some.inj h]

/-- An expectation is met by a metric of its key with a value in its range. -/
theorem fCompareExpect_true_iff {useSnapshot : Bool} {snapshot : List PrometheusMetric}
    {metric : PrometheusMetric} {expect : PrometheusExpect} :
    fCompareExpect useSnapshot snapshot metric expect = .ok true ↔
      metric.key = expect.key ∧ ∃ val, comparedVal useSnapshot snapshot metric = .ok val
        ∧ expect.min ≤ val ∧ val ≤ expect.max := by
  rw [fCompareExpect]
  by_cases hk : metric.key = expect.key
  · rw [if_pos (compareKey_iff.mpr hk)]
    cases hval : comparedVal useSnapshot snapshot metric with
    | error e => exact iff_of_false (fun h => nomatch h) fun ⟨_, _, h, _⟩ => nomatch h
    | ok val =>
        have hrange : (val < expect.min ∨ val > expect.max)
            ↔ ¬ (expect.min ≤ val ∧ val ≤ expect.max)
            := by omega
        have hmap : (Except.ok val : Except Fault Int).map (fun val =>
            if val < expect.min ∨ val > expect.max then false else true) = .ok true
            ↔ expect.min ≤ val ∧ val ≤ expect.max := by
          by_cases hin : expect.min ≤ val ∧ val ≤ expect.max
          · exact iff_of_true (congrArg Except.ok (if_neg fun h => hrange.mp h hin)) hin
          · refine iff_of_false (fun h => ?_) hin
            exact Bool.false_ne_true ((if_pos (hrange.mpr hin)).symm.trans (Except.ok.inj h))
        rw [hmap]
        constructor
        · exact fun h => ⟨hk, val, rfl, h⟩
        · rintro ⟨-, val', hval', h⟩
          rw [Except.ok.inj hval']
          exact h
  · rw [if_neg fun h => hk (compareKey_iff.mp h)]
    exact iff_of_false (fun h => Bool.false_ne_true (Except.ok.inj h)) fun h => hk h.1

/-- What it is to meet an expectation: it is the first of the name, and has the
    key and a range that the value is in. -/
theorem meets_iff {useSnapshot : Bool} {snapshot : List PrometheusMetric}
    {expects : List PrometheusExpect} {m : PrometheusMetric} {i : Nat} :
    Meets useSnapshot snapshot expects m i ↔ ∃ exp val,
      expects.findIdx? (fun exp => decide (exp.key.name = m.key.name)) = some i
      ∧ expects[i]? = some exp ∧ m.key = exp.key
      ∧ comparedVal useSnapshot snapshot m = .ok val ∧ exp.min ≤ val ∧ val ≤ exp.max := by
  constructor
  · intro hmeets
    obtain ⟨j, hidx, hj⟩ := Option.bind_eq_some_iff.mp hmeets
    obtain ⟨exp, hexp, heq⟩ := Option.map_eq_some_iff.mp hj
    obtain ⟨rfl, hmet⟩ := Prod.mk.inj heq
    obtain ⟨hk, val, hval, hrange⟩ := fCompareExpect_true_iff.mp hmet
    exact ⟨exp, val, hidx, hexp, hk, hval, hrange⟩
  · rintro ⟨exp, val, hidx, hexp, hk, hval, hrange⟩
    rw [Meets, judge, hidx, Option.bind_some, hexp, Option.map_some,
      fCompareExpect_true_iff.mpr ⟨hk, val, hval, hrange⟩]

/-- Of two expectations of a name the second one is never met. -/
theorem not_meets_second {useSnapshot : Bool} {snapshot : List PrometheusMetric}
    {expects : List PrometheusExpect} {i j : Nat} {first second : PrometheusExpect}
    (hij : i < j) (hfirst : expects[i]? = some first) (hsecond : expects[j]? = some second)
    (hname : first.key.name = second.key.name) (m : PrometheusMetric) :
    ¬ Meets useSnapshot snapshot expects m j := by
  intro hmeets
  obtain ⟨exp, val, hidx, hexp, hk, -⟩ := meets_iff.mp hmeets
  obtain ⟨hlt, -, hearlier⟩ := List.findIdx?_eq_some_iff_getElem.mp hidx
  have hnot := hearlier i hij
  rw [List.getElem?_eq_getElem (Nat.lt_trans hij hlt)] at hfirst
  rw [hsecond] at hexp
  rw [Option.some.inj hfirst, hname, Option.some.inj hexp, ← hk] at hnot
  exact hnot (decide_eq_true rfl)

/-- **THE CHECKER IS CONTENT** exactly if after some number of polls each
    expectation was met by a metric for which it is the first of its name, and
    up to the end of the last of these polls no metric missed its expectation:
    not at all, or if it waits for convergence not after another metric met
    it.  A metric meets an expectation of its key whose range its value is in, as
    it is or from the snapshot on; and a second expectation of a name is never
    met, so that the checker is never content with one. -/
theorem prometheus_expect_iff (useSnapshot : Bool) (snapshot : List PrometheusMetric)
    (expects : List PrometheusExpect) (waitConverge : Bool)
    (polls : List (List PrometheusMetric)) :
    (fPrometheusExpectExt useSnapshot snapshot expects waitConverge polls = .ok true
      ↔ ∃ n, n ≤ polls.length
        ∧ (∀ i, i < expects.length → ∃ m ∈ (polls.take n).flatten,
            Meets useSnapshot snapshot expects m i)
        ∧ AllFit useSnapshot snapshot expects waitConverge [] (polls.take n).flatten)
    ∧ (∀ m i, Meets useSnapshot snapshot expects m i ↔ ∃ exp val,
      expects.findIdx? (fun exp => decide (exp.key.name = m.key.name)) = some i
      ∧ expects[i]? = some exp ∧ m.key = exp.key
      ∧ ((useSnapshot = false ∧ val = m.val) ∨ (useSnapshot = true ∧ ∃ prev,
        getValFromSnapshot m snapshot = some prev ∧ val = m.val - prev))
      ∧ exp.min ≤ val ∧ val ≤ exp.max)
    ∧ ∀ i j first second, i < j → expects[i]? = some first → expects[j]? = some second →
      first.key.name = second.key.name →
        (∀ m, ¬ Meets useSnapshot snapshot expects m j)
        ∧ fPrometheusExpectExt useSnapshot snapshot expects waitConverge polls ≠ .ok true := by
  have hcontent : fPrometheusExpectExt useSnapshot snapshot expects waitConverge polls = .ok true
      ↔ ∃ n, n ≤ polls.length
        ∧ (∀ i, i < expects.length → ∃ m ∈ (polls.take n).flatten,
            Meets useSnapshot snapshot expects m i)
        ∧ AllFit useSnapshot snapshot expects waitConverge [] (polls.take n).flatten :=
    loop_iff polls tracks_start
  refine ⟨hcontent, fun m i => ?_, fun i j first second hij hfirst hsecond hname => ?_⟩
  · rw [meets_iff]
    simp only [comparedVal_ok_iff]
  · have hnever := fun m => @not_meets_second useSnapshot snapshot expects i j first second hij
      hfirst hsecond hname m
    refine ⟨hnever, fun hok => ?_⟩
    obtain ⟨n, -, hall, -⟩ := hcontent.mp hok
    obtain ⟨m, -, hmeets⟩ := hall j (List.getElem?_eq_some_iff.mp hsecond).1
    exact hnever m hmeets

/-- The second expectation of a name is never met. -/
example : fPrometheusExpectExt false []
    [⟨⟨"rx".toList, .gauge⟩, 0, 9⟩, ⟨⟨"rx".toList, .gauge⟩, 0, 9⟩] true
    [[⟨⟨"rx".toList, .gauge⟩, 5⟩], [⟨⟨"rx".toList, .gauge⟩, 5⟩]] = .ok false := by decide

-- ── Snapshots ────────────────────────────────────────────────────────────────

/-- `metrics` and `seen`, side by side. -/
abbrev Gathered : Type := List (PrometheusMetric × Bool)

/-- Updates "metrics" & "seen" with content from "it". Returns true if the metric
    becomes known (for first time) as a result. -/
def fPrometheusMetricsUpdateValue (it : PrometheusMetric) : Gathered → Gathered × Bool
  | [] => ([], false)
  | (metric, seen) :: rest =>
      if it.key.name ≠ metric.key.name ∨ it.key.mtype ≠ metric.key.mtype then
        let r := fPrometheusMetricsUpdateValue it rest
        ((metric, seen) :: r.1, r.2)
      else ((it, true) :: rest, if seen = true then false else true)

/-- The metrics of one response. -/
def snapshotScan : List PrometheusMetric → Gathered × Int → Gathered × Int
  | [], s => s
  | metric :: rxMetrics, (g, seenRemain) =>
      let r := fPrometheusMetricsUpdateValue metric g
      snapshotScan rxMetrics (r.1, if r.2 = true then seenRemain - 1 else seenRemain)

/-- The loop of `f_prometheus_snapshot`, over the metrics that are read until the
    timer expires. -/
def snapshotLoop : List (List PrometheusMetric) → Gathered × Int →
    Except Fault (List PrometheusMetric)
  | [], (g, seenRemain) =>
      if seenRemain > 0 then .error (.shutdown "Timeout waiting for metrics: ")
      else .ok (g.map Prod.fst)
  | rxMetrics :: polls, (g, seenRemain) =>
      if seenRemain > 0 then snapshotLoop polls (snapshotScan rxMetrics (g, seenRemain))
      else .ok (g.map Prod.fst)

/-- `f_prometheus_snapshot`, over the responses of the peer. -/
def fPrometheusSnapshot (mpEnableStats : Bool) (keys : List PrometheusMetricKey)
    (polls : List (List PrometheusMetric)) : Except Fault (List PrometheusMetric) :=
  if mpEnableStats = false then .ok []
  else snapshotLoop polls (keys.map fun key => ({ key := key, val := 0 }, false), keys.length)

/-- `f_prometheus_keys_from_expect` -/
def fPrometheusKeysFromExpect (expects : List PrometheusExpect) : List PrometheusMetricKey :=
  expects.map (·.key)

/-- The last value that came for a key. -/
def lastVal (ms : List PrometheusMetric) (key : PrometheusMetricKey) : Option Int :=
  (ms.reverse.find? fun m => decide (m.key = key)).map (·.val)

/-- What is gathered for a key. -/
def Gathered.entry (g : Gathered) (key : PrometheusMetricKey) : Option (PrometheusMetric × Bool) :=
  g.find? fun e => decide (e.1.key = key)

/-- What was gathered from the metrics that came. -/
structure Gathers (keys : List PrometheusMetricKey) (seen : List PrometheusMetric)
    (s : Gathered × Int) : Prop where
  keys : s.1.map (·.1.key) = keys
  values : ∀ key e, s.1.entry key = some e → e.2 = (lastVal seen key).isSome
    ∧ ∀ v, lastVal seen key = some v → e.1.val = v
  remain : s.2 = ((s.1.map Prod.snd).count false : Nat)

/-- At the start nothing was gathered. -/
theorem gathers_start (keys : List PrometheusMetricKey) :
    Gathers keys [] (keys.map fun key => ({ key := key, val := 0 }, false), keys.length) where
  keys := by rw [List.map_map]; exact List.map_id keys
  values := by
    intro key e he
    have hmem := List.mem_of_find?_eq_some he
    obtain ⟨k, -, rfl⟩ := List.mem_map.mp hmem
    exact ⟨rfl, fun v hv => absurd hv (Option.some_ne_none v).symm⟩
  remain := by
    rw [List.map_map, List.count_eq_length.mpr, List.length_map]
    intro b hb
    obtain ⟨k, -, rfl⟩ := List.mem_map.mp hb
    rfl

/-- The last value of a key is in the last metric that has it. -/
theorem lastVal_append (seen : List PrometheusMetric) (it : PrometheusMetric)
    (key : PrometheusMetricKey) : lastVal (seen ++ [it]) key
      = if it.key = key then some it.val else lastVal seen key := by
  rw [lastVal, List.reverse_append, List.reverse_singleton, List.singleton_append, List.find?_cons]
  by_cases hk : it.key = key
  · rw [if_pos hk, decide_eq_true hk]
    rfl
  · rw [if_neg hk, decide_eq_false hk]
    rfl

/-- The entry of a key is replaced, and nothing else. -/
theorem update_spec (it : PrometheusMetric) : ∀ g : Gathered,
    (fPrometheusMetricsUpdateValue it g).1.map (·.1.key) = g.map (·.1.key)
    ∧ (∀ key, (fPrometheusMetricsUpdateValue it g).1.entry key
        = if it.key = key then (g.entry key).map fun _ => (it, true) else g.entry key)
    ∧ (g.map Prod.snd).count false
        = ((fPrometheusMetricsUpdateValue it g).1.map Prod.snd).count false
          + (if (fPrometheusMetricsUpdateValue it g).2 = true then 1 else 0) := by
  intro g
  induction g with
  | nil =>
      refine ⟨rfl, fun key => ?_, rfl⟩
      by_cases hk : it.key = key
      · rw [if_pos hk]
        rfl
      · rw [if_neg hk]
        rfl
  | cons e g ih =>
      obtain ⟨metric, seen⟩ := e
      obtain ⟨hkeys, hentry, hcount⟩ := ih
      rw [fPrometheusMetricsUpdateValue]
      by_cases hother : it.key.name ≠ metric.key.name ∨ it.key.mtype ≠ metric.key.mtype
      · have hne : it.key ≠ metric.key := fun heq => by
          rw [heq] at hother
          exact hother.elim (absurd rfl) (absurd rfl)
        rw [if_pos hother]
        refine ⟨congrArg (metric.key :: ·) hkeys, fun key => ?_, ?_⟩
        · show ((metric, seen) :: _ : Gathered).find? _
            = if _ then Option.map _ (List.find? _ _) else List.find? _ _
          rw [List.find?_cons, List.find?_cons]
          by_cases hk : metric.key = key
          · rw [decide_eq_true hk, if_neg fun heq => hne (heq.trans hk.symm)]
          · rw [decide_eq_false hk]
            exact hentry key
        · show (seen :: g.map Prod.snd).count false
            = (seen :: (fPrometheusMetricsUpdateValue it g).1.map Prod.snd).count false
              + (if (fPrometheusMetricsUpdateValue it g).2 = true then 1 else 0)
          rw [List.count_cons, List.count_cons, hcount]
          omega
      · have heq : it.key = metric.key := by
          have hsame := not_or.mp hother
          exact compareKey_iff.mp (decide_eq_true
            ⟨not_not.mp hsame.1, not_not.mp hsame.2⟩)
        rw [if_neg hother]
        refine ⟨?_, fun key => ?_, ?_⟩
        · show it.key :: g.map (·.1.key) = metric.key :: g.map (·.1.key)
          rw [heq]
        · show ((it, true) :: g : Gathered).find? _
            = if _ then Option.map _ (List.find? _ _) else List.find? _ _
          rw [List.find?_cons, List.find?_cons]
          by_cases hk : it.key = key
          · rw [if_pos hk, decide_eq_true hk, decide_eq_true (heq ▸ hk)]
            rfl
          · rw [if_neg hk, decide_eq_false hk, decide_eq_false (heq ▸ hk)]
        · show (seen :: g.map Prod.snd).count false = (true :: g.map Prod.snd).count false + _
          rw [List.count_cons, List.count_cons]
          cases seen with
          | true => rfl
          | false => rfl

/-- **ONE METRIC** is gathered. -/
theorem Gathers.metric {keys : List PrometheusMetricKey} {seen : List PrometheusMetric}
    {g : Gathered} {seenRemain : Int} (h : Gathers keys seen (g, seenRemain))
    (it : PrometheusMetric) :
    Gathers keys (seen ++ [it]) ((fPrometheusMetricsUpdateValue it g).1,
      if (fPrometheusMetricsUpdateValue it g).2 = true then seenRemain - 1 else seenRemain) := by
  obtain ⟨hkeys, hentry, hcount⟩ := update_spec it g
  refine ⟨hkeys.trans h.keys, fun key e he => ?_, ?_⟩
  · rw [lastVal_append]
    rw [hentry key] at he
    by_cases hk : it.key = key
    · rw [if_pos hk] at he ⊢
      obtain ⟨e', -, rfl⟩ := Option.map_eq_some_iff.mp he
      exact ⟨rfl, fun v hv => Option.some.inj hv⟩
    · rw [if_neg hk] at he ⊢
      exact h.values key e he
  · have hremain : seenRemain = ((g.map Prod.snd).count false : Nat) := h.remain
    show (if (fPrometheusMetricsUpdateValue it g).2 = true then seenRemain - 1 else seenRemain)
      = (((fPrometheusMetricsUpdateValue it g).1.map Prod.snd).count false : Nat)
    rw [hremain, hcount]
    by_cases hnew : (fPrometheusMetricsUpdateValue it g).2 = true
    · rw [if_pos hnew, if_pos hnew]
      omega
    · rw [if_neg hnew, if_neg hnew]
      rfl

/-- **A SCAN** gathers the last values. -/
theorem Gathers.scan {keys : List PrometheusMetricKey} : ∀ (ms : List PrometheusMetric)
    {seen : List PrometheusMetric} {s : Gathered × Int}, Gathers keys seen s →
      Gathers keys (seen ++ ms) (snapshotScan ms s) := by
  intro ms
  induction ms with
  | nil =>
      intro seen s h
      rw [List.append_nil]
      exact h
  | cons m ms ih =>
      intro seen s h
      rw [List.append_cons]
      exact ih (h.metric m)

/-- Where nothing is missing, each key has the last value that came for it. -/
theorem Gathers.value {keys : List PrometheusMetricKey} {seen : List PrometheusMetric}
    {g : Gathered} {seenRemain : Int} (h : Gathers keys seen (g, seenRemain))
    (hdone : ¬ seenRemain > 0) {metric : PrometheusMetric} (hkey : metric.key ∈ keys) :
    ∃ v, lastVal seen metric.key = some v
      ∧ getValFromSnapshot metric (g.map Prod.fst) = some v := by
  have hmem : metric.key ∈ g.map (·.1.key) := by
    rw [h.keys]
    exact hkey
  obtain ⟨e', he', hek'⟩ := List.mem_map.mp hmem
  have hsome : (g.entry metric.key).isSome = true :=
    List.find?_isSome.mpr ⟨e', he', decide_eq_true hek'⟩
  obtain ⟨e, he⟩ := Option.isSome_iff_exists.mp hsome
  obtain ⟨hflag, hval⟩ := h.values metric.key e he
  have hremain : seenRemain = ((g.map Prod.snd).count false : Nat) := h.remain
  have htrue : e.2 = true := by
    cases hb : e.2 with
    | true => rfl
    | false =>
        have hin : false ∈ g.map Prod.snd :=
          List.mem_map.mpr ⟨e, List.mem_of_find?_eq_some he, hb⟩
        have hpos := List.count_pos_iff.mpr hin
        omega
  rw [htrue] at hflag
  obtain ⟨v, hv⟩ := Option.isSome_iff_exists.mp hflag.symm
  refine ⟨v, hv, ?_⟩
  have hfind : (g.map Prod.fst).find? (fun s => fComparePrometheusMetricKey metric.key s.key)
      = (g.entry metric.key).map Prod.fst := by
    rw [List.find?_map]
    refine congrArg (Option.map Prod.fst) (congrArg (g.find? ·) (funext fun e => ?_))
    show fComparePrometheusMetricKey metric.key e.1.key = decide (e.1.key = metric.key)
    rw [Bool.eq_iff_iff, compareKey_iff, decide_eq_true_iff, eq_comm]
  rw [getValFromSnapshot, hfind, he]
  exact congrArg some (hval v hv)

/-- A snapshot ends with the first poll behind which nothing remains, and has the
    last values up to this one. -/
theorem snapshotLoop_ok {keys : List PrometheusMetricKey} {snap : List PrometheusMetric} :
    ∀ (polls : List (List PrometheusMetric)) {seen : List PrometheusMetric} {s : Gathered × Int},
      Gathers keys seen s → snapshotLoop polls s = .ok snap → ∃ n, n ≤ polls.length
        ∧ snapshotLoop (polls.take n) s = .ok snap
        ∧ (∀ k, k < n → snapshotLoop (polls.take k) s
          = .error (.shutdown "Timeout waiting for metrics: "))
        ∧ ∀ metric : PrometheusMetric, metric.key ∈ keys → ∃ v,
          lastVal (seen ++ (polls.take n).flatten) metric.key = some v
            ∧ getValFromSnapshot metric snap = some v := by
  intro polls
  induction polls with
  | nil =>
      intro seen s h hok
      obtain ⟨g, seenRemain⟩ := s
      refine ⟨0, Nat.le_refl 0, hok, fun k hk => absurd hk (Nat.not_lt_zero k), ?_⟩
      rw [snapshotLoop] at hok
      by_cases hopen : seenRemain > 0
      · rw [if_pos hopen] at hok
        cases hok
      · rw [if_neg hopen] at hok
        intro metric hkey
        rw [← Except.ok.inj hok, List.take_zero, List.flatten_nil, List.append_nil]
        exact h.value hopen hkey
  | cons rxMetrics polls ih =>
      intro seen s h hok
      obtain ⟨g, seenRemain⟩ := s
      rw [snapshotLoop] at hok
      by_cases hopen : seenRemain > 0
      · rw [if_pos hopen] at hok
        obtain ⟨n, hn, hends, hbefore, hvalues⟩ := ih (h.scan rxMetrics) hok
        refine ⟨n + 1, Nat.succ_le_succ hn, ?_, fun k hk => ?_, ?_⟩
        · rw [List.take_succ_cons, snapshotLoop, if_pos hopen]
          exact hends
        · cases k with
          | zero => rw [List.take_zero, snapshotLoop, if_pos hopen]
          | succ k =>
              rw [List.take_succ_cons, snapshotLoop, if_pos hopen]
              exact hbefore k (Nat.lt_of_succ_lt_succ hk)
        · rw [List.take_succ_cons, List.flatten_cons, ← List.append_assoc]
          exact hvalues
      · rw [if_neg hopen] at hok
        refine ⟨0, Nat.zero_le _, ?_, fun k hk => absurd hk (Nat.not_lt_zero k), ?_⟩
        · rw [List.take_zero, snapshotLoop, if_neg hopen, hok]
        · intro metric hkey
          rw [← Except.ok.inj hok, List.take_zero, List.flatten_nil, List.append_nil]
          exact h.value hopen hkey

-- ── Expectations after a snapshot ────────────────────────────────────────────

section After

variable {useSnapshot : Bool} {snapshot : List PrometheusMetric}
variable {expects : List PrometheusExpect}

/-- Where no comparison fails, a response is read to the end or to a miss. -/
theorem scan_returns (waitConverge : Bool)
    (hgood : ∀ m i e, judge useSnapshot snapshot expects m ≠ some (i, .error e)) :
    ∀ (ms : List PrometheusMetric) {p : Progress}, p.matched.length = expects.length →
      ∃ r, scanMetrics useSnapshot snapshot expects waitConverge ms p = .ok r
        ∧ ∀ p', r = some p' → p'.matched.length = expects.length := by
  intro ms
  induction ms with
  | nil =>
      intro p h
      exact ⟨some p, rfl, fun p' heq => Option.some.inj heq ▸ h⟩
  | cons m ms ih =>
      intro p h
      have hbit : ∀ {i met}, judge useSnapshot snapshot expects m = some (i, met) →
          ∃ b, p.matched[i]? = some b := fun hj =>
        ⟨_, List.getElem?_eq_getElem (by rw [h]; exact judge_lt hj)⟩
      match hj : judge useSnapshot snapshot expects m with
      | none =>
          rw [scan_none hj]
          exact ih h
      | some (i, .error e) => exact absurd hj (hgood m i e)
      | some (i, .ok true) =>
          obtain ⟨b, hb⟩ := hbit hj
          rw [scan_met hj hb]
          split
          · exact ih (by rw [List.length_set, h])
          · exact ih h
      | some (i, .ok false) =>
          obtain ⟨b, hb⟩ := hbit hj
          rw [scan_missed hj hb]
          split
          · exact ih h
          · exact ⟨none, rfl, fun p' heq => absurd heq.symm (Option.some_ne_none p')⟩

/-- Without an error the loop returns, whatever it says. -/
theorem loop_returns (waitConverge : Bool)
    (hgood : ∀ m i e, judge useSnapshot snapshot expects m ≠ some (i, .error e)) :
    ∀ (polls : List (List PrometheusMetric)) {p : Progress}, p.matched.length = expects.length →
      ∃ b, expectLoop useSnapshot snapshot expects waitConverge polls p = .ok b := by
  intro polls
  induction polls with
  | nil =>
      intro p _
      rw [expectLoop]
      split
      · exact ⟨false, rfl⟩
      · exact ⟨true, rfl⟩
  | cons rxMetrics polls ih =>
      intro p h
      rw [expectLoop]
      split
      · obtain ⟨r, hscan, hr⟩ := scan_returns waitConverge hgood rxMetrics h
        rw [hscan]
        cases r with
        | none => exact ⟨false, rfl⟩
        | some p' => exact ih (hr p' rfl)
      · exact ⟨true, rfl⟩

/-- Metrics that nothing is expected of do not count. -/
theorem scan_quiet (waitConverge : Bool) (rest : List PrometheusMetric) (p : Progress) :
    ∀ (ms : List PrometheusMetric),
      (∀ m ∈ ms, judge useSnapshot snapshot expects m = none) →
        scanMetrics useSnapshot snapshot expects waitConverge (ms ++ rest) p
          = scanMetrics useSnapshot snapshot expects waitConverge rest p := by
  intro ms
  induction ms with
  | nil => exact fun _ => rfl
  | cons m ms ih =>
      intro hquiet
      rw [List.cons_append, scan_none (hquiet m List.mem_cons_self)]
      exact ih (fun m' hm' => hquiet m' (List.mem_cons_of_mem m hm'))

/-- The first metric that something is expected of decides. -/
theorem loop_error {waitConverge : Bool} {before after : List PrometheusMetric}
    {m : PrometheusMetric} {more : List (List PrometheusMetric)} {p : Progress} {i : Nat}
    {e : Fault} (hopen : p.matchedRemain > 0)
    (hbefore : ∀ m' ∈ before, judge useSnapshot snapshot expects m' = none)
    (hm : judge useSnapshot snapshot expects m = some (i, .error e)) :
    ∀ (quiet : List (List PrometheusMetric)),
      (∀ m' ∈ quiet.flatten, judge useSnapshot snapshot expects m' = none) →
        expectLoop useSnapshot snapshot expects waitConverge
          (quiet ++ (before ++ m :: after) :: more) p = .error e := by
  intro quiet
  induction quiet with
  | nil =>
      intro _
      rw [List.nil_append, expectLoop, if_pos hopen, scan_quiet waitConverge _ p before hbefore,
        scan_error hm]
      rfl
  | cons ms quiet ih =>
      intro hquiet
      rw [List.flatten_cons] at hquiet
      have hscan := scan_quiet waitConverge [] p ms
        (fun m' hm' => hquiet m' (List.mem_append_left _ hm'))
      rw [List.append_nil] at hscan
      rw [List.cons_append, expectLoop, if_pos hopen, hscan]
      exact ih (fun m' hm' => hquiet m' (List.mem_append_right ms hm'))

/-- A metric that nobody expects is not judged. -/
theorem judge_unexpected {m : PrometheusMetric}
    (h : ∀ exp ∈ expects, exp.key.name ≠ m.key.name) :
    judge useSnapshot snapshot expects m = none := by
  have hnone : expects.findIdx? (fun exp => decide (exp.key.name = m.key.name)) = none :=
    List.findIdx?_eq_none_iff.mpr (fun exp hexp => decide_eq_false (h exp hexp))
  rw [judge, hnone, Option.bind_none]

end After

/-- **FROM A SNAPSHOT**: where the snapshot for the keys of the expectations was
    taken, and statistics are enabled, it ended with the first poll that left no
    key unseen; no comparison fails for want of a value, and a metric meets the
    first expectation of its name if it has its type and has grown by as much as
    is expected since the last value that the snapshot saw.  With statistics
    disabled the snapshot is empty, and the first metric that something is
    expected of stops the test. -/
theorem prometheus_from_snapshot {mpEnableStats : Bool} {expects : List PrometheusExpect}
    {polls : List (List PrometheusMetric)} {snap : List PrometheusMetric}
    (hsnap : fPrometheusSnapshot mpEnableStats (fPrometheusKeysFromExpect expects) polls
      = .ok snap) :
    (mpEnableStats = true → ∃ n, n ≤ polls.length
      ∧ fPrometheusSnapshot true (fPrometheusKeysFromExpect expects) (polls.take n) = .ok snap
      ∧ (∀ k, k < n →
        fPrometheusSnapshot true (fPrometheusKeysFromExpect expects) (polls.take k)
          = .error (.shutdown "Timeout waiting for metrics: "))
      ∧ (∀ waitConverge polls', ∃ b, fPrometheusExpectExt true snap expects waitConverge polls'
          = .ok b)
      ∧ ∀ m i, Meets true snap expects m i ↔ ∃ exp v,
          expects.findIdx? (fun exp => decide (exp.key.name = m.key.name)) = some i
          ∧ expects[i]? = some exp ∧ m.key = exp.key
          ∧ lastVal (polls.take n).flatten m.key = some v
          ∧ exp.min ≤ m.val - v ∧ m.val - v ≤ exp.max)
    ∧ (mpEnableStats = false → snap = [] ∧ ∀ waitConverge quiet before m after more i exp,
      (∀ m' ∈ quiet.flatten ++ before, ∀ exp ∈ expects, exp.key.name ≠ m'.key.name) →
        expects.findIdx? (fun exp => decide (exp.key.name = m.key.name)) = some i →
        expects[i]? = some exp → m.key = exp.key →
          fPrometheusExpectExt true snap expects waitConverge
            (quiet ++ (before ++ m :: after) :: more)
            = .error (.shutdown "Metric ... not found in snapshot ")) := by
  constructor
  · rintro rfl
    obtain ⟨n, hn, hends, hearlier, hvalues⟩ := snapshotLoop_ok polls (gathers_start _) hsnap
    rw [List.nil_append] at hvalues
    have hkey : ∀ {i : Nat} {exp : PrometheusExpect}, expects[i]? = some exp →
        exp.key ∈ fPrometheusKeysFromExpect expects := fun hexp =>
      List.mem_map_of_mem (List.mem_of_getElem? hexp)
    have hcompared : ∀ {m : PrometheusMetric} {i : Nat} {exp : PrometheusExpect},
        expects[i]? = some exp → m.key = exp.key → ∃ v,
          lastVal (polls.take n).flatten m.key = some v
          ∧ comparedVal true snap m = .ok (m.val - v) := by
      intro m i exp hexp hk
      obtain ⟨v, hlast, hval⟩ := hvalues m (hk ▸ hkey hexp)
      exact ⟨v, hlast, comparedVal_ok_iff.mpr (Or.inr ⟨rfl, v, hval, rfl⟩)⟩
    refine ⟨n, hn, hends, hearlier, fun waitConverge polls' => ?_, fun m i => ?_⟩
    · refine loop_returns waitConverge (fun m i e hj => ?_) polls' List.length_replicate
      obtain ⟨j, -, hj'⟩ := Option.bind_eq_some_iff.mp hj
      obtain ⟨exp, hexp, heq⟩ := Option.map_eq_some_iff.mp hj'
      have hmet := (Prod.mk.inj heq).2
      rw [fCompareExpect] at hmet
      by_cases hk : m.key = exp.key
      · obtain ⟨v, -, hval⟩ := hcompared hexp hk
        rw [if_pos (compareKey_iff.mpr hk), hval] at hmet
        cases hmet
      · rw [if_neg fun h => hk (compareKey_iff.mp h)] at hmet
        cases hmet
    · rw [meets_iff]
      constructor
      · rintro ⟨exp, val, hidx, hexp, hk, hval, hrange⟩
        obtain ⟨v, hlast, hval'⟩ := hcompared hexp hk
        rw [hval'] at hval
        rw [← Except.ok.inj hval] at hrange
        exact ⟨exp, v, hidx, hexp, hk, hlast, hrange⟩
      · rintro ⟨exp, v, hidx, hexp, hk, hlast, hrange⟩
        obtain ⟨v', hlast', hval⟩ := hcompared hexp hk
        rw [hlast] at hlast'
        rw [← Option.some.inj hlast'] at hval
        exact ⟨exp, _, hidx, hexp, hk, hval, hrange⟩
  · rintro rfl
    have hempty : snap = [] := (Except.ok.inj hsnap).symm
    refine ⟨hempty, ?_⟩
    intro waitConverge quiet before m after more i exp hquiet hidx hexp hk
    have hm : judge true snap expects m
        = some (i, .error (.shutdown "Metric ... not found in snapshot ")) := by
      rw [judge, hidx, Option.bind_some, hexp, Option.map_some, fCompareExpect,
        if_pos (compareKey_iff.mpr hk), comparedVal, if_pos rfl, hempty]
      rfl
    have hopen : (0 : Int) < (expects.length : Int) := by
      have hlt := judge_lt hm
      omega
    refine loop_error hopen (fun m' hm' => ?_) hm quiet (fun m' hm' => ?_)
    · exact judge_unexpected (hquiet m' (List.mem_append_right _ hm'))
    · exact judge_unexpected (hquiet m' (List.mem_append_left _ hm'))

/-- The polls of a snapshot of one counter, in `prometheus_from_snapshot_rx`. -/
def rxPolls : List (List PrometheusMetric) := [[], [⟨⟨"rx".toList, .counter⟩, 10⟩]]

/-- One expectation of that counter. -/
def rxExpects : List PrometheusExpect := [⟨⟨"rx".toList, .counter⟩, 1, 3⟩]

/-- A counter against its snapshot, and without one. -/
theorem prometheus_from_snapshot_rx : (∃ n, n ≤ rxPolls.length
      ∧ (∀ waitConverge polls', ∃ b, fPrometheusExpectExt true [⟨⟨"rx".toList, .counter⟩, 10⟩]
          rxExpects waitConverge polls' = .ok b)
      ∧ ∀ m i, Meets true [⟨⟨"rx".toList, .counter⟩, 10⟩] rxExpects m i ↔ ∃ exp v,
          rxExpects.findIdx? (fun exp => decide (exp.key.name = m.key.name)) = some i
          ∧ rxExpects[i]? = some exp ∧ m.key = exp.key
          ∧ lastVal (rxPolls.take n).flatten m.key = some v
          ∧ exp.min ≤ m.val - v ∧ m.val - v ≤ exp.max)
    ∧ fPrometheusSnapshot false (fPrometheusKeysFromExpect rxExpects) rxPolls = .ok []
    ∧ fPrometheusExpectExt true [] rxExpects true rxPolls
      = .error (.shutdown "Metric ... not found in snapshot ") := by
  have htaken : fPrometheusSnapshot true (fPrometheusKeysFromExpect rxExpects) rxPolls
      = .ok [⟨⟨"rx".toList, .counter⟩, 10⟩] := by decide
  obtain ⟨n, hn, -, -, hreturns, hmeets⟩ := (prometheus_from_snapshot htaken).1 rfl
  obtain ⟨-, hstops⟩ := (@prometheus_from_snapshot false rxExpects rxPolls [] rfl).2 rfl
  refine ⟨⟨n, hn, hreturns, hmeets⟩, rfl, ?_⟩
  -- the first poll is empty, and the second one has the counter
  exact hstops true [[]] [] ⟨⟨"rx".toList, .counter⟩, 10⟩ [] [] 0
    ⟨⟨"rx".toList, .counter⟩, 1, 3⟩ (fun _ hm => absurd hm List.not_mem_nil) rfl rfl rfl

end OsmoPrometheus
