import OsmoTtcn.NumberTextProofs
import Mathlib.Data.List.Nodup
import Mathlib.Tactic.Common

/-! # Rate counters over the CTRL interface

    `Osmocom_CTRL_Functions` asks a program for its rate counters, keeps a list
    of what they should be while the test goes on, and compares in the end.

    `counters_agree` says that the comparison comes out well exactly if the test
    has counted what the program has, whatever TRAPs come in between.
    `counters_changed` says when the counters that changed are those that were
    expected to.

    A counter that the program does not have counts as −1. -/

namespace OsmoCtrl

open OsmoTitan OsmoMisc

-- ── The interface ────────────────────────────────────────────────────────────

/-- `CtrlId`, a number as text. -/
abbrev CtrlId : Type := Charstring

/-- `CtrlVariable` -/
abbrev CtrlVariable : Type := Charstring

/-- `CtrlValue` -/
abbrev CtrlValue : Type := Charstring

/-- `CtrlMessage`, by the kinds that the alternatives tell apart. -/
inductive CtrlMessage where
  | getReply (id : CtrlId) (var : CtrlVariable) (val : CtrlValue)
  | trap (var : CtrlVariable) (val : CtrlValue)
  | err (id : CtrlId) (reason : Charstring)
  /-- Any other. -/
  | other
  deriving DecidableEq, Repr

/-- What is at the other end: the ids that `f_gen_rand_id` comes to, and what the
    program sends until the timer of the GET expires. -/
structure Remote where
  randId : Nat → CtrlId
  sends : Nat → CtrlId → CtrlVariable → List CtrlMessage

/-- How many GETs were sent, and what waits in the port. -/
structure Session where
  gets : Nat
  queue : List CtrlMessage

/-- No reply came in time. -/
def timeout : Fault := .shutdown "Timeout waiting for CTRL GET REPLY "

/-- The alternatives of `f_ctrl_get`.  What no alternative takes stays in front
    of the rest until the timer expires. -/
def getAlt (id : CtrlId) (var : CtrlVariable) (onErr : Option CtrlValue) :
    List CtrlMessage → Except Fault (CtrlValue × List CtrlMessage)
  | [] => .error timeout
  | .getReply id' var' val :: rest =>
      if id' = id ∧ var' = var then .ok (val, rest) else .error timeout
  | .trap _ _ :: rest => getAlt id var onErr rest
  | .err _ _ :: rest =>
      match onErr with
      | none => .error (.shutdown "Error in CTRL GET ")
      | some val => .ok (val, rest)
  | .other :: _ => .error timeout

/-- perform a given GET Operation -/
def fCtrlGet (pt : Remote) (s : Session) (var : CtrlVariable) (onErr : Option CtrlValue) :
    Except Fault (CtrlValue × Session) :=
  let id := pt.randId s.gets
  (getAlt id var onErr (s.queue ++ pt.sends s.gets id var)).map fun r =>
    (r.1, { gets := s.gets + 1, queue := r.2 })

/-- `ts_ctrl_ratectr` of the kind "abs" -/
def tsCtrlRatectr (grp : CtrlVariable) (inst : Int) (name : CtrlVariable) : Charstring :=
  "rate_ctr.abs.".toList ++ grp ++ '.' :: (int2str inst ++ '.' :: name)

/-- `f_ctrl_get_ratectr_abs` -/
def fCtrlGetRatectrAbs (pt : Remote) (s : Session) (grp : CtrlVariable) (inst : Int)
    (name : CtrlVariable) : Except Fault (Int × Session) :=
  (fCtrlGet pt s (tsCtrlRatectr grp inst name) (some "-1".toList)).bind fun r =>
    (str2int r.1).map fun val => (val, r.2)

-- ── Lists of counters ────────────────────────────────────────────────────────

/-- One counter value, e.g. { "name", 23 } -/
structure CounterNameVal where
  name : Charstring
  val : Int
  deriving DecidableEq, Repr

/-- List of one instance's counters -/
abbrev CounterNameVals : Type := List CounterNameVal

/-- List of numerous instances' counters; an element can be unbound. -/
abbrev CounterNameValsList : Type := List (Option CounterNameVals)

/-- The loop of `f_counter_name_vals_get`. -/
def getLoop (pt : Remote) (instanceName : Charstring) (instanceNr : Int) :
    CounterNameVals → Session → Except Fault (CounterNameVals × Session)
  | [], s => .ok ([], s)
  | counter :: counternames, s =>
      (fCtrlGetRatectrAbs pt s instanceName instanceNr counter.name).bind fun r =>
      (getLoop pt instanceName instanceNr counternames r.2).map fun rest =>
        ({ name := counter.name, val := r.1 } :: rest.1, rest.2)

/-- Retrieve one instance's rate counter values of the given names.  Without a
    name what it returns was never bound. -/
def fCounterNameValsGet (pt : Remote) (instanceName : Charstring) (instanceNr : Int)
    (counternames : CounterNameVals) (s : Session) : Except Fault (CounterNameVals × Session) :=
  if counternames = [] then .error .unbound
  else getLoop pt instanceName instanceNr counternames s

/-- The loop of `f_counter_name_vals_get_n`. -/
def getNLoop (pt : Remote) (instanceName : Charstring) (counternames : CounterNameVals) :
    Nat → Nat → Session → Except Fault (CounterNameValsList × Session)
  | 0, _, s => .ok ([], s)
  | n + 1, instanceNr, s =>
      (fCounterNameValsGet pt instanceName instanceNr counternames s).bind fun r =>
      (getNLoop pt instanceName counternames n (instanceNr + 1) r.2).map fun rest =>
        (some r.1 :: rest.1, rest.2)

/-- Retrieve the first N instances' rate counter values of the given names.  What
    is in front of the first stays unbound, and without an instance all does. -/
def fCounterNameValsGetN (pt : Remote) (instanceName : Charstring) (instanceCount : Nat)
    (counternames : CounterNameVals) (startIdx : Nat) (s : Session) :
    Except Fault (CounterNameValsList × Session) :=
  if instanceCount = 0 then .error .unbound
  else (getNLoop pt instanceName counternames instanceCount startIdx s).map fun r =>
    (List.replicate startIdx none ++ r.1, r.2)

/-- What `f_counter_name_vals_add` and `f_counter_name_vals_set` do to the first
    counter of the name.  If there is none they append one. -/
def changeVal (countername : Charstring) (change : Int → Int) (val : Int) :
    CounterNameVals → CounterNameVals
  | [] => [{ name := countername, val := val }]
  | v :: vals =>
      if v.name = countername then { v with val := change v.val } :: vals
      else v :: changeVal countername change val vals

/-- In a list of one instance's counters, increment a specifically named
    counter. -/
def fCounterNameValsAdd (vals : CounterNameVals) (countername : Charstring) (val : Int) :
    CounterNameVals :=
  changeVal countername (fun old => old + val) val vals

/-- In a list of one instance's counters, set a specifically named counter to a
    specific value. -/
def fCounterNameValsSet (vals : CounterNameVals) (countername : Charstring) (val : Int) :
    CounterNameVals :=
  changeVal countername (fun _ => val) val vals

/-- A change of the list of one instance.  One that is not bound has no length. -/
def onInstance (vals : CounterNameValsList) (instanceNr : Nat)
    (change : CounterNameVals → CounterNameVals) : Except Fault CounterNameValsList :=
  match vals[instanceNr]? with
  | some (some counters) => .ok (vals.set instanceNr (some (change counters)))
  | _ => .error .unbound

/-- In a list of several instances' counters, increment a specific instance's
    specifically named counter. -/
def fCounterNameValsListAdd (vals : CounterNameValsList) (instanceNr : Nat)
    (countername : Charstring) (val : Int) : Except Fault CounterNameValsList :=
  onInstance vals instanceNr fun counters => fCounterNameValsAdd counters countername val

/-- In a list of several instances' counters, set a specific instance's
    specifically named counter to a specific value. -/
def fCounterNameValsListSet (vals : CounterNameValsList) (instanceNr : Nat)
    (countername : Charstring) (val : Int) : Except Fault CounterNameValsList :=
  onInstance vals instanceNr fun counters => fCounterNameValsSet counters countername val

/-- The comparison of `f_counter_name_vals_expect`. -/
def expectLoop : CounterNameVals → CounterNameVals → Except Fault Unit
  | last :: lasts, v :: vals =>
      if last.name ≠ v.name then .error (.shutdown "Internal error")
      else if last.val ≠ v.val then .error (.shutdown "Rate counter mismatch: ")
      else expectLoop lasts vals
  | [], _ :: _ => .error .badIndex
  | _, [] => .ok ()

/-- For a specific instance, call f_counter_name_vals_get() and compare with
    expected counter values. -/
def fCounterNameValsExpect (pt : Remote) (instanceName : Charstring) (instanceNr : Int)
    (vals : CounterNameVals) (s : Session) : Except Fault Session :=
  (fCounterNameValsGet pt instanceName instanceNr vals s).bind fun r =>
    (expectLoop r.1 vals).map fun _ => r.2

/-- The loop of `f_counter_name_vals_expect_n`. -/
def expectNLoop (pt : Remote) (instanceName : Charstring) :
    Nat → CounterNameValsList → Session → Except Fault Session
  | _, [], s => .ok s
  | instanceNr, vals :: valslist, s =>
      (bound vals).bind fun vals =>
      (fCounterNameValsExpect pt instanceName instanceNr vals s).bind fun s' =>
      expectNLoop pt instanceName (instanceNr + 1) valslist s'

/-- For N instances, call f_counter_name_vals_get() and compare with expected
    counter values. -/
def fCounterNameValsExpectN (pt : Remote) (instanceName : Charstring)
    (valslist : CounterNameValsList) (s : Session) : Except Fault Session :=
  expectNLoop pt instanceName 0 valslist s

/-- The name of a counter in a list of changes. -/
def changeName (instanceName : Charstring) (instanceNr : Int) (name : Charstring) : Charstring :=
  instanceName ++ '.' :: (int2str instanceNr ++ '.' :: name)

/-- The comparison of `f_counter_name_vals_get_changed`. -/
def changedLoop (instanceName : Charstring) (instanceNr : Int) :
    CounterNameVals → CounterNameVals → Except Fault (List Charstring)
  | last :: lasts, v :: vals =>
      if last.name ≠ v.name then .error (.shutdown "Internal error")
      else (changedLoop instanceName instanceNr lasts vals).map fun changed =>
        if last.val ≠ v.val then changeName instanceName instanceNr v.name :: changed else changed
  | [], _ :: _ => .error .badIndex
  | _, [] => .ok []

/-- Return list of the changed counter names in the order they appear in
    'vals'. -/
def fCounterNameValsGetChanged (pt : Remote) (instanceName : Charstring) (instanceNr : Int)
    (vals : CounterNameVals) (s : Session) : Except Fault (List Charstring × Session) :=
  (fCounterNameValsGet pt instanceName instanceNr vals s).bind fun r =>
    (changedLoop instanceName instanceNr r.1 vals).map fun changed => (changed, r.2)

/-- The loop of `f_counter_name_vals_get_changed_n`. -/
def changedNLoop (pt : Remote) (instanceName : Charstring) :
    Nat → CounterNameValsList → Session → Except Fault (List Charstring × Session)
  | _, [], s => .ok ([], s)
  | instanceNr, vals :: valslist, s =>
      (bound vals).bind fun vals =>
      (fCounterNameValsGetChanged pt instanceName instanceNr vals s).bind fun r =>
      (changedNLoop pt instanceName (instanceNr + 1) valslist r.2).map fun rest =>
        (r.1 ++ rest.1, rest.2)

/-- What of the first list is not in the second, each with a blank in front. -/
def notFound (others : List Charstring) : List Charstring → Charstring
  | [] => []
  | name :: names =>
      if others.contains name then notFound others names
      else ' ' :: name ++ notFound others names

/-- `f_counter_name_vals_expect_changed_list` -/
def fCounterNameValsExpectChangedList (gotList expectList : List Charstring) :
    Except Fault Unit :=
  let unexpectedChange := notFound expectList gotList
  let missingChange := notFound gotList expectList
  let diff := (if unexpectedChange.length > 0
      then " Unexpected changes in".toList ++ unexpectedChange ++ ";".toList else [])
    ++ (if missingChange.length > 0
      then " Missing changes in".toList ++ missingChange ++ ";".toList else [])
  if diff.length > 0 then
    .error (.shutdown "Rate counters did not change as expected:")
  else .ok ()

/-- `f_counter_name_vals_expect_changed` -/
def fCounterNameValsExpectChanged (pt : Remote) (instanceName : Charstring)
    (valslist : CounterNameValsList) (expectChanged : List Charstring) (s : Session) :
    Except Fault Session :=
  (changedNLoop pt instanceName 0 valslist s).bind fun r =>
    (fCounterNameValsExpectChangedList r.1 expectChanged).map fun _ => r.2

-- ── A program that answers ───────────────────────────────────────────────────

/-- The counters of a program by the names that the interface has for them. -/
abbrev Counters : Type := CtrlVariable → Option Int

/-- What is read of a counter: −1 if there is none. -/
def now (c : Counters) (grp : CtrlVariable) (inst : Int) (name : CtrlVariable) : Int :=
  (c (tsCtrlRatectr grp inst name)).getD (-1)

/-- A TRAP, which every alternative passes over. -/
def IsTrap : CtrlMessage → Prop
  | .trap _ _ => True
  | _ => False

instance : DecidablePred IsTrap
  | .trap _ _ => isTrue trivial
  | .getReply _ _ _ => isFalse id
  | .err _ _ => isFalse id
  | .other => isFalse id

/-- What answers a GET. -/
def Answers (c : Counters) (id : CtrlId) (var : CtrlVariable) (m : CtrlMessage) : Prop :=
  match c var with
  | some val => m = .getReply id var (int2str val)
  | none => ∃ reason, m = .err id reason

/-- The program answers every GET once, in time.  TRAPs may come at any time. -/
def Honest (c : Counters) (pt : Remote) : Prop :=
  ∀ n id var, ∃ traps answer traps', pt.sends n id var = traps ++ answer :: traps'
    ∧ (∀ m ∈ traps, IsTrap m) ∧ Answers c id var answer ∧ ∀ m ∈ traps', IsTrap m

/-- Nothing but TRAPs waits in the port. -/
def Quiet (s : Session) : Prop := ∀ m ∈ s.queue, IsTrap m

/-- Traps before the reply do not matter. -/
theorem getAlt_traps {id : CtrlId} {var : CtrlVariable} {onErr : Option CtrlValue}
    (traps rest : List CtrlMessage) (h : ∀ m ∈ traps, IsTrap m) :
    getAlt id var onErr (traps ++ rest) = getAlt id var onErr rest := by
  induction traps with
  | nil => rfl
  | cons m traps ih =>
      have htrap := h m List.mem_cons_self
      cases m with
      | trap var' val => exact ih fun m hm => h m (List.mem_cons_of_mem _ hm)
      | getReply id' var' val => exact htrap.elim
      | err id' reason => exact htrap.elim
      | other => exact htrap.elim

/-- The comparison with what was read comes out well iff every value is right. -/
theorem expectLoop_iff (read : Charstring → Int) (vals : CounterNameVals) :
    expectLoop (vals.map fun v => { v with val := read v.name }) vals = .ok ()
      ↔ ∀ v ∈ vals, read v.name = v.val := by
  induction vals with
  | nil => exact ⟨fun _ v hv => absurd hv List.not_mem_nil, fun _ => rfl⟩
  | cons v vals ih =>
      rw [List.map_cons, expectLoop, if_neg (fun h => h rfl), List.forall_mem_cons, ← ih]
      by_cases hv : read v.name = v.val
      · rw [if_neg (fun h => h hv)]
        exact ⟨fun h => ⟨hv, h⟩, fun h => h.2⟩
      · rw [if_pos hv]
        constructor
        · intro h
          cases h
        · intro h
          exact absurd h.1 hv

/-- A counter has changed iff another value was read. -/
theorem changedLoop_mem (grp : Charstring) (inst : Int) (read : Charstring → Int)
    (vals : CounterNameVals) :
    ∃ changed, changedLoop grp inst (vals.map fun v => { v with val := read v.name }) vals
        = .ok changed
      ∧ ∀ text, text ∈ changed
        ↔ ∃ v ∈ vals, read v.name ≠ v.val ∧ text = changeName grp inst v.name := by
  induction vals with
  | nil =>
      refine ⟨[], rfl, fun text => ⟨fun h => absurd h List.not_mem_nil, ?_⟩⟩
      rintro ⟨v, hv, -⟩
      exact absurd hv List.not_mem_nil
  | cons v vals ih =>
      obtain ⟨changed, hloop, hmem⟩ := ih
      rw [List.map_cons, changedLoop, if_neg (fun h => h rfl), hloop]
      refine ⟨if read v.name ≠ v.val then changeName grp inst v.name :: changed else changed, rfl,
        fun text => ?_⟩
      rw [List.exists_mem_cons_iff, ← hmem]
      by_cases hv : read v.name = v.val
      · rw [if_neg (fun h => h hv)]
        exact ⟨fun h => Or.inr h, fun h => h.resolve_left fun hl => hl.1 hv⟩
      · rw [if_pos hv, List.mem_cons]
        exact or_congr_left ⟨fun h => ⟨hv, h⟩, fun h => h.2⟩

section Reading

variable {c : Counters} {pt : Remote} (hpt : Honest c pt)

include hpt

/-- A GET gets what the program has, and leaves nothing but TRAPs behind. -/
theorem fCtrlGet_honest {s : Session} (hs : Quiet s) (var : CtrlVariable) (val : CtrlValue) :
    ∃ s', Quiet s'
      ∧ fCtrlGet pt s var (some val) = .ok (((c var).map int2str).getD val, s') := by
  obtain ⟨traps, answer, traps', hsends, htraps, hanswer, htraps'⟩ :=
    hpt s.gets (pt.randId s.gets) var
  refine ⟨{ gets := s.gets + 1, queue := traps' }, htraps', ?_⟩
  have hskip : getAlt (pt.randId s.gets) var (some val)
      (s.queue ++ pt.sends s.gets (pt.randId s.gets) var)
        = getAlt (pt.randId s.gets) var (some val) (answer :: traps') := by
    rw [hsends, getAlt_traps _ _ hs, getAlt_traps _ _ htraps]
  rw [fCtrlGet, hskip]
  rw [Answers] at hanswer
  cases hc : c var with
  | some v =>
      rw [hc] at hanswer
      rw [hanswer, getAlt, if_pos ⟨rfl, rfl⟩]
      rfl
  | none =>
      rw [hc] at hanswer
      obtain ⟨reason, rfl⟩ := hanswer
      rfl

/-- An honest program gives the counter as it stands. -/
theorem fCtrlGetRatectrAbs_honest {s : Session} (hs : Quiet s) (grp : CtrlVariable) (inst : Int)
    (name : CtrlVariable) :
    ∃ s', Quiet s' ∧ fCtrlGetRatectrAbs pt s grp inst name = .ok (now c grp inst name, s') := by
  obtain ⟨s', hs', hget⟩ :=
    fCtrlGet_honest hpt hs (tsCtrlRatectr grp inst name) "-1".toList
  refine ⟨s', hs', ?_⟩
  rw [fCtrlGetRatectrAbs, hget, now]
  show (str2int _).map _ = _
  cases c (tsCtrlRatectr grp inst name) with
  | some v =>
      show (str2int (int2str v)).map _ = _
      rw [str2int_int2str]
      rfl
  | none =>
      show (str2int (int2str (-1))).map _ = _
      rw [str2int_int2str]
      rfl

/-- What is read of the counters of an instance. -/
theorem getLoop_honest (grp : CtrlVariable) (inst : Int) (names : CounterNameVals) (s : Session)
    (hs : Quiet s) :
    ∃ s', Quiet s' ∧ getLoop pt grp inst names s
      = .ok (names.map fun v => { v with val := now c grp inst v.name }, s') := by
  induction names generalizing s with
  | nil => exact ⟨s, hs, rfl⟩
  | cons v names ih =>
      obtain ⟨s₁, hs₁, hget⟩ := fCtrlGetRatectrAbs_honest hpt hs grp inst v.name
      obtain ⟨s₂, hs₂, hrest⟩ := ih s₁ hs₁
      refine ⟨s₂, hs₂, ?_⟩
      rw [getLoop, hget]
      show (getLoop pt grp inst names s₁).map _ = _
      rw [hrest]
      rfl

/-- It gives all counters of an instance as they stand. -/
theorem fCounterNameValsGet_honest (grp : CtrlVariable) (inst : Int) {names : CounterNameVals}
    (hne : names ≠ []) {s : Session} (hs : Quiet s) :
    ∃ s', Quiet s' ∧ fCounterNameValsGet pt grp inst names s
      = .ok (names.map fun v => { v with val := now c grp inst v.name }, s') := by
  rw [fCounterNameValsGet, if_neg hne]
  exact getLoop_honest hpt grp inst names s hs

/-- It gives those of one instance after the other. -/
theorem getNLoop_honest (grp : CtrlVariable) {names : CounterNameVals} (hne : names ≠ [])
    (n first : Nat) (s : Session) (hs : Quiet s) :
    ∃ s', Quiet s' ∧ getNLoop pt grp names n first s
      = .ok ((List.range' first n).map fun inst =>
          some (names.map fun v => { v with val := now c grp inst v.name }), s') := by
  induction n generalizing first s with
  | zero => exact ⟨s, hs, rfl⟩
  | succ n ih =>
      obtain ⟨s₁, hs₁, hget⟩ := fCounterNameValsGet_honest hpt grp first hne hs
      obtain ⟨s₂, hs₂, hrest⟩ := ih (first + 1) s₁ hs₁
      refine ⟨s₂, hs₂, ?_⟩
      rw [getNLoop, hget]
      show (getNLoop pt grp names n (first + 1) s₁).map _ = _
      rw [hrest, List.range'_succ]
      rfl

/-- Against an honest program the counters themselves are compared. -/
theorem fCounterNameValsExpect_honest (grp : CtrlVariable) (inst : Int) {vals : CounterNameVals}
    (hne : vals ≠ []) {s : Session} (hs : Quiet s) :
    ∃ s', Quiet s' ∧ fCounterNameValsExpect pt grp inst vals s
      = (expectLoop (vals.map fun v => { v with val := now c grp inst v.name }) vals).map
          fun _ => s' := by
  obtain ⟨s', hs', hget⟩ := fCounterNameValsGet_honest hpt grp inst hne hs
  refine ⟨s', hs', ?_⟩
  rw [fCounterNameValsExpect, hget]
  rfl

/-- Every instance is bound and has a counter. -/
def Bound (valslist : CounterNameValsList) : Prop :=
  ∀ vals ∈ valslist, ∃ counters, vals = some counters ∧ counters ≠ []

/-- All instances from the first on come out well iff all their values are
    right. -/
theorem expectNLoop_iff (grp : CtrlVariable) (valslist : CounterNameValsList)
    (first : Nat) (s : Session) (hs : Quiet s) (hbound : Bound valslist) :
    (∃ s', expectNLoop pt grp first valslist s = .ok s')
      ↔ ∀ i counters, valslist[i]? = some (some counters) →
          ∀ v ∈ counters, now c grp (first + i : Nat) v.name = v.val := by
  induction valslist generalizing first s with
  | nil =>
      refine ⟨fun _ i counters h => ?_, fun _ => ⟨s, rfl⟩⟩
      cases h
  | cons vals valslist ih =>
      obtain ⟨counters, rfl, hne⟩ := hbound vals List.mem_cons_self
      obtain ⟨s₁, hs₁, hexpect⟩ := fCounterNameValsExpect_honest hpt grp first hne hs
      have hrest := ih (first + 1) s₁ hs₁ fun vals h => hbound vals (List.mem_cons_of_mem _ h)
      have hstep : expectNLoop pt grp first (some counters :: valslist) s
          = (expectLoop (counters.map fun v => { v with val := now c grp first v.name })
              counters).bind fun _ => expectNLoop pt grp (first + 1) valslist s₁ := by
        show (fCounterNameValsExpect pt grp first counters s).bind _ = _
        rw [hexpect]
        cases expectLoop (counters.map fun v => { v with val := now c grp first v.name })
          counters with
        | ok u => rfl
        | error e => rfl
      rw [hstep]
      constructor
      · rintro ⟨s', hok⟩
        cases hloop : expectLoop
            (counters.map fun v => { v with val := now c grp first v.name }) counters with
        | error e =>
            rw [hloop] at hok
            cases hok
        | ok u =>
            rw [hloop] at hok
            intro i counters' hi
            cases i with
            | zero =>
                cases hi
                exact (expectLoop_iff (now c grp first) counters).mp hloop
            | succ i =>
                have hright := hrest.mp ⟨s', hok⟩ i counters' hi
                rw [show first + 1 + i = first + (i + 1) by omega] at hright
                exact hright
      · intro hright
        have hhead := (expectLoop_iff (now c grp first) counters).mpr (hright 0 counters rfl)
        rw [hhead]
        refine hrest.mpr fun i counters' hi => ?_
        rw [show first + 1 + i = first + (i + 1) by omega]
        exact hright (i + 1) counters' hi

/-- What has changed in all instances from the first on. -/
theorem changedNLoop_mem (grp : CtrlVariable) (valslist : CounterNameValsList)
    (first : Nat) (s : Session) (hs : Quiet s) (hbound : Bound valslist) :
    ∃ changed s', changedNLoop pt grp first valslist s = .ok (changed, s')
      ∧ ∀ text, text ∈ changed ↔ ∃ i counters, valslist[i]? = some (some counters)
        ∧ ∃ v ∈ counters, now c grp (first + i : Nat) v.name ≠ v.val
          ∧ text = changeName grp (first + i : Nat) v.name := by
  induction valslist generalizing first s with
  | nil =>
      refine ⟨[], s, rfl, fun text => ⟨fun h => absurd h List.not_mem_nil, ?_⟩⟩
      rintro ⟨i, counters, hi, -⟩
      cases hi
  | cons vals valslist ih =>
      obtain ⟨counters, rfl, hne⟩ := hbound vals List.mem_cons_self
      obtain ⟨s₁, hs₁, hget⟩ := fCounterNameValsGet_honest hpt grp first hne hs
      obtain ⟨changed, hloop, hmem⟩ := changedLoop_mem grp first (now c grp first) counters
      obtain ⟨changed', s₂, hrest, hmem'⟩ :=
        ih (first + 1) s₁ hs₁ fun vals h => hbound vals (List.mem_cons_of_mem _ h)
      refine ⟨changed ++ changed', s₂, ?_, fun text => ?_⟩
      · show (fCounterNameValsGetChanged pt grp first counters s).bind _ = _
        rw [fCounterNameValsGetChanged, hget]
        show ((changedLoop grp first _ counters).map _).bind _ = _
        rw [hloop]
        show (changedNLoop pt grp (first + 1) valslist s₁).map _ = _
        rw [hrest]
        rfl
      · rw [List.mem_append, hmem, hmem']
        constructor
        · rintro (⟨v, hv, hne, rfl⟩ | ⟨i, counters', hi, v, hv, hne, rfl⟩)
          · exact ⟨0, counters, rfl, v, hv, hne, rfl⟩
          · rw [show first + 1 + i = first + (i + 1) by omega] at hne ⊢
            exact ⟨i + 1, counters', hi, v, hv, hne, rfl⟩
        · rintro ⟨i, counters', hi, v, hv, hne, rfl⟩
          cases i with
          | zero =>
              cases hi
              exact Or.inl ⟨v, hv, hne, rfl⟩
          | succ i =>
              rw [show first + (i + 1) = first + 1 + i by omega] at hne ⊢
              exact Or.inr ⟨i, counters', hi, v, hv, hne, rfl⟩

end Reading

-- ── What a test counts ───────────────────────────────────────────────────────

/-- What a test counts: an increment, or a new value. -/
inductive Count where
  | add (instanceNr : Nat) (countername : Charstring) (val : Int)
  | set (instanceNr : Nat) (countername : Charstring) (val : Int)
  deriving DecidableEq, Repr

/-- The instance that is counted. -/
def Count.instanceNr : Count → Nat
  | .add instanceNr _ _ => instanceNr
  | .set instanceNr _ _ => instanceNr

/-- One change of the expectation. -/
def count (vals : CounterNameValsList) : Count → Except Fault CounterNameValsList
  | .add instanceNr countername val => fCounterNameValsListAdd vals instanceNr countername val
  | .set instanceNr countername val => fCounterNameValsListSet vals instanceNr countername val

/-- The changes, one after the other. -/
def countAll : List Count → CounterNameValsList → Except Fault CounterNameValsList
  | [], vals => .ok vals
  | op :: ops, vals => (count vals op).bind (countAll ops)

/-- What the counters of the instances should be, those that one looks at. -/
abbrev Expected : Type := Nat → Charstring → Option Int

/-- The counter gets the value. -/
def Expected.put (m : Expected) (instanceNr : Nat) (name : Charstring) (val : Int) : Expected :=
  fun i n => if i = instanceNr ∧ n = name then some val else m i n

/-- A counter that one has not looked at counts from 0. -/
def Expected.count (m : Expected) : Count → Expected
  | .add instanceNr name val => m.put instanceNr name ((m instanceNr name).getD 0 + val)
  | .set instanceNr name val => m.put instanceNr name val

/-- The value of the first counter with the name. -/
def lookup (vals : CounterNameVals) (name : Charstring) : Option Int :=
  (vals.find? fun v => decide (v.name = name)).map CounterNameVal.val

/-- The first counter of a name is the one that is looked up. -/
theorem lookup_cons (v : CounterNameVal) (vals : CounterNameVals) (name : Charstring) :
    lookup (v :: vals) name = if v.name = name then some v.val else lookup vals name := by
  rw [lookup, List.find?_cons]
  by_cases hv : v.name = name
  · rw [if_pos hv, decide_eq_true hv]
    rfl
  · rw [if_neg hv, decide_eq_false hv]
    rfl

/-- Only the counter of the name changes. -/
theorem lookup_changeVal (name : Charstring) (change : Int → Int) (val : Int)
    (vals : CounterNameVals) (n : Charstring) :
    lookup (changeVal name change val vals) n
      = if n = name then some (((lookup vals name).map change).getD val) else lookup vals n := by
  induction vals with
  | nil =>
      rw [changeVal, lookup_cons]
      by_cases hn : n = name
      · rw [if_pos hn, if_pos hn.symm]
        rfl
      · rw [if_neg hn, if_neg fun h => hn h.symm]
  | cons v vals ih =>
      rw [changeVal]
      by_cases hv : v.name = name
      · rw [if_pos hv, lookup_cons, lookup_cons, lookup_cons, if_pos hv]
        by_cases hn : n = name
        · rw [if_pos (hv.trans hn.symm), if_pos hn]
          rfl
        · rw [if_neg fun h => hn (h.symm.trans hv), if_neg hn,
            if_neg fun h => hn (h.symm.trans hv)]
      · rw [if_neg hv, lookup_cons, ih, lookup_cons, lookup_cons, if_neg hv]
        by_cases hn : n = name
        · rw [if_pos hn, if_pos hn, if_neg fun h => hv (h.trans hn)]
        · rw [if_neg hn, if_neg hn]

/-- The names stay as they are, but for a new one. -/
theorem names_changeVal (name : Charstring) (change : Int → Int) (val : Int)
    (vals : CounterNameVals) :
    (changeVal name change val vals).map CounterNameVal.name
      = if name ∈ vals.map CounterNameVal.name then vals.map CounterNameVal.name
        else vals.map CounterNameVal.name ++ [name] := by
  induction vals with
  | nil => rfl
  | cons v vals ih =>
      rw [changeVal]
      by_cases hv : v.name = name
      · rw [if_pos hv, List.map_cons, List.map_cons,
          if_pos (List.mem_cons.mpr (Or.inl hv.symm))]
      · rw [if_neg hv, List.map_cons, List.map_cons, ih]
        by_cases hname : name ∈ vals.map CounterNameVal.name
        · rw [if_pos hname, if_pos (List.mem_cons_of_mem _ hname)]
        · have hnot : name ∉ v.name :: vals.map CounterNameVal.name := fun h =>
            (List.mem_cons.mp h).elim (fun h => hv h.symm) hname
          rw [if_neg hname, if_neg hnot, List.cons_append]

/-- **ONE INSTANCE**: it has a counter, no name twice, and the values that the
    map gives. -/
structure Holds (m : Charstring → Option Int) (counters : CounterNameVals) : Prop where
  bound : counters ≠ []
  names : (counters.map CounterNameVal.name).Nodup
  vals : ∀ name, lookup counters name = m name

/-- A change reaches the counter of that name and no other. -/
theorem Holds.changeVal {m : Charstring → Option Int} {counters : CounterNameVals}
    (h : Holds m counters) (name : Charstring) (change : Int → Int) (val : Int) :
    Holds (fun n => if n = name then some (((m name).map change).getD val) else m n)
      (changeVal name change val counters) := by
  constructor
  case bound =>
    intro hnil
    have hnames := names_changeVal name change val counters
    rw [hnil] at hnames
    by_cases hname : name ∈ counters.map CounterNameVal.name
    · rw [if_pos hname] at hnames
      exact h.bound (List.map_eq_nil_iff.mp hnames.symm)
    · rw [if_neg hname] at hnames
      exact List.append_ne_nil_of_right_ne_nil _ (List.cons_ne_nil _ _) hnames.symm
  case names =>
    rw [names_changeVal]
    by_cases hname : name ∈ counters.map CounterNameVal.name
    · rw [if_pos hname]
      exact h.names
    · rw [if_neg hname]
      exact List.nodup_append.mpr ⟨h.names, List.nodup_singleton name, fun a ha b hb heq =>
        hname (by rw [← List.mem_singleton.mp hb, ← heq]; exact ha)⟩
  case vals =>
    intro n
    rw [lookup_changeVal, h.vals name, h.vals n]

/-- Where no name comes twice, what one finds is what is in the list. -/
theorem Holds.mem_iff {m : Charstring → Option Int} {counters : CounterNameVals}
    (h : Holds m counters) (P : Charstring → Int → Prop) :
    (∀ v ∈ counters, P v.name v.val) ↔ ∀ name val, m name = some val → P name val := by
  constructor
  · intro hall name val hm
    rw [← h.vals, lookup, Option.map_eq_some_iff] at hm
    obtain ⟨v, hfind, rfl⟩ := hm
    have hname : v.name = name := by simpa using List.find?_some hfind
    rw [← hname]
    exact hall v (List.mem_of_find?_eq_some hfind)
  · intro hall v hv
    refine hall v.name v.val ?_
    rw [← h.vals, lookup, Option.map_eq_some_iff]
    cases hfind : counters.find? fun w => decide (w.name = v.name) with
    | none => exact absurd (decide_eq_true rfl) (List.find?_eq_none.mp hfind v hv)
    | some w =>
        have hname : w.name = v.name := by simpa using List.find?_some hfind
        have hw : w ∈ counters := List.mem_of_find?_eq_some hfind
        exact ⟨w, rfl, congrArg _ (List.inj_on_of_nodup_map h.names hw hv hname)⟩

/-- Every instance holds what is expected of it. -/
structure Keeps (n : Nat) (m : Expected) (vals : CounterNameValsList) : Prop where
  length : vals.length = n
  holds : ∀ i < n, ∃ counters, vals[i]? = some (some counters) ∧ Holds (m i) counters

/-- All instances have their counters. -/
theorem Keeps.bound {n : Nat} {m : Expected} {vals : CounterNameValsList}
    (h : Keeps n m vals) : Bound vals := by
  intro counters hmem
  obtain ⟨i, hi, hget⟩ := List.getElem_of_mem hmem
  obtain ⟨counters', hsome, hholds⟩ := h.holds i (h.length ▸ hi)
  rw [List.getElem?_eq_getElem hi, hget] at hsome
  exact ⟨counters', Option.some.inj hsome, hholds.bound⟩

/-- A change reaches that instance and no other. -/
theorem Keeps.onInstance {n : Nat} {m : Expected} {vals : CounterNameValsList}
    (h : Keeps n m vals) {inst : Nat} (hinst : inst < n) (name : Charstring) (change : Int → Int)
    (val : Int) :
    ∃ vals', onInstance vals inst (changeVal name change val) = .ok vals'
      ∧ Keeps n (m.put inst name (((m inst name).map change).getD val)) vals' := by
  obtain ⟨counters, hget, hholds⟩ := h.holds inst hinst
  refine ⟨vals.set inst (some (changeVal name change val counters)), ?_, ?_, ?_⟩
  · rw [OsmoCtrl.onInstance, hget]
  · rw [List.length_set, h.length]
  · intro i hi
    rw [List.getElem?_set]
    by_cases heq : inst = i
    · subst heq
      rw [if_pos rfl, if_pos (h.length.symm ▸ hinst)]
      refine ⟨_, rfl, ?_⟩
      have hrow : m.put inst name (((m inst name).map change).getD val) inst
          = fun n => if n = name then some (((m inst name).map change).getD val)
              else m inst n := by
        funext n
        rw [Expected.put]
        by_cases hn : n = name
        · rw [if_pos ⟨rfl, hn⟩, if_pos hn]
        · rw [if_neg fun h => hn h.2, if_neg hn]
      rw [hrow]
      exact hholds.changeVal name change val
    · rw [if_neg heq]
      have hrow : m.put inst name (((m inst name).map change).getD val) i = m i := by
        funext n
        rw [Expected.put, if_neg fun h => heq h.1.symm]
      rw [hrow]
      exact h.holds i hi

/-- **A COUNT** of an instance that was looked at goes through. -/
theorem Keeps.count {n : Nat} {m : Expected} {vals : CounterNameValsList} (h : Keeps n m vals)
    {op : Count} (hinst : op.instanceNr < n) :
    ∃ vals', count vals op = .ok vals' ∧ Keeps n (m.count op) vals' := by
  cases op with
  | add inst name val =>
      obtain ⟨vals', hok, hkeeps⟩ := h.onInstance hinst name (fun old => old + val) val
      have hval : ((m inst name).map fun old => old + val).getD val
          = (m inst name).getD 0 + val := by
        cases m inst name with
        | none => exact (zero_add val).symm
        | some old => rfl
      rw [Count.instanceNr, hval] at hkeeps
      exact ⟨vals', hok, hkeeps⟩
  | set inst name val =>
      obtain ⟨vals', hok, hkeeps⟩ := h.onInstance hinst name (fun _ => val) val
      have hval : ((m inst name).map fun _ => val).getD val = val := by
        cases m inst name with
        | none => rfl
        | some old => rfl
      rw [Count.instanceNr, hval] at hkeeps
      exact ⟨vals', hok, hkeeps⟩

/-- **ANY SEQUENCE OF CHANGES** of instances that exist succeeds and is kept. -/
theorem Keeps.countAll {n : Nat} (ops : List Count) {m : Expected} {vals : CounterNameValsList}
    (h : Keeps n m vals) (hinst : ∀ op ∈ ops, op.instanceNr < n) :
    ∃ vals', countAll ops vals = .ok vals' ∧ Keeps n (ops.foldl Expected.count m) vals' := by
  induction ops generalizing m vals with
  | nil => exact ⟨vals, rfl, h⟩
  | cons op ops ih =>
      obtain ⟨vals₁, hok, hkeeps⟩ := h.count (hinst op List.mem_cons_self)
      obtain ⟨vals', hok', hkeeps'⟩ := ih hkeeps fun op hop => hinst op (List.mem_cons_of_mem _ hop)
      refine ⟨vals', ?_, hkeeps'⟩
      rw [OsmoCtrl.countAll, hok]
      exact hok'

/-- What one has looked at before one counts. -/
def looked (c : Counters) (grp : CtrlVariable) (names : CounterNameVals) : Expected :=
  fun i name =>
    if (names.map CounterNameVal.name).contains name then some (now c grp i name) else none

/-- A counter that was looked at has the value of the program. -/
theorem lookup_looked (c : Counters) (grp : CtrlVariable) (inst : Nat) (names : CounterNameVals)
    (name : Charstring) :
    lookup (names.map fun v => { v with val := now c grp inst v.name }) name
      = looked c grp names inst name := by
  rw [looked]
  induction names with
  | nil => rfl
  | cons v names ih =>
      rw [List.map_cons, lookup_cons, List.map_cons]
      by_cases hv : v.name = name
      · rw [if_pos hv, hv, if_pos (List.contains_iff_mem.mpr List.mem_cons_self)]
      · have hiff : (names.map CounterNameVal.name).contains name = true
            ↔ (v.name :: names.map CounterNameVal.name).contains name = true := by
          rw [List.contains_iff_mem, List.contains_iff_mem, List.mem_cons]
          exact ⟨Or.inr, fun h => h.resolve_left fun heq => hv heq.symm⟩
        rw [if_neg hv, ih]
        exact if_congr hiff rfl rfl

/-- A single counter was looked at. -/
theorem looked_one (c : Counters) (grp : CtrlVariable) (counter name : Charstring) (i : Nat) :
    looked c grp [⟨counter, 0⟩] i name
      = if name = counter then some (now c grp i name) else none :=
  if_congr (List.contains_iff_mem.trans List.mem_singleton) rfl rfl

/-- **A BASELINE** is what the program has. -/
theorem getN_keeps {c : Counters} {pt : Remote} (hpt : Honest c pt) (grp : CtrlVariable)
    {names : CounterNameVals} (hne : names ≠ [])
    (hnames : (names.map CounterNameVal.name).Nodup) {n : Nat} (hn : n ≠ 0)
    {s : Session} (hs : Quiet s) :
    ∃ vals s', fCounterNameValsGetN pt grp n names 0 s = .ok (vals, s') ∧ Quiet s'
      ∧ Keeps n (looked c grp names) vals := by
  obtain ⟨s', hs', hget⟩ := getNLoop_honest hpt grp hne n 0 s hs
  refine ⟨(List.range' 0 n).map fun inst : Nat =>
    some (names.map fun v => { v with val := now c grp inst v.name }), s', ?_, hs', ?_⟩
  · rw [fCounterNameValsGetN, if_neg hn, hget]
    rfl
  · refine ⟨?_, fun i hi => ⟨names.map fun v => { v with val := now c grp i v.name }, ?_, ?_⟩⟩
    · rw [List.length_map, List.length_range']
    · rw [List.getElem?_map, List.getElem?_range' hi]
      show some (some _) = _
      rw [Nat.zero_add, Nat.one_mul]
    · refine ⟨fun hnil => hne (List.map_eq_nil_iff.mp hnil), ?_, lookup_looked c grp i names⟩
      rw [List.map_map]
      exact hnames

-- ── Names of changes ─────────────────────────────────────────────────────────

/-- The first separator tells where a text without it ends. -/
theorem append_cons_inj {d : Char} {p q : Charstring} {s t : Charstring} (hp : d ∉ p) (hq : d ∉ q)
    (h : p ++ d :: s = q ++ d :: t) : p = q ∧ s = t := by
  induction p generalizing q with
  | nil =>
      cases q with
      | nil => exact ⟨rfl, List.tail_eq_of_cons_eq h⟩
      | cons a q => exact absurd (List.mem_cons.mpr (Or.inl (List.head_eq_of_cons_eq h))) hq
  | cons a p ih =>
      cases q with
      | nil => exact absurd (List.mem_cons.mpr (Or.inl (List.head_eq_of_cons_eq h).symm)) hp
      | cons b q =>
          obtain ⟨hhead, htail⟩ := List.cons.inj h
          obtain ⟨hpq, hst⟩ := ih (fun hd => hp (List.mem_cons_of_mem _ hd))
            (fun hd => hq (List.mem_cons_of_mem _ hd)) htail
          exact ⟨by rw [hhead, hpq], hst⟩

/-- Two numbers of one text are the same. -/
theorem int2str_inj {m n : Int} (h : int2str m = int2str n) : m = n := by
  have hm := str2int_int2str m
  rw [h, str2int_int2str] at hm
  exact (Except.ok.inj hm).symm

/-- The name of a change tells the instance and the counter. -/
theorem changeName_inj {grp : Charstring} {inst inst' : Int} {name name' : Charstring}
    (h : changeName grp inst name = changeName grp inst' name') : inst = inst' ∧ name = name' := by
  have htail := List.tail_eq_of_cons_eq (List.append_cancel_left h)
  obtain ⟨hinst, hname⟩ := append_cons_inj (int2str_notMem inst (by decide) (by decide))
    (int2str_notMem inst' (by decide) (by decide)) htail
  exact ⟨int2str_inj hinst, hname⟩

/-- Nothing is missing if all names are among the others. -/
theorem notFound_nil_iff (others names : List Charstring) :
    notFound others names = [] ↔ ∀ name ∈ names, name ∈ others := by
  induction names with
  | nil => exact ⟨fun _ name h => absurd h List.not_mem_nil, fun _ => rfl⟩
  | cons name names ih =>
      rw [notFound, List.forall_mem_cons]
      by_cases hname : name ∈ others
      · rw [if_pos (List.contains_iff_mem.mpr hname), ih]
        exact ⟨fun h => ⟨hname, h⟩, fun h => h.2⟩
      · rw [if_neg fun h => hname (List.contains_iff_mem.mp h)]
        exact ⟨fun h => absurd h (List.cons_ne_nil _ _), fun h => absurd h.1 hname⟩

/-- What changed is what was expected to. -/
theorem fCounterNameValsExpectChangedList_iff (gotList expectList : List Charstring) :
    fCounterNameValsExpectChangedList gotList expectList = .ok ()
      ↔ ∀ name, name ∈ gotList ↔ name ∈ expectList := by
  have hboth : (∀ name, name ∈ gotList ↔ name ∈ expectList)
      ↔ notFound expectList gotList = [] ∧ notFound gotList expectList = [] := by
    rw [notFound_nil_iff, notFound_nil_iff]
    exact ⟨fun h => ⟨fun name => (h name).mp, fun name => (h name).mpr⟩,
      fun h name => ⟨h.1 name, h.2 name⟩⟩
  rw [hboth, fCounterNameValsExpectChangedList]
  by_cases hun : notFound expectList gotList = []
  · by_cases hmiss : notFound gotList expectList = []
    · rw [hun, hmiss]
      exact ⟨fun _ => ⟨rfl, rfl⟩, fun _ => rfl⟩
    · have hpos : (notFound gotList expectList).length > 0 := List.length_pos_iff.mpr hmiss
      rw [if_pos (by
        rw [List.length_append, if_pos hpos, List.length_append, List.length_append]
        omega)]
      constructor
      · intro h
        cases h
      · intro h
        exact absurd h.2 hmiss
  · have hpos : (notFound expectList gotList).length > 0 := List.length_pos_iff.mpr hun
    rw [if_pos (by
      rw [List.length_append, if_pos hpos, List.length_append, List.length_append]
      omega)]
    constructor
    · intro h
      cases h
    · intro h
      exact absurd h.1 hun

-- ── The test and the program ─────────────────────────────────────────────────

/-- What comes out well of a list that keeps what is expected. -/
theorem Keeps.expect_iff {c : Counters} {pt : Remote} (hpt : Honest c pt) {grp : CtrlVariable}
    {n : Nat} {m : Expected} {vals : CounterNameValsList} (h : Keeps n m vals) {s : Session}
    (hs : Quiet s) :
    (∃ s', fCounterNameValsExpectN pt grp vals s = .ok s')
      ↔ ∀ i < n, ∀ name val, m i name = some val → now c grp i name = val := by
  rw [fCounterNameValsExpectN, expectNLoop_iff hpt grp vals 0 s hs h.bound]
  constructor
  · intro hall i hi
    obtain ⟨counters, hget, hholds⟩ := h.holds i hi
    refine (hholds.mem_iff fun name val => now c grp i name = val).mp fun v hv => ?_
    have hval := hall i counters hget v hv
    rw [Nat.zero_add] at hval
    exact hval
  · intro hall i counters hget
    have hi : i < n := h.length ▸ (List.getElem?_eq_some_iff.mp hget).1
    obtain ⟨counters', hget', hholds⟩ := h.holds i hi
    obtain rfl : counters = counters' := Option.some.inj (Option.some.inj (hget.symm.trans hget'))
    rw [Nat.zero_add]
    exact (hholds.mem_iff fun name val => now c grp i name = val).mpr (hall i hi)

/-- **COUNTED RIGHT**: a test looks at the counters, counts, and compares.  The
    comparison comes out well iff every counter is what the test makes it: what it
    was, or 0 if the test had not looked at it, and what was counted since. -/
theorem counters_agree {c c' : Counters} {pt pt' : Remote} (hpt : Honest c pt)
    (hpt' : Honest c' pt') (grp : CtrlVariable) (names : CounterNameVals) (hne : names ≠ [])
    (hnames : (names.map CounterNameVal.name).Nodup) {n : Nat} (hn : n ≠ 0) (ops : List Count)
    (hops : ∀ op ∈ ops, op.instanceNr < n) {s s' : Session} (hs : Quiet s) (hs' : Quiet s') :
    ∃ vals s₁ vals', fCounterNameValsGetN pt grp n names 0 s = .ok (vals, s₁)
      ∧ countAll ops vals = .ok vals'
      ∧ ((∃ s₂, fCounterNameValsExpectN pt' grp vals' s' = .ok s₂)
        ↔ ∀ i < n, ∀ name val,
            ops.foldl Expected.count (looked c grp names) i name = some val →
              now c' grp i name = val) := by
  obtain ⟨vals, s₁, hget, -, hkeeps⟩ := getN_keeps hpt grp hne hnames hn hs
  obtain ⟨vals', hcount, hkeeps'⟩ := hkeeps.countAll ops hops
  exact ⟨vals, s₁, vals', hget, hcount, hkeeps'.expect_iff hpt' hs'⟩

/-- One counter of the first instance, and no other. -/
def oneCounter (val : Int) : Counters :=
  fun var => if var = tsCtrlRatectr "msc".toList 0 "new".toList then some val else none

/-- A TRAP comes in front of every answer. -/
def plainRemote (c : Counters) : Remote where
  randId := fun n => int2str n
  sends := fun _ id var =>
    [.trap "state".toList "up".toList,
      match c var with
      | some val => .getReply id var (int2str val)
      | none => .err id "Error while resolving object".toList]

/-- The program that answers at once is honest. -/
theorem plainRemote_honest (c : Counters) : Honest c (plainRemote c) := by
  intro n id var
  refine ⟨[.trap "state".toList "up".toList], _, [], rfl, ?_, ?_, ?_⟩
  · intro m hm
    rw [List.mem_singleton.mp hm]
    exact trivial
  · rw [Answers]
    cases c var with
    | some val => rfl
    | none => exact ⟨_, rfl⟩
  · intro m hm
    exact absurd hm List.not_mem_nil

/-- No message is waiting at the start. -/
theorem quiet_start : Quiet { gets := 0, queue := [] } := fun _ hm => absurd hm List.not_mem_nil

/-- The counter goes from 4 to 7 and the test counts 3, and 1 that there is not. -/
theorem counters_agree_msc : ∃ vals s₁ vals',
    fCounterNameValsGetN (plainRemote (oneCounter 4)) "msc".toList 1 [⟨"new".toList, 0⟩] 0
      { gets := 0, queue := [] } = .ok (vals, s₁)
    ∧ countAll [.add 0 "new".toList 3, .set 0 "lost".toList (-1)] vals = .ok vals'
    ∧ ∃ s₂, fCounterNameValsExpectN (plainRemote (oneCounter 7)) "msc".toList vals'
      { gets := 0, queue := [] } = .ok s₂ := by
  obtain ⟨vals, s₁, vals', hget, hcount, hiff⟩ := counters_agree (plainRemote_honest (oneCounter 4))
    (plainRemote_honest (oneCounter 7)) "msc".toList [⟨"new".toList, 0⟩]
    (List.cons_ne_nil _ _) (List.nodup_singleton _) Nat.one_ne_zero
    [.add 0 "new".toList 3, .set 0 "lost".toList (-1)] (by decide) quiet_start quiet_start
  refine ⟨vals, s₁, vals', hget, hcount, hiff.mpr fun i hi name val hm => ?_⟩
  obtain rfl : i = 0 := by omega
  have hm : (if 0 = 0 ∧ name = "lost".toList then some (-1)
      else if 0 = 0 ∧ name = "new".toList then some (4 + 3)
      else looked (oneCounter 4) "msc".toList [⟨"new".toList, 0⟩] 0 name) = some val := hm
  by_cases hlost : name = "lost".toList
  · rw [if_pos ⟨rfl, hlost⟩] at hm
    rw [← Option.some.inj hm, hlost]
    decide
  · rw [if_neg fun h => hlost h.2] at hm
    by_cases hnew : name = "new".toList
    · rw [if_pos ⟨rfl, hnew⟩] at hm
      rw [← Option.some.inj hm, hnew]
      decide
    · rw [if_neg fun h => hnew h.2, looked_one, if_neg hnew] at hm
      cases hm

/-- What changed of a list that keeps what is expected. -/
theorem Keeps.changed_iff {c : Counters} {pt : Remote} (hpt : Honest c pt) {grp : CtrlVariable}
    {n : Nat} {m : Expected} {vals : CounterNameValsList} (h : Keeps n m vals)
    (expectChanged : List Charstring) {s : Session} (hs : Quiet s) :
    (∃ s', fCounterNameValsExpectChanged pt grp vals expectChanged s = .ok s')
      ↔ (∀ i < n, ∀ name val, m i name = some val →
          (changeName grp i name ∈ expectChanged ↔ now c grp i name ≠ val))
        ∧ ∀ text ∈ expectChanged, ∃ i < n, ∃ name, (m i name).isSome = true
          ∧ text = changeName grp i name := by
  obtain ⟨changed, s₁, hloop, hmem⟩ := changedNLoop_mem hpt grp vals 0 s hs h.bound
  have hchanged : ∀ text, text ∈ changed ↔ ∃ i < n, ∃ name val, m i name = some val
      ∧ now c grp i name ≠ val ∧ text = changeName grp i name := by
    intro text
    rw [hmem]
    constructor
    · rintro ⟨i, counters, hget, v, hv, hne, htext⟩
      rw [Nat.zero_add] at hne htext
      have hi : i < n := h.length ▸ (List.getElem?_eq_some_iff.mp hget).1
      obtain ⟨counters', hget', hholds⟩ := h.holds i hi
      obtain rfl : counters = counters' :=
        Option.some.inj (Option.some.inj (hget.symm.trans hget'))
      have hall := (hholds.mem_iff fun name val => m i name = some val).mpr fun _ _ hm => hm
      exact ⟨i, hi, v.name, v.val, hall v hv, hne, htext⟩
    · rintro ⟨i, hi, name, val, hm, hne, htext⟩
      obtain ⟨counters, hget, hholds⟩ := h.holds i hi
      by_contra hno
      refine (hholds.mem_iff fun name val =>
        ¬ (now c grp i name ≠ val ∧ text = changeName grp i name)).mp (fun v hv hv' => hno ?_)
        name val hm ⟨hne, htext⟩
      refine ⟨i, counters, hget, v, hv, ?_⟩
      rw [Nat.zero_add]
      exact hv'
  have hverdict : (∃ s', fCounterNameValsExpectChanged pt grp vals expectChanged s = .ok s')
      ↔ ∀ text, text ∈ changed ↔ text ∈ expectChanged := by
    rw [← fCounterNameValsExpectChangedList_iff, fCounterNameValsExpectChanged, hloop]
    show (∃ s', (fCounterNameValsExpectChangedList changed expectChanged).map _ = .ok s') ↔ _
    cases fCounterNameValsExpectChangedList changed expectChanged with
    | ok u => exact ⟨fun _ => rfl, fun _ => ⟨s₁, rfl⟩⟩
    | error e =>
        constructor
        · rintro ⟨s', hs'⟩
          cases hs'
        · intro hok
          cases hok
  rw [hverdict]
  constructor
  · intro hsame
    refine ⟨fun i hi name val hm => ?_, fun text htext => ?_⟩
    · rw [← hsame, hchanged]
      constructor
      · rintro ⟨i', -, name', val', hm', hne, heq⟩
        obtain ⟨hi', hname⟩ := changeName_inj heq
        obtain rfl : i = i' := Int.ofNat.inj hi'
        subst hname
        rw [hm] at hm'
        rw [Option.some.inj hm']
        exact hne
      · intro hne
        exact ⟨i, hi, name, val, hm, hne, rfl⟩
    · obtain ⟨i, hi, name, val, hm, -, heq⟩ := (hchanged text).mp ((hsame text).mpr htext)
      exact ⟨i, hi, name, by rw [hm]; rfl, heq⟩
  · rintro ⟨hiff, hlisted⟩ text
    rw [hchanged]
    constructor
    · rintro ⟨i, hi, name, val, hm, hne, rfl⟩
      exact (hiff i hi name val hm).mpr hne
    · intro htext
      obtain ⟨i, hi, name, hsome, rfl⟩ := hlisted text htext
      obtain ⟨val, hm⟩ := Option.isSome_iff_exists.mp hsome
      exact ⟨i, hi, name, val, hm, (hiff i hi name val hm).mp htext, rfl⟩

/-- **CHANGED AS EXPECTED**: the names that a test expects are those of the
    counters that are not what the test makes them, each told apart from every
    other by the instance and its own name. -/
theorem counters_changed {c c' : Counters} {pt pt' : Remote} (hpt : Honest c pt)
    (hpt' : Honest c' pt') (grp : CtrlVariable) (names : CounterNameVals) (hne : names ≠ [])
    (hnames : (names.map CounterNameVal.name).Nodup) {n : Nat} (hn : n ≠ 0) (ops : List Count)
    (hops : ∀ op ∈ ops, op.instanceNr < n) (expectChanged : List Charstring)
    {s s' : Session} (hs : Quiet s) (hs' : Quiet s') :
    ∃ vals s₁ vals', fCounterNameValsGetN pt grp n names 0 s = .ok (vals, s₁)
      ∧ countAll ops vals = .ok vals'
      ∧ ((∃ s₂, fCounterNameValsExpectChanged pt' grp vals' expectChanged s' = .ok s₂)
        ↔ (∀ i < n, ∀ name val,
            ops.foldl Expected.count (looked c grp names) i name = some val →
              (changeName grp i name ∈ expectChanged ↔ now c' grp i name ≠ val))
          ∧ ∀ text ∈ expectChanged, ∃ i < n, ∃ name,
            (ops.foldl Expected.count (looked c grp names) i name).isSome = true
              ∧ text = changeName grp i name) := by
  obtain ⟨vals, s₁, hget, -, hkeeps⟩ := getN_keeps hpt grp hne hnames hn hs
  obtain ⟨vals', hcount, hkeeps'⟩ := hkeeps.countAll ops hops
  exact ⟨vals, s₁, vals', hget, hcount, hkeeps'.changed_iff hpt' expectChanged hs'⟩

/-- The counter goes from 4 to 7, which is the change that is expected. -/
theorem counters_changed_msc : ∃ vals s₁ vals',
    fCounterNameValsGetN (plainRemote (oneCounter 4)) "msc".toList 1 [⟨"new".toList, 0⟩] 0
      { gets := 0, queue := [] } = .ok (vals, s₁)
    ∧ countAll [] vals = .ok vals'
    ∧ ∃ s₂, fCounterNameValsExpectChanged (plainRemote (oneCounter 7)) "msc".toList vals'
      ["msc.0.new".toList] { gets := 0, queue := [] } = .ok s₂ := by
  obtain ⟨vals, s₁, vals', hget, hcount, hiff⟩ :=
    counters_changed (plainRemote_honest (oneCounter 4)) (plainRemote_honest (oneCounter 7))
      "msc".toList [⟨"new".toList, 0⟩] (List.cons_ne_nil _ _) (List.nodup_singleton _)
      Nat.one_ne_zero [] (fun op hop => absurd hop List.not_mem_nil)
      ["msc.0.new".toList] quiet_start quiet_start
  refine ⟨vals, s₁, vals', hget, hcount, hiff.mpr ⟨fun i hi name val hm => ?_, fun text ht => ?_⟩⟩
  · obtain rfl : i = 0 := by omega
    rw [List.foldl_nil, looked_one] at hm
    by_cases hnew : name = "new".toList
    · rw [if_pos hnew] at hm
      rw [← Option.some.inj hm, hnew]
      decide
    · rw [if_neg hnew] at hm
      cases hm
  · exact ⟨0, Nat.one_pos, "new".toList, by decide, List.mem_singleton.mp ht⟩

end OsmoCtrl
