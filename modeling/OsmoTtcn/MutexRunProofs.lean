import OsmoTtcn.MutexProofs

/-! # What the mutex guarantees

    Whatever the components do, in whatever order their calls arrive, the
    sections between `f_Mutex_lock` and `f_Mutex_unlock` do not overlap, and
    the lock is granted once for every call, in the order of the calls.  Where
    every component unlocks what it locked and only that, the dispatcher finds
    no fault, and a component that waits is served as soon as the others let
    it be. -/

namespace OsmoMutex

open CriticalSection OsmoTitan RunGuard

variable {C : Type}

-- ── Sections ─────────────────────────────────────────────────────────────────

/-- What is seen that enters or leaves a section. -/
def Seen.act : Seen C → Option (Act C)
  | .entered c _ => some (.enter c)
  | .left c _ => some (.leave c)
  | .asked _ | .granted _ _ => none

/-- The sections of a run. -/
def acts (os : List (Option (Seen C))) : List (Act C) :=
  os.flatMap (fun o => (o.bind Seen.act).toList)

variable [DecidableEq C]

/-- Nobody else holds the mutex. -/
theorem Inv.holds_unique {s : Sys C} (hI : Inv s) {c d : C} (hc : Holds s c)
    (hd : Holds s d) : c = d :=
  hI.owner c d (Or.inl hc.1) (Or.inl hd.1)

/-- The holder moves as what is seen of an event says. -/
theorem holder_moves {s s' : Sys C} {e : Event C} {o : Option (Seen C)} (hI : Inv s)
    (h : Does s e s' o) {holder : Option C} (hh : ∀ c, holder = some c ↔ Holds s c) :
    ∃ holder', Moves holder (o.bind Seen.act) holder' ∧
      ∀ c, holder' = some c ↔ Holds s' c := by
  have same : (∀ c, Holds s' c ↔ Holds s c) → o.bind Seen.act = none →
      ∃ holder', Moves holder (o.bind Seen.act) holder' ∧
        ∀ c, holder' = some c ↔ Holds s' c := by
    intro hsame hnone
    rw [hnone]
    exact ⟨holder, rfl, fun c => (hh c).trans (hsame c).symm⟩
  cases h with
  | nothing => exact same (fun _ => Iff.rfl) rfl
  | call c hphase =>
      refine same (fun d => ?_) rfl
      simp [Holds, Unlocking]
      grind
  | callArrives c n hn =>
      refine same (fun d => ?_) rfl
      simp [Holds, Unlocking]
      grind
  | grant c rest hlocked hLOCK =>
      refine same (fun d => ?_) rfl
      simp [Holds, Unlocking]
      grind
  | release c rest hlocked hUNLOCK =>
      -- the caller no longer holds it, and nobody knows the next reference
      have hun : Unlocking s c s.disp.g_mutex_ref := by
        rw [Unlocking, hUNLOCK]
        exact Or.inr List.mem_cons_self
      refine same (fun d => iff_of_false ?_ ?_) rfl
      · rintro ⟨href, -⟩
        have hle : s.disp.g_mutex_ref + 1 ≤ s.disp.g_mutex_ref := hI.le (c := d) (Or.inl href)
        omega
      · intro hd
        have hcd := hI.owner c d (Or.inr (Or.inr hun)) (Or.inl hd.1)
        exact hd.2 (hcd ▸ hun)
  | returns c ref rest hphase hreplies =>
      have hmem : ref ∈ (s.comp c).replies := hreplies ▸ List.mem_cons_self
      obtain ⟨rfl, hne, hnot⟩ := hI.reply c ref hmem
      have hfree : ∀ d, ¬ Holds s d := by
        intro d hd
        have hcd := hI.owner c d (Or.inr (Or.inl hmem)) (Or.inl hd.1)
        exact hne (hcd ▸ hd.1)
      have hnone : holder = none :=
        Option.eq_none_iff_forall_ne_some.mpr fun d h => hfree d ((hh d).mp h)
      refine ⟨some c, ⟨hnone, rfl⟩, fun d => ?_⟩
      have hd := hfree d
      simp [Holds, Unlocking] at hd hnot ⊢
      grind
  | stops c hphase href =>
      refine same (fun d => ?_) rfl
      simp [Holds, Unlocking]
      grind
  | misuses c ref hphase href =>
      refine same (fun d => ?_) rfl
      have hout := hI.outside c hphase
      simp [Holds, Unlocking] at hout ⊢
      grind
  | leaves c ref hphase href =>
      have hc := hI.inside c hphase
      have hcur : ref = s.disp.g_mutex_ref := Option.some.inj (href.symm.trans hc.1)
      refine ⟨none, ⟨(hh c).mpr hc, rfl⟩, fun d => iff_of_false (Option.some_ne_none d).symm ?_⟩
      intro hd
      have hdc : Holds s d → d = c := fun h => hI.holds_unique h hc
      simp [Holds, Unlocking] at hd hdc
      grind
  | unlockArrives c ref rest hun =>
      refine same (fun d => ?_) rfl
      simp [Holds, Unlocking]
      grind

/-- **SECTIONS DO NOT OVERLAP**: in every run, whatever the components call and
    in whatever order it arrives, a component enters only when nobody is in,
    only who is in leaves, and who is between the two calls is the one. -/
theorem f_Mutex_sections [ToString C] (es : List (Event C)) {s : Sys C}
    {os : List (Option (Seen C))} (hrun : run step Sys.start es = .ok (s, os)) :
    ∃ holder, Sections none (acts os) holder ∧
      ∀ c, (s.comp c).phase = .inside → holder = some c := by
  have hall := run_reports_inv
    (I := fun s os => Inv s ∧ ∃ holder, Sections none (acts os) holder ∧
      ∀ c, holder = some c ↔ Holds s c) ?_ es Sys.start [] s os ?_ hrun
  · obtain ⟨hI, holder, hsec, hh⟩ := hall
    exact ⟨holder, hsec, fun c hin => (hh c).mpr (hI.inside c hin)⟩
  · rintro s os e s' o ⟨hI, holder, hsec, hh⟩ hstep
    have hdoes := step_does hstep
    obtain ⟨holder', hmoves, hh'⟩ := holder_moves hI hdoes hh
    refine ⟨inv_step hI hdoes, holder', ?_, hh'⟩
    have hsnoc := hsec.snoc hmoves
    rw [acts, List.flatMap_append, List.flatMap_singleton]
    exact hsnoc
  · refine ⟨inv_start, none, .done _, fun c => iff_of_false (Option.some_ne_none c).symm ?_⟩
    exact fun h => nomatch h.1

/-- Two components want the lock; the second call is served first, and its
    component calls again before the other one is in. -/
def contended : List (Event Nat) :=
  [.lock 0, .lock 1, .lockArrives 1, .lockArrives 0, .dispatch, .lockReturns 1, .unlock 1,
    .lock 1, .lockArrives 1, .unlockArrives 1, .dispatch, .dispatch, .lockReturns 0]

/-- Two components that want the mutex at once. -/
theorem f_Mutex_sections_contended :
    ∃ s os, run step Sys.start contended = .ok (s, os) ∧
      ∃ holder, Sections none (acts os) holder ∧
        ∀ c, (s.comp c).phase = .inside → holder = some c :=
  ⟨_, _, rfl, f_Mutex_sections contended rfl⟩

-- ── The order of grants ──────────────────────────────────────────────────────

/-- The component that has asked. -/
def Seen.call : Seen C → Option C
  | .asked c => some c
  | .granted _ _ | .entered _ _ | .left _ _ => none

/-- The component that was granted, with the reference. -/
def Seen.grant : Seen C → Option (C × Int)
  | .granted c ref => some (c, ref)
  | .asked _ | .entered _ _ | .left _ _ => none

/-- The component that has entered, with the reference. -/
def Seen.entry : Seen C → Option (C × Int)
  | .entered c ref => some (c, ref)
  | .asked _ | .granted _ _ | .left _ _ => none

/-- The calls to lock, the replies of the dispatcher and the returns of
    `f_Mutex_lock` in a run. -/
def calls (os : List (Option (Seen C))) : List C := os.filterMap (fun o => o.bind Seen.call)

/-- The grants of a run, in order. -/
def grants (os : List (Option (Seen C))) : List (C × Int) :=
  os.filterMap (fun o => o.bind Seen.grant)

/-- The entries of a run, in order. -/
def entries (os : List (Option (Seen C))) : List (C × Int) :=
  os.filterMap (fun o => o.bind Seen.entry)

/-- The references of one component. -/
def refsOf (c : C) (rs : List (C × Int)) : List Int :=
  (rs.filter (fun r => r.1 = c)).map Prod.snd

omit [DecidableEq C] in
theorem calls_snoc (os : List (Option (Seen C))) (o : Option (Seen C)) :
    calls (os ++ [o]) = calls os ++ (o.bind Seen.call).toList := by
  rw [calls, calls, List.filterMap_append]
  cases h : o.bind Seen.call <;> simp [h]

omit [DecidableEq C] in
theorem grants_snoc (os : List (Option (Seen C))) (o : Option (Seen C)) :
    grants (os ++ [o]) = grants os ++ (o.bind Seen.grant).toList := by
  rw [grants, grants, List.filterMap_append]
  cases h : o.bind Seen.grant <;> simp [h]

omit [DecidableEq C] in
theorem entries_snoc (os : List (Option (Seen C))) (o : Option (Seen C)) :
    entries (os ++ [o]) = entries os ++ (o.bind Seen.entry).toList := by
  rw [entries, entries, List.filterMap_append]
  cases h : o.bind Seen.entry <;> simp [h]

/-- One reference more, of the component or of another. -/
theorem refsOf_snoc (c d : C) (ref : Int) (rs : List (C × Int)) :
    refsOf c (rs ++ [(d, ref)]) = refsOf c rs ++ if d = c then [ref] else [] := by
  rw [refsOf, refsOf, List.filter_append, List.map_append]
  by_cases h : d = c <;> simp [h]

/-- How many grants the state of the dispatcher stands for. -/
def MutexDispCT.granted (d : MutexDispCT C) : Int :=
  d.g_mutex_ref + if d.locked = true then 1 else 0

/-- The records of a run agree with the state it ends in. -/
structure Ordered (s : Sys C) (os : List (Option (Seen C))) : Prop where
  fifo : calls os = (grants os).map Prod.fst ++ s.disp.LOCK
  count : ((grants os).length : Int) = s.disp.granted
  refs : (grants os).map Prod.snd = (List.range (grants os).length).map Int.ofNat
  once : ∀ c, refsOf c (grants os) = refsOf c (entries os) ++ (s.comp c).replies

/-- **ONE STEP** keeps the order. -/
theorem ordered_step {s s' : Sys C} {e : Event C} {o : Option (Seen C)}
    {os : List (Option (Seen C))} (hO : Ordered s os) (h : Does s e s' o) :
    Ordered s' (os ++ [o]) := by
  obtain ⟨hfifo, hcount, hrefs, honce⟩ := hO
  -- most events are in none of the three records
  have same : o.bind Seen.call = none → o.bind Seen.grant = none → o.bind Seen.entry = none →
      s'.disp.LOCK = s.disp.LOCK → s'.disp.granted = s.disp.granted →
      (∀ c, (s'.comp c).replies = (s.comp c).replies) → Ordered s' (os ++ [o]) := by
    intro hc hg he hLOCK hn hr
    constructor
    · simpa [calls_snoc, grants_snoc, hc, hg, hLOCK] using hfifo
    · simpa [grants_snoc, hg, hn] using hcount
    · simpa [grants_snoc, hg] using hrefs
    · intro c
      simpa [grants_snoc, entries_snoc, hg, he, hr] using honce c
  cases h with
  | nothing => exact same rfl rfl rfl rfl rfl fun _ => rfl
  | call c hphase =>
      refine same rfl rfl rfl rfl rfl fun d => ?_
      simp
      grind
  | callArrives c n hn =>
      constructor
      · rw [calls_snoc, grants_snoc, hfifo]
        simp [Seen.call, Seen.grant]
      · rw [grants_snoc]
        simp [Seen.grant]
        exact hcount
      · simpa [grants_snoc, Seen.grant] using hrefs
      · intro d
        have hd := honce d
        simp [grants_snoc, entries_snoc, Seen.grant, Seen.entry]
        grind
  | grant c rest hlocked hLOCK =>
      -- the next call is served, with the next number
      have hcur : ((grants os).length : Int) = s.disp.g_mutex_ref := by
        rw [hcount, MutexDispCT.granted, hlocked]
        exact Int.add_zero _
      have hg : grants (os ++ [some (.granted c s.disp.g_mutex_ref)])
          = grants os ++ [(c, s.disp.g_mutex_ref)] := grants_snoc os _
      constructor
      · rw [hg, calls_snoc, hfifo, hLOCK]
        simp [Seen.call]
      · rw [hg, List.length_append, Int.natCast_add, hcur]
        rfl
      · rw [hg, List.map_append, hrefs, List.length_append, List.length_singleton,
          List.range_succ, List.map_append, ← hcur]
        rfl
      · intro d
        have hd := honce d
        rw [hg, refsOf_snoc, hd, entries_snoc]
        simp [Seen.entry]
        grind
  | release c rest hlocked hUNLOCK =>
      refine same rfl rfl rfl rfl ?_ fun _ => rfl
      simp [MutexDispCT.granted, hlocked]
  | returns c ref rest hphase hreplies =>
      have he : entries (os ++ [some (.entered c ref)]) = entries os ++ [(c, ref)] :=
        entries_snoc os _
      constructor
      · simpa [calls_snoc, grants_snoc, Seen.call, Seen.grant] using hfifo
      · simpa [grants_snoc, Seen.grant] using hcount
      · simpa [grants_snoc, Seen.grant] using hrefs
      · intro d
        have hd := honce d
        rw [he, refsOf_snoc, grants_snoc]
        simp [Seen.grant]
        grind
  | stops c hphase href =>
      refine same rfl rfl rfl rfl rfl fun d => ?_
      simp
      grind
  | misuses c ref hphase href =>
      refine same rfl rfl rfl rfl rfl fun d => ?_
      simp
      grind
  | leaves c ref hphase href =>
      refine same rfl rfl rfl rfl rfl fun d => ?_
      simp
      grind
  | unlockArrives c ref rest hun =>
      refine same rfl rfl rfl rfl rfl fun d => ?_
      simp
      grind

/-- **FIRST COME, FIRST SERVED**: the dispatcher grants the lock once for every
    call, in the order the calls reach its port, with the references 0, 1, 2
    and so on; what it grants a component is what the component goes on with,
    in that order, up to a reply it has not read yet. -/
theorem f_MutexDisp_fifo [ToString C] (es : List (Event C)) {s : Sys C}
    {os : List (Option (Seen C))} (hrun : run step Sys.start es = .ok (s, os)) :
    Ordered s os := by
  refine run_reports_inv (I := Ordered) ?_ es Sys.start [] s os ?_ hrun
  · exact fun s os e s' o hO hstep => ordered_step hO (step_does hstep)
  · exact ⟨rfl, rfl, rfl, fun _ => rfl⟩

/-- Two components that want the mutex at once, in the order of their asking. -/
theorem f_MutexDisp_fifo_contended :
    ∃ s os, run step Sys.start contended = .ok (s, os) ∧ Ordered s os :=
  ⟨_, _, rfl, f_MutexDisp_fifo contended rfl⟩

-- ── Components that keep to the calls ────────────────────────────────────────

/-- A component locks only outside of a section and unlocks only inside, and
    no call to lock takes as long as its timer. -/
def Polite (s : Sys C) : Event C → Prop
  | .lock c => (s.comp c).phase ≠ .inside
  | .unlock c => (s.comp c).phase = .inside
  | .lockTimeout _ _ _ => False
  | .lockArrives _ | .dispatch | .lockReturns _ | .unlockArrives _ => True

instance : ∀ (s : Sys C) (e : Event C), Decidable (Polite s e)
  | s, .lock c => inferInstanceAs (Decidable ((s.comp c).phase ≠ .inside))
  | s, .unlock c => inferInstanceAs (Decidable ((s.comp c).phase = .inside))
  | _, .lockTimeout _ _ _ => inferInstanceAs (Decidable False)
  | _, .lockArrives _ | _, .dispatch | _, .lockReturns _ | _, .unlockArrives _ =>
      inferInstanceAs (Decidable True)

/-- How many calls of a component to unlock are on their way or in the port. -/
def unlocks (s : Sys C) (c : C) : Nat :=
  (s.comp c).unlockCalls.length + s.disp.UNLOCK.countP (fun u => u.1 = c)

/-- What holds besides where all components are polite. -/
structure Orderly (s : Sys C) : Prop where
  inv : Inv s
  live : s.disp.locked = true → ∃ c, Knows s c s.disp.g_mutex_ref
  current : ∀ c ref, Unlocking s c ref → ref = s.disp.g_mutex_ref
  one : ∀ c, unlocks s c ≤ 1
  waits : ∀ c, (s.comp c).phase = .locking → ¬ Holds s c
  running : ∀ c, (s.comp c).phase ≠ .stopped

/-- Who unlocks has something to unlock. -/
theorem unlocks_pos {s : Sys C} {c : C} {ref : Int} (h : Unlocking s c ref) :
    0 < unlocks s c := by
  rcases h with h | h
  · have := List.length_pos_of_mem h
    rw [unlocks]
    omega
  · have : 0 < s.disp.UNLOCK.countP (fun u => u.1 = c) :=
      List.countP_pos_iff.mpr ⟨(c, ref), h, decide_eq_true rfl⟩
    rw [unlocks]
    omega

/-- At the start everything is in order. -/
theorem orderly_start : Orderly (Sys.start : Sys C) where
  inv := inv_start
  live := nofun
  current := by simp [Unlocking, Sys.start, MutexCT.start, MutexDispCT.start]
  one := by simp [unlocks, Sys.start, MutexCT.start, MutexDispCT.start]
  waits := by simp [Sys.start, MutexCT.start]
  running := by simp [Sys.start, MutexCT.start]

/-- What is to unlock has somebody who unlocks. -/
theorem unlocking_of_pos {s : Sys C} {c : C} (h : 0 < unlocks s c) :
    ∃ ref, Unlocking s c ref := by
  rw [unlocks] at h
  rcases Nat.eq_zero_or_pos (s.comp c).unlockCalls.length with h0 | hpos
  · rw [h0, Nat.zero_add] at h
    obtain ⟨⟨d, ref⟩, hmem, hd⟩ := List.countP_pos_iff.mp h
    obtain rfl : d = c := of_decide_eq_true hd
    exact ⟨ref, Or.inr hmem⟩
  · obtain ⟨ref, hmem⟩ := List.exists_mem_of_length_pos hpos
    exact ⟨ref, Or.inl hmem⟩

/-- What leaves references and locks as they were keeps the rest. -/
theorem Orderly.congr {s s' : Sys C} (hO : Orderly s) (hI : Inv s')
    (hcur : s'.disp.g_mutex_ref = s.disp.g_mutex_ref) (hlocked : s'.disp.locked = s.disp.locked)
    (href : ∀ c, (s'.comp c).g_mutex_ref = (s.comp c).g_mutex_ref)
    (hreplies : ∀ c, (s'.comp c).replies = (s.comp c).replies)
    (hun : ∀ c ref, Unlocking s' c ref ↔ Unlocking s c ref)
    (hone : ∀ c, unlocks s' c = unlocks s c)
    (hphase : ∀ c, (s'.comp c).phase = (s.comp c).phase ∨
      (s'.comp c).phase = .locking ∧ (s.comp c).phase = .outside) : Orderly s' := by
  have hh : ∀ c, Holds s' c ↔ Holds s c := by
    intro c
    rw [Holds, Holds, href, hun, hcur]
  refine ⟨hI, ?_, ?_, ?_, ?_, ?_⟩
  · intro h
    obtain ⟨c, hk⟩ := hO.live (hlocked ▸ h)
    refine ⟨c, ?_⟩
    rw [Knows, href, hreplies, hun, hcur]
    exact hk
  · intro c ref h
    rw [hcur]
    exact hO.current c ref ((hun c ref).mp h)
  · intro c
    rw [hone]
    exact hO.one c
  · intro c h
    rw [hh]
    rcases hphase c with hc | ⟨-, hc⟩
    · exact hO.waits c (hc ▸ h)
    · exact hO.inv.outside c hc
  · intro c h
    rcases hphase c with hc | ⟨hc, -⟩
    · exact hO.running c (hc ▸ h)
    · rw [hc] at h
      cases h

/-- A release leaves everything in order. -/
theorem orderly_release {s : Sys C} (hO : Orderly s) {c : C} {rest : List (C × Int)}
    (hUNLOCK : s.disp.UNLOCK = (c, s.disp.g_mutex_ref) :: rest) :
    Orderly (s.setDisp { s.disp with
      UNLOCK := rest, g_mutex_ref := s.disp.g_mutex_ref + 1, locked := false }) := by
  have hun : Unlocking s c s.disp.g_mutex_ref := by
    rw [Unlocking, hUNLOCK]
    exact Or.inr List.mem_cons_self
  have hle : ∀ d, unlocks (s.setDisp { s.disp with
      UNLOCK := rest, g_mutex_ref := s.disp.g_mutex_ref + 1, locked := false }) d
      + (if c = d then 1 else 0) = unlocks s d := by
    intro d
    simp [unlocks, hUNLOCK, List.countP_cons]
    omega
  refine ⟨inv_release hO.inv hUNLOCK, fun h => absurd h Bool.false_ne_true, ?_, ?_, ?_, hO.running⟩
  · intro d ref h
    -- a call that is left is one more of the same component
    have h' : Unlocking s d ref := by
      simp [Unlocking, hUNLOCK] at h ⊢
      grind
    have hd : Knows s d s.disp.g_mutex_ref := Or.inr (Or.inr (hO.current d ref h' ▸ h'))
    obtain rfl := hO.inv.owner c d (Or.inr (Or.inr hun)) hd
    have hpos := unlocks_pos h
    have hone := hO.one c
    rw [← hle c, if_pos rfl] at hone
    omega
  · intro d
    have hone := hO.one d
    rw [← hle d] at hone
    omega
  · rintro d - ⟨href, -⟩
    have hle : s.disp.g_mutex_ref + 1 ≤ s.disp.g_mutex_ref := hO.inv.le (c := d) (Or.inl href)
    omega

/-- So does leaving the section. -/
theorem orderly_leaves {s : Sys C} (hO : Orderly s) {c : C} {ref : Int}
    (hphase : (s.comp c).phase = .inside) (href : (s.comp c).g_mutex_ref = some ref) :
    Orderly (s.setComp c { s.comp c with
      phase := .outside, unlockCalls := (s.comp c).unlockCalls ++ [ref] }) := by
  obtain ⟨hI, hlive, hcur, hone, hwaits, hrun⟩ := hO
  have hc := hI.inside c hphase
  obtain rfl : ref = s.disp.g_mutex_ref := Option.some.inj (href.symm.trans hc.1)
  have hzero : unlocks s c = 0 := by
    rcases Nat.eq_zero_or_pos (unlocks s c) with h | h
    · exact h
    · obtain ⟨r, hr⟩ := unlocking_of_pos h
      exact absurd (hcur c r hr ▸ hr) hc.2
  refine ⟨inv_sends hI (Or.inr hphase) href, ?_, ?_, ?_, ?_, ?_⟩
  · intro _
    refine ⟨c, Or.inl ?_⟩
    simpa using href
  · intro d r h
    have hd := hcur d r
    simp [Unlocking] at hd h ⊢
    grind
  · intro d
    have hd := hone d
    by_cases h : d = c
    · subst h
      rw [unlocks] at hzero
      simp [unlocks]
      omega
    · simpa [unlocks, h] using hd
  · intro d h
    have hd := hwaits d
    simp [Holds, Unlocking] at hd h ⊢
    grind
  · intro d
    have hd := hrun d
    simp
    grind

/-- **ONE POLITE STEP** leaves everything in order. -/
theorem orderly_step {s s' : Sys C} {e : Event C} {o : Option (Seen C)} (hO : Orderly s)
    (hpol : Polite s e) (h : Does s e s' o) : Orderly s' := by
  have hI' := inv_step hO.inv h
  cases h with
  | nothing => exact hO
  | call c hphase =>
      have hout : (s.comp c).phase = .outside := hphase.resolve_right hpol
      refine hO.congr hI' rfl rfl ?_ ?_ ?_ ?_ ?_ <;> simp [Unlocking, unlocks] <;> grind
  | callArrives c n hn =>
      refine hO.congr hI' rfl rfl ?_ ?_ ?_ ?_ ?_ <;> simp [Unlocking, unlocks] <;> grind
  | grant c rest hlocked hLOCK =>
      obtain ⟨hI, -, hcur, hone, hwaits, hrun⟩ := hO
      refine ⟨hI', fun _ => ⟨c, Or.inr (Or.inl ?_)⟩, ?_, ?_, ?_, ?_⟩
      · simp
      · intro d r h
        have hd := hcur d r
        simp [Unlocking] at hd h ⊢
        grind
      · intro d
        have hd := hone d
        simp [unlocks] at hd ⊢
        grind
      · intro d h
        have hd := hwaits d
        simp [Holds, Unlocking] at hd h ⊢
        grind
      · intro d
        have hd := hrun d
        simp
        grind
  | release c rest hlocked hUNLOCK => exact orderly_release hO hUNLOCK
  | returns c ref rest hphase hreplies =>
      obtain ⟨hI, -, hcur, hone, hwaits, hrun⟩ := hO
      have href : ref = s.disp.g_mutex_ref :=
        (hI.reply c ref (hreplies ▸ List.mem_cons_self)).1
      refine ⟨hI', fun _ => ⟨c, Or.inl ?_⟩, ?_, ?_, ?_, ?_⟩
      · simp [href]
      · intro d r h
        have hd := hcur d r
        simp [Unlocking] at hd h ⊢
        grind
      · intro d
        have hd := hone d
        simp [unlocks] at hd ⊢
        grind
      · intro d h
        have hd := hwaits d
        simp [Holds, Unlocking] at hd h ⊢
        grind
      · intro d
        have hd := hrun d
        simp
        grind
  | stops c hphase href =>
      have hc := (hO.inv.inside c hpol).1
      rw [href] at hc
      cases hc
  | misuses c ref hphase href =>
      rw [Polite, hphase] at hpol
      cases hpol
  | leaves c ref hphase href => exact orderly_leaves hO hphase href
  | unlockArrives c ref rest hun =>
      refine hO.congr hI' rfl rfl ?_ ?_ ?_ ?_ ?_ <;>
        simp [Unlocking, unlocks, List.countP_append, List.countP_singleton] <;> grind

variable [ToString C]

/-- A free mutex goes to the first in the queue. -/
theorem dispatch_grant {s : Sys C} {d : C} {rest : List C} (hlocked : s.disp.locked = false)
    (hLOCK : s.disp.LOCK = d :: rest) :
    step s .dispatch = .ok ((s.setComp d { s.comp d with
      replies := (s.comp d).replies ++ [s.disp.g_mutex_ref] }).setDisp
      { s.disp with LOCK := rest, locked := true },
      some (.granted d s.disp.g_mutex_ref)) := by
  simp [step, dispatch, f_MutexDisp_main, MutexDispCT.grant, hlocked, hLOCK, Sys.setDisp]

/-- A mutex that was given back is free. -/
theorem dispatch_release {s : Sys C} {d : C} {rest : List (C × Int)}
    (hlocked : s.disp.locked = true)
    (hUNLOCK : s.disp.UNLOCK = (d, s.disp.g_mutex_ref) :: rest) :
    step s .dispatch = .ok (s.setDisp { s.disp with
      UNLOCK := rest, g_mutex_ref := s.disp.g_mutex_ref + 1, locked := false }, none) := by
  simp [step, dispatch, f_MutexDisp_main, MutexDispCT.matched, MutexDispCT.release, hlocked,
    hUNLOCK, Sys.setDisp]

/-- A polite event is carried out. -/
theorem polite_ok {s : Sys C} {e : Event C} (hO : Orderly s) (hpol : Polite s e) :
    ∃ s' o, step s e = .ok (s', o) := by
  cases e with
  | lock c =>
      rw [step, f_Mutex_lock_call]
      cases (s.comp c).phase <;> exact ⟨_, _, rfl⟩
  | lockArrives c =>
      rw [step, arriveLock]
      cases (s.comp c).lockCalls <;> exact ⟨_, _, rfl⟩
  | dispatch =>
      cases hUNLOCK : s.disp.UNLOCK with
      | nil =>
          obtain ⟨⟨locked, cur, LOCK, UNLOCK⟩, comp⟩ := s
          obtain rfl : UNLOCK = [] := hUNLOCK
          cases locked with
          | true => exact ⟨_, _, rfl⟩
          | false => cases LOCK <;> exact ⟨_, _, rfl⟩
      | cons u rest =>
          obtain ⟨c, ref⟩ := u
          have hun : Unlocking s c ref := by
            rw [Unlocking, hUNLOCK]
            exact Or.inr List.mem_cons_self
          obtain rfl := hO.current c ref hun
          rcases hO.inv.known c _ (Or.inr (Or.inr hun)) with hlt | ⟨hlocked, -⟩
          · exact absurd hlt (Int.lt_irrefl _)
          · exact ⟨_, _, dispatch_release hlocked hUNLOCK⟩
  | lockReturns c =>
      rw [step, f_Mutex_lock_getreply]
      cases (s.comp c).phase <;> cases (s.comp c).replies <;> exact ⟨_, _, rfl⟩
  | lockTimeout c file line => exact hpol.elim
  | unlock c =>
      rw [step, f_Mutex_unlock]
      cases (s.comp c).phase <;> cases (s.comp c).g_mutex_ref <;> exact ⟨_, _, rfl⟩
  | unlockArrives c =>
      rw [step, arriveUnlock]
      cases (s.comp c).unlockCalls <;> exact ⟨_, _, rfl⟩

/-- A polite step can always be taken. -/
theorem polite_step {s : Sys C} {e : Event C} (hO : Orderly s) (hpol : Polite s e) :
    ∃ s' o, step s e = .ok (s', o) ∧ Orderly s' := by
  obtain ⟨s', o, hstep⟩ := polite_ok hO hpol
  exact ⟨s', o, hstep, orderly_step hO hpol (step_does hstep)⟩

-- ── A component that waits is served ─────────────────────────────────────────

/-- The steps that no component chooses: a call or a reply gets there, and the
    dispatcher goes round. -/
def Internal : Event C → Prop
  | .lockArrives _ | .dispatch | .lockReturns _ | .unlockArrives _ => True
  | .lock _ | .lockTimeout _ _ _ | .unlock _ => False

/-- Somebody is in after at most so many of these steps. -/
def Served (s : Sys C) (n : Nat) : Prop :=
  ∃ es : List (Event C), es.length ≤ n ∧ (∀ e ∈ es, Internal e) ∧
    ∃ s' os, run step s es = .ok (s', os) ∧ ∃ d, (s'.comp d).phase = .inside

/-- One step nearer to the section. -/
theorem Served.step {s s' : Sys C} {e : Event C} {o : Option (Seen C)} {n : Nat}
    (h : Served s' n) (hstep : OsmoMutex.step s e = .ok (s', o)) (he : Internal e) :
    Served s (n + 1) := by
  obtain ⟨es, hlen, hint, s'', os, hrun, hd⟩ := h
  refine ⟨e :: es, Nat.succ_le_succ hlen, List.forall_mem_cons.mpr ⟨he, hint⟩,
    s'', o :: os, ?_, hd⟩
  rw [run, hstep]
  show (run OsmoMutex.step s' es).map _ = _
  rw [hrun]
  rfl

/-- More steps do as well. -/
theorem Served.mono {s : Sys C} {m n : Nat} (h : Served s m) (hmn : m ≤ n) : Served s n := by
  obtain ⟨es, hlen, hrest⟩ := h
  exact ⟨es, Nat.le_trans hlen hmn, hrest⟩

/-- Who is inside needs no step. -/
theorem served_inside {s : Sys C} {d : C} (h : (s.comp d).phase = .inside) : Served s 0 :=
  ⟨[], Nat.le_refl 0, fun _ h => (nomatch h), s, [], rfl, d, h⟩

/-- A reply that waits lets its receiver in. -/
theorem served_reply {s : Sys C} (hI : Inv s) {d : C} {ref : Int} {rest : List Int}
    (h : (s.comp d).replies = ref :: rest) : Served s 1 := by
  have hphase : (s.comp d).phase = .locking := by
    have hone := hI.calls d
    by_contra hne
    rw [if_neg hne, h, List.length_cons] at hone
    omega
  have hstep : step s (.lockReturns d) = .ok (s.setComp d { s.comp d with
      phase := .inside, g_mutex_ref := some ref, replies := rest },
      some (.entered d ref)) := by
    rw [step, f_Mutex_lock_getreply, hphase, h]
  refine Served.step (served_inside (d := d) ?_) hstep trivial
  simp

/-- A call that waits while the lock is free. -/
theorem served_call {s : Sys C} (hI : Inv s) {d : C} {rest : List C}
    (hlocked : s.disp.locked = false) (hLOCK : s.disp.LOCK = d :: rest) : Served s 2 := by
  have hstep := dispatch_grant hlocked hLOCK
  have hI' := inv_step hI (step_does hstep)
  have hmem : s.disp.g_mutex_ref ∈ (((s.setComp d { s.comp d with
      replies := (s.comp d).replies ++ [s.disp.g_mutex_ref] }).setDisp
      { s.disp with LOCK := rest, locked := true }).comp d).replies := by simp
  obtain ⟨ref, rest', h⟩ := List.exists_cons_of_ne_nil (List.ne_nil_of_mem hmem)
  exact (served_reply hI' h).step hstep trivial

/-- A component that waits while the lock is free. -/
theorem served_free {s : Sys C} (hI : Inv s) {c : C} (hlocked : s.disp.locked = false)
    (hphase : (s.comp c).phase = .locking) : Served s 3 := by
  cases hLOCK : s.disp.LOCK with
  | cons d rest => exact (served_call hI hlocked hLOCK).mono (by omega)
  | nil =>
      have hnone : (s.comp c).replies = [] := by
        refine List.eq_nil_iff_forall_not_mem.mpr fun ref href => ?_
        have hlt := hI.unknown hlocked (Or.inr (Or.inl href))
        rw [(hI.reply c ref href).1] at hlt
        exact absurd hlt (Int.lt_irrefl _)
      have hcalls : (s.comp c).lockCalls = 0 + 1 := by
        have hone := hI.calls c
        rw [hLOCK, hnone, hphase, if_pos rfl] at hone
        exact hone
      have hstep : step s (.lockArrives c) = .ok
          ((s.setComp c { s.comp c with lockCalls := 0 }).setDisp
            { s.disp with LOCK := s.disp.LOCK ++ [c] }, some (.asked c)) := by
        rw [step, arriveLock, hcalls]
        rfl
      have hnow : ((s.setComp c { s.comp c with lockCalls := 0 }).setDisp
          { s.disp with LOCK := s.disp.LOCK ++ [c] }).disp.LOCK = c :: [] := by
        rw [setDisp_disp, hLOCK]
        rfl
      exact (served_call (inv_step hI (step_does hstep)) hlocked hnow).step hstep trivial

/-- The call to unlock is in the port. -/
theorem served_unlock {s : Sys C} (hO : Orderly s) {c d : C} {ref : Int}
    {rest : List (C × Int)} (hlocked : s.disp.locked = true)
    (hUNLOCK : s.disp.UNLOCK = (d, ref) :: rest) (hphase : (s.comp c).phase = .locking) :
    Served s 4 := by
  obtain rfl : ref = s.disp.g_mutex_ref := by
    refine hO.current d ref (Or.inr ?_)
    rw [hUNLOCK]
    exact List.mem_cons_self
  exact (served_free (inv_release hO.inv hUNLOCK) rfl hphase).step
    (dispatch_release hlocked hUNLOCK) trivial

/-- **FIVE STEPS** of the others are enough. -/
theorem served {s : Sys C} (hO : Orderly s) {c : C} (hphase : (s.comp c).phase = .locking) :
    Served s 5 := by
  cases hlocked : s.disp.locked with
  | false => exact (served_free hO.inv hlocked hphase).mono (by omega)
  | true =>
      obtain ⟨d, hk⟩ := hO.live hlocked
      -- the reference is unread, in use, or on its way back
      by_cases hun : Unlocking s d s.disp.g_mutex_ref
      · cases hUNLOCK : s.disp.UNLOCK with
        | cons u rest => exact (served_unlock hO hlocked hUNLOCK hphase).mono (by omega)
        | nil =>
            rw [Unlocking, hUNLOCK] at hun
            obtain ⟨ref, rest, hwire⟩ := List.exists_cons_of_ne_nil
              (List.ne_nil_of_mem (hun.resolve_right List.not_mem_nil))
            obtain ⟨s1, hs1⟩ : ∃ s1, s1 = (s.setComp d { s.comp d with
                unlockCalls := rest }).setDisp
                { s.disp with UNLOCK := s.disp.UNLOCK ++ [(d, ref)] } := ⟨_, rfl⟩
            have hstep : step s (.unlockArrives d) = .ok (s1, none) := by
              rw [step, arriveUnlock, hwire, hs1]
              rfl
            have hO1 : Orderly s1 :=
              orderly_step (e := .unlockArrives d) hO trivial (step_does hstep)
            have hin : s1.disp.UNLOCK = [(d, ref)] := by
              rw [hs1, setDisp_disp, hUNLOCK]
              rfl
            have hlocked1 : s1.disp.locked = true := hs1 ▸ hlocked
            have hwaits : (s1.comp c).phase = .locking := by
              rw [hs1]
              simp
              grind
            exact (served_unlock hO1 hlocked1 hin hwaits).step hstep trivial
      · rcases hk with href | hreply | hk
        · have hh : Holds s d := ⟨href, hun⟩
          cases hd : (s.comp d).phase with
          | outside => exact absurd hh (hO.inv.outside d hd)
          | locking => exact absurd hh (hO.waits d hd)
          | inside => exact (served_inside hd).mono (by omega)
          | stopped => exact absurd hd (hO.running d)
        · obtain ⟨ref, rest, h⟩ := List.exists_cons_of_ne_nil (List.ne_nil_of_mem hreply)
          exact (served_reply hO.inv h).mono (by omega)
        · exact absurd hk hun

/-- **NO FAULT AND NO DEADLOCK**: where every component locks only outside of a
    section and unlocks only inside, the dispatcher never stops the test case,
    and whenever a component waits, five steps that no component chooses suffice
    to let somebody in. -/
theorem f_Mutex_progress {es : List (Event C)} (hguard : Guarded step Polite Sys.start es) :
    ∃ s os, run step Sys.start es = .ok (s, os) ∧
      ∀ c, (s.comp c).phase = .locking → Served s 5 := by
  have hall := always_of_guarded (I := Orderly) (fun _ _ hO hpol => polite_step hO hpol) es
    Sys.start orderly_start hguard
  obtain ⟨s, os, hrun, hO⟩ := hall.returns
  exact ⟨s, os, hrun, fun c hphase => served hO hphase⟩

/-- Two components, each of which gets the mutex. -/
theorem f_Mutex_progress_contended :
    ∃ s os, run step Sys.start contended = .ok (s, os) ∧
      ∀ c, (s.comp c).phase = .locking → Served s 5 :=
  f_Mutex_progress (by decide)

end OsmoMutex
