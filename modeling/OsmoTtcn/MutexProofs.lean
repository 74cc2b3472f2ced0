import Mathlib.Logic.Function.Basic
import OsmoTtcn.PendingMessagesProofs
import OsmoTtcn.RunGuardProofs
import OsmoTtcn.TitanProofs

/-! # The mutex of parallel components

    `library/Mutex.ttcn`: a dispatcher component hands a reference out with
    every lock it grants and takes the lock back for that reference only.  The
    components call it over two procedure ports, so a call to unlock and the
    next call to lock may arrive in either order, and the calls of different
    components arrive in any order.

    A state holds the dispatcher with its two port queues, and each component
    with its calls on their way; an event is a step of one of them. -/

namespace OsmoMutex

open AltStatement CriticalSection OsmoTitan RunGuard

variable {C : Type}

-- ── The dispatcher ───────────────────────────────────────────────────────────

/-- The dispatcher: its variables, and the calls in its two ports. -/
structure MutexDispCT (C : Type) where
  locked : Bool
  g_mutex_ref : Int
  LOCK : List C
  UNLOCK : List (C × Int)
  deriving DecidableEq

/-- The dispatcher when its loop begins. -/
def MutexDispCT.start : MutexDispCT C :=
  { locked := false, g_mutex_ref := 0, LOCK := [], UNLOCK := [] }

/-- What a round of the dispatcher does: a reply with its receiver, or none. -/
abbrev Round (C : Type) := Except Fault (MutexDispCT C × Option (C × Int))

/-- `LOCK.getcall(MUTEX_LOCK:{?}) -> sender vc_conn` with the reply. -/
def MutexDispCT.grant (d : MutexDispCT C) : Round C :=
  match d.LOCK with
  | [] => .ok (d, none)
  | vc_conn :: rest =>
      .ok ({ d with LOCK := rest, locked := true }, some (vc_conn, d.g_mutex_ref))

/-- `UNLOCK.getcall` for the reference that the lock was granted with. -/
def MutexDispCT.release (d : MutexDispCT C) : Round C :=
  .ok ({ d with UNLOCK := d.UNLOCK.tail, g_mutex_ref := d.g_mutex_ref + 1, locked := false },
    none)

/-- A verdict of the dispatcher about who called. -/
def MutexDispCT.fail [ToString C] (d : MutexDispCT C) (text : String) : Round C :=
  match d.UNLOCK with
  | [] => .ok (d, none)
  | (vc_conn, _) :: _ =>
      .error (.shutdown ("f_MutexDisp_main(): " ++ text ++ toString vc_conn))

/-- The reference of the call at the front of the port is the granted one. -/
def MutexDispCT.matched (d : MutexDispCT C) : Bool :=
  match d.UNLOCK with
  | [] => false
  | (_, ref) :: _ => ref == d.g_mutex_ref

/-- One round of `f_MutexDisp_main`; `none` while it waits. -/
def f_MutexDisp_main [ToString C] (d : MutexDispCT C) : Option (Round C) :=
  alt [
    ⟨!d.locked && !d.LOCK.isEmpty, d.grant⟩,
    ⟨d.locked && d.matched, d.release⟩,
    ⟨!d.locked && !d.UNLOCK.isEmpty, d.fail "mutex unlock without prior lock from "⟩,
    ⟨d.locked && !d.UNLOCK.isEmpty, d.fail "mutex unlock was not unexpected from "⟩]

-- ── The components and the wires ─────────────────────────────────────────────

/-- Where a component is: in none of the two functions and not between them,
    waiting in `f_Mutex_lock`, between the two, or stopped by an error. -/
inductive Phase where
  | outside
  | locking
  | inside
  | stopped
  deriving DecidableEq, Repr

/-- A component: its variable, the replies in its port, and its calls that
    have not arrived. -/
structure MutexCT where
  phase : Phase
  g_mutex_ref : Option Int
  replies : List Int
  lockCalls : Nat
  unlockCalls : List Int
  deriving DecidableEq

/-- A component that is connected to the dispatcher. -/
def MutexCT.start : MutexCT :=
  { phase := .outside, g_mutex_ref := none, replies := [], lockCalls := 0, unlockCalls := [] }

/-- The dispatcher and the components connected to it. -/
structure Sys (C : Type) where
  disp : MutexDispCT C
  comp : C → MutexCT

/-- Nobody has asked for the mutex. -/
def Sys.start : Sys C := { disp := .start, comp := fun _ => .start }

/-- A step of one of them.  An event that cannot happen changes nothing. -/
inductive Event (C : Type) where
  /-- `LOCK.call` of `f_Mutex_lock`, and the call in the dispatcher's port. -/
  | lock (c : C)
  | lockArrives (c : C)
  /-- A round of the dispatcher. -/
  | dispatch
  /-- `LOCK.getreply` and `LOCK.catch(timeout)` of `f_Mutex_lock`. -/
  | lockReturns (c : C)
  | lockTimeout (c : C) (file : String) (line : Nat)
  /-- `f_Mutex_unlock`, and the call in the dispatcher's port. -/
  | unlock (c : C)
  | unlockArrives (c : C)
  deriving DecidableEq

variable [DecidableEq C]

/-- The same system with one component changed. -/
def Sys.setComp (s : Sys C) (c : C) (m : MutexCT) : Sys C :=
  { s with comp := Function.update s.comp c m }

/-- What is seen of an event: a call to lock gets to the port, the dispatcher
    replies, a component goes on with a reference, or gives it back. -/
inductive Seen (C : Type) where
  | asked (c : C)
  | granted (c : C) (ref : Int)
  | entered (c : C) (ref : Int)
  | left (c : C) (ref : Int)
  deriving DecidableEq, Repr

/-- What an event does, and what is seen of it. -/
abbrev Outcome (C : Type) := Except Fault (Sys C × Option (Seen C))

/-- The blocking call, up to where it waits. -/
def f_Mutex_lock_call (s : Sys C) (c : C) : Outcome C :=
  match (s.comp c).phase with
  | .outside | .inside =>
      .ok (s.setComp c { s.comp c with
        phase := .locking, lockCalls := (s.comp c).lockCalls + 1 }, none)
  | .locking | .stopped => .ok (s, none)

/-- The reply, which is what the component keeps to unlock with. -/
def f_Mutex_lock_getreply (s : Sys C) (c : C) : Outcome C :=
  match (s.comp c).phase, (s.comp c).replies with
  | .locking, ref :: rest =>
      .ok (s.setComp c { s.comp c with
        phase := .inside, g_mutex_ref := some ref, replies := rest }, some (.entered c ref))
  | _, _ => .ok (s, none)

/-- The timer of the call, which stops the test case. -/
def f_Mutex_lock_timeout (s : Sys C) (c : C) (file : String) (line : Nat) : Outcome C :=
  match (s.comp c).phase with
  | .locking => .error (.shutdown ("f_Mutex_lock(): timeout @ " ++ file ++ ":" ++ toString line))
  | .outside | .inside | .stopped => .ok (s, none)

/-- The call that nobody waits for.  A component that never locked has no
    reference to send and stops with an error. -/
def f_Mutex_unlock (s : Sys C) (c : C) : Outcome C :=
  match (s.comp c).phase, (s.comp c).g_mutex_ref with
  | .outside, none | .inside, none =>
      .ok (s.setComp c { s.comp c with phase := .stopped }, none)
  | .outside, some ref =>
      .ok (s.setComp c { s.comp c with unlockCalls := (s.comp c).unlockCalls ++ [ref] }, none)
  | .inside, some ref =>
      .ok (s.setComp c { s.comp c with
        phase := .outside, unlockCalls := (s.comp c).unlockCalls ++ [ref] },
        some (.left c ref))
  | .locking, _ | .stopped, _ => .ok (s, none)

/-- A call to lock gets to the port of the dispatcher. -/
def arriveLock (s : Sys C) (c : C) : Outcome C :=
  match (s.comp c).lockCalls with
  | 0 => .ok (s, none)
  | n + 1 =>
      let s' := s.setComp c { s.comp c with lockCalls := n }
      .ok ({ s' with disp := { s.disp with LOCK := s.disp.LOCK ++ [c] } }, some (.asked c))

/-- A call to unlock gets there. -/
def arriveUnlock (s : Sys C) (c : C) : Outcome C :=
  match (s.comp c).unlockCalls with
  | [] => .ok (s, none)
  | ref :: rest =>
      let s' := s.setComp c { s.comp c with unlockCalls := rest }
      .ok ({ s' with disp := { s.disp with UNLOCK := s.disp.UNLOCK ++ [(c, ref)] } }, none)

/-- A round of the dispatcher, and the reply to who called. -/
def dispatch [ToString C] (s : Sys C) : Outcome C :=
  match f_MutexDisp_main s.disp with
  | none => .ok (s, none)
  | some (.error e) => .error e
  | some (.ok (d, none)) => .ok ({ s with disp := d }, none)
  | some (.ok (d, some (c, ref))) =>
      let s' := s.setComp c { s.comp c with replies := (s.comp c).replies ++ [ref] }
      .ok ({ s' with disp := d }, some (.granted c ref))

/-- One event. -/
def step [ToString C] (s : Sys C) : Event C → Outcome C
  | .lock c => f_Mutex_lock_call s c
  | .lockArrives c => arriveLock s c
  | .dispatch => dispatch s
  | .lockReturns c => f_Mutex_lock_getreply s c
  | .lockTimeout c file line => f_Mutex_lock_timeout s c file line
  | .unlock c => f_Mutex_unlock s c
  | .unlockArrives c => arriveUnlock s c

-- ── What an event does ───────────────────────────────────────────────────────

@[simp] theorem setComp_disp (s : Sys C) (c : C) (m : MutexCT) :
    (s.setComp c m).disp = s.disp := rfl

@[simp] theorem setComp_comp (s : Sys C) (c d : C) (m : MutexCT) :
    (s.setComp c m).comp d = if d = c then m else s.comp d := Function.update_apply ..

/-- The same system with another dispatcher. -/
def Sys.setDisp (s : Sys C) (d : MutexDispCT C) : Sys C := { s with disp := d }

omit [DecidableEq C] in
@[simp] theorem setDisp_disp (s : Sys C) (d : MutexDispCT C) : (s.setDisp d).disp = d := rfl

omit [DecidableEq C] in
@[simp] theorem setDisp_comp (s : Sys C) (d : MutexDispCT C) :
    (s.setDisp d).comp = s.comp := rfl

/-- **WHAT AN EVENT CAN DO**, with what must hold before. -/
inductive Does (s : Sys C) : Event C → Sys C → Option (Seen C) → Prop where
  | nothing (e : Event C) : Does s e s none
  | call (c : C) (hphase : (s.comp c).phase = .outside ∨ (s.comp c).phase = .inside) :
      Does s (.lock c) (s.setComp c { s.comp c with
        phase := .locking, lockCalls := (s.comp c).lockCalls + 1 }) none
  | callArrives (c : C) (n : Nat) (hcalls : (s.comp c).lockCalls = n + 1) :
      Does s (.lockArrives c)
        ((s.setComp c { s.comp c with lockCalls := n }).setDisp
          { s.disp with LOCK := s.disp.LOCK ++ [c] }) (some (.asked c))
  | grant (c : C) (rest : List C) (hlocked : s.disp.locked = false)
      (hLOCK : s.disp.LOCK = c :: rest) :
      Does s .dispatch
        ((s.setComp c { s.comp c with
          replies := (s.comp c).replies ++ [s.disp.g_mutex_ref] }).setDisp
          { s.disp with LOCK := rest, locked := true })
        (some (.granted c s.disp.g_mutex_ref))
  | release (c : C) (rest : List (C × Int)) (hlocked : s.disp.locked = true)
      (hUNLOCK : s.disp.UNLOCK = (c, s.disp.g_mutex_ref) :: rest) :
      Does s .dispatch
        (s.setDisp { s.disp with
          UNLOCK := rest, g_mutex_ref := s.disp.g_mutex_ref + 1, locked := false }) none
  | returns (c : C) (ref : Int) (rest : List Int) (hphase : (s.comp c).phase = .locking)
      (hreplies : (s.comp c).replies = ref :: rest) :
      Does s (.lockReturns c) (s.setComp c { s.comp c with
        phase := .inside, g_mutex_ref := some ref, replies := rest })
        (some (.entered c ref))
  | stops (c : C) (hphase : (s.comp c).phase = .outside ∨ (s.comp c).phase = .inside)
      (href : (s.comp c).g_mutex_ref = none) :
      Does s (.unlock c) (s.setComp c { s.comp c with phase := .stopped }) none
  | misuses (c : C) (ref : Int) (hphase : (s.comp c).phase = .outside)
      (href : (s.comp c).g_mutex_ref = some ref) :
      Does s (.unlock c) (s.setComp c { s.comp c with
        unlockCalls := (s.comp c).unlockCalls ++ [ref] }) none
  | leaves (c : C) (ref : Int) (hphase : (s.comp c).phase = .inside)
      (href : (s.comp c).g_mutex_ref = some ref) :
      Does s (.unlock c) (s.setComp c { s.comp c with
        phase := .outside, unlockCalls := (s.comp c).unlockCalls ++ [ref] })
        (some (.left c ref))
  | unlockArrives (c : C) (ref : Int) (rest : List Int)
      (hcalls : (s.comp c).unlockCalls = ref :: rest) :
      Does s (.unlockArrives c)
        ((s.setComp c { s.comp c with unlockCalls := rest }).setDisp
          { s.disp with UNLOCK := s.disp.UNLOCK ++ [(c, ref)] }) none

/-- What a round of the dispatcher comes to. -/
theorem dispatch_does [ToString C] {s s' : Sys C} {o : Option (Seen C)}
    (h : dispatch s = .ok (s', o)) : Does s .dispatch s' o := by
  obtain ⟨⟨locked, cur, LOCK, UNLOCK⟩, comp⟩ := s
  rw [dispatch] at h
  cases locked with
  | false =>
      cases LOCK with
      | cons c rest =>
          obtain ⟨rfl, rfl⟩ := Prod.mk.inj (Except.ok.inj h)
          exact .grant c rest rfl rfl
      | nil =>
          cases UNLOCK with
          | nil =>
              obtain ⟨rfl, rfl⟩ := Prod.mk.inj (Except.ok.inj h)
              exact .nothing _
          | cons u rest => exact nomatch h
  | true =>
      cases UNLOCK with
      | nil =>
          obtain ⟨rfl, rfl⟩ := Prod.mk.inj (Except.ok.inj h)
          exact .nothing _
      | cons u rest =>
          obtain ⟨c, ref⟩ := u
          by_cases href : ref = cur
          · subst href
            simp [f_MutexDisp_main, MutexDispCT.matched, MutexDispCT.release] at h
            obtain ⟨rfl, rfl⟩ := h
            exact .release c rest rfl rfl
          · simp [f_MutexDisp_main, MutexDispCT.matched, MutexDispCT.fail, href] at h

/-- **WHAT A STEP CAN DO**. -/
theorem step_does [ToString C] {s s' : Sys C} {e : Event C} {o : Option (Seen C)}
    (h : step s e = .ok (s', o)) : Does s e s' o := by
  cases e with
  | lock c =>
      rw [step, f_Mutex_lock_call] at h
      cases hphase : (s.comp c).phase <;> rw [hphase] at h <;>
        obtain ⟨rfl, rfl⟩ := Prod.mk.inj (Except.ok.inj h)
      · exact .call c (Or.inl hphase)
      · exact .nothing _
      · exact .call c (Or.inr hphase)
      · exact .nothing _
  | lockArrives c =>
      rw [step, arriveLock] at h
      cases hcalls : (s.comp c).lockCalls <;> rw [hcalls] at h <;>
        obtain ⟨rfl, rfl⟩ := Prod.mk.inj (Except.ok.inj h)
      · exact .nothing _
      · exact .callArrives c _ hcalls
  | dispatch => exact dispatch_does h
  | lockReturns c =>
      rw [step, f_Mutex_lock_getreply] at h
      cases hphase : (s.comp c).phase <;> cases hreplies : (s.comp c).replies <;>
        rw [hphase, hreplies] at h <;>
        obtain ⟨rfl, rfl⟩ := Prod.mk.inj (Except.ok.inj h)
      case locking.cons => exact .returns c _ _ hphase hreplies
      all_goals exact .nothing _
  | lockTimeout c file line =>
      rw [step, f_Mutex_lock_timeout] at h
      cases hphase : (s.comp c).phase <;> rw [hphase] at h
      case locking => exact nomatch h
      all_goals
        obtain ⟨rfl, rfl⟩ := Prod.mk.inj (Except.ok.inj h)
        exact .nothing _
  | unlock c =>
      rw [step, f_Mutex_unlock] at h
      cases hphase : (s.comp c).phase <;> cases href : (s.comp c).g_mutex_ref <;>
        rw [hphase, href] at h <;>
        obtain ⟨rfl, rfl⟩ := Prod.mk.inj (Except.ok.inj h)
      case outside.none => exact .stops c (Or.inl hphase) href
      case inside.none => exact .stops c (Or.inr hphase) href
      case outside.some => exact .misuses c _ hphase href
      case inside.some => exact .leaves c _ hphase href
      all_goals exact .nothing _
  | unlockArrives c =>
      rw [step, arriveUnlock] at h
      cases hcalls : (s.comp c).unlockCalls <;> rw [hcalls] at h <;>
        obtain ⟨rfl, rfl⟩ := Prod.mk.inj (Except.ok.inj h)
      · exact .nothing _
      · exact .unlockArrives c _ _ hcalls

-- ── Who knows a reference ────────────────────────────────────────────────────

/-- A call of the component to unlock for the reference is on its way or waits
    in the port. -/
def Unlocking (s : Sys C) (c : C) (ref : Int) : Prop :=
  ref ∈ (s.comp c).unlockCalls ∨ (c, ref) ∈ s.disp.UNLOCK

/-- The component has been told the reference. -/
def Knows (s : Sys C) (c : C) (ref : Int) : Prop :=
  (s.comp c).g_mutex_ref = some ref ∨ ref ∈ (s.comp c).replies ∨ Unlocking s c ref

/-- The component could unlock and has not. -/
def Holds (s : Sys C) (c : C) : Prop :=
  (s.comp c).g_mutex_ref = some s.disp.g_mutex_ref ∧ ¬ Unlocking s c s.disp.g_mutex_ref

/-- The invariant of every run. -/
structure Inv (s : Sys C) : Prop where
  known : ∀ c ref, Knows s c ref →
    ref < s.disp.g_mutex_ref ∨ s.disp.locked = true ∧ ref = s.disp.g_mutex_ref
  owner : ∀ c d, Knows s c s.disp.g_mutex_ref → Knows s d s.disp.g_mutex_ref → c = d
  inside : ∀ c, (s.comp c).phase = .inside → Holds s c
  outside : ∀ c, (s.comp c).phase = .outside → ¬ Holds s c
  stopped : ∀ c, (s.comp c).phase = .stopped → (s.comp c).g_mutex_ref = none
  reply : ∀ c, ∀ ref ∈ (s.comp c).replies, ref = s.disp.g_mutex_ref
    ∧ (s.comp c).g_mutex_ref ≠ some ref ∧ ¬ Unlocking s c ref
  calls : ∀ c, (s.comp c).lockCalls + s.disp.LOCK.count c + (s.comp c).replies.length
    = if (s.comp c).phase = .locking then 1 else 0

/-- At the start nobody holds the mutex. -/
theorem inv_start : Inv (Sys.start : Sys C) where
  known := by simp [Knows, Unlocking, Sys.start, MutexCT.start, MutexDispCT.start]
  owner := by simp [Knows, Unlocking, Sys.start, MutexCT.start, MutexDispCT.start]
  inside := by simp [Sys.start, MutexCT.start]
  outside := by simp [Holds, Sys.start, MutexCT.start]
  stopped := by simp [Sys.start, MutexCT.start]
  reply := by simp [Sys.start, MutexCT.start]
  calls := by simp [Sys.start, MutexCT.start, MutexDispCT.start]

/-- What leaves references and locks as they were keeps all but the calls. -/
theorem Inv.congr {s s' : Sys C} (hI : Inv s)
    (hcur : s'.disp.g_mutex_ref = s.disp.g_mutex_ref) (hlocked : s'.disp.locked = s.disp.locked)
    (href : ∀ c, (s'.comp c).g_mutex_ref = (s.comp c).g_mutex_ref)
    (hreplies : ∀ c, (s'.comp c).replies = (s.comp c).replies)
    (hun : ∀ c ref, Unlocking s' c ref ↔ Unlocking s c ref)
    (hphase : ∀ c, (s'.comp c).phase = (s.comp c).phase ∨ (s'.comp c).phase = .locking
      ∨ (s'.comp c).phase = .stopped ∧ (s.comp c).g_mutex_ref = none)
    (hcalls : ∀ c, (s'.comp c).lockCalls + s'.disp.LOCK.count c + (s'.comp c).replies.length
      = if (s'.comp c).phase = .locking then 1 else 0) : Inv s' := by
  have hk : ∀ c ref, Knows s' c ref ↔ Knows s c ref := by
    intro c ref
    rw [Knows, Knows, href, hreplies, hun]
  have hh : ∀ c, Holds s' c ↔ Holds s c := by
    intro c
    rw [Holds, Holds, href, hun, hcur]
  refine ⟨?_, ?_, ?_, ?_, ?_, ?_, hcalls⟩
  · intro c ref h
    rw [hcur, hlocked]
    exact hI.known c ref ((hk c ref).mp h)
  · intro c d hc hd
    rw [hcur, hk] at hc hd
    exact hI.owner c d hc hd
  · intro c hin
    rw [hh]
    rcases hphase c with h | h | h
    · exact hI.inside c (h ▸ hin)
    · rw [h] at hin
      cases hin
    · rw [h.1] at hin
      cases hin
  · intro c hout
    rw [hh]
    rcases hphase c with h | h | h
    · exact hI.outside c (h ▸ hout)
    · rw [h] at hout
      cases hout
    · rw [h.1] at hout
      cases hout
  · intro c hstop
    rw [href]
    rcases hphase c with h | h | h
    · exact hI.stopped c (h ▸ hstop)
    · rw [h] at hstop
      cases hstop
    · exact h.2
  · intro c ref h
    rw [hreplies] at h
    rw [href, hun, hcur]
    exact hI.reply c ref h

/-- Where the lock is free, nobody knows the reference to come. -/
theorem Inv.unknown {s : Sys C} (hI : Inv s) (hlocked : s.disp.locked = false) {c : C}
    {ref : Int} (hk : Knows s c ref) : ref < s.disp.g_mutex_ref := by
  rcases hI.known c ref hk with h | ⟨h, -⟩
  · exact h
  · rw [hlocked] at h
    cases h

/-- What is known is at most the reference of the dispatcher. -/
theorem Inv.le {s : Sys C} (hI : Inv s) {c : C} {ref : Int} (hk : Knows s c ref) :
    ref ≤ s.disp.g_mutex_ref := by
  rcases hI.known c ref hk with h | ⟨-, h⟩
  · exact Int.le_of_lt h
  · exact Int.le_of_eq h

/-- Who is unlocking neither is inside nor waits for a reply to read, and
    nobody else does. -/
theorem Inv.alone {s : Sys C} (hI : Inv s) {c : C}
    (hun : Unlocking s c s.disp.g_mutex_ref) (d : C) :
    (s.comp d).phase ≠ .inside ∧ (s.comp d).replies = [] := by
  have hc : Knows s c s.disp.g_mutex_ref := Or.inr (Or.inr hun)
  constructor
  · intro hin
    obtain ⟨href, hnot⟩ := hI.inside d hin
    exact hnot (hI.owner c d hc (Or.inl href) ▸ hun)
  · refine List.eq_nil_iff_forall_not_mem.mpr fun ref href => ?_
    obtain ⟨rfl, -, hnot⟩ := hI.reply d ref href
    exact hnot (hI.owner c d hc (Or.inr (Or.inl href)) ▸ hun)

/-- A grant keeps the invariant. -/
theorem inv_grant {s : Sys C} (hI : Inv s) {c : C} {rest : List C}
    (hlocked : s.disp.locked = false) (hLOCK : s.disp.LOCK = c :: rest) :
    Inv ((s.setComp c { s.comp c with
      replies := (s.comp c).replies ++ [s.disp.g_mutex_ref] }).setDisp
      { s.disp with LOCK := rest, locked := true }) := by
  -- nobody knows the reference that is handed out
  have hnew : ∀ d, ¬ Knows s d s.disp.g_mutex_ref :=
    fun d hk => absurd (hI.unknown hlocked hk) (Int.lt_irrefl _)
  have hnone : ∀ d, (s.comp d).replies = [] := by
    intro d
    refine List.eq_nil_iff_forall_not_mem.mpr fun ref href => ?_
    have hcur := (hI.reply d ref href).1
    exact hnew d (Or.inr (Or.inl (hcur ▸ href)))
  have hcalls := hI.calls
  refine ⟨?_, ?_, ?_, ?_, ?_, ?_, ?_⟩
  · intro d ref hk
    by_cases hd : ref = s.disp.g_mutex_ref
    · exact Or.inr ⟨rfl, hd⟩
    · refine Or.inl (hI.unknown hlocked (c := d) ?_)
      simp [Knows, Unlocking] at hk ⊢
      grind
  · intro d e hd he
    simp [Knows, Unlocking] at hnew hd he
    grind
  · intro d hin
    refine absurd (Or.inl (hI.inside d ?_).1) (hnew d)
    simp at hin
    grind
  · intro d _ hh
    refine hnew d (Or.inl ?_)
    have href := hh.1
    simp at href
    grind
  · intro d hstop
    have := hI.stopped d
    simp at hstop ⊢
    grind
  · intro d ref href
    simp [Knows, Unlocking, hnone] at hnew href ⊢
    grind
  · intro d
    have hone := hcalls d
    simp [hLOCK, List.count_cons, hnone] at hone ⊢
    grind

/-- So does a release. -/
theorem inv_release {s : Sys C} (hI : Inv s) {c : C} {rest : List (C × Int)}
    (hUNLOCK : s.disp.UNLOCK = (c, s.disp.g_mutex_ref) :: rest) :
    Inv (s.setDisp { s.disp with
      UNLOCK := rest, g_mutex_ref := s.disp.g_mutex_ref + 1, locked := false }) := by
  have hun : Unlocking s c s.disp.g_mutex_ref := by
    rw [Unlocking, hUNLOCK]
    exact Or.inr List.mem_cons_self
  have hlt : ∀ d ref, Knows (s.setDisp { s.disp with
      UNLOCK := rest, g_mutex_ref := s.disp.g_mutex_ref + 1, locked := false }) d ref →
      ref < s.disp.g_mutex_ref + 1 := by
    intro d ref hk
    refine Int.lt_add_one_of_le (hI.le (c := d) ?_)
    simp [Knows, Unlocking, hUNLOCK] at hk ⊢
    grind
  refine ⟨fun d ref hk => Or.inl (hlt d ref hk), ?_, ?_, ?_, hI.stopped, ?_, hI.calls⟩
  · intro d e hd _
    exact absurd (hlt d _ hd) (Int.lt_irrefl _)
  · intro d hin
    exact absurd hin (hI.alone hun d).1
  · intro d _ hh
    exact absurd (hlt d _ (Or.inl hh.1)) (Int.lt_irrefl _)
  · intro d ref href
    rw [setDisp_comp, (hI.alone hun d).2] at href
    cases href

/-- So does entering the section. -/
theorem inv_returns {s : Sys C} (hI : Inv s) {c : C} {ref : Int} {rest : List Int}
    (hphase : (s.comp c).phase = .locking) (hreplies : (s.comp c).replies = ref :: rest) :
    Inv (s.setComp c { s.comp c with
      phase := .inside, g_mutex_ref := some ref, replies := rest }) := by
  have hmem : ref ∈ (s.comp c).replies := hreplies ▸ List.mem_cons_self
  obtain ⟨rfl, -, hnot⟩ := hI.reply c ref hmem
  have hcalls := hI.calls
  -- a component has one call under way, so this reply is all it has
  have hrest : rest = [] := by
    have hone := hcalls c
    rw [hphase, hreplies, List.length_cons, if_pos rfl] at hone
    exact List.eq_nil_of_length_eq_zero (by omega)
  subst hrest
  have hk : ∀ d ref, Knows (s.setComp c { s.comp c with
      phase := .inside, g_mutex_ref := some s.disp.g_mutex_ref, replies := [] }) d ref →
      Knows s d ref := by
    intro d ref h
    simp [Knows, Unlocking] at h ⊢
    grind
  refine ⟨fun d ref h => hI.known d ref (hk d ref h),
    fun d e hd he => hI.owner d e (hk d _ hd) (hk e _ he), ?_, ?_, ?_, ?_, ?_⟩
  · intro d hin
    have hd := hI.inside d
    simp [Holds, Unlocking] at hd hin hnot ⊢
    grind
  · intro d hout
    have hd := hI.outside d
    simp [Holds, Unlocking] at hd hout ⊢
    grind
  · intro d hstop
    have hd := hI.stopped d
    simp at hstop ⊢
    grind
  · intro d r hr
    have hd := hI.reply d r
    simp [Unlocking] at hd hr ⊢
    grind
  · intro d
    have hone := hcalls d
    simp
    grind

/-- So does asking and leaving. -/
theorem inv_sends {s : Sys C} (hI : Inv s) {c : C} {ref : Int}
    (hphase : (s.comp c).phase = .outside ∨ (s.comp c).phase = .inside)
    (href : (s.comp c).g_mutex_ref = some ref) :
    Inv (s.setComp c { s.comp c with
      phase := .outside, unlockCalls := (s.comp c).unlockCalls ++ [ref] }) := by
  have hcalls := hI.calls
  have hk : ∀ d r, Knows (s.setComp c { s.comp c with
      phase := .outside, unlockCalls := (s.comp c).unlockCalls ++ [ref] }) d r →
      Knows s d r := by
    intro d r h
    simp [Knows, Unlocking] at h ⊢
    grind
  refine ⟨fun d ref h => hI.known d ref (hk d ref h),
    fun d e hd he => hI.owner d e (hk d _ hd) (hk e _ he), ?_, ?_, ?_, ?_, ?_⟩
  · intro d hin
    have hd := hI.inside d
    simp [Holds, Unlocking] at hd hin ⊢
    grind
  · intro d hout
    have hd := hI.outside d
    simp [Holds, Unlocking] at hd hout ⊢
    grind
  · intro d hstop
    have hd := hI.stopped d
    simp at hstop ⊢
    grind
  · intro d r hr
    have hd := hI.reply d r
    simp [Unlocking] at hd hr ⊢
    grind
  · intro d
    have hone := hcalls d
    simp
    grind

/-- **EVERY EVENT KEEPS THE INVARIANT**, whatever the components do. -/
theorem inv_step {s s' : Sys C} {e : Event C} {o : Option (Seen C)} (hI : Inv s)
    (h : Does s e s' o) : Inv s' := by
  have hcalls := hI.calls
  cases h with
  | nothing => exact hI
  | call c hphase =>
      refine hI.congr rfl rfl ?_ ?_ ?_ ?_ ?_ <;> simp [Unlocking] <;> grind
  | callArrives c n hn =>
      refine hI.congr rfl rfl ?_ ?_ ?_ ?_ ?_ <;>
        simp [Unlocking, List.count_append, List.count_singleton] <;> grind
  | grant c rest hlocked hLOCK => exact inv_grant hI hlocked hLOCK
  | release c rest _ hUNLOCK => exact inv_release hI hUNLOCK
  | returns c ref rest hphase hreplies => exact inv_returns hI hphase hreplies
  | stops c hphase href =>
      refine hI.congr rfl rfl ?_ ?_ ?_ ?_ ?_ <;> simp [Unlocking] <;> grind
  | misuses c ref hphase href =>
      have h := inv_sends hI (Or.inl hphase) href
      rw [← hphase] at h
      exact h
  | leaves c ref hphase href => exact inv_sends hI (Or.inr hphase) href
  | unlockArrives c ref rest hun =>
      refine hI.congr rfl rfl ?_ ?_ ?_ ?_ ?_ <;> simp [Unlocking] <;> grind

end OsmoMutex
