import OsmoTtcn.RunGuardProofs

/-! # Components, and what is pending between them

    Components take what has arrived at their ports (`AltStatement`), keep each
    other out of a section (`CriticalSection`), put messages aside for later
    (`ParkedQueue`), and tell each other what has changed (`AnnouncedCopy`). -/

/-! # Alternatives that are tried in order

    An event-driven component looks at what has arrived, tries its alternatives
    from the front and takes the first one whose guard holds.  What is taken is
    one of the alternatives; what is passed over has a guard that fails. -/

namespace AltStatement

variable {ρ : Type}

/-- What an alternative waits for, and what it does. -/
structure Alternative (ρ : Type) where
  guard : Bool
  body : ρ

/-- What the first alternative does whose guard holds. -/
def alt (as : List (Alternative ρ)) : Option ρ :=
  (as.find? (fun a => a.guard)).map (fun a => a.body)

@[simp] theorem alt_nil : alt ([] : List (Alternative ρ)) = none := rfl

@[simp] theorem alt_cons (a : Alternative ρ) (as : List (Alternative ρ)) :
    alt (a :: as) = if a.guard = true then some a.body else alt as := by
  by_cases h : a.guard = true
  · rw [if_pos h, alt, List.find?_cons_of_pos h]
    rfl
  · rw [if_neg h, alt, List.find?_cons_of_neg h]
    rfl

/-- **WHAT IS TAKEN** is an alternative whose guard holds. -/
theorem alt_some {as : List (Alternative ρ)} {r : ρ} (h : alt as = some r) :
    ∃ a ∈ as, a.guard = true ∧ a.body = r := by
  obtain ⟨a, hfind, hbody⟩ := Option.map_eq_some_iff.mp h
  exact ⟨a, List.mem_of_find?_eq_some hfind, List.find?_some hfind, hbody⟩

end AltStatement

/-! # Critical sections, one after the other

    What an observer sees of a lock is who enters and who leaves.  `Sections`
    says that the sections do not overlap: nobody enters while someone is in,
    and only who is in leaves. -/

namespace CriticalSection

variable {C : Type}

/-- What is seen of a lock. -/
inductive Act (C : Type) where
  | enter (c : C)
  | leave (c : C)
  deriving DecidableEq, Repr

/-- From one holder, or none, to the next, no two sections overlapping. -/
inductive Sections : Option C → List (Act C) → Option C → Prop where
  | done (h : Option C) : Sections h [] h
  | enter {c : C} {as : List (Act C)} {h : Option C} :
      Sections (some c) as h → Sections none (.enter c :: as) h
  | leave {c : C} {as : List (Act C)} {h : Option C} :
      Sections none as h → Sections (some c) (.leave c :: as) h

/-- Sections one after the other. -/
theorem Sections.append {as bs : List (Act C)} {h h1 h2 : Option C}
    (ha : Sections h as h1) (hb : Sections h1 bs h2) : Sections h (as ++ bs) h2 := by
  induction ha with
  | done => exact hb
  | enter _ ih => exact .enter (ih hb)
  | leave _ ih => exact .leave (ih hb)

/-- What one act changes about the holder, where something is seen of it. -/
def Moves : Option C → Option (Act C) → Option C → Prop
  | h, none, h' => h' = h
  | h, some (.enter c), h' => h = none ∧ h' = some c
  | h, some (.leave c), h' => h = some c ∧ h' = none

/-- Somebody enters while nobody is inside. -/
theorem Sections.snoc_enter {as : List (Act C)} {h : Option C} {c : C}
    (ha : Sections h as none) : Sections h (as ++ [.enter c]) (some c) :=
  ha.append (.enter (.done _))

/-- Who is inside leaves. -/
theorem Sections.snoc_leave {as : List (Act C)} {h : Option C} {c : C}
    (ha : Sections h as (some c)) : Sections h (as ++ [.leave c]) none :=
  ha.append (.leave (.done _))

/-- A run goes on with an act that moves the holder. -/
theorem Sections.snoc {as : List (Act C)} {h h1 h2 : Option C} {a : Option (Act C)}
    (ha : Sections h as h1) (hm : Moves h1 a h2) : Sections h (as ++ a.toList) h2 := by
  rcases a with _ | c | c
  · rw [Option.toList_none, List.append_nil, show h2 = h1 from hm]
    exact ha
  · obtain ⟨rfl, rfl⟩ := hm
    exact ha.snoc_enter
  · obtain ⟨rfl, rfl⟩ := hm
    exact ha.snoc_leave

end CriticalSection

/-! # Messages that may be parked

    Messages arrive in a port and are taken from its front.  One that is taken
    is delivered at once, or parked behind those that are parked already; the
    parked ones are replayed later, all together.

    A message that is delivered from the port while others are parked overtakes
    them.  `Move` has every move but that one, and `run_conserves` says what
    follows for a run: what was delivered and what still waits is what waited
    and what arrived, in the same order. -/

namespace ParkedQueue

variable {α : Type}

/-- The messages that were taken and put aside, and those in the port. -/
structure Buffer (α : Type) where
  parked : List α
  pending : List α

/-- Everything that waits, oldest first. -/
def Buffer.waiting (b : Buffer α) : List α := b.parked ++ b.pending

/-- What one step does to the messages that wait: what arrives, and what is
    delivered. -/
inductive Move : Buffer α → List α → List α → Buffer α → Prop where
  | arrive (parked pending xs : List α) :
      Move ⟨parked, pending⟩ xs [] ⟨parked, pending ++ xs⟩
  /-- Nothing is parked, so nothing is overtaken. -/
  | deliver (x : α) (rest : List α) : Move ⟨[], x :: rest⟩ [] [x] ⟨[], rest⟩
  | park (parked : List α) (x : α) (rest : List α) :
      Move ⟨parked, x :: rest⟩ [] [] ⟨parked ++ [x], rest⟩
  | replay (parked pending : List α) :
      Move ⟨parked, pending⟩ [] parked ⟨[], pending⟩

/-- Nothing moves. -/
theorem Move.idle (b : Buffer α) : Move b [] [] b := by
  have h := Move.arrive b.parked b.pending []
  rw [List.append_nil] at h
  exact h

/-- **ONE MOVE** loses nothing, adds nothing and keeps the order. -/
theorem Move.conserves {b b' : Buffer α} {arrived delivered : List α}
    (h : Move b arrived delivered b') :
    delivered ++ b'.waiting = b.waiting ++ arrived := by
  cases h with
  | arrive parked pending xs =>
      exact (List.append_assoc parked pending arrived).symm
  | deliver x rest => exact (List.append_nil _).symm
  | park parked x rest =>
      show (parked ++ [x]) ++ rest = (parked ++ x :: rest) ++ []
      rw [List.append_nil, List.append_assoc]
      rfl
  | replay pending => exact (List.append_nil _).symm

section Runs

variable {σ ι ο ε : Type} {step : σ → ι → Except ε (σ × ο)} {G : σ → ι → Prop}
variable {view : σ → Buffer α} {arrived : ι → List α} {delivered : ο → List α}

/-- **A WHOLE RUN**, where every guarded step is a move. -/
theorem run_conserves
    (hstep : ∀ s i s' o, G s i → step s i = .ok (s', o) →
      Move (view s) (arrived i) (delivered o) (view s')) :
    ∀ (is : List ι) (s s' : σ) (os : List ο),
      RunGuard.Guarded step G s is → RunGuard.run step s is = .ok (s', os) →
      os.flatMap delivered ++ (view s').waiting
        = (view s).waiting ++ is.flatMap arrived := by
  intro is
  induction is with
  | nil =>
      intro s s' os _ hrun
      obtain ⟨rfl, rfl⟩ := Prod.mk.inj (Except.ok.inj hrun)
      exact (List.append_nil _).symm
  | cons i is ih =>
      intro s s' os hguard hrun
      obtain ⟨s1, o, os', hs, hr, rfl⟩ := RunGuard.run_cons_ok hrun
      have hrest := ((RunGuard.guarded_cons_ok hs).mp hguard).2
      have hone := (hstep s i s1 o hguard.1 hs).conserves
      calc (o :: os').flatMap delivered ++ (view s').waiting
          = delivered o ++ (os'.flatMap delivered ++ (view s').waiting) := by
            rw [List.flatMap_cons, List.append_assoc]
        _ = (delivered o ++ (view s1).waiting) ++ is.flatMap arrived := by
            rw [ih s1 s' os' hrest hr, List.append_assoc]
        _ = (view s).waiting ++ (i :: is).flatMap arrived := by
            rw [hone, List.append_assoc, List.flatMap_cons]

end Runs

end ParkedQueue

/-! # A copy that is kept by announcements

    An owner has a value and announces its changes; somebody else has a copy,
    which each announcement overwrites when it is delivered.  Announcements are
    delivered in the order they were made, but any time later.

    Some values may be `hidden`: the owner takes them without an announcement.
    `Tracks` is what owner, copy and the pending announcements have in common
    after any of the operations.  `Tracks.settled` says what it is worth: once
    nothing is pending, the copy is right iff the owner's value is not
    hidden. -/

namespace AnnouncedCopy

variable {V : Type}

/-- What the copy will be when everything that is pending is delivered. -/
def latest (copy : V) (pending : List V) : V :=
  pending.foldl (fun _ v => v) copy

/-- The latest is among what is pending. -/
theorem latest_cons (copy v : V) (pending : List V) :
    latest copy (v :: pending) = latest v pending := rfl

/-- The last that is pending is the latest. -/
theorem latest_snoc (copy v : V) (pending : List V) :
    latest copy (pending ++ [v]) = v := by
  rw [latest, List.foldl_append]
  rfl

/-- The last announcement is the owner's value, unless that is hidden; nothing
    hidden was ever announced. -/
structure Tracks (hidden : V → Prop) (own copy : V) (pending : List V) : Prop where
  current : ¬ hidden own → latest copy pending = own
  shown : ¬ hidden copy
  announced : ∀ v ∈ pending, ¬ hidden v

variable {hidden : V → Prop} {own copy v : V} {pending : List V}

/-- A copy of a state that is not hidden is up to date. -/
theorem tracks_refl (h : ¬ hidden own) : Tracks hidden own own [] :=
  ⟨fun _ => rfl, h, fun _ hv => nomatch hv⟩

/-- **THE OWNER ANNOUNCES** its new value. -/
theorem Tracks.announce (h : Tracks hidden own copy pending) (hv : ¬ hidden v) :
    Tracks hidden v copy (pending ++ [v]) := by
  refine ⟨fun _ => latest_snoc copy v pending, h.shown, fun w hw => ?_⟩
  rcases List.mem_append.mp hw with hold | hnew
  · exact h.announced w hold
  · rw [List.mem_singleton.mp hnew]
    exact hv

/-- **THE OWNER CHANGES WITHOUT A WORD**, to a hidden value. -/
theorem Tracks.hide (h : Tracks hidden own copy pending) (hv : hidden v) :
    Tracks hidden v copy pending :=
  ⟨fun hno => absurd hv hno, h.shown, h.announced⟩

/-- **DELIVERY** overwrites the copy. -/
theorem Tracks.deliver (h : Tracks hidden own copy (v :: pending)) :
    Tracks hidden own v pending := by
  refine ⟨fun hno => ?_, h.announced v List.mem_cons_self, fun w hw => ?_⟩
  · rw [← latest_cons copy]
    exact h.current hno
  · exact h.announced w (List.mem_cons_of_mem v hw)

/-- An announcement of what the copy is already may be lost. -/
theorem Tracks.drop (h : Tracks hidden own copy (v :: pending)) (hsame : v = copy) :
    Tracks hidden own copy pending := by
  rw [← hsame]
  exact h.deliver

/-- **NOTHING PENDING**: the copy is right iff the owner's value is not
    hidden. -/
theorem Tracks.settled (h : Tracks hidden own copy []) :
    copy = own ↔ ¬ hidden own := by
  constructor
  · intro heq
    rw [← heq]
    exact h.shown
  · intro hno
    exact h.current hno

end AnnouncedCopy
