import OsmoTtcn.SlotTableProofs

/-! # Slots with two ids

    Two sides give an id each, so a slot has two, of which one may come later
    than the other; a slot with neither is empty.  A pair of ids, of which one
    may be missing as well, is tested against a table, which fills in a missing
    first id, and then looked up.

    The test takes a missing id of the pair literally, the lookup does not care
    about it.  `consistent_iff` says for which tables and pairs the two agree on
    one slot: this depends on which of the ids are there. -/

namespace TwoIds

open SlotTable

variable {n : Nat} {S κ ν ε : Type} [DecidableEq κ] [DecidableEq ν]

/-- The two ids of a slot, and what writes the first. -/
structure View (S κ ν : Type) where
  ids : S → Option κ × Option ν
  fill : S → κ → S
  ids_fill : ∀ s a, ids (fill s a) = (some a, (ids s).2)

/-- Whether the test accepts the ids of a slot.  A slot without a first id is
    tested by the second only. -/
def accepts (ids p : Option κ × Option ν) : Bool :=
  match ids.1 with
  | none => ids.2.isSome && decide (ids.2 = p.2)
  | some a => decide (ids.2 = p.2) && decide (some a = p.1)

/-- Whether the lookup matches the ids of a slot. -/
def looksUp (ids p : Option κ × Option ν) : Bool :=
  (p.2.isNone || decide (ids.2 = p.2)) && (p.1.isNone || decide (ids.1 = p.1))

section Functions

variable (view : View S κ ν) (t : Fin n → S) (p : Option κ × Option ν)

/-- The slot that the test accepts. -/
def accepted : Option (Fin n) := find t (fun s => accepts (view.ids s) p)

/-- The test.  A missing id cannot be filled in. -/
def known (omitted : ε) : Except ε (Bool × (Fin n → S)) :=
  match accepted view t p with
  | none => .ok (false, t)
  | some i =>
      match (view.ids (t i)).1, p.1 with
      | some _, _ => .ok (true, t)
      | none, some a => .ok (true, Function.update t i (view.fill (t i) a))
      | none, none => .error omitted

/-- The lookup, which wants one id at least. -/
def lookup (notFound : ε) : Except ε (Fin n) :=
  if p.1.isNone && p.2.isNone then .error notFound
  else match find t (fun s => looksUp (view.ids s) p) with
    | some i => .ok i
    | none => .error notFound

end Functions

-- ── Agreement ────────────────────────────────────────────────────────────────

/-- The pair names the slot: one id is the same, and none is another. -/
def Addresses (ids p : Option κ × Option ν) : Prop :=
  ((p.1 ≠ none ∧ ids.1 = p.1) ∨ (p.2 ≠ none ∧ ids.2 = p.2))
    ∧ (ids.1 = none ∨ p.1 = none ∨ ids.1 = p.1)
    ∧ (ids.2 = none ∨ p.2 = none ∨ ids.2 = p.2)

/-- **TEST AND LOOKUP AGREE**: the test does not fail and accepts exactly when
    the lookup finds; both mean the same slot, and each no other; and a slot that
    the pair names is found. -/
def Consistent (view : View S κ ν) (test : (Fin n → S) → Option κ × Option ν →
    Except ε (Bool × (Fin n → S))) (look : (Fin n → S) → Option κ × Option ν →
    Except ε (Fin n)) (t : Fin n → S) (p : Option κ × Option ν) : Prop :=
  ∃ b t', test t p = .ok (b, t')
    ∧ (b = true ↔ ∃ i, look t' p = .ok i)
    ∧ (∀ i, look t' p = .ok i →
      (∀ j, accepts (view.ids (t j)) p = true ↔ j = i)
        ∧ ∀ j, looksUp (view.ids (t' j)) p = true → j = i)
    ∧ ∀ i, Addresses (view.ids (t i)) p → look t' p = .ok i

/-- The slot that a pair is for, if the test accepts one, and the table after the
    test. -/
def dispatch (test : (Fin n → S) → Option κ × Option ν → Except ε (Bool × (Fin n → S)))
    (look : (Fin n → S) → Option κ × Option ν → Except ε (Fin n)) (t : Fin n → S)
    (p : Option κ × Option ν) : Except ε (Option (Fin n) × (Fin n → S)) :=
  (test t p).bind (fun r =>
    if r.1 then (look r.2 p).map (fun i => (some i, r.2)) else .ok (none, r.2))

/-- **WHEN THEY AGREE**. -/
def Sound (view : View S κ ν) (t : Fin n → S) : Option κ × Option ν → Prop
  | (some a, some b) =>
      (∀ i j, accepts (view.ids (t i)) (some a, some b) = true →
        accepts (view.ids (t j)) (some a, some b) = true → i = j)
      ∧ ∀ i, (view.ids (t i)).1 = some a → (view.ids (t i)).2 ≠ none
  | (some a, none) =>
      (∀ i j, (view.ids (t i)).1 = some a → (view.ids (t j)).1 = some a → i = j)
      ∧ ∀ i, (view.ids (t i)).1 = some a → (view.ids (t i)).2 = none
  | (none, some b) => ∀ i, (view.ids (t i)).2 ≠ some b
  | (none, none) => True

-- ── The test and the lookup, by which ids are there ──────────────────────────

section Patterns

variable {ids : Option κ × Option ν} {a : κ} {b : ν}

/-- Two ids are accepted by the second, unless the first is another. -/
theorem accepts_both : accepts ids (some a, some b) = true
    ↔ ids.2 = some b ∧ (ids.1 = none ∨ ids.1 = some a) := by
  obtain ⟨ida, idb⟩ := ids
  cases ida with
  | none =>
      cases idb with
      | none => simp [accepts]
      | some b' => simp [accepts]
  | some a' => simp [accepts]

/-- A first id alone is accepted where there is no second. -/
theorem accepts_first : accepts ids (some a, (none : Option ν)) = true
    ↔ ids.2 = none ∧ ids.1 = some a := by
  obtain ⟨ida, idb⟩ := ids
  cases ida with
  | none =>
      cases idb with
      | none => simp [accepts]
      | some b' => simp [accepts]
  | some a' => simp [accepts]

/-- A second id alone is accepted where there is no first. -/
theorem accepts_second : accepts ids ((none : Option κ), some b) = true
    ↔ ids.2 = some b ∧ ids.1 = none := by
  obtain ⟨ida, idb⟩ := ids
  cases ida with
  | none =>
      cases idb with
      | none => simp [accepts]
      | some b' => simp [accepts]
  | some a' => simp [accepts]

theorem accepts_none : accepts ids ((none : Option κ), (none : Option ν)) = false := by
  obtain ⟨ida, idb⟩ := ids
  cases ida with
  | none =>
      cases idb with
      | none => rfl
      | some b' => rfl
  | some a' => simp [accepts]

/-- Two ids are looked up as a pair. -/
theorem looksUp_both : looksUp ids (some a, some b) = true
    ↔ ids.2 = some b ∧ ids.1 = some a := by
  simp [looksUp]

theorem looksUp_first : looksUp ids (some a, (none : Option ν)) = true
    ↔ ids.1 = some a := by
  simp [looksUp]

theorem looksUp_second : looksUp ids ((none : Option κ), some b) = true
    ↔ ids.2 = some b := by
  simp [looksUp]

end Patterns

-- ── A pair that is found, and one that is not ────────────────────────────────

section Answers

variable {view : View S κ ν} {t t' : Fin n → S} {p : Option κ × Option ν} {k : Fin n}
variable {test : (Fin n → S) → Option κ × Option ν → Except ε (Bool × (Fin n → S))}
variable {look : (Fin n → S) → Option κ × Option ν → Except ε (Fin n)}

/-- The test refuses, the lookup finds nothing, and the pair names no slot. -/
theorem Consistent.of_missed (htest : test t p = .ok (false, t'))
    (hlook : ∀ i, look t' p ≠ .ok i) (hnamed : ∀ i, ¬ Addresses (view.ids (t i)) p) :
    Consistent view test look t p := by
  refine ⟨false, t', htest, ?_, fun i hi => absurd hi (hlook i),
    fun i hi => absurd hi (hnamed i)⟩
  constructor
  · intro hfalse
    exact absurd hfalse Bool.false_ne_true
  · rintro ⟨i, hi⟩
    exact absurd hi (hlook i)

/-- Test, lookup and pair all mean slot `k`, and no other. -/
theorem Consistent.of_found (htest : test t p = .ok (true, t')) (hlook : look t' p = .ok k)
    (haccepts : ∀ j, accepts (view.ids (t j)) p = true ↔ j = k)
    (hlooks : ∀ j, looksUp (view.ids (t' j)) p = true → j = k)
    (hnamed : ∀ i, Addresses (view.ids (t i)) p → i = k) :
    Consistent view test look t p := by
  refine ⟨true, t', htest, ⟨fun _ => ⟨k, hlook⟩, fun _ => rfl⟩, ?_, ?_⟩
  · intro i hi
    have hik : k = i := Except.ok.inj (hlook.symm.trans hi)
    rw [← hik]
    exact ⟨haccepts, hlooks⟩
  · intro i hi
    rw [hnamed i hi]
    exact hlook

end Answers

section Table

variable {view : View S κ ν} {t t' : Fin n → S} {p : Option κ × Option ν}
variable {omitted notFound : ε} {r : Bool} {i : Fin n} {a : κ} {b : ν}

omit [DecidableEq κ] [DecidableEq ν] in
/-- What wants one id at least. -/
theorem unlessNoId_ok {e : ε} {x : Except ε (Fin n)} :
    (if p.1.isNone && p.2.isNone then .error e else x) = .ok i
      ↔ (p.1 ≠ none ∨ p.2 ≠ none) ∧ x = .ok i := by
  by_cases hids : (p.1.isNone && p.2.isNone) = true
  · rw [if_pos hids]
    rw [Bool.and_eq_true, Option.isNone_iff_eq_none, Option.isNone_iff_eq_none] at hids
    exact iff_of_false (fun h => by cases h)
      (fun h => h.1.elim (fun hfst => hfst hids.1) (fun hsnd => hsnd hids.2))
  · rw [if_neg hids]
    rw [Bool.and_eq_true, Option.isNone_iff_eq_none, Option.isNone_iff_eq_none] at hids
    exact ⟨fun h => ⟨not_and_or.mp hids, h⟩, fun h => h.2⟩

/-- The lookup is a search with an id. -/
theorem lookup_ok_iff : lookup view t p notFound = .ok i ↔ (p.1 ≠ none ∨ p.2 ≠ none)
    ∧ find t (fun s => looksUp (view.ids s) p) = some i := by
  rw [lookup, unlessNoId_ok]
  refine and_congr_right (fun _ => ?_)
  cases find t (fun s => looksUp (view.ids s) p) <;> simp

/-- What is looked up is the first slot with the ids. -/
theorem lookup_ok (hp : p.1 ≠ none ∨ p.2 ≠ none) :
    lookup view t p notFound = .ok i
      ↔ find t (fun s => looksUp (view.ids s) p) = some i :=
  lookup_ok_iff.trans (and_iff_right hp)

/-- The test leaves the second ids as they are, and fills in the first id of the
    slot that it accepts. -/
theorem known_ok (h : known view t p omitted = .ok (r, t')) :
    (accepted view t p = none ∧ r = false ∧ t' = t)
      ∨ ∃ k, accepted view t p = some k ∧ r = true
        ∧ (∀ j, j ≠ k → t' j = t j)
        ∧ (view.ids (t' k)).2 = (view.ids (t k)).2
        ∧ ((view.ids (t k)).1 = none → (view.ids (t' k)).1 = p.1)
        ∧ ((view.ids (t k)).1 ≠ none → t' = t) := by
  rw [known] at h
  cases hacc : accepted view t p with
  | none =>
      rw [hacc] at h
      obtain ⟨rfl, rfl⟩ := Prod.mk.inj (Except.ok.inj h)
      exact Or.inl ⟨rfl, rfl, rfl⟩
  | some k =>
      rw [hacc] at h
      refine Or.inr ⟨k, rfl, ?_⟩
      cases hk : (view.ids (t k)).1 with
      | some a' =>
          simp only [hk] at h
          obtain ⟨rfl, rfl⟩ := Prod.mk.inj (Except.ok.inj h)
          refine ⟨rfl, fun _ _ => rfl, rfl, ?_, fun _ => rfl⟩
          intro hnone
          exact nomatch hnone
      | none =>
          cases hp : p.1 with
          | none =>
              simp only [hk, hp] at h
              exact nomatch h
          | some a' =>
              simp only [hk, hp] at h
              obtain ⟨rfl, rfl⟩ := Prod.mk.inj (Except.ok.inj h)
              refine ⟨rfl, fun j hj => Function.update_of_ne hj _ t, ?_, ?_, ?_⟩
              · rw [Function.update_self, view.ids_fill]
              · rw [Function.update_self, view.ids_fill]
                exact fun _ => rfl
              · exact fun hne => absurd rfl hne

/-- A first id that is not missing can be filled in. -/
theorem known_first (view : View S κ ν) (t : Fin n → S) (a : κ) (ob : Option ν)
    (omitted : ε) : ∃ r t', known view t (some a, ob) omitted = .ok (r, t') := by
  rw [known]
  cases accepted view t (some a, ob) with
  | none => exact ⟨_, _, rfl⟩
  | some k =>
      cases hk : (view.ids (t k)).1 with
      | none =>
          simp only [hk]
          exact ⟨_, _, rfl⟩
      | some a' =>
          simp only [hk]
          exact ⟨_, _, rfl⟩

theorem accepted_none :
    accepted view t p = none ↔ ∀ j, accepts (view.ids (t j)) p = false :=
  find_eq_none

theorem accepted_some (h : accepted view t p = some i) :
    accepts (view.ids (t i)) p = true :=
  find_accepts h

-- ── Both ids ─────────────────────────────────────────────────────────────────

/-- A slot that a pair of both ids names is accepted, unless its second id is
    missing. -/
theorem Addresses.accepts_both (h : Addresses (view.ids (t i)) (some a, some b))
    (hb : (view.ids (t i)).1 = some a → (view.ids (t i)).2 ≠ none) :
    accepts (view.ids (t i)) (some a, some b) = true := by
  obtain ⟨hone, hfst, hsnd⟩ := h
  have ha : (view.ids (t i)).1 = none ∨ (view.ids (t i)).1 = some a := by
    rcases hfst with hnone | habs | heq
    · exact Or.inl hnone
    · exact nomatch habs
    · exact Or.inr heq
  refine TwoIds.accepts_both.mpr ⟨?_, ha⟩
  rcases hone with ⟨-, hfirst⟩ | ⟨-, hsecond⟩
  · rcases hsnd with hnone | habs | heq
    · exact absurd hnone (hb hfirst)
    · exact nomatch habs
    · exact heq
  · exact hsecond

/-- **TWO IDS** are found consistently if the slot is sound. -/
theorem consistent_both : Consistent view (fun t p => known view t p omitted)
    (fun t p => lookup view t p notFound) t (some a, some b)
      ↔ Sound view t (some a, some b) := by
  have hlook : ∀ {t'' : Fin n → S} {i : Fin n},
      lookup view t'' (some a, some b) notFound = .ok i
        ↔ find t'' (fun s => looksUp (view.ids s) (some a, some b)) = some i :=
    lookup_ok (Or.inl (Option.some_ne_none a))
  constructor
  · rintro ⟨r, t', hknown, hiff, huniq, haddr⟩
    constructor
    · intro i j hi hj
      rcases known_ok hknown with ⟨hacc, -⟩ | ⟨k, -, htrue, -⟩
      · rw [accepted_none.mp hacc i] at hi
        exact nomatch hi
      · obtain ⟨l, hl⟩ := hiff.mp htrue
        have honly := (huniq l hl).1
        exact ((honly i).mp hi).trans ((honly j).mp hj).symm
    · intro i hi hnone
      have hnamed : Addresses (view.ids (t i)) (some a, some b) :=
        ⟨Or.inl ⟨Option.some_ne_none a, hi⟩, Or.inr (Or.inr hi), Or.inl hnone⟩
      have hfound := find_accepts (hlook.mp (haddr i hnamed))
      have hsnd := (looksUp_both.mp hfound).1
      -- the test does not touch a second id
      have hsame : (view.ids (t' i)).2 = (view.ids (t i)).2 := by
        rcases known_ok hknown with ⟨-, -, heq⟩ | ⟨k, -, -, hother, hk, -⟩
        · rw [heq]
        · by_cases hik : i = k
          · rw [hik]
            exact hk
          · rw [hother i hik]
      rw [hsame, hnone] at hsnd
      exact nomatch hsnd
  · rintro ⟨hone, hserved⟩
    obtain ⟨r, t', hknown⟩ := known_first view t a (some b) omitted
    have hnamed : ∀ i, Addresses (view.ids (t i)) (some a, some b) →
        accepts (view.ids (t i)) (some a, some b) = true :=
      fun i hi => hi.accepts_both (hserved i)
    rcases known_ok hknown with ⟨hacc, rfl, rfl⟩ | ⟨k, hacc, rfl, hother, hk2, hk1, hkeep⟩
    · have hno := accepted_none.mp hacc
      refine .of_missed hknown (fun i hi => ?_)
        (fun i hi => Bool.eq_false_iff.mp (hno i) (hnamed i hi))
      obtain ⟨hb, ha⟩ := looksUp_both.mp (find_accepts (hlook.mp hi))
      exact Bool.eq_false_iff.mp (hno i) (TwoIds.accepts_both.mpr ⟨hb, Or.inr ha⟩)
    · have haccepts := accepted_some hacc
      obtain ⟨hb, ha⟩ := TwoIds.accepts_both.mp haccepts
      have hfilled : looksUp (view.ids (t' k)) (some a, some b) = true := by
        refine looksUp_both.mpr ⟨hk2.trans hb, ?_⟩
        rcases ha with hnone | hsome
        · exact hk1 hnone
        · rw [hkeep (by rw [hsome]; exact Option.some_ne_none a)]
          exact hsome
      have honly : ∀ j, looksUp (view.ids (t' j)) (some a, some b) = true → j = k := by
        intro j hj
        by_contra hjk
        rw [hother j hjk] at hj
        obtain ⟨hjb, hja⟩ := looksUp_both.mp hj
        exact hjk (hone j k (TwoIds.accepts_both.mpr ⟨hjb, Or.inr hja⟩) haccepts)
      refine .of_found hknown (hlook.mpr (find_of_unique hfilled honly))
        (fun j => ⟨fun hj => hone j k hj haccepts, ?_⟩) honly
        (fun i hi => hone i k (hnamed i hi) haccepts)
      rintro rfl
      exact haccepts

-- ── One id, or none ──────────────────────────────────────────────────────────

/-- So is a first id alone. -/
theorem consistent_first : Consistent view (fun t p => known view t p omitted)
    (fun t p => lookup view t p notFound) t (some a, none)
      ↔ Sound view t (some a, none) := by
  have hlook : ∀ {t'' : Fin n → S} {i : Fin n},
      lookup view t'' (some a, none) notFound = .ok i
        ↔ find t'' (fun s => looksUp (view.ids s) (some a, none)) = some i :=
    lookup_ok (Or.inl (Option.some_ne_none a))
  -- the test fills nothing in
  have hsame : ∀ {r t'}, known view t (some a, none) omitted = .ok (r, t') → t' = t := by
    intro r t' hknown
    rcases known_ok hknown with ⟨-, -, heq⟩ | ⟨k, hacc, -, -, -, -, hkeep⟩
    · exact heq
    · refine hkeep ?_
      rw [(accepts_first.mp (accepted_some hacc)).2]
      exact Option.some_ne_none a
  have hnamed : ∀ i, Addresses (view.ids (t i)) (some a, (none : Option ν))
      ↔ (view.ids (t i)).1 = some a := by
    intro i
    constructor
    · rintro ⟨⟨-, hfirst⟩ | ⟨habs, -⟩, -⟩
      · exact hfirst
      · exact absurd rfl habs
    · intro hfirst
      exact ⟨Or.inl ⟨Option.some_ne_none a, hfirst⟩, Or.inr (Or.inr hfirst),
        Or.inr (Or.inl rfl)⟩
  constructor
  · rintro ⟨r, t', hknown, hiff, huniq, haddr⟩
    rw [hsame hknown] at hiff huniq haddr
    constructor
    · intro i j hi hj
      have honly := (huniq i (haddr i ((hnamed i).mpr hi))).2
      exact (honly j (looksUp_first.mpr hj)).symm
    · intro i hi
      have haccepts := (huniq i (haddr i ((hnamed i).mpr hi))).1 i
      exact (accepts_first.mp (haccepts.mpr rfl)).1
  · rintro ⟨hone, hserved⟩
    obtain ⟨r, t', hknown⟩ := known_first view t a (none : Option ν) omitted
    have heq := hsame hknown
    rw [heq] at hknown
    rcases known_ok hknown with ⟨hacc, rfl, -⟩ | ⟨k, hacc, rfl, -⟩
    · have hno : ∀ i, (view.ids (t i)).1 ≠ some a := fun i hi =>
        Bool.eq_false_iff.mp (accepted_none.mp hacc i) (accepts_first.mpr ⟨hserved i hi, hi⟩)
      exact .of_missed hknown
        (fun i hi => hno i (looksUp_first.mp (find_accepts (hlook.mp hi))))
        (fun i hi => hno i ((hnamed i).mp hi))
    · have haccepts := accepted_some hacc
      have hfirst := (accepts_first.mp haccepts).2
      have honly : ∀ j, looksUp (view.ids (t j)) (some a, (none : Option ν)) = true → j = k :=
        fun j hj => hone j k (looksUp_first.mp hj) hfirst
      refine .of_found hknown
        (hlook.mpr (find_of_unique (looksUp_first.mpr hfirst) honly))
        (fun j => ⟨fun hj => hone j k (accepts_first.mp hj).2 hfirst, ?_⟩) honly
        (fun i hi => hone i k ((hnamed i).mp hi) hfirst)
      rintro rfl
      exact haccepts

/-- So is a second id alone. -/
theorem consistent_second : Consistent view (fun t p => known view t p omitted)
    (fun t p => lookup view t p notFound) t (none, some b)
      ↔ Sound view t (none, some b) := by
  have hlook : ∀ {t'' : Fin n → S} {i : Fin n},
      lookup view t'' (none, some b) notFound = .ok i
        ↔ find t'' (fun s => looksUp (view.ids s) (none, some b)) = some i :=
    lookup_ok (Or.inr (Option.some_ne_none b))
  constructor
  · rintro ⟨r, t', hknown, hiff, huniq, haddr⟩ i hi
    have hnamed : Addresses (view.ids (t i)) ((none : Option κ), some b) :=
      ⟨Or.inr ⟨Option.some_ne_none b, hi⟩, Or.inr (Or.inl rfl), Or.inr (Or.inr hi)⟩
    have hacc := ((huniq i (haddr i hnamed)).1 i).mpr rfl
    -- the slot is accepted without a first id, and there is none to fill in
    have hknown' : known view t (none, some b) omitted = .ok (r, t') := hknown
    rw [known] at hknown'
    cases hk : accepted view t (none, some b) with
    | none =>
        rw [accepted_none.mp hk i] at hacc
        exact nomatch hacc
    | some k =>
        have hnone := (accepts_second.mp (accepted_some hk)).2
        rw [hk] at hknown'
        simp only [hnone] at hknown'
        exact nomatch hknown'
  · intro hno
    have hacc : accepted view t (none, some b) = none := by
      refine accepted_none.mpr (fun j => Bool.eq_false_iff.mpr (fun hj => ?_))
      exact hno j (accepts_second.mp hj).1
    have hknown : known view t (none, some b) omitted = .ok (false, t) := by
      rw [known, hacc]
    refine .of_missed hknown
      (fun i hi => hno i (looksUp_second.mp (find_accepts (hlook.mp hi)))) ?_
    rintro i ⟨⟨habs, -⟩ | ⟨-, hb⟩, -⟩
    · exact absurd rfl habs
    · exact absurd hb (hno i)

/-- Without an id nothing is found either way. -/
theorem consistent_none : Consistent view (fun t p => known view t p omitted)
    (fun t p => lookup view t p notFound) t (none, none) := by
  have hacc : accepted view t (none, none) = none :=
    accepted_none.mpr (fun _ => accepts_none)
  have hknown : known view t (none, none) omitted = .ok (false, t) := by
    rw [known, hacc]
  refine .of_missed hknown (fun i hi => nomatch hi) ?_
  rintro i ⟨⟨habs, -⟩ | ⟨habs, -⟩, -⟩
  · exact absurd rfl habs
  · exact absurd rfl habs

/-- **TEST AND LOOKUP**: when they agree, for all four kinds of pairs. -/
theorem consistent_iff (view : View S κ ν) (t : Fin n → S) (p : Option κ × Option ν)
    (omitted notFound : ε) : Consistent view (fun t p => known view t p omitted)
      (fun t p => lookup view t p notFound) t p ↔ Sound view t p := by
  obtain ⟨pa, pb⟩ := p
  cases pa with
  | none =>
      cases pb with
      | none => exact ⟨fun _ => trivial, fun _ => consistent_none⟩
      | some b => exact consistent_second
  | some a =>
      cases pb with
      | none => exact consistent_first
      | some b => exact consistent_both

end Table

-- ── Other tests and lookups ──────────────────────────────────────────────────

section Other

variable {view : View S κ ν} {t : Fin n → S} {p : Option κ × Option ν}
variable {test : (Fin n → S) → Option κ × Option ν → Except ε (Bool × (Fin n → S))}
variable {look : (Fin n → S) → Option κ × Option ν → Except ε (Fin n)}

/-- A test with the same results, and a lookup that finds the same slots in the
    tables that the test leaves. -/
theorem Consistent.congr
    {test' : (Fin n → S) → Option κ × Option ν → Except ε (Bool × (Fin n → S))}
    {look' : (Fin n → S) → Option κ × Option ν → Except ε (Fin n)}
    (htest : test t p = test' t p)
    (hlook : ∀ b t', test t p = .ok (b, t') → ∀ i, look t' p = .ok i ↔ look' t' p = .ok i)
    (h : Consistent view test look t p) : Consistent view test' look' t p := by
  obtain ⟨b, t', hknown, hiff, huniq, haddr⟩ := h
  have hsame := hlook b t' hknown
  refine ⟨b, t', htest ▸ hknown, ?_, ?_, ?_⟩
  · rw [hiff]
    exact exists_congr hsame
  · intro i hi
    exact huniq i ((hsame i).mpr hi)
  · intro i hi
    exact (hsame i).mp (haddr i hi)

/-- So they agree when `known` and `lookup` do. -/
theorem Consistent.iff_sound (omitted notFound : ε) (htest : test t p = known view t p omitted)
    (hlook : ∀ b t', test t p = .ok (b, t') →
      ∀ i, lookup view t' p notFound = .ok i ↔ look t' p = .ok i) :
    Consistent view test look t p ↔ Sound view t p := by
  rw [← consistent_iff view t p omitted notFound]
  constructor
  · intro h
    exact h.congr htest (fun b t' hok i => (hlook b t' hok i).symm)
  · intro h
    exact h.congr htest.symm (fun b t' hok i => hlook b t' (htest.trans hok) i)

/-- **A SLOT THAT THE PAIR NAMES GETS THE MESSAGE**, where test and lookup agree. -/
theorem Consistent.dispatch (h : Consistent view test look t p) {i : Fin n}
    (hi : Addresses (view.ids (t i)) p) :
    ∃ t', TwoIds.dispatch test look t p = .ok (some i, t') := by
  obtain ⟨b, t', hknown, hiff, -, haddr⟩ := h
  have hfound := haddr i hi
  have htrue := hiff.mpr ⟨i, hfound⟩
  refine ⟨t', ?_⟩
  rw [TwoIds.dispatch, hknown]
  show (if b = true then (look t' p).map _ else _) = _
  rw [if_pos htrue, hfound]
  rfl

end Other

end TwoIds
