import OsmoTtcn.SlotMapProofs

/-! # Tables of keyed slots

    A slot has a field for a key and one for a value, and is free where the key
    is absent.  A table keeps a partial map when it represents the map and no
    slot in use lacks its value.  Searches for a key and for a free slot then
    come out as the map says.

    Where the field has one value that means free, the key is what `keyUnless`
    makes of it, and searches of the field are searches for the key. -/

namespace KeyedSlots

open SlotTable SlotMap

variable {n : Nat} {S κ ν : Type} {keyOf : S → Option κ} {valOf : S → Option ν}

/-- What a slot holds, of its two fields. -/
def held (keyOf : S → Option κ) (valOf : S → Option ν) (s : S) : Option (κ × ν) :=
  (keyOf s).bind (fun k => (valOf s).map (fun v => (k, v)))

/-- The table holds what the map has, and no slot in use lacks its value. -/
structure Keeps (keyOf : S → Option κ) (valOf : S → Option ν) (t : Fin n → S)
    (g : κ → Option ν) : Prop where
  rep : Represents (held keyOf valOf) t g
  whole : ∀ i, keyOf (t i) ≠ none → valOf (t i) ≠ none

variable {t : Fin n → S} {g : κ → Option ν} {i : Fin n} {s : S} {k : κ} {v : ν}

/-- A slot without a key holds nothing. -/
theorem held_free (h : keyOf s = none) : held keyOf valOf s = none := by
  rw [held, h]
  rfl

/-- A slot with a key and a value holds them. -/
theorem held_eq (hk : keyOf s = some k) (hv : valOf s = some v) :
    held keyOf valOf s = some (k, v) := by
  rw [held, hk, hv]
  rfl

/-- What a slot holds are its key and its value. -/
theorem held_some (h : held keyOf valOf s = some (k, v)) :
    keyOf s = some k ∧ valOf s = some v := by
  obtain ⟨k', hk, hrest⟩ := Option.bind_eq_some_iff.mp h
  obtain ⟨v', hv, heq⟩ := Option.map_eq_some_iff.mp hrest
  obtain ⟨rfl, rfl⟩ := Prod.mk.inj heq
  exact ⟨hk, hv⟩

/-- A table without keys keeps nothing. -/
theorem keeps_empty (h : ∀ i, keyOf (t i) = none) :
    Keeps keyOf valOf t (fun _ => none) where
  rep := represents_empty (fun i => held_free (h i))
  whole := fun i hne => absurd (h i) hne

/-- A slot that holds nothing has no key. -/
theorem Keeps.free (h : Keeps keyOf valOf t g) (he : held keyOf valOf (t i) = none) :
    keyOf (t i) = none := by
  by_contra hne
  obtain ⟨k, hk⟩ := Option.ne_none_iff_exists'.mp hne
  obtain ⟨v, hv⟩ := Option.ne_none_iff_exists'.mp (h.whole i hne)
  rw [held_eq hk hv] at he
  exact nomatch he

-- ── Searches ─────────────────────────────────────────────────────────────────

section Searches

variable [DecidableEq κ]

/-- A test for a key accepts the slot of the key. -/
theorem Keeps.accepts (h : Keeps keyOf valOf t g) (k : κ) (i : Fin n) :
    decide (keyOf (t i) = some k) = true ↔ ∃ v, held keyOf valOf (t i) = some (k, v) := by
  refine accepts_iff (p := fun s => decide (keyOf s = some k)) ?_ ?_ i
  · intro j hj
    rw [h.free hj]
    exact decide_eq_false nofun
  · intro j k' v' hj
    rw [decide_eq_true_iff, (held_some hj).1, Option.some_inj]

/-- A key is searched in vain if nothing is kept under it. -/
theorem Keeps.find_none (h : Keeps keyOf valOf t g) (k : κ) :
    find t (fun s => decide (keyOf s = some k)) = none ↔ g k = none :=
  h.rep.find_none (p := fun s => decide (keyOf s = some k)) (h.accepts k)

/-- Else its slot is found, with the value. -/
theorem Keeps.find_some (h : Keeps keyOf valOf t g) (hg : g k = some v) :
    ∃ i, find t (fun s => decide (keyOf s = some k)) = some i
      ∧ keyOf (t i) = some k ∧ valOf (t i) = some v := by
  obtain ⟨i, hf, hi⟩ := h.rep.find_of_get (p := fun s => decide (keyOf s = some k))
    (h.accepts k) hg
  exact ⟨i, hf, held_some hi⟩

/-- A key is found if something is kept under it. -/
theorem Keeps.isSome_find (h : Keeps keyOf valOf t g) (k : κ) :
    (find t (fun s => decide (keyOf s = some k))).isSome = (g k).isSome := by
  cases hg : g k with
  | none =>
      rw [(h.find_none k).mpr hg]
      rfl
  | some v =>
      obtain ⟨i, hf, -⟩ := h.find_some hg
      rw [hf]
      rfl

end Searches

-- ── Changes ──────────────────────────────────────────────────────────────────

/-- A slot that changes together with the map. -/
theorem Keeps.update (h : Keeps keyOf valOf t g) {g' : κ → Option ν}
    (hrep : Represents (held keyOf valOf) (Function.update t i s) g')
    (hs : keyOf s ≠ none → valOf s ≠ none) :
    Keeps keyOf valOf (Function.update t i s) g' := by
  refine ⟨hrep, fun j hne => ?_⟩
  by_cases hj : j = i
  · rw [hj, Function.update_self] at hne ⊢
    exact hs hne
  · rw [Function.update_of_ne hj] at hne ⊢
    exact h.whole j hne

/-- **A NEW KEY** takes the first free slot, unless all are in use. -/
theorem Keeps.add [DecidableEq κ] (h : Keeps keyOf valOf t g) (hg : g k = none) (v : ν) :
    (∃ i, find t (fun s => (keyOf s).isNone) = some i
        ∧ ∀ s, keyOf s = some k → valOf s = some v →
          Keeps keyOf valOf (Function.update t i s) (Function.update g k (some v)))
      ∨ find t (fun s => (keyOf s).isNone) = none ∧ Full n g := by
  cases hf : find t (fun s => (keyOf s).isNone) with
  | none =>
      refine Or.inr ⟨rfl, h.rep.full (fun i he => ?_)⟩
      have hused := find_eq_none.mp hf i
      rw [h.free he] at hused
      exact nomatch hused
  | some i =>
      have hacc := find_accepts hf
      have hfree : keyOf (t i) = none := Option.isNone_iff_eq_none.mp hacc
      refine Or.inl ⟨i, rfl, fun s hk hv => h.update ?_ (fun _ => ?_)⟩
      · exact h.rep.add (held_free hfree) hg (held_eq hk hv)
      · rw [hv]
        exact Option.some_ne_none v

/-- Where a free slot is found, there is room. -/
theorem Keeps.not_full (h : Keeps keyOf valOf t g)
    (hf : find t (fun s => (keyOf s).isNone) = some i) : ¬ Full n g :=
  h.rep.not_full (held_free (Option.isNone_iff_eq_none.mp (find_accepts hf)))

/-- **A KEY GETS ANOTHER VALUE**, in its slot. -/
theorem Keeps.set [DecidableEq κ] (h : Keeps keyOf valOf t g) {v' : ν}
    (hk : keyOf (t i) = some k) (hv : valOf (t i) = some v') (hk' : keyOf s = some k)
    (hv' : valOf s = some v) :
    Keeps keyOf valOf (Function.update t i s) (Function.update g k (some v)) := by
  refine h.update (h.rep.set (held_eq hk hv) (held_eq hk' hv')) (fun _ => ?_)
  rw [hv']
  exact Option.some_ne_none v

/-- **A KEY GOES**: its slot is freed. -/
theorem Keeps.del [DecidableEq κ] (h : Keeps keyOf valOf t g) (hk : keyOf (t i) = some k)
    (hv : valOf (t i) = some v) (hs : keyOf s = none) :
    Keeps keyOf valOf (Function.update t i s) (Function.update g k none) :=
  h.update (h.rep.del (held_eq hk hv) (held_free hs)) (fun hne => absurd hs hne)

-- ── A value that means free ──────────────────────────────────────────────────

section FreeKey

variable [DecidableEq κ] {free : κ} {field : S → κ}

/-- The key in a field that has one value for a free slot. -/
def keyUnless (free : κ) (field : S → κ) (s : S) : Option κ :=
  if field s = free then none else some (field s)

/-- A field is a key unless it is the mark of a free slot. -/
theorem keyUnless_some (hk : k ≠ free) : keyUnless free field s = some k ↔ field s = k := by
  rw [keyUnless]
  by_cases hs : field s = free
  · rw [if_pos hs, hs]
    exact iff_of_false (Option.some_ne_none k).symm hk.symm
  · rw [if_neg hs, Option.some_inj]

/-- The mark of a free slot is no key. -/
theorem keyUnless_none : keyUnless free field s = none ↔ field s = free := by
  rw [keyUnless]
  by_cases hs : field s = free
  · rw [if_pos hs]
    exact iff_of_true rfl hs
  · rw [if_neg hs]
    exact iff_of_false (Option.some_ne_none _) hs

/-- A table that is kept under such keys, by what its slots hold. -/
theorem keeps_keyUnless (entry : S → Option (κ × ν)) (hentry : ∀ s, entry s
      = if field s = free then none else (valOf s).map (fun v => (field s, v))) :
    Keeps (keyUnless free field) valOf t g
      ↔ Represents entry t g ∧ ∀ i, field (t i) ≠ free → valOf (t i) ≠ none := by
  have hheld : entry = held (keyUnless free field) valOf := by
    funext s
    rw [hentry, held, keyUnless]
    by_cases hs : field s = free
    · rw [if_pos hs, if_pos hs]
      rfl
    · rw [if_neg hs, if_neg hs]
      rfl
  rw [hheld]
  constructor
  · rintro ⟨hrep, hwhole⟩
    exact ⟨hrep, fun i hne => hwhole i (fun hnone => hne (keyUnless_none.mp hnone))⟩
  · rintro ⟨hrep, hwhole⟩
    exact ⟨hrep, fun i hne => hwhole i (fun hfree => hne (keyUnless_none.mpr hfree))⟩

/-- A search of the field for a key. -/
theorem find_keyUnless (hk : k ≠ free) (t : Fin n → S) :
    find t (fun s => decide (field s = k))
      = find t (fun s => decide (keyUnless free field s = some k)) := by
  congr 1
  funext s
  exact decide_eq_decide.mpr (keyUnless_some hk).symm

/-- A search of the field for a free slot. -/
theorem find_keyUnless_none (t : Fin n → S) :
    find t (fun s => decide (field s = free))
      = find t (fun s => (keyUnless free field s).isNone) := by
  congr 1
  funext s
  rw [Bool.eq_iff_iff, decide_eq_true_iff, Option.isNone_iff_eq_none]
  exact keyUnless_none.symm

end FreeKey

end KeyedSlots
