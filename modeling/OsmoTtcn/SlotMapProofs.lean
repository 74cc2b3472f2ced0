import Mathlib.Data.Fintype.Card
import Mathlib.Data.List.FinRange
import OsmoTtcn.SlotTableProofs

/-! # Tables of slots as maps

    A slot is free or holds a value under a key.  A table in which no key is
    held twice represents a partial map: a search for a key finds the slot that
    holds it, and finds none exactly where the map has nothing.  `add`, `set`
    and `keep` say how the map changes with a slot. -/

namespace SlotMap

open SlotTable

variable {n : Nat} {S κ ν : Type}

/-- The key that a slot holds. -/
def key (entry : S → Option (κ × ν)) (s : S) : Option κ := (entry s).map Prod.fst

/-- The table holds what the map has, each key once. -/
structure Represents (entry : S → Option (κ × ν)) (t : Fin n → S)
    (g : κ → Option ν) : Prop where
  unique : KeyUnique (key entry) t
  holds : ∀ k v, g k = some v ↔ ∃ i, entry (t i) = some (k, v)

/-- The map has something under `n` keys. -/
def Full (n : Nat) (g : κ → Option ν) : Prop :=
  ∃ ks : List κ, ks.Nodup ∧ ks.length = n ∧ ∀ k ∈ ks, g k ≠ none

variable {entry : S → Option (κ × ν)} {t : Fin n → S} {g : κ → Option ν}
variable {i : Fin n} {s : S} {k : κ} {p : S → Bool}

theorem key_eq_some : key entry s = some k ↔ ∃ v, entry s = some (k, v) := by
  rw [key, Option.map_eq_some_iff]
  constructor
  · rintro ⟨⟨k', v⟩, he, rfl⟩
    exact ⟨v, he⟩
  · rintro ⟨v, he⟩
    exact ⟨(k, v), he, rfl⟩

/-- A test that accepts the slots that hold a key, and no free slot. -/
theorem accepts_iff (hfree : ∀ i, entry (t i) = none → p (t i) = false)
    (hkey : ∀ i k' v, entry (t i) = some (k', v) → (p (t i) = true ↔ k' = k)) (i : Fin n) :
    p (t i) = true ↔ ∃ v, entry (t i) = some (k, v) := by
  cases he : entry (t i) with
  | none =>
      rw [hfree i he]
      exact ⟨fun h => (nomatch h), fun ⟨v, hv⟩ => (nomatch hv)⟩
  | some e =>
      obtain ⟨k', v⟩ := e
      rw [hkey i k' v he]
      constructor
      · rintro rfl
        exact ⟨v, rfl⟩
      · rintro ⟨v', hv'⟩
        exact (Prod.mk.inj (Option.some.inj hv')).1

theorem represents_empty (h : ∀ i, entry (t i) = none) :
    Represents entry t (fun _ => none) where
  unique := by
    intro a b k' ha
    rw [key, h a] at ha
    exact nomatch ha
  holds := by
    intro k' v
    constructor
    · intro hg
      exact nomatch hg
    · rintro ⟨a, ha⟩
      rw [h a] at ha
      exact nomatch ha

/-- Two slots with one key are one slot, with one value. -/
theorem Represents.same (h : Represents entry t g) {j : Fin n} {v v' : ν}
    (hi : entry (t i) = some (k, v)) (hj : entry (t j) = some (k, v')) :
    i = j ∧ v = v' := by
  have hij : i = j := h.unique i j k (key_eq_some.mpr ⟨v, hi⟩)
    (key_eq_some.mpr ⟨v', hj⟩)
  rw [hij, hj] at hi
  exact ⟨hij, (Prod.mk.inj (Option.some.inj hi)).2.symm⟩

theorem Represents.get (h : Represents entry t g) {v : ν}
    (hi : entry (t i) = some (k, v)) : g k = some v :=
  (h.holds k v).mpr ⟨i, hi⟩

/-- Where the map has nothing, no slot holds the key. -/
theorem Represents.get_none (h : Represents entry t g) :
    g k = none ↔ ∀ i v, entry (t i) ≠ some (k, v) := by
  rw [Option.eq_none_iff_forall_ne_some]
  constructor
  · intro hnone i v hi
    exact hnone v (h.get hi)
  · intro hno v hg
    obtain ⟨i, hi⟩ := (h.holds k v).mp hg
    exact hno i v hi

-- ── Searches ─────────────────────────────────────────────────────────────────

/-- **A SEARCH FOR A KEY** finds the slot that holds it. -/
theorem Represents.find_iff (h : Represents entry t g)
    (hp : ∀ i, p (t i) = true ↔ ∃ v, entry (t i) = some (k, v)) :
    find t p = some i ↔ ∃ v, entry (t i) = some (k, v) := by
  constructor
  · intro hf
    exact (hp _).mp (find_accepts hf)
  · rintro ⟨v, hi⟩
    refine find_of_unique ((hp _).mpr ⟨v, hi⟩) (fun j hj => ?_)
    obtain ⟨v', hj'⟩ := (hp _).mp hj
    exact (h.same hj' hi).1

theorem Represents.find_of_get (h : Represents entry t g)
    (hp : ∀ i, p (t i) = true ↔ ∃ v, entry (t i) = some (k, v)) {v : ν}
    (hg : g k = some v) : ∃ i, find t p = some i ∧ entry (t i) = some (k, v) := by
  obtain ⟨i, hi⟩ := (h.holds k v).mp hg
  exact ⟨i, (h.find_iff hp).mpr ⟨v, hi⟩, hi⟩

theorem Represents.find_none (h : Represents entry t g)
    (hp : ∀ i, p (t i) = true ↔ ∃ v, entry (t i) = some (k, v)) :
    find t p = none ↔ g k = none := by
  rw [find_eq_none, h.get_none]
  constructor
  · intro hall i v hi
    have htrue := (hp i).mpr ⟨v, hi⟩
    rw [hall i] at htrue
    exact nomatch htrue
  · intro hno i
    refine Bool.eq_false_iff.mpr (fun htrue => ?_)
    obtain ⟨v, hi⟩ := (hp i).mp htrue
    exact hno i v hi

-- ── Changes ──────────────────────────────────────────────────────────────────

/-- **ONE SLOT CHANGES**, and with it what the map has under one key.  The slot
    was free or held that key, and no other slot holds it. -/
theorem Represents.update [DecidableEq κ] (h : Represents entry t g)
    {ov : Option ν} (hwas : ∀ k' v', entry (t i) = some (k', v') → k' = k)
    (halone : ∀ j, j ≠ i → ∀ v', entry (t j) ≠ some (k, v'))
    (hs : entry s = ov.map (fun v => (k, v))) :
    Represents entry (Function.update t i s) (Function.update g k ov) := by
  have hnew : ∀ k' v', entry s = some (k', v') → k' = k ∧ ov = some v' := by
    intro k' v' he
    rw [hs] at he
    obtain ⟨v, hv, heq⟩ := Option.map_eq_some_iff.mp he
    obtain ⟨rfl, rfl⟩ := Prod.mk.inj heq
    exact ⟨rfl, hv⟩
  constructor
  · refine h.unique.update (fun k' hk' j hj hkj => ?_)
    obtain ⟨v', hv'⟩ := key_eq_some.mp hk'
    obtain ⟨v'', hv''⟩ := key_eq_some.mp hkj
    rw [(hnew k' v' hv').1] at hv''
    exact halone j hj v'' hv''
  · intro k' v
    by_cases hk : k' = k
    · rw [hk, Function.update_self]
      constructor
      · intro hov
        exact ⟨i, by rw [Function.update_self, hs, hov]; rfl⟩
      · rintro ⟨j, hj⟩
        by_cases hji : j = i
        · rw [hji, Function.update_self] at hj
          exact (hnew k v hj).2
        · rw [Function.update_of_ne hji] at hj
          exact absurd hj (halone j hji v)
    · rw [Function.update_of_ne hk, h.holds]
      constructor
      · rintro ⟨j, hj⟩
        have hji : j ≠ i := fun heq => hk (hwas k' v (heq ▸ hj))
        exact ⟨j, by rw [Function.update_of_ne hji]; exact hj⟩
      · rintro ⟨j, hj⟩
        by_cases hji : j = i
        · rw [hji, Function.update_self] at hj
          exact absurd (hnew k' v hj).1 hk
        · rw [Function.update_of_ne hji] at hj
          exact ⟨j, hj⟩

/-- A free slot takes a key that the map does not have. -/
theorem Represents.add [DecidableEq κ] (h : Represents entry t g) {v : ν}
    (hfree : entry (t i) = none) (hg : g k = none) (hs : entry s = some (k, v)) :
    Represents entry (Function.update t i s) (Function.update g k (some v)) := by
  refine h.update (fun k' v' he => ?_) (fun j _ => h.get_none.mp hg j) hs
  rw [hfree] at he
  exact nomatch he

/-- The slot of a key gets another value, or is freed. -/
theorem Represents.set [DecidableEq κ] (h : Represents entry t g) {v : ν}
    {ov : Option ν} (hi : entry (t i) = some (k, v))
    (hs : entry s = ov.map (fun v => (k, v))) :
    Represents entry (Function.update t i s) (Function.update g k ov) := by
  refine h.update (fun k' v' he => ?_) (fun j hj v' he => hj (h.same he hi).1) hs
  rw [hi] at he
  exact (Prod.mk.inj (Option.some.inj he)).1.symm

/-- The slot of a key is freed. -/
theorem Represents.del [DecidableEq κ] (h : Represents entry t g) {v : ν}
    (hi : entry (t i) = some (k, v)) (hs : entry s = none) :
    Represents entry (Function.update t i s) (Function.update g k none) :=
  h.set hi hs

/-- A table without a free slot represents a full map. -/
theorem Represents.full (h : Represents entry t g)
    (hfull : ∀ i, entry (t i) ≠ none) : Full n g := by
  have hkey : ∀ i, ∃ k v, entry (t i) = some (k, v) := by
    intro i
    obtain ⟨⟨k, v⟩, he⟩ := Option.ne_none_iff_exists'.mp (hfull i)
    exact ⟨k, v, he⟩
  choose k v hkv using hkey
  refine ⟨List.ofFn k, ?_, List.length_ofFn, fun a ha => ?_⟩
  · refine List.nodup_ofFn.mpr (fun a b hab => ?_)
    exact h.unique a b (k b) (key_eq_some.mpr ⟨v a, hab ▸ hkv a⟩)
      (key_eq_some.mpr ⟨v b, hkv b⟩)
  · obtain ⟨i, rfl⟩ := (List.mem_ofFn' k a).mp ha
    rw [h.get (hkv i)]
    exact Option.some_ne_none _

/-- A table with a free slot does not. -/
theorem Represents.not_full (h : Represents entry t g) (hi : entry (t i) = none) :
    ¬ Full n g := by
  rintro ⟨ks, hnodup, hlen, hall⟩
  have hslot : ∀ k : {k // k ∈ ks}, ∃ j v, entry (t j) = some (k.1, v) := by
    rintro ⟨k, hk⟩
    obtain ⟨v, hv⟩ := Option.ne_none_iff_exists'.mp (hall k hk)
    obtain ⟨j, hj⟩ := (h.holds k v).mp hv
    exact ⟨j, v, hj⟩
  choose slot v hslot using hslot
  have hinj : Function.Injective slot := by
    intro a b hab
    have ha := hslot a
    rw [hab, hslot b] at ha
    exact Subtype.ext (Prod.mk.inj (Option.some.inj ha)).1.symm
  have hfree : i ∉ ks.attach.map slot := by
    rw [List.mem_map]
    rintro ⟨a, -, rfl⟩
    rw [hslot a] at hi
    exact absurd hi (Option.some_ne_none _)
  have hle : (i :: ks.attach.map slot).length ≤ Fintype.card (Fin n) :=
    (List.nodup_cons.mpr ⟨hfree, (List.nodup_attach.mpr hnodup).map hinj⟩).length_le_card
  rw [List.length_cons, List.length_map, List.length_attach, hlen, Fintype.card_fin] at hle
  omega

theorem not_full_of_none (h : ∀ k, g k = none) (hn : 0 < n) : ¬ Full n g := by
  rintro ⟨ks, -, hlen, hall⟩
  cases ks with
  | nil => exact absurd hlen (Nat.ne_of_lt hn)
  | cons k ks => exact hall k List.mem_cons_self (h k)

end SlotMap
