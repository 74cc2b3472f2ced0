import Mathlib.Data.List.Basic
import Mathlib.Data.List.Pairwise
import Mathlib.Logic.Function.Basic
import Mathlib.Tactic.Common

/-! # Lists of records with keys

    A record may have a key, and no two records of a list have the same one.
    Then the first record with a key is the only one: `holder` finds it, where
    it stands does not matter.  `append`, `filter` and `map_set` say which
    changes of the list keep the keys apart, and `Represents` reads the list as
    a partial map from keys to values. -/

namespace KeyedList

variable {R κ ν : Type}

/-- No two records have the same key. -/
def Unique (key : R → Option κ) (l : List R) : Prop :=
  l.Pairwise (fun a b => ∀ k, key a = some k → key b ≠ some k)

/-- The first record with the key. -/
def holder [DecidableEq κ] (key : R → Option κ) (l : List R) (k : κ) : Option R :=
  l.find? (fun r => decide (key r = some k))

variable {key : R → Option κ} {l : List R} {r : R} {k : κ}

/-- Nothing holds no key twice. -/
theorem unique_nil : Unique key [] := List.Pairwise.nil

/-- Records with one key are one record. -/
theorem Unique.same (h : Unique key l) {a b : R} (ha : a ∈ l) (hb : b ∈ l)
    (hka : key a = some k) (hkb : key b = some k) : a = b := by
  induction l with
  | nil => exact nomatch ha
  | cons c l ih =>
      obtain ⟨hhead, htail⟩ := List.pairwise_cons.mp h
      rcases List.mem_cons.mp ha with rfl | ha' <;>
        rcases List.mem_cons.mp hb with rfl | hb'
      · rfl
      · exact absurd hkb (hhead b hb' k hka)
      · exact absurd hka (hhead a ha' k hkb)
      · exact ih htail ha' hb'

-- ── Searches ─────────────────────────────────────────────────────────────────

section Searches

variable [DecidableEq κ]

/-- Who is found holds the key. -/
theorem holder_some (h : holder key l k = some r) : r ∈ l ∧ key r = some k := by
  rw [holder] at h
  exact ⟨List.mem_of_find?_eq_some h, by simpa using List.find?_some h⟩

/-- Nobody is found if nobody holds it. -/
theorem holder_none : holder key l k = none ↔ ∀ r ∈ l, key r ≠ some k := by
  rw [holder, List.find?_eq_none]
  constructor
  · intro h r hr hk
    exact h r hr (decide_eq_true hk)
  · intro h r hr hk
    exact h r hr (of_decide_eq_true hk)

/-- **THE HOLDER OF A KEY** is the record that has it. -/
theorem Unique.holder_iff (h : Unique key l) :
    holder key l k = some r ↔ r ∈ l ∧ key r = some k := by
  constructor
  · exact holder_some
  · rintro ⟨hr, hk⟩
    cases hf : holder key l k with
    | none => exact absurd hk (holder_none.mp hf r hr)
    | some b =>
        obtain ⟨hb, hkb⟩ := holder_some hf
        rw [h.same hb hr hkb hk]

end Searches

-- ── Changes ──────────────────────────────────────────────────────────────────

/-- A record with a key that none has, or without a key. -/
theorem Unique.append (h : Unique key l)
    (hfree : ∀ k, key r = some k → ∀ a ∈ l, key a ≠ some k) :
    Unique key (l ++ [r]) := by
  refine List.pairwise_append.mpr ⟨h, List.pairwise_singleton _ r, ?_⟩
  intro a ha b hb k hka hkb
  rw [List.mem_singleton.mp hb] at hkb
  exact hfree k hkb a ha hka

/-- Leaving some out keeps the others apart. -/
theorem Unique.filter (h : Unique key l) (p : R → Bool) : Unique key (l.filter p) :=
  List.Pairwise.filter p h

/-- The keys stay as they are. -/
theorem Unique.map_same (h : Unique key l) {f : R → R}
    (hf : ∀ r, key (f r) = key r) : Unique key (l.map f) := by
  refine List.pairwise_map.mpr (List.Pairwise.imp ?_ h)
  intro a b hab
  rw [hf, hf]
  exact hab

/-- A predicate that at most one record meets. -/
def AtMostOne (p : R → Bool) (l : List R) : Prop :=
  l.Pairwise (fun a b => p a = true → p b = false)

/-- **ONE RECORD GETS A KEY** that none has. -/
theorem Unique.map_set (h : Unique key l) {p : R → Bool} {f : R → R}
    (hone : AtMostOne p l) (hset : ∀ r, p r = true → key (f r) = some k)
    (hkeep : ∀ r, p r = false → key (f r) = key r)
    (hfree : ∀ r ∈ l, key r ≠ some k) : Unique key (l.map f) := by
  induction l with
  | nil => exact unique_nil
  | cons a l ih =>
      obtain ⟨hkeys, hrest⟩ := List.pairwise_cons.mp h
      obtain ⟨halone, hone'⟩ := List.pairwise_cons.mp hone
      have hfree' : ∀ r ∈ l, key r ≠ some k :=
        fun r hr => hfree r (List.mem_cons_of_mem a hr)
      refine List.pairwise_cons.mpr ⟨?_, ih hrest hone' hfree'⟩
      intro b hb k' hka hkb
      obtain ⟨c, hc, rfl⟩ := List.mem_map.mp hb
      cases hpa : p a with
      | true =>
          rw [hset a hpa] at hka
          rw [hkeep c (halone c hc hpa), ← hka] at hkb
          exact hfree' c hc hkb
      | false =>
          rw [hkeep a hpa] at hka
          cases hpc : p c with
          | true =>
              rw [hset c hpc, ← hka] at hkb
              exact hfree a List.mem_cons_self hkb.symm
          | false =>
              rw [hkeep c hpc] at hkb
              exact hkeys c hc k' hka hkb

/-- What a list without two records of a key gives for a search by key. -/
theorem Unique.atMostOne [DecidableEq κ] (h : Unique key l) (k : κ) :
    AtMostOne (fun r => decide (key r = some k)) l := by
  refine List.Pairwise.imp ?_ h
  intro a b hab ha
  exact decide_eq_false (hab k (of_decide_eq_true ha))

/-- **CHANGE WHERE IT IS FOUND**: the change of the record at the index found is
    the change of every record that the search accepts. -/
theorem modify_findIdx {p : R → Bool} {f : R → R} {i : Nat} (hone : AtMostOne p l)
    (hi : l.findIdx? p = some i) :
    l.modify i f = l.map (fun r => if p r = true then f r else r) := by
  induction l generalizing i with
  | nil => exact nomatch hi
  | cons a l ih =>
      obtain ⟨halone, hone'⟩ := List.pairwise_cons.mp hone
      rw [List.findIdx?_cons] at hi
      cases hpa : p a with
      | true =>
          rw [hpa] at hi
          rw [← Option.some.inj hi, List.map_cons, if_pos hpa]
          have hrest : l.map (fun r => if p r = true then f r else r) = l := by
            refine (List.map_congr_left ?_).trans (List.map_id l)
            intro b hb
            rw [halone b hb hpa]
            rfl
          rw [hrest]
          rfl
      | false =>
          rw [hpa] at hi
          obtain ⟨j, hj, rfl⟩ := Option.map_eq_some_iff.mp hi
          rw [List.map_cons, List.modify_succ_cons, ih hone' hj, hpa]
          rfl

/-- **DELETION WHERE IT IS FOUND** takes out every record that the search
    accepts. -/
theorem eraseIdx_findIdx {p : R → Bool} {i : Nat} (hone : AtMostOne p l)
    (hi : l.findIdx? p = some i) : l.eraseIdx i = l.filter (fun r => !p r) := by
  induction l generalizing i with
  | nil => exact nomatch hi
  | cons a l ih =>
      obtain ⟨halone, hone'⟩ := List.pairwise_cons.mp hone
      rw [List.findIdx?_cons] at hi
      cases hpa : p a with
      | true =>
          rw [hpa] at hi
          have hrest : l.filter (fun r => !p r) = l :=
            List.filter_eq_self.mpr fun b hb => by rw [halone b hb hpa]; rfl
          rw [← Option.some.inj hi, List.filter_cons_of_neg (by rw [hpa]; decide), hrest]
          rfl
      | false =>
          rw [hpa] at hi
          obtain ⟨j, hj, rfl⟩ := Option.map_eq_some_iff.mp hi
          rw [List.eraseIdx_cons_succ, List.filter_cons_of_pos (by rw [hpa]; rfl), ih hone' hj]

/-- What is at the index found is what is found. -/
theorem findIdx_get (p : R → Bool) :
    (l.findIdx? p).bind (fun i => l[i]?) = l.find? p := by
  induction l with
  | nil => rfl
  | cons a l ih =>
      rw [List.findIdx?_cons, List.find?_cons]
      cases hpa : p a with
      | true => rfl
      | false =>
          rw [← ih]
          cases l.findIdx? p <;> rfl

/-- The last record is changed. -/
theorem modify_append_length (l : List R) (a : R) (f : R → R) :
    (l ++ [a]).modify l.length f = l ++ [f a] := by
  induction l with
  | nil => rfl
  | cons b l ih => exact congrArg (List.cons b) ih

-- ── Lists as maps ────────────────────────────────────────────────────────────

/-- The list has a record for every key of the map, and no other key. -/
structure Represents (key : R → Option κ) (val : R → ν) (l : List R)
    (g : κ → Option ν) : Prop where
  unique : Unique key l
  holds : ∀ k v, g k = some v ↔ ∃ r ∈ l, key r = some k ∧ val r = v

variable {val : R → ν} {g : κ → Option ν}

/-- Nothing represents the empty map. -/
theorem represents_nil : Represents key val [] (fun _ => none) where
  unique := unique_nil
  holds := by simp

/-- Who holds a key holds its value. -/
theorem Represents.get (h : Represents key val l g) (hr : r ∈ l)
    (hk : key r = some k) : g k = some (val r) :=
  (h.holds k (val r)).mpr ⟨r, hr, hk, rfl⟩

/-- A key without a value is held by nobody. -/
theorem Represents.get_none (h : Represents key val l g) :
    g k = none ↔ ∀ r ∈ l, key r ≠ some k := by
  rw [Option.eq_none_iff_forall_ne_some]
  constructor
  · intro hnone r hr hk
    exact hnone _ (h.get hr hk)
  · intro hno v hg
    obtain ⟨r, hr, hk, -⟩ := (h.holds k v).mp hg
    exact hno r hr hk

/-- **A SEARCH BY KEY** reads the map. -/
theorem Represents.holder [DecidableEq κ] (h : Represents key val l g) (k : κ) :
    (KeyedList.holder key l k).map val = g k := by
  cases hf : KeyedList.holder key l k with
  | none => exact (h.get_none.mpr (holder_none.mp hf)).symm
  | some r =>
      obtain ⟨hr, hk⟩ := holder_some hf
      exact (h.get hr hk).symm

/-- A record with a key that the map does not have. -/
theorem Represents.append [DecidableEq κ] (h : Represents key val l g)
    (hk : key r = some k) (hg : g k = none) :
    Represents key val (l ++ [r]) (Function.update g k (some (val r))) := by
  have hfree := h.get_none.mp hg
  constructor
  · refine h.unique.append ?_
    intro k' hk'
    rw [hk] at hk'
    rw [← Option.some.inj hk']
    exact hfree
  · intro k' v
    by_cases hkk : k' = k
    · rw [hkk, Function.update_self]
      constructor
      · intro hv
        exact ⟨r, List.mem_append_right l (List.mem_singleton.mpr rfl), hk,
          Option.some.inj hv⟩
      · rintro ⟨a, ha, hka, rfl⟩
        rcases List.mem_append.mp ha with ha' | ha'
        · exact absurd hka (hfree a ha')
        · rw [List.mem_singleton.mp ha']
    · rw [Function.update_of_ne hkk, h.holds]
      constructor
      · rintro ⟨a, ha, hrest⟩
        exact ⟨a, List.mem_append_left _ ha, hrest⟩
      · rintro ⟨a, ha, hka, hv⟩
        rcases List.mem_append.mp ha with ha' | ha'
        · exact ⟨a, ha', hka, hv⟩
        · rw [List.mem_singleton.mp ha', hk] at hka
          exact absurd (Option.some.inj hka).symm hkk

/-- The record with the key gets another value. -/
theorem Represents.map_set [DecidableEq κ] (h : Represents key val l g) {f : R → R}
    {u : ν → ν} (hkey : ∀ r, key (f r) = key r) (hval : ∀ r, val (f r) = u (val r)) :
    Represents key val (l.map (fun r => if decide (key r = some k) = true then f r else r))
      (Function.update g k ((g k).map u)) := by
  constructor
  · refine h.unique.map_same ?_
    intro r
    split
    · exact hkey r
    · rfl
  · intro k' v
    by_cases hkk : k' = k
    · rw [hkk, Function.update_self, Option.map_eq_some_iff]
      constructor
      · rintro ⟨w, hw, rfl⟩
        obtain ⟨r, hr, hk, rfl⟩ := (h.holds k w).mp hw
        refine ⟨f r, List.mem_map.mpr ⟨r, hr, ?_⟩, (hkey r).trans hk, hval r⟩
        rw [decide_eq_true hk, if_pos rfl]
      · rintro ⟨a, ha, hka, rfl⟩
        obtain ⟨r, hr, rfl⟩ := List.mem_map.mp ha
        by_cases hk : key r = some k
        · rw [decide_eq_true hk, if_pos rfl, hval]
          exact ⟨val r, h.get hr hk, rfl⟩
        · rw [decide_eq_false hk, if_neg Bool.false_ne_true] at hka
          exact absurd hka hk
    · rw [Function.update_of_ne hkk, h.holds]
      constructor
      · rintro ⟨r, hr, hk, hv⟩
        have hne : key r ≠ some k := by
          rw [hk]
          exact fun heq => hkk (Option.some.inj heq)
        refine ⟨r, List.mem_map.mpr ⟨r, hr, ?_⟩, hk, hv⟩
        rw [decide_eq_false hne, if_neg Bool.false_ne_true]
      · rintro ⟨a, ha, hka, hv⟩
        obtain ⟨r, hr, rfl⟩ := List.mem_map.mp ha
        by_cases hk : key r = some k
        · rw [decide_eq_true hk, if_pos rfl, hkey, hk] at hka
          exact absurd (Option.some.inj hka).symm hkk
        · rw [decide_eq_false hk, if_neg Bool.false_ne_true] at hka hv
          exact ⟨r, hr, hka, hv⟩

/-- The records with the key are taken out. -/
theorem Represents.filter [DecidableEq κ] (h : Represents key val l g) (k : κ)
    {p : R → Bool} (hp : ∀ r ∈ l, p r = true ↔ key r ≠ some k) :
    Represents key val (l.filter p) (Function.update g k none) := by
  refine ⟨h.unique.filter p, fun k' v => ?_⟩
  by_cases hkk : k' = k
  · rw [hkk, Function.update_self]
    constructor
    · exact fun hv => nomatch hv
    · rintro ⟨a, ha, hka, -⟩
      obtain ⟨hal, hpa⟩ := List.mem_filter.mp ha
      exact absurd hka ((hp a hal).mp hpa)
  · rw [Function.update_of_ne hkk, h.holds]
    constructor
    · rintro ⟨a, ha, hka, hv⟩
      refine ⟨a, List.mem_filter.mpr ⟨ha, (hp a ha).mpr ?_⟩, hka, hv⟩
      rw [hka]
      exact fun heq => hkk (Option.some.inj heq)
    · rintro ⟨a, ha, hrest⟩
      exact ⟨a, (List.mem_filter.mp ha).1, hrest⟩

/-- Nothing was taken out: the map does not have the key. -/
theorem Represents.filter_length (h : Represents key val l g)
    {p : R → Bool} (hp : ∀ r ∈ l, p r = true ↔ key r ≠ some k) :
    (l.filter p).length = l.length ↔ g k = none := by
  rw [List.length_filter_eq_length_iff, h.get_none]
  exact forall₂_congr hp

end KeyedList
