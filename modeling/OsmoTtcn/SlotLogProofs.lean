import OsmoTtcn.SlotTableProofs

/-! # Tables that only fill up

    Entries are put into the first free slot and never taken out, so a table
    holds what was put in, in that order, from the front.  A search of the table
    is then a search of that list: what was put in first is found.

    Where an entry has a key, `upsert` overwrites the entry with the key, and is
    one more entry only where there is none.  One search that accepts the key
    and the free slots does it: the free slots are behind all others. -/

namespace SlotLog

open SlotTable

variable {n : Nat} {S E : Type}

/-- The slots hold the list from the front, and are free behind it. -/
structure Logs (slot : Option E → S) (t : Fin n → S) (l : List E) : Prop where
  fits : l.length ≤ n
  holds : ∀ i : Fin n, t i = slot l[i.val]?

variable {slot : Option E → S} {t : Fin n → S} {l : List E} {p : S → Bool}
variable {q : E → Bool} {e : E}

theorem logs_empty (h : ∀ i, t i = slot none) : Logs slot t [] where
  fits := Nat.zero_le n
  holds := fun i => h i

/-- What is in the list is in a slot. -/
theorem Logs.mem_iff (h : Logs slot t l) : e ∈ l ↔ ∃ i : Fin n, l[i.val]? = some e := by
  rw [List.mem_iff_getElem?]
  constructor
  · rintro ⟨i, hi⟩
    obtain ⟨hlt, -⟩ := List.getElem?_eq_some_iff.mp hi
    exact ⟨⟨i, Nat.lt_of_lt_of_le hlt h.fits⟩, hi⟩
  · rintro ⟨i, hi⟩
    exact ⟨i.val, hi⟩

/-- **WHAT WAS PUT IN FIRST** is found. -/
theorem Logs.find_some (h : Logs slot t l) (hp : ∀ o, p (slot o) = o.any q)
    (hf : l.find? q = some e) : ∃ i, find t p = some i ∧ t i = slot (some e) := by
  obtain ⟨hq, i, hlt, rfl, hbefore⟩ := List.find?_eq_some_iff_getElem.mp hf
  have hi : l[i]? = some l[i] := List.getElem?_eq_getElem hlt
  refine ⟨⟨i, Nat.lt_of_lt_of_le hlt h.fits⟩, find_eq_some.mpr ⟨?_, fun j hj => ?_⟩, ?_⟩
  · rw [h.holds, hp, hi]
    exact hq
  · have hjl : j.val < l.length := Nat.lt_trans hj hlt
    rw [h.holds, hp, List.getElem?_eq_getElem hjl, Option.any_some]
    have hno := hbefore j.val hj
    rw [Bool.not_eq_true'] at hno
    exact hno
  · rw [h.holds, hi]

/-- What was not put in is not found. -/
theorem Logs.find_none (h : Logs slot t l) (hp : ∀ o, p (slot o) = o.any q)
    (hf : l.find? q = none) : find t p = none := by
  refine find_eq_none.mpr (fun i => ?_)
  rw [h.holds, hp]
  cases hi : l[i.val]? with
  | none => rfl
  | some e => exact Bool.eq_false_iff.mpr (List.find?_eq_none.mp hf e (List.mem_of_getElem? hi))

/-- **ONE MORE** is put in behind the list, unless the table is full. -/
theorem Logs.add (h : Logs slot t l) (hp : ∀ o, p (slot o) = o.isNone) (e : E) :
    (∃ i, find t p = some i ∧ Logs slot (Function.update t i (slot (some e))) (l ++ [e]))
      ∨ find t p = none ∧ l.length = n := by
  rcases Nat.lt_or_eq_of_le h.fits with hlt | hfull
  · refine Or.inl ⟨⟨l.length, hlt⟩, find_eq_some.mpr ⟨?_, fun j hj => ?_⟩, ?_, fun j => ?_⟩
    · rw [h.holds, hp, List.getElem?_eq_none (Nat.le_refl _)]
      rfl
    · have hjl : j.val < l.length := hj
      rw [h.holds, hp, List.getElem?_eq_getElem hjl]
      rfl
    · rw [List.length_append]
      exact hlt
    · by_cases hj : j = ⟨l.length, hlt⟩
      · rw [hj, Function.update_self, List.getElem?_append_right (Nat.le_refl _),
          Nat.sub_self]
        rfl
      · rw [Function.update_of_ne hj, h.holds]
        have hne : j.val ≠ l.length := fun heq => hj (Fin.ext heq)
        rcases Nat.lt_or_gt_of_ne hne with hlow | hhigh
        · rw [List.getElem?_append_left hlow]
        · rw [List.getElem?_eq_none (Nat.le_of_lt hhigh), List.getElem?_eq_none]
          rw [List.length_append]
          exact hhigh
  · refine Or.inr ⟨find_eq_none.mpr (fun i => ?_), hfull⟩
    have hi : i.val < l.length := hfull ▸ i.isLt
    rw [h.holds, hp, List.getElem?_eq_getElem hi]
    rfl

-- ── Entries with keys ────────────────────────────────────────────────────────

section Upsert

variable {κ : Type} [DecidableEq κ] {key : E → κ}

/-- The first entry with the key is overwritten; without one, there is one more. -/
def upsert (key : E → κ) (e : E) : List E → List E
  | [] => [e]
  | d :: l => if key d = key e then e :: l else d :: upsert key e l

/-- The first entry with the key. -/
def lookup (key : E → κ) (k : κ) (l : List E) : Option E := l.find? (fun d => decide (key d = k))

theorem lookup_cons_pos {d : E} {k : κ} (h : key d = k) (l : List E) :
    lookup key k (d :: l) = some d := by
  rw [lookup, List.find?_cons, decide_eq_true h]

theorem lookup_cons_neg {d : E} {k : κ} (h : key d ≠ k) (l : List E) :
    lookup key k (d :: l) = lookup key k l := by
  rw [lookup, List.find?_cons, decide_eq_false h]
  rfl

/-- **THE NEW ENTRY** is found under its key, and under every other key what was
    found before. -/
theorem lookup_upsert (e : E) (k : κ) : ∀ l : List E, lookup key k (upsert key e l)
    = if k = key e then some e else lookup key k l := by
  intro l
  induction l with
  | nil =>
      rw [upsert]
      by_cases hk : k = key e
      · rw [if_pos hk, lookup_cons_pos hk.symm]
      · rw [if_neg hk, lookup_cons_neg (fun h => hk h.symm)]
  | cons d l ih =>
      rw [upsert]
      by_cases hd : key d = key e
      · rw [if_pos hd]
        by_cases hk : k = key e
        · rw [if_pos hk, lookup_cons_pos hk.symm]
        · rw [if_neg hk, lookup_cons_neg (fun h => hk h.symm),
            lookup_cons_neg (fun h => hk (h.symm.trans hd))]
      · rw [if_neg hd]
        by_cases hdk : key d = k
        · rw [lookup_cons_pos hdk, lookup_cons_pos hdk, if_neg (fun h => hd (hdk.trans h))]
        · rw [lookup_cons_neg hdk, lookup_cons_neg hdk, ih]

/-- The place of an entry with the key, or the one behind the list. -/
def place (key : E → κ) (k : κ) (l : List E) : Nat := l.findIdx (fun d => decide (key d = k))

theorem place_cons_pos {d : E} {k : κ} (h : key d = k) (l : List E) :
    place key k (d :: l) = 0 := by
  rw [place, List.findIdx_cons, decide_eq_true h]
  rfl

theorem place_cons_neg {d : E} {k : κ} (h : key d ≠ k) (l : List E) :
    place key k (d :: l) = place key k l + 1 := by
  rw [place, List.findIdx_cons, decide_eq_false h]
  rfl

theorem place_le (k : κ) (l : List E) : place key k l ≤ l.length := List.findIdx_le_length

/-- Where no entry has the key, its place is behind the list. -/
theorem place_of_lookup_none {k : κ} (h : lookup key k l = none) : place key k l = l.length :=
  List.findIdx_eq_length_of_false (fun d hd => Bool.eq_false_iff.mpr (List.find?_eq_none.mp h d hd))

theorem place_of_lookup_some {k : κ} (h : lookup key k l = some e) : place key k l < l.length := by
  have haccept : decide (key e = k) = true := List.find?_some (p := fun d => decide (key d = k)) h
  exact List.findIdx_lt_length_of_exists ⟨e, List.mem_of_find?_eq_some h, haccept⟩

/-- The entries in front of the place have other keys. -/
theorem no_key_before {k : κ} {j : Nat} (hj : j < place key k l) (hlt : j < l.length) :
    decide (key l[j] = k) = false :=
  List.not_of_lt_findIdx (p := fun d => decide (key d = k)) hj

theorem length_upsert (e : E) : ∀ l : List E,
    (upsert key e l).length = max l.length (place key (key e) l + 1) := by
  intro l
  induction l with
  | nil => rfl
  | cons d l ih =>
      rw [upsert]
      by_cases hd : key d = key e
      · rw [if_pos hd, place_cons_pos hd, List.length_cons, List.length_cons]
        omega
      · rw [if_neg hd, place_cons_neg hd, List.length_cons, List.length_cons, ih]
        omega

theorem getElem?_upsert (e : E) : ∀ (l : List E) (j : Nat),
    (upsert key e l)[j]? = if j = place key (key e) l then some e else l[j]? := by
  intro l
  induction l with
  | nil =>
      intro j
      cases j with
      | zero => rfl
      | succ j => rfl
  | cons d l ih =>
      intro j
      rw [upsert]
      by_cases hd : key d = key e
      · rw [if_pos hd, place_cons_pos hd]
        cases j with
        | zero => rfl
        | succ j => rfl
      · rw [if_neg hd, place_cons_neg hd]
        cases j with
        | zero => rfl
        | succ j =>
            rw [List.getElem?_cons_succ, List.getElem?_cons_succ, ih]
            exact if_congr Nat.succ_inj.symm rfl rfl

/-- The search that accepts the key and the free slots comes to its place. -/
theorem Logs.find_place (h : Logs slot t l) {k : κ}
    (hp : ∀ o, p (slot o) = o.all (fun d => decide (key d = k))) (hlt : place key k l < n) :
    find t p = some ⟨place key k l, hlt⟩ := by
  refine find_eq_some.mpr ⟨?_, fun j hj => ?_⟩
  · rw [h.holds, hp]
    cases hi : l[place key k l]? with
    | none => rfl
    | some d =>
        obtain ⟨hlen, rfl⟩ := List.getElem?_eq_some_iff.mp hi
        exact List.findIdx_getElem (w := hlen)
  · have hbefore : j.val < place key k l := hj
    have hjl : j.val < l.length := Nat.lt_of_lt_of_le hbefore (place_le k l)
    rw [h.holds, hp, List.getElem?_eq_getElem hjl]
    exact no_key_before hbefore hjl

/-- **ONE ENTRY IS OVERWRITTEN OR PUT IN**, unless it is one more than fits. -/
theorem Logs.upsert (h : Logs slot t l) {e : E}
    (hp : ∀ o, p (slot o) = o.all (fun d => decide (key d = key e))) :
    (∃ i, find t p = some i
        ∧ Logs slot (Function.update t i (slot (some e))) (upsert key e l))
      ∨ find t p = none ∧ n < (SlotLog.upsert key e l).length := by
  have hlen : (SlotLog.upsert key e l).length = max l.length (place key (key e) l + 1) :=
    length_upsert e l
  have hfits := h.fits
  rcases Nat.lt_or_ge (place key (key e) l) n with hlt | hge
  · refine Or.inl ⟨_, h.find_place hp hlt, by omega, fun j => ?_⟩
    rw [getElem?_upsert]
    by_cases hj : j = ⟨place key (key e) l, hlt⟩
    · rw [hj, Function.update_self, if_pos rfl]
    · rw [Function.update_of_ne hj, if_neg (fun heq => hj (Fin.ext heq)), h.holds]
  · refine Or.inr ⟨find_eq_none.mpr (fun i => ?_), by omega⟩
    have hbefore : i.val < place key (key e) l := Nat.lt_of_lt_of_le i.isLt hge
    have hil : i.val < l.length := Nat.lt_of_lt_of_le hbefore (place_le _ l)
    rw [h.holds, hp, List.getElem?_eq_getElem hil]
    exact no_key_before hbefore hil

end Upsert

end SlotLog
