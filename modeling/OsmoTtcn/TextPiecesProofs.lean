import Mathlib.Data.List.Infix
import Mathlib.Tactic.Common

/-! # A text cut at a delimiter

    `firstAt` is the first place of a pattern in a text.  `Pieces` cuts a text
    at a delimiter, from the left, where no two cuts overlap: the pieces with
    the delimiter between them are the text (`Pieces.intercalate`), and there is
    one such cut (`exists_pieces`, `Pieces.unique`).

    `occurrences` counts the places of a pattern, which may overlap. -/

namespace TextPieces

variable {α : Type}

-- ── The first place ──────────────────────────────────────────────────────────

section First

variable [DecidableEq α]

/-- Where the pattern is first. -/
def firstAt (d : List α) : List α → Option Nat
  | [] => if d = [] then some 0 else none
  | a :: s => if d <+: a :: s then some 0 else (firstAt d s).map (· + 1)

/-- The pattern is at the place, and at no place before. -/
structure IsFirst (d s : List α) (i : Nat) : Prop where
  here : d <+: s.drop i
  before : ∀ j, j < i → ¬ d <+: s.drop j

variable {d s : List α} {i : Nat}

/-- None is found where there is none. -/
theorem firstAt_none : firstAt d s = none ↔ ∀ j, ¬ d <+: s.drop j := by
  induction s with
  | nil =>
      rw [firstAt]
      by_cases hd : d = []
      · rw [if_pos hd]
        refine iff_of_false (Option.some_ne_none 0) fun h => h 0 ?_
        rw [hd]
        exact List.nil_prefix
      · rw [if_neg hd]
        refine iff_of_true rfl fun j h => hd ?_
        rw [List.drop_nil] at h
        exact List.prefix_nil.mp h
  | cons a s ih =>
      rw [firstAt]
      by_cases hd : d <+: a :: s
      · rw [if_pos hd]
        exact iff_of_false (Option.some_ne_none 0) fun h => h 0 hd
      · rw [if_neg hd, Option.map_eq_none_iff, ih]
        constructor
        · intro h j
          cases j with
          | zero => exact hd
          | succ j => exact h j
        · exact fun h j => h (j + 1)

/-- What is found is the first one. -/
theorem firstAt_some : firstAt d s = some i ↔ IsFirst d s i ∧ i ≤ s.length := by
  induction s generalizing i with
  | nil =>
      rw [firstAt]
      by_cases hd : d = []
      · rw [if_pos hd]
        constructor
        · intro h
          obtain rfl := Option.some.inj h
          exact ⟨⟨hd ▸ List.nil_prefix, fun j hj => absurd hj (Nat.not_lt_zero j)⟩, Nat.le_refl 0⟩
        · rintro ⟨-, hi⟩
          rw [Nat.le_zero.mp hi]
      · rw [if_neg hd]
        refine iff_of_false (Option.some_ne_none i).symm fun h => hd ?_
        have hhere := h.1.here
        rw [List.drop_nil] at hhere
        exact List.prefix_nil.mp hhere
  | cons a s ih =>
      rw [firstAt]
      by_cases hd : d <+: a :: s
      · rw [if_pos hd]
        constructor
        · intro h
          obtain rfl := Option.some.inj h
          exact ⟨⟨hd, fun j hj => absurd hj (Nat.not_lt_zero j)⟩, Nat.zero_le _⟩
        · rintro ⟨h, -⟩
          cases i with
          | zero => rfl
          | succ i => exact absurd hd (h.before 0 (Nat.succ_pos i))
      · rw [if_neg hd]
        constructor
        · intro h
          obtain ⟨j, hj, rfl⟩ := Option.map_eq_some_iff.mp h
          obtain ⟨hfirst, hle⟩ := ih.mp hj
          refine ⟨⟨hfirst.here, fun k hk => ?_⟩, Nat.succ_le_succ hle⟩
          cases k with
          | zero => exact hd
          | succ k => exact hfirst.before k (Nat.lt_of_succ_lt_succ hk)
        · rintro ⟨h, hle⟩
          cases i with
          | zero => exact absurd h.here hd
          | succ i =>
              have hfirst : IsFirst d s i :=
                ⟨h.here, fun j hj => h.before (j + 1) (Nat.succ_lt_succ hj)⟩
              rw [ih.mpr ⟨hfirst, Nat.le_of_succ_le_succ hle⟩]
              rfl

omit [DecidableEq α] in
/-- What is found splits the text in front of it and behind it. -/
theorem IsFirst.split (h : IsFirst d s i) :
    s = s.take i ++ d ++ s.drop (i + d.length) := by
  obtain ⟨rest, hrest⟩ := h.here
  have hdrop : s.drop (i + d.length) = rest := by
    rw [← List.drop_drop, ← hrest, List.drop_left]
  rw [hdrop, List.append_assoc, hrest, List.take_append_drop]

end First

-- ── Cuts ─────────────────────────────────────────────────────────────────────

/-- The delimiter behind the piece begins where the piece ends, and not
    before. -/
def Clean (d p : List α) : Prop := ∀ j, j < p.length → ¬ d <+: (p ++ d).drop j

/-- The pieces of a text. -/
inductive Pieces (d : List α) : List α → List (List α) → Prop where
  | last {s : List α} : (∀ j, ¬ d <+: s.drop j) → Pieces d s [s]
  | cut {p s : List α} {ps : List (List α)} : Clean d p → Pieces d s ps →
      Pieces d (p ++ d ++ s) (p :: ps)

variable {d p s : List α} {ps ps' : List (List α)}

/-- What begins in the piece ends in front of what comes behind the delimiter. -/
theorem Clean.isFirst (h : Clean d p) (s : List α) : IsFirst d (p ++ d ++ s) p.length where
  here := by
    rw [List.append_assoc, List.drop_left]
    exact List.prefix_append d s
  before := by
    intro j hj hprefix
    refine h j hj ?_
    have hle : j ≤ (p ++ d).length := by
      rw [List.length_append]
      omega
    rw [List.drop_append_of_le_length hle] at hprefix
    refine List.prefix_of_prefix_length_le hprefix (List.prefix_append _ s) ?_
    rw [List.length_drop, List.length_append]
    omega

/-- Before the first there is none. -/
theorem IsFirst.clean {i : Nat} (h : IsFirst d s i) : Clean d (s.take i) := by
  intro j hj hprefix
  have hji : j < i := Nat.lt_of_lt_of_le hj (List.length_take_le i s)
  refine h.before j hji ?_
  have hsplit := h.split
  have hle : j ≤ (s.take i ++ d).length := by
    rw [List.length_append]
    omega
  rw [hsplit, List.drop_append_of_le_length hle]
  exact hprefix.trans (List.prefix_append _ _)

theorem Pieces.ne_nil (h : Pieces d s ps) : ps ≠ [] := by
  cases h with
  | last _ => exact List.cons_ne_nil _ _
  | cut _ _ => exact List.cons_ne_nil _ _

/-- **THE PIECES ARE THE TEXT**, with the delimiter between them. -/
theorem Pieces.intercalate (h : Pieces d s ps) : d.intercalate ps = s := by
  induction h with
  | last _ => exact List.intercalate_singleton
  | cut _ hrest ih => rw [List.intercalate_cons_of_ne_nil hrest.ne_nil, ih]

theorem Pieces.mem (h : Pieces d s ps) (hp : p ∈ ps) {a : α} (ha : a ∈ p) : a ∈ s := by
  induction h with
  | last _ => exact List.mem_singleton.mp hp ▸ ha
  | cut _ _ ih =>
      rcases List.mem_cons.mp hp with rfl | hp
      · exact List.mem_append_left _ (List.mem_append_left _ ha)
      · exact List.mem_append_right _ (ih hp)

theorem mem_intercalate {a : α} : ∀ {ps : List (List α)}, a ∈ d.intercalate ps →
    a ∈ d ∨ ∃ p ∈ ps, a ∈ p := by
  intro ps
  induction ps with
  | nil => exact fun h => absurd h List.not_mem_nil
  | cons p ps ih =>
      intro h
      by_cases hps : ps = []
      · rw [hps, List.intercalate_singleton] at h
        exact Or.inr ⟨p, List.mem_cons_self, h⟩
      · rw [List.intercalate_cons_of_ne_nil hps, List.mem_append, List.mem_append] at h
        rcases h with (h | h) | h
        · exact Or.inr ⟨p, List.mem_cons_self, h⟩
        · exact Or.inl h
        · exact (ih h).imp_right fun ⟨q, hq, ha⟩ => ⟨q, List.mem_cons_of_mem p hq, ha⟩

section Cuts

variable [DecidableEq α]

/-- The first delimiter behind a clean part is the one that ends it. -/
theorem Clean.firstAt (h : Clean d p) (s : List α) :
    firstAt d (p ++ d ++ s) = some p.length := by
  refine firstAt_some.mpr ⟨h.isFirst s, ?_⟩
  rw [List.length_append, List.length_append]
  omega

/-- **EVERY TEXT HAS PIECES.** -/
theorem exists_pieces (hd : d ≠ []) : ∀ s : List α, ∃ ps, Pieces d s ps := by
  intro s
  induction hn : s.length using Nat.strong_induction_on generalizing s with
  | h n ih =>
      cases hfirst : TextPieces.firstAt d s with
      | none => exact ⟨[s], .last (firstAt_none.mp hfirst)⟩
      | some i =>
          obtain ⟨hi, hle⟩ := firstAt_some.mp hfirst
          have hpos := List.length_pos_of_ne_nil hd
          have hlen := congrArg List.length hi.split
          rw [List.length_append, List.length_append] at hlen
          obtain ⟨ps, hps⟩ := ih (s.drop (i + d.length)).length (by omega) _ rfl
          have hcut := Pieces.cut hi.clean hps
          rw [← hi.split] at hcut
          exact ⟨_, hcut⟩

/-- **ONE CUT.** -/
theorem Pieces.unique (h : Pieces d s ps) (h' : Pieces d s ps') : ps = ps' := by
  induction h generalizing ps' with
  | last hnone =>
      cases h' with
      | last _ => rfl
      | @cut p s ps hclean _ =>
          have hsome := hclean.firstAt s
          rw [firstAt_none.mpr hnone] at hsome
          cases hsome
  | @cut p s ps hclean _ ih =>
      generalize hs : p ++ d ++ s = t at h'
      cases h' with
      | last hnone =>
          have hsome := hclean.firstAt s
          rw [hs, firstAt_none.mpr hnone] at hsome
          cases hsome
      | @cut p' s' ps' hclean' hps' =>
          have hlen : p.length = p'.length := by
            have hfirst := hclean.firstAt s
            rw [hs, hclean'.firstAt s'] at hfirst
            exact (Option.some.inj hfirst).symm
          rw [List.append_assoc, List.append_assoc] at hs
          obtain ⟨hp, hrest⟩ := List.append_inj hs hlen
          rw [hp, ih (List.append_cancel_left hrest ▸ hps')]

end Cuts

/-- A text without the character has no place of it. -/
theorem clean_singleton {c : α} (h : c ∉ p) : Clean [c] p := by
  intro j hj hprefix
  rw [List.drop_append_of_le_length (Nat.le_of_lt hj), List.drop_eq_getElem_cons hj] at hprefix
  obtain ⟨rest, hrest⟩ := hprefix
  exact h (List.head_eq_of_cons_eq hrest ▸ List.getElem_mem hj)

/-- **LINES AND WORDS**: texts without the character, with the character between
    them. -/
theorem pieces_singleton {c : α} : ∀ {ps : List (List α)}, ps ≠ [] → (∀ p ∈ ps, c ∉ p) →
    Pieces [c] ([c].intercalate ps) ps := by
  intro ps
  induction ps with
  | nil => exact fun h _ => absurd rfl h
  | cons p ps ih =>
      intro _ h
      by_cases hps : ps = []
      · rw [hps, List.intercalate_singleton]
        refine .last fun j hprefix => ?_
        have hmem : c ∈ p.drop j := hprefix.subset List.mem_cons_self
        exact h p List.mem_cons_self (List.mem_of_mem_drop hmem)
      · rw [List.intercalate_cons_of_ne_nil hps]
        exact .cut (clean_singleton (h p List.mem_cons_self))
          (ih hps fun q hq => h q (List.mem_cons_of_mem p hq))

-- ── Places ───────────────────────────────────────────────────────────────────

section Occurrences

variable [DecidableEq α]

/-- In how many places the pattern is. -/
def occurrences (d : List α) : List α → Nat
  | [] => if d = [] then 1 else 0
  | a :: s => (if d <+: a :: s then 1 else 0) + occurrences d s

theorem occurrences_none (h : firstAt d s = none) : occurrences d s = 0 := by
  induction s with
  | nil =>
      rw [firstAt] at h
      by_cases hd : d = []
      · rw [if_pos hd] at h
        cases h
      · exact if_neg hd
  | cons a s ih =>
      rw [firstAt] at h
      by_cases hd : d <+: a :: s
      · rw [if_pos hd] at h
        cases h
      · rw [if_neg hd] at h
        rw [occurrences, if_neg hd, ih (Option.map_eq_none_iff.mp h)]

/-- Behind the first place are all others. -/
theorem occurrences_some {i : Nat} (hd : d ≠ []) (h : firstAt d s = some i) :
    occurrences d s = 1 + occurrences d (s.drop (i + 1)) := by
  induction s generalizing i with
  | nil =>
      rw [firstAt, if_neg hd] at h
      cases h
  | cons a s ih =>
      rw [firstAt] at h
      by_cases hhere : d <+: a :: s
      · rw [if_pos hhere] at h
        obtain rfl := Option.some.inj h
        rw [occurrences, if_pos hhere]
        rfl
      · rw [if_neg hhere] at h
        obtain ⟨j, hj, rfl⟩ := Option.map_eq_some_iff.mp h
        rw [occurrences, if_neg hhere, ih hj, Nat.zero_add]
        rfl

end Occurrences

end TextPieces
