import Mathlib.Data.List.Basic
import Mathlib.Data.List.Find
import Mathlib.Data.List.TakeWhile
import Mathlib.Tactic.Common

/-! # One queue, polled for a list of slots

    A round goes through slots in an order and looks each time at the head of
    one queue only: a head for this slot is served, or is left for later, or
    ends the round.  Which messages are due in the round is another matter, and
    each slot is to get the first one that is due for it.

    A message behind one for another slot waits until that one is gone.  So a
    round does what is due (`round_iff`) when the messages that are due are in
    front, in the order of the slots, and the first one behind them is left
    alone where its slot comes after theirs (`Ready`). -/

namespace PolledQueue

/-- How a head of the queue is treated, and what a slot reports with the
    message it gets. -/
structure Rules (σ μ ε ο : Type) where
  slotOf : μ → σ
  serve : μ → Bool
  late : μ → Option ε
  report : σ → Option μ → List ο

section Round

variable {σ μ ε ο : Type} [DecidableEq σ] (L : Rules σ μ ε ο)

/-- The turn of one slot. -/
def turn (p : σ) : List μ → Except ε (List μ × List ο)
  | [] => .ok ([], L.report p none)
  | m :: q =>
      if L.slotOf m = p then
        if L.serve m then .ok (q, L.report p (some m))
        else
          match L.late m with
          | some e => .error e
          | none => .ok (m :: q, L.report p none)
      else .ok (m :: q, L.report p none)

/-- The slots, one after the other. -/
def round : List σ → List μ → Except ε (List μ × List ο)
  | [], q => .ok (q, [])
  | p :: ps, q =>
      match turn L p q with
      | .error e => .error e
      | .ok (q', os) => (round ps q').map (fun r => (r.1, os ++ r.2))

/-- What is due leaves the queue, each slot with the first message for it. -/
def dueRound (due : μ → Bool) (ps : List σ) (q : List μ) : List μ × List ο :=
  (q.filter (fun m => !due m),
    ps.flatMap (fun p => L.report p (q.find? (fun m => due m && decide (L.slotOf m = p)))))

/-- The head is left alone, should a turn of the slots find it there. -/
def LeftAlone (lt : σ → σ → Prop) (ps : List σ) (sent later : List μ) : Prop :=
  ∀ h ∈ later.head?, L.slotOf h ∈ ps → (∀ m ∈ sent, lt (L.slotOf m) (L.slotOf h)) →
    L.serve h = false ∧ (L.late h).isNone = true

/-- What is due is in front and in the order of the slots, it is served, and
    what is behind is left alone. -/
structure Ready (lt : σ → σ → Prop) (due : μ → Bool) (ps : List σ) (q : List μ) : Prop where
  served : ∀ m ∈ q.takeWhile due, L.slotOf m ∈ ps ∧ L.serve m = true
  inOrder : (q.takeWhile due).Pairwise (fun m m' => lt (L.slotOf m) (L.slotOf m'))
  inFront : ∀ m ∈ q.dropWhile due, due m = false
  leftAlone : LeftAlone L lt ps (q.takeWhile due) (q.dropWhile due)

end Round

section Turn

variable {σ μ ε ο : Type} [DecidableEq σ] {L : Rules σ μ ε ο}

/-- The head of the queue is taken if it is for the slot. -/
theorem turn_served {p : σ} {m : μ} (q : List μ) (hp : L.slotOf m = p)
    (h : L.serve m = true) : turn L p (m :: q) = .ok (q, L.report p (some m)) := by
  rw [turn, if_pos hp, if_pos h]

/-- A slot that the head is not for takes nothing. -/
theorem turn_other {p : σ} {q : List μ} (h : ∀ m ∈ q.head?, L.slotOf m ≠ p) :
    turn L p q = .ok (q, L.report p none) := by
  cases q with
  | nil => rfl
  | cons m q => rw [turn, if_neg (h m rfl)]

/-- Nor does one whose head is not to be served. -/
theorem turn_left {p : σ} {q : List μ}
    (h : ∀ m ∈ q.head?, L.slotOf m = p → L.serve m = false ∧ (L.late m).isNone = true) :
    turn L p q = .ok (q, L.report p none) := by
  cases q with
  | nil => rfl
  | cons m q =>
      by_cases hp : L.slotOf m = p
      · obtain ⟨hserve, hlate⟩ := h m rfl hp
        rw [turn, if_pos hp, hserve, if_neg Bool.false_ne_true,
          Option.isNone_iff_eq_none.mp hlate]
      · rw [turn, if_neg hp]

/-- A turn serves the head, or leaves a queue whose head it may leave. -/
theorem turn_cases {p : σ} {q q' : List μ} {os : List ο} (h : turn L p q = .ok (q', os)) :
    (∃ m, q = m :: q' ∧ L.slotOf m = p ∧ L.serve m = true)
      ∨ (q' = q ∧ ∀ m ∈ q.head?, L.slotOf m = p →
          L.serve m = false ∧ (L.late m).isNone = true) := by
  cases q with
  | nil =>
      obtain ⟨rfl, -⟩ := Prod.mk.inj (Except.ok.inj h)
      refine Or.inr ⟨rfl, fun m hm => ?_⟩
      cases hm
  | cons m q =>
      rw [turn] at h
      by_cases hp : L.slotOf m = p
      · rw [if_pos hp] at h
        by_cases hserve : L.serve m = true
        · rw [if_pos hserve] at h
          obtain ⟨rfl, -⟩ := Prod.mk.inj (Except.ok.inj h)
          exact Or.inl ⟨m, rfl, hp, hserve⟩
        · rw [if_neg hserve] at h
          cases hlate : L.late m with
          | some e =>
              rw [hlate] at h
              cases h
          | none =>
              rw [hlate] at h
              obtain ⟨rfl, -⟩ := Prod.mk.inj (Except.ok.inj h)
              refine Or.inr ⟨rfl, fun m' hm' _ => ?_⟩
              rw [← Option.some.inj hm', hlate]
              exact ⟨Bool.eq_false_iff.mpr hserve, rfl⟩
      · rw [if_neg hp] at h
        obtain ⟨rfl, -⟩ := Prod.mk.inj (Except.ok.inj h)
        refine Or.inr ⟨rfl, fun m' hm' hp' => ?_⟩
        rw [← Option.some.inj hm'] at hp'
        exact absurd hp' hp

end Turn

section Order

variable {σ μ ε ο : Type} [DecidableEq σ] {L : Rules σ μ ε ο} {lt : σ → σ → Prop}

omit [DecidableEq σ] in
/-- A slot that comes after another one of the round is not its first. -/
theorem mem_tail_of_lt (hasymm : ∀ a b, lt a b → ¬ lt b a) {p a b : σ} {ps : List σ}
    (hfirst : ∀ c ∈ ps, lt p c) (ha : a ∈ p :: ps) (hb : b ∈ p :: ps) (hlt : lt a b) :
    b ∈ ps := by
  rcases List.mem_cons.mp hb with rfl | hb
  · rcases List.mem_cons.mp ha with rfl | ha
    · exact absurd hlt (hasymm _ _ hlt)
    · exact absurd (hfirst a ha) (hasymm _ _ hlt)
  · exact hb

omit [DecidableEq σ] in
/-- What is left alone by all is left alone by the rest. -/
theorem LeftAlone.tail {p : σ} {ps : List σ} {sent later : List μ}
    (h : LeftAlone L lt (p :: ps) sent later) : LeftAlone L lt ps sent later :=
  fun x hx hslot hafter => h x hx (List.mem_cons_of_mem p hslot) hafter

omit [DecidableEq σ] in
/-- The first message of a round goes to its first slot. -/
theorem LeftAlone.served {m : μ} {ps : List σ} {sent later : List μ}
    (hfirst : ∀ c ∈ ps, lt (L.slotOf m) c)
    (h : LeftAlone L lt (L.slotOf m :: ps) (m :: sent) later) :
    LeftAlone L lt ps sent later := by
  intro x hx hslot hafter
  refine h x hx (List.mem_cons_of_mem _ hslot) fun y hy => ?_
  rcases List.mem_cons.mp hy with rfl | hy
  · exact hfirst _ hslot
  · exact hafter y hy

/-- **WHAT A ROUND SERVES** is the front of the queue, in the order of the
    slots, and what is then in front has been left alone. -/
theorem round_shape (hasymm : ∀ a b, lt a b → ¬ lt b a) : ∀ {ps : List σ} {q q' : List μ}
    {os : List ο}, ps.Pairwise lt → round L ps q = .ok (q', os) →
    ∃ sent, q = sent ++ q' ∧ (∀ m ∈ sent, L.slotOf m ∈ ps ∧ L.serve m = true)
      ∧ sent.Pairwise (fun m m' => lt (L.slotOf m) (L.slotOf m'))
      ∧ LeftAlone L lt ps sent q' := by
  intro ps
  induction ps with
  | nil =>
      intro q q' os _ h
      obtain ⟨rfl, -⟩ := Prod.mk.inj (Except.ok.inj h)
      refine ⟨[], rfl, fun m hm => ?_, List.Pairwise.nil, fun h _ hslot => ?_⟩
      · cases hm
      · cases hslot
  | cons p ps ih =>
      intro q q' os hsorted h
      obtain ⟨hfirst, hsorted'⟩ := List.pairwise_cons.mp hsorted
      rw [round] at h
      cases hturn : turn L p q with
      | error e =>
          rw [hturn] at h
          cases h
      | ok r =>
      obtain ⟨q1, os1⟩ := r
      rw [hturn] at h
      have h' : (round L ps q1).map (fun r => (r.1, os1 ++ r.2)) = .ok (q', os) := h
      cases hround : round L ps q1 with
      | error e =>
          rw [hround] at h'
          cases h'
      | ok r =>
      obtain ⟨q2, os2⟩ := r
      rw [hround] at h'
      obtain ⟨rfl, -⟩ := Prod.mk.inj (Except.ok.inj h')
      obtain ⟨sent, hq, hsent, hpair, hleft⟩ := ih hsorted' hround
      rcases turn_cases hturn with ⟨m, rfl, hp, hserve⟩ | ⟨rfl, hhead⟩
      · refine ⟨m :: sent, by rw [hq]; rfl, ?_, ?_, ?_⟩
        · intro x hx
          rcases List.mem_cons.mp hx with rfl | hx
          · exact ⟨hp ▸ List.mem_cons_self, hserve⟩
          · exact ⟨List.mem_cons_of_mem p (hsent x hx).1, (hsent x hx).2⟩
        · refine List.pairwise_cons.mpr ⟨fun x hx => ?_, hpair⟩
          rw [hp]
          exact hfirst _ (hsent x hx).1
        · intro x hx hslot hafter
          have hlt : lt p (L.slotOf x) := hp ▸ hafter m List.mem_cons_self
          exact hleft x hx (mem_tail_of_lt hasymm hfirst List.mem_cons_self hslot hlt)
            fun y hy => hafter y (List.mem_cons_of_mem m hy)
      · refine ⟨sent, hq, fun x hx => ⟨List.mem_cons_of_mem p (hsent x hx).1,
          (hsent x hx).2⟩, hpair, ?_⟩
        intro x hx hslot hafter
        cases sent with
        | nil =>
            have hq' : q1 = q2 := hq
            rcases List.mem_cons.mp hslot with heq | hslot
            · rw [← hq'] at hx
              exact hhead x hx heq
            · exact hleft x hx hslot hafter
        | cons y sent =>
            have hy := List.mem_cons_of_mem p (hsent y List.mem_cons_self).1
            exact hleft x hx
              (mem_tail_of_lt hasymm hfirst hy hslot (hafter y List.mem_cons_self)) hafter

/-- **A ROUND OF WHAT IS IN FRONT**, from the messages it is to serve. -/
theorem round_ready (hasymm : ∀ a b, lt a b → ¬ lt b a) : ∀ {ps : List σ}
    {ready later : List μ}, ps.Pairwise lt →
    (∀ m ∈ ready, L.slotOf m ∈ ps ∧ L.serve m = true) →
    ready.Pairwise (fun m m' => lt (L.slotOf m) (L.slotOf m')) →
    LeftAlone L lt ps ready later →
    round L ps (ready ++ later) = .ok (later, ps.flatMap (fun p =>
      L.report p (ready.find? (fun m => decide (L.slotOf m = p))))) := by
  intro ps
  induction ps with
  | nil =>
      intro ready later _ hready _ _
      cases ready with
      | nil => rfl
      | cons m ready => cases (hready m List.mem_cons_self).1
  | cons p ps ih =>
      intro ready later hsorted hready hpair hleft
      obtain ⟨hfirst, hsorted'⟩ := List.pairwise_cons.mp hsorted
      have hnot : p ∉ ps := fun hmem => hasymm p p (hfirst p hmem) (hfirst p hmem)
      have hround {q1 : List μ} {os1 : List ο} {r : List μ × List ο}
          (hturn : turn L p (ready ++ later) = .ok (q1, os1)) (hrest : round L ps q1 = .ok r) :
          round L (p :: ps) (ready ++ later) = .ok (r.1, os1 ++ r.2) := by
        rw [round, hturn]
        show (round L ps q1).map _ = _
        rw [hrest]
        rfl
      cases ready with
      | nil =>
          have hturn : turn L p ([] ++ later) = .ok ([] ++ later, L.report p none) :=
            turn_left fun m hm hp => hleft m hm (hp ▸ List.mem_cons_self)
              (fun x hx => by cases hx)
          have hrest := ih hsorted' (fun m hm => by cases hm) List.Pairwise.nil hleft.tail
          rw [hround hturn hrest, List.flatMap_cons]
          rfl
      | cons m ready =>
          obtain ⟨hbehind, hpair'⟩ := List.pairwise_cons.mp hpair
          obtain ⟨hslot, hserve⟩ := hready m List.mem_cons_self
          by_cases hp : L.slotOf m = p
          · subst hp
            have hready' : ∀ x ∈ ready, L.slotOf x ∈ ps ∧ L.serve x = true := fun x hx =>
              have ⟨hslot', hserve'⟩ := hready x (List.mem_cons_of_mem m hx)
              ⟨mem_tail_of_lt hasymm hfirst List.mem_cons_self hslot' (hbehind x hx), hserve'⟩
            have hrest := ih hsorted' hready' hpair' (hleft.served hfirst)
            have hhead : (m :: ready).find? (fun x => decide (L.slotOf x = L.slotOf m)) = some m :=
              List.find?_cons_of_pos (decide_eq_true rfl)
            have hskip : ∀ p' ∈ ps,
                L.report p' ((m :: ready).find? (fun x => decide (L.slotOf x = p')))
                  = L.report p' (ready.find? (fun x => decide (L.slotOf x = p'))) := by
              intro p' hp'
              have hne : L.slotOf m ≠ p' := fun heq => hnot (heq ▸ hp')
              rw [List.find?_cons_of_neg (by simpa using hne)]
            rw [hround (turn_served (ready ++ later) rfl hserve) hrest, List.flatMap_cons,
              hhead, List.flatMap_congr hskip]
          · have hin : ∀ x ∈ m :: ready, L.slotOf x ∈ ps ∧ L.serve x = true := by
              have hm : L.slotOf m ∈ ps := (List.mem_cons.mp hslot).resolve_left hp
              intro x hx
              rcases List.mem_cons.mp hx with rfl | hx'
              · exact ⟨hm, hserve⟩
              · obtain ⟨hslot', hserve'⟩ := hready x hx
                exact ⟨mem_tail_of_lt hasymm hfirst hslot hslot' (hbehind x hx'), hserve'⟩
            have hother : ∀ x ∈ (m :: ready ++ later).head?, L.slotOf x ≠ p := by
              intro x hx
              rw [← Option.some.inj hx]
              exact hp
            have hnone : (m :: ready).find? (fun x => decide (L.slotOf x = p)) = none := by
              refine List.find?_eq_none.mpr fun x hx => ?_
              have hne : L.slotOf x ≠ p := fun heq => hnot (heq ▸ (hin x hx).1)
              simpa using hne
            rw [hround (turn_other hother) (ih hsorted' hin hpair hleft.tail), List.flatMap_cons,
              hnone]

/-- What is due comes first, if the others are what is left. -/
theorem takeWhile_eq_of_filter {due : μ → Bool} {sent later : List μ}
    (h : later = (sent ++ later).filter (fun m => !due m)) :
    (sent ++ later).takeWhile due = sent ∧ (sent ++ later).dropWhile due = later
      ∧ (∀ m ∈ sent, due m = true) ∧ ∀ m ∈ later, due m = false := by
  have hlater : ∀ m ∈ later, due m = false := by
    intro m hm
    rw [h] at hm
    simpa using (List.mem_filter.mp hm).2
  have hkept : later.filter (fun m => !due m) = later := by
    refine List.filter_eq_self.mpr fun m hm => ?_
    rw [hlater m hm]
    rfl
  have hsent : ∀ m ∈ sent, due m = true := by
    have hnil : sent.filter (fun m => !due m) = [] := by
      have hlen := congrArg List.length h
      rw [List.filter_append, hkept, List.length_append] at hlen
      exact List.length_eq_zero_iff.mp (by omega)
    intro m hm
    simpa using List.filter_eq_nil_iff.mp hnil m hm
  have hhead : later.takeWhile due = [] ∧ later.dropWhile due = later := by
    cases later with
    | nil => exact ⟨rfl, rfl⟩
    | cons m later =>
        have hm : due m = false := hlater m List.mem_cons_self
        rw [List.takeWhile_cons_of_neg (by simp [hm]), List.dropWhile_cons_of_neg (by simp [hm])]
        exact ⟨rfl, rfl⟩
  rw [List.takeWhile_append_of_pos hsent, List.dropWhile_append_of_pos hsent, hhead.1, hhead.2,
    List.append_nil]
  exact ⟨rfl, rfl, hsent, hlater⟩

/-- **WHEN A ROUND DOES WHAT IS DUE**, for any queue. -/
theorem round_iff (hasymm : ∀ a b, lt a b → ¬ lt b a) {ps : List σ} (hsorted : ps.Pairwise lt)
    (due : μ → Bool) (q : List μ) :
    round L ps q = .ok (dueRound L due ps q) ↔ Ready L lt due ps q := by
  constructor
  · intro h
    obtain ⟨sent, hq, hserved, hpair, hleft⟩ := round_shape hasymm hsorted h
    have hsplit := @takeWhile_eq_of_filter _ due sent (q.filter (fun m => !due m)) (by rw [← hq])
    rw [← hq] at hsplit
    obtain ⟨htake, hdrop, -, hnot⟩ := hsplit
    refine ⟨?_, ?_, ?_, ?_⟩
    · rw [htake]
      exact hserved
    · rw [htake]
      exact hpair
    · rw [hdrop]
      exact hnot
    · rw [htake, hdrop]
      exact hleft
  · intro h
    have hround := round_ready hasymm hsorted h.served h.inOrder h.leftAlone
    rw [List.takeWhile_append_dropWhile] at hround
    have hdue : ∀ m ∈ q.takeWhile due, due m = true := fun m hm => List.mem_takeWhile_imp hm
    -- What is due is in front, so a search in all of the queue ends there.
    have hfind (p : σ) : q.find? (fun m => due m && decide (L.slotOf m = p))
        = (q.takeWhile due).find? (fun m => decide (L.slotOf m = p)) := by
      have hnone : (q.dropWhile due).find? (fun m => due m && decide (L.slotOf m = p)) = none := by
        refine List.find?_eq_none.mpr fun m hm => ?_
        rw [h.inFront m hm]
        exact Bool.false_ne_true
      have hsame : (q.takeWhile due).find? (fun m => due m && decide (L.slotOf m = p))
          = (q.takeWhile due).find? (fun m => decide (L.slotOf m = p)) := by
        refine List.find?_congr fun m hm => ?_
        rw [hdue m hm, Bool.true_and]
      conv_lhs => rw [← @List.takeWhile_append_dropWhile _ due q]
      rw [List.find?_append, hnone, Option.or_none, hsame]
    have hfilter : q.filter (fun m => !due m) = q.dropWhile due := by
      conv_lhs => rw [← @List.takeWhile_append_dropWhile _ due q]
      have htake : (q.takeWhile due).filter (fun m => !due m) = [] := by
        refine List.filter_eq_nil_iff.mpr fun m hm => ?_
        rw [hdue m hm]
        exact Bool.false_ne_true
      have hdrop : (q.dropWhile due).filter (fun m => !due m) = q.dropWhile due := by
        refine List.filter_eq_self.mpr fun m hm => ?_
        rw [h.inFront m hm]
        rfl
      rw [List.filter_append, htake, hdrop, List.nil_append]
    rw [hround, dueRound, hfilter]
    simp only [hfind]

end Order

end PolledQueue
