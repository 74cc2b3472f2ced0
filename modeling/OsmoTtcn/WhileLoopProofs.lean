import Mathlib.Tactic.Common

/-! # While loops

    `while (going) round` over a round that may fail.  `loop n` is what comes of
    at most `n` rounds, so that a loop that does not end is one that no number
    of rounds suffices for.

    `loop_of_measure` bounds the rounds by a measure, `not_ends_of_stuck` shows
    that a loop does not end, and `Comes` is the states that a loop comes to, of
    which a guard may speak. -/

namespace WhileLoop

variable {σ ε : Type}

section Defs

variable (going : σ → Bool) (round : σ → Except ε σ)

/-- What comes of at most `n` rounds; `none` if more are needed. -/
def loop : Nat → σ → Option (Except ε σ)
  | 0, s => if going s then none else some (.ok s)
  | n + 1, s =>
      if going s then
        match round s with
        | .error e => some (.error e)
        | .ok s' => loop n s'
      else some (.ok s)

/-- Some number of rounds suffices. -/
def Ends (s : σ) : Prop := ∃ n r, loop going round n s = some r

/-- The states in front of the test that the loop comes to. -/
inductive Comes : σ → σ → Prop where
  | start (s : σ) : Comes s s
  | round {s s' t : σ} : going s = true → round s = .ok s' → Comes s' t → Comes s t

end Defs

variable {going : σ → Bool} {round : σ → Except ε σ} {s s' t : σ} {n : Nat}

-- ── One round ────────────────────────────────────────────────────────────────

theorem loop_done (h : going s = false) : ∀ n, loop going round n s = some (.ok s)
  | 0 => by rw [loop, h]; rfl
  | n + 1 => by rw [loop, h]; rfl

theorem loop_zero (h : going s = true) : loop going round 0 s = none := by
  rw [loop, if_pos h]

theorem loop_ok (h : going s = true) (hr : round s = .ok s') :
    loop going round (n + 1) s = loop going round n s' := by
  rw [loop, if_pos h, hr]

theorem loop_error {e : ε} (h : going s = true) (hr : round s = .error e) :
    loop going round (n + 1) s = some (.error e) := by
  rw [loop, if_pos h, hr]

/-- More rounds change nothing. -/
theorem loop_mono : ∀ {n m : Nat} {s : σ} {r : Except ε σ}, n ≤ m →
    loop going round n s = some r → loop going round m s = some r := by
  intro n
  induction n with
  | zero =>
      intro m s r _ h
      cases hg : going s with
      | true =>
          rw [loop_zero hg] at h
          exact nomatch h
      | false =>
          rw [loop_done hg] at h ⊢
          exact h
  | succ n ih =>
      intro m s r hnm h
      obtain ⟨m, rfl⟩ := Nat.exists_eq_add_one_of_ne_zero
        (Nat.ne_of_gt (Nat.lt_of_lt_of_le (Nat.succ_pos n) hnm))
      cases hg : going s with
      | false =>
          rw [loop_done hg] at h ⊢
          exact h
      | true =>
          cases hr : round s with
          | error e =>
              rw [loop_error hg hr] at h ⊢
              exact h
          | ok s' =>
              rw [loop_ok hg hr] at h ⊢
              exact ih (Nat.le_of_succ_le_succ hnm) h

/-- A loop has one outcome. -/
theorem loop_unique {m : Nat} {r r' : Except ε σ} (h : loop going round n s = some r)
    (h' : loop going round m s = some r') : r = r' := by
  have h1 := loop_mono (Nat.le_max_left n m) h
  have h2 := loop_mono (Nat.le_max_right n m) h'
  exact Option.some.inj (h1.symm.trans h2)

-- ── Rules ────────────────────────────────────────────────────────────────────

/-- **A MEASURE BOUNDS THE ROUNDS**: what is above 0 in front of a round, and
    smaller behind it. -/
theorem loop_of_measure {I : σ → Prop} (measure : σ → Nat)
    (hpos : ∀ s, I s → going s = true → 0 < measure s)
    (hround : ∀ s s', I s → going s = true → round s = .ok s' →
      I s' ∧ measure s' < measure s) :
    ∀ (n : Nat) (s : σ), I s → measure s ≤ n → ∃ r, loop going round n s = some r := by
  intro n
  induction n with
  | zero =>
      intro s hI hn
      cases hg : going s with
      | false => exact ⟨.ok s, loop_done hg 0⟩
      | true => exact absurd hn (Nat.not_le.mpr (hpos s hI hg))
  | succ n ih =>
      intro s hI hn
      cases hg : going s with
      | false => exact ⟨.ok s, loop_done hg _⟩
      | true =>
          cases hr : round s with
          | error e => exact ⟨.error e, loop_error hg hr⟩
          | ok s' =>
              obtain ⟨hI', hlt⟩ := hround s s' hI hg hr
              rw [loop_ok hg hr]
              exact ih s' hI' (by omega)

-- ── The states it comes to ───────────────────────────────────────────────────

/-- One round further. -/
theorem Comes.snoc (h : Comes going round s t) (hg : going t = true) (hr : round t = .ok s') :
    Comes going round s s' := by
  induction h with
  | start s => exact .round hg hr (.start s')
  | round hg' hr' _ ih => exact .round hg' hr' (ih hg hr)

/-- **THE INVARIANT RULE.** -/
theorem Comes.inv {I : σ → Prop}
    (hround : ∀ s s', I s → going s = true → round s = .ok s' → I s')
    (h : Comes going round s t) (hI : I s) : I t := by
  induction h with
  | start s => exact hI
  | round hg hr _ ih => exact ih (hround _ _ hI hg hr)

/-- What comes of a state on the way comes of the loop. -/
theorem Comes.loop_eq (h : Comes going round s t) {r : Except ε σ} :
    ∀ {n : Nat}, loop going round n t = some r → ∃ m, loop going round m s = some r := by
  induction h with
  | start s => exact fun hn => ⟨_, hn⟩
  | round hg hr _ ih =>
      intro n hn
      obtain ⟨m, hm⟩ := ih hn
      exact ⟨m + 1, (loop_ok hg hr).trans hm⟩

/-- A loop that ends does so from every state on the way. -/
theorem Comes.ends (h : Comes going round s t) (hends : Ends going round s) :
    Ends going round t := by
  induction h with
  | start s => exact hends
  | @round s s' t hg hr _ ih =>
      obtain ⟨n, r, hn⟩ := hends
      cases n with
      | zero =>
          rw [loop_zero hg] at hn
          exact nomatch hn
      | succ n =>
          rw [loop_ok hg hr] at hn
          exact ih ⟨n, r, hn⟩

/-- A loop that fails does so in a round that it comes to. -/
theorem loop_fails : ∀ {n : Nat} {s : σ} {e : ε}, loop going round n s = some (.error e) →
    ∃ t, Comes going round s t ∧ going t = true ∧ round t = .error e := by
  intro n
  induction n with
  | zero =>
      intro s e h
      cases hg : going s with
      | true =>
          rw [loop_zero hg] at h
          exact nomatch h
      | false =>
          rw [loop_done hg] at h
          exact nomatch Option.some.inj h
  | succ n ih =>
      intro s e h
      cases hg : going s with
      | false =>
          rw [loop_done hg] at h
          exact nomatch Option.some.inj h
      | true =>
          cases hr : round s with
          | error e' =>
              rw [loop_error hg hr] at h
              rw [← Except.error.inj (Option.some.inj h)]
              exact ⟨s, .start s, hg, hr⟩
          | ok s' =>
              rw [loop_ok hg hr] at h
              obtain ⟨t, hcomes, ht⟩ := ih h
              exact ⟨t, .round hg hr hcomes, ht⟩

/-- **STUCK**: rounds that lead to a round again. -/
theorem not_ends_of_stuck {J : σ → Prop} (hgo : ∀ s, J s → going s = true)
    (hstay : ∀ s, J s → ∃ s', round s = .ok s' ∧ J s') (h : J s) :
    ¬ Ends going round s := by
  have hnone : ∀ (n : Nat) (s : σ), J s → loop going round n s = none := by
    intro n
    induction n with
    | zero => exact fun s hs => loop_zero (hgo s hs)
    | succ n ih =>
        intro s hs
        obtain ⟨s', hr, hs'⟩ := hstay s hs
        rw [loop_ok (hgo s hs) hr]
        exact ih s' hs'
  rintro ⟨n, r, hr⟩
  rw [hnone n s h] at hr
  exact nomatch hr

end WhileLoop
