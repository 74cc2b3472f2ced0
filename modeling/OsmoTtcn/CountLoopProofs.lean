import Mathlib.Tactic.Common

/-! # Counting loops

    `for (i := a; i < b; i := i + 1)` over a body that may fail, and its
    invariant rule: an invariant indexed by the counter that the body carries
    from `i` to `i + 1` is carried from `a` to `b`.  A loop that counts down is
    its mirror image. -/

namespace CountLoop

variable {σ ε : Type}

/-- `n` rounds, counting up from `a`. -/
def countUp (body : Int → σ → Except ε σ) : Nat → Int → σ → Except ε σ
  | 0, _, s => .ok s
  | n + 1, a, s =>
      match body a s with
      | .error e => .error e
      | .ok s' => countUp body n (a + 1) s'

/-- Rounds for `a`, `a + 1`, … below `b`. -/
def forTo (a b : Int) (body : Int → σ → Except ε σ) (s : σ) : Except ε σ :=
  countUp body (b - a).toNat a s

/-- Rounds for `a`, `a - 1`, … down to `b`. -/
def downTo (a b : Int) (body : Int → σ → Except ε σ) (s : σ) : Except ε σ :=
  forTo (-a) (1 - b) (fun i => body (-i)) s

variable {body : Int → σ → Except ε σ}

/-- What each round keeps holds after the loop. -/
theorem countUp_inv {I : Int → σ → Prop} :
    ∀ (n : Nat) (a : Int) (s : σ),
      (∀ i s, a ≤ i → i < a + n → I i s →
        ∃ s', body i s = .ok s' ∧ I (i + 1) s') →
      I a s → ∃ s', countUp body n a s = .ok s' ∧ I (a + n) s' := by
  intro n
  induction n with
  | zero =>
      intro a s _ h
      refine ⟨s, rfl, ?_⟩
      have ha : a + ((0 : Nat) : Int) = a := Int.add_zero a
      rw [ha]
      exact h
  | succ n ih =>
      intro a s hstep h
      obtain ⟨s1, hbody, h1⟩ := hstep a s (Int.le_refl a) (by omega) h
      obtain ⟨s2, hrun, h2⟩ := ih (a + 1) s1
        (fun i t hlo hhi ht => hstep i t (by omega) (by omega) ht) h1
      refine ⟨s2, ?_, ?_⟩
      · rw [countUp, hbody]
        exact hrun
      · have hsum : a + ((n + 1 : Nat) : Int) = a + 1 + (n : Int) := by omega
        rw [hsum]
        exact h2

/-- **THE INVARIANT RULE**. -/
theorem forTo_inv {I : Int → σ → Prop} {a b : Int} {s : σ} (hab : a ≤ b)
    (hstep : ∀ i s, a ≤ i → i < b → I i s →
      ∃ s', body i s = .ok s' ∧ I (i + 1) s')
    (h : I a s) : ∃ s', forTo a b body s = .ok s' ∧ I b s' := by
  have hn : a + ((b - a).toNat : Int) = b := by omega
  have hinv := countUp_inv (b - a).toNat a s
    (fun i t hlo hhi ht => hstep i t hlo (by omega) ht) h
  rw [hn] at hinv
  exact hinv

/-- **THE INVARIANT RULE**, counting down. -/
theorem downTo_inv {I : Int → σ → Prop} {a b : Int} {s : σ} (hab : b ≤ a + 1)
    (hstep : ∀ i s, b ≤ i → i ≤ a → I i s →
      ∃ s', body i s = .ok s' ∧ I (i - 1) s')
    (h : I a s) : ∃ s', downTo a b body s = .ok s' ∧ I (b - 1) s' := by
  have hstart : I (- -a) s := by
    rw [Int.neg_neg]
    exact h
  obtain ⟨s', hloop, hinv⟩ := @forTo_inv σ ε (fun i => body (-i))
    (fun i t => I (-i) t) (-a) (1 - b) s (by omega)
    (by
      intro i t hlo hhi ht
      obtain ⟨t', hbody, ht'⟩ := hstep (-i) t (by omega) (by omega) ht
      refine ⟨t', hbody, ?_⟩
      have hneg : -(i + 1) = -i - 1 := by omega
      rw [hneg]
      exact ht')
    hstart
  have hend : -(1 - b) = b - 1 := by omega
  rw [hend] at hinv
  exact ⟨s', hloop, hinv⟩

/-- What a loop that comes through has kept, each of whose rounds has. -/
theorem countUp_ok {I : Int → σ → Prop} :
    ∀ (n : Nat) (a : Int) (s s' : σ),
      (∀ i s s', a ≤ i → i < a + n → I i s → body i s = .ok s' → I (i + 1) s') →
      I a s → countUp body n a s = .ok s' → I (a + n) s' := by
  intro n
  induction n with
  | zero =>
      intro a s s' _ h hrun
      have ha : a + ((0 : Nat) : Int) = a := Int.add_zero a
      rw [ha, ← Except.ok.inj hrun]
      exact h
  | succ n ih =>
      intro a s s' hstep h hrun
      rw [countUp] at hrun
      cases hbody : body a s with
      | error e =>
          rw [hbody] at hrun
          cases hrun
      | ok s1 =>
          rw [hbody] at hrun
          have h1 := hstep a s s1 (Int.le_refl a) (by omega) h hbody
          have hsum : a + ((n + 1 : Nat) : Int) = a + 1 + (n : Int) := by omega
          rw [hsum]
          exact ih (a + 1) s1 s' (fun i t t' hlo hhi => hstep i t t' (by omega) (by omega))
            h1 hrun

/-- **WHAT CAME THROUGH**, counting down. -/
theorem downTo_ok {I : Int → σ → Prop} {a b : Int} {s s' : σ} (hab : b ≤ a + 1)
    (hstep : ∀ i s s', b ≤ i → i ≤ a → I i s → body i s = .ok s' → I (i - 1) s')
    (h : I a s) (hrun : downTo a b body s = .ok s') : I (b - 1) s' := by
  have hstart : I (- -a) s := by
    rw [Int.neg_neg]
    exact h
  have hinv := @countUp_ok σ ε (fun i => body (-i)) (fun i t => I (-i) t)
    (1 - b - -a).toNat (-a) s s'
    (by
      intro i t t' hlo hhi ht hbody
      have hneg : -(i + 1) = -i - 1 := by omega
      show I (-(i + 1)) t'
      rw [hneg]
      exact hstep (-i) t t' (by omega) (by omega) ht hbody)
    hstart hrun
  have hend : -(-a + ((1 - b - -a).toNat : Int)) = b - 1 := by omega
  rw [hend] at hinv
  exact hinv

/-- A loop whose bound is not above its start does nothing. -/
theorem forTo_empty {a b : Int} (hab : b ≤ a) (s : σ) :
    forTo a b body s = .ok s := by
  have hn : (b - a).toNat = 0 := by omega
  rw [forTo, hn]
  rfl

/-- A loop whose first round fails. -/
theorem forTo_error {a b : Int} {s : σ} {e : ε} (hab : a < b)
    (h : body a s = .error e) : forTo a b body s = .error e := by
  obtain ⟨n, hn⟩ : ∃ n, (b - a).toNat = n + 1 := ⟨(b - a).toNat - 1, by omega⟩
  rw [forTo, hn, countUp, h]

end CountLoop
