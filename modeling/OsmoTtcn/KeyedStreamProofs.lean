import Mathlib.Data.List.Basic
import Mathlib.Tactic.Common

/-! # Streams that share a line

    Values that go over one line, each under the key of the stream it belongs
    to.  `ofKey` is one stream in its own order, `prev` its last value.
    `Numbered` says which value stands at which place of a stream; `breaks`
    counts the values that are not the successor of the one before them in
    their stream.  Both are extended one value at a time. -/

namespace KeyedStream

variable {κ ν : Type} [DecidableEq κ]

/-- The values of one stream, in the order of the line. -/
def ofKey (k : κ) : List (κ × ν) → List ν
  | [] => []
  | (k', v) :: l => if k' = k then v :: ofKey k l else ofKey k l

variable {k k' : κ} {v : ν} {l : List (κ × ν)}

/-- What belongs to a key in two parts. -/
theorem ofKey_append (k : κ) (l m : List (κ × ν)) :
    ofKey k (l ++ m) = ofKey k l ++ ofKey k m := by
  induction l with
  | nil => rfl
  | cons p l ih =>
      obtain ⟨k', v⟩ := p
      rw [List.cons_append, ofKey, ofKey]
      by_cases hk : k' = k
      · rw [if_pos hk, if_pos hk, ih, List.cons_append]
      · rw [if_neg hk, if_neg hk, ih]

/-- A value more of the key itself. -/
theorem ofKey_snoc_self (k : κ) (v : ν) (l : List (κ × ν)) :
    ofKey k (l ++ [(k, v)]) = ofKey k l ++ [v] := by
  rw [ofKey_append, ofKey, if_pos rfl]
  rfl

/-- A value more of another key. -/
theorem ofKey_snoc_ne (h : k' ≠ k) (v : ν) (l : List (κ × ν)) :
    ofKey k (l ++ [(k', v)]) = ofKey k l := by
  rw [ofKey_append, ofKey, if_neg h]
  exact List.append_nil _

-- ── Numbers ──────────────────────────────────────────────────────────────────

/-- The value at place `n` of stream `k` satisfies `P k n`. -/
def Numbered (P : κ → Nat → ν → Prop) (l : List (κ × ν)) : Prop :=
  ∀ k n v, (ofKey k l)[n]? = some v → P k n v

variable {P Q : κ → Nat → ν → Prop}

/-- Nothing is numbered. -/
theorem numbered_nil : Numbered P [] := by
  intro k n v h
  rw [ofKey, List.getElem?_nil] at h
  exact nomatch h

/-- A weaker rule is kept where a stronger one is. -/
theorem Numbered.imp (h : Numbered P l) (hPQ : ∀ k n v, P k n v → Q k n v) :
    Numbered Q l := by
  intro k n v hv
  exact hPQ k n v (h k n v hv)

/-- The next value of a stream stands behind all it had. -/
theorem Numbered.snoc (h : Numbered P l) (hv : P k (ofKey k l).length v) :
    Numbered P (l ++ [(k, v)]) := by
  intro k' n w hw
  by_cases hk : k = k'
  · subst hk
    rw [ofKey_snoc_self] at hw
    rcases Nat.lt_or_ge n (ofKey k l).length with hlt | hge
    · rw [List.getElem?_append_left hlt] at hw
      exact h k n w hw
    · rw [List.getElem?_append_right hge] at hw
      obtain ⟨hn, hvw⟩ := Option.ite_none_right_eq_some.mp
        (List.getElem?_singleton.symm.trans hw)
      have hlen : n = (ofKey k l).length := by omega
      rw [hlen, ← Option.some.inj hvw]
      exact hv
  · rw [ofKey_snoc_ne hk] at hw
    exact h k' n w hw

-- ── Successors ───────────────────────────────────────────────────────────────

/-- The value that stream `k` had last, with the newest at the head. -/
def prev (k : κ) (newest : List (κ × ν)) : Option ν := (ofKey k newest).head?

variable [DecidableEq ν]

/-- The value follows another one of its stream and is not its successor. -/
def isBreak (next : ν → ν) (k : κ) (v : ν) (newest : List (κ × ν)) : Bool :=
  (prev k newest).any (fun p => decide (v ≠ next p))

/-- How many values of the line are not the first of their stream and not the
    successor of the one before, with the newest at the head. -/
def breaks (next : ν → ν) : List (κ × ν) → Nat
  | [] => 0
  | (k, v) :: older => breaks next older + if isBreak next k v older then 1 else 0

/-- A value breaks the sequence if it is not the one after the last. -/
theorem isBreak_iff {next : ν → ν} :
    isBreak next k v l = true ↔ ∃ p, prev k l = some p ∧ v ≠ next p := by
  rw [isBreak, Option.any_eq_true]
  exact exists_congr (fun p => and_congr_right (fun _ => decide_eq_true_iff))

end KeyedStream
