import Mathlib.Data.List.Nodup
import OsmoTtcn.SlotPoolProofs

/-! # Pools whose things are numbered

    What waits in a pool gets a serial number when it comes, and the numbers of
    what was picked up are kept.  A `Ledger` is such a pool with its books: every
    number was issued, belongs to what still waits in one place or to what was
    picked up, never to both, and is picked up once. -/

namespace TicketPool

open SlotPool

variable {n : Nat} {E : Type}

/-- A thing with the number under which it came. -/
structure Ticket (E : Type) where
  serial : Nat
  item : E
  deriving DecidableEq

/-- The pool and its books. -/
structure Ledger (n : Nat) (E : Type) where
  pending : Pool n (Ticket E)
  issued : Nat
  redeemed : List Nat
  apart : ∀ j k t u, pending j = some t → pending k = some u → t.serial = u.serial → j = k
  unspent : ∀ k t, pending k = some t → t.serial ∉ redeemed
  once : redeemed.Nodup
  books : ∀ s, s < issued ↔ s ∈ redeemed ∨ ∃ k t, pending k = some t ∧ t.serial = s

/-- Nothing has come. -/
def Ledger.empty : Ledger n E where
  pending := fun _ => none
  issued := 0
  redeemed := []
  apart := nofun
  unspent := nofun
  once := List.nodup_nil
  books := by simp

/-- Only the place that was updated holds something else. -/
theorem update_eq_some {a : Pool n (Ticket E)} {k j : Fin n} {o : Option (Ticket E)}
    {t : Ticket E} (h : Function.update a k o j = some t) :
    (j = k ∧ o = some t) ∨ (j ≠ k ∧ a j = some t) := by
  by_cases hj : j = k
  · rw [hj, Function.update_self] at h
    exact Or.inl ⟨hj, h⟩
  · rw [Function.update_of_ne hj] at h
    exact Or.inr ⟨hj, h⟩

theorem Ledger.pending_lt (g : Ledger n E) {k : Fin n} {t : Ticket E}
    (h : g.pending k = some t) : t.serial < g.issued :=
  (g.books t.serial).mpr (Or.inr ⟨k, t, h, rfl⟩)

theorem Ledger.redeemed_lt (g : Ledger n E) {s : Nat} (h : s ∈ g.redeemed) : s < g.issued :=
  (g.books s).mpr (Or.inl h)

/-- Something comes, to an empty place. -/
def Ledger.issue (g : Ledger n E) (k : Fin n) (item : E) (hk : g.pending k = none) :
    Ledger n E where
  pending := Function.update g.pending k (some ⟨g.issued, item⟩)
  issued := g.issued + 1
  redeemed := g.redeemed
  apart := by
    intro j j' t u hj hj' heq
    rcases update_eq_some hj with ⟨rfl, ht⟩ | ⟨-, ht⟩ <;>
      rcases update_eq_some hj' with ⟨hjj, hu⟩ | ⟨-, hu⟩
    · exact hjj.symm
    · have hlt := g.pending_lt hu
      rw [← heq, ← Option.some.inj ht] at hlt
      exact absurd hlt (Nat.lt_irrefl _)
    · have hlt := g.pending_lt ht
      rw [heq, ← Option.some.inj hu] at hlt
      exact absurd hlt (Nat.lt_irrefl _)
    · exact g.apart j j' t u ht hu heq
  unspent := by
    intro j t hj hmem
    rcases update_eq_some hj with ⟨-, ht⟩ | ⟨-, ht⟩
    · have hlt := g.redeemed_lt hmem
      rw [← Option.some.inj ht] at hlt
      exact Nat.lt_irrefl _ hlt
    · exact g.unspent j t ht hmem
  once := g.once
  books := by
    intro s
    constructor
    · intro hs
      rcases Nat.lt_succ_iff_lt_or_eq.mp hs with hlt | rfl
      · rcases (g.books s).mp hlt with hmem | ⟨j, t, hj, hserial⟩
        · exact Or.inl hmem
        · have hne : j ≠ k := by
            rintro rfl
            rw [hk] at hj
            exact nomatch hj
          exact Or.inr ⟨j, t, (Function.update_of_ne hne _ _).trans hj, hserial⟩
      · exact Or.inr ⟨k, _, Function.update_self k _ _, rfl⟩
    · rintro (hmem | ⟨j, t, hj, rfl⟩)
      · exact Nat.lt_succ_of_lt (g.redeemed_lt hmem)
      · rcases update_eq_some hj with ⟨-, ht⟩ | ⟨-, ht⟩
        · rw [← Option.some.inj ht]
          exact Nat.lt_succ_self _
        · exact Nat.lt_succ_of_lt (g.pending_lt ht)

/-- What waits in a place is picked up. -/
def Ledger.redeem (g : Ledger n E) (k : Fin n) (t : Ticket E) (hk : g.pending k = some t) :
    Ledger n E where
  pending := Function.update g.pending k none
  issued := g.issued
  redeemed := g.redeemed ++ [t.serial]
  apart := by
    intro j j' u v hj hj' heq
    rcases update_eq_some hj with ⟨-, hu⟩ | ⟨-, hu⟩
    · exact nomatch hu
    rcases update_eq_some hj' with ⟨-, hv⟩ | ⟨-, hv⟩
    · exact nomatch hv
    exact g.apart j j' u v hu hv heq
  unspent := by
    intro j u hj hmem
    rcases update_eq_some hj with ⟨-, hu⟩ | ⟨hne, hu⟩
    · exact nomatch hu
    rcases List.mem_append.mp hmem with hmem | hmem
    · exact g.unspent j u hu hmem
    · exact hne (g.apart j k u t hu hk (List.mem_singleton.mp hmem))
  once := by
    refine List.nodup_append.mpr ⟨g.once, List.nodup_singleton _, ?_⟩
    rintro s hs s' hs' rfl
    rw [List.mem_singleton.mp hs'] at hs
    exact g.unspent k t hk hs
  books := by
    intro s
    rw [g.books s, List.mem_append, List.mem_singleton]
    constructor
    · rintro (hmem | ⟨j, u, hj, rfl⟩)
      · exact Or.inl (Or.inl hmem)
      · by_cases hjk : j = k
        · rw [hjk, hk] at hj
          exact Or.inl (Or.inr (by rw [Option.some.inj hj]))
        · exact Or.inr ⟨j, u, (Function.update_of_ne hjk _ _).trans hj, rfl⟩
    · rintro ((hmem | rfl) | ⟨j, u, hj, rfl⟩)
      · exact Or.inl hmem
      · exact Or.inr ⟨k, t, hk, rfl⟩
      · rcases update_eq_some hj with ⟨-, hu⟩ | ⟨-, hu⟩
        · exact nomatch hu
        · exact Or.inr ⟨j, u, hu, rfl⟩

end TicketPool
