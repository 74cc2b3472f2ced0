import Mathlib.Data.List.Basic
import Mathlib.Tactic.Common

/-! # Two stateful parties in lockstep

    A sender works through a list and puts out one item for each element, a
    receiver takes the items in order; both may throw, and both keep a state
    of their own.  `mapTrace` is the loop of either side, with the state behind
    every item.  `lockstep` lifts what one item does to a whole list: where
    every item is taken and leaves the two states related, the list is, with
    the states related behind every item.

    `slices` cuts a message into pieces of bounded length. -/

namespace Lockstep

open EStateM (Result)

variable {ε ε' σ τ α β γ : Type}

-- ── Steps ────────────────────────────────────────────────────────────────────

/-- What succeeds hands on its value and its state. -/
theorem bind_ok_eq {x : EStateM ε σ α} {f : α → EStateM ε σ β} {s s' : σ}
    {a : α} (h : x s = .ok a s') : (x >>= f) s = f a s' := by
  show EStateM.bind x f s = _
  rw [EStateM.bind, h]

/-- What fails ends there. -/
theorem bind_error_eq {x : EStateM ε σ α} {f : α → EStateM ε σ β} {s s' : σ}
    {e : ε} (h : x s = .error e s') : (x >>= f) s = .error e s' := by
  show EStateM.bind x f s = _
  rw [EStateM.bind, h]

/-- What came through came through in both parts. -/
theorem bind_ok_inv {x : EStateM ε σ α} {f : α → EStateM ε σ β} {s s'' : σ}
    {b : β} (h : (x >>= f) s = .ok b s'') :
    ∃ a s', x s = .ok a s' ∧ f a s' = .ok b s'' := by
  cases hx : x s with
  | error e s' =>
      rw [bind_error_eq hx] at h
      exact nomatch h
  | ok a s' =>
      rw [bind_ok_eq hx] at h
      exact ⟨a, s', rfl, h⟩

-- ── Loops ────────────────────────────────────────────────────────────────────

/-- `List.mapM` with the state behind every item. -/
def mapTrace (f : α → EStateM ε σ β) : List α → EStateM ε σ (List (β × σ))
  | [] => pure []
  | a :: as => do
      let b ← f a
      let s ← get
      let bs ← mapTrace f as
      pure ((b, s) :: bs)

/-- The first is done first. -/
theorem mapM_cons {f : α → EStateM ε σ β} {a : α} {as : List α}
    {s s' s'' : σ} {b : β} {bs : List β} (h : f a s = .ok b s')
    (hs : as.mapM f s' = .ok bs s'') :
    (a :: as).mapM f s = .ok (b :: bs) s'' := by
  rw [List.mapM_cons, bind_ok_eq h, bind_ok_eq hs]
  rfl

/-- The first state is that of the first. -/
theorem mapTrace_cons {f : α → EStateM ε σ β} {a : α} {as : List α}
    {s s' s'' : σ} {b : β} {bs : List (β × σ)} (h : f a s = .ok b s')
    (hs : mapTrace f as s' = .ok bs s'') :
    mapTrace f (a :: as) s = .ok ((b, s') :: bs) s'' := by
  have hget : (get : EStateM ε σ σ) s' = .ok s' s' := rfl
  rw [mapTrace, bind_ok_eq h, bind_ok_eq hget, bind_ok_eq hs]
  rfl

/-- Tracing changes nothing. -/
theorem mapM_of_mapTrace {f : α → EStateM ε σ β} :
    ∀ {as : List α} {s s' : σ} {bs : List (β × σ)},
      mapTrace f as s = .ok bs s' →
      as.mapM f s = .ok (bs.map Prod.fst) s' := by
  intro as
  induction as with
  | nil =>
      intro s s' bs h
      obtain ⟨rfl, rfl⟩ := Result.ok.inj h
      rfl
  | cons a as ih =>
      intro s s' bs h
      cases ha : f a s with
      | error e t =>
          rw [mapTrace, bind_error_eq ha] at h
          exact nomatch h
      | ok b t =>
          have hget : (get : EStateM ε σ σ) t = .ok t t := rfl
          rw [mapTrace, bind_ok_eq ha, bind_ok_eq hget] at h
          cases has : mapTrace f as t with
          | error e u =>
              rw [bind_error_eq has] at h
              exact nomatch h
          | ok cs u =>
              rw [bind_ok_eq has] at h
              obtain ⟨rfl, rfl⟩ := Result.ok.inj h
              exact mapM_cons ha (ih has)

/-- **LOCKSTEP**: where every item is taken for what it stands for and leaves
    the states related, a whole list goes through, the states related behind
    every item. -/
theorem lockstep {send : α → EStateM ε σ β} {take : β → EStateM ε' τ γ}
    (meaning : α → γ) {R : σ → τ → Prop} {P : α → Prop}
    (hstep : ∀ s r a, R s r → P a → ∃ b s' r', send a s = .ok b s'
      ∧ take b r = .ok (meaning a) r' ∧ R s' r') :
    ∀ (as : List α) (s : σ) (r : τ), R s r → (∀ a ∈ as, P a) →
      ∃ sent s' got r', mapTrace send as s = .ok sent s'
        ∧ mapTrace take (sent.map Prod.fst) r = .ok got r'
        ∧ got.map Prod.fst = as.map meaning
        ∧ List.Forall₂ (fun x y => R x.2 y.2) sent got ∧ R s' r' := by
  intro as
  induction as with
  | nil =>
      intro s r hR _
      exact ⟨[], s, [], r, rfl, rfl, rfl, List.Forall₂.nil, hR⟩
  | cons a as ih =>
      intro s r hR hP
      obtain ⟨b, s', r', hsend, htake, hR'⟩ :=
        hstep s r a hR (hP a List.mem_cons_self)
      obtain ⟨sent, s'', got, r'', hsent, hgot, hmean, hall, hR''⟩ :=
        ih s' r' hR' (fun x hx => hP x (List.mem_cons_of_mem _ hx))
      refine ⟨(b, s') :: sent, s'', (meaning a, r') :: got, r'',
        mapTrace_cons hsend hsent, mapTrace_cons htake hgot, ?_,
        List.Forall₂.cons hR' hall, hR''⟩
      rw [List.map_cons, List.map_cons, hmean]

-- ── Slices ───────────────────────────────────────────────────────────────────

/-- Pieces of `n` elements, the last one shorter; `fuel` bounds their
    number. -/
def slices (n : Nat) : (fuel : Nat) → List α → List (List α)
  | 0, _ => []
  | fuel + 1, data =>
      match data with
      | [] => []
      | _ :: _ => data.take n :: slices n fuel (data.drop n)

/-- The slices make the whole. -/
theorem slices_flatten {n : Nat} (hn : 0 < n) : ∀ (fuel : Nat) (data : List α),
    data.length ≤ fuel → (slices n fuel data).flatten = data := by
  intro fuel
  induction fuel with
  | zero =>
      intro data hfuel
      exact (List.eq_nil_of_length_eq_zero (Nat.le_zero.mp hfuel)).symm
  | succ fuel ih =>
      intro data hfuel
      cases data with
      | nil => rfl
      | cons x xs =>
          have hshort : ((x :: xs).drop n).length ≤ fuel := by
            rw [List.length_drop]
            omega
          rw [slices, List.flatten_cons, ih _ hshort, List.take_append_drop]

/-- No slice is empty or too long. -/
theorem slices_bounds {n : Nat} (hn : 0 < n) : ∀ (fuel : Nat) (data : List α),
    ∀ piece ∈ slices n fuel data, 0 < piece.length ∧ piece.length ≤ n := by
  intro fuel
  induction fuel with
  | zero => intro data piece hpiece; exact nomatch hpiece
  | succ fuel ih =>
      intro data piece hpiece
      cases data with
      | nil => exact nomatch hpiece
      | cons x xs =>
          rcases List.mem_cons.mp hpiece with rfl | hrest
          · rw [List.length_take]
            exact ⟨Nat.lt_min.mpr ⟨hn, Nat.succ_pos _⟩, Nat.min_le_left _ _⟩
          · exact ih _ piece hrest

/-- A message that fits is its only piece. -/
theorem slices_single {n fuel : Nat} {data : List α} (hpos : 0 < data.length)
    (hn : data.length ≤ n) : slices n (fuel + 1) data = [data] := by
  cases data with
  | nil => exact absurd hpos (Nat.lt_irrefl 0)
  | cons x xs =>
      rw [slices, List.take_of_length_le hn, List.drop_of_length_le hn]
      cases fuel with
      | zero => rfl
      | succ fuel => rfl

end Lockstep
