import Mathlib.Data.List.Basic
import Mathlib.Tactic.Common

/-! # Scanning a buffer record by record

    A decoder, or a converter from one framing to another, walks a buffer:
    it looks at what is left, emits some output, and goes on behind the record
    it took.  `scan` is that walk for an arbitrary step, over arbitrary
    alphabets and errors.  What a user proves is one fact about one record;
    `scan_flatMap` and `scan_flatMap_append` turn it into a fact about every
    list of records. -/

namespace WireScan

variable {α β ρ ε : Type}

/-- Take records off `rest` until nothing is left.  A step that consumes
    nothing ends the walk: it would be repeated for ever. -/
def scan (step : List α → Except ε (List β × List α)) (rest : List α) :
    Except ε (List β) :=
  if rest = [] then .ok []
  else
    match step rest with
    | .error e => .error e
    | .ok (o, rest') =>
        if rest'.length < rest.length then (scan step rest').map (o ++ ·)
        else .ok o
  termination_by rest.length

@[simp] theorem scan_nil (step : List α → Except ε (List β × List α)) :
    scan step [] = .ok [] := by
  rw [scan]
  exact if_pos rfl

/-- One record taken. -/
theorem scan_step {step : List α → Except ε (List β × List α)}
    {rest rest' : List α} {o : List β}
    (hstep : step rest = .ok (o, rest')) (hlt : rest'.length < rest.length) :
    scan step rest = (scan step rest').map (o ++ ·) := by
  have hne : rest ≠ [] := by
    intro h
    rw [h] at hlt
    exact absurd hlt (Nat.not_lt_zero _)
  rw [scan, if_neg hne, hstep]
  exact if_pos hlt

/-- A step that fails fails the walk. -/
theorem scan_error {step : List α → Except ε (List β × List α)}
    {rest : List α} {e : ε} (hne : rest ≠ []) (hstep : step rest = .error e) :
    scan step rest = .error e := by
  rw [scan, if_neg hne, hstep]

/-- What a walk that came through emitted first is what its first step
    emitted. -/
theorem scan_ok_inv {step : List α → Except ε (List β × List α)}
    {rest rest' : List α} {o : List β} {out : List β}
    (hne : rest ≠ []) (hstep : step rest = .ok (o, rest'))
    (h : scan step rest = .ok out) : ∃ tail, out = o ++ tail := by
  rw [scan, if_neg hne, hstep] at h
  by_cases hlt : rest'.length < rest.length
  · have h' : (scan step rest').map (o ++ ·) = .ok out := by
      simpa only [if_pos hlt] using h
    cases hs : scan step rest' with
    | error e => rw [hs] at h'; exact nomatch h'
    | ok tail =>
        rw [hs] at h'
        exact ⟨tail, (Except.ok.inj h').symm⟩
  · have h' : (Except.ok o : Except ε (List β)) = .ok out := by
      simpa only [if_neg hlt] using h
    exact ⟨[], by rw [List.append_nil]; exact (Except.ok.inj h').symm⟩

private theorem map_append_append (r : Except ε (List β)) (a b : List β) :
    (r.map (b ++ ·)).map (a ++ ·) = r.map (a ++ b ++ ·) := by
  cases r with
  | error e => rfl
  | ok l => exact congrArg Except.ok (List.append_assoc a b l).symm

/-- **TRANSCODING, WITH A REST**: a walk over well-formed records emits their
    translations in order and goes on with what follows them. -/
theorem scan_flatMap_append {step : List α → Except ε (List β × List α)}
    {encIn : ρ → List α} {encOut : ρ → List β} :
    ∀ (rs : List ρ) (rest : List α),
      (∀ r ∈ rs, encIn r ≠ []) →
      (∀ pre r post, rs = pre ++ r :: post →
        step (encIn r ++ (post.flatMap encIn ++ rest))
          = .ok (encOut r, post.flatMap encIn ++ rest)) →
      scan step (rs.flatMap encIn ++ rest)
        = (scan step rest).map (rs.flatMap encOut ++ ·) := by
  intro rs
  induction rs with
  | nil =>
      intro rest _ _
      show scan step rest = (scan step rest).map ([] ++ ·)
      cases scan step rest <;> rfl
  | cons r rs ih =>
      intro rest hne hstep
      have hhead := hstep [] r rs rfl
      have htail := ih rest (fun s hs => hne s (List.mem_cons_of_mem _ hs))
        (fun pre s post hrs => hstep (r :: pre) s post (by rw [hrs]; rfl))
      have hlt : (rs.flatMap encIn ++ rest).length
          < (encIn r ++ (rs.flatMap encIn ++ rest)).length := by
        have hpos : 0 < (encIn r).length :=
          List.length_pos_iff.mpr (hne r List.mem_cons_self)
        have hsum : (encIn r ++ (rs.flatMap encIn ++ rest)).length
            = (encIn r).length + (rs.flatMap encIn ++ rest).length :=
          List.length_append
        omega
      rw [List.flatMap_cons, List.append_assoc, scan_step hhead hlt, htail,
          map_append_append, List.flatMap_cons]

/-- **TRANSCODING**: a walk over well-formed records translates all of them. -/
theorem scan_flatMap {step : List α → Except ε (List β × List α)}
    {encIn : ρ → List α} {encOut : ρ → List β} (rs : List ρ)
    (hne : ∀ r ∈ rs, encIn r ≠ [])
    (hstep : ∀ pre r post, rs = pre ++ r :: post →
      step (encIn r ++ post.flatMap encIn)
        = .ok (encOut r, post.flatMap encIn)) :
    scan step (rs.flatMap encIn) = .ok (rs.flatMap encOut) := by
  have h : scan step (rs.flatMap encIn ++ [])
      = (scan step []).map (rs.flatMap encOut ++ ·) :=
    scan_flatMap_append rs [] hne (fun pre r post hrs => by
      rw [List.append_nil]
      exact hstep pre r post hrs)
  rw [List.append_nil, scan_nil] at h
  rw [h]
  exact congrArg Except.ok (List.append_nil _)

-- ── Where a walk ends ────────────────────────────────────────────────────────

/-- Records one behind the other; `next` says which record a buffer starts with
    and what is behind it. -/
inductive Walk (next : List α → ρ → List α → Prop) : List α → List ρ → List α → Prop
  | here (rest : List α) : Walk next rest [] rest
  | record {rest rest' left : List α} {r : ρ} {rs : List ρ} (h : next rest r rest')
      (w : Walk next rest' rs left) : Walk next rest (r :: rs) left

section Walk

variable {next : List α → ρ → List α → Prop}

/-- Nothing starts here. -/
def Stuck (next : List α → ρ → List α → Prop) (rest : List α) : Prop :=
  ∀ r rest', ¬ next rest r rest'

/-- **ONE WALK**: where a buffer determines its first record, all walks that
    cannot go on end in one place. -/
theorem Walk.unique (hnext : ∀ {rest r r' rest' rest''}, next rest r rest' →
    next rest r' rest'' → rest' = rest'') : ∀ {rest left left' : List α} {rs rs' : List ρ},
    Walk next rest rs left → Walk next rest rs' left' → Stuck next left → Stuck next left' →
    left = left' := by
  intro rest left left' rs rs' w
  induction w generalizing rs' left' with
  | here rest =>
      intro w' hstuck _
      cases w' with
      | here => rfl
      | record h _ => exact absurd h (hstuck _ _)
  | record h w ih =>
      intro w' hstuck hstuck'
      cases w' with
      | here => exact absurd h (hstuck' _ _)
      | record h' w' =>
          rw [← hnext h h'] at w'
          exact ih w' hstuck hstuck'

/-- **THE SCAN IS A WALK**: where every step takes a record or fails, the scan
    comes through to the end or fails where it cannot go on. -/
theorem scan_walk {step : List α → Except ε (List β × List α)} {enc : ρ → List β}
    {fails : List α → ε → Prop} {n : Nat}
    (hnext : ∀ {rest r rest'}, next rest r rest' → rest'.length < rest.length)
    (hstep : ∀ rest, rest ≠ [] → rest.length ≤ n →
      (∃ r rest', next rest r rest' ∧ step rest = .ok (enc r, rest'))
        ∨ ∃ e, step rest = .error e ∧ fails rest e) :
    ∀ {rest}, rest.length ≤ n →
      (∃ rs, Walk next rest rs [] ∧ scan step rest = .ok (rs.flatMap enc))
        ∨ ∃ rs left e, Walk next rest rs left ∧ left ≠ [] ∧ fails left e
          ∧ scan step rest = .error e := by
  intro rest
  induction hlen : rest.length using Nat.strongRecOn generalizing rest with
  | ind k ih =>
      intro hn
      by_cases hnil : rest = []
      · rw [hnil]
        exact Or.inl ⟨[], .here [], scan_nil step⟩
      · rcases hstep rest hnil (hlen ▸ hn) with ⟨r, rest', hrec, hok⟩ | ⟨e, herr, hfails⟩
        · have hlt := hnext hrec
          rw [scan_step hok hlt]
          rcases ih rest'.length (hlen ▸ hlt) rfl (by omega) with
            ⟨rs, w, hscan⟩ | ⟨rs, left, e, w, hne, hfails, hscan⟩
          · refine Or.inl ⟨r :: rs, .record hrec w, ?_⟩
            rw [hscan, List.flatMap_cons]
            rfl
          · refine Or.inr ⟨r :: rs, left, e, .record hrec w, hne, hfails, ?_⟩
            rw [hscan]
            rfl
        · exact Or.inr ⟨[], rest, e, .here rest, hnil, hfails, scan_error hnil herr⟩

end Walk

end WireScan
