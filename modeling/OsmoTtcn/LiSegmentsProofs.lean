import Mathlib.Data.List.Basic
import Mathlib.Tactic.Common

/-! # Segments behind a chain of length headers

    A block starts with one octet for each segment, the last of them marked,
    and the segments follow one after the other, each as long as its header
    says.  A `Layout` says what the headers and segments of a format are; the
    rules hold of every layout. -/

namespace LiSegments

/-- The headers `H` and segments `B` of a format. -/
structure Layout (H B : Type) where
  len : H → Nat
  /-- No further header follows. -/
  last : H → Bool
  /-- The header of an octet. -/
  dec : UInt8 → H
  hdr : B → Option H
  payload : B → List UInt8
  /-- A segment with its header. -/
  seg : H → List UInt8 → B
  seg_payload : ∀ {b h}, hdr b = some h → seg h (payload b) = b

variable {H B : Type} (L : Layout H B)

namespace Layout

/-- Headers up to one marked as the last; `none` where the octets run out. -/
def readHdrs : List UInt8 → Option (List H × List UInt8)
  | [] => none
  | o :: rest =>
      if L.last (L.dec o) then some ([L.dec o], rest)
      else (readHdrs rest).map (fun r => (L.dec o :: r.1, r.2))

/-- The payload of each header, cut to what is left. -/
def slices : List H → List UInt8 → List B
  | [], _ => []
  | h :: hs, buf =>
      L.seg h (buf.take (min (L.len h) buf.length))
        :: slices hs (buf.drop (min (L.len h) buf.length))

/-- Every segment has a header with its length, and the last one only is
    marked. -/
def Headed : List B → Prop
  | [] => True
  | b :: bs => (∃ h, L.hdr b = some h ∧ L.len h = (L.payload b).length
      ∧ (L.last h = true ↔ bs = [])) ∧ Headed bs

/-- The headers of the blocks that have one. -/
def headers (bs : List B) : List H := bs.filterMap L.hdr

variable {L}

/-- A block with a header comes first. -/
theorem headers_cons {b : B} {h : H} (hb : L.hdr b = some h) (bs : List B) :
    L.headers (b :: bs) = h :: L.headers bs :=
  List.filterMap_cons_some hb

/-- **HEADERS ROUND TRIP**: octets that decode to the headers of headed
    segments are read up to the last one. -/
theorem readHdrs_map {enc : H → UInt8} : ∀ {bs : List B}, bs ≠ [] →
    L.Headed bs → (∀ h ∈ L.headers bs, L.dec (enc h) = h) →
    ∀ rest, L.readHdrs ((L.headers bs).map enc ++ rest)
      = some (L.headers bs, rest) := by
  intro bs
  induction bs with
  | nil => intro hne; exact absurd rfl hne
  | cons b bs ih =>
      intro _ hh hdec rest
      obtain ⟨⟨h, hb, -, hlast⟩, hrest⟩ := hh
      rw [headers_cons hb] at hdec ⊢
      rw [List.map_cons, List.cons_append, readHdrs,
          hdec h List.mem_cons_self]
      cases bs with
      | nil =>
          rw [if_pos (hlast.mpr rfl)]
          rfl
      | cons c cs =>
          have hne : ¬ L.last h = true :=
            fun h1 => List.cons_ne_nil _ _ (hlast.mp h1)
          rw [if_neg hne, ih (List.cons_ne_nil _ _) hrest
            (fun h' hmem => hdec h' (List.mem_cons_of_mem _ hmem)) rest]
          rfl

/-- There is at least one header. -/
theorem readHdrs_ne_nil {buf rest : List UInt8} {hs : List H}
    (h : L.readHdrs buf = some (hs, rest)) : hs ≠ [] := by
  cases buf with
  | nil => exact nomatch h
  | cons o buf =>
      rw [readHdrs] at h
      by_cases hlast : L.last (L.dec o) = true
      · rw [if_pos hlast] at h
        obtain ⟨rfl, -⟩ := Prod.mk.inj (Option.some.inj h)
        exact List.cons_ne_nil _ _
      · rw [if_neg hlast] at h
        obtain ⟨r, -, hr⟩ := Option.map_eq_some_iff.mp h
        obtain ⟨rfl, -⟩ := Prod.mk.inj hr
        exact List.cons_ne_nil _ _

/-- The headers are those of the first octets. -/
theorem readHdrs_split : ∀ {buf rest : List UInt8} {hs : List H},
    L.readHdrs buf = some (hs, rest) → ∃ pre, buf = pre ++ rest ∧ pre.map L.dec = hs := by
  intro buf
  induction buf with
  | nil => intro rest hs h; exact nomatch h
  | cons o buf ih =>
      intro rest hs h
      rw [readHdrs] at h
      by_cases hlast : L.last (L.dec o) = true
      · rw [if_pos hlast] at h
        obtain ⟨rfl, rfl⟩ := Prod.mk.inj (Option.some.inj h)
        exact ⟨[o], rfl, rfl⟩
      · rw [if_neg hlast] at h
        obtain ⟨⟨hs', rest'⟩, hread, hr⟩ := Option.map_eq_some_iff.mp h
        obtain ⟨rfl, rfl⟩ := Prod.mk.inj hr
        obtain ⟨pre, rfl, hpre⟩ := ih hread
        exact ⟨o :: pre, rfl, congrArg (L.dec o :: ·) hpre⟩

/-- **SEGMENTS ARE SLICES**, one behind the other. -/
theorem slices_prefix (hseg : ∀ h payload, L.payload (L.seg h payload) = payload) :
    ∀ (hs : List H) (buf : List UInt8), (L.slices hs buf).flatMap L.payload <+: buf := by
  intro hs
  induction hs with
  | nil => intro buf; exact List.nil_prefix
  | cons h hs ih =>
      intro buf
      rw [slices, List.flatMap_cons, hseg]
      have htail := ih (buf.drop (min (L.len h) buf.length))
      have hall := (List.prefix_append_right_inj
        (buf.take (min (L.len h) buf.length))).mpr htail
      rw [List.take_append_drop] at hall
      exact hall

/-- Each segment keeps the header it is cut out by. -/
theorem headers_slices (hseg : ∀ h payload, L.hdr (L.seg h payload) = some h) :
    ∀ (hs : List H) (buf : List UInt8), L.headers (L.slices hs buf) = hs := by
  intro hs
  induction hs with
  | nil => exact fun _ => rfl
  | cons h hs ih =>
      intro buf
      rw [slices, headers_cons (hseg _ _), ih]

/-- **SEGMENTS ROUND TRIP**: headed segments are cut out again. -/
theorem slices_headed : ∀ {bs : List B}, L.Headed bs → ∀ rest,
    L.slices (L.headers bs) (bs.flatMap L.payload ++ rest) = bs := by
  intro bs
  induction bs with
  | nil => intro _ rest; rfl
  | cons b bs ih =>
      intro hh rest
      obtain ⟨⟨h, hb, hlen, -⟩, hrest⟩ := hh
      have hmin : min (L.len h)
          (L.payload b ++ (bs.flatMap L.payload ++ rest)).length
          = (L.payload b).length := by
        rw [hlen, List.length_append]
        exact Nat.min_eq_left (Nat.le_add_right _ _)
      rw [headers_cons hb, List.flatMap_cons, List.append_assoc, slices, hmin,
          List.take_left, List.drop_left, ih hrest rest, L.seg_payload hb]

/-- A slice for each header. -/
theorem slices_length : ∀ (hs : List H) (buf : List UInt8),
    (L.slices hs buf).length = hs.length := by
  intro hs
  induction hs with
  | nil => intro buf; rfl
  | cons h hs ih => intro buf; exact congrArg (· + 1) (ih _)

/-- In a list of headed blocks every block has a header. -/
theorem Headed.isSome : ∀ {bs : List B}, L.Headed bs →
    ∀ b ∈ bs, (L.hdr b).isSome = true := by
  intro bs
  induction bs with
  | nil => intro _ b hmem; exact nomatch hmem
  | cons c cs ih =>
      intro hh b hmem
      obtain ⟨⟨h, hc, -, -⟩, hrest⟩ := hh
      rcases List.mem_cons.mp hmem with rfl | hmem'
      · rw [hc]
        rfl
      · exact ih hrest b hmem'

/-- The lengths of headed segments are those of their payloads. -/
theorem Headed.len_mem : ∀ {bs : List B}, L.Headed bs →
    ∀ h ∈ L.headers bs, ∃ b ∈ bs, L.len h = (L.payload b).length := by
  intro bs
  induction bs with
  | nil => intro _ h hmem; exact nomatch hmem
  | cons c cs ih =>
      intro hh h hmem
      obtain ⟨⟨h', hc, hlen, -⟩, hrest⟩ := hh
      rw [headers_cons hc] at hmem
      rcases List.mem_cons.mp hmem with rfl | hmem'
      · exact ⟨c, List.mem_cons_self, hlen⟩
      · obtain ⟨b, hb, hbl⟩ := ih hrest h hmem'
        exact ⟨b, List.mem_cons_of_mem _ hb, hbl⟩

end Layout

/-- A segment is no longer than all of them together. -/
theorem length_le_flatMap {α β : Type} (f : α → List β) {xs : List α} {x : α}
    (h : x ∈ xs) : (f x).length ≤ (xs.flatMap f).length := by
  obtain ⟨pre, post, rfl⟩ := List.append_of_mem h
  simp only [List.flatMap_append, List.flatMap_cons, List.length_append]
  omega

end LiSegments

/-! # Reassembly of segmented data units

    A receiver appends the data of every segment to the unit it is building
    and starts the next unit behind a segment that ends one.  `Holds` is the
    invariant of any lossless sender: what the receiver has, followed by what
    the sender still has, is the list of units.  The two ways of sending a
    segment keep it (`Holds.feed_last`, `Holds.feed_part`). -/

namespace Reassembly

variable {α σ : Type}

/-- The units completed and the octets of the one being built. -/
structure Buffer (α : Type) where
  done : List (List α)
  acc : List α
  deriving DecidableEq

/-- Nothing is done and nothing collected. -/
def Buffer.empty : Buffer α := ⟨[], []⟩

/-- A segment is collected, or finishes a whole. -/
def feed (ends : σ → Bool) (data : σ → List α) (b : Buffer α) (s : σ) :
    Buffer α :=
  if ends s then ⟨b.done ++ [b.acc ++ data s], []⟩
  else ⟨b.done, b.acc ++ data s⟩

/-- The segments in the order they arrive. -/
def reassemble (ends : σ → Bool) (data : σ → List α) (b : Buffer α)
    (ss : List σ) : Buffer α :=
  ss.foldl (feed ends data) b

/-- The buffer and what is still to come make up `whole`. -/
def Holds (b : Buffer α) (rest whole : List (List α)) : Prop :=
  match rest with
  | [] => b.acc = [] ∧ b.done = whole
  | p :: ps => b.done ++ (b.acc ++ p) :: ps = whole

variable {ends : σ → Bool} {data : σ → List α}

/-- Segments are collected part by part. -/
theorem reassemble_append (b : Buffer α) (ss ts : List σ) :
    reassemble ends data b (ss ++ ts)
      = reassemble ends data (reassemble ends data b ss) ts :=
  List.foldl_append

/-- At the start everything is to come. -/
theorem holds_empty (whole : List (List α)) :
    Holds Buffer.empty whole whole := by
  cases whole with
  | nil => exact ⟨rfl, rfl⟩
  | cons p ps => rfl

/-- The last segment of a unit. -/
theorem Holds.feed_last {b : Buffer α} {s : σ} {ps whole : List (List α)}
    (h : Holds b (data s :: ps) whole) (hs : ends s = true) :
    Holds (feed ends data b s) ps whole := by
  have hsum : b.done ++ (b.acc ++ data s) :: ps = whole := h
  rw [feed, if_pos hs]
  cases ps with
  | nil => exact ⟨rfl, hsum⟩
  | cons q qs =>
      show (b.done ++ [b.acc ++ data s]) ++ ([] ++ q) :: qs = whole
      rw [List.append_assoc]
      exact hsum

/-- A segment that leaves a part of its unit. -/
theorem Holds.feed_part {b : Buffer α} {s : σ} {p : List α}
    {ps whole : List (List α)} {k : Nat}
    (h : Holds b (p :: ps) whole) (hs : ends s = false)
    (hdata : data s = p.take k) :
    Holds (feed ends data b s) (p.drop k :: ps) whole := by
  have hsum : b.done ++ (b.acc ++ p) :: ps = whole := h
  rw [feed, hs]
  show b.done ++ ((b.acc ++ data s) ++ p.drop k) :: ps = whole
  rw [hdata, List.append_assoc, List.take_append_drop]
  exact hsum

end Reassembly
