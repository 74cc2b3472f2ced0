import Mathlib.Data.Nat.Digits.Lemmas
import OsmoTtcn.WireOctetProofs

/-! # DER: numbers, identifiers, lengths and TLVs

    A number is written most significant octet first: as few octets as it needs,
    or padded to a width.  A TLV is an identifier, the length of its contents
    and the contents; the identifier is one octet, or more for tag numbers from
    31 on, and so is the length from 128 on.

    For each form there is a reader, and reading what was written gives it back
    with what follows it. -/

namespace Der

open WireOctet

-- ── Numbers ──────────────────────────────────────────────────────────────────

/-- As few octets as the number needs, none for 0. -/
def octets (n : Nat) : List UInt8 := ((Nat.digits 256 n).map UInt8.ofNat).reverse

/-- The number of octets, the first one worth most. -/
def ofOctets (os : List UInt8) : Nat := Nat.ofDigits 256 (os.map UInt8.toNat).reverse

/-- Digits survive as octets. -/
theorem map_toNat_ofNat {ds : List Nat} (h : ∀ d ∈ ds, d < 256) :
    (ds.map UInt8.ofNat).map UInt8.toNat = ds := by
  have hid : ds.map (UInt8.toNat ∘ UInt8.ofNat) = ds.map id :=
    List.map_congr_left (fun d hd => toNat_octet (h d hd))
  rw [List.map_map, hid, List.map_id]

/-- The digits are below 256. -/
theorem toNat_mem_lt {os : List UInt8} {d : Nat} (h : d ∈ (os.map UInt8.toNat).reverse) :
    d < 256 := by
  obtain ⟨o, -, rfl⟩ := List.mem_map.mp (List.mem_reverse.mp h)
  exact UInt8.toNat_lt o

/-- The octets of a number are read back. -/
theorem ofOctets_octets (n : Nat) : ofOctets (octets n) = n := by
  rw [ofOctets, octets, List.map_reverse, List.reverse_reverse,
    map_toNat_ofNat (fun d hd => Nat.digits_lt_base (by decide) hd), Nat.ofDigits_digits]

/-- A number has as many octets as its size needs. -/
theorem octets_length_le {n k : Nat} : (octets n).length ≤ k ↔ n < 256 ^ k := by
  rw [octets, List.length_reverse, List.length_map, Nat.digits_length_le_iff (by decide)]

/-- So many octets are below so large a number. -/
theorem ofOctets_lt (os : List UInt8) : ofOctets os < 256 ^ os.length := by
  have h := Nat.ofDigits_lt_base_pow_length (l := (os.map UInt8.toNat).reverse)
    (show 1 < 256 by decide) (fun d hd => toNat_mem_lt hd)
  rw [List.length_reverse, List.length_map] at h
  exact h

/-- Octet strings of one length are told apart by their numbers. -/
theorem ofOctets_inj {a b : List UInt8} (hlen : a.length = b.length)
    (h : ofOctets a = ofOctets b) : a = b := by
  have hdigits := Nat.ofDigits_inj_of_len_eq (show 1 < 256 by decide)
    (by rw [List.length_reverse, List.length_reverse, List.length_map, List.length_map, hlen])
    (fun d hd => toNat_mem_lt hd) (fun d hd => toNat_mem_lt hd) h
  exact List.map_injective_iff.mpr (fun _ _ h => UInt8.toNat_inj.mp h)
    (List.reverse_injective hdigits)

/-- Leading zeros do not count. -/
theorem ofOctets_zeros (k : Nat) (os : List UInt8) :
    ofOctets (List.replicate k 0 ++ os) = ofOctets os := by
  rw [ofOctets, List.map_append, List.map_replicate, List.reverse_append,
    List.reverse_replicate]
  exact Nat.ofDigits_append_replicate_zero _

-- ── Numbers of a width ───────────────────────────────────────────────────────

/-- The number in `k` octets. -/
def padded (k n : Nat) : List UInt8 :=
  List.replicate (k - (octets n).length) 0 ++ octets n

/-- A number filled up is as long as was asked for. -/
theorem padded_length {k n : Nat} (h : n < 256 ^ k) : (padded k n).length = k := by
  have hle := octets_length_le.mpr h
  rw [padded, List.length_append, List.length_replicate]
  omega

/-- A number filled up is read back. -/
theorem ofOctets_padded (k n : Nat) : ofOctets (padded k n) = n := by
  rw [padded, ofOctets_zeros, ofOctets_octets]

/-- **PADDING**: an octet string is its number in its width. -/
theorem padded_ofOctets (os : List UInt8) : padded os.length (ofOctets os) = os :=
  ofOctets_inj (padded_length (ofOctets_lt os)) (ofOctets_padded _ _)

-- ── Lengths ──────────────────────────────────────────────────────────────────

/-- A length, short or long. -/
def lengthOctets (n : Nat) : List UInt8 :=
  if n < 128 then [UInt8.ofNat n] else UInt8.ofNat (128 + (octets n).length) :: octets n

/-- A length, read back with what follows it. -/
def readLength : List UInt8 → Option (Nat × List UInt8)
  | [] => none
  | o :: os =>
      if o.toNat < 128 then some (o.toNat, os)
      else if o.toNat - 128 ≤ os.length then
        some (ofOctets (os.take (o.toNat - 128)), os.drop (o.toNat - 128))
      else none

/-- **LENGTHS ROUND TRIP.** -/
theorem readLength_lengthOctets {n : Nat} (h : n < 256 ^ 126) (rest : List UInt8) :
    readLength (lengthOctets n ++ rest) = some (n, rest) := by
  rw [lengthOctets]
  by_cases hshort : n < 128
  · rw [if_pos hshort]
    show readLength (UInt8.ofNat n :: rest) = _
    rw [readLength, toNat_octet (by omega), if_pos hshort]
  · have hlen : (octets n).length ≤ 126 := octets_length_le.mpr h
    have hfirst : (UInt8.ofNat (128 + (octets n).length)).toNat - 128 = (octets n).length := by
      rw [toNat_octet (by omega)]
      omega
    rw [if_neg hshort, List.cons_append, readLength, hfirst, toNat_octet (by omega),
      if_neg (by omega), if_pos (by rw [List.length_append]; omega), List.take_left,
      List.drop_left, ofOctets_octets]

-- ── Identifiers ──────────────────────────────────────────────────────────────

/-- Class, form and number of a tag. -/
structure Ident where
  cls : Fin 4
  constructed : Bool
  number : Nat
  deriving DecidableEq

/-- The first octet but for the number. -/
def Ident.leading (i : Ident) : Nat := i.cls.val * 64 + (if i.constructed then 32 else 0)

/-- Seven bits an octet, the last one marked by a clear bit. -/
def base128 (n : Nat) : List UInt8 :=
  match Nat.digits 128 n with
  | [] => [0]
  | d :: ds => (ds.map (fun d => UInt8.ofNat (128 + d))).reverse ++ [UInt8.ofNat d]

/-- An identifier, with a low or a high tag number. -/
def Ident.octets (i : Ident) : List UInt8 :=
  if i.number < 31 then [UInt8.ofNat (i.leading + i.number)]
  else UInt8.ofNat (i.leading + 31) :: base128 i.number

/-- A number of seven bits an octet. -/
def readBase128 : Nat → List UInt8 → Option (Nat × List UInt8)
  | _, [] => none
  | acc, o :: os =>
      if o.toNat < 128 then some (acc * 128 + o.toNat, os)
      else readBase128 (acc * 128 + (o.toNat - 128)) os

/-- The octets in front of the last one, by induction on their digits. -/
theorem readBase128_digits : ∀ {ds : List Nat}, (∀ d ∈ ds, d < 128) →
    ∀ (acc : Nat) (tail : List UInt8),
    readBase128 acc ((ds.map (fun d => UInt8.ofNat (128 + d))).reverse ++ tail)
      = readBase128 (acc * 128 ^ ds.length + Nat.ofDigits 128 ds) tail := by
  intro ds
  induction ds with
  | nil =>
      intro _ acc tail
      rw [List.map_nil, List.reverse_nil, List.nil_append, List.length_nil, Nat.pow_zero,
        Nat.mul_one, Nat.ofDigits_nil, Nat.add_zero]
  | cons d ds ih =>
      intro hall acc tail
      have hd : (UInt8.ofNat (128 + d)).toNat = 128 + d :=
        toNat_octet (by have := hall d List.mem_cons_self; omega)
      rw [List.map_cons, List.reverse_cons, List.append_assoc,
        ih (fun e he => hall e (List.mem_cons_of_mem d he)), List.singleton_append,
        readBase128, hd, if_neg (by omega), Nat.add_sub_cancel_left, List.length_cons,
        Nat.ofDigits_cons]
      congr 1
      rw [Nat.pow_succ, Nat.add_mul, Nat.mul_assoc, Nat.mul_comm (Nat.ofDigits 128 ds) 128]
      omega

/-- Such a number is read back. -/
theorem readBase128_base128 (n : Nat) (rest : List UInt8) :
    readBase128 0 (base128 n ++ rest) = some (n, rest) := by
  have hlt : ∀ d ∈ Nat.digits 128 n, d < 128 :=
    fun d hd => Nat.digits_lt_base (by decide) hd
  have hval := Nat.ofDigits_digits 128 n
  rw [base128]
  cases hds : Nat.digits 128 n with
  | nil =>
      rw [hds, Nat.ofDigits_nil] at hval
      rw [← hval]
      rfl
  | cons d ds =>
      rw [hds] at hlt hval
      have hd := hlt d List.mem_cons_self
      rw [Nat.ofDigits_cons] at hval
      dsimp only
      rw [List.append_assoc, readBase128_digits (fun e he => hlt e (List.mem_cons_of_mem d he)),
        List.singleton_append, readBase128, toNat_octet (by omega), if_pos hd]
      congr 2
      omega

/-- The class, the form and what of the number the first octet has. -/
def readFirst (o : UInt8) : Fin 4 × Bool × Nat :=
  (Fin.ofNat 4 (o.toNat / 64), decide (o.toNat / 32 % 2 = 1), o.toNat % 32)

/-- An identifier, read back with what follows it. -/
def readIdent : List UInt8 → Option (Ident × List UInt8)
  | [] => none
  | o :: os =>
      let (cls, constructed, number) := readFirst o
      if number < 31 then some (⟨cls, constructed, number⟩, os)
      else (readBase128 0 os).map (fun r => (⟨cls, constructed, r.1⟩, r.2))

/-- The leading octet is read back. -/
theorem readFirst_leading (i : Ident) {n : Nat} (h : n < 32) :
    readFirst (UInt8.ofNat (i.leading + n)) = (i.cls, i.constructed, n) := by
  obtain ⟨cls, constructed, number⟩ := i
  have hcls := cls.isLt
  have hoctet : (UInt8.ofNat (Ident.leading ⟨cls, constructed, number⟩ + n)).toNat
      = cls.val * 64 + (if constructed then 32 else 0) + n := by
    rw [Ident.leading]
    refine toNat_octet ?_
    cases constructed
    · rw [if_neg Bool.false_ne_true]
      omega
    · rw [if_pos rfl]
      omega
  rw [readFirst, hoctet]
  cases constructed
  · refine Prod.ext (Fin.ext ?_) (Prod.ext ?_ ?_)
    · show (cls.val * 64 + 0 + n) / 64 % 4 = cls.val
      omega
    · exact decide_eq_false (show ¬ (cls.val * 64 + 0 + n) / 32 % 2 = 1 by omega)
    · show (cls.val * 64 + 0 + n) % 32 = n
      omega
  · refine Prod.ext (Fin.ext ?_) (Prod.ext ?_ ?_)
    · show (cls.val * 64 + 32 + n) / 64 % 4 = cls.val
      omega
    · exact decide_eq_true (show (cls.val * 64 + 32 + n) / 32 % 2 = 1 by omega)
    · show (cls.val * 64 + 32 + n) % 32 = n
      omega

/-- **IDENTIFIERS ROUND TRIP.** -/
theorem readIdent_octets (i : Ident) (rest : List UInt8) :
    readIdent (i.octets ++ rest) = some (i, rest) := by
  rw [Ident.octets]
  by_cases hlow : i.number < 31
  · rw [if_pos hlow, List.singleton_append, readIdent,
      readFirst_leading i (Nat.lt_succ_of_lt hlow)]
    dsimp only
    rw [if_pos hlow]
  · rw [if_neg hlow, List.cons_append, readIdent, readFirst_leading i (by decide)]
    dsimp only
    rw [if_neg (by decide), readBase128_base128]
    rfl

-- ── TLVs ─────────────────────────────────────────────────────────────────────

/-- A value with its identifier. -/
structure Tlv where
  ident : Ident
  content : List UInt8
  deriving DecidableEq

/-- What stands before the content. -/
def Tlv.header (t : Tlv) : List UInt8 := t.ident.octets ++ lengthOctets t.content.length

/-- The whole of it. -/
def Tlv.octets (t : Tlv) : List UInt8 := t.header ++ t.content

/-- Identifier and length, and what is behind them. -/
def readHeader (os : List UInt8) : Option (Ident × Nat × List UInt8) :=
  (readIdent os).bind (fun r =>
    (readLength r.2).map (fun r' => (r.1, r'.1, r'.2)))

/-- **HEADERS ROUND TRIP.** -/
theorem readHeader_header {t : Tlv} (h : t.content.length < 256 ^ 126) (rest : List UInt8) :
    readHeader (t.header ++ rest) = some (t.ident, t.content.length, rest) := by
  rw [readHeader, Tlv.header, List.append_assoc, readIdent_octets, Option.bind_some,
    readLength_lengthOctets h]
  rfl

/-- A TLV, if its contents are there. -/
def readTlv (os : List UInt8) : Option (Tlv × List UInt8) :=
  (readHeader os).bind (fun r =>
    if r.2.1 ≤ r.2.2.length then some (⟨r.1, r.2.2.take r.2.1⟩, r.2.2.drop r.2.1) else none)

/-- **A VALUE IS READ BACK**, with what follows it. -/
theorem readTlv_octets {t : Tlv} (h : t.content.length < 256 ^ 126) (rest : List UInt8) :
    readTlv (t.octets ++ rest) = some (t, rest) := by
  have hle : t.content.length ≤ (t.content ++ rest).length := by
    rw [List.length_append]
    exact Nat.le_add_right _ _
  rw [readTlv, Tlv.octets, List.append_assoc, readHeader_header h, Option.bind_some,
    if_pos hle, List.take_left, List.drop_left]

/-- Nothing is read of nothing. -/
theorem readTlv_nil : readTlv [] = none := rfl

/-- The content is within the octets. -/
theorem content_length_le (t : Tlv) (rest : List UInt8) :
    t.content.length ≤ (t.octets ++ rest).length := by
  rw [Tlv.octets, List.length_append, List.length_append]
  omega

/-- TLVs in a row are told apart. -/
theorem flatMap_octets_inj : ∀ {ts us : List Tlv},
    (ts.flatMap Tlv.octets).length < 256 ^ 126 →
    ts.flatMap Tlv.octets = us.flatMap Tlv.octets → ts = us := by
  intro ts
  induction ts with
  | nil =>
      intro us hlen heq
      cases us with
      | nil => rfl
      | cons u us =>
          have hread := readTlv_octets
            (Nat.lt_of_le_of_lt (content_length_le u _) (by
              rw [← List.flatMap_cons, ← heq]
              exact hlen)) (us.flatMap Tlv.octets)
          rw [← List.flatMap_cons, ← heq, List.flatMap_nil, readTlv_nil] at hread
          exact nomatch hread
  | cons t ts ih =>
      intro us hlen heq
      have hread := readTlv_octets (Nat.lt_of_le_of_lt (content_length_le t _) hlen)
        (ts.flatMap Tlv.octets)
      rw [← List.flatMap_cons, heq] at hread
      cases us with
      | nil => exact nomatch readTlv_nil.symm.trans hread
      | cons u us =>
          rw [heq] at hlen
          rw [List.flatMap_cons, readTlv_octets
            (Nat.lt_of_le_of_lt (content_length_le u (us.flatMap Tlv.octets)) hlen)] at hread
          obtain ⟨rfl, hrest⟩ := Prod.mk.inj (Option.some.inj hread)
          rw [ih (by
            rw [← hrest]
            rw [List.flatMap_cons, List.length_append] at hlen
            omega) hrest.symm]

-- ── Headers are read in part ─────────────────────────────────────────────────

/-- Reading a number takes an octet at least. -/
theorem readBase128_length_lt : ∀ {os : List UInt8} {acc : Nat} {r : Nat × List UInt8},
    readBase128 acc os = some r → r.2.length < os.length := by
  intro os
  induction os with
  | nil => exact fun h => nomatch h
  | cons o os ih =>
      intro acc r h
      rw [readBase128] at h
      by_cases ho : o.toNat < 128
      · rw [if_pos ho] at h
        rw [← Option.some.inj h]
        exact Nat.lt_succ_self _
      · rw [if_neg ho] at h
        exact Nat.lt_succ_of_lt (ih h)

/-- So does reading an identifier. -/
theorem readIdent_length_lt {os : List UInt8} {r : Ident × List UInt8}
    (h : readIdent os = some r) : r.2.length < os.length := by
  cases os with
  | nil => exact nomatch h
  | cons o os =>
      rw [readIdent, readFirst] at h
      dsimp only at h
      by_cases hlow : o.toNat % 32 < 31
      · rw [if_pos hlow] at h
        rw [← Option.some.inj h]
        exact Nat.lt_succ_self _
      · rw [if_neg hlow] at h
        obtain ⟨r', hr', rfl⟩ := Option.map_eq_some_iff.mp h
        exact Nat.lt_succ_of_lt (readBase128_length_lt hr')

/-- So does reading a length. -/
theorem readLength_length_lt {os : List UInt8} {r : Nat × List UInt8}
    (h : readLength os = some r) : r.2.length < os.length := by
  cases os with
  | nil => exact nomatch h
  | cons o os =>
      rw [readLength] at h
      by_cases ho : o.toNat < 128
      · rw [if_pos ho] at h
        rw [← Option.some.inj h]
        exact Nat.lt_succ_self _
      · rw [if_neg ho] at h
        split at h
        · rw [← Option.some.inj h]
          exact Nat.lt_succ_of_le (by rw [List.length_drop]; omega)
        · exact nomatch h

/-- So does reading both. -/
theorem readHeader_length_lt {os : List UInt8} {r : Ident × Nat × List UInt8}
    (h : readHeader os = some r) : r.2.2.length < os.length := by
  obtain ⟨a, ha, h⟩ := Option.bind_eq_some_iff.mp h
  obtain ⟨b, hb, rfl⟩ := Option.map_eq_some_iff.mp h
  exact Nat.lt_trans (readLength_length_lt hb) (readIdent_length_lt ha)

-- ── Universal types ──────────────────────────────────────────────────────────

/-- Contents of an INTEGER that is not negative: the highest bit is clear. -/
def natContent (n : Nat) : List UInt8 :=
  match octets n with
  | [] => [0]
  | o :: os => if o.toNat < 128 then o :: os else 0 :: o :: os

/-- The content of an INTEGER is read back. -/
theorem ofOctets_natContent (n : Nat) : ofOctets (natContent n) = n := by
  have hval := ofOctets_octets n
  rw [natContent]
  cases hos : octets n with
  | nil =>
      rw [hos] at hval
      rw [← hval]
      rfl
  | cons o os =>
      rw [hos] at hval
      dsimp only
      by_cases ho : o.toNat < 128
      · rw [if_pos ho]
        exact hval
      · rw [if_neg ho]
        exact (ofOctets_zeros 1 (o :: os)).trans hval

/-- An INTEGER. -/
def integer (n : Nat) : Tlv := ⟨⟨0, false, 2⟩, natContent n⟩

/-- A SEQUENCE. -/
def sequence (ts : List Tlv) : Tlv := ⟨⟨0, true, 16⟩, ts.flatMap Tlv.octets⟩

/-- A SEQUENCE is read in one way. -/
theorem sequence_octets_inj {ts us : List Tlv} (hlen : (sequence ts).octets.length < 256 ^ 126)
    (heq : (sequence ts).octets = (sequence us).octets) : ts = us := by
  have hone : [sequence ts] = [sequence us] := by
    refine flatMap_octets_inj ?_ ?_
    · rw [List.flatMap_singleton]
      exact hlen
    · rw [List.flatMap_singleton, List.flatMap_singleton]
      exact heq
  have hcontent : ts.flatMap Tlv.octets = us.flatMap Tlv.octets :=
    congrArg Tlv.content (List.cons.inj hone).1
  have hle := content_length_le (sequence ts) []
  rw [List.append_nil] at hle
  exact flatMap_octets_inj (Nat.lt_of_le_of_lt hle hlen) hcontent

end Der
