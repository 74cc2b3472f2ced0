import OsmoTtcn.DerProofs
import OsmoTtcn.WhileLoopProofs

/-! # The EINs that a certificate permits

    The permittedEins extension is a SEQUENCE of PrintableStrings.  Its elements
    are read with `ASN1_get_object`, which moves a pointer past a header and
    writes the length and the number of the tag.  Nobody looks at the value that
    it returns: after a header that it cannot read the loop goes on with the
    length and the tag of the one before, and where that length is 0 it stays
    where it is.

    `permitted_eins` says in which rounds that goes wrong, for any octets. -/

namespace OsmoRsp

open Der WhileLoop

-- ── OpenSSL and the standard library ─────────────────────────────────────────

/-- What `ASN1_get_object` does; `none`: the variable is left as it is.  The code
    looks at neither the class nor the form. -/
structure Asn1Object where
  /-- Bit 0x80 of what is returned. -/
  failed : Bool
  /-- How far the pointer is moved. -/
  advance : Nat
  xlen : Option Nat
  tag : Option Int
  deriving DecidableEq

structure Runtime where
  /-- Of the octets from the pointer to the end of the value, and `omax`;
      `none`: it reads behind the value. -/
  asn1GetObject : List UInt8 → Int → Option Asn1Object
  /-- A longer `std::string` is not made: its constructor throws. -/
  maxSize : Nat

/-- How the code may stop without a result. -/
inductive EinStop where
  /-- Octets behind the value are read. -/
  | overread
  | exception
  deriving DecidableEq

-- ── The element loop ─────────────────────────────────────────────────────────

/-- `p` counts from the start of the value.  `xlen` is not negative in the loop:
    in front of the first round it is `remaining`. -/
structure EinLoop where
  p : Nat
  remaining : Int
  xlen : Nat
  tag : Int
  permittedIins : List (List UInt8)
  deriving DecidableEq

/-- `V_ASN1_SEQUENCE` -/
def vAsn1Sequence : Int := 16

/-- `V_ASN1_PRINTABLESTRING` -/
def vAsn1Printablestring : Int := 19

section Code

variable (rt : Runtime) (value : List UInt8)

/-- `remaining > 0` -/
def going (s : EinLoop) : Bool := decide (0 < s.remaining)

/-- `std::string iin(p, xlen)` -/
def stdString (p xlen : Nat) : Except EinStop (List UInt8) :=
  if rt.maxSize < xlen then .error .exception
  else if value.length < p + xlen then .error .overread
  else .ok ((value.drop p).take xlen)

/-- `p += xlen; remaining -= (p - elem_start);` -/
def EinLoop.next (s : EinLoop) (h : Asn1Object) : EinLoop :=
  let xlen := h.xlen.getD s.xlen
  { p := s.p + h.advance + xlen, remaining := s.remaining - (h.advance + xlen), xlen := xlen
    tag := h.tag.getD s.tag, permittedIins := s.permittedIins }

/-- What the loop does with an object. -/
def element (s : EinLoop) (h : Asn1Object) : Except EinStop EinLoop :=
  if h.tag.getD s.tag = vAsn1Printablestring then
    (stdString rt value (s.p + h.advance) (h.xlen.getD s.xlen)).map (fun iin =>
      { s.next h with permittedIins := s.permittedIins ++ [iin] })
  else .ok (s.next h)

/-- One turn of the loop: an object and what is done with it. -/
def round (s : EinLoop) : Except EinStop EinLoop :=
  match rt.asn1GetObject (value.drop s.p) s.remaining with
  | none => .error .overread
  | some h => element rt value s h

-- `tag` and `xlen` are not initialised
variable (tag0 xlen0 : Int)

/-- The SEQUENCE tag; `none`: there is another one. -/
def sequenceTag : Except EinStop (Option EinLoop) :=
  match rt.asn1GetObject value value.length with
  | none => .error .overread
  | some h =>
      let xlen := (h.xlen.map Int.ofNat).getD xlen0
      let tag := h.tag.getD tag0
      if tag = vAsn1Sequence then
        .ok (some { p := h.advance, remaining := xlen, xlen := xlen.toNat, tag := tag
                    permittedIins := [] })
      else .ok none

/-- Parse from GSMA permittedEins extension, in at most `n` rounds. -/
def parseExtension (n : Nat) : Option (Except EinStop (List (List UInt8))) :=
  match sequenceTag rt value tag0 xlen0 with
  | .error e => some (.error e)
  | .ok none => some (.ok [])
  | .ok (some s) => (loop going (round rt value) n s).map (fun r => r.map EinLoop.permittedIins)

/-- What is read of a certificate. -/
structure EumCert where
  /-- The OIDs of the certificate policies. -/
  policies : List String
  /-- The serial numbers in the permitted subtrees of the name constraints. -/
  nameConstraints : List (List UInt8)
  /-- The value of the extension 2.23.146.1.2.2.0. -/
  permittedEins : Option (List UInt8)

/-- `parse_permitted_eins_from_cert` -/
def parsePermittedEinsFromCert (cert : EumCert) (n : Nat) :
    Option (Except EinStop (List (List UInt8))) :=
  if cert.policies.contains "2.23.146.1.2.1.2" then some (.ok cert.nameConstraints)
  else match cert.permittedEins with
    | none => some (.ok [])
    | some value => parseExtension rt value tag0 xlen0 n

end Code

-- ── The range of an EID ──────────────────────────────────────────────────────

/-- `toupper` of the C locale. -/
def toupper (c : UInt8) : UInt8 := if 97 ≤ c ∧ c ≤ 122 then c - 32 else c

/-- `std::string::find` -/
def stdFind (s t : List UInt8) : Option Nat :=
  (List.range (s.length + 1)).find? (fun i => t.isPrefixOf (s.drop i))

/-- `none` for a certificate that cannot be loaded. -/
def validateEIDRange (rt : Runtime) (tag0 xlen0 : Int) (eid : List UInt8) (eumCert : Option EumCert)
    (n : Nat) : Option (Except EinStop Bool) :=
  match eumCert with
  | none => some (.ok false)
  | some cert => (parsePermittedEinsFromCert rt tag0 xlen0 cert n).map (fun r =>
      match r with
      | .error .overread => .error .overread
      | .error .exception => .ok false
      | .ok permittedEins =>
          if permittedEins = [] then .ok false
          else .ok (permittedEins.any (fun ein =>
            decide (stdFind (eid.map toupper) ein = some 0))))

-- ── What is assumed ──────────────────────────────────────────────────────────

/-- What is read of the header of a TLV. -/
def asn1ObjectOf (t : Tlv) : Asn1Object :=
  { failed := false, advance := t.header.length, xlen := some t.content.length
    tag := some t.ident.number }

/-- `ASN1_get_object` reads no more than `omax` octets; where it does not fail,
    the header is not empty and the contents end within `omax`; headers of DER
    are read.  There is room for every string that is in a value. -/
structure Runtime.Laws (rt : Runtime) : Prop where
  reads : ∀ (os : List UInt8) (omax : Int), omax ≤ os.length →
    ∃ h, rt.asn1GetObject os omax = some h
  success : ∀ (os : List UInt8) (omax : Int) h, rt.asn1GetObject os omax = some h →
    h.failed = false → 0 < h.advance ∧ ∃ len : Nat, h.xlen = some len ∧ h.advance + len ≤ omax
  der : ∀ (t : Tlv) (rest : List UInt8) (omax : Int), t.ident.number < 2147483648 →
    t.octets.length ≤ omax → omax ≤ (t.octets ++ rest).length → omax < 2147483648 →
    rt.asn1GetObject (t.octets ++ rest) omax = some (asn1ObjectOf t)
  room : 2147483648 ≤ rt.maxSize

-- ── What the loop is for ─────────────────────────────────────────────────────

/-- The value is a SEQUENCE of these elements in DER, where a string is
    primitive.  Lengths of values and numbers of tags are `int`s. -/
structure WellFormed (ts : List Tlv) (value : List UInt8) : Prop where
  octets : value = (sequence ts).octets
  length : value.length < 2147483648
  numbers : ∀ t ∈ ts, t.ident.number < 2147483648
  primitive : ∀ t ∈ ts, t.ident.cls = 0 → t.ident.number = 19 → t.ident.constructed = false

/-- A PrintableString. -/
def isPrintableString (t : Tlv) : Bool := decide (t.ident = ⟨0, false, 19⟩)

/-- The prefixes that a SEQUENCE lists. -/
def listed (ts : List Tlv) : List (List UInt8) := (ts.filter isPrintableString).map Tlv.content

section Statements

variable (rt : Runtime) (value : List UInt8) (tag0 xlen0 : Int)

/-- The loop comes to this round. -/
def ComesTo (s : EinLoop) : Prop :=
  ∃ start, sequenceTag rt value tag0 xlen0 = .ok (some start)
    ∧ Comes going (round rt value) start s ∧ going s = true

/-- **PERMITTED EINS**: the parser ends and reads nothing but the value; what a
    round adds was read without an error, up to the end of the SEQUENCE at most;
    of a well-formed SEQUENCE the PrintableStrings are given, in order; and an
    EID is in the range only if it has a prefix that is given, which a
    well-formed SEQUENCE lists. -/
structure EinsRight : Prop where
  ends : ∃ n r, parseExtension rt value tag0 xlen0 n = some r
  inside : ∀ n, parseExtension rt value tag0 xlen0 n ≠ some (.error .overread)
  whole : ∀ s s', ComesTo rt value tag0 xlen0 s → round rt value s = .ok s' →
    s'.permittedIins ≠ s.permittedIins → ∃ h, ∃ len : Nat,
      rt.asn1GetObject (value.drop s.p) s.remaining = some h ∧ h.failed = false
        ∧ h.xlen = some len ∧ h.advance + len ≤ s.remaining
  elements : ∀ ts, WellFormed ts value → ∃ n,
    parseExtension rt value tag0 xlen0 n = some (.ok (listed ts))
  accepts : ∀ (eid : List UInt8) (cert : EumCert) (n : Nat),
    cert.policies.contains "2.23.146.1.2.1.2" = false → cert.permittedEins = some value →
    validateEIDRange rt tag0 xlen0 eid (some cert) n = some (.ok true) →
      (∃ eins, parseExtension rt value tag0 xlen0 n = some (.ok eins)
        ∧ ∃ ein ∈ eins, ein <+: eid.map toupper)
      ∧ ∀ ts, WellFormed ts value → ∃ ein ∈ listed ts, ein <+: eid.map toupper

/-- A round goes well: the header that it reads is inside the value, and so is a
    string that it makes, of a header without an error; after an error the
    pointer moves, and the tag is not the one of a PrintableString.  Or a string
    is too long to be made. -/
def RoundFine (s : EinLoop) : Prop :=
  ∃ h, rt.asn1GetObject (value.drop s.p) s.remaining = some h
    ∧ (h.tag.getD s.tag = vAsn1Printablestring → rt.maxSize < h.xlen.getD s.xlen
        ∨ h.failed = false ∧ s.p + h.advance + h.xlen.getD s.xlen ≤ value.length)
    ∧ (h.tag.getD s.tag ≠ vAsn1Printablestring → h.failed = true →
        0 < h.advance + h.xlen.getD s.xlen)

/-- **WHEN IT IS RIGHT**: every round goes well, and a well-formed SEQUENCE has no
    element of the number of PrintableString in another class. -/
structure EinsRightWhen : Prop where
  rounds : ∀ s, ComesTo rt value tag0 xlen0 s → RoundFine rt value s
  classes : ∀ ts, WellFormed ts value → ∀ t ∈ ts, t.ident.number = 19 → t.ident.cls = 0

end Statements

-- ── One round ────────────────────────────────────────────────────────────────

section Rounds

variable {rt : Runtime} {value : List UInt8} {s s' : EinLoop} {h : Asn1Object}

theorem going_iff : going s = true ↔ 0 < s.remaining := decide_eq_true_iff

theorem round_none (hh : rt.asn1GetObject (value.drop s.p) s.remaining = none) :
    round rt value s = .error .overread := by
  rw [round, hh]

theorem round_some (hh : rt.asn1GetObject (value.drop s.p) s.remaining = some h) :
    round rt value s = element rt value s h := by
  rw [round, hh]

/-- What is no PrintableString is passed over. -/
theorem element_other (ht : h.tag.getD s.tag ≠ vAsn1Printablestring) :
    element rt value s h = .ok (s.next h) := by
  rw [element, if_neg ht]

/-- A string that is too long ends the loop. -/
theorem element_long (ht : h.tag.getD s.tag = vAsn1Printablestring)
    (hlong : rt.maxSize < h.xlen.getD s.xlen) :
    element rt value s h = .error .exception := by
  rw [element, if_pos ht, stdString, if_pos hlong]
  rfl

theorem element_overread (ht : h.tag.getD s.tag = vAsn1Printablestring)
    (hlong : ¬ rt.maxSize < h.xlen.getD s.xlen)
    (hout : value.length < s.p + h.advance + h.xlen.getD s.xlen) :
    element rt value s h = .error .overread := by
  rw [element, if_pos ht, stdString, if_neg hlong, if_pos hout]
  rfl

/-- A string is taken with what it holds. -/
theorem element_string (ht : h.tag.getD s.tag = vAsn1Printablestring)
    (hlong : ¬ rt.maxSize < h.xlen.getD s.xlen)
    (hin : ¬ value.length < s.p + h.advance + h.xlen.getD s.xlen) :
    element rt value s h = .ok { s.next h with
      permittedIins := s.permittedIins
        ++ [(value.drop (s.p + h.advance)).take (h.xlen.getD s.xlen)] } := by
  rw [element, if_pos ht, stdString, if_neg hlong, if_neg hin]
  rfl

/-- **A ROUND THAT GOES WELL**: a string is too long, or the pointer moves and
    what is added was read without an error. -/
theorem RoundFine.cases (laws : rt.Laws) (hfine : RoundFine rt value s) :
    round rt value s = .error .exception ∨ ∃ h s',
      rt.asn1GetObject (value.drop s.p) s.remaining = some h ∧ round rt value s = .ok s'
        ∧ s'.remaining < s.remaining
        ∧ (s'.permittedIins = s.permittedIins ∨ h.failed = false) := by
  obtain ⟨h, hh, hstring, hother⟩ := hfine
  have hmoves : h.failed = false → 0 < h.advance :=
    fun hok => (laws.success _ _ h hh hok).1
  rw [round_some hh]
  by_cases ht : h.tag.getD s.tag = vAsn1Printablestring
  · by_cases hlong : rt.maxSize < h.xlen.getD s.xlen
    · exact .inl (element_long ht hlong)
    · obtain ⟨hok, hin⟩ := (hstring ht).resolve_left hlong
      refine .inr ⟨h, _, hh, element_string ht hlong (Nat.not_lt.mpr hin), ?_, .inr hok⟩
      have := hmoves hok
      dsimp only [EinLoop.next]
      omega
  · refine .inr ⟨h, _, hh, element_other ht, ?_, .inl rfl⟩
    have hpos : 0 < h.advance + h.xlen.getD s.xlen := by
      cases hfailed : h.failed with
      | true => exact hother ht hfailed
      | false => exact Nat.lt_of_lt_of_le (hmoves hfailed) (Nat.le_add_right _ _)
    dsimp only [EinLoop.next]
    omega

end Rounds

-- ── The parser as a loop ─────────────────────────────────────────────────────

section Parser

variable {rt : Runtime} {value : List UInt8} {tag0 xlen0 : Int} {start s : EinLoop}

theorem sequenceTag_ne_error (laws : rt.Laws) (e : EinStop) :
    sequenceTag rt value tag0 xlen0 ≠ .error e := by
  obtain ⟨h, hh⟩ := laws.reads value value.length (Int.le_refl _)
  intro hseq
  rw [sequenceTag, hh] at hseq
  dsimp only at hseq
  split at hseq
  · exact nomatch hseq
  · exact nomatch hseq

/-- The extension is parsed by the loop. -/
theorem parseExtension_loop (hseq : sequenceTag rt value tag0 xlen0 = .ok (some start)) (n : Nat) :
    parseExtension rt value tag0 xlen0 n
      = (loop going (round rt value) n start).map (fun r => r.map EinLoop.permittedIins) := by
  rw [parseExtension, hseq]

theorem parseExtension_none (hseq : sequenceTag rt value tag0 xlen0 = .ok none) (n : Nat) :
    parseExtension rt value tag0 xlen0 n = some (.ok []) := by
  rw [parseExtension, hseq]

/-- The parser has one outcome. -/
theorem parseExtension_unique {n m : Nat} {r r' : Except EinStop (List (List UInt8))}
    (h : parseExtension rt value tag0 xlen0 n = some r)
    (h' : parseExtension rt value tag0 xlen0 m = some r') : r = r' := by
  cases hseq : sequenceTag rt value tag0 xlen0 with
  | error e =>
      rw [parseExtension, hseq] at h h'
      exact Option.some.inj (h.symm.trans h')
  | ok start =>
      cases start with
      | none =>
          rw [parseExtension_none hseq] at h h'
          exact Option.some.inj (h.symm.trans h')
      | some start =>
          rw [parseExtension_loop hseq] at h h'
          obtain ⟨q, hq, rfl⟩ := Option.map_eq_some_iff.mp h
          obtain ⟨q', hq', rfl⟩ := Option.map_eq_some_iff.mp h'
          rw [loop_unique hq hq']

/-- A round that it comes to and that fails is how the parser fails. -/
theorem ComesTo.error (hcomes : ComesTo rt value tag0 xlen0 s) {e : EinStop}
    (he : round rt value s = .error e) :
    ∃ n, parseExtension rt value tag0 xlen0 n = some (.error e) := by
  obtain ⟨start, hseq, hto, hgo⟩ := hcomes
  obtain ⟨n, hn⟩ := hto.loop_eq (loop_error (n := 0) hgo he)
  exact ⟨n, by rw [parseExtension_loop hseq, hn]; rfl⟩

theorem ComesTo.goes (hcomes : ComesTo rt value tag0 xlen0 s) : going s = true := by
  obtain ⟨-, -, -, hgo⟩ := hcomes
  exact hgo

/-- A loop that ends, ends from every state it comes to. -/
theorem ComesTo.ends (hcomes : ComesTo rt value tag0 xlen0 s)
    (hends : ∃ n r, parseExtension rt value tag0 xlen0 n = some r) :
    Ends going (round rt value) s := by
  obtain ⟨start, hseq, hto, -⟩ := hcomes
  obtain ⟨n, r, hr⟩ := hends
  rw [parseExtension_loop hseq] at hr
  obtain ⟨q, hq, -⟩ := Option.map_eq_some_iff.mp hr
  exact hto.ends ⟨n, q, hq⟩

end Parser

-- ── Why the rounds have to go well ───────────────────────────────────────────

section Bad

variable {rt : Runtime} {value : List UInt8} {tag0 xlen0 : Int} {s : EinLoop} {h : Asn1Object}

/-- **STUCK**: an object that does not move the pointer is read again. -/
theorem not_ends_of_still (hgo : going s = true)
    (hh : rt.asn1GetObject (value.drop s.p) s.remaining = some h)
    (ht : h.tag.getD s.tag ≠ vAsn1Printablestring)
    (hstill : h.advance + h.xlen.getD s.xlen = 0) :
    ¬ Ends going (round rt value) s := by
  -- the length and the tag of the round before are what a header without them keeps
  refine not_ends_of_stuck (J := fun t => t.p = s.p ∧ t.remaining = s.remaining
    ∧ h.xlen.getD t.xlen = 0 ∧ h.tag.getD t.tag ≠ vAsn1Printablestring) ?_ ?_
    ⟨rfl, rfl, by omega, ht⟩
  · rintro t ⟨-, hrem, -, -⟩
    rw [going, hrem]
    exact hgo
  · rintro t ⟨hp, hrem, hlen, htag⟩
    have hread : rt.asn1GetObject (value.drop t.p) t.remaining = some h := by
      rw [hp, hrem]
      exact hh
    refine ⟨t.next h, (round_some hread).trans (element_other htag), ?_, ?_, ?_, ?_⟩
    · show t.p + h.advance + h.xlen.getD t.xlen = s.p
      omega
    · show t.remaining - (h.advance + h.xlen.getD t.xlen) = s.remaining
      omega
    · show h.xlen.getD (h.xlen.getD t.xlen) = 0
      cases hx : h.xlen with
      | none => rw [hx] at hlen; exact hlen
      | some x => rw [hx] at hlen; exact hlen
    · show h.tag.getD (h.tag.getD t.tag) ≠ vAsn1Printablestring
      cases hx : h.tag with
      | none => rw [hx] at htag; exact htag
      | some x => rw [hx] at htag; exact htag

/-- Where the parser is right, the rounds that it comes to go well. -/
theorem roundFine_of_right (hright : EinsRight rt value tag0 xlen0)
    (hcomes : ComesTo rt value tag0 xlen0 s) : RoundFine rt value s := by
  have hinside : round rt value s ≠ .error .overread := by
    intro he
    obtain ⟨n, hn⟩ := hcomes.error he
    exact hright.inside n hn
  obtain ⟨h, hh⟩ : ∃ h, rt.asn1GetObject (value.drop s.p) s.remaining = some h :=
    Option.ne_none_iff_exists'.mp (fun hnone => hinside (round_none hnone))
  rw [round_some hh] at hinside
  refine ⟨h, hh, fun ht => ?_, fun ht _ => ?_⟩
  · by_cases hlong : rt.maxSize < h.xlen.getD s.xlen
    · exact .inl hlong
    · have hin : ¬ value.length < s.p + h.advance + h.xlen.getD s.xlen :=
        fun hout => hinside (element_overread ht hlong hout)
      have hadds := element_string ht hlong hin
      obtain ⟨h', len, hh', hok, -⟩ := hright.whole s _ hcomes ((round_some hh).trans hadds)
        (fun heq => nomatch List.append_right_eq_self.mp heq)
      rw [hh] at hh'
      rw [← Option.some.inj hh'] at hok
      exact .inr ⟨hok, Nat.not_lt.mp hin⟩
  · refine Nat.pos_of_ne_zero (fun hstill => ?_)
    exact not_ends_of_still hcomes.goes hh ht hstill (hcomes.ends hright.ends)

end Bad

-- ── A SEQUENCE in DER ────────────────────────────────────────────────────────

/-- The class is not looked at, nor is the form. -/
def isNumber19 (t : Tlv) : Bool := decide (t.ident.number = 19)

/-- What the loop makes of a SEQUENCE. -/
def numbered (ts : List Tlv) : List (List UInt8) := (ts.filter isNumber19).map Tlv.content

theorem isNumber19_iff {t : Tlv} : isNumber19 t = true ↔ t.ident.number = 19 :=
  decide_eq_true_iff

theorem numbered_cons (t : Tlv) (ts : List Tlv) :
    numbered (t :: ts) = numbered [t] ++ numbered ts := by
  rw [numbered, numbered, numbered, ← List.map_append, ← List.filter_append]
  rfl

theorem numbered_pos {t : Tlv} (h : t.ident.number = 19) : numbered [t] = [t.content] := by
  rw [numbered, List.filter_cons_of_pos (isNumber19_iff.mpr h)]
  rfl

theorem numbered_neg {t : Tlv} (h : t.ident.number ≠ 19) : numbered [t] = [] := by
  rw [numbered, List.filter_cons_of_neg (fun h' => h (isNumber19_iff.mp h'))]
  rfl

section Sequence

variable {rt : Runtime} {value : List UInt8}

/-- The loop stands in front of these elements. -/
structure Stands (value : List UInt8) (ts : List Tlv) (s : EinLoop) : Prop where
  at_octets : value.drop s.p = ts.flatMap Tlv.octets
  remaining : s.remaining = (ts.flatMap Tlv.octets).length
  numbers : ∀ t ∈ ts, t.ident.number < 2147483648

/-- In front of an element its header is read, and its contents are there. -/
theorem Stands.reads (laws : rt.Laws) (hlen : value.length < 2147483648) {t : Tlv} {ts : List Tlv}
    {s : EinLoop} (h : Stands value (t :: ts) s) :
    rt.asn1GetObject (value.drop s.p) s.remaining = some (asn1ObjectOf t)
      ∧ s.remaining = t.header.length + t.content.length + (ts.flatMap Tlv.octets).length
      ∧ s.p + t.header.length + t.content.length ≤ value.length ∧ going s = true := by
  obtain ⟨hat, hrem, hnums⟩ := h
  rw [List.flatMap_cons] at hat hrem
  have hdrop : (t.octets ++ ts.flatMap Tlv.octets).length = value.length - s.p := by
    rw [← hat, List.length_drop]
  have hsize : (t.octets ++ ts.flatMap Tlv.octets).length
      = t.header.length + t.content.length + (ts.flatMap Tlv.octets).length := by
    rw [List.length_append, Tlv.octets, List.length_append]
  have hread := laws.der t (ts.flatMap Tlv.octets) s.remaining (hnums t List.mem_cons_self)
    (by rw [hrem, List.length_append]; omega) (Int.le_of_eq hrem) (by omega)
  rw [← hat] at hread
  have hpos : 0 < t.header.length := (laws.success _ _ _ hread rfl).1
  exact ⟨hread, by omega, by omega, going_iff.mpr (by omega)⟩

/-- **ONE ELEMENT**: the loop goes behind it and keeps its contents if the number
    is that of PrintableString. -/
theorem Stands.round (laws : rt.Laws) (hlen : value.length < 2147483648) {t : Tlv} {ts : List Tlv}
    {s : EinLoop} (h : Stands value (t :: ts) s) :
    ∃ s', round rt value s = .ok s' ∧ Stands value ts s'
      ∧ s'.permittedIins = s.permittedIins ++ numbered [t] := by
  obtain ⟨hread, hrem, hin, -⟩ := h.reads laws hlen
  have hnums : ∀ u ∈ ts, u.ident.number < 2147483648 :=
    fun u hu => h.numbers u (List.mem_cons_of_mem t hu)
  have hbehind : value.drop (s.p + t.header.length) = t.content ++ ts.flatMap Tlv.octets := by
    rw [← List.drop_drop, h.at_octets, List.flatMap_cons, Tlv.octets, List.append_assoc,
      List.drop_left]
  have hrest : value.drop (s.p + t.header.length + t.content.length) = ts.flatMap Tlv.octets := by
    rw [← List.drop_drop, hbehind, List.drop_left]
  have hnext : s.remaining - (t.header.length + t.content.length)
      = (ts.flatMap Tlv.octets).length := by omega
  rw [round_some hread]
  by_cases ht : t.ident.number = 19
  · have hroom := laws.room
    rw [element_string (congrArg Nat.cast ht) (show ¬ rt.maxSize < t.content.length by omega)
      (Nat.not_lt.mpr hin)]
    refine ⟨_, rfl, ⟨hrest, hnext, hnums⟩, ?_⟩
    show s.permittedIins ++ [(value.drop (s.p + t.header.length)).take t.content.length] = _
    rw [hbehind, List.take_left, numbered_pos ht]
  · have hother : (t.ident.number : Int) ≠ 19 := fun h => ht (Int.ofNat.inj h)
    refine ⟨_, element_other hother, ⟨hrest, hnext, hnums⟩, ?_⟩
    rw [numbered_neg ht]
    exact (List.append_nil _).symm

/-- **THE ELEMENTS**, by induction on them. -/
theorem Stands.loop (laws : rt.Laws) (hlen : value.length < 2147483648) :
    ∀ {ts : List Tlv} {s : EinLoop}, Stands value ts s →
      ∃ s', loop going (OsmoRsp.round rt value) ts.length s = some (.ok s')
        ∧ s'.permittedIins = s.permittedIins ++ numbered ts := by
  intro ts
  induction ts with
  | nil =>
      intro s h
      have hstop : going s = false := by
        rw [going, h.remaining]
        rfl
      exact ⟨s, loop_done hstop 0, (List.append_nil _).symm⟩
  | cons t ts ih =>
      intro s h
      obtain ⟨-, -, -, hgo⟩ := h.reads laws hlen
      obtain ⟨s', hr, h', hadds⟩ := h.round laws hlen
      obtain ⟨s'', hloop, hall⟩ := ih h'
      refine ⟨s'', (loop_ok hgo hr).trans hloop, ?_⟩
      rw [hall, hadds, List.append_assoc, ← numbered_cons]

/-- Behind the header of the SEQUENCE. -/
theorem sequenceTag_wellFormed (laws : rt.Laws) {ts : List Tlv} (hwf : WellFormed ts value)
    (tag0 xlen0 : Int) : ∃ start, sequenceTag rt value tag0 xlen0 = .ok (some start)
      ∧ Stands value ts start ∧ start.permittedIins = [] := by
  obtain ⟨hoctets, hlen, hnums, -⟩ := hwf
  have hread := laws.der (sequence ts) [] value.length (show (16 : Nat) < _ by decide)
    (by rw [hoctets]) (by rw [List.append_nil, hoctets]) (by omega)
  rw [List.append_nil, ← hoctets] at hread
  have hbehind : value.drop (sequence ts).header.length = ts.flatMap Tlv.octets := by
    rw [hoctets, Tlv.octets, List.drop_left]
    rfl
  let start : EinLoop :=
    { p := (sequence ts).header.length, remaining := (ts.flatMap Tlv.octets).length
      xlen := (ts.flatMap Tlv.octets).length, tag := vAsn1Sequence, permittedIins := [] }
  have hseq : sequenceTag rt value tag0 xlen0 = .ok (some start) := by
    rw [sequenceTag, hread]
    rfl
  exact ⟨start, hseq, ⟨hbehind, rfl, hnums⟩, rfl⟩

/-- Of a well-formed SEQUENCE the loop gives the elements of that number,
    whatever their class. -/
theorem parseExtension_wellFormed (laws : rt.Laws) {ts : List Tlv} (hwf : WellFormed ts value)
    (tag0 xlen0 : Int) : ∃ n, parseExtension rt value tag0 xlen0 n = some (.ok (numbered ts)) := by
  obtain ⟨start, hseq, hstands, hnone⟩ := sequenceTag_wellFormed laws hwf tag0 xlen0
  obtain ⟨s', hloop, hall⟩ := hstands.loop laws hwf.length
  rw [hnone] at hall
  refine ⟨ts.length, ?_⟩
  rw [parseExtension_loop hseq, hloop]
  exact congrArg (fun eins => some (Except.ok eins)) hall

end Sequence

/-- What is listed is what the loop gives, but for elements of another class. -/
theorem listed_eq_numbered {ts : List Tlv} {value : List UInt8} (hwf : WellFormed ts value) :
    listed ts = numbered ts ↔ ∀ t ∈ ts, t.ident.number = 19 → t.ident.cls = 0 := by
  have himp : ∀ t, isPrintableString t = true → isNumber19 t = true ∧ t.ident.cls = 0 := by
    intro t ht
    have hident : t.ident = ⟨0, false, 19⟩ := of_decide_eq_true ht
    exact ⟨isNumber19_iff.mpr (congrArg Ident.number hident), congrArg Ident.cls hident⟩
  constructor
  · intro heq t ht hnum
    have hlen : (ts.filter isPrintableString).length = (ts.filter isNumber19).length := by
      have := congrArg List.length heq
      rw [listed, numbered, List.length_map, List.length_map] at this
      exact this
    have hsame : ts.filter isPrintableString = ts.filter isNumber19 :=
      (List.monotone_filter_right ts (fun t ht => (himp t ht).1)).eq_of_length hlen
    have hmem : t ∈ ts.filter isPrintableString := by
      rw [hsame]
      exact List.mem_filter.mpr ⟨ht, isNumber19_iff.mpr hnum⟩
    exact (himp t (List.mem_filter.mp hmem).2).2
  · intro hcls
    refine congrArg (List.map Tlv.content) (List.filter_congr (fun t ht => ?_))
    refine Bool.eq_iff_iff.mpr ⟨fun h => (himp t h).1, fun h => ?_⟩
    have hnum := isNumber19_iff.mp h
    have hprim := hwf.primitive t ht (hcls t ht hnum) hnum
    have hident : t.ident = ⟨t.ident.cls, t.ident.constructed, t.ident.number⟩ := rfl
    exact decide_eq_true (by rw [hident, hcls t ht hnum, hprim, hnum])

-- ── The range ────────────────────────────────────────────────────────────────

theorem stdFind_zero {s t : List UInt8} : stdFind s t = some 0 ↔ t <+: s := by
  rw [stdFind, List.range_succ_eq_map, List.find?_cons, List.drop_zero,
    ← List.isPrefixOf_iff_prefix]
  cases t.isPrefixOf s with
  | true => exact iff_of_true rfl rfl
  | false =>
      refine iff_of_false (fun h => ?_) Bool.false_ne_true
      obtain ⟨i, -, hi⟩ := List.mem_map.mp (List.mem_of_find?_eq_some h)
      exact nomatch hi

/-- An EID is accepted for a prefix that the parser gives. -/
theorem validateEIDRange_true {rt : Runtime} {value eid : List UInt8} {tag0 xlen0 : Int}
    {cert : EumCert} {n : Nat} (hpolicies : cert.policies.contains "2.23.146.1.2.1.2" = false)
    (hvalue : cert.permittedEins = some value)
    (h : validateEIDRange rt tag0 xlen0 eid (some cert) n = some (.ok true)) :
    ∃ eins, parseExtension rt value tag0 xlen0 n = some (.ok eins)
      ∧ ∃ ein ∈ eins, ein <+: eid.map toupper := by
  have hparse : parsePermittedEinsFromCert rt tag0 xlen0 cert n
      = parseExtension rt value tag0 xlen0 n := by
    rw [parsePermittedEinsFromCert, hpolicies, hvalue]
    rfl
  rw [validateEIDRange, hparse] at h
  obtain ⟨r, hr, h⟩ := Option.map_eq_some_iff.mp h
  cases r with
  | error e =>
      cases e with
      | overread => exact nomatch h
      | exception => exact nomatch Except.ok.inj h
  | ok eins =>
      refine ⟨eins, hr, ?_⟩
      dsimp only at h
      by_cases hnil : eins = []
      · rw [if_pos hnil] at h
        exact nomatch Except.ok.inj h
      · rw [if_neg hnil] at h
        obtain ⟨ein, hmem, hein⟩ := List.any_eq_true.mp (Except.ok.inj h)
        exact ⟨ein, hmem, stdFind_zero.mp (of_decide_eq_true hein)⟩

-- ── When the parser is right ─────────────────────────────────────────────────

section Right

variable {rt : Runtime} {value : List UInt8} {tag0 xlen0 : Int}

/-- Rounds that go well do not read behind the value. -/
theorem inside_of_fine (laws : rt.Laws)
    (hfine : ∀ s, ComesTo rt value tag0 xlen0 s → RoundFine rt value s) (n : Nat) :
    parseExtension rt value tag0 xlen0 n ≠ some (.error .overread) := by
  intro h
  cases hseq : sequenceTag rt value tag0 xlen0 with
  | error e => exact sequenceTag_ne_error laws e hseq
  | ok start =>
      cases start with
      | none =>
          rw [parseExtension_none hseq] at h
          exact nomatch Option.some.inj h
      | some start =>
          rw [parseExtension_loop hseq] at h
          obtain ⟨q, hq, hover⟩ := Option.map_eq_some_iff.mp h
          cases q with
          | ok t => exact nomatch hover
          | error e =>
              obtain ⟨t, hto, hgo, he⟩ := loop_fails hq
              rw [Except.error.inj hover] at he
              obtain hexc | ⟨_, _, -, hok, -⟩ :=
                (hfine t ⟨start, hseq, hto, hgo⟩).cases laws
              · rw [hexc] at he
                exact nomatch Except.error.inj he
              · rw [hok] at he
                exact nomatch he

/-- Rounds that go well come to an end: what remains gets less. -/
theorem ends_of_fine (laws : rt.Laws)
    (hfine : ∀ s, ComesTo rt value tag0 xlen0 s → RoundFine rt value s) :
    ∃ n r, parseExtension rt value tag0 xlen0 n = some r := by
  cases hseq : sequenceTag rt value tag0 xlen0 with
  | error e => exact absurd hseq (sequenceTag_ne_error laws e)
  | ok start =>
      cases start with
      | none => exact ⟨0, _, parseExtension_none hseq 0⟩
      | some start =>
          have hpos : ∀ s, Comes going (round rt value) start s → going s = true →
              0 < s.remaining.toNat := by
            intro s _ hgo
            have := going_iff.mp hgo
            omega
          have hless : ∀ s s', Comes going (round rt value) start s → going s = true →
              round rt value s = .ok s' → Comes going (round rt value) start s'
                ∧ s'.remaining.toNat < s.remaining.toNat := by
            intro s s' hto hgo hround
            refine ⟨hto.snoc hgo hround, ?_⟩
            have := going_iff.mp hgo
            obtain hexc | ⟨_, _, -, hok, hlt, -⟩ :=
              (hfine s ⟨start, hseq, hto, hgo⟩).cases laws
            · rw [hexc] at hround
              exact nomatch hround
            · rw [Except.ok.inj (hround.symm.trans hok)]
              omega
          obtain ⟨r, hr⟩ := loop_of_measure (fun s => s.remaining.toNat) hpos hless
            start.remaining.toNat start (.start start) (Nat.le_refl _)
          exact ⟨_, _, by rw [parseExtension_loop hseq, hr]; rfl⟩

/-- **WHEN THE PARSER IS RIGHT.** -/
theorem einsRight_iff (laws : rt.Laws) :
    EinsRight rt value tag0 xlen0 ↔ EinsRightWhen rt value tag0 xlen0 := by
  constructor
  · intro hright
    refine ⟨fun s hcomes => roundFine_of_right hright hcomes, fun ts hwf => ?_⟩
    obtain ⟨n, hn⟩ := hright.elements ts hwf
    obtain ⟨m, hm⟩ := parseExtension_wellFormed laws hwf tag0 xlen0
    exact (listed_eq_numbered hwf).mp (Except.ok.inj (parseExtension_unique hn hm))
  · rintro ⟨hfine, hcls⟩
    have helements : ∀ ts, WellFormed ts value → ∃ n,
        parseExtension rt value tag0 xlen0 n = some (.ok (listed ts)) := by
      intro ts hwf
      rw [(listed_eq_numbered hwf).mpr (hcls ts hwf)]
      exact parseExtension_wellFormed laws hwf tag0 xlen0
    refine ⟨ends_of_fine laws hfine, inside_of_fine laws hfine, ?_, helements, ?_⟩
    · intro s s' hcomes hround hadds
      obtain hexc | ⟨h, t, hh, hok, -, hsame | hgood⟩ := (hfine s hcomes).cases laws
      · rw [hexc] at hround
        exact nomatch hround
      · rw [Except.ok.inj (hok.symm.trans hround)] at hsame
        exact absurd hsame hadds
      · obtain ⟨-, len, hlen, hin⟩ := laws.success _ _ h hh hgood
        exact ⟨h, len, hh, hgood, hlen, hin⟩
    · intro eid cert n hpolicies hvalue haccepts
      obtain ⟨eins, heins, hprefix⟩ := validateEIDRange_true hpolicies hvalue haccepts
      refine ⟨⟨eins, heins, hprefix⟩, fun ts hwf => ?_⟩
      obtain ⟨m, hm⟩ := helements ts hwf
      rw [← Except.ok.inj (parseExtension_unique heins hm)]
      exact hprefix

/-- A well-formed SEQUENCE is read right, unless it has an element of the number
    of PrintableString in another class. -/
theorem einsRightWhen_wellFormed (laws : rt.Laws) {ts : List Tlv} (hwf : WellFormed ts value)
    (hcls : ∀ t ∈ ts, t.ident.number = 19 → t.ident.cls = 0) :
    EinsRightWhen rt value tag0 xlen0 := by
  refine ⟨?_, fun us hus => ?_⟩
  · rintro s ⟨start, hseq, hto, hgo⟩
    obtain ⟨start', hseq', hstands, -⟩ := sequenceTag_wellFormed laws hwf tag0 xlen0
    rw [Option.some.inj (Except.ok.inj (hseq'.symm.trans hseq))] at hstands
    have hround : ∀ t t', (∃ us, Stands value us t) → going t = true →
        round rt value t = .ok t' → ∃ us, Stands value us t' := by
      rintro t t' ⟨us, ht⟩ hgoes hr
      cases us with
      | nil =>
          rw [going, ht.remaining] at hgoes
          exact nomatch hgoes
      | cons u us =>
          obtain ⟨t'', hr', ht', -⟩ := ht.round laws hwf.length
          rw [Except.ok.inj (hr.symm.trans hr')]
          exact ⟨us, ht'⟩
    obtain ⟨us, hs⟩ := hto.inv hround ⟨ts, hstands⟩
    cases us with
    | nil =>
        rw [going, hs.remaining] at hgo
        exact nomatch hgo
    | cons u us =>
        obtain ⟨hread, -, hin, -⟩ := hs.reads laws hwf.length
        exact ⟨_, hread, fun _ => .inr ⟨rfl, hin⟩, fun _ hfailed => nomatch hfailed⟩
  · have hsame := hwf.octets.symm.trans hus.octets
    have hlen := hwf.length
    rw [hwf.octets] at hlen
    rw [← sequence_octets_inj (Nat.lt_of_lt_of_le hlen (by norm_num)) hsame]
    exact hcls

end Right

-- ── A parser of BER ──────────────────────────────────────────────────────────

/-- Where a header cannot be read nothing is written; where its contents are not
    there everything is. -/
def berRuntime : Runtime where
  asn1GetObject os omax :=
    if (os.length : Int) < omax then none
    else match readHeader (os.take omax.toNat) with
      | none => some { failed := true, advance := 0, xlen := none, tag := none }
      | some (ident, len, rest) =>
          some { failed := decide (omax < (omax.toNat - rest.length : Nat) + len)
                 advance := omax.toNat - rest.length, xlen := some len
                 tag := some ident.number }
  maxSize := 9223372036854775807

/-- The concrete parser obeys the documented laws. -/
theorem berRuntime_laws : berRuntime.Laws where
  reads := by
    intro os omax hle
    show ∃ h, (if (os.length : Int) < omax then none else _) = some h
    rw [if_neg (by omega)]
    cases readHeader (os.take omax.toNat) with
    | none => exact ⟨_, rfl⟩
    | some r => exact ⟨_, rfl⟩
  success := by
    intro os omax h hh hok
    replace hh : (if (os.length : Int) < omax then none else _) = some h := hh
    by_cases hlong : (os.length : Int) < omax
    · rw [if_pos hlong] at hh
      exact nomatch hh
    · rw [if_neg hlong] at hh
      cases hread : readHeader (os.take omax.toNat) with
      | none =>
          rw [hread] at hh
          rw [← Option.some.inj hh] at hok
          exact nomatch hok
      | some r =>
          obtain ⟨ident, len, rest⟩ := r
          rw [hread] at hh
          rw [← Option.some.inj hh] at hok ⊢
          have hless := readHeader_length_lt hread
          rw [List.length_take] at hless
          have hin := of_decide_eq_false hok
          dsimp only at hin hless ⊢
          exact ⟨by omega, len, rfl, by omega⟩
  der := by
    intro t rest omax _ hle hin hmax
    show (if ((t.octets ++ rest).length : Int) < omax then none else _) = _
    have hsize : t.octets.length = t.header.length + t.content.length := by
      rw [Tlv.octets, List.length_append]
    have htake : (t.octets ++ rest).take omax.toNat
        = t.header ++ (t.content ++ rest).take (omax.toNat - t.header.length) := by
      rw [Tlv.octets, List.append_assoc, List.take_append, List.take_of_length_le (by omega)]
    have hbehind : ((t.content ++ rest).take (omax.toNat - t.header.length)).length
        = omax.toNat - t.header.length := by
      rw [List.length_append, hsize] at hin
      rw [List.length_take, List.length_append]
      omega
    have hcontent : t.content.length < 256 ^ 126 :=
      Nat.lt_of_lt_of_le (show t.content.length < 2147483648 by omega) (by norm_num)
    rw [if_neg (by omega), htake, readHeader_header hcontent]
    dsimp only
    rw [hbehind, asn1ObjectOf, decide_eq_false (by omega), Nat.sub_sub_self (by omega)]
  room := show 2147483648 ≤ 9223372036854775807 by decide

-- ── The result ───────────────────────────────────────────────────────────────

/-- **PERMITTED EINS**, of any octets: they are read right if and only if every
    round goes well and a well-formed SEQUENCE has no element of the number of
    PrintableString in another class. -/
theorem permitted_eins (rt : Runtime) (laws : rt.Laws) (value : List UInt8) (tag0 xlen0 : Int) :
    EinsRight rt value tag0 xlen0 ↔ EinsRightWhen rt value tag0 xlen0 :=
  einsRight_iff laws

/-- Two prefixes, 890 and 891. -/
theorem permitted_eins_two :
    EinsRight berRuntime
      [0x30, 0x0A, 0x13, 0x03, 0x38, 0x39, 0x30, 0x13, 0x03, 0x38, 0x39, 0x31] 0 0 := by
  have hwf : WellFormed
      [⟨⟨0, false, 19⟩, [0x38, 0x39, 0x30]⟩, ⟨⟨0, false, 19⟩, [0x38, 0x39, 0x31]⟩]
      [0x30, 0x0A, 0x13, 0x03, 0x38, 0x39, 0x30, 0x13, 0x03, 0x38, 0x39, 0x31] :=
    ⟨by decide, by decide, by decide, by decide⟩
  exact (permitted_eins berRuntime berRuntime_laws _ 0 0).mpr
    (einsRightWhen_wellFormed berRuntime_laws hwf (by decide))

/-- A SEQUENCE of an empty string and an octet of a header: once the header has
    failed, the pointer stays where it is. -/
theorem permitted_eins_endless :
    berRuntime.Laws ∧ ¬ EinsRight berRuntime [0x30, 0x03, 0x04, 0x00, 0x13] 0 0 := by
  refine ⟨berRuntime_laws, fun hright => ?_⟩
  let start : EinLoop := { p := 2, remaining := 3, xlen := 3, tag := 16, permittedIins := [] }
  let stuck : EinLoop := { p := 4, remaining := 1, xlen := 0, tag := 4, permittedIins := [] }
  have hcomes : ComesTo berRuntime [0x30, 0x03, 0x04, 0x00, 0x13] 0 0 stuck :=
    ⟨start, by decide, .round rfl (by decide) (.start stuck), rfl⟩
  exact not_ends_of_still (h := ⟨true, 0, none, none⟩) rfl (by decide) (by decide) rfl
    (hcomes.ends hright.ends)

/-- A string that goes on behind its SEQUENCE is given, and one that goes on
    behind the value is read. -/
example : parseExtension berRuntime
      [0x30, 0x04, 0x13, 0x05, 0x38, 0x39, 0x30, 0x38, 0x39] 0 0 1
        = some (.ok [[0x38, 0x39, 0x30, 0x38, 0x39]])
    ∧ parseExtension berRuntime [0x30, 0x02, 0x13, 0x05] 0 0 1 = some (.error .overread) := by
  decide

end OsmoRsp
