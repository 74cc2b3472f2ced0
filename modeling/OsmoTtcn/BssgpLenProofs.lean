import OsmoTtcn.TitanProofs
import OsmoTtcn.WireScanProofs

/-! # Length indicators of BSSGP and NS messages

    On the wire a TLV has a 7-bit or a 15-bit length (TvLV); inside the test
    suite it has a 16-bit one (TL16V).  `BSSGP_Helper.cc` converts a message
    between the two: a static header is kept, and the TLV part behind it is
    walked record by record.

    The route: both walks are instances of `WireScan.scan`; each converts one
    record as it should (`expandTlvStep_tvlv`, `compactTlvStep_tl16v`); lists
    of records follow by the scan rules.  The 15-bit form has no room for a
    length of 0x8000 or more, and nothing in the code rejects one: the record
    that comes out has the 7-bit mark and is read back as another. -/

namespace OsmoBssgpLen

open OsmoTitan WireOctet WireScan

-- ── The two TLV walks ────────────────────────────────────────────────────────

/-- The end of both loop bodies: the check of the value length, the new header
    and the value, and the step of `ofs` behind the value. -/
def tlvValue (inLen tlLength dataLen : Nat) (hdr body : List UInt8) :
    Except Fault (List UInt8 × List UInt8) :=
  -- the check is against the whole TLV part, not against what is left at `ofs`
  if inLen < tlLength + dataLen then
    .error (.ttcnError "Remaining input length insufficient for TLV value length")
  else if body.length < dataLen then .error .overread
  else .ok (hdr ++ body.take dataLen, body.drop dataLen)

/-- One round of the loop of `expand_tlv_part`. -/
def expandTlvStep (inLen : Nat) (rest : List UInt8) :
    Except Fault (List UInt8 × List UInt8) :=
  match rest with
  | tag :: l0 :: body =>
      if 0x80 ≤ l0.toNat then
        -- E bit is set, 7-bit length field
        let dataLen := l0.toNat % 0x80
        tlvValue inLen 2 dataLen (tag :: be16 dataLen) body
      else
        match body with
        | [] => .error (.ttcnError "Remaining input length insufficient for 2-octet length")
        | l1 :: body' =>
            let dataLen := ofBe16 l0 l1
            tlvValue inLen 3 dataLen (tag :: be16 dataLen) body'
  | _ => .error (.ttcnError
      s!"Remaining input length ({rest.length}) insufficient for Tag+Length")

/-- One round of the loop of `compact_tlv_part`. -/
def compactTlvStep (inLen : Nat) (rest : List UInt8) :
    Except Fault (List UInt8 × List UInt8) :=
  match rest with
  | tag :: l0 :: l1 :: body =>
      let dataLen := ofBe16 l0 l1
      if dataLen ≤ 0x7f then
        tlvValue inLen 3 dataLen [tag, UInt8.ofNat (0x80 + dataLen)] body
      else
        tlvValue inLen 3 dataLen (tag :: be16 dataLen) body
  | _ => .error (.ttcnError
      s!"Remaining input length ({rest.length}) insufficient for Tag+Length")

/-- Variable-length "length" fields to 16-bit ones. -/
def expandTlvPart (part : List UInt8) : Except Fault (List UInt8) :=
  scan (expandTlvStep part.length) part

/-- 16-bit "length" fields to variable-length ones. -/
def compactTlvPart (part : List UInt8) : Except Fault (List UInt8) :=
  scan (compactTlvStep part.length) part

-- ── The four entry points ────────────────────────────────────────────────────

/-- An octet as `%02x` prints it. -/
def hex02 (o : UInt8) : String :=
  String.ofList [Nat.digitChar (o.toNat / 16), Nat.digitChar (o.toNat % 16)]

/-- What the four entry points share.  `staticHdrLen` gives the length of the
    non-TLV section by PDU type, and nothing for a PDU type whose message is
    returned as it is. -/
def convertLen (name : String) (staticHdrLen : UInt8 → Option Nat)
    (tlvPart : List UInt8 → Except Fault (List UInt8)) (msg : List UInt8) :
    Except Fault (List UInt8) :=
  match msg with
  | [] => .error .overread
  | pduType :: _ =>
      match staticHdrLen pduType with
      | none => .ok msg
      | some hdrLen =>
          if msg.length < hdrLen then
            .error (.ttcnError
              s!"{name} message is shorter ({msg.length} bytes) than minimum header length ({hdrLen} bytes) for msg_type 0x{hex02 pduType}")
          else (tlvPart (msg.drop hdrLen)).map (msg.take hdrLen ++ ·)

/-- `BSSGP_PDUT_DL_UNITDATA` -/
def bssgpPdutDlUnitdata : UInt8 := 0x00

/-- `BSSGP_PDUT_UL_UNITDATA` -/
def bssgpPdutUlUnitdata : UInt8 := 0x01

/-- `NS_PDUT_NS_UNITDATA` -/
def nsPdutNsUnitdata : UInt8 := 0x00

/-- UNITDATA has a TLLI or BVCI and a QoS profile before its TLVs. -/
def bssgpStaticHdrLen (pduType : UInt8) : Option Nat :=
  if pduType = bssgpPdutDlUnitdata ∨ pduType = bssgpPdutUlUnitdata then some 8
  else some 1

/-- NS-UNITDATA has no TLVs. -/
def nsStaticHdrLen (pduType : UInt8) : Option Nat :=
  if pduType = nsPdutNsUnitdata then none else some 1

/-- `f_BSSGP_expand_len` -/
def fBssgpExpandLen : List UInt8 → Except Fault (List UInt8) :=
  convertLen "BSSGP" bssgpStaticHdrLen expandTlvPart

/-- `f_BSSGP_compact_len` -/
def fBssgpCompactLen : List UInt8 → Except Fault (List UInt8) :=
  convertLen "BSSGP" bssgpStaticHdrLen compactTlvPart

/-- `f_NS_expand_len` -/
def fNsExpandLen : List UInt8 → Except Fault (List UInt8) :=
  convertLen "NS" nsStaticHdrLen expandTlvPart

/-- `f_NS_compact_len` -/
def fNsCompactLen : List UInt8 → Except Fault (List UInt8) :=
  convertLen "NS" nsStaticHdrLen compactTlvPart

/-- The protocols whose messages are converted. -/
inductive Proto where
  | bssgp | ns
  deriving DecidableEq, Repr

/-- How long the header without TLVs is, by its protocol. -/
def Proto.staticHdrLen : Proto → UInt8 → Option Nat
  | .bssgp => bssgpStaticHdrLen
  | .ns => nsStaticHdrLen

/-- The expansion of a protocol. -/
def Proto.expandLen : Proto → List UInt8 → Except Fault (List UInt8)
  | .bssgp => fBssgpExpandLen
  | .ns => fNsExpandLen

/-- The compaction of a protocol. -/
def Proto.compactLen : Proto → List UInt8 → Except Fault (List UInt8)
  | .bssgp => fBssgpCompactLen
  | .ns => fNsCompactLen

-- ── TLVs and their two encodings ─────────────────────────────────────────────

/-- A TLV whose length has 16 bits. -/
structure Tlv where
  tag : UInt8
  value : List UInt8
  fits : value.length < 0x10000

/-- The length also has 15 bits. -/
def Tlv.Short (t : Tlv) : Prop := t.value.length < 0x8000

instance (t : Tlv) : Decidable t.Short :=
  inferInstanceAs (Decidable (t.value.length < 0x8000))

/-- The 16-bit encoding. -/
def tl16v (t : Tlv) : List UInt8 := t.tag :: (be16 t.value.length ++ t.value)

/-- The shortest variable-length encoding.  It is one only for a `Short` TLV:
    beyond, the top bit of the first length octet is part of the length. -/
def tvlv (t : Tlv) : List UInt8 :=
  if t.value.length ≤ 0x7f then
    t.tag :: UInt8.ofNat (0x80 + t.value.length) :: t.value
  else t.tag :: (be16 t.value.length ++ t.value)

/-- An element with a length of two octets is not empty. -/
theorem tl16v_ne_nil (t : Tlv) : tl16v t ≠ [] := List.cons_ne_nil _ _

/-- Nor is one with a length of one or two. -/
theorem tvlv_ne_nil (t : Tlv) : tvlv t ≠ [] := by
  rw [tvlv]
  by_cases h : t.value.length ≤ 0x7f
  · rw [if_pos h]
    exact List.cons_ne_nil _ _
  · rw [if_neg h]
    exact List.cons_ne_nil _ _

/-- A value of the announced length is taken whole. -/
theorem tlvValue_append {inLen tlLength : Nat} {hdr value : List UInt8}
    (rest : List UInt8) (h : tlLength + value.length ≤ inLen) :
    tlvValue inLen tlLength value.length hdr (value ++ rest)
      = .ok (hdr ++ value, rest) := by
  have h1 : ¬ inLen < tlLength + value.length := by omega
  have h2 : ¬ (value ++ rest).length < value.length := by
    rw [List.length_append]
    omega
  rw [tlvValue, if_neg h1, if_neg h2, List.take_left, List.drop_left]

/-- **ONE RECORD COMPACTED**, whatever its length. -/
theorem compactTlvStep_tl16v {inLen : Nat} (t : Tlv) (rest : List UInt8)
    (h : (tl16v t ++ rest).length ≤ inLen) :
    compactTlvStep inLen (tl16v t ++ rest) = .ok (tvlv t, rest) := by
  have hlen : 3 + t.value.length ≤ inLen := by
    have : (tl16v t ++ rest).length = 3 + t.value.length + rest.length := by
      simp only [tl16v, be16, List.length_append, List.length_cons,
        List.length_nil]
      omega
    omega
  show (if ofBe16 _ _ ≤ 0x7f
      then tlvValue inLen 3 (ofBe16 _ _)
        [t.tag, UInt8.ofNat (0x80 + ofBe16 _ _)] (t.value ++ rest)
      else tlvValue inLen 3 (ofBe16 _ _) (t.tag :: be16 (ofBe16 _ _))
        (t.value ++ rest)) = .ok (tvlv t, rest)
  rw [ofBe16_be16 t.fits, tvlv]
  by_cases hs : t.value.length ≤ 0x7f
  · rw [if_pos hs, if_pos hs, tlvValue_append rest hlen]
    rfl
  · rw [if_neg hs, if_neg hs, tlvValue_append rest hlen]
    rfl

/-- **ONE RECORD EXPANDED**, when its length has 15 bits. -/
theorem expandTlvStep_tvlv {inLen : Nat} {t : Tlv} (hshort : t.Short)
    (rest : List UInt8) (h : (tvlv t ++ rest).length ≤ inLen) :
    expandTlvStep inLen (tvlv t ++ rest) = .ok (tl16v t, rest) := by
  have hshort' : t.value.length < 0x8000 := hshort
  rw [tvlv] at h ⊢
  by_cases hs : t.value.length ≤ 0x7f
  · rw [if_pos hs] at h ⊢
    have hlen : 2 + t.value.length ≤ inLen := by
      simp only [List.length_append, List.length_cons] at h
      omega
    have hmark : (UInt8.ofNat (0x80 + t.value.length)).toNat
        = 0x80 + t.value.length := toNat_octet (by omega)
    have hdl : (0x80 + t.value.length) % 0x80 = t.value.length := by omega
    show (if 0x80 ≤ (UInt8.ofNat (0x80 + t.value.length)).toNat
      then tlvValue inLen 2 ((UInt8.ofNat (0x80 + t.value.length)).toNat % 0x80)
        (t.tag :: be16 ((UInt8.ofNat (0x80 + t.value.length)).toNat % 0x80))
        (t.value ++ rest)
      else _) = .ok (tl16v t, rest)
    rw [hmark, hdl, if_pos (by omega), tlvValue_append rest hlen]
    rfl
  · rw [if_neg hs] at h ⊢
    have hlen : 3 + t.value.length ≤ inLen := by
      simp only [be16, List.length_append, List.length_cons,
        List.length_nil] at h
      omega
    have hmark : ¬ 0x80 ≤ (UInt8.ofNat (t.value.length / 256)).toNat := by
      rw [toNat_octet (by omega)]
      omega
    show (if 0x80 ≤ (UInt8.ofNat (t.value.length / 256)).toNat then _
      else tlvValue inLen 3 (ofBe16 _ _) (t.tag :: be16 (ofBe16 _ _))
        (t.value ++ rest)) = .ok (tl16v t, rest)
    rw [if_neg hmark, ofBe16_be16 t.fits, tlvValue_append rest hlen]
    rfl

/-- **A LONG RECORD IS MISREAD**: what `compact_tlv_part` makes of a length of
    0x8000 or more carries the 7-bit mark, and expands to a record whose length
    is below 0x80. -/
theorem expandTlvStep_long {inLen : Nat} {t : Tlv} (hlong : ¬ t.Short)
    {rest rest' o : List UInt8}
    (h : expandTlvStep inLen (tvlv t ++ rest) = .ok (o, rest')) :
    ∃ tail, o = t.tag :: 0 :: tail := by
  have hlong' : 0x8000 ≤ t.value.length := Nat.le_of_not_lt hlong
  have hlt := t.fits
  have hs : ¬ t.value.length ≤ 0x7f := by omega
  have hhi : (UInt8.ofNat (t.value.length / 256)).toNat
      = t.value.length / 256 := toNat_octet (by omega)
  have hmark : 0x80 ≤ (UInt8.ofNat (t.value.length / 256)).toNat := by
    rw [hhi]
    omega
  have hstep : expandTlvStep inLen (tvlv t ++ rest)
      = tlvValue inLen 2 (t.value.length / 256 % 0x80)
        (t.tag :: be16 (t.value.length / 256 % 0x80))
        (UInt8.ofNat (t.value.length % 256) :: (t.value ++ rest)) := by
    rw [tvlv, if_neg hs]
    show (if 0x80 ≤ (UInt8.ofNat (t.value.length / 256)).toNat
      then tlvValue inLen 2 ((UInt8.ofNat (t.value.length / 256)).toNat % 0x80)
        (t.tag :: be16 ((UInt8.ofNat (t.value.length / 256)).toNat % 0x80))
        (UInt8.ofNat (t.value.length % 256) :: (t.value ++ rest))
      else _) = _
    rw [if_pos hmark, hhi]
  rw [hstep, tlvValue] at h
  by_cases h1 : inLen < 2 + t.value.length / 256 % 0x80
  · rw [if_pos h1] at h
    exact nomatch h
  · rw [if_neg h1] at h
    by_cases h2 : (UInt8.ofNat (t.value.length % 256)
        :: (t.value ++ rest)).length < t.value.length / 256 % 0x80
    · rw [if_pos h2] at h
      exact nomatch h
    · rw [if_neg h2] at h
      obtain ⟨ho, -⟩ := Prod.mk.inj (Except.ok.inj h)
      have hzero : t.value.length / 256 % 0x80 / 256 = 0 := by omega
      refine ⟨UInt8.ofNat (t.value.length / 256 % 0x80 % 256) ::
        (UInt8.ofNat (t.value.length % 256) :: (t.value ++ rest)).take
          (t.value.length / 256 % 0x80), ?_⟩
      rw [← ho, be16, hzero]
      rfl

-- ── TLV parts ────────────────────────────────────────────────────────────────

/-- A suffix of a list of records is no longer than all of it. -/
private theorem length_suffix_le {enc : Tlv → List UInt8} {ts pre post : List Tlv}
    {t : Tlv} (h : ts = pre ++ t :: post) :
    (enc t ++ post.flatMap enc).length ≤ (ts.flatMap enc).length := by
  rw [h, List.flatMap_append, List.flatMap_cons]
  simp only [List.length_append]
  omega

/-- Expanded elements are compacted one by one. -/
theorem compactTlvPart_tl16v (ts : List Tlv) :
    compactTlvPart (ts.flatMap tl16v) = .ok (ts.flatMap tvlv) :=
  scan_flatMap ts (fun t _ => tl16v_ne_nil t)
    (fun _ t _ h => compactTlvStep_tl16v t _ (length_suffix_le h))

/-- Compacted elements are expanded one by one. -/
theorem expandTlvPart_tvlv {ts : List Tlv} (hshort : ∀ t ∈ ts, t.Short) :
    expandTlvPart (ts.flatMap tvlv) = .ok (ts.flatMap tl16v) :=
  scan_flatMap ts (fun t _ => tvlv_ne_nil t)
    (fun pre t post h => expandTlvStep_tvlv
      (hshort t (by rw [h]; exact List.mem_append_right _ List.mem_cons_self)) _
      (length_suffix_le h))

/-- A list with an element that fails `p` has a first one. -/
private theorem exists_first_not {p : Tlv → Prop} [DecidablePred p] :
    ∀ {ts : List Tlv}, ¬ (∀ t ∈ ts, p t) →
      ∃ pre t post, ts = pre ++ t :: post ∧ (∀ s ∈ pre, p s) ∧ ¬ p t := by
  intro ts
  induction ts with
  | nil =>
      intro h
      exact absurd (fun t ht => nomatch ht) h
  | cons a ts ih =>
      intro h
      by_cases ha : p a
      · obtain ⟨pre, t, post, hts, hpre, ht⟩ := ih (fun hall => h (by
          intro s hs
          rcases List.mem_cons.mp hs with heq | hmem
          · rw [heq]
            exact ha
          · exact hall s hmem))
        refine ⟨a :: pre, t, post, by rw [hts]; rfl, ?_, ht⟩
        intro s hs
        rcases List.mem_cons.mp hs with heq | hmem
        · rw [heq]
          exact ha
        · exact hpre s hmem
      · refine ⟨[], a, ts, rfl, ?_, ha⟩
        intro s hs
        exact nomatch hs

/-- **NO WAY BACK**: a TLV part with a long record is never restored from its
    compacted form. -/
theorem expandTlvPart_tvlv_ne {ts : List Tlv} (hlong : ¬ ∀ t ∈ ts, t.Short) :
    expandTlvPart (ts.flatMap tvlv) ≠ .ok (ts.flatMap tl16v) := by
  intro hok
  obtain ⟨pre, t, post, hts, hpre, ht⟩ := exists_first_not hlong
  have hsplit : ts.flatMap tvlv
      = pre.flatMap tvlv ++ (tvlv t ++ post.flatMap tvlv) := by
    rw [hts, List.flatMap_append, List.flatMap_cons]
  -- the records before `t` are converted as they should be
  have hwalk : scan (expandTlvStep (ts.flatMap tvlv).length) (ts.flatMap tvlv)
      = (scan (expandTlvStep (ts.flatMap tvlv).length)
          (tvlv t ++ post.flatMap tvlv)).map (pre.flatMap tl16v ++ ·) := by
    rw [hsplit]
    refine scan_flatMap_append pre _ (fun s _ => tvlv_ne_nil s) ?_
    intro pre₁ s post₁ hpre₁
    refine expandTlvStep_tvlv (hpre s (by
      rw [hpre₁]
      exact List.mem_append_right _ List.mem_cons_self)) _ ?_
    have hle : (tvlv s ++ post₁.flatMap tvlv).length
        ≤ (pre.flatMap tvlv).length := length_suffix_le hpre₁
    simp only [List.length_append] at hle ⊢
    omega
  have hok' : (scan (expandTlvStep (ts.flatMap tvlv).length)
      (tvlv t ++ post.flatMap tvlv)).map (pre.flatMap tl16v ++ ·)
      = .ok (ts.flatMap tl16v) := hwalk.symm.trans hok
  cases hs : scan (expandTlvStep (ts.flatMap tvlv).length)
      (tvlv t ++ post.flatMap tvlv) with
  | error e =>
      rw [hs] at hok'
      exact nomatch hok'
  | ok out =>
      rw [hs] at hok'
      have hcat : pre.flatMap tl16v ++ out
          = pre.flatMap tl16v ++ (tl16v t ++ post.flatMap tl16v) := by
        rw [hts, List.flatMap_append, List.flatMap_cons] at hok'
        exact Except.ok.inj hok'
      have hout := List.append_cancel_left hcat
      -- `t` itself comes out with a length below 0x80
      have hne : tvlv t ++ post.flatMap tvlv ≠ [] := by
        intro h
        exact tvlv_ne_nil t (List.append_eq_nil_iff.mp h).1
      cases hstep : expandTlvStep (ts.flatMap tvlv).length
          (tvlv t ++ post.flatMap tvlv) with
      | error e =>
          rw [scan_error hne hstep] at hs
          exact nomatch hs
      | ok r =>
          obtain ⟨o, rest'⟩ := r
          obtain ⟨tail, ho⟩ := expandTlvStep_long ht hstep
          obtain ⟨tail', hout'⟩ := scan_ok_inv hne hstep hs
          rw [hout', ho] at hout
          have hsecond : (0 : UInt8) = UInt8.ofNat (t.value.length / 256) :=
            (List.cons.inj (List.cons.inj hout).2).1
          have hval := congrArg UInt8.toNat hsecond
          have hlt := t.fits
          have hge : 0x8000 ≤ t.value.length := Nat.le_of_not_lt ht
          rw [toNat_octet (by omega)] at hval
          have hzero : (0 : UInt8).toNat = 0 := rfl
          omega

-- ── Messages ─────────────────────────────────────────────────────────────────

/-- A message of a protocol whose PDU types have static headers of
    `staticHdrLen`: the header, PDU type first, has the prescribed length, and
    a PDU type that is passed on as it is has no TLVs. -/
structure Msg (staticHdrLen : UInt8 → Option Nat) where
  pduType : UInt8
  hdrRest : List UInt8
  tlvs : List Tlv
  wf : match staticHdrLen pduType with
    | none => tlvs = []
    | some n => hdrRest.length + 1 = n

/-- The octets of a message whose TLVs are encoded by `enc`. -/
def Msg.encode {shl : UInt8 → Option Nat} (enc : Tlv → List UInt8)
    (m : Msg shl) : List UInt8 :=
  (m.pduType :: m.hdrRest) ++ m.tlvs.flatMap enc

/-- A conversion keeps the static header and converts the TLV part. -/
theorem convertLen_encode {shl : UInt8 → Option Nat} (name : String)
    {part : List UInt8 → Except Fault (List UInt8)} (hnil : part [] = .ok [])
    (enc : Tlv → List UInt8) (m : Msg shl) :
    convertLen name shl part (m.encode enc)
      = (part (m.tlvs.flatMap enc)).map ((m.pduType :: m.hdrRest) ++ ·) := by
  have hwf := m.wf
  show (match shl m.pduType with
    | none => Except.ok (m.encode enc)
    | some hdrLen =>
        if (m.encode enc).length < hdrLen then _
        else (part ((m.encode enc).drop hdrLen)).map
          ((m.encode enc).take hdrLen ++ ·)) = _
  cases hshl : shl m.pduType with
  | none =>
      rw [hshl] at hwf
      have htlvs : m.tlvs = [] := hwf
      rw [Msg.encode, htlvs]
      show Except.ok ((m.pduType :: m.hdrRest) ++ [])
        = (part []).map ((m.pduType :: m.hdrRest) ++ ·)
      rw [hnil]
      rfl
  | some n =>
      rw [hshl] at hwf
      have hlen : (m.pduType :: m.hdrRest).length = n := hwf
      have hge : ¬ (m.encode enc).length < n := by
        rw [Msg.encode, List.length_append, hlen]
        omega
      show (if (m.encode enc).length < n then _
        else (part ((m.encode enc).drop n)).map ((m.encode enc).take n ++ ·)) = _
      rw [if_neg hge, Msg.encode, ← hlen, List.drop_left, List.take_left]

/-- Nothing compacts to nothing. -/
theorem compactTlvPart_nil : compactTlvPart [] = .ok [] := scan_nil _

/-- Nothing expands to nothing. -/
theorem expandTlvPart_nil : expandTlvPart [] = .ok [] := scan_nil _

/-- Compacting `y` is reported as impossible, or loses nothing. -/
def CompactsLosslessly (compact expand : List UInt8 → Except Fault (List UInt8))
    (y : List UInt8) : Prop :=
  (∃ msg, compact y = .error (.ttcnError msg))
    ∨ ∃ z, compact y = .ok z ∧ expand z = .ok y

section Conversion

variable {shl : UInt8 → Option Nat} (name : String)

/-- A canonical message survives the conversion to 16-bit lengths and back. -/
theorem convertLen_expand_compact {m : Msg shl} (hshort : ∀ t ∈ m.tlvs, t.Short) :
    convertLen name shl expandTlvPart (m.encode tvlv) = .ok (m.encode tl16v)
    ∧ convertLen name shl compactTlvPart (m.encode tl16v)
      = .ok (m.encode tvlv) := by
  constructor
  · rw [convertLen_encode name expandTlvPart_nil, expandTlvPart_tvlv hshort]
    rfl
  · rw [convertLen_encode name compactTlvPart_nil, compactTlvPart_tl16v]
    rfl

/-- **EXACTLY THE SHORT MESSAGES**: compaction never reports anything, and it
    is lossless if and only if every length has 15 bits. -/
theorem convertLen_lossless_iff (m : Msg shl) :
    CompactsLosslessly (convertLen name shl compactTlvPart)
        (convertLen name shl expandTlvPart) (m.encode tl16v)
      ↔ ∀ t ∈ m.tlvs, t.Short := by
  have hcompact : convertLen name shl compactTlvPart (m.encode tl16v)
      = .ok (m.encode tvlv) := by
    rw [convertLen_encode name compactTlvPart_nil, compactTlvPart_tl16v]
    rfl
  constructor
  · rintro (⟨msg, herr⟩ | ⟨z, hz, hexp⟩)
    · rw [hcompact] at herr
      exact nomatch herr
    · have hzeq : m.encode tvlv = z := Except.ok.inj (hcompact.symm.trans hz)
      rw [← hzeq, convertLen_encode name expandTlvPart_nil] at hexp
      by_contra hlong
      refine expandTlvPart_tvlv_ne hlong ?_
      cases hpart : expandTlvPart (m.tlvs.flatMap tvlv) with
      | error e =>
          rw [hpart] at hexp
          exact nomatch hexp
      | ok out =>
          rw [hpart] at hexp
          have hcat : (m.pduType :: m.hdrRest) ++ out
              = (m.pduType :: m.hdrRest) ++ m.tlvs.flatMap tl16v :=
            Except.ok.inj hexp
          rw [List.append_cancel_left hcat]
  · intro hshort
    exact Or.inr ⟨m.encode tvlv, hcompact,
      (convertLen_expand_compact name hshort).1⟩

end Conversion

/-- **LENGTH CONVERSION**, for both protocols: a canonical message comes back
    from its expanded form, and an expanded message is either reported or comes
    back from its compacted form exactly when no value has 0x8000 octets or
    more. -/
theorem lenConversion_lossless (proto : Proto) (m : Msg proto.staticHdrLen) :
    ((∀ t ∈ m.tlvs, t.Short) →
      (proto.expandLen (m.encode tvlv)).bind proto.compactLen = .ok (m.encode tvlv))
    ∧ (CompactsLosslessly proto.compactLen proto.expandLen (m.encode tl16v)
      ↔ ∀ t ∈ m.tlvs, t.Short) := by
  cases proto with
  | bssgp =>
      refine ⟨fun hshort => ?_, convertLen_lossless_iff "BSSGP" m⟩
      obtain ⟨hexp, hcomp⟩ := convertLen_expand_compact "BSSGP" hshort
      show (fBssgpExpandLen (m.encode tvlv)).bind fBssgpCompactLen = _
      rw [show fBssgpExpandLen (m.encode tvlv) = .ok (m.encode tl16v) from hexp]
      exact hcomp
  | ns =>
      refine ⟨fun hshort => ?_, convertLen_lossless_iff "NS" m⟩
      obtain ⟨hexp, hcomp⟩ := convertLen_expand_compact "NS" hshort
      show (fNsExpandLen (m.encode tvlv)).bind fNsCompactLen = _
      rw [show fNsExpandLen (m.encode tvlv) = .ok (m.encode tl16v) from hexp]
      exact hcomp

/-- A BVC-RESET with one TLV of two octets. -/
def shortBvcReset : Msg Proto.bssgp.staticHdrLen where
  pduType := 0x22
  hdrRest := []
  tlvs := [⟨0x04, [0x00, 0x2a], by decide⟩]
  wf := rfl

/-- A BVC-RESET comes back as it was. -/
theorem lenConversion_lossless_bvcReset :
    (fBssgpExpandLen (shortBvcReset.encode tvlv)).bind fBssgpCompactLen
      = .ok [0x22, 0x04, 0x82, 0x00, 0x2a] :=
  (lenConversion_lossless .bssgp shortBvcReset).1 (by decide)

/-- A BVC-RESET with one value of 0x8000 octets is not converted losslessly. -/
theorem bvcReset_long {v : List UInt8} (hv : v.length = 0x8000) :
    ¬ CompactsLosslessly fBssgpCompactLen fBssgpExpandLen
      (0x22 :: 0x07 :: 0x80 :: 0x00 :: v) := by
  have hfits : v.length < 0x10000 := by omega
  have henc : (⟨0x22, [], [⟨0x07, v, hfits⟩], rfl⟩ : Msg bssgpStaticHdrLen).encode
      tl16v = 0x22 :: 0x07 :: 0x80 :: 0x00 :: v := by
    show 0x22 :: 0x07 :: (be16 v.length ++ v) ++ [] = _
    rw [hv, List.append_nil]
    rfl
  rw [← henc]
  intro h
  have hshort : v.length < 0x8000 :=
    (convertLen_lossless_iff "BSSGP" _).mp h _ List.mem_cons_self
  omega

/-- The first length that goes wrong: 0x8000 octets of value. -/
theorem compact_long_not_lossless :
    ¬ CompactsLosslessly fBssgpCompactLen fBssgpExpandLen
      (0x22 :: 0x07 :: 0x80 :: 0x00 :: List.replicate 0x8000 0x00) :=
  bvcReset_long List.length_replicate

end OsmoBssgpLen
