import OsmoTtcn.TitanProofs

/-! # RLC/MAC types and their RAW codecs

    The records of `RLCMAC_Types.ttcn` that the GPRS data block codecs use,
    with the RAW encoding of each (`FIELDORDER(msb)`: the first field of a
    record takes the most significant bits).  A field of a fixed width is a
    `Fin`; the length indicator is a plain number, since it is computed from
    payload lengths and only the RAW encoder checks that it has six bits. -/

namespace OsmoRlcmac

open OsmoTitan WireOctet

/-- `CodingScheme` -/
inductive CodingScheme where
  | cs1 | cs2 | cs3 | cs4
  | mcs0 | mcs1 | mcs2 | mcs3 | mcs4 | mcs5 | mcs6 | mcs7 | mcs8 | mcs9
  deriving DecidableEq, Repr

/-- TS 44.060 10.4.7 -/
inductive MacPayloadType where
  | rlcData | rlcmacNoOpt | rlcmacOpt | reserved
  deriving DecidableEq, Repr

/-- The number of a `MacPayloadType`. -/
def MacPayloadType.toBits : MacPayloadType → Nat
  | .rlcData => 0
  | .rlcmacNoOpt => 1
  | .rlcmacOpt => 2
  | .reserved => 3

/-- The `MacPayloadType` of a number. -/
def MacPayloadType.ofBits : Nat → MacPayloadType
  | 0 => .rlcData
  | 1 => .rlcmacNoOpt
  | 2 => .rlcmacOpt
  | _ => .reserved

theorem MacPayloadType.toBits_lt (t : MacPayloadType) : t.toBits < 4 := by
  cases t <;> decide

theorem MacPayloadType.ofBits_toBits (t : MacPayloadType) : ofBits t.toBits = t := by
  cases t <;> rfl

-- ── Block lengths ────────────────────────────────────────────────────────────

/-- `f_rlcmac_cs_mcs2block_len` -/
def fRlcmacCsMcs2blockLen : CodingScheme → Nat
  | .cs1 => 23
  | .cs2 => 34
  | .cs3 => 40
  | .cs4 => 54
  | .mcs1 => 27
  | .mcs2 => 33
  | .mcs3 => 42
  | .mcs4 => 49
  | .mcs5 => 61
  | .mcs6 => 79
  | .mcs7 => 119
  | .mcs8 => 143
  | .mcs9 => 155
  | .mcs0 => 0

/-- TS 44.060 Table 10.2.1: RLC data block size, discounting padding in octet. -/
def fRlcmacCsMcs2blockLenNoSpareBits : CodingScheme → Nat
  | .cs1 => 23
  | .cs2 => 33
  | .cs3 => 39
  | .cs4 => 53
  | .mcs1 => 27
  | .mcs2 => 33
  | .mcs3 => 42
  | .mcs4 => 49
  | .mcs5 => 61
  | .mcs6 => 79
  | .mcs7 => 119
  | .mcs8 => 143
  | .mcs9 => 155
  | .mcs0 => 0

/-- `payload_len_2_coding_scheme` -/
def payloadLen2CodingScheme (payloadLen : Nat) : CodingScheme :=
  match payloadLen with
  | 23 => .cs1
  | 34 => .cs2
  | 40 => .cs3
  | 54 => .cs4
  | 27 => .mcs1
  | 33 => .mcs2
  | 42 => .mcs3
  | 49 => .mcs4
  | 60 | 61 => .mcs5
  | 78 | 79 => .mcs6
  | 118 | 119 => .mcs7
  | 142 | 143 => .mcs8
  | 154 | 155 => .mcs9
  -- an unknown length is only reported on stderr
  | _ => .cs1

/-- CS-1..CS-4, the coding schemes of GPRS. -/
def CodingScheme.IsGprs : CodingScheme → Prop
  | .cs1 | .cs2 | .cs3 | .cs4 => True
  | _ => False

instance : (cs : CodingScheme) → Decidable cs.IsGprs
  | .cs1 | .cs2 | .cs3 | .cs4 => isTrue trivial
  | .mcs0 | .mcs1 | .mcs2 | .mcs3 | .mcs4 | .mcs5 | .mcs6 | .mcs7 | .mcs8
  | .mcs9 => isFalse id

/-- The decoder recovers a GPRS coding scheme from the block length. -/
theorem payloadLen2CodingScheme_blockLen {cs : CodingScheme} (h : cs.IsGprs) :
    payloadLen2CodingScheme (fRlcmacCsMcs2blockLen cs) = cs := by
  cases cs <;> first | rfl | exact absurd h id

theorem blockLenNoSpareBits_le (cs : CodingScheme) :
    fRlcmacCsMcs2blockLenNoSpareBits cs ≤ fRlcmacCsMcs2blockLen cs := by
  cases cs <;> decide

/-- No block has room for a length that does not fit six bits. -/
theorem blockLenNoSpareBits_lt {cs : CodingScheme} (h : cs.IsGprs) :
    fRlcmacCsMcs2blockLenNoSpareBits cs < 64 := by
  cases cs <;> first | decide | exact absurd h id

-- ── LLC blocks ───────────────────────────────────────────────────────────────

/-- A single RLC block / LLC-segment header. -/
structure LlcBlockHdr where
  lengthInd : Nat
  /-- 1 = new LLC PDU starts -/
  more : Bool
  /-- 0 = another extension octet after LLC PDU, 1 = no more extension octets -/
  e : Bool
  deriving DecidableEq, Repr

/-- `LlcBlock` -/
structure LlcBlock where
  /-- Header is only present if LI field was present. -/
  hdr : Option LlcBlockHdr
  payload : List UInt8
  deriving DecidableEq, Repr

/-- `LlcBlockHdr` as RAW encodes it. -/
def encLlcBlockHdr (h : LlcBlockHdr) : Except Fault (List UInt8) :=
  if h.lengthInd < 64 then
    .ok [UInt8.ofNat (h.lengthInd * 4 + bit h.more * 2 + bit h.e)]
  else .error .rawOverflow

/-- `LlcBlockHdr` as RAW decodes it. -/
def decLlcBlockHdr (o : UInt8) : LlcBlockHdr where
  lengthInd := o.toNat / 4
  more := bitOf o 1
  e := bitOf o 0

theorem decLlcBlockHdr_octet {h : LlcBlockHdr} (hlt : h.lengthInd < 64) :
    decLlcBlockHdr (UInt8.ofNat (h.lengthInd * 4 + bit h.more * 2 + bit h.e))
      = h := by
  obtain ⟨li, more, e⟩ := h
  have hli : li < 64 := hlt
  have hm := bit_lt_two more
  have he := bit_lt_two e
  have hval : (UInt8.ofNat (li * 4 + bit more * 2 + bit e)).toNat
      = li * 4 + bit more * 2 + bit e := toNat_octet (by omega)
  have h1 : (li * 4 + bit more * 2 + bit e) / 4 = li := by omega
  have h2 : (li * 4 + bit more * 2 + bit e) / 2 ^ 1 % 2 = bit more := by omega
  have h3 : (li * 4 + bit more * 2 + bit e) / 2 ^ 0 % 2 = bit e := by omega
  show LlcBlockHdr.mk _ (decide _) (decide _) = ⟨li, more, e⟩
  rw [hval, h1, h2, h3, decide_bit_eq_one, decide_bit_eq_one]

-- ── Uplink data block header ─────────────────────────────────────────────────

/-- TS 44.060 10.2.2 -/
structure UlMacDataHeader where
  payloadType : MacPayloadType
  countdown : Fin 16
  stallInd : Bool
  retry : Bool
  spare : Bool
  pfiInd : Bool
  tfi : Fin 32
  tlliInd : Bool
  bsn : Fin 128
  e : Bool
  deriving DecidableEq, Repr

/-- `UlMacDataHeader` as RAW encodes it. -/
def encUlMacDataHeader (h : UlMacDataHeader) : List UInt8 :=
  [ UInt8.ofNat (h.payloadType.toBits * 64 + h.countdown.val * 4
      + bit h.stallInd * 2 + bit h.retry),
    UInt8.ofNat (bit h.spare * 128 + bit h.pfiInd * 64 + h.tfi.val * 2
      + bit h.tlliInd),
    UInt8.ofNat (h.bsn.val * 2 + bit h.e) ]

/-- `UlMacDataHeader` as RAW decodes it, with what is behind it. -/
def decUlMacDataHeader (buf : List UInt8) :
    Except Fault (UlMacDataHeader × List UInt8) :=
  match buf with
  | o0 :: o1 :: o2 :: rest => .ok (
      { payloadType := .ofBits (o0.toNat / 64)
        countdown := Fin.ofNat 16 (o0.toNat / 4)
        stallInd := bitOf o0 1
        retry := bitOf o0 0
        spare := bitOf o1 7
        pfiInd := bitOf o1 6
        tfi := Fin.ofNat 32 (o1.toNat / 2)
        tlliInd := bitOf o1 0
        bsn := Fin.ofNat 128 (o2.toNat / 2)
        e := bitOf o2 0 }, rest)
  | _ => .error .rawIncomplete

/-- **HEADER ROUND TRIP.** -/
theorem decUlMacDataHeader_enc (h : UlMacDataHeader) (rest : List UInt8) :
    decUlMacDataHeader (encUlMacDataHeader h ++ rest) = .ok (h, rest) := by
  obtain ⟨pt, cv, si, r, sp, pi, tfi, ti, bsn, e⟩ := h
  have hpt := pt.toBits_lt
  have hcv := cv.isLt
  have htfi := tfi.isLt
  have hbsn := bsn.isLt
  have hsi := bit_lt_two si
  have hr := bit_lt_two r
  have hsp := bit_lt_two sp
  have hpi := bit_lt_two pi
  have hti := bit_lt_two ti
  have he := bit_lt_two e
  have v0 : (UInt8.ofNat (pt.toBits * 64 + cv.val * 4 + bit si * 2
      + bit r)).toNat = pt.toBits * 64 + cv.val * 4 + bit si * 2 + bit r :=
    toNat_octet (by omega)
  have v1 : (UInt8.ofNat (bit sp * 128 + bit pi * 64 + tfi.val * 2
      + bit ti)).toNat = bit sp * 128 + bit pi * 64 + tfi.val * 2 + bit ti :=
    toNat_octet (by omega)
  have v2 : (UInt8.ofNat (bsn.val * 2 + bit e)).toNat = bsn.val * 2 + bit e :=
    toNat_octet (by omega)
  have f0 : (pt.toBits * 64 + cv.val * 4 + bit si * 2 + bit r) / 64
      = pt.toBits := by omega
  have f1 : Fin.ofNat 16
      ((pt.toBits * 64 + cv.val * 4 + bit si * 2 + bit r) / 4) = cv :=
    Fin.ext (show _ % 16 = cv.val by omega)
  have f2 : (pt.toBits * 64 + cv.val * 4 + bit si * 2 + bit r) / 2 ^ 1 % 2
      = bit si := by omega
  have f3 : (pt.toBits * 64 + cv.val * 4 + bit si * 2 + bit r) / 2 ^ 0 % 2
      = bit r := by omega
  have f4 : (bit sp * 128 + bit pi * 64 + tfi.val * 2 + bit ti) / 2 ^ 7 % 2
      = bit sp := by omega
  have f5 : (bit sp * 128 + bit pi * 64 + tfi.val * 2 + bit ti) / 2 ^ 6 % 2
      = bit pi := by omega
  have f6 : Fin.ofNat 32
      ((bit sp * 128 + bit pi * 64 + tfi.val * 2 + bit ti) / 2) = tfi :=
    Fin.ext (show _ % 32 = tfi.val by omega)
  have f7 : (bit sp * 128 + bit pi * 64 + tfi.val * 2 + bit ti) / 2 ^ 0 % 2
      = bit ti := by omega
  have f8 : Fin.ofNat 128 ((bsn.val * 2 + bit e) / 2) = bsn :=
    Fin.ext (show _ % 128 = bsn.val by omega)
  have f9 : (bsn.val * 2 + bit e) / 2 ^ 0 % 2 = bit e := by omega
  show Except.ok (UlMacDataHeader.mk _ _ (decide _) (decide _) (decide _)
    (decide _) _ (decide _) _ (decide _), rest) = _
  rw [v0, v1, v2, f0, f1, f2, f3, f4, f5, f6, f7, f8, f9, pt.ofBits_toBits]
  simp only [decide_bit_eq_one]

-- ── Blocks with a tail ───────────────────────────────────────────────────────

/-- A tail without a header is alone, where all blocks have one or there is
    just one block. -/
theorem tail_alone {α β : Type} {hdr : α → Option β} {ds : List α} {t : α}
    (ht : hdr t = none)
    (hform : (∀ b ∈ ds ++ [t], (hdr b).isSome = true) ∨ (ds ++ [t]).length = 1) :
    ds = [] := by
  rcases hform with hall | hone
  · have hsome := hall t (List.mem_append_right _ List.mem_cons_self)
    rw [ht] at hsome
    exact nomatch hsome
  · rw [List.length_append] at hone
    exact List.length_eq_zero_iff.mp (Nat.succ.inj hone)

-- ── TLLI and PFI ─────────────────────────────────────────────────────────────

/-- `OCT4` -/
structure GprsTlli where
  octets : List UInt8
  len : octets.length = 4
  deriving DecidableEq, Repr

/-- `RlcMacUlPfi` -/
structure RlcMacUlPfi where
  pfi : Fin 128
  m : Bool
  deriving DecidableEq, Repr

/-- `RlcMacUlPfi` as RAW encodes it. -/
def encRlcMacUlPfi (p : RlcMacUlPfi) : List UInt8 :=
  [UInt8.ofNat (p.pfi.val * 2 + bit p.m)]

/-- `RlcMacUlPfi` as RAW decodes it, with what is behind it. -/
def decRlcMacUlPfi (buf : List UInt8) :
    Except Fault (RlcMacUlPfi × List UInt8) :=
  match buf with
  | o :: rest =>
      .ok ({ pfi := Fin.ofNat 128 (o.toNat / 2), m := bitOf o 0 }, rest)
  | [] => .error .rawIncomplete

theorem decRlcMacUlPfi_enc (p : RlcMacUlPfi) (rest : List UInt8) :
    decRlcMacUlPfi (encRlcMacUlPfi p ++ rest) = .ok (p, rest) := by
  obtain ⟨pfi, m⟩ := p
  have hp := pfi.isLt
  have hm := bit_lt_two m
  have hval : (UInt8.ofNat (pfi.val * 2 + bit m)).toNat = pfi.val * 2 + bit m :=
    toNat_octet (by omega)
  have f0 : Fin.ofNat 128 ((pfi.val * 2 + bit m) / 2) = pfi :=
    Fin.ext (show _ % 128 = pfi.val by omega)
  have f1 : (pfi.val * 2 + bit m) / 2 ^ 0 % 2 = bit m := by omega
  show Except.ok (RlcMacUlPfi.mk _ (decide _), rest) = _
  rw [hval, f0, f1, decide_bit_eq_one]

end OsmoRlcmac
