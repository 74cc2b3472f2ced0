import OsmoTtcn.RlcmacUlProofs

/-! # GPRS downlink RLC data blocks

    `enc_RlcmacDlDataBlock` recomputes every E bit from the list of LLC
    segments, and `dec_RlcmacDlDataBlock` gives a first length indicator of 0
    everything that is left.  The extension octets and the payloads behind
    the first are those of the uplink.

    The encoder asks `is_bound()` of an optional header where it means to ask
    whether the header is there, and `is_bound()` is also true of `omit`.  It
    therefore writes a header for every segment, and faults on one that has
    none: `dlRoundTrips_iff`. -/

namespace OsmoRlcmac

open OsmoTitan WireOctet

-- ── Header ───────────────────────────────────────────────────────────────────

/-- TS 44.060 10.4.5 -/
inductive MacRrbp where
  | nplus13 | nplus17or18 | nplus21or22 | nplus26
  deriving DecidableEq, Repr

/-- The number of a `MacRrbp`. -/
def MacRrbp.toBits : MacRrbp → Nat
  | .nplus13 => 0
  | .nplus17or18 => 1
  | .nplus21or22 => 2
  | .nplus26 => 3

/-- The `MacRrbp` of a number. -/
def MacRrbp.ofBits : Nat → MacRrbp
  | 0 => .nplus13
  | 1 => .nplus17or18
  | 2 => .nplus21or22
  | _ => .nplus26

theorem MacRrbp.toBits_lt (r : MacRrbp) : r.toBits < 4 := by
  cases r <;> decide

theorem MacRrbp.ofBits_toBits (r : MacRrbp) : ofBits r.toBits = r := by
  cases r <;> rfl

/-- TS 44.060 10.4.10a -/
inductive PowerReduction where
  | from0to3dB | from3to7dB | from7to10dB | reserved
  deriving DecidableEq, Repr

/-- The number of a `PowerReduction`. -/
def PowerReduction.toBits : PowerReduction → Nat
  | .from0to3dB => 0
  | .from3to7dB => 1
  | .from7to10dB => 2
  | .reserved => 3

/-- The `PowerReduction` of a number. -/
def PowerReduction.ofBits : Nat → PowerReduction
  | 0 => .from0to3dB
  | 1 => .from3to7dB
  | 2 => .from7to10dB
  | _ => .reserved

theorem PowerReduction.toBits_lt (p : PowerReduction) : p.toBits < 4 := by
  cases p <;> decide

theorem PowerReduction.ofBits_toBits (p : PowerReduction) :
    ofBits p.toBits = p := by
  cases p <;> rfl

/-- `DlMacHeader` -/
structure DlMacHeader where
  payloadType : MacPayloadType
  rrbp : MacRrbp
  rrbpValid : Bool
  usf : Fin 8
  deriving DecidableEq, Repr

/-- TS 44.060 10.2.1 -/
structure DlMacHdrDataExt where
  pr : PowerReduction
  spare : Bool
  tfi : Fin 16
  fbi : Bool
  bsn : Fin 128
  e : Bool
  deriving DecidableEq, Repr

/-- `DlMacDataHeader` -/
structure DlMacDataHeader where
  macHdr : DlMacHeader
  hdrExt : DlMacHdrDataExt
  deriving DecidableEq, Repr

/-- `DlMacHeader` as RAW encodes it. -/
def encDlMacHeader (h : DlMacHeader) : UInt8 :=
  UInt8.ofNat (h.payloadType.toBits * 64 + h.rrbp.toBits * 16
    + bit h.rrbpValid * 8 + h.usf.val)

/-- `DlMacDataHeader` as RAW encodes it. -/
def encDlMacDataHeader (h : DlMacDataHeader) : List UInt8 :=
  [ encDlMacHeader h.macHdr,
    UInt8.ofNat (h.hdrExt.pr.toBits * 64 + bit h.hdrExt.spare * 32
      + h.hdrExt.tfi.val * 2 + bit h.hdrExt.fbi),
    UInt8.ofNat (h.hdrExt.bsn.val * 2 + bit h.hdrExt.e) ]

/-- `DlMacHeader` as RAW decodes it. -/
def decDlMacHeader (o : UInt8) : DlMacHeader where
  payloadType := .ofBits (o.toNat / 64)
  rrbp := .ofBits (o.toNat / 16 % 4)
  rrbpValid := bitOf o 3
  usf := Fin.ofNat 8 o.toNat

/-- `DlMacHdrDataExt` as RAW decodes it. -/
def decDlMacHdrDataExt (o1 o2 : UInt8) : DlMacHdrDataExt where
  pr := .ofBits (o1.toNat / 64)
  spare := bitOf o1 5
  tfi := Fin.ofNat 16 (o1.toNat / 2)
  fbi := bitOf o1 0
  bsn := Fin.ofNat 128 (o2.toNat / 2)
  e := bitOf o2 0

/-- `DlMacDataHeader` as RAW decodes it, with what is behind it. -/
def decDlMacDataHeader (buf : List UInt8) :
    Except Fault (DlMacDataHeader × List UInt8) :=
  match buf with
  | o0 :: o1 :: o2 :: rest =>
      .ok ({ macHdr := decDlMacHeader o0, hdrExt := decDlMacHdrDataExt o1 o2 },
        rest)
  | _ => .error .rawIncomplete

theorem decDlMacHeader_enc (h : DlMacHeader) :
    decDlMacHeader (encDlMacHeader h) = h := by
  obtain ⟨pt, rrbp, valid, usf⟩ := h
  have hpt := pt.toBits_lt
  have hrrbp := rrbp.toBits_lt
  have hvalid := bit_lt_two valid
  have husf := usf.isLt
  have hval : (UInt8.ofNat (pt.toBits * 64 + rrbp.toBits * 16 + bit valid * 8
      + usf.val)).toNat
      = pt.toBits * 64 + rrbp.toBits * 16 + bit valid * 8 + usf.val :=
    toNat_octet (by omega)
  have f0 : (pt.toBits * 64 + rrbp.toBits * 16 + bit valid * 8 + usf.val) / 64
      = pt.toBits := by omega
  have f1 : (pt.toBits * 64 + rrbp.toBits * 16 + bit valid * 8 + usf.val) / 16
      % 4 = rrbp.toBits := by omega
  have f2 : (pt.toBits * 64 + rrbp.toBits * 16 + bit valid * 8 + usf.val)
      / 2 ^ 3 % 2 = bit valid := by omega
  have f3 : Fin.ofNat 8
      (pt.toBits * 64 + rrbp.toBits * 16 + bit valid * 8 + usf.val) = usf :=
    Fin.ext (show _ % 8 = usf.val by omega)
  show DlMacHeader.mk (.ofBits ((UInt8.ofNat _).toNat / 64))
    (.ofBits ((UInt8.ofNat _).toNat / 16 % 4))
    (decide ((UInt8.ofNat _).toNat / 2 ^ 3 % 2 = 1))
    (Fin.ofNat 8 (UInt8.ofNat _).toNat) = _
  rw [hval, f0, f1, f2, f3, pt.ofBits_toBits, rrbp.ofBits_toBits,
      decide_bit_eq_one]

/-- **HEADER ROUND TRIP.** -/
theorem decDlMacDataHeader_enc (h : DlMacDataHeader) (rest : List UInt8) :
    decDlMacDataHeader (encDlMacDataHeader h ++ rest) = .ok (h, rest) := by
  obtain ⟨mh, ⟨pr, sp, tfi, fbi, bsn, e⟩⟩ := h
  have hpr := pr.toBits_lt
  have hsp := bit_lt_two sp
  have htfi := tfi.isLt
  have hfbi := bit_lt_two fbi
  have hbsn := bsn.isLt
  have he := bit_lt_two e
  have v1 : (UInt8.ofNat (pr.toBits * 64 + bit sp * 32 + tfi.val * 2
      + bit fbi)).toNat = pr.toBits * 64 + bit sp * 32 + tfi.val * 2 + bit fbi :=
    toNat_octet (by omega)
  have v2 : (UInt8.ofNat (bsn.val * 2 + bit e)).toNat = bsn.val * 2 + bit e :=
    toNat_octet (by omega)
  have f0 : (pr.toBits * 64 + bit sp * 32 + tfi.val * 2 + bit fbi) / 64
      = pr.toBits := by omega
  have f1 : (pr.toBits * 64 + bit sp * 32 + tfi.val * 2 + bit fbi) / 2 ^ 5 % 2
      = bit sp := by omega
  have f2 : Fin.ofNat 16
      ((pr.toBits * 64 + bit sp * 32 + tfi.val * 2 + bit fbi) / 2) = tfi :=
    Fin.ext (show _ % 16 = tfi.val by omega)
  have f3 : (pr.toBits * 64 + bit sp * 32 + tfi.val * 2 + bit fbi) / 2 ^ 0 % 2
      = bit fbi := by omega
  have f4 : Fin.ofNat 128 ((bsn.val * 2 + bit e) / 2) = bsn :=
    Fin.ext (show _ % 128 = bsn.val by omega)
  have f5 : (bsn.val * 2 + bit e) / 2 ^ 0 % 2 = bit e := by omega
  show Except.ok (DlMacDataHeader.mk (decDlMacHeader (encDlMacHeader mh))
    (DlMacHdrDataExt.mk _ (decide _) _ (decide _) _ (decide _)), rest) = _
  rw [decDlMacHeader_enc, v1, v2, f0, f1, f2, f3, f4, f5, pr.ofBits_toBits]
  simp only [decide_bit_eq_one]

-- ── Data block ───────────────────────────────────────────────────────────────

/-- `RlcmacDlDataBlock` -/
structure RlcmacDlDataBlock where
  cs : CodingScheme
  macHdr : DlMacDataHeader
  /-- `none`: the field is unbound. -/
  blocks : Option (List LlcBlock)
  deriving DecidableEq, Repr

/-- The payload of each header.  A first LI of 0 says that the LLC PDU would
    fit, were it not for the length indicator octet. -/
def dlSlicePayloads : List LlcBlockHdr → List UInt8 → List LlcBlock
  | [], _ => []
  | h :: hs, buf =>
      let length := if h.lengthInd = 0 then buf.length else h.lengthInd
      let length := min length buf.length
      ⟨some h, buf.take length⟩ :: slicePayloads hs (buf.drop length)

/-- `dec__RlcmacDlDataBlock` -/
def decRlcmacDlDataBlock (stream : List UInt8) :
    Except Fault RlcmacDlDataBlock := do
  let (macHdr, buf) ← decDlMacDataHeader stream
  let (hdrs, buf) ← decExtension macHdr.hdrExt.e buf
  .ok {
    cs := payloadLen2CodingScheme stream.length
    macHdr := macHdr
    blocks := some (if macHdr.hdrExt.e then [⟨none, buf⟩]
      else dlSlicePayloads hdrs buf) }

/-- `OPTIONAL::is_bound()`: an omitted value is bound, too. -/
def isBound {α : Type} : Option α → Bool
  | none => true
  | some _ => true

/-- A single block whose header is not bound. -/
def singleUnbound : List LlcBlock → Bool
  | [b] => !isBound b.hdr
  | _ => false

/-- E of the MAC header, based on the blocks that follow. -/
def dlHdrE : Option (List LlcBlock) → Bool
  | none => true
  | some bs => singleUnbound bs

/-- `hdr()()` makes an omitted header present, with no field bound but E. -/
def encDlLlcBlockHdr (e : Bool) : Option LlcBlockHdr → Except Fault (List UInt8)
  | none => .error .unbound
  | some h => encLlcBlockHdr { h with e := e }

/-- The LI octets, E fixed up: set in the last one only. -/
def encDlLlcHdrs : List LlcBlock → Except Fault (List UInt8)
  | [] => .ok []
  | b :: bs => do
      let o ← encDlLlcBlockHdr bs.isEmpty b.hdr
      let os ← encDlLlcHdrs bs
      .ok (o ++ os)

/-- The extension octets, if there are any. -/
def encDlExtension : Option (List LlcBlock) → Except Fault (List UInt8)
  | none => .ok []
  | some bs => if singleUnbound bs then .ok [] else encDlLlcHdrs bs

/-- The header, with the `E` that the encoder sets. -/
def fixDlMacDataHeader (x : RlcmacDlDataBlock) : DlMacDataHeader :=
  { x.macHdr with hdrExt := { x.macHdr.hdrExt with e := dlHdrE x.blocks } }

/-- `enc__RlcmacDlDataBlock` -/
def encRlcmacDlDataBlock (x : RlcmacDlDataBlock) :
    Except Fault (List UInt8) := do
  let ext ← encDlExtension x.blocks
  .ok (encodeTrailingPaddingSpb
    (encDlMacDataHeader (fixDlMacDataHeader x) ++ (ext ++ llcPayloads x.blocks))
    x.cs)

-- ── Extension octets and payloads ────────────────────────────────────────────

theorem singleUnbound_eq_false (bs : List LlcBlock) :
    singleUnbound bs = false := by
  cases bs with
  | nil => rfl
  | cons b bs =>
      cases bs with
      | nil =>
          obtain ⟨hdr, p⟩ := b
          cases hdr <;> rfl
      | cons c cs => rfl

/-- E of the MAC header is cleared, whatever blocks there are. -/
theorem dlHdrE_some (bs : List LlcBlock) : dlHdrE (some bs) = false :=
  singleUnbound_eq_false bs

theorem encDlExtension_some (bs : List LlcBlock) :
    encDlExtension (some bs) = encDlLlcHdrs bs := by
  rw [encDlExtension, singleUnbound_eq_false]
  rfl

/-- Where E is already right, the encoder writes the headers as they are. -/
theorem encDlLlcHdrs_eq : ∀ {bs : List LlcBlock},
    (∀ b ∈ bs, b.hdr.isSome = true) →
    (∀ pre b post h, bs = pre ++ b :: post → b.hdr = some h →
      (h.e = true ↔ post = [])) →
    encDlLlcHdrs bs = encLlcHdrs bs := by
  intro bs
  induction bs with
  | nil => intro _ _; rfl
  | cons b bs ih =>
      intro hsome he
      have hih := ih (fun c hc => hsome c (List.mem_cons_of_mem _ hc))
        (fun pre c post h hsplit =>
          he (b :: pre) c post h (congrArg (b :: ·) hsplit))
      have hb := hsome b List.mem_cons_self
      cases hh : b.hdr with
      | none =>
          rw [hh] at hb
          exact nomatch hb
      | some h =>
          have heq : h.e = bs.isEmpty := by
            rw [Bool.eq_iff_iff, he [] b bs h rfl hh, List.isEmpty_iff]
          rw [encDlLlcHdrs, encLlcHdrs, hih, hh, ← heq]
          rfl

/-- A header that is missing stops the encoder. -/
theorem encDlLlcHdrs_missing : ∀ {bs : List LlcBlock} {o : List UInt8},
    encDlLlcHdrs bs = .ok o → ∀ b ∈ bs, b.hdr.isSome = true := by
  intro bs
  induction bs with
  | nil => intro o _ b hmem; exact nomatch hmem
  | cons c cs ih =>
      intro o h b hmem
      obtain ⟨o1, h1, h⟩ := bind_ok (show Except.bind _ _ = _ from h)
      obtain ⟨os, h2, -⟩ := bind_ok (show Except.bind _ _ = _ from h)
      rcases List.mem_cons.mp hmem with rfl | hmem'
      · cases hb : b.hdr with
        | none =>
            rw [hb] at h1
            exact nomatch h1
        | some h => rfl
      · exact ih h2 b hmem'

theorem Headed.e_iff : ∀ {bs : List LlcBlock}, Headed bs →
    ∀ pre b post h, bs = pre ++ b :: post → b.hdr = some h →
      (h.e = true ↔ post = []) := by
  intro bs
  induction bs with
  | nil =>
      intro _ pre b post h hsplit _
      exact absurd hsplit.symm
        (List.append_ne_nil_of_right_ne_nil _ (List.cons_ne_nil _ _))
  | cons c cs ih =>
      intro hh pre b post h hsplit hb
      obtain ⟨⟨h', hc, -, he⟩, hrest⟩ := hh
      cases pre with
      | nil =>
          obtain ⟨rfl, rfl⟩ := List.cons.inj hsplit
          rw [hc] at hb
          rw [← Option.some.inj hb]
          exact he
      | cons p pre =>
          exact ih hrest pre b post h (List.cons.inj hsplit).2 hb

/-- The first length indicator is not the singular value 0. -/
def FirstLiPos (bs : List LlcBlock) : Prop :=
  ∀ b h, bs.head? = some b → b.hdr = some h → h.lengthInd ≠ 0

/-- Behind a first length indicator that is not 0, the payloads are cut as in
    the uplink. -/
theorem dlSlicePayloads_eq {h : LlcBlockHdr} (hli : h.lengthInd ≠ 0)
    (hs : List LlcBlockHdr) (buf : List UInt8) :
    dlSlicePayloads (h :: hs) buf = slicePayloads (h :: hs) buf := by
  simp only [dlSlicePayloads, slicePayloads]
  rw [if_neg hli]

theorem dlSlicePayloads_headed {bs : List LlcBlock} (hh : Headed bs)
    (hpos : FirstLiPos bs) (rest : List UInt8) :
    dlSlicePayloads (bs.flatMap LlcBlock.headers)
      (bs.flatMap LlcBlock.payload ++ rest) = bs := by
  have hslice := slicePayloads_headed hh rest
  cases bs with
  | nil => rfl
  | cons b bs =>
      obtain ⟨⟨h, hb, -, -⟩, -⟩ := hh
      have hhead : LlcBlock.headers b = [h] := by rw [LlcBlock.headers, hb]; rfl
      rw [List.flatMap_cons, hhead] at hslice ⊢
      exact (dlSlicePayloads_eq (hpos b h rfl hb) _ _).trans hslice

theorem dlSlicePayloads_length (hs : List LlcBlockHdr) (buf : List UInt8) :
    (dlSlicePayloads hs buf).length = hs.length := by
  cases hs with
  | nil => rfl
  | cons h hs => exact congrArg (· + 1) (slicePayloads_length _ _)

-- ── The round trip ───────────────────────────────────────────────────────────

/-- A list of LLC segments that agrees with its length indicators and M/E
    bits.  A first LI of 0 is singular: its segment fills the block. -/
inductive DlConsistent (cs : CodingScheme) : List LlcBlock → Prop where
  | listed {bs : List LlcBlock} : Consistent bs → FirstLiPos bs →
      DlConsistent cs bs
  | singular {h : LlcBlockHdr} {payload : List UInt8} : h.lengthInd = 0 →
      h.e = true →
      3 + 1 + payload.length = fRlcmacCsMcs2blockLenNoSpareBits cs →
      DlConsistent cs [⟨some h, payload⟩]

/-- E of the MAC header agrees with the list: set iff a single segment without
    header follows. -/
def HdrEAgrees (x : RlcmacDlDataBlock) (bs : List LlcBlock) : Prop :=
  x.macHdr.hdrExt.e = true ↔ ∃ t, bs = [t] ∧ t.hdr = none

/-- The octets before padding fit the coding scheme. -/
def DlFits (x : RlcmacDlDataBlock) : Prop :=
  3 + ((x.blocks.getD []).flatMap LlcBlock.headers).length
    + (llcPayloads x.blocks).length ≤ fRlcmacCsMcs2blockLenNoSpareBits x.cs

/-- The payloads of the segments, in order. -/
def dlSegments (x : RlcmacDlDataBlock) : List (List UInt8) :=
  (x.blocks.getD []).map LlcBlock.payload

/-- What encoding and decoding is to preserve. -/
def DlRoundTrips (x : RlcmacDlDataBlock) : Prop :=
  ∃ o y, encRlcmacDlDataBlock x = .ok o ∧ decRlcmacDlDataBlock o = .ok y
    ∧ y.macHdr = x.macHdr ∧ dlSegments y = dlSegments x

/-- The encoder for data that fit: header, extension octets, payloads, padding
    up to the length of the radio block. -/
theorem dlEnc_of_parts {x : RlcmacDlDataBlock} {ext : List UInt8}
    (hext : encDlExtension x.blocks = .ok ext)
    (hlen : ext.length
      ≤ ((x.blocks.getD []).flatMap LlcBlock.headers).length)
    (hfit : DlFits x) :
    ∃ pad, encRlcmacDlDataBlock x = .ok
        (encDlMacDataHeader (fixDlMacDataHeader x)
          ++ (ext ++ (llcPayloads x.blocks ++ pad)))
      ∧ (encDlMacDataHeader (fixDlMacDataHeader x)
          ++ (ext ++ (llcPayloads x.blocks ++ pad))).length
        = fRlcmacCsMcs2blockLen x.cs := by
  have hle : (encDlMacDataHeader (fixDlMacDataHeader x)
      ++ (ext ++ llcPayloads x.blocks)).length
      ≤ fRlcmacCsMcs2blockLenNoSpareBits x.cs := by
    have hhdr : (encDlMacDataHeader (fixDlMacDataHeader x)).length = 3 := rfl
    rw [DlFits] at hfit
    simp only [List.length_append, hhdr]
    omega
  obtain ⟨pad, hpad, -, hpadLen⟩ := encodeTrailingPaddingSpb_fits hle
  simp only [List.append_assoc] at hpad hpadLen
  refine ⟨pad, ?_, hpadLen⟩
  rw [encRlcmacDlDataBlock, hext, ok_bind]
  exact congrArg Except.ok hpad

/-- The decoder behind the extension octets, E clear in the MAC header. -/
theorem dlDec_of_parts {hdr : DlMacDataHeader} {hdrs : List LlcBlockHdr}
    {ext rest : List UInt8} (he : hdr.hdrExt.e = false)
    (hext : decLlcHdrs (ext ++ rest) = .ok (hdrs, rest)) :
    decRlcmacDlDataBlock (encDlMacDataHeader hdr ++ (ext ++ rest)) = .ok {
      cs := payloadLen2CodingScheme
        (encDlMacDataHeader hdr ++ (ext ++ rest)).length
      macHdr := hdr
      blocks := some (dlSlicePayloads hdrs rest) } := by
  rw [decRlcmacDlDataBlock, decDlMacDataHeader_enc, ok_bind]
  simp only [he, decExtension]
  rw [if_neg Bool.false_ne_true, hext, ok_bind]
  rfl

/-- Nothing fits a length indicator's six bits only by being cut. -/
theorem dlShort_of_fits {x : RlcmacDlDataBlock} {bs : List LlcBlock}
    (hb : x.blocks = some bs) (hcs : x.cs.IsGprs) (hfit : DlFits x) :
    Short bs := by
  intro b hmem
  have hlt := blockLenNoSpareBits_lt hcs
  have hle : b.payload.length ≤ (bs.flatMap LlcBlock.payload).length := by
    obtain ⟨pre, post, rfl⟩ := List.append_of_mem hmem
    simp only [List.flatMap_append, List.flatMap_cons, List.length_append]
    omega
  have hpay : llcPayloads x.blocks = bs.flatMap LlcBlock.payload := by
    rw [llcPayloads, hb]
    rfl
  rw [DlFits, hpay] at hfit
  omega

/-- E of the MAC header is right already where every segment has a header. -/
theorem fixDlMacDataHeader_eq {x : RlcmacDlDataBlock} {bs : List LlcBlock}
    (hb : x.blocks = some bs) (he : HdrEAgrees x bs)
    (hall : ∀ b ∈ bs, b.hdr.isSome = true) : fixDlMacDataHeader x = x.macHdr := by
  have hclear : x.macHdr.hdrExt.e = false := by
    rw [← Bool.not_eq_true]
    intro h
    obtain ⟨t, rfl, ht⟩ := he.mp h
    have hsome := hall t List.mem_cons_self
    rw [ht] at hsome
    exact nomatch hsome
  have hsame : dlHdrE x.blocks = x.macHdr.hdrExt.e := by
    rw [hb, dlHdrE_some, hclear]
  rw [fixDlMacDataHeader, hsame]

/-- **HEADED SEGMENTS ROUND TRIP.** -/
theorem dlRoundTrips_headed {x : RlcmacDlDataBlock} {bs : List LlcBlock}
    (hb : x.blocks = some bs) (hne : bs ≠ []) (hh : Headed bs)
    (hpos : FirstLiPos bs) (he : HdrEAgrees x bs) (hcs : x.cs.IsGprs)
    (hfit : DlFits x) : DlRoundTrips x := by
  have hs : Short bs := dlShort_of_fits hb hcs hfit
  have hext : encDlExtension x.blocks
      = .ok (hdrOctets (bs.flatMap LlcBlock.headers)) := by
    rw [hb, encDlExtension_some, encDlLlcHdrs_eq (headed_isSome hh) hh.e_iff,
        encLlcHdrs_headed hh hs]
  have hlen : (hdrOctets (bs.flatMap LlcBlock.headers)).length
      ≤ ((x.blocks.getD []).flatMap LlcBlock.headers).length := by
    rw [hb, hdrOctets, List.length_map]
    exact Nat.le_refl _
  obtain ⟨pad, henc, -⟩ := dlEnc_of_parts hext hlen hfit
  have hpay : llcPayloads x.blocks = bs.flatMap LlcBlock.payload := by
    rw [llcPayloads, hb]
    rfl
  have hclear : (fixDlMacDataHeader x).hdrExt.e = false := by
    show dlHdrE x.blocks = false
    rw [hb, dlHdrE_some]
  have hdec := dlDec_of_parts hclear
    (decLlcHdrs_enc hne hh hs (llcPayloads x.blocks ++ pad))
  rw [hpay, dlSlicePayloads_headed hh hpos] at hdec
  rw [hpay] at henc
  refine ⟨_, _, henc, hdec, fixDlMacDataHeader_eq hb he (headed_isSome hh), ?_⟩
  rw [dlSegments, dlSegments, hb]

/-- **A SINGULAR SEGMENT GETS ALL THAT IS LEFT**, the spare octet of the
    coding scheme included. -/
theorem dlDec_enc_singular {x : RlcmacDlDataBlock} {h : LlcBlockHdr}
    {payload : List UInt8} (hb : x.blocks = some [⟨some h, payload⟩])
    (hli : h.lengthInd = 0) (hhe : h.e = true)
    (hfill : 3 + 1 + payload.length = fRlcmacCsMcs2blockLenNoSpareBits x.cs) :
    ∃ o y pad, encRlcmacDlDataBlock x = .ok o ∧ decRlcmacDlDataBlock o = .ok y
      ∧ y.macHdr = fixDlMacDataHeader x ∧ dlSegments y = [payload ++ pad]
      ∧ 3 + 1 + (payload ++ pad).length = fRlcmacCsMcs2blockLen x.cs := by
  have hlt : h.lengthInd < 64 := by
    rw [hli]
    exact Nat.zero_lt_succ _
  have hfix : { h with e := true } = h := by
    rw [← hhe]
  have hpay : llcPayloads x.blocks = payload := by
    rw [llcPayloads, hb]
    exact List.append_nil _
  have hext : encDlExtension x.blocks = .ok (hdrOctets [h]) := by
    rw [hb, encDlExtension_some, encDlLlcHdrs]
    show (encLlcBlockHdr { h with e := true }).bind _ = _
    rw [hfix, encLlcBlockHdr, if_pos hlt]
    rfl
  have hfit : DlFits x := by
    rw [DlFits, hpay, hb]
    exact Nat.le_of_eq hfill
  have hlen : (hdrOctets [h]).length
      ≤ ((x.blocks.getD []).flatMap LlcBlock.headers).length := by
    rw [hb]
    exact Nat.le_refl 1
  obtain ⟨pad, henc, hblk⟩ := dlEnc_of_parts hext hlen hfit
  have hclear : (fixDlMacDataHeader x).hdrExt.e = false := by
    show dlHdrE x.blocks = false
    rw [hb, dlHdrE_some]
  have hread : decLlcHdrs (hdrOctets [h] ++ (llcPayloads x.blocks ++ pad))
      = .ok ([h], llcPayloads x.blocks ++ pad) := by
    show decLlcHdrs (UInt8.ofNat (h.lengthInd * 4 + bit h.more * 2 + bit h.e)
      :: (llcPayloads x.blocks ++ pad)) = _
    rw [decLlcHdrs, decLlcBlockHdr_octet hlt, if_pos hhe]
  have hdec := dlDec_of_parts hclear hread
  refine ⟨_, _, pad, henc, hdec, rfl, ?_, ?_⟩
  · have hmin : min (if h.lengthInd = 0 then (payload ++ pad).length
        else h.lengthInd) (payload ++ pad).length = (payload ++ pad).length := by
      rw [if_pos hli, Nat.min_self]
    show (dlSlicePayloads [h] (llcPayloads x.blocks ++ pad)).map _ = _
    rw [hpay, dlSlicePayloads, hmin, List.take_length]
    rfl
  · rw [hpay] at hblk
    have hblk' : 3 + (1 + (payload ++ pad).length)
        = fRlcmacCsMcs2blockLen x.cs := by
      rw [← hblk]
      simp only [List.length_append]
      rfl
    rw [← hblk']
    exact Nat.add_assoc 3 1 _

/-- The decoder never reports an empty list of segments. -/
theorem dlDec_segments_ne_nil {o : List UInt8} {y : RlcmacDlDataBlock}
    (h : decRlcmacDlDataBlock o = .ok y) : dlSegments y ≠ [] := by
  obtain ⟨⟨hdr, buf⟩, -, h⟩ := bind_ok (show Except.bind _ _ = _ from h)
  obtain ⟨⟨hdrs, buf'⟩, hext, h⟩ := bind_ok (show Except.bind _ _ = _ from h)
  have hext' : decExtension hdr.hdrExt.e buf = .ok (hdrs, buf') := hext
  have hy : y.blocks = some (if hdr.hdrExt.e then [⟨none, buf'⟩]
      else dlSlicePayloads hdrs buf') := by
    rw [← Except.ok.inj h]
  rw [dlSegments, hy]
  intro hnil
  have hzero : (if hdr.hdrExt.e then [⟨none, buf'⟩]
      else dlSlicePayloads hdrs buf').length = 0 :=
    List.length_eq_zero_iff.mpr (List.map_eq_nil_iff.mp hnil)
  cases he : hdr.hdrExt.e with
  | true =>
      rw [he] at hzero
      exact nomatch hzero
  | false =>
      rw [he] at hzero hext'
      rw [if_neg Bool.false_ne_true, dlSlicePayloads_length] at hzero
      exact decLlcHdrs_ne_nil hext' (List.length_eq_zero_iff.mp hzero)

/-- The encoder returns only where every segment has a header. -/
theorem dlEnc_ok {x : RlcmacDlDataBlock} {bs : List LlcBlock} {o : List UInt8}
    (hb : x.blocks = some bs) (h : encRlcmacDlDataBlock x = .ok o) :
    ∀ b ∈ bs, b.hdr.isSome = true := by
  obtain ⟨ext, hext, -⟩ := bind_ok (show Except.bind _ _ = _ from h)
  rw [hb, encDlExtension_some] at hext
  exact encDlLlcHdrs_missing hext

/-- **WHEN THE DOWNLINK DATA BLOCK ROUND TRIPS**: a consistent block that fits
    comes back iff it has a segment, every segment has a header, and either
    the first length indicator is not the singular 0 or the coding scheme has
    no spare octet. -/
theorem dlRoundTrips_iff (x : RlcmacDlDataBlock) {bs : List LlcBlock}
    (hb : x.blocks = some bs) (hc : DlConsistent x.cs bs)
    (he : HdrEAgrees x bs) (hcs : x.cs.IsGprs) (hfit : DlFits x) :
    DlRoundTrips x ↔
      bs ≠ [] ∧ (∀ b ∈ bs, b.hdr.isSome = true)
        ∧ (FirstLiPos bs ∨ x.cs = .cs1) := by
  have hseg : dlSegments x = bs.map LlcBlock.payload := by
    rw [dlSegments, hb]
    rfl
  cases hc with
  | listed hcons hpos =>
      constructor
      · rintro ⟨o, y, henc, hdec, -, hsame⟩
        refine ⟨?_, dlEnc_ok hb henc, Or.inl hpos⟩
        rintro rfl
        exact dlDec_segments_ne_nil hdec (hsame.trans hseg)
      · rintro ⟨hne, hall, -⟩
        cases hcons with
        | headed hh => exact dlRoundTrips_headed hb hne hh hpos he hcs hfit
        | @tail ds t _ _ ht =>
            have hsome := hall t (List.mem_append_right _ List.mem_cons_self)
            rw [ht] at hsome
            exact nomatch hsome
  | @singular h payload hli hhe hfill =>
      obtain ⟨o', y', pad, henc', hdec', hhdr, hpay, hlen⟩ :=
        dlDec_enc_singular hb hli hhe hfill
      rw [List.length_append] at hlen
      have hall : ∀ b ∈ [LlcBlock.mk (some h) payload], b.hdr.isSome = true := by
        intro b hmem
        rw [List.mem_singleton.mp hmem]
        rfl
      constructor
      · rintro ⟨o, y, henc, hdec, -, hsame⟩
        refine ⟨List.cons_ne_nil _ _, hall, Or.inr ?_⟩
        rw [Except.ok.inj (henc.symm.trans henc')] at hdec
        rw [Except.ok.inj (hdec.symm.trans hdec'), hpay, hseg] at hsame
        have hnil : payload ++ pad = payload := (List.cons.inj hsame).1
        have hzero : pad = [] := List.append_right_eq_self.mp hnil
        rw [hzero] at hlen
        -- the only block length that has no spare octet
        cases hx : x.cs with
        | cs1 => rfl
        | cs2 => rw [hx] at hlen hfill; exact nomatch hfill.symm.trans hlen
        | cs3 => rw [hx] at hlen hfill; exact nomatch hfill.symm.trans hlen
        | cs4 => rw [hx] at hlen hfill; exact nomatch hfill.symm.trans hlen
        | mcs0 | mcs1 | mcs2 | mcs3 | mcs4 | mcs5 | mcs6 | mcs7 | mcs8
        | mcs9 => rw [hx] at hcs; exact hcs.elim
      · rintro ⟨-, -, hor⟩
        have hcs1 : x.cs = .cs1 := by
          rcases hor with hpos | hcs1
          · exact absurd hli (hpos _ h rfl rfl)
          · exact hcs1
        rw [hcs1] at hlen hfill
        have hzero : pad = [] := by
          have h23 : 3 + 1 + payload.length = 23 := hfill
          have h23' : 3 + 1 + (payload.length + pad.length) = 23 := hlen
          exact List.length_eq_zero_iff.mp (by omega)
        refine ⟨o', y', henc', hdec', ?_, ?_⟩
        · rw [hhdr, fixDlMacDataHeader_eq hb he hall]
        · rw [hpay, hzero, List.append_nil, hseg]
          rfl

/-- A CS-1 downlink block with the LLC blocks given. -/
def dlCs1Block (bs : List LlcBlock) : RlcmacDlDataBlock where
  cs := .cs1
  macHdr := {
    macHdr := {
      payloadType := .rlcData, rrbp := .nplus13, rrbpValid := true, usf := 7 }
    hdrExt := {
      pr := .from0to3dB, spare := false, tfi := 3, fbi := false, bsn := 5
      e := false } }
  blocks := some bs

theorem dlRoundTrips_iff_twoHeaded : DlRoundTrips (dlCs1Block twoHeaded) :=
  (dlRoundTrips_iff (dlCs1Block twoHeaded) rfl
    (.listed (.headed twoHeaded_headed)
      (fun b h hb hh => by
        rw [← Option.some.inj hb] at hh
        rw [← Option.some.inj hh]
        decide))
    ⟨fun h => (nomatch h), fun ⟨_, h, _⟩ => (nomatch h)⟩ trivial
    (show _ ≤ 23 by decide)).mpr ⟨by decide, by decide, Or.inr rfl⟩

/-- **A SEGMENT WITHOUT HEADER STOPS THE ENCODER**: the end of one PDU, M=1,
    and a second PDU that fills the block. -/
theorem headedThenTail_not_encoded :
    DlConsistent .cs1 headedThenTail
      ∧ HdrEAgrees (dlCs1Block headedThenTail) headedThenTail
      ∧ DlFits (dlCs1Block headedThenTail)
      ∧ encRlcmacDlDataBlock (dlCs1Block headedThenTail) = .error .unbound
      ∧ ¬ DlRoundTrips (dlCs1Block headedThenTail) := by
  have henc : encRlcmacDlDataBlock (dlCs1Block headedThenTail)
      = .error .unbound := rfl
  refine ⟨.listed headedThenTail_consistent ?_, ?_, (show _ ≤ 23 by decide),
    henc, ?_⟩
  · intro b h hb hh
    rw [← Option.some.inj hb] at hh
    rw [← Option.some.inj hh]
    decide
  · exact ⟨fun h => (nomatch h), fun ⟨_, h, _⟩ => (nomatch h)⟩
  · rintro ⟨o, y, h, -⟩
    exact nomatch henc.symm.trans h

end OsmoRlcmac
