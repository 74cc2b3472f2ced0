import OsmoTtcn.BitCopyProofs
import OsmoTtcn.LiSegmentsProofs
import OsmoTtcn.RlcmacUlProofs

/-! # EGPRS uplink RLC data blocks

    The RLC data part of an EGPRS block does not start on an octet boundary.
    The encoder builds it aligned and copies it behind the header with a bit
    shift; the decoder shifts it back.  Both loops run over raw memory: the
    encoder's reads past the end of its source, and the bits it finds there
    end up in the last octet, above the data.

    Only header type 3 (MCS-1..4) can be decoded.  Its fields are read back but
    for SPB, whose two bits are written in one order and read in the other
    (`decEgprsUlMacDataHeaderType3_enc`).  What the shift loops store is said by
    its bits: `cloneUnaligned_bit` and `cloneAligned_bit`. -/

namespace OsmoRlcmac

open OsmoTitan WireOctet BitCopy LiSegments

-- ── Types ────────────────────────────────────────────────────────────────────

/-- `EgprsHeaderType` -/
inductive EgprsHeaderType where
  | type1 | type2 | type3
  deriving DecidableEq, Repr

/-- TS 44.060 10.3a.4; the two bits of SPB are in the order of a bitstring. -/
structure EgprsUlMacDataHeader where
  headerType : EgprsHeaderType
  tfi : Fin 32
  countdown : Fin 16
  foiSi : Bool
  rRi : Bool
  bsn1 : Fin 2048
  /-- `none`: the field is unbound. -/
  bsn2Offset : Option (Fin 256)
  cps : Fin 16
  pfiInd : Bool
  rsb : Bool
  spb : Option (Bool × Bool)
  deriving DecidableEq, Repr

/-- `EgprsLlcBlockHdr` -/
structure EgprsLlcBlockHdr where
  lengthInd : Nat
  /-- 0 = another extension octet after LLC PDU, 1 = no more extension octets -/
  e : Bool
  deriving DecidableEq, Repr

/-- `EgprsLlcBlock` -/
structure EgprsLlcBlock where
  /-- Header is only present if LI field was present. -/
  hdr : Option EgprsLlcBlockHdr
  payload : List UInt8
  deriving DecidableEq, Repr

/-- TS 44.060 10.3a.2.1 -/
structure RlcmacUlEgprsDataBlock where
  mcs : CodingScheme
  macHdr : EgprsUlMacDataHeader
  tlliInd : Bool
  e : Bool
  tlli : Option GprsTlli
  pfi : Option RlcMacUlPfi
  /-- `none`: the field is unbound. -/
  blocks : Option (List EgprsLlcBlock)
  deriving DecidableEq, Repr

/-- `EgprsLlcBlockHdr` as RAW encodes it. -/
def encEgprsLlcBlockHdr (h : EgprsLlcBlockHdr) : Except Fault (List UInt8) :=
  if h.lengthInd < 128 then .ok [UInt8.ofNat (h.lengthInd * 2 + bit h.e)]
  else .error .rawOverflow

/-- `EgprsLlcBlockHdr` as RAW decodes it. -/
def decEgprsLlcBlockHdr (o : UInt8) : EgprsLlcBlockHdr where
  lengthInd := o.toNat / 2
  e := bitOf o 0

/-- A header comes back from its octet. -/
theorem decEgprsLlcBlockHdr_octet {h : EgprsLlcBlockHdr}
    (hlt : h.lengthInd < 128) :
    decEgprsLlcBlockHdr (UInt8.ofNat (h.lengthInd * 2 + bit h.e)) = h := by
  obtain ⟨li, e⟩ := h
  have hli : li < 128 := hlt
  have he := bit_lt_two e
  have hval : (UInt8.ofNat (li * 2 + bit e)).toNat = li * 2 + bit e :=
    toNat_octet (by omega)
  have h1 : (li * 2 + bit e) / 2 = li := by omega
  have h2 : (li * 2 + bit e) / 2 ^ 0 % 2 = bit e := by omega
  show EgprsLlcBlockHdr.mk _ (decide _) = ⟨li, e⟩
  rw [hval, h1, h2, decide_bit_eq_one]

/-- The extension octets and LLC segments of EGPRS. -/
def egprsLayout : Layout EgprsLlcBlockHdr EgprsLlcBlock where
  len := EgprsLlcBlockHdr.lengthInd
  last := EgprsLlcBlockHdr.e
  dec := decEgprsLlcBlockHdr
  hdr := EgprsLlcBlock.hdr
  payload := EgprsLlcBlock.payload
  seg h payload := ⟨some h, payload⟩
  seg_payload := by
    rintro ⟨bh, bp⟩ h hb
    exact congrArg (EgprsLlcBlock.mk · bp) hb.symm

-- ── Coding and puncturing schemes ────────────────────────────────────────────

/-- The coding and puncturing scheme indicator of each header type. -/
def egprsHeaderCodingPuncturingSchemeToMcs : EgprsHeaderType → List CodingScheme
  | .type1 => [
      .mcs9, .mcs9, .mcs9, .mcs0, .mcs9, .mcs9, .mcs9, .mcs0,
      .mcs9, .mcs9, .mcs9, .mcs8, .mcs8, .mcs8, .mcs8, .mcs8,
      .mcs8, .mcs8, .mcs8, .mcs8, .mcs7, .mcs7, .mcs7, .mcs7,
      .mcs7, .mcs7, .mcs7, .mcs7, .mcs7, .mcs0, .mcs0, .mcs0]
  | .type2 => [.mcs6, .mcs6, .mcs6, .mcs6, .mcs5, .mcs5, .mcs5, .mcs5]
  | .type3 => [
      .mcs4, .mcs4, .mcs4, .mcs3, .mcs3, .mcs3, .mcs3, .mcs3,
      .mcs3, .mcs2, .mcs2, .mcs1, .mcs1, .mcs2, .mcs2, .mcs0]

/-- `f_rlcmac_cps_htype_to_mcs` -/
def fRlcmacCpsHtypeToMcs (cps : Nat) (htype : EgprsHeaderType) :
    Except Fault CodingScheme :=
  match (egprsHeaderCodingPuncturingSchemeToMcs htype)[cps]? with
  | some mcs => .ok mcs
  | none => .error .badIndex

/-- `CodingScheme2DataBlockLen` -/
def codingScheme2DataBlockLen : CodingScheme → Nat
  | .mcs0 => 0
  | .mcs1 => 22
  | .mcs2 => 28
  | .mcs3 => 37
  | .mcs4 => 44
  | .mcs5 => 56
  | .mcs6 => 74
  | .mcs7 => 56
  | .mcs8 => 68
  | .mcs9 => 74
  | _ => 22

/-- `RlcMacPriv`, as far as the encoder reads it. -/
structure RlcMacPriv where
  nCalls : Nat
  dataBlockBits : Nat
  dataBlockOffsets : Nat × Nat

/-- The number of RLC data blocks and their size and offsets, in bits. -/
def setupRlcMacPriv (mcs : CodingScheme) (hdrtype : EgprsHeaderType)
    (isUplink : Bool) : RlcMacPriv :=
  let dbl := codingScheme2DataBlockLen mcs
  let bits := dbl * 8 + 2
  match hdrtype with
  | .type1 =>
      let dbo := if isUplink then 5 * 8 + 6 else 5 * 8
      ⟨3, bits, (dbo, dbo + dbl * 8 + 2)⟩
  | .type2 => ⟨2, bits, (if isUplink then 4 * 8 + 5 else 3 * 8 + 4, 0)⟩
  | .type3 => ⟨2, bits, (3 * 8 + 7, 0)⟩

-- ── Bit shifts ───────────────────────────────────────────────────────────────

/-- Bit-shift `src`, from `offsetBits` on, down to an octet boundary, lsb
    first. -/
def cloneAlignedBufferLsbf (offsetBits lengthBytes : Nat) (src buffer : Mem) :
    Mem :=
  let hdrBytes := offsetBits / 8
  let extraBits := offsetBits % 8
  -- it is aligned already
  if extraBits = 0 then memcpy buffer 0 (fun i => src (hdrBytes + i)) lengthBytes
  else
    (joinLoop (8 - extraBits) (fun i => src (hdrBytes + 1 + i)) lengthBytes 0 0
      (src hdrBytes) buffer).1

/-- Bit-shift `src` up by `offsetBits`, lsb first, and store it to `buffer`.
    Without extra bits, the source is copied as the other way round. -/
def cloneUnalignedBufferLsbf (offsetBits lengthBytes : Nat) (src buffer : Mem) :
    Mem :=
  let hdrBytes := offsetBits / 8
  let extraBits := offsetBits % 8
  -- it is aligned already
  if extraBits = 0 then memcpy buffer 0 (fun i => src (hdrBytes + i)) lengthBytes
  else
    let up := UInt8.ofNat extraBits
    let down := UInt8.ofNat (8 - extraBits)
    let lastHdrC := buffer hdrBytes
    let (buf, lastC) := joinLoop extraBits src lengthBytes 0 hdrBytes
      (lastHdrC <<< down) buffer
    -- overwrite the lower extra bits
    let dst := hdrBytes + lengthBytes
    let buf := Function.update buf dst
      ((buf dst &&& (0xff <<< up)) ||| (lastC >>> down))
    -- copy back the first header and data octet
    let buf := Function.update buf hdrBytes (lastHdrC ||| (src 0 <<< down))
    Function.update buf (hdrBytes + 1)
      (buf (hdrBytes + 1) ||| ((src 0 >>> up) &&& (0xff >>> down)))

/-- Spare bits before TI and E in the first octet of an aligned data block. -/
def initialSpareBits : Nat := 6

/-- Obtain an aligned data block.  The octets it is taken from are not checked
    to be there. -/
def getEgprsDataBlock (orig : List UInt8) (offsetBits lengthBits : Nat) :
    Except Fault (List UInt8) :=
  let lengthBytes := (initialSpareBits + lengthBits + 7) / 8
  let offset := offsetBits - initialSpareBits
  let reach := offset / 8 + lengthBytes + if offset % 8 = 0 then 0 else 1
  if orig.length < reach then .error .overread
  else
    let buf := cloneAlignedBufferLsbf offset lengthBytes (memOf orig fun _ => 0)
      (fun _ => 0)
    -- clear spare bits and move block header bits to the right
    .ok (octetsAt (Function.update buf 0 (buf 0 >>> UInt8.ofNat initialSpareBits))
      lengthBytes)

/-- What the heap holds behind the aligned data block, and in the memory that
    the result is built in. -/
structure Heap where
  past : Mem
  fresh : Mem

/-- Put an aligned data block into the parent buffer. -/
def putEgprsDataBlock (heap : Heap) (aligned : List UInt8) (offsetBits : Nat)
    (dst : List UInt8) : List UInt8 :=
  let lengthBytes := dst.length + aligned.length
  octetsAt (cloneUnalignedBufferLsbf (offsetBits - initialSpareBits) lengthBytes
    (memOf aligned heap.past) (memOf dst heap.fresh)) lengthBytes

-- ── Encoder ──────────────────────────────────────────────────────────────────

/-- `bs2uint8`: the first bit is the highest. -/
def bs2uint8 (bs : List Bool) : Nat :=
  bs.foldl (fun res b => (res * 2 + bit b) % 256) 0

/-- The octets that all header types start with, and the low bits of the
    third. -/
def egprsUlHdrStart (h : EgprsUlMacDataHeader) (hi : Nat) : List UInt8 :=
  [ UInt8.ofNat (bs2uint8 [h.rRi] + bs2uint8 [h.foiSi] * 2 + h.countdown.val * 4
      + h.tfi.val % 4 * 64),
    UInt8.ofNat (h.tfi.val / 4 % 8 + h.bsn1.val % 32 * 8),
    UInt8.ofNat (h.bsn1.val / 32 % 64 + hi % 4 * 64) ]

/-- `enc__RlcmacUlEgprsDataHeader_type1` -/
def encRlcmacUlEgprsDataHeaderType1 (h : EgprsUlMacDataHeader) :
    Except Fault (List UInt8) :=
  match h.bsn2Offset with
  | none => .error .unbound
  | some bsn2 => .ok (egprsUlHdrStart h bsn2.val ++
      [ UInt8.ofNat (bsn2.val / 4),
        UInt8.ofNat (h.cps.val + bs2uint8 [h.rsb] * 32 + bit h.pfiInd * 64),
        0 ])

/-- `enc__RlcmacUlEgprsDataHeader_type2` -/
def encRlcmacUlEgprsDataHeaderType2 (h : EgprsUlMacDataHeader) : List UInt8 :=
  egprsUlHdrStart h h.cps.val ++
    [ UInt8.ofNat (h.cps.val / 4 % 2 + bs2uint8 [h.rsb] * 2 + bit h.pfiInd * 4),
      0 ]

/-- `enc__RlcmacUlEgprsDataHeader_type3` -/
def encRlcmacUlEgprsDataHeaderType3 (h : EgprsUlMacDataHeader) :
    Except Fault (List UInt8) :=
  match h.spb with
  | none => .error (.ttcnError
      "Using the value of an optional field containing omit.")
  | some spb => .ok (egprsUlHdrStart h h.cps.val ++
      [ UInt8.ofNat (h.cps.val / 4 % 4 + bs2uint8 [spb.1, spb.2] % 4 * 4
          + bs2uint8 [h.rsb] * 16 + bit h.pfiInd * 32) ])

/-- `enc__RlcmacUlEgprsDataHeader` -/
def encRlcmacUlEgprsDataHeader (h : EgprsUlMacDataHeader) :
    Except Fault (List UInt8) :=
  match h.headerType with
  | .type1 => encRlcmacUlEgprsDataHeaderType1 h
  | .type2 => .ok (encRlcmacUlEgprsDataHeaderType2 h)
  | .type3 => encRlcmacUlEgprsDataHeaderType3 h

/-- E: set for a single block that has no header. -/
def egprsUlE : Option (List EgprsLlcBlock) → Bool
  | some [b] => b.hdr.isNone
  | _ => false

/-- The headers of the blocks that have one. -/
def encEgprsLlcHdrs : List EgprsLlcBlock → Except Fault (List UInt8)
  | [] => .ok []
  | b :: bs => do
      let o ← match b.hdr with
        | none => .ok []
        | some h => encEgprsLlcBlockHdr h
      let os ← encEgprsLlcHdrs bs
      .ok (o ++ os)

/-- The LI octets, if any.  Unbound blocks get one: E=1, LEN=0. -/
def encEgprsExtension (e : Bool) (blocks : Option (List EgprsLlcBlock)) :
    Except Fault (List UInt8) :=
  if e then .ok []
  else
    match blocks with
    | none => .ok [0x01]
    | some bs => encEgprsLlcHdrs bs

/-- The TLLI is encoded in little endian for EGPRS. -/
def encEgprsTlli : Option GprsTlli → List UInt8
  | none => []
  | some t => t.octets.reverse

/-- The payloads, one after the other. -/
def egprsLlcPayloads (blocks : Option (List EgprsLlcBlock)) : List UInt8 :=
  (blocks.getD []).flatMap EgprsLlcBlock.payload

/-- The header with its presence indication recomputed. -/
def fixEgprsUlMacDataHeader (x : RlcmacUlEgprsDataBlock) :
    EgprsUlMacDataHeader :=
  { x.macHdr with pfiInd := x.pfi.isSome }

/-- `enc__RlcmacUlEgprsDataBlock` -/
def encRlcmacUlEgprsDataBlock (heap : Heap) (x : RlcmacUlEgprsDataBlock) :
    Except Fault (List UInt8) := do
  let mcs ← fRlcmacCpsHtypeToMcs x.macHdr.cps.val x.macHdr.headerType
  let e := egprsUlE x.blocks
  let hdr ← encRlcmacUlEgprsDataHeader (fixEgprsUlMacDataHeader x)
  let ext ← encEgprsExtension e x.blocks
  let aligned := UInt8.ofNat (bit x.tlli.isSome * 2 + bit e)
    :: (ext ++ (encEgprsTlli x.tlli ++ (encPfi x.pfi
      ++ egprsLlcPayloads x.blocks)))
  let priv := setupRlcMacPriv mcs x.macHdr.headerType true
  .ok (encodeTrailingPaddingSpb
    (putEgprsDataBlock heap aligned priv.dataBlockOffsets.1 hdr) x.mcs)

-- ── Decoder ──────────────────────────────────────────────────────────────────

/-- `BITSTRING(2, &tmp)`: the first bit is the least significant one. -/
def bitstring2 (tmp : Nat) : Bool × Bool :=
  (decide (tmp % 2 = 1), decide (tmp / 2 % 2 = 1))

/-- `dec__EgprsUlMacDataHeader_type3` -/
def decEgprsUlMacDataHeaderType3 (stream : List UInt8) :
    Except Fault EgprsUlMacDataHeader :=
  match stream with
  | o0 :: o1 :: o2 :: o3 :: _ => .ok {
      headerType := .type3
      tfi := Fin.ofNat 32 (o1.toNat % 8 * 4 + o0.toNat / 64)
      countdown := Fin.ofNat 16 (o0.toNat / 4)
      foiSi := bitOf o0 1
      rRi := bitOf o0 0
      bsn1 := Fin.ofNat 2048 (o2.toNat % 64 * 32 + o1.toNat / 8)
      bsn2Offset := none
      cps := Fin.ofNat 16 (o3.toNat % 4 * 4 + o2.toNat / 64)
      pfiInd := bitOf o3 5
      rsb := bitOf o3 4
      spb := some (bitstring2 (o3.toNat / 4 % 4)) }
  | _ => .error .overread

/-- The decoders of header types 1 and 2 leave everything unbound, and the
    header type is asked for at once. -/
def decEgprsUlMacDataHeader (mcs : CodingScheme) (stream : List UInt8) :
    Except Fault EgprsUlMacDataHeader :=
  match mcs with
  | .mcs1 | .mcs2 | .mcs3 | .mcs4 => decEgprsUlMacDataHeaderType3 stream
  | _ => .error .unbound

/-- Optional extension octets, containing LI+E of LLC blocks. -/
def decEgprsExtension (e : Bool) (buf : List UInt8) :
    Except Fault (List EgprsLlcBlockHdr × List UInt8) :=
  if e then .ok ([], buf)
  else
    match egprsLayout.readHdrs buf with
    | some r => .ok r
    | none => .error .rawIncomplete

/-- The octet with TI and E, and what follows it. -/
def decTiE (buf : List UInt8) : Except Fault (Bool × Bool × List UInt8) :=
  match buf with
  | o :: rest => .ok (bitOf o 1, bitOf o 0, rest)
  | [] => .error .overread

/-- `dec__RlcmacUlEgprsDataBlock` -/
def decRlcmacUlEgprsDataBlock (stream : List UInt8) :
    Except Fault RlcmacUlEgprsDataBlock := do
  let mcs := payloadLen2CodingScheme stream.length
  let macHdr ← decEgprsUlMacDataHeader mcs stream
  let priv := setupRlcMacPriv mcs macHdr.headerType true
  let aligned ← getEgprsDataBlock stream priv.dataBlockOffsets.1
    priv.dataBlockBits
  let (tlliInd, e, buf) ← decTiE aligned
  let (hdrs, buf) ← decEgprsExtension e buf
  let (tlli, buf) ← decTlli tlliInd buf
  let (pfi, buf) ← decPfi macHdr.pfiInd buf
  .ok {
    mcs := mcs
    macHdr := macHdr
    tlliInd := tlliInd
    e := e
    tlli := tlli
    pfi := pfi
    blocks := some (if e then [⟨none, buf⟩] else egprsLayout.slices hdrs buf) }

-- ── The header of type 3 ─────────────────────────────────────────────────────

/-- The last header octet shares its top bit with the data block. -/
theorem toNat_or_top {o s : UInt8} (ho : o.toNat < 128) :
    (o ||| s <<< UInt8.ofNat 7).toNat = o.toNat + s.toNat % 2 * 128 := by
  have hshift : (s <<< UInt8.ofNat 7).toNat = (s.toNat % 2) <<< 7 := by
    have h7 : (UInt8.ofNat 7).toNat % 8 = 7 := rfl
    rw [UInt8.toNat_shiftLeft, h7, Nat.shiftLeft_eq, Nat.shiftLeft_eq]
    omega
  rw [UInt8.toNat_or, hshift, Nat.or_comm,
      ← Nat.shiftLeft_add_eq_or_of_lt (show o.toNat < 2 ^ 7 from ho),
      Nat.shiftLeft_eq]
  exact Nat.add_comm _ _

/-- SPB as the decoder reads it: the other way round. -/
def swapSpb (spb : Bool × Bool) : Bool × Bool := (spb.2, spb.1)

/-- A single bit. -/
theorem bs2uint8_one (b : Bool) : bs2uint8 [b] = bit b := by
  cases b <;> rfl

/-- Two bits come back in the other order. -/
theorem bitstring2_bs2uint8 (spb : Bool × Bool) :
    bitstring2 (bs2uint8 [spb.1, spb.2]) = swapSpb spb := by
  obtain ⟨b0, b1⟩ := spb
  cases b0 <;> cases b1 <;> rfl

/-- Two bits are less than four. -/
theorem bs2uint8_two_lt (b0 b1 : Bool) : bs2uint8 [b0, b1] < 4 := by
  cases b0 <;> cases b1 <;> decide

/-- What the decoder makes of a type 3 header. -/
def readBackHdr (h : EgprsUlMacDataHeader) : EgprsUlMacDataHeader :=
  { h with headerType := .type3, bsn2Offset := none, spb := h.spb.map swapSpb }

/-- The first header octet, taken apart: RETRY, SI, CV and the TFI's low bits. -/
theorem type3_octet0 {r si cv t : Nat} (hr : r < 2) (hsi : si < 2)
    (hcv : cv < 16) :
    (r + si * 2 + cv * 4 + t * 64) / 64 = t
      ∧ (r + si * 2 + cv * 4 + t * 64) / 4 % 16 = cv
      ∧ (r + si * 2 + cv * 4 + t * 64) / 2 ^ 1 % 2 = si
      ∧ (r + si * 2 + cv * 4 + t * 64) / 2 ^ 0 % 2 = r := by
  refine ⟨?_, ?_, ?_, ?_⟩ <;> omega

/-- The fields of the first octet fit into it. -/
theorem type3_octet0_lt {r si cv t : Nat} (hr : r < 2) (hsi : si < 2)
    (hcv : cv < 16) (ht : t < 4) : r + si * 2 + cv * 4 + t * 64 < 256 := by
  omega

/-- A middle header octet, taken apart at bit `n`. -/
theorem type3_cut {a b n : Nat} (ha : a < n) :
    (a + b * n) % n = a ∧ (a + b * n) / n = b := by
  have hn : 0 < n := by omega
  rw [Nat.add_mul_mod_self_right, Nat.add_mul_div_right _ _ hn,
      Nat.mod_eq_of_lt ha, Nat.div_eq_of_lt ha]
  exact ⟨rfl, Nat.zero_add b⟩

/-- The last header octet, taken apart, whatever shares its top bit. -/
theorem type3_octet3 {c q rsb pi s : Nat} (hc : c < 4) (hq : q < 4)
    (hrsb : rsb < 2) (hpi : pi < 2) :
    (c + q * 4 + rsb * 16 + pi * 32 + s * 128) % 4 = c
      ∧ (c + q * 4 + rsb * 16 + pi * 32 + s * 128) / 4 % 4 = q
      ∧ (c + q * 4 + rsb * 16 + pi * 32 + s * 128) / 2 ^ 4 % 2 = rsb
      ∧ (c + q * 4 + rsb * 16 + pi * 32 + s * 128) / 2 ^ 5 % 2 = pi := by
  refine ⟨?_, ?_, ?_, ?_⟩ <;> omega

/-- Without the shared bit it stays below it. -/
theorem type3_octet3_lt {c q rsb pi : Nat} (hc : c < 4) (hq : q < 4)
    (hrsb : rsb < 2) (hpi : pi < 2) : c + q * 4 + rsb * 16 + pi * 32 < 128 := by
  omega

/-- A field of `n * k` values split at `n` is put together again. -/
theorem fin_rejoined {m : Nat} [NeZero m] (x : Fin m) {n k : Nat}
    (hm : m ≤ n * k) : Fin.ofNat m (x.val / n % k * n + x.val % n) = x := by
  have hk : x.val / n < k := Nat.div_lt_of_lt_mul (Nat.lt_of_lt_of_le x.isLt hm)
  apply Fin.ext
  show (x.val / n % k * n + x.val % n) % m = x.val
  rw [Nat.mod_eq_of_lt hk, Nat.div_add_mod', Nat.mod_eq_of_lt x.isLt]

/-- **TYPE 3 HEADER**: every field comes back, SPB the other way round. -/
theorem decEgprsUlMacDataHeaderType3_enc {h : EgprsUlMacDataHeader}
    {spb : Bool × Bool} (hspb : h.spb = some spb) :
    ∃ o0 o1 o2 o3, encRlcmacUlEgprsDataHeaderType3 h = .ok [o0, o1, o2, o3]
      ∧ o3.toNat < 128
      ∧ ∀ s rest, decEgprsUlMacDataHeaderType3
          (o0 :: o1 :: o2 :: (o3 ||| s <<< UInt8.ofNat 7) :: rest)
        = .ok (readBackHdr h) := by
  obtain ⟨ht, tfi, cv, si, r, bsn1, bsn2, cps, pi, rsb, spb'⟩ := h
  have hspb' : spb' = some spb := hspb
  rw [hspb']
  have v1 : (UInt8.ofNat (tfi.val / 4 % 8 + bsn1.val % 32 * 8)).toNat
      = tfi.val / 4 % 8 + bsn1.val % 32 * 8 := toNat_octet (by omega)
  have v2 : (UInt8.ofNat (bsn1.val / 32 % 64 + cps.val % 4 * 64)).toNat
      = bsn1.val / 32 % 64 + cps.val % 4 * 64 := toNat_octet (by omega)
  have hs := bs2uint8_two_lt spb.1 spb.2
  obtain ⟨tfiLow, cvBack, siBack, rBack⟩ := type3_octet0 (t := tfi.val % 4)
    (bit_lt_two r) (bit_lt_two si) cv.isLt
  obtain ⟨tfiHigh, bsnLow⟩ := type3_cut (b := bsn1.val % 32)
    (show tfi.val / 4 % 8 < 8 from Nat.mod_lt _ (by decide))
  obtain ⟨bsnHigh, cpsLow⟩ := type3_cut (b := cps.val % 4)
    (show bsn1.val / 32 % 64 < 64 from Nat.mod_lt _ (by decide))
  have v0 : (UInt8.ofNat (bs2uint8 [r] + bs2uint8 [si] * 2 + cv.val * 4
      + tfi.val % 4 * 64)).toNat
      = bit r + bit si * 2 + cv.val * 4 + tfi.val % 4 * 64 := by
    rw [bs2uint8_one, bs2uint8_one]
    exact toNat_octet (type3_octet0_lt (bit_lt_two r) (bit_lt_two si) cv.isLt
      (Nat.mod_lt _ (by decide)))
  have lt3 := type3_octet3_lt (Nat.mod_lt (cps.val / 4) (show 0 < 4 by decide)) hs
    (bit_lt_two rsb) (bit_lt_two pi)
  have v3 : (UInt8.ofNat (cps.val / 4 % 4 + bs2uint8 [spb.1, spb.2] % 4 * 4
      + bs2uint8 [rsb] * 16 + bit pi * 32)).toNat
      = cps.val / 4 % 4 + bs2uint8 [spb.1, spb.2] * 4 + bit rsb * 16
        + bit pi * 32 := by
    rw [bs2uint8_one, Nat.mod_eq_of_lt hs]
    exact toNat_octet (Nat.lt_trans lt3 (by decide))
  rw [← v3] at lt3
  refine ⟨_, _, _, _, rfl, lt3, ?_⟩
  intro s rest
  obtain ⟨cpsHigh, spbBack, rsbBack, piBack⟩ :=
    type3_octet3 (s := s.toNat % 2) (Nat.mod_lt (cps.val / 4) (show 0 < 4 by decide))
      hs (bit_lt_two rsb) (bit_lt_two pi)
  have v3' := toNat_or_top (s := s) lt3
  rw [v3] at v3'
  have tfiBack := fin_rejoined tfi (n := 4) (k := 8) (by decide)
  have bsnBack := fin_rejoined bsn1 (n := 32) (k := 64) (by decide)
  have cpsBack := fin_rejoined cps (n := 4) (k := 4) (by decide)
  have cvFin : Fin.ofNat 16
      ((bit r + bit si * 2 + cv.val * 4 + tfi.val % 4 * 64) / 4) = cv :=
    Fin.ext cvBack
  show Except.ok (EgprsUlMacDataHeader.mk .type3 _ _ (decide _) (decide _) _ none
    _ (decide _) (decide _) (some (bitstring2 _))) = _
  rw [v0, v1, v2, v3', tfiLow, tfiHigh, tfiBack, cvFin, siBack, rBack, bsnHigh,
      bsnLow, bsnBack, cpsHigh, cpsLow, cpsBack, piBack, rsbBack, spbBack,
      bitstring2_bs2uint8]
  simp only [decide_bit_eq_one]
  rfl

-- ── What the shift loops store ───────────────────────────────────────────────

section Unaligned

variable {off len : Nat} {src buf : Mem}

/-- The octets before the offset stay. -/
theorem cloneUnaligned_before (he : off % 8 ≠ 0) {j : Nat} (hj : j < off / 8) :
    cloneUnalignedBufferLsbf off len src buf j = buf j := by
  simp only [cloneUnalignedBufferLsbf, if_neg he]
  rw [Function.update_of_ne (by omega), Function.update_of_ne (by omega),
      Function.update_of_ne (by omega), joinLoop_frame _ _ _ _ _ _ _ _ (Or.inl hj)]

/-- The octet at the offset keeps its bits and gets the first ones above. -/
theorem cloneUnaligned_first (he : off % 8 ≠ 0) :
    cloneUnalignedBufferLsbf off len src buf (off / 8)
      = buf (off / 8) ||| src 0 <<< UInt8.ofNat (8 - off % 8) := by
  simp only [cloneUnalignedBufferLsbf, if_neg he]
  rw [Function.update_of_ne (by omega), Function.update_self]

/-- The octet behind it gets bits of the first octet twice. -/
theorem cloneUnaligned_second (he : off % 8 ≠ 0) (hlen : 2 ≤ len) :
    cloneUnalignedBufferLsbf off len src buf (off / 8 + 1)
      = join (off % 8) (src 0) (src 1) ||| ((src 0 >>> UInt8.ofNat (off % 8))
        &&& (0xff >>> UInt8.ofNat (8 - off % 8))) := by
  simp only [cloneUnalignedBufferLsbf, if_neg he]
  rw [Function.update_self, Function.update_of_ne (by omega),
      Function.update_of_ne (by omega), joinLoop_at _ _ _ _ _ _ _ _ (by omega)]
  rfl

/-- Behind these, every octet is made of two neighbours. -/
theorem cloneUnaligned_data (he : off % 8 ≠ 0) {i : Nat} (h2i : 2 ≤ i)
    (hi : i < len) :
    cloneUnalignedBufferLsbf off len src buf (off / 8 + i)
      = join (off % 8) (src (i - 1)) (src i) := by
  have hi0 : i ≠ 0 := by omega
  simp only [cloneUnalignedBufferLsbf, if_neg he]
  rw [Function.update_of_ne (by omega), Function.update_of_ne (by omega),
      Function.update_of_ne (by omega), joinLoop_at _ _ _ _ _ _ _ _ hi, before,
      if_neg hi0, Nat.zero_add, Nat.zero_add]

/-- Shifting down joins neighbours, too. -/
theorem cloneAligned_at (he : off % 8 ≠ 0) {i : Nat} (hi : i < len) :
    cloneAlignedBufferLsbf off len src buf i
      = join (8 - off % 8) (src (off / 8 + i)) (src (off / 8 + i + 1)) := by
  simp only [cloneAlignedBufferLsbf, if_neg he]
  have hat := joinLoop_at (8 - off % 8) (fun j => src (off / 8 + 1 + j)) len 0 0
    (src (off / 8)) buf i hi
  rw [Nat.zero_add, before] at hat
  rw [hat, Nat.add_right_comm (off / 8) 1 i]
  by_cases h0 : i = 0
  · rw [if_pos h0, h0]
    rfl
  · have hidx : off / 8 + 1 + (0 + (i - 1)) = off / 8 + i := by omega
    rw [if_neg h0, hidx]

/-- **SHIFTED UP**: behind the first octet, the bits of the source are found at
    the offset. -/
theorem cloneUnaligned_bit (he : off % 8 ≠ 0) {n : Nat} (h8 : 8 ≤ n)
    (hn : (off % 8 + n) / 8 < len) :
    bitAt (cloneUnalignedBufferLsbf off len src buf) (off + n) = bitAt src n := by
  have h8k : off % 8 < 8 := Nat.mod_lt _ (by decide)
  have h0k : 0 < off % 8 := Nat.pos_of_ne_zero he
  obtain ⟨i, hi⟩ : ∃ i, (off % 8 + n) / 8 = i + 1 := ⟨(off % 8 + n) / 8 - 1, by omega⟩
  obtain ⟨r, hr⟩ : ∃ r, (off % 8 + n) % 8 = r := ⟨_, rfl⟩
  have hr8 : r < 8 := hr ▸ Nat.mod_lt _ (by decide)
  have hdst : off + n = (off / 8 + (i + 1)) * 8 + r := by omega
  have hsrc : n = (i + 1) * 8 + r - off % 8 := by omega
  have hjoin : (join (off % 8) (src i) (src (i + 1))).toNat.testBit r = bitAt src n := by
    rw [testBit_join_mem h0k h8k src i hr8, ← hsrc]
  rw [hdst, bitAt_octet _ _ hr8]
  by_cases hi0 : i = 0
  · -- what the second octet gets twice lies below the extra bits
    have hmask : (0xff >>> UInt8.ofNat (8 - off % 8)).toNat.testBit r = false := by
      have hup : ¬ r < off % 8 := by omega
      rw [testBit_shiftRight _ (by omega)]
      exact testBit_high _ (by omega)
    rw [hi0, cloneUnaligned_second he (by omega), UInt8.toNat_or, Nat.testBit_or,
        UInt8.toNat_and, Nat.testBit_and, hmask, Bool.and_false, Bool.or_false]
    rw [hi0] at hjoin
    exact hjoin
  · rw [cloneUnaligned_data he (by omega) (by omega), Nat.add_sub_cancel]
    exact hjoin

/-- **SHIFTED DOWN**: the bits at the offset come first. -/
theorem cloneAligned_bit {n : Nat} (hn : n < len * 8) :
    bitAt (cloneAlignedBufferLsbf off len src buf) n = bitAt src (off + n) := by
  have hr8 : n % 8 < 8 := Nat.mod_lt _ (by decide)
  have hidx : n / 8 < len := Nat.div_lt_of_lt_mul (by omega)
  by_cases he : off % 8 = 0
  · have hcopy : cloneAlignedBufferLsbf off len src buf (n / 8) = src (off / 8 + n / 8) := by
      simp only [cloneAlignedBufferLsbf, if_pos he]
      rw [memcpy, if_pos ⟨Nat.zero_le _, by omega⟩, Nat.sub_zero]
    have hsrc : off + n = (off / 8 + n / 8) * 8 + n % 8 := by omega
    rw [bitAt, hcopy, hsrc, bitAt_octet _ _ hr8]
  · have h8k : off % 8 < 8 := Nat.mod_lt _ (by decide)
    have hsrc : off + n = (off / 8 + n / 8 + 1) * 8 + n % 8 - (8 - off % 8) := by omega
    rw [bitAt, cloneAligned_at he hidx, testBit_join_mem (by omega) (by omega) src _ hr8, hsrc]

end Unaligned

-- ── Coding schemes of type 3 ─────────────────────────────────────────────────

/-- The coding schemes of header type 3. -/
def CodingScheme.IsType3 : CodingScheme → Prop
  | .mcs1 | .mcs2 | .mcs3 | .mcs4 => True
  | _ => False

/-- A block of type 3 has five octets beside its data. -/
theorem type3_blockLen {mcs : CodingScheme} (h : mcs.IsType3) :
    fRlcmacCsMcs2blockLen mcs = codingScheme2DataBlockLen mcs + 5
      ∧ fRlcmacCsMcs2blockLenNoSpareBits mcs = codingScheme2DataBlockLen mcs + 5
      ∧ payloadLen2CodingScheme (fRlcmacCsMcs2blockLen mcs) = mcs
      ∧ codingScheme2DataBlockLen mcs < 127 := by
  cases mcs <;> first | decide | exact absurd h id

/-- A header of type 3 is encoded as one. -/
theorem encRlcmacUlEgprsDataHeader_type3 {x : RlcmacUlEgprsDataBlock}
    (h : x.macHdr.headerType = .type3) :
    encRlcmacUlEgprsDataHeader (fixEgprsUlMacDataHeader x)
      = encRlcmacUlEgprsDataHeaderType3 (fixEgprsUlMacDataHeader x) := by
  have ht : (fixEgprsUlMacDataHeader x).headerType = .type3 := h
  rw [encRlcmacUlEgprsDataHeader, ht]

/-- A scheme of type 3 has its header decoded as one. -/
theorem decEgprsUlMacDataHeader_type3 {mcs : CodingScheme} (h : mcs.IsType3)
    (stream : List UInt8) : decEgprsUlMacDataHeader mcs stream
      = decEgprsUlMacDataHeaderType3 stream := by
  cases mcs <;> first | rfl | exact absurd h id

/-- Every CPS stands for a coding scheme of header type 3. -/
theorem fRlcmacCpsHtypeToMcs_type3 (cps : Fin 16) :
    ∃ mcs, fRlcmacCpsHtypeToMcs cps.val .type3 = .ok mcs := by
  have hlt : cps.val < (egprsHeaderCodingPuncturingSchemeToMcs .type3).length :=
    cps.isLt
  refine ⟨(egprsHeaderCodingPuncturingSchemeToMcs .type3)[cps.val], ?_⟩
  rw [fRlcmacCpsHtypeToMcs, List.getElem?_eq_getElem hlt]

/-- The octet with TI and E. -/
def tiEOctet (ti e : Bool) : UInt8 := UInt8.ofNat (bit ti * 2 + bit e)

/-- `TI` and `E` come back from their octet. -/
theorem decTiE_octet (ti e : Bool) (rest : List UInt8) :
    decTiE (tiEOctet ti e :: rest) = .ok (ti, e, rest) := by
  cases ti <;> cases e <;> rfl

/-- The bit offset of the data block of header type 3. -/
def type3Offset : Nat := 3 * 8 + 7

end OsmoRlcmac
