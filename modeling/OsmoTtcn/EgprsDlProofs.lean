import OsmoTtcn.EgprsPlacementProofs
import OsmoTtcn.RlcmacDlProofs

/-! # EGPRS downlink RLC data blocks

    The decoder makes an aligned copy of the (first) RLC data block and reads
    TI/E, the extension octets and the payloads from it.  A single payload
    without a header is taken from the buffer with the received octets instead,
    whose position is still at the start, with the length of the aligned rest.

    So E=1 gives the first octets of the stream, header and all.
    `dlPayload_iff` says when these are the payload all the same. -/

namespace OsmoRlcmac

open OsmoTitan WireOctet BitCopy LiSegments

-- ── Types ────────────────────────────────────────────────────────────────────

/-- `EgprsDlMacDataHeader` -/
structure EgprsDlMacDataHeader where
  headerType : EgprsHeaderType
  tfi : Nat
  rrbp : MacRrbp
  esp : Bool × Bool
  usf : Nat
  bsn1 : Nat
  bsn2Offset : Nat
  /-- power reduction -/
  pr : Nat
  spb : Option Nat
  cps : Nat
  deriving DecidableEq, Repr

/-- `RlcmacDlEgprsDataBlock` -/
structure RlcmacDlEgprsDataBlock where
  mcs : CodingScheme
  macHdr : EgprsDlMacDataHeader
  fbi : Bool
  e : Bool
  blocks : List EgprsLlcBlock
  deriving DecidableEq, Repr

-- ── Decoder ──────────────────────────────────────────────────────────────────

/-- The octets that all header types start with, and the lowest bit of the
    fourth. -/
def egprsDlHdrStart (headerType : EgprsHeaderType) (o0 o1 o2 o3 : UInt8) (bsn2Offset : Nat)
    (spb : Option Nat) (cps : Nat) : EgprsDlMacDataHeader where
  headerType := headerType
  tfi := o1.toNat % 16 * 2 + o0.toNat / 128
  rrbp := .ofBits (o0.toNat / 32 % 4)
  esp := bitstring2 (o0.toNat / 8 % 4)
  usf := o0.toNat % 8
  bsn1 := o3.toNat % 2 * 1024 + o2.toNat * 4 + o1.toNat / 64
  bsn2Offset := bsn2Offset
  pr := o1.toNat / 16 % 4
  spb := spb
  cps := cps

/-- `dec__EgprsDlMacDataHeader_type1` -/
def decEgprsDlMacDataHeaderType1 (stream : List UInt8) : Except Fault EgprsDlMacDataHeader :=
  match stream with
  | o0 :: o1 :: o2 :: o3 :: o4 :: _ => .ok (egprsDlHdrStart .type1 o0 o1 o2 o3
      (o4.toNat % 8 * 128 + o3.toNat / 2) none (o4.toNat / 8))
  | _ => .error .overread

/-- `dec__EgprsDlMacDataHeader_type2` -/
def decEgprsDlMacDataHeaderType2 (stream : List UInt8) : Except Fault EgprsDlMacDataHeader :=
  match stream with
  | o0 :: o1 :: o2 :: o3 :: _ =>
      .ok (egprsDlHdrStart .type2 o0 o1 o2 o3 0 none (o3.toNat / 2 % 8))
  | _ => .error .overread

/-- `dec__EgprsDlMacDataHeader_type3` -/
def decEgprsDlMacDataHeaderType3 (stream : List UInt8) : Except Fault EgprsDlMacDataHeader :=
  match stream with
  | o0 :: o1 :: o2 :: o3 :: _ => .ok (egprsDlHdrStart .type3 o0 o1 o2 o3 0
      (some (o3.toNat / 32 % 4)) (o3.toNat / 2 % 16))
  | _ => .error .overread

/-- The header, by the type that goes with the coding scheme. -/
def decEgprsDlMacDataHeader (mcs : CodingScheme) (stream : List UInt8) :
    Except Fault EgprsDlMacDataHeader :=
  match mcs with
  | .mcs0 | .mcs1 | .mcs2 | .mcs3 | .mcs4 => decEgprsDlMacDataHeaderType3 stream
  | .mcs5 | .mcs6 => decEgprsDlMacDataHeaderType2 stream
  | .mcs7 | .mcs8 | .mcs9 => decEgprsDlMacDataHeaderType1 stream
  -- the header type is asked for though nothing set it
  | _ => .error .unbound

/-- RLC blocks at end.  `buf` is what is left of the aligned data block. -/
def decEgprsDlBlocks (e : Bool) (stream : List UInt8) (hdrs : List EgprsLlcBlockHdr)
    (buf : List UInt8) : Except Fault (List EgprsLlcBlock) :=
  -- the buffer with the stream is read, not the aligned one
  if e then (copyOctets buf.length stream).map (fun payload => [⟨none, payload⟩])
  else .ok (egprsLayout.slices hdrs buf)

/-- `dec__RlcmacDlEgprsDataBlock` -/
def decRlcmacDlEgprsDataBlock (stream : List UInt8) :
    Except Fault RlcmacDlEgprsDataBlock := do
  let mcs := payloadLen2CodingScheme stream.length
  let macHdr ← decEgprsDlMacDataHeader mcs stream
  let priv := setupRlcMacPriv mcs macHdr.headerType false
  let aligned ← getEgprsDataBlock stream priv.dataBlockOffsets.1 priv.dataBlockBits
  let (fbi, e, buf) ← decTiE aligned
  let (hdrs, buf) ← decEgprsExtension e buf
  let blocks ← decEgprsDlBlocks e stream hdrs buf
  .ok { mcs := mcs, macHdr := macHdr, fbi := fbi, e := e, blocks := blocks }

-- ── The payload ──────────────────────────────────────────────────────────────

/-- The coding schemes of EGPRS. -/
def CodingScheme.IsEgprs : CodingScheme → Prop
  | .mcs1 | .mcs2 | .mcs3 | .mcs4 | .mcs5 | .mcs6 | .mcs7 | .mcs8 | .mcs9 => True
  | _ => False

/-- The header type of a coding scheme. -/
def dlHeaderType : CodingScheme → EgprsHeaderType
  | .mcs5 | .mcs6 => .type2
  | .mcs7 | .mcs8 | .mcs9 => .type1
  | _ => .type3

/-- The bit offset of the (first) RLC data block. -/
def dlOffset (mcs : CodingScheme) : Nat :=
  (setupRlcMacPriv mcs (dlHeaderType mcs) false).dataBlockOffsets.1

/-- The payload of all blocks, in order. -/
def dlPayload (x : RlcmacDlEgprsDataBlock) : List UInt8 :=
  x.blocks.flatMap EgprsLlcBlock.payload

section Payload

variable {mcs : CodingScheme} {stream : List UInt8}

/-- The payload is the octets of the block behind TI/E and the extension
    octets, one after the other. -/
def PayloadSliced (b : AlignedBlock (codingScheme2DataBlockLen mcs))
    (x : RlcmacDlEgprsDataBlock) : Prop :=
  ∃ pre post, b.octets = pre ++ (dlPayload x ++ post)
    ∧ pre.length = 1 + (egprsLayout.headers x.blocks).length

/-- The same block with E cleared and one extension octet for all that fits. -/
def Headered (b b' : AlignedBlock (codingScheme2DataBlockLen mcs)) : Prop :=
  b.e = true ∧ b'.e = false ∧ ∃ o, b'.data = o :: b.data.dropLast
    ∧ (decEgprsLlcBlockHdr o).e = true
    ∧ codingScheme2DataBlockLen mcs ≤ (decEgprsLlcBlockHdr o).lengthInd + 1

/-- The decoder takes the payload from the data block, and a segment with an
    extension octet gives what it gives without, but for the last octet. -/
structure DlPayloadRight (mcs : CodingScheme) (stream : List UInt8) : Prop where
  sliced : ∀ b : AlignedBlock (codingScheme2DataBlockLen mcs), LiesAt stream (dlOffset mcs) b →
    ∀ x, decRlcmacDlEgprsDataBlock stream = .ok x → PayloadSliced b x
  headered : ∀ (b b' : AlignedBlock (codingScheme2DataBlockLen mcs)) (stream' : List UInt8),
    LiesAt stream (dlOffset mcs) b → LiesAt stream' (dlOffset mcs) b' →
    stream'.length = stream.length → Headered b b' →
    ∀ x x', decRlcmacDlEgprsDataBlock stream = .ok x →
      decRlcmacDlEgprsDataBlock stream' = .ok x' → dlPayload x' = (dlPayload x).dropLast

/-- A block of EGPRS holds its header and its data block. -/
theorem egprs_length {len : Nat} (h : (payloadLen2CodingScheme len).IsEgprs) :
    5 ≤ len ∧ initialSpareBits ≤ dlOffset (payloadLen2CodingScheme len)
      ∧ (dlOffset (payloadLen2CodingScheme len) - initialSpareBits) / 8
        + codingScheme2DataBlockLen (payloadLen2CodingScheme len) + 2 ≤ len := by
  unfold payloadLen2CodingScheme at h ⊢
  split at h
  all_goals first | exact absurd h id | decide

/-- A header of five octets is read, in the type of its scheme. -/
theorem decEgprsDlMacDataHeader_ok (h : mcs.IsEgprs) (hlen : 5 ≤ stream.length) :
    ∃ macHdr, decEgprsDlMacDataHeader mcs stream = .ok macHdr
      ∧ macHdr.headerType = dlHeaderType mcs := by
  match stream, hlen with
  | o0 :: o1 :: o2 :: o3 :: o4 :: rest, _ =>
      cases mcs <;> first | exact absurd h id | exact ⟨_, rfl, rfl⟩

/-- **THE DECODER** on the data block that lies in the stream. -/
theorem decRlcmacDlEgprsDataBlock_eq (h : (payloadLen2CodingScheme stream.length).IsEgprs)
    {b : AlignedBlock (codingScheme2DataBlockLen (payloadLen2CodingScheme stream.length))}
    (hb : LiesAt stream (dlOffset (payloadLen2CodingScheme stream.length)) b) :
    ∃ macHdr, decRlcmacDlEgprsDataBlock stream
      = (decEgprsExtension b.e b.data).bind (fun r =>
        (decEgprsDlBlocks b.e stream r.1 r.2).map (fun blocks =>
          { mcs := payloadLen2CodingScheme stream.length, macHdr := macHdr, fbi := b.ti
            e := b.e, blocks := blocks })) := by
  obtain ⟨hlen, hoff, hreach⟩ := egprs_length h
  obtain ⟨macHdr, hhdr, htype⟩ := decEgprsDlMacDataHeader_ok h hlen
  have hget := getEgprsDataBlock_ok b hoff hreach hb
  have hoffset : (setupRlcMacPriv (payloadLen2CodingScheme stream.length) macHdr.headerType
      false).dataBlockOffsets.1 = dlOffset (payloadLen2CodingScheme stream.length) := by
    rw [htype]
    rfl
  have hbits : (setupRlcMacPriv (payloadLen2CodingScheme stream.length) macHdr.headerType
      false).dataBlockBits
      = codingScheme2DataBlockLen (payloadLen2CodingScheme stream.length) * 8 + 2 := by
    cases macHdr.headerType <;> rfl
  refine ⟨macHdr, ?_⟩
  simp only [decRlcmacDlEgprsDataBlock]
  rw [hhdr, ok_bind, hoffset, hbits, hget, ok_bind, AlignedBlock.octets, decTiE_octet, ok_bind]
  cases decEgprsExtension b.e b.data with
  | error e => rfl
  | ok r =>
      rw [ok_bind]
      dsimp only [Except.bind]
      cases decEgprsDlBlocks b.e stream r.1 r.2 with
      | error e => rfl
      | ok blocks => rfl

variable (hegprs : (payloadLen2CodingScheme stream.length).IsEgprs)
variable {b : AlignedBlock (codingScheme2DataBlockLen (payloadLen2CodingScheme stream.length))}
variable (hb : LiesAt stream (dlOffset (payloadLen2CodingScheme stream.length)) b)
variable {x : RlcmacDlEgprsDataBlock}

include hegprs hb in
/-- **E=1**: the payload is the first octets of the stream. -/
theorem dlPayload_unheaded (he : b.e = true) : ∃ x, decRlcmacDlEgprsDataBlock stream = .ok x
    ∧ egprsLayout.headers x.blocks = [] ∧ dlPayload x
      = stream.take (codingScheme2DataBlockLen (payloadLen2CodingScheme stream.length)) := by
  obtain ⟨-, -, hreach⟩ := egprs_length hegprs
  obtain ⟨macHdr, hdec⟩ := decRlcmacDlEgprsDataBlock_eq hegprs hb
  have hcopy : copyOctets b.data.length stream = .ok (stream.take b.data.length) := by
    refine if_neg ?_
    rw [b.size]
    omega
  rw [he, decEgprsExtension, if_pos rfl] at hdec
  dsimp only [Except.bind] at hdec
  rw [decEgprsDlBlocks, if_pos rfl, hcopy, b.size] at hdec
  refine ⟨_, hdec, rfl, ?_⟩
  exact List.append_nil _

include hegprs hb in
/-- **E=0**: the payloads are cut out of the data block. -/
theorem dlPayload_headed (he : b.e = false)
    (hdec : decRlcmacDlEgprsDataBlock stream = .ok x) : ∃ hdrs buf,
    egprsLayout.readHdrs b.data = some (hdrs, buf) ∧ x.blocks = egprsLayout.slices hdrs buf := by
  obtain ⟨macHdr, heq⟩ := decRlcmacDlEgprsDataBlock_eq hegprs hb
  rw [heq, he] at hdec
  obtain ⟨⟨hdrs, buf⟩, hext, hdec⟩ := bind_ok hdec
  obtain ⟨blocks, hblocks, rfl⟩ := map_ok hdec
  rw [decEgprsExtension, if_neg Bool.false_ne_true] at hext
  refine ⟨hdrs, buf, ?_, ?_⟩
  · cases hread : egprsLayout.readHdrs b.data with
    | none =>
        rw [hread] at hext
        cases hext
    | some r =>
        rw [hread] at hext
        rw [Except.ok.inj hext]
  · rw [decEgprsDlBlocks, if_neg Bool.false_ne_true] at hblocks
    exact (Except.ok.inj hblocks).symm

/-- **E=0** is right. -/
theorem payloadSliced_headed {hdrs : List EgprsLlcBlockHdr} {buf : List UInt8}
    (hread : egprsLayout.readHdrs b.data = some (hdrs, buf))
    (hblocks : x.blocks = egprsLayout.slices hdrs buf) : PayloadSliced b x := by
  obtain ⟨pre, hpre, hmap⟩ := Layout.readHdrs_split hread
  obtain ⟨post, hpost⟩ := Layout.slices_prefix (L := egprsLayout) (fun _ _ => rfl) hdrs buf
  refine ⟨tiEOctet b.ti b.e :: pre, post, ?_, ?_⟩
  · have hsplit : buf = dlPayload x ++ post := by
      rw [dlPayload, hblocks]
      exact hpost.symm
    rw [AlignedBlock.octets, hpre]
    exact congrArg (fun l => tiEOctet b.ti b.e :: (pre ++ l)) hsplit
  · rw [hblocks, Layout.headers_slices fun _ _ => rfl, ← hmap, List.length_map,
      List.length_cons, Nat.add_comm]

/-- **ONE EXTENSION OCTET** for all that fits: everything behind it is cut out. -/
theorem dlPayload_oneHeader {stream' : List UInt8} {x' : RlcmacDlEgprsDataBlock}
    (hmcs : payloadLen2CodingScheme stream'.length = mcs) (hegprs' : mcs.IsEgprs)
    {b' : AlignedBlock (codingScheme2DataBlockLen mcs)} (hb' : LiesAt stream' (dlOffset mcs) b')
    {o : UInt8} {rest : List UInt8} (he : b'.e = false) (hdata : b'.data = o :: rest)
    (hlast : (decEgprsLlcBlockHdr o).e = true)
    (hli : rest.length ≤ (decEgprsLlcBlockHdr o).lengthInd)
    (hdec : decRlcmacDlEgprsDataBlock stream' = .ok x') : dlPayload x' = rest := by
  subst hmcs
  obtain ⟨hdrs, buf, hread, hblocks⟩ := dlPayload_headed hegprs' hb' he hdec
  rw [hdata, Layout.readHdrs, if_pos (show egprsLayout.last (egprsLayout.dec o) = true from hlast)]
    at hread
  obtain ⟨rfl, rfl⟩ := Prod.mk.inj (Option.some.inj hread)
  have hmin : min (decEgprsLlcBlockHdr o).lengthInd rest.length = rest.length :=
    Nat.min_eq_right hli
  rw [dlPayload, hblocks]
  show rest.take (min (decEgprsLlcBlockHdr o).lengthInd rest.length) ++ [] = rest
  rw [hmin, List.take_length, List.append_nil]

end Payload

-- ── When the payload is right ────────────────────────────────────────────────

/-- The stream starts with the bits that follow TI and E. -/
def RepeatsBlock (mcs : CodingScheme) (stream : List UInt8) : Prop :=
  ∀ n, n < codingScheme2DataBlockLen mcs * 8 →
    octetBit stream n = octetBit stream (dlOffset mcs + 2 + n)

/-- Bits of a head are bits of the whole. -/
theorem octetBit_take {stream : List UInt8} {k n : Nat} (hn : n < k * 8)
    (hlen : k ≤ stream.length) : octetBit (stream.take k) n = octetBit stream n := by
  have hlt : n / 8 < k := by omega
  have hlt' : n / 8 < (stream.take k).length := by
    rw [List.length_take]
    omega
  rw [octetBit, octetBit, bitAt, bitAt, memOf_lt hlt', memOf_lt (Nat.lt_of_lt_of_le hlt hlen),
      List.getElem_take]

/-- The first octets of the stream against the data of the block. -/
theorem repeatsBlock_iff {mcs : CodingScheme} {stream : List UInt8}
    {b : AlignedBlock (codingScheme2DataBlockLen mcs)}
    (hlen : codingScheme2DataBlockLen mcs ≤ stream.length)
    (hb : LiesAt stream (dlOffset mcs) b) :
    RepeatsBlock mcs stream ↔ stream.take (codingScheme2DataBlockLen mcs) = b.data := by
  have htake : (stream.take (codingScheme2DataBlockLen mcs)).length
      = codingScheme2DataBlockLen mcs := List.length_take_of_le hlen
  have hdata : ∀ n, n < codingScheme2DataBlockLen mcs * 8 →
      octetBit stream (dlOffset mcs + 2 + n) = octetBit b.data n := by
    intro n hn
    have hidx : dlOffset mcs + 2 + n = dlOffset mcs + (n + 2) := by omega
    rw [hidx, hb (n + 2) (Nat.add_lt_add_right hn 2)]
    rfl
  constructor
  · intro hrepeats
    refine eq_of_octetBit (htake.trans b.size.symm) (fun n hn => ?_)
    rw [htake] at hn
    rw [octetBit_take hn hlen, hrepeats n hn, hdata n hn]
  · intro heq n hn
    rw [hdata n hn, ← heq, octetBit_take hn hlen]

/-- With E=1 the payload is right only where the stream repeats the block. -/
theorem repeatsBlock_of_right {stream : List UInt8}
    (hegprs : (payloadLen2CodingScheme stream.length).IsEgprs)
    (hright : DlPayloadRight (payloadLen2CodingScheme stream.length) stream)
    (he : octetBit stream (dlOffset (payloadLen2CodingScheme stream.length)) = true) :
    RepeatsBlock (payloadLen2CodingScheme stream.length) stream := by
  obtain ⟨-, -, hreach⟩ := egprs_length hegprs
  have hlen : codingScheme2DataBlockLen (payloadLen2CodingScheme stream.length)
      ≤ stream.length := by omega
  obtain ⟨b, hb⟩ := exists_liesAt
    (codingScheme2DataBlockLen (payloadLen2CodingScheme stream.length)) stream
    (dlOffset (payloadLen2CodingScheme stream.length))
  have hbe : b.e = true := (hb 0 (by omega)).symm.trans he
  obtain ⟨x, hdec, hheaders, hpayload⟩ := dlPayload_unheaded hegprs hb hbe
  obtain ⟨pre, post, hsplit, hpre⟩ := hright.sliced b hb x hdec
  rw [hheaders] at hpre
  obtain ⟨o, rfl⟩ := List.length_eq_one_iff.mp hpre
  have hdata : b.data = dlPayload x ++ post := (List.cons.inj hsplit).2
  have hall := List.prefix_iff_eq_take.mp ⟨post, hdata.symm⟩
  have hsize : (dlPayload x).length = b.data.length := by
    rw [hpayload, List.length_take_of_le hlen, b.size]
  rw [hsize, List.take_length] at hall
  exact (repeatsBlock_iff hlen hb).mpr (hpayload.symm.trans hall)

/-- **WHEN THE PAYLOAD IS TAKEN FROM THE DATA BLOCK**: iff E is not set, or the
    stream happens to start with the bits that follow TI and E. -/
theorem dlPayload_iff {stream : List UInt8}
    (hegprs : (payloadLen2CodingScheme stream.length).IsEgprs) :
    DlPayloadRight (payloadLen2CodingScheme stream.length) stream
      ↔ octetBit stream (dlOffset (payloadLen2CodingScheme stream.length)) = false
        ∨ RepeatsBlock (payloadLen2CodingScheme stream.length) stream := by
  obtain ⟨-, -, hreach⟩ := egprs_length hegprs
  have hlen : codingScheme2DataBlockLen (payloadLen2CodingScheme stream.length)
      ≤ stream.length := by omega
  constructor
  · intro hright
    cases he : octetBit stream (dlOffset (payloadLen2CodingScheme stream.length)) with
    | false => exact Or.inl rfl
    | true => exact Or.inr (repeatsBlock_of_right hegprs hright he)
  · intro hwhen
    have hunheaded : ∀ b : AlignedBlock (codingScheme2DataBlockLen
        (payloadLen2CodingScheme stream.length)),
        LiesAt stream (dlOffset (payloadLen2CodingScheme stream.length)) b → b.e = true →
        ∀ x, decRlcmacDlEgprsDataBlock stream = .ok x →
          egprsLayout.headers x.blocks = [] ∧ dlPayload x = b.data := by
      intro b hb hbe x hdec
      have he : octetBit stream (dlOffset (payloadLen2CodingScheme stream.length)) = b.e :=
        hb 0 (by omega)
      have hrepeats : RepeatsBlock (payloadLen2CodingScheme stream.length) stream := by
        rcases hwhen with hfalse | hrepeats
        · rw [hfalse, hbe] at he
          exact nomatch he
        · exact hrepeats
      obtain ⟨x', hdec', hheaders, hpayload⟩ := dlPayload_unheaded hegprs hb hbe
      obtain rfl := Except.ok.inj (hdec.symm.trans hdec')
      exact ⟨hheaders, hpayload.trans ((repeatsBlock_iff hlen hb).mp hrepeats)⟩
    refine ⟨fun b hb x hdec => ?_, fun b b' stream' hb hb' hlen' hheadered x x' hdec hdec' => ?_⟩
    · cases hbe : b.e with
      | true =>
          obtain ⟨hheaders, hpayload⟩ := hunheaded b hb hbe x hdec
          refine ⟨[tiEOctet b.ti b.e], [], ?_, ?_⟩
          · rw [hpayload, List.append_nil]
            rfl
          · rw [hheaders]
            rfl
      | false =>
          obtain ⟨hdrs, buf, hread, hblocks⟩ := dlPayload_headed hegprs hb hbe hdec
          exact payloadSliced_headed hread hblocks
    · obtain ⟨hbe, hbe', o, hdata, hlast, hli⟩ := hheadered
      obtain ⟨-, hpayload⟩ := hunheaded b hb hbe x hdec
      rw [hpayload]
      refine dlPayload_oneHeader (by rw [hlen']) hegprs hb' hbe' hdata hlast ?_ hdec'
      rw [List.length_dropLast, b.size]
      omega

/-- An MCS-1 block with E=0, one extension octet for two octets. -/
def dlHeaded : List UInt8 := [0, 0, 0, 0, 0x0a, 0x54, 0x56] ++ List.replicate 20 0x56

/-- An MCS-1 block with E=1. -/
def dlUnheaded : List UInt8 := [0, 0, 0, 0x80, 0x54, 0x56, 0x56] ++ List.replicate 20 0x56

/-- A block with headed segments keeps its payload. -/
theorem dlPayload_iff_headed : DlPayloadRight .mcs1 dlHeaded :=
  (@dlPayload_iff dlHeaded trivial).mpr (Or.inl (by decide))

/-- **E=1 GIVES THE HEADER** for a payload. -/
theorem dlUnheaded_wrong : ¬ DlPayloadRight .mcs1 dlUnheaded := by
  intro hright
  have hrepeats := @repeatsBlock_of_right dlUnheaded trivial hright (by decide)
  exact absurd (hrepeats 31 (by decide)) (by decide)

end OsmoRlcmac
