import OsmoTtcn.EgprsPlacementProofs

/-! # Round trips of EGPRS uplink data blocks

    Behind a header of type 3 the data block is where it should be, so what is
    taken out again is what was put there.  Behind it there are seven bits that
    the encoder read past its buffer, and the padding, shifted.  The decoder then
    finds the parts that the encoder wrote, with SPB the other way round, the
    TLLI reversed, and the segments that the headers announce:
    `egprsUlRoundTrips_iff`. -/

namespace OsmoRlcmac

open OsmoTitan WireOctet LiSegments BitCopy

-- ── The data block of type 3 ─────────────────────────────────────────────────

section Type3

variable {heap : Heap} {aligned : List UInt8} {h0 h1 h2 h3 : UInt8}

/-- The memory that the encoder's loop leaves behind a type 3 header. -/
def type3Mem (heap : Heap) (aligned hdr : List UInt8) : Mem :=
  cloneUnalignedBufferLsbf (type3Offset - initialSpareBits)
    (hdr.length + aligned.length) (memOf aligned heap.past)
    (memOf hdr heap.fresh)

/-- The parent buffer starts with the header, E on top of it. -/
theorem putEgprsDataBlock_hdr :
    putEgprsDataBlock heap aligned type3Offset [h0, h1, h2, h3]
      = h0 :: h1 :: h2 :: (h3 ||| memOf aligned heap.past 0 <<< UInt8.ofNat 7)
        :: octetsAt (fun i => type3Mem heap aligned [h0, h1, h2, h3] (4 + i))
          aligned.length := by
  have he : (type3Offset - initialSpareBits) % 8 ≠ 0 := by decide
  have hbefore : ∀ j, j < 3 → type3Mem heap aligned [h0, h1, h2, h3] j
      = memOf [h0, h1, h2, h3] heap.fresh j :=
    fun j hj => cloneUnaligned_before he hj
  have hfirst : type3Mem heap aligned [h0, h1, h2, h3] 3
      = h3 ||| memOf aligned heap.past 0 <<< UInt8.ofNat 7 :=
    cloneUnaligned_first he
  show octetsAt (type3Mem heap aligned [h0, h1, h2, h3]) (4 + aligned.length) = _
  rw [octetsAt_add]
  show type3Mem _ _ _ 0 :: type3Mem _ _ _ 1 :: type3Mem _ _ _ 2
    :: type3Mem _ _ _ 3 :: _ = _
  rw [hbefore 0 (by decide), hbefore 1 (by decide), hbefore 2 (by decide), hfirst]
  rfl

/-- Bits of the first octet. -/
theorem octetBit_head (o : UInt8) (rest : List UInt8) {r : Nat} (hr : r < 8) :
    octetBit (o :: rest) r = o.toNat.testBit r := by
  have hbit := bitAt_octet (memOf (o :: rest) fun _ => 0) 0 hr
  rw [Nat.zero_mul, Nat.zero_add] at hbit
  exact hbit

/-- An octet with its top bit set begins no padding. -/
theorem not_isPadding_of_top {junk : List UInt8} (htop : octetBit junk 7 = true) :
    ¬ IsPadding junk := by
  rintro ⟨m, k, rfl⟩
  refine absurd htop (Bool.eq_false_iff.mp ?_)
  cases m with
  | succ m => exact octetBit_head 0x2b _ (by decide)
  | zero =>
      cases k with
      | zero => rfl
      | succ k => exact octetBit_head 0x00 _ (by decide)

/-- **THE DATA BLOCK ROUND TRIPS**: put behind a type 3 header and padded, it is
    what is taken out again starts with.  What follows it is not padding. -/
theorem getEgprsDataBlock_put {n dbl : Nat} (b : AlignedBlock n) (hh3 : h3.toNat < 128)
    (hle : n ≤ dbl) :
    ∃ junk, getEgprsDataBlock
        (putEgprsDataBlock heap b.octets type3Offset [h0, h1, h2, h3]
          ++ List.replicate (dbl - n) 0x2b)
        type3Offset (dbl * 8 + 2) = .ok (b.octets ++ junk)
      ∧ junk.length = dbl - n ∧ (IsPadding junk → junk = []) := by
  have hplaced : Placed type3Offset (n * 8 + 2) [h0, h1, h2, h3] b
      (putEgprsDataBlock heap b.octets type3Offset [h0, h1, h2, h3]) := placed_type3 heap b hh3
  have hlen : (putEgprsDataBlock heap b.octets type3Offset [h0, h1, h2, h3]).length = n + 5 := by
    rw [putEgprsDataBlock, octetsAt_length, b.octets_length]
    exact Nat.add_comm 4 (n + 1)
  generalize putEgprsDataBlock heap b.octets type3Offset [h0, h1, h2, h3] = out
    at hplaced hlen ⊢
  have hlies : LiesAt (out ++ List.replicate (dbl - n) 0x2b) type3Offset b := by
    intro m hm
    have hlt : (type3Offset + m) / 8 < out.length := by
      rw [hlen, type3Offset]
      omega
    refine Eq.trans ?_ (hplaced.block m hm)
    show bitAt _ (type3Offset + m) = bitAt _ (type3Offset + m)
    rw [bitAt, bitAt, memOf_append_left hlt, memOf_lt hlt]
  obtain ⟨whole, hwhole, junk, hjunk, hjunkLen, hbits⟩ := hlies.extend hle
  refine ⟨junk, ?_, hjunkLen, fun hpad => ?_⟩
  · rw [← hjunk]
    refine getEgprsDataBlock_ok whole (by decide) ?_ hwhole
    rw [List.length_append, hlen, List.length_replicate, type3Offset, initialSpareBits]
    omega
  · by_contra hne
    have hlt : n < dbl := by
      have hpos := List.length_pos_iff.mpr hne
      omega
    -- the top bit of the octet behind the block is the low bit of the padding
    refine not_isPadding_of_top ?_ hpad
    have hidx : type3Offset + (n * 8 + 7 + 2) = (n + 5) * 8 + 0 := by
      rw [type3Offset]
      omega
    have hmem : (n + 5) < (out ++ List.replicate (dbl - n) 0x2b).length := by
      rw [List.length_append, hlen, List.length_replicate]
      omega
    have hoctet : (out ++ List.replicate (dbl - n) (0x2b : UInt8))[n + 5] = 0x2b := by
      rw [List.getElem_append_right (Nat.le_of_eq hlen), List.getElem_replicate]
    rw [hbits 7 (by omega), hidx, octetBit, bitAt_octet _ _ (by decide), memOf_lt hmem, hoctet]
    rfl

end Type3

-- ── The round trip ───────────────────────────────────────────────────────────

/-- A TLLI with its octets in the other order. -/
def GprsTlli.reversed (t : GprsTlli) : GprsTlli :=
  ⟨t.octets.reverse, by rw [List.length_reverse, t.len]⟩

/-- A TLLI is sent with its octets in the other order. -/
theorem encEgprsTlli_eq (t : Option GprsTlli) :
    encEgprsTlli t = encTlli (t.map GprsTlli.reversed) := by
  cases t <;> rfl

/-- The aligned data block, the extension octets given. -/
def alignedBlock (x : RlcmacUlEgprsDataBlock) (ext : List UInt8) : List UInt8 :=
  tiEOctet x.tlli.isSome (egprsUlE x.blocks)
    :: (ext ++ (encEgprsTlli x.tlli ++ (encPfi x.pfi
      ++ egprsLlcPayloads x.blocks)))

/-- The padding of a data block of type 3, which has no spare octets. -/
theorem encodeTrailingPaddingSpb_type3 {mcs : CodingScheme} (hmcs : mcs.IsType3)
    {buf : List UInt8} (hfit : buf.length ≤ fRlcmacCsMcs2blockLenNoSpareBits mcs) :
    encodeTrailingPaddingSpb buf mcs
      = buf ++ List.replicate (codingScheme2DataBlockLen mcs + 5 - buf.length) 0x2b := by
  obtain ⟨hblk, hblkNo, -, -⟩ := type3_blockLen hmcs
  rw [encodeTrailingPaddingSpb, if_neg (Nat.not_lt.mpr hfit), hblk, hblkNo, Nat.sub_self,
      List.replicate_zero, List.append_nil]

/-- **ENCODED AND DECODED**: data that fit come back, whatever the heap held,
    with SPB the other way round, the TLLI reversed, and the segments that the
    headers announce.  Octets that fill the block up follow the data, and they
    are not padding. -/
theorem egprsUl_dec_enc {x : RlcmacUlEgprsDataBlock} (heap : Heap)
    {spb : Bool × Bool} {ext : List UInt8} {hdrs : List EgprsLlcBlockHdr}
    (htype : x.macHdr.headerType = .type3) (hspb : x.macHdr.spb = some spb)
    (hmcs : x.mcs.IsType3)
    (hext : encEgprsExtension (egprsUlE x.blocks) x.blocks = .ok ext)
    (hread : ∀ rest, decEgprsExtension (egprsUlE x.blocks) (ext ++ rest)
      = .ok (hdrs, rest))
    (hfit : 4 + (alignedBlock x ext).length
      ≤ fRlcmacCsMcs2blockLenNoSpareBits x.mcs) :
    ∃ o junk, encRlcmacUlEgprsDataBlock heap x = .ok o
      ∧ decRlcmacUlEgprsDataBlock o = .ok {
          mcs := x.mcs
          macHdr := readBackHdr (fixEgprsUlMacDataHeader x)
          tlliInd := x.tlli.isSome
          e := egprsUlE x.blocks
          tlli := x.tlli.map GprsTlli.reversed
          pfi := x.pfi
          blocks := some (if egprsUlE x.blocks then
              [⟨none, egprsLlcPayloads x.blocks ++ junk⟩]
            else egprsLayout.slices hdrs (egprsLlcPayloads x.blocks ++ junk)) }
      ∧ junk.length = fRlcmacCsMcs2blockLenNoSpareBits x.mcs - (4 + (alignedBlock x ext).length)
      ∧ (IsPadding junk → junk = []) := by
  obtain ⟨hblk, hblkNo, hcs, -⟩ := type3_blockLen hmcs
  obtain ⟨o0, o1, o2, o3, hhdr, ho3, hdec⟩ :=
    @decEgprsUlMacDataHeaderType3_enc (fixEgprsUlMacDataHeader x) spb hspb
  obtain ⟨mcs', hmcs'⟩ := fRlcmacCpsHtypeToMcs_type3 x.macHdr.cps
  have hputLen : (putEgprsDataBlock heap (alignedBlock x ext) type3Offset
      [o0, o1, o2, o3]).length = 4 + (alignedBlock x ext).length :=
    octetsAt_length _ _
  have hL : (alignedBlock x ext).length = (alignedBlock x ext).tail.length + 1 := rfl
  have hle : (alignedBlock x ext).tail.length ≤ codingScheme2DataBlockLen x.mcs := by
    omega
  have hpadLen : codingScheme2DataBlockLen x.mcs + 5 - (4 + (alignedBlock x ext).length)
      = codingScheme2DataBlockLen x.mcs - (alignedBlock x ext).tail.length := by
    omega
  have hpad := encodeTrailingPaddingSpb_type3 hmcs (hputLen.symm ▸ hfit)
  rw [hputLen, hpadLen] at hpad
  obtain ⟨junk, hget, hjunkLen, hjunk⟩ : ∃ junk, getEgprsDataBlock
      (putEgprsDataBlock heap (alignedBlock x ext) type3Offset [o0, o1, o2, o3]
        ++ List.replicate (codingScheme2DataBlockLen x.mcs
          - (alignedBlock x ext).tail.length) 0x2b)
      type3Offset (codingScheme2DataBlockLen x.mcs * 8 + 2) = .ok (alignedBlock x ext ++ junk)
      ∧ junk.length = codingScheme2DataBlockLen x.mcs - (alignedBlock x ext).tail.length
      ∧ (IsPadding junk → junk = []) :=
    getEgprsDataBlock_put ⟨x.tlli.isSome, egprsUlE x.blocks, (alignedBlock x ext).tail, rfl⟩
      ho3 hle
  have henc : encRlcmacUlEgprsDataBlock heap x
      = .ok (putEgprsDataBlock heap (alignedBlock x ext) type3Offset [o0, o1, o2, o3]
        ++ List.replicate (codingScheme2DataBlockLen x.mcs
          - (alignedBlock x ext).tail.length) 0x2b) := by
    rw [encRlcmacUlEgprsDataBlock, htype, hmcs', ok_bind]
    rw [encRlcmacUlEgprsDataHeader_type3 htype, hhdr, ok_bind, hext, ok_bind]
    exact congrArg Except.ok hpad
  have hlen : payloadLen2CodingScheme (putEgprsDataBlock heap (alignedBlock x ext) type3Offset
      [o0, o1, o2, o3] ++ List.replicate (codingScheme2DataBlockLen x.mcs
        - (alignedBlock x ext).tail.length) 0x2b).length = x.mcs := by
    refine Eq.trans (congrArg payloadLen2CodingScheme ?_) hcs
    rw [List.length_append, hputLen, List.length_replicate, hblk]
    omega
  have hmac : decEgprsUlMacDataHeader x.mcs (putEgprsDataBlock heap (alignedBlock x ext)
      type3Offset [o0, o1, o2, o3] ++ List.replicate (codingScheme2DataBlockLen x.mcs
        - (alignedBlock x ext).tail.length) 0x2b)
      = .ok (readBackHdr (fixEgprsUlMacDataHeader x)) := by
    rw [decEgprsUlMacDataHeader_type3 hmcs, putEgprsDataBlock_hdr]
    exact hdec _ _
  have hbody : alignedBlock x ext ++ junk
      = tiEOctet x.tlli.isSome (egprsUlE x.blocks)
        :: (ext ++ (encTlli (x.tlli.map GprsTlli.reversed) ++ (encPfi x.pfi
          ++ (egprsLlcPayloads x.blocks ++ junk)))) := by
    rw [alignedBlock, encEgprsTlli_eq]
    simp only [List.cons_append, List.append_assoc]
  have hisSome : x.tlli.isSome = (x.tlli.map GprsTlli.reversed).isSome :=
    Option.isSome_map.symm
  refine ⟨_, junk, henc, ?_, by rw [hjunkLen, hblkNo, ← hpadLen], hjunk⟩
  rw [decRlcmacUlEgprsDataBlock]
  simp only [hlen]
  rw [hmac, ok_bind]
  show (getEgprsDataBlock _ type3Offset
    (codingScheme2DataBlockLen x.mcs * 8 + 2) >>= _) = _
  rw [hget, hbody, ok_bind, decTiE_octet, ok_bind, hread, ok_bind, hisSome,
      decTlli_enc, ok_bind]
  show (decPfi x.pfi.isSome _ >>= _) = _
  rw [decPfi_enc, ok_bind]

/-- A list of LLC segments that agrees with its length indicators and E bits:
    segments with headers, then perhaps one that has none. -/
inductive EgprsConsistent : List EgprsLlcBlock → Prop where
  | headed {bs : List EgprsLlcBlock} : egprsLayout.Headed bs →
      EgprsConsistent bs
  | tail {bs : List EgprsLlcBlock} {t : EgprsLlcBlock} :
      egprsLayout.Headed bs → t.hdr = none → EgprsConsistent (bs ++ [t])

/-- The octets of header and data fit the coding scheme. -/
def EgprsFits (x : RlcmacUlEgprsDataBlock) : Prop :=
  4 + (1 + (egprsLayout.headers (x.blocks.getD [])).length
    + (encEgprsTlli x.tlli).length + (encPfi x.pfi).length
    + (egprsLlcPayloads x.blocks).length)
    ≤ fRlcmacCsMcs2blockLenNoSpareBits x.mcs

/-- The payloads of the segments, in order. -/
def egprsSegments (x : RlcmacUlEgprsDataBlock) : List (List UInt8) :=
  (x.blocks.getD []).map EgprsLlcBlock.payload

/-- The data fill the block to its last octet. -/
def EgprsFills (x : RlcmacUlEgprsDataBlock) : Prop :=
  4 + (1 + (egprsLayout.headers (x.blocks.getD [])).length
    + (encEgprsTlli x.tlli).length + (encPfi x.pfi).length
    + (egprsLlcPayloads x.blocks).length)
    = fRlcmacCsMcs2blockLenNoSpareBits x.mcs

/-- The payloads of the segments, except that padding may trail the last one if
    it has no header.  A segment with a length indicator has its own octets
    alone. -/
def SameUpToPadding (bs : List EgprsLlcBlock) (ys : List (List UInt8)) : Prop :=
  ys = bs.map EgprsLlcBlock.payload ∨ ∃ init last pad, bs = init ++ [last]
    ∧ last.hdr = none ∧ IsPadding pad
    ∧ ys = init.map EgprsLlcBlock.payload ++ [last.payload ++ pad]

/-- As many segments come back. -/
theorem SameUpToPadding.length_eq {bs : List EgprsLlcBlock} {ys : List (List UInt8)}
    (h : SameUpToPadding bs ys) : bs.length = ys.length := by
  rcases h with heq | ⟨init, last, pad, hx, -, -, hy⟩
  · rw [heq, List.length_map]
  · rw [hx, hy, List.length_append, List.length_append, List.length_map]
    rfl

/-- Behind a single segment there may be padding only. -/
theorem SameUpToPadding.single {t : EgprsLlcBlock} {junk : List UInt8}
    (h : SameUpToPadding [t] [t.payload ++ junk]) : IsPadding junk := by
  rcases h with heq | ⟨init, last, pad, hbs, -, hpad, hys⟩
  · rw [List.append_right_eq_self.mp (List.cons.inj heq).1]
    exact ⟨0, 0, rfl⟩
  · cases init with
    | nil =>
        rw [← (List.cons.inj hbs).1] at hys
        rw [List.append_cancel_left (List.cons.inj hys).1]
        exact hpad
    | cons b init => exact absurd (List.cons.inj hbs).2 (by simp)

/-- What encoding and decoding is to preserve.  Type 3 has no second BSN, and
    the presence of the PFI is recomputed. -/
def EgprsUlRoundTrips (heap : Heap) (x : RlcmacUlEgprsDataBlock) : Prop :=
  ∃ o y, encRlcmacUlEgprsDataBlock heap x = .ok o
    ∧ decRlcmacUlEgprsDataBlock o = .ok y
    ∧ y.macHdr = { fixEgprsUlMacDataHeader x with bsn2Offset := none }
    ∧ y.tlli = x.tlli ∧ y.pfi = x.pfi
    ∧ SameUpToPadding (x.blocks.getD []) (egprsSegments y)

/-- SPB reads the same in both orders. -/
theorem readBackHdr_eq {x : RlcmacUlEgprsDataBlock} {spb : Bool × Bool}
    (htype : x.macHdr.headerType = .type3) (hspb : x.macHdr.spb = some spb) :
    readBackHdr (fixEgprsUlMacDataHeader x)
        = { fixEgprsUlMacDataHeader x with bsn2Offset := none }
      ↔ spb.1 = spb.2 := by
  obtain ⟨s0, s1⟩ := spb
  constructor
  · intro h
    have hs : (fixEgprsUlMacDataHeader x).spb.map swapSpb
        = (fixEgprsUlMacDataHeader x).spb :=
      congrArg EgprsUlMacDataHeader.spb h
    have hx : (fixEgprsUlMacDataHeader x).spb = some (s0, s1) := hspb
    rw [hx] at hs
    exact (congrArg Prod.snd (Option.some.inj hs))
  · intro h
    have h' : s0 = s1 := h
    have hx : (fixEgprsUlMacDataHeader x).spb = some (s0, s1) := hspb
    have ht : (fixEgprsUlMacDataHeader x).headerType = .type3 := htype
    have hs : (fixEgprsUlMacDataHeader x).spb.map swapSpb
        = (fixEgprsUlMacDataHeader x).spb := by
      rw [hx, h']
      rfl
    rw [readBackHdr, hs, ← ht]

/-- The order does not matter to a TLLI that reads the same both ways. -/
theorem reversed_eq_iff (t : Option GprsTlli) :
    t.map GprsTlli.reversed = t
      ↔ ∀ t', t = some t' → t'.octets.reverse = t'.octets := by
  cases t with
  | none => exact ⟨fun _ _ h => (nomatch h), fun _ => rfl⟩
  | some t =>
      obtain ⟨octets, hlen⟩ := t
      constructor
      · intro h t' ht'
        rw [← Option.some.inj ht']
        exact congrArg GprsTlli.octets (Option.some.inj h)
      · intro h
        have hrev : octets.reverse = octets := h _ rfl
        show some (GprsTlli.mk octets.reverse _) = _
        simp only [hrev]

/-- Headers are encoded while the lengths fit. -/
theorem encEgprsLlcHdrs_headed : ∀ {bs : List EgprsLlcBlock},
    egprsLayout.Headed bs → (∀ b ∈ bs, b.payload.length < 128) →
    encEgprsLlcHdrs bs = .ok ((egprsLayout.headers bs).map
      (fun h => UInt8.ofNat (h.lengthInd * 2 + bit h.e))) := by
  intro bs
  induction bs with
  | nil => intro _ _; rfl
  | cons b bs ih =>
      intro hh hs
      obtain ⟨⟨h, hb, hli, -⟩, hrest⟩ := hh
      have hb' : b.hdr = some h := hb
      have hli' : h.lengthInd = b.payload.length := hli
      have hlt : h.lengthInd < 128 := by
        rw [hli']
        exact hs b List.mem_cons_self
      rw [encEgprsLlcHdrs, ih hrest (fun c hc => hs c (List.mem_cons_of_mem _ hc)),
          Layout.headers_cons hb]
      simp only [hb', encEgprsLlcBlockHdr]
      rw [if_pos hlt]
      rfl

/-- A trailing block without header adds no extension octet. -/
theorem encEgprsLlcHdrs_append_tail (bs : List EgprsLlcBlock)
    {t : EgprsLlcBlock} (ht : t.hdr = none) :
    encEgprsLlcHdrs (bs ++ [t]) = encEgprsLlcHdrs bs := by
  induction bs with
  | nil =>
      obtain ⟨th, tp⟩ := t
      cases th with
      | none => rfl
      | some h => exact nomatch ht
  | cons b bs ih => rw [List.cons_append, encEgprsLlcHdrs, ih, encEgprsLlcHdrs]

/-- A block with headed segments has E cleared. -/
theorem egprsUlE_headed {bs tl : List EgprsLlcBlock} (hne : bs ≠ [])
    (hh : egprsLayout.Headed bs) : egprsUlE (some (bs ++ tl)) = false := by
  cases bs with
  | nil => exact absurd rfl hne
  | cons b bs =>
      obtain ⟨⟨h, hb, -, -⟩, -⟩ := hh
      have hb' : b.hdr = some h := hb
      cases hr : bs ++ tl with
      | nil =>
          rw [List.cons_append, hr]
          show b.hdr.isNone = false
          rw [hb']
          rfl
      | cons c cs =>
          rw [List.cons_append, hr]
          rfl

/-- Payloads of a block that fits are short. -/
theorem egprsShort_of_fits {x : RlcmacUlEgprsDataBlock}
    {bs : List EgprsLlcBlock} (hb : x.blocks = some bs) (hmcs : x.mcs.IsType3)
    (hfit : EgprsFits x) : ∀ b ∈ bs, b.payload.length < 128 := by
  intro b hmem
  obtain ⟨-, hno, -, hlt⟩ := type3_blockLen hmcs
  have hle := length_le_flatMap EgprsLlcBlock.payload hmem
  have hpay : egprsLlcPayloads x.blocks = bs.flatMap EgprsLlcBlock.payload := by
    rw [egprsLlcPayloads, hb]
    rfl
  rw [EgprsFits, hpay, hno] at hfit
  omega

/-- **HEADED SEGMENTS COME BACK, A TAIL IS LOST.** -/
theorem egprsUl_dec_enc_headed {x : RlcmacUlEgprsDataBlock} (heap : Heap)
    {bs tl : List EgprsLlcBlock} {spb : Bool × Bool}
    (hb : x.blocks = some (bs ++ tl)) (hne : bs ≠ [])
    (hh : egprsLayout.Headed bs)
    (htl : tl = [] ∨ ∃ t, tl = [t] ∧ t.hdr = none)
    (htype : x.macHdr.headerType = .type3) (hspb : x.macHdr.spb = some spb)
    (hmcs : x.mcs.IsType3) (hfit : EgprsFits x) :
    ∃ o, encRlcmacUlEgprsDataBlock heap x = .ok o
      ∧ decRlcmacUlEgprsDataBlock o = .ok {
          mcs := x.mcs
          macHdr := readBackHdr (fixEgprsUlMacDataHeader x)
          tlliInd := x.tlli.isSome
          e := false
          tlli := x.tlli.map GprsTlli.reversed
          pfi := x.pfi
          blocks := some bs } := by
  have hshort := egprsShort_of_fits hb hmcs hfit
  have hs : ∀ b ∈ bs, b.payload.length < 128 :=
    fun b hmem => hshort b (List.mem_append_left _ hmem)
  have he : egprsUlE x.blocks = false := by
    rw [hb]
    exact egprsUlE_headed hne hh
  have hhdrs : encEgprsLlcHdrs (bs ++ tl) = encEgprsLlcHdrs bs := by
    rcases htl with rfl | ⟨t, rfl, ht⟩
    · rw [List.append_nil]
    · exact encEgprsLlcHdrs_append_tail bs ht
  have hext : encEgprsExtension (egprsUlE x.blocks) x.blocks
      = .ok ((egprsLayout.headers bs).map
        (fun h => UInt8.ofNat (h.lengthInd * 2 + bit h.e))) := by
    rw [he, hb, encEgprsExtension, if_neg Bool.false_ne_true]
    exact hhdrs.trans (encEgprsLlcHdrs_headed hh hs)
  have hoct : ∀ h ∈ egprsLayout.headers bs,
      egprsLayout.dec (UInt8.ofNat (h.lengthInd * 2 + bit h.e)) = h := by
    intro h hmem
    obtain ⟨b, hbm, hlen⟩ := hh.len_mem h hmem
    have hlt : h.lengthInd < 128 := by
      have hlen' : h.lengthInd = b.payload.length := hlen
      rw [hlen']
      exact hs b hbm
    exact decEgprsLlcBlockHdr_octet hlt
  have hread : ∀ rest, decEgprsExtension (egprsUlE x.blocks)
      ((egprsLayout.headers bs).map
        (fun h => UInt8.ofNat (h.lengthInd * 2 + bit h.e)) ++ rest)
      = .ok (egprsLayout.headers bs, rest) := by
    intro rest
    rw [he, decEgprsExtension, if_neg Bool.false_ne_true,
        Layout.readHdrs_map hne hh hoct rest]
  have hheaders : (egprsLayout.headers bs).length
      ≤ (egprsLayout.headers (x.blocks.getD [])).length := by
    rw [hb]
    show _ ≤ (egprsLayout.headers (bs ++ tl)).length
    rw [Layout.headers, Layout.headers, List.filterMap_append,
        List.length_append]
    exact Nat.le_add_right _ _
  have hlen : 4 + (alignedBlock x ((egprsLayout.headers bs).map
      (fun h => UInt8.ofNat (h.lengthInd * 2 + bit h.e)))).length
      ≤ fRlcmacCsMcs2blockLenNoSpareBits x.mcs := by
    rw [EgprsFits] at hfit
    simp only [alignedBlock, List.length_cons, List.length_append,
      List.length_map]
    omega
  obtain ⟨o, junk, henc, hdec, -⟩ :=
    egprsUl_dec_enc heap htype hspb hmcs hext hread hlen
  have hpay : egprsLlcPayloads x.blocks
      = bs.flatMap EgprsLlcBlock.payload ++ tl.flatMap EgprsLlcBlock.payload := by
    rw [egprsLlcPayloads, hb]
    exact List.flatMap_append
  have hslice : egprsLayout.slices (egprsLayout.headers bs)
      (egprsLlcPayloads x.blocks ++ junk) = bs := by
    rw [hpay, List.append_assoc]
    exact Layout.slices_headed hh _
  rw [he, if_neg Bool.false_ne_true, hslice] at hdec
  exact ⟨o, henc, hdec⟩

/-- **A SINGLE SEGMENT WITHOUT HEADER** comes back with what fills the block up,
    which is no padding. -/
theorem egprsUl_dec_enc_single {x : RlcmacUlEgprsDataBlock} (heap : Heap)
    {t : EgprsLlcBlock} {spb : Bool × Bool} (hb : x.blocks = some [t])
    (ht : t.hdr = none) (htype : x.macHdr.headerType = .type3)
    (hspb : x.macHdr.spb = some spb) (hmcs : x.mcs.IsType3)
    (hfit : EgprsFits x) :
    ∃ o junk, encRlcmacUlEgprsDataBlock heap x = .ok o
      ∧ decRlcmacUlEgprsDataBlock o = .ok {
          mcs := x.mcs
          macHdr := readBackHdr (fixEgprsUlMacDataHeader x)
          tlliInd := x.tlli.isSome
          e := true
          tlli := x.tlli.map GprsTlli.reversed
          pfi := x.pfi
          blocks := some [⟨none, t.payload ++ junk⟩] }
      ∧ (EgprsFills x ↔ junk = []) ∧ (IsPadding junk → junk = []) := by
  have he : egprsUlE x.blocks = true := by
    rw [hb]
    show t.hdr.isNone = true
    rw [ht]
    rfl
  have hext : encEgprsExtension (egprsUlE x.blocks) x.blocks = .ok [] := by
    rw [he]
    rfl
  have hread : ∀ rest, decEgprsExtension (egprsUlE x.blocks) ([] ++ rest)
      = .ok ([], rest) := by
    intro rest
    rw [he]
    rfl
  have hheaders : (egprsLayout.headers (x.blocks.getD [])).length = 0 := by
    have hnone : egprsLayout.hdr t = none := ht
    rw [hb]
    show (egprsLayout.headers [t]).length = 0
    rw [Layout.headers, List.filterMap_cons_none hnone]
    rfl
  have hsize : 4 + (alignedBlock x []).length
      = 4 + (1 + (egprsLayout.headers (x.blocks.getD [])).length
        + (encEgprsTlli x.tlli).length + (encPfi x.pfi).length
        + (egprsLlcPayloads x.blocks).length) := by
    simp only [alignedBlock, List.length_cons, List.length_append, List.length_nil, hheaders]
    omega
  have hlen : 4 + (alignedBlock x []).length ≤ fRlcmacCsMcs2blockLenNoSpareBits x.mcs := by
    rw [hsize]
    exact hfit
  obtain ⟨o, junk, henc, hdec, hjunkLen, hjunk⟩ :=
    egprsUl_dec_enc heap htype hspb hmcs hext hread hlen
  have hpay : egprsLlcPayloads x.blocks = t.payload := by
    rw [egprsLlcPayloads, hb]
    exact List.append_nil _
  rw [he, if_pos rfl, hpay] at hdec
  refine ⟨o, junk, henc, hdec, ?_, hjunk⟩
  rw [EgprsFills, ← hsize, ← List.length_eq_zero_iff, hjunkLen]
  omega

/-- The decoder never reports an empty list of segments. -/
theorem egprsDec_segments_ne_nil {o : List UInt8} {y : RlcmacUlEgprsDataBlock}
    (h : decRlcmacUlEgprsDataBlock o = .ok y) : egprsSegments y ≠ [] := by
  obtain ⟨hdr, -, h⟩ := bind_ok (show Except.bind _ _ = _ from h)
  obtain ⟨aligned, -, h⟩ := bind_ok (show Except.bind _ _ = _ from h)
  obtain ⟨⟨ti, e, buf⟩, -, h⟩ := bind_ok (show Except.bind _ _ = _ from h)
  obtain ⟨⟨hdrs, buf1⟩, hext, h⟩ := bind_ok (show Except.bind _ _ = _ from h)
  obtain ⟨⟨tlli, buf2⟩, -, h⟩ := bind_ok (show Except.bind _ _ = _ from h)
  obtain ⟨⟨pfi, buf3⟩, -, h⟩ := bind_ok (show Except.bind _ _ = _ from h)
  have hext' : decEgprsExtension e buf = .ok (hdrs, buf1) := hext
  have hy : y.blocks = some (if e then [⟨none, buf3⟩]
      else egprsLayout.slices hdrs buf3) := by
    rw [← Except.ok.inj h]
  rw [egprsSegments, hy]
  intro hnil
  have hzero : (if e then [⟨none, buf3⟩]
      else egprsLayout.slices hdrs buf3).length = 0 :=
    List.length_eq_zero_iff.mpr (List.map_eq_nil_iff.mp hnil)
  cases e with
  | true => exact nomatch hzero
  | false =>
      rw [if_neg Bool.false_ne_true, Layout.slices_length] at hzero
      rw [decEgprsExtension, if_neg Bool.false_ne_true] at hext'
      cases hr : egprsLayout.readHdrs buf with
      | none =>
          rw [hr] at hext'
          exact nomatch hext'
      | some r =>
          rw [hr] at hext'
          rw [Except.ok.inj hext'] at hr
          exact Layout.readHdrs_ne_nil hr (List.length_eq_zero_iff.mp hzero)

/-- **WHEN THE EGPRS UPLINK DATA BLOCK ROUND TRIPS**: a consistent type 3 block
    that fits comes back iff it has a segment, either every segment has a
    header or there is just one that fills the block, both bits of SPB are the
    same, and the TLLI is the same read backwards.  Whatever the heap holds,
    what follows a segment that does not fill the block is not padding. -/
theorem egprsUlRoundTrips_iff (heap : Heap) (x : RlcmacUlEgprsDataBlock)
    {bs : List EgprsLlcBlock} {spb : Bool × Bool} (hb : x.blocks = some bs)
    (hc : EgprsConsistent bs) (htype : x.macHdr.headerType = .type3)
    (hspb : x.macHdr.spb = some spb) (hmcs : x.mcs.IsType3)
    (hfit : EgprsFits x) :
    EgprsUlRoundTrips heap x ↔
      bs ≠ [] ∧ ((∀ b ∈ bs, b.hdr.isSome = true) ∨ bs.length = 1 ∧ EgprsFills x)
        ∧ spb.1 = spb.2
        ∧ ∀ t, x.tlli = some t → t.octets.reverse = t.octets := by
  rw [← readBackHdr_eq htype hspb, ← reversed_eq_iff x.tlli]
  have hseg : x.blocks.getD [] = bs := by
    rw [hb]
    rfl
  constructor
  · rintro ⟨o, y, henc, hdec, hmac, htlli, -, hsame⟩
    rw [hseg] at hsame
    have hcount := hsame.length_eq
    have hne : bs ≠ [] := by
      rintro rfl
      exact egprsDec_segments_ne_nil hdec (List.length_eq_zero_iff.mp hcount.symm)
    refine ⟨hne, ?_⟩
    cases hc with
    | headed hh =>
        rw [← List.append_nil bs] at hb
        obtain ⟨o', henc', hdec'⟩ := egprsUl_dec_enc_headed heap hb hne hh
          (Or.inl rfl) htype hspb hmcs hfit
        rw [Except.ok.inj (henc.symm.trans henc')] at hdec
        rw [Except.ok.inj (hdec.symm.trans hdec')] at hmac htlli
        exact ⟨Or.inl hh.isSome, hmac, htlli⟩
    | @tail ds t hh ht =>
        by_cases hds : ds = []
        · subst hds
          obtain ⟨o', junk, henc', hdec', hfills, hjunk⟩ := egprsUl_dec_enc_single heap hb ht
            htype hspb hmcs hfit
          rw [Except.ok.inj (henc.symm.trans henc')] at hdec
          rw [Except.ok.inj (hdec.symm.trans hdec')] at hmac htlli hsame
          exact ⟨Or.inr ⟨rfl, hfills.mpr (hjunk hsame.single)⟩, hmac, htlli⟩
        · obtain ⟨o', henc', hdec'⟩ := egprsUl_dec_enc_headed heap hb hds hh
            (Or.inr ⟨t, rfl, ht⟩) htype hspb hmcs hfit
          rw [Except.ok.inj (henc.symm.trans henc')] at hdec
          rw [Except.ok.inj (hdec.symm.trans hdec')] at hcount
          have hlen : (ds ++ [t]).length = (ds.map EgprsLlcBlock.payload).length :=
            hcount
          rw [List.length_append, List.length_map] at hlen
          exact absurd hlen (Nat.succ_ne_self _)
  · rintro ⟨hne, hform, hmac, htlli⟩
    cases hc with
    | headed hh =>
        rw [← List.append_nil bs] at hb
        obtain ⟨o, henc, hdec⟩ := egprsUl_dec_enc_headed heap hb hne hh
          (Or.inl rfl) htype hspb hmcs hfit
        refine ⟨o, _, henc, hdec, hmac, htlli, rfl, Or.inl ?_⟩
        rw [hseg]
        rfl
    | @tail ds t hh ht =>
        have hds : ds = [] := tail_alone ht (hform.imp_right And.left)
        subst hds
        have hfills : EgprsFills x := by
          refine hform.elim (fun hall => ?_) And.right
          have hsome := hall t List.mem_cons_self
          rw [ht] at hsome
          exact nomatch hsome
        obtain ⟨o, junk, henc, hdec, hiff, -⟩ := egprsUl_dec_enc_single heap hb ht
          htype hspb hmcs hfit
        rw [hiff.mp hfills, List.append_nil] at hdec
        refine ⟨o, _, henc, hdec, hmac, htlli, rfl, Or.inl ?_⟩
        rw [hseg]
        rfl

/-- An MCS-1 block with the TLLI and the LLC blocks given. -/
def mcs1Block (tlli : Option GprsTlli) (bs : List EgprsLlcBlock) :
    RlcmacUlEgprsDataBlock where
  mcs := .mcs1
  macHdr := {
    headerType := .type3, tfi := 3, countdown := 15, foiSi := false, rRi := false
    bsn1 := 1029, bsn2Offset := none, cps := 11, pfiInd := false, rsb := false
    spb := some (false, false) }
  tlliInd := tlli.isSome
  e := false
  tlli := tlli
  pfi := none
  blocks := some bs

/-- Two PDUs, each with its length indicator. -/
def twoEgprsHeaded : List EgprsLlcBlock :=
  [⟨some ⟨2, false⟩, [0x0a, 0x0b]⟩, ⟨some ⟨1, true⟩, [0x0c]⟩]

/-- Both segments have headers. -/
theorem twoEgprsHeaded_headed : egprsLayout.Headed twoEgprsHeaded :=
  ⟨⟨_, rfl, rfl, by decide⟩, ⟨_, rfl, rfl, by decide⟩, trivial⟩

/-- Two headed segments come back. -/
theorem egprsUlRoundTrips_iff_twoHeaded :
    EgprsUlRoundTrips ⟨fun _ => 0, fun _ => 0⟩ (mcs1Block none twoEgprsHeaded) :=
  (egprsUlRoundTrips_iff _ (mcs1Block none twoEgprsHeaded) rfl
    (.headed twoEgprsHeaded_headed) rfl rfl trivial (show _ ≤ 27 by decide)).mpr
    ⟨by decide, Or.inl (by decide), rfl, fun _ h => (nomatch h)⟩

/-- A block with a TLLI. -/
def tlliBlock : RlcmacUlEgprsDataBlock :=
  mcs1Block (some someTlli) twoEgprsHeaded

/-- **A TLLI COMES BACK REVERSED**, whatever the heap holds. -/
theorem tlli_reversed :
    EgprsConsistent twoEgprsHeaded
      ∧ EgprsFits tlliBlock
      ∧ ∀ heap, ¬ EgprsUlRoundTrips heap tlliBlock := by
  have hfit : EgprsFits tlliBlock := show _ ≤ 27 by decide
  refine ⟨.headed twoEgprsHeaded_headed, hfit, ?_⟩
  rintro heap ⟨o, y, henc, hdec, -, htlli, -⟩
  obtain ⟨o', henc', hdec'⟩ := @egprsUl_dec_enc_headed tlliBlock heap
    twoEgprsHeaded [] _ rfl (by decide) twoEgprsHeaded_headed (Or.inl rfl) rfl rfl trivial hfit
  rw [Except.ok.inj (henc.symm.trans henc')] at hdec
  rw [Except.ok.inj (hdec.symm.trans hdec')] at htlli
  have hrev : [0x03, 0x02, 0x01, 0xc0] = [(0xc0 : UInt8), 0x01, 0x02, 0x03] :=
    congrArg GprsTlli.octets (Option.some.inj htlli)
  exact absurd hrev (by decide)

end OsmoRlcmac
