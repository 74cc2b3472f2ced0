import OsmoTtcn.RlcmacTypesProofs

/-! # GPRS uplink RLC data blocks

    `enc_RlcmacUlDataBlock` and `dec_RlcmacUlDataBlock` walk the same octets
    with two separate loops each: the extension octets up to the one with E=1,
    and the payloads.  The encoder also recomputes the presence bits and pads
    the block.

    The route: the header, the extension octets and the payloads are read back
    one after the other (`decLlcHdrs_enc`, `slicePayloads_headed`).  The
    decoder gives a payload to every header and to nothing else, so a last
    segment without a header, which M=1 announces and the encoder writes, is
    lost: `ulRoundTrips_iff`. -/

namespace OsmoRlcmac

open OsmoTitan WireOctet

/-- TS 44.060 10.2.2 -/
structure RlcmacUlDataBlock where
  cs : CodingScheme
  macHdr : UlMacDataHeader
  tlli : Option GprsTlli
  pfi : Option RlcMacUlPfi
  /-- `none`: the field is unbound. -/
  blocks : Option (List LlcBlock)
  deriving DecidableEq, Repr

-- ── Decoder ──────────────────────────────────────────────────────────────────

/-- The extension octets: one header more until E=1. -/
def decLlcHdrs : List UInt8 → Except Fault (List LlcBlockHdr × List UInt8)
  | [] => .error .rawIncomplete
  | o :: rest =>
      if (decLlcBlockHdr o).e then .ok ([decLlcBlockHdr o], rest)
      else
        match decLlcHdrs rest with
        | .error f => .error f
        | .ok (hdrs, rest') => .ok (decLlcBlockHdr o :: hdrs, rest')

/-- Optional extension octets, containing LI+M+E of Llc blocks. -/
def decExtension (e : Bool) (buf : List UInt8) :
    Except Fault (List LlcBlockHdr × List UInt8) :=
  if e then .ok ([], buf) else decLlcHdrs buf

/-- Four octets that nothing checks to be there. -/
def takeTlli (buf : List UInt8) : Except Fault (GprsTlli × List UInt8) :=
  if h : 4 ≤ buf.length then
    .ok (⟨buf.take 4, List.length_take_of_le h⟩, buf.drop 4)
  else .error .overread

/-- The TLLI, if the header says that there is one. -/
def decTlli (tlliInd : Bool) (buf : List UInt8) :
    Except Fault (Option GprsTlli × List UInt8) :=
  if tlliInd then (takeTlli buf).map (fun r => (some r.1, r.2))
  else .ok (none, buf)

/-- The PFI, if the header says that there is one. -/
def decPfi (pfiInd : Bool) (buf : List UInt8) :
    Except Fault (Option RlcMacUlPfi × List UInt8) :=
  if pfiInd then (decRlcMacUlPfi buf).map (fun r => (some r.1, r.2))
  else .ok (none, buf)

/-- The payload of each header, cut to what is left. -/
def slicePayloads : List LlcBlockHdr → List UInt8 → List LlcBlock
  | [], _ => []
  | h :: hs, buf =>
      let length := min h.lengthInd buf.length
      ⟨some h, buf.take length⟩ :: slicePayloads hs (buf.drop length)

/-- `dec__RlcmacUlDataBlock` -/
def decRlcmacUlDataBlock (stream : List UInt8) :
    Except Fault RlcmacUlDataBlock := do
  let (macHdr, buf) ← decUlMacDataHeader stream
  let (hdrs, buf) ← decExtension macHdr.e buf
  let (tlli, buf) ← decTlli macHdr.tlliInd buf
  let (pfi, buf) ← decPfi macHdr.pfiInd buf
  .ok {
    cs := payloadLen2CodingScheme stream.length
    macHdr := macHdr
    tlli := tlli
    pfi := pfi
    blocks := some (if macHdr.e then [⟨none, buf⟩] else slicePayloads hdrs buf) }

-- ── Encoder ──────────────────────────────────────────────────────────────────

/-- Padding and spare octets at the end, based on the requested CS.  A buffer
    that is too large is only reported on stderr. -/
def encodeTrailingPaddingSpb (buf : List UInt8) (cs : CodingScheme) :
    List UInt8 :=
  let blkLen := fRlcmacCsMcs2blockLen cs
  let blkLenNoSpb := fRlcmacCsMcs2blockLenNoSpareBits cs
  if blkLenNoSpb < buf.length then buf
  else buf ++ (List.replicate (blkLenNoSpb - buf.length) 0x2b
    ++ List.replicate (blkLen - blkLenNoSpb) 0x00)

/-- E of the MAC header: set for a single block that has no header. -/
def ulHdrE : Option (List LlcBlock) → Bool
  | some [b] => b.hdr.isNone
  | _ => false

/-- The header with its presence indications recomputed. -/
def fixUlMacDataHeader (x : RlcmacUlDataBlock) : UlMacDataHeader :=
  { x.macHdr with
    e := ulHdrE x.blocks
    tlliInd := x.tlli.isSome
    pfiInd := x.pfi.isSome }

/-- The headers of the blocks that have one. -/
def encLlcHdrs : List LlcBlock → Except Fault (List UInt8)
  | [] => .ok []
  | b :: bs => do
      let o ← match b.hdr with
        | none => .ok []
        | some h => encLlcBlockHdr h
      let os ← encLlcHdrs bs
      .ok (o ++ os)

/-- The LI octets, if any.  Unbound blocks get one: M=0, E=1, LEN=0. -/
def encExtension (e : Bool) (blocks : Option (List LlcBlock)) :
    Except Fault (List UInt8) :=
  if e then .ok []
  else
    match blocks with
    | none => .ok [0x01]
    | some bs => encLlcHdrs bs

/-- The payloads, one after the other. -/
def llcPayloads (blocks : Option (List LlcBlock)) : List UInt8 :=
  (blocks.getD []).flatMap LlcBlock.payload

/-- The TLLI, if there is one. -/
def encTlli : Option GprsTlli → List UInt8
  | none => []
  | some t => t.octets

/-- The PFI, if there is one. -/
def encPfi : Option RlcMacUlPfi → List UInt8
  | none => []
  | some p => encRlcMacUlPfi p

/-- `enc__RlcmacUlDataBlock` -/
def encRlcmacUlDataBlock (x : RlcmacUlDataBlock) :
    Except Fault (List UInt8) := do
  let hdr := fixUlMacDataHeader x
  let ext ← encExtension hdr.e x.blocks
  .ok (encodeTrailingPaddingSpb
    (encUlMacDataHeader hdr ++ (ext ++ (encTlli x.tlli ++ (encPfi x.pfi
      ++ llcPayloads x.blocks)))) x.cs)

-- ── Reading the optional parts back ──────────────────────────────────────────

theorem decTlli_enc (t : Option GprsTlli) (rest : List UInt8) :
    decTlli t.isSome (encTlli t ++ rest) = .ok (t, rest) := by
  cases t with
  | none => rfl
  | some t =>
      obtain ⟨octets, hlen⟩ := t
      have hle : 4 ≤ (octets ++ rest).length := by
        rw [List.length_append]
        omega
      have htake : (octets ++ rest).take 4 = octets := by
        rw [← hlen, List.take_left]
      have hdrop : (octets ++ rest).drop 4 = rest := by
        rw [← hlen, List.drop_left]
      show (takeTlli (octets ++ rest)).map (fun r => (some r.1, r.2)) = _
      rw [takeTlli, dif_pos hle]
      show Except.ok (some (GprsTlli.mk ((octets ++ rest).take 4) _),
        (octets ++ rest).drop 4) = _
      simp only [htake, hdrop]

theorem decPfi_enc (p : Option RlcMacUlPfi) (rest : List UInt8) :
    decPfi p.isSome (encPfi p ++ rest) = .ok (p, rest) := by
  cases p with
  | none => rfl
  | some p =>
      show (decRlcMacUlPfi (encRlcMacUlPfi p ++ rest)).map
        (fun r => (some r.1, r.2)) = _
      rw [decRlcMacUlPfi_enc]
      rfl

-- ── Reading the LLC blocks back ──────────────────────────────────────────────

/-- Every block has a header with the length of its payload, and E is set in
    the last header only. -/
def Headed : List LlcBlock → Prop
  | [] => True
  | b :: bs => (∃ h, b.hdr = some h ∧ h.lengthInd = b.payload.length
      ∧ (h.e = true ↔ bs = [])) ∧ Headed bs

/-- The header of a block that has one. -/
def LlcBlock.headers (b : LlcBlock) : List LlcBlockHdr := b.hdr.toList

/-- The octets of a list of headers. -/
def hdrOctets (hs : List LlcBlockHdr) : List UInt8 :=
  hs.map (fun h => UInt8.ofNat (h.lengthInd * 4 + bit h.more * 2 + bit h.e))

/-- A headed block is short enough for its length indicator. -/
def Short (bs : List LlcBlock) : Prop := ∀ b ∈ bs, b.payload.length < 64

theorem Short.tail {b : LlcBlock} {bs : List LlcBlock} (h : Short (b :: bs)) :
    Short bs :=
  fun c hc => h c (List.mem_cons_of_mem _ hc)

theorem encLlcHdrs_headed : ∀ {bs : List LlcBlock}, Headed bs → Short bs →
    encLlcHdrs bs = .ok (hdrOctets (bs.flatMap LlcBlock.headers)) := by
  intro bs
  induction bs with
  | nil => intro _ _; rfl
  | cons b bs ih =>
      intro hh hs
      obtain ⟨⟨h, hb, hli, -⟩, hrest⟩ := hh
      have hlt : h.lengthInd < 64 := by
        rw [hli]
        exact hs b List.mem_cons_self
      have henc : encLlcBlockHdr h = .ok
          [UInt8.ofNat (h.lengthInd * 4 + bit h.more * 2 + bit h.e)] :=
        if_pos hlt
      rw [encLlcHdrs, hb, ih hrest hs.tail]
      show (encLlcBlockHdr h).bind _ = _
      rw [henc, List.flatMap_cons, LlcBlock.headers, hb]
      rfl

/-- A trailing block without header adds no extension octet. -/
theorem encLlcHdrs_append_tail (bs : List LlcBlock) {t : LlcBlock}
    (ht : t.hdr = none) : encLlcHdrs (bs ++ [t]) = encLlcHdrs bs := by
  induction bs with
  | nil =>
      obtain ⟨th, tp⟩ := t
      cases th with
      | none => rfl
      | some h => exact nomatch ht
  | cons b bs ih => rw [List.cons_append, encLlcHdrs, ih, encLlcHdrs]

/-- **EXTENSION OCTETS ROUND TRIP.** -/
theorem decLlcHdrs_enc : ∀ {bs : List LlcBlock}, bs ≠ [] → Headed bs → Short bs →
    ∀ rest, decLlcHdrs (hdrOctets (bs.flatMap LlcBlock.headers) ++ rest)
      = .ok (bs.flatMap LlcBlock.headers, rest) := by
  intro bs
  induction bs with
  | nil => intro hne; exact absurd rfl hne
  | cons b bs ih =>
      intro _ hh hs rest
      obtain ⟨⟨h, hb, hli, he⟩, hrest⟩ := hh
      have hlt : h.lengthInd < 64 := by
        rw [hli]
        exact hs b List.mem_cons_self
      have hhead : LlcBlock.headers b = [h] := by rw [LlcBlock.headers, hb]; rfl
      rw [List.flatMap_cons, hhead]
      show decLlcHdrs (UInt8.ofNat (h.lengthInd * 4 + bit h.more * 2 + bit h.e)
        :: (hdrOctets (bs.flatMap LlcBlock.headers) ++ rest)) = _
      rw [decLlcHdrs, decLlcBlockHdr_octet hlt]
      cases bs with
      | nil =>
          rw [if_pos (he.mpr rfl)]
          rfl
      | cons c cs =>
          have hne : ¬ h.e = true := fun h1 => List.cons_ne_nil _ _ (he.mp h1)
          rw [if_neg hne, ih (List.cons_ne_nil _ _) hrest hs.tail rest]
          rfl

/-- **PAYLOADS ROUND TRIP**: headed blocks are cut out again. -/
theorem slicePayloads_headed : ∀ {bs : List LlcBlock}, Headed bs → ∀ rest,
    slicePayloads (bs.flatMap LlcBlock.headers)
      (bs.flatMap LlcBlock.payload ++ rest) = bs := by
  intro bs
  induction bs with
  | nil => intro _ rest; rfl
  | cons b bs ih =>
      intro hh rest
      obtain ⟨⟨h, hb, hli, -⟩, hrest⟩ := hh
      have hhead : LlcBlock.headers b = [h] := by rw [LlcBlock.headers, hb]; rfl
      have hmin : min h.lengthInd (b.payload
          ++ (bs.flatMap LlcBlock.payload ++ rest)).length = b.payload.length := by
        rw [hli, List.length_append]
        omega
      rw [List.flatMap_cons, hhead, List.flatMap_cons, List.append_assoc]
      show LlcBlock.mk (some h) (List.take (min h.lengthInd _) _)
        :: slicePayloads (bs.flatMap LlcBlock.headers)
          (List.drop (min h.lengthInd _) _) = b :: bs
      rw [hmin, List.take_left, List.drop_left, ih hrest rest]
      congr 1
      obtain ⟨bh, bp⟩ := b
      exact congrArg (LlcBlock.mk · bp) hb.symm

theorem slicePayloads_length : ∀ (hs : List LlcBlockHdr) (buf : List UInt8),
    (slicePayloads hs buf).length = hs.length := by
  intro hs
  induction hs with
  | nil => intro buf; rfl
  | cons h hs ih => intro buf; exact congrArg (· + 1) (ih _)

/-- The extension octets are at least one. -/
theorem decLlcHdrs_ne_nil {buf rest : List UInt8} {hdrs : List LlcBlockHdr}
    (h : decLlcHdrs buf = .ok (hdrs, rest)) : hdrs ≠ [] := by
  cases buf with
  | nil => exact nomatch h
  | cons o buf =>
      rw [decLlcHdrs] at h
      by_cases he : (decLlcBlockHdr o).e = true
      · rw [if_pos he] at h
        obtain ⟨hh, -⟩ := Prod.mk.inj (Except.ok.inj h)
        rw [← hh]
        exact List.cons_ne_nil _ _
      · rw [if_neg he] at h
        cases hr : decLlcHdrs buf with
        | error f =>
            rw [hr] at h
            exact nomatch h
        | ok r =>
            rw [hr] at h
            obtain ⟨hh, -⟩ := Prod.mk.inj (Except.ok.inj h)
            rw [← hh]
            exact List.cons_ne_nil _ _

-- ── Padding ──────────────────────────────────────────────────────────────────

/-- What `encode_trailing_padding_spb` appends. -/
def IsPadding (pad : List UInt8) : Prop :=
  ∃ m n, pad = List.replicate m 0x2b ++ List.replicate n 0x00

/-- Data that fit are padded to the length of the radio block. -/
theorem encodeTrailingPaddingSpb_fits {buf : List UInt8} {cs : CodingScheme}
    (h : buf.length ≤ fRlcmacCsMcs2blockLenNoSpareBits cs) :
    ∃ pad, encodeTrailingPaddingSpb buf cs = buf ++ pad ∧ IsPadding pad
      ∧ (buf ++ pad).length = fRlcmacCsMcs2blockLen cs := by
  refine ⟨_, if_neg (Nat.not_lt.mpr h), ⟨_, _, rfl⟩, ?_⟩
  have hle := blockLenNoSpareBits_le cs
  simp only [List.length_append, List.length_replicate]
  omega

-- ── The round trip ───────────────────────────────────────────────────────────

/-- A list of LLC segments that agrees with its length indicators and M/E bits:
    segments with headers, then perhaps one that has none, for which the last
    header has M=1. -/
inductive Consistent : List LlcBlock → Prop where
  | headed {bs : List LlcBlock} : Headed bs → Consistent bs
  | tail {bs : List LlcBlock} {t : LlcBlock} : Headed bs →
      (∀ h, (bs.flatMap LlcBlock.headers).getLast? = some h → h.more = true) →
      t.hdr = none → Consistent (bs ++ [t])

/-- The octets before padding. -/
def ulDataLen (x : RlcmacUlDataBlock) : Nat :=
  3 + ((x.blocks.getD []).flatMap LlcBlock.headers).length
    + (encTlli x.tlli).length + (encPfi x.pfi).length
    + (llcPayloads x.blocks).length

/-- The block fits its coding scheme. -/
def UlFits (x : RlcmacUlDataBlock) : Prop :=
  ulDataLen x ≤ fRlcmacCsMcs2blockLenNoSpareBits x.cs

/-- The payloads of the segments, in order. -/
def segments (x : RlcmacUlDataBlock) : List (List UInt8) :=
  (x.blocks.getD []).map LlcBlock.payload

/-- The same segments, except that padding may trail the last one. -/
def SamePayloads (xs ys : List (List UInt8)) : Prop :=
  xs = ys ∨ ∃ init last pad, xs = init ++ [last] ∧ ys = init ++ [last ++ pad]
    ∧ IsPadding pad

theorem SamePayloads.length_eq {xs ys : List (List UInt8)}
    (h : SamePayloads xs ys) : xs.length = ys.length := by
  rcases h with heq | ⟨init, last, pad, hx, hy, -⟩
  · rw [heq]
  · rw [hx, hy, List.length_append, List.length_append]
    rfl

/-- What encoding and decoding is to preserve. -/
def UlRoundTrips (x : RlcmacUlDataBlock) : Prop :=
  ∃ o y, encRlcmacUlDataBlock x = .ok o ∧ decRlcmacUlDataBlock o = .ok y
    ∧ y.macHdr.tfi = x.macHdr.tfi ∧ y.macHdr.bsn = x.macHdr.bsn
    ∧ y.macHdr.countdown = x.macHdr.countdown
    ∧ y.tlli = x.tlli ∧ y.pfi = x.pfi
    ∧ SamePayloads (segments x) (segments y)

/-- Payloads of a block that fits are short. -/
theorem short_of_fits {x : RlcmacUlDataBlock} {bs : List LlcBlock}
    (hb : x.blocks = some bs) (hcs : x.cs.IsGprs) (hfit : UlFits x) :
    Short bs := by
  intro b hmem
  have hlt := blockLenNoSpareBits_lt hcs
  have hfit' : ulDataLen x ≤ fRlcmacCsMcs2blockLenNoSpareBits x.cs := hfit
  have hle : b.payload.length ≤ (bs.flatMap LlcBlock.payload).length := by
    obtain ⟨pre, post, hsplit⟩ := List.append_of_mem hmem
    rw [hsplit, List.flatMap_append, List.flatMap_cons]
    simp only [List.length_append]
    omega
  have hpay : llcPayloads x.blocks = bs.flatMap LlcBlock.payload := by
    rw [llcPayloads, hb]
    rfl
  rw [ulDataLen, hpay] at hfit'
  omega

/-- The decoder behind the extension octets. -/
theorem dec_of_parts {hdr : UlMacDataHeader} {hdrs : List LlcBlockHdr}
    {ext rest : List UInt8} {tlli : Option GprsTlli} {pfi : Option RlcMacUlPfi}
    (hext : decExtension hdr.e (ext ++ (encTlli tlli ++ (encPfi pfi ++ rest)))
      = .ok (hdrs, encTlli tlli ++ (encPfi pfi ++ rest)))
    (htlli : hdr.tlliInd = tlli.isSome) (hpfi : hdr.pfiInd = pfi.isSome) :
    decRlcmacUlDataBlock (encUlMacDataHeader hdr
        ++ (ext ++ (encTlli tlli ++ (encPfi pfi ++ rest))))
      = .ok {
          cs := payloadLen2CodingScheme (encUlMacDataHeader hdr
            ++ (ext ++ (encTlli tlli ++ (encPfi pfi ++ rest)))).length
          macHdr := hdr
          tlli := tlli
          pfi := pfi
          blocks := some (if hdr.e then [⟨none, rest⟩]
            else slicePayloads hdrs rest) } := by
  rw [decRlcmacUlDataBlock, decUlMacDataHeader_enc]
  show Except.bind (decExtension hdr.e _) _ = _
  rw [hext]
  show Except.bind (decTlli hdr.tlliInd _) _ = _
  rw [htlli, decTlli_enc]
  show Except.bind (decPfi hdr.pfiInd _) _ = _
  rw [hpfi, decPfi_enc]
  rfl

/-- The encoder behind the extension octets, for data that fit: the parts in
    order, and padding up to the length of the radio block. -/
theorem enc_of_parts {x : RlcmacUlDataBlock} {ext : List UInt8}
    (hext : encExtension (ulHdrE x.blocks) x.blocks = .ok ext)
    (hlen : ext.length
      ≤ ((x.blocks.getD []).flatMap LlcBlock.headers).length)
    (hfit : UlFits x) :
    ∃ pad, IsPadding pad
      ∧ encRlcmacUlDataBlock x = .ok (encUlMacDataHeader (fixUlMacDataHeader x)
        ++ (ext ++ (encTlli x.tlli ++ (encPfi x.pfi
          ++ (llcPayloads x.blocks ++ pad)))))
      ∧ (encUlMacDataHeader (fixUlMacDataHeader x)
        ++ (ext ++ (encTlli x.tlli ++ (encPfi x.pfi
          ++ (llcPayloads x.blocks ++ pad))))).length
        = fRlcmacCsMcs2blockLen x.cs := by
  have hfit' : ulDataLen x ≤ fRlcmacCsMcs2blockLenNoSpareBits x.cs := hfit
  have hle : (encUlMacDataHeader (fixUlMacDataHeader x) ++ (ext
      ++ (encTlli x.tlli ++ (encPfi x.pfi ++ llcPayloads x.blocks)))).length
      ≤ fRlcmacCsMcs2blockLenNoSpareBits x.cs := by
    have hhdr : (encUlMacDataHeader (fixUlMacDataHeader x)).length = 3 := rfl
    rw [ulDataLen] at hfit'
    simp only [List.length_append, hhdr]
    omega
  obtain ⟨pad, hpad, hisPad, hpadLen⟩ := encodeTrailingPaddingSpb_fits hle
  simp only [List.append_assoc] at hpad hpadLen
  refine ⟨pad, hisPad, ?_, hpadLen⟩
  rw [encRlcmacUlDataBlock]
  show Except.bind (encExtension (ulHdrE x.blocks) x.blocks) _ = _
  rw [hext]
  exact congrArg Except.ok hpad

/-- A single segment without header is decoded with the padding behind it,
    which fills the radio block. -/
theorem dec_enc_single {x : RlcmacUlDataBlock} {t : LlcBlock}
    (hb : x.blocks = some [t]) (ht : t.hdr = none) (hfit : UlFits x) :
    ∃ o pad, IsPadding pad
      ∧ ulDataLen x + pad.length = fRlcmacCsMcs2blockLen x.cs
      ∧ encRlcmacUlDataBlock x = .ok o
      ∧ decRlcmacUlDataBlock o = .ok {
          cs := payloadLen2CodingScheme (fRlcmacCsMcs2blockLen x.cs)
          macHdr := fixUlMacDataHeader x
          tlli := x.tlli
          pfi := x.pfi
          blocks := some [⟨none, t.payload ++ pad⟩] } := by
  have he : ulHdrE x.blocks = true := by
    rw [hb]
    show t.hdr.isNone = true
    rw [ht]
    rfl
  have hfix : (fixUlMacDataHeader x).e = true := he
  have hpay : llcPayloads x.blocks = t.payload := by
    rw [llcPayloads, hb]
    exact List.append_nil _
  have hext : encExtension (ulHdrE x.blocks) x.blocks = .ok [] := by
    rw [he]
    rfl
  obtain ⟨pad, hisPad, henc, hblk⟩ := enc_of_parts hext (Nat.zero_le _) hfit
  have hnone : decExtension (fixUlMacDataHeader x).e ([] ++ (encTlli x.tlli
      ++ (encPfi x.pfi ++ (llcPayloads x.blocks ++ pad))))
      = .ok ([], encTlli x.tlli ++ (encPfi x.pfi
        ++ (llcPayloads x.blocks ++ pad))) := by
    rw [hfix]
    rfl
  have hdec := dec_of_parts hnone rfl rfl
  rw [hblk, hfix, hpay] at hdec
  have hlen : ulDataLen x + pad.length = fRlcmacCsMcs2blockLen x.cs := by
    have hhdrs : ((x.blocks.getD []).flatMap LlcBlock.headers).length = 0 := by
      rw [hb]
      show (t.hdr.toList ++ []).length = 0
      rw [ht]
      rfl
    have hmac : (encUlMacDataHeader (fixUlMacDataHeader x)).length = 3 := rfl
    simp only [List.length_append, List.length_nil, hmac] at hblk
    rw [ulDataLen, hhdrs]
    omega
  refine ⟨_, pad, hisPad, hlen, henc, ?_⟩
  rw [hpay]
  exact hdec

/-- **A SINGLE SEGMENT WITHOUT HEADER** comes back with the padding. -/
theorem ulRoundTrips_single {x : RlcmacUlDataBlock} {t : LlcBlock}
    (hb : x.blocks = some [t]) (ht : t.hdr = none) (hfit : UlFits x) :
    UlRoundTrips x := by
  obtain ⟨o, pad, hisPad, -, henc, hdec⟩ := dec_enc_single hb ht hfit
  refine ⟨o, _, henc, hdec, rfl, rfl, rfl, rfl, rfl, Or.inr ?_⟩
  refine ⟨[], t.payload, pad, ?_, rfl, hisPad⟩
  rw [segments, hb]
  rfl

/-- Blocks that start with a headed one clear E in the MAC header. -/
theorem ulHdrE_headed {bs tl : List LlcBlock} (hne : bs ≠ []) (hh : Headed bs) :
    ulHdrE (some (bs ++ tl)) = false := by
  cases bs with
  | nil => exact absurd rfl hne
  | cons b bs =>
      obtain ⟨⟨h, hb, -, -⟩, -⟩ := hh
      cases hr : bs ++ tl with
      | nil =>
          rw [List.cons_append, hr]
          show b.hdr.isNone = false
          rw [hb]
          rfl
      | cons c cs =>
          rw [List.cons_append, hr]
          rfl

/-- The extension octets of headed blocks, whatever tail follows them. -/
theorem encLlcHdrs_tail {bs tl : List LlcBlock} (hh : Headed bs) (hs : Short bs)
    (htl : tl = [] ∨ ∃ t, tl = [t] ∧ t.hdr = none) :
    encLlcHdrs (bs ++ tl) = .ok (hdrOctets (bs.flatMap LlcBlock.headers)) := by
  rcases htl with rfl | ⟨t, rfl, ht⟩
  · rw [List.append_nil]
    exact encLlcHdrs_headed hh hs
  · rw [encLlcHdrs_append_tail bs ht]
    exact encLlcHdrs_headed hh hs

/-- **HEADED SEGMENTS ROUND TRIP, A TAIL IS LOST**: the decoder finds the
    headed segments as they were, and nothing else. -/
theorem dec_enc_headed {x : RlcmacUlDataBlock} {bs tl : List LlcBlock}
    (hb : x.blocks = some (bs ++ tl)) (hne : bs ≠ []) (hh : Headed bs)
    (htl : tl = [] ∨ ∃ t, tl = [t] ∧ t.hdr = none)
    (hcs : x.cs.IsGprs) (hfit : UlFits x) :
    ∃ o, encRlcmacUlDataBlock x = .ok o
      ∧ decRlcmacUlDataBlock o = .ok {
          cs := x.cs
          macHdr := fixUlMacDataHeader x
          tlli := x.tlli
          pfi := x.pfi
          blocks := some bs } := by
  have hs : Short bs := fun b hmem =>
    short_of_fits hb hcs hfit b (List.mem_append_left _ hmem)
  have he : ulHdrE x.blocks = false := by
    rw [hb]
    exact ulHdrE_headed hne hh
  have hfix : (fixUlMacDataHeader x).e = false := he
  have hext : encExtension (ulHdrE x.blocks) x.blocks
      = .ok (hdrOctets (bs.flatMap LlcBlock.headers)) := by
    rw [he, hb]
    exact encLlcHdrs_tail hh hs htl
  have hlen : (hdrOctets (bs.flatMap LlcBlock.headers)).length
      ≤ ((x.blocks.getD []).flatMap LlcBlock.headers).length := by
    rw [hb, hdrOctets, List.length_map]
    show _ ≤ ((bs ++ tl).flatMap LlcBlock.headers).length
    rw [List.flatMap_append, List.length_append]
    exact Nat.le_add_right _ _
  obtain ⟨pad, -, henc, hblk⟩ := enc_of_parts hext hlen hfit
  have hpay : llcPayloads x.blocks
      = bs.flatMap LlcBlock.payload ++ tl.flatMap LlcBlock.payload := by
    rw [llcPayloads, hb]
    exact List.flatMap_append
  rw [hpay, List.append_assoc] at henc hblk
  have hread : decExtension (fixUlMacDataHeader x).e
      (hdrOctets (bs.flatMap LlcBlock.headers) ++ (encTlli x.tlli
        ++ (encPfi x.pfi ++ (bs.flatMap LlcBlock.payload
          ++ (tl.flatMap LlcBlock.payload ++ pad)))))
      = .ok (bs.flatMap LlcBlock.headers, encTlli x.tlli ++ (encPfi x.pfi
          ++ (bs.flatMap LlcBlock.payload
            ++ (tl.flatMap LlcBlock.payload ++ pad)))) := by
    rw [hfix]
    exact decLlcHdrs_enc hne hh hs _
  have hdec := dec_of_parts hread rfl rfl
  rw [hblk, payloadLen2CodingScheme_blockLen hcs, hfix,
      slicePayloads_headed hh] at hdec
  exact ⟨_, henc, hdec⟩

/-- The decoder never reports an empty list of segments. -/
theorem dec_segments_ne_nil {o : List UInt8} {y : RlcmacUlDataBlock}
    (h : decRlcmacUlDataBlock o = .ok y) : segments y ≠ [] := by
  rw [decRlcmacUlDataBlock] at h
  cases hhdr : decUlMacDataHeader o with
  | error f => rw [hhdr] at h; exact nomatch h
  | ok r =>
  obtain ⟨hdr, buf⟩ := r
  rw [hhdr] at h
  cases hext : decExtension hdr.e buf with
  | error f =>
      have h' : (decExtension hdr.e buf).bind _ = _ := h
      rw [hext] at h'
      exact nomatch h'
  | ok r =>
  obtain ⟨hdrs, buf1⟩ := r
  have h1 : (decExtension hdr.e buf).bind _ = _ := h
  rw [hext] at h1
  cases htlli : decTlli hdr.tlliInd buf1 with
  | error f =>
      have h' : (decTlli hdr.tlliInd buf1).bind _ = _ := h1
      rw [htlli] at h'
      exact nomatch h'
  | ok r =>
  obtain ⟨tlli, buf2⟩ := r
  have h2 : (decTlli hdr.tlliInd buf1).bind _ = _ := h1
  rw [htlli] at h2
  cases hpfi : decPfi hdr.pfiInd buf2 with
  | error f =>
      have h' : (decPfi hdr.pfiInd buf2).bind _ = _ := h2
      rw [hpfi] at h'
      exact nomatch h'
  | ok r =>
  obtain ⟨pfi, buf3⟩ := r
  have h3 : (decPfi hdr.pfiInd buf2).bind _ = _ := h2
  rw [hpfi] at h3
  have hy : y.blocks = some (if hdr.e then [⟨none, buf3⟩]
      else slicePayloads hdrs buf3) := by
    rw [← Except.ok.inj h3]
  rw [segments, hy]
  intro hnil
  have hzero := congrArg List.length hnil
  cases he : hdr.e with
  | true =>
      rw [he] at hzero
      exact nomatch hzero
  | false =>
      rw [he] at hzero hext
      have hne : hdrs ≠ [] := decLlcHdrs_ne_nil hext
      have hlen : (slicePayloads hdrs buf3).length = hdrs.length :=
        slicePayloads_length hdrs buf3
      have hz : ((slicePayloads hdrs buf3).map LlcBlock.payload).length = 0 :=
        hzero
      rw [List.length_map, hlen] at hz
      exact hne (List.length_eq_zero_iff.mp hz)

theorem headed_isSome : ∀ {bs : List LlcBlock}, Headed bs →
    ∀ b ∈ bs, b.hdr.isSome = true := by
  intro bs
  induction bs with
  | nil => intro _ b hmem; exact nomatch hmem
  | cons c cs ih =>
      intro hh b hmem
      obtain ⟨⟨h, hc, -, -⟩, hrest⟩ := hh
      rcases List.mem_cons.mp hmem with rfl | hmem'
      · rw [hc]
        rfl
      · exact ih hrest b hmem'

/-- **A TAIL IS LOST** behind a headed segment: the decoder returns one
    segment fewer than were encoded. -/
theorem tail_lost {x : RlcmacUlDataBlock} {bs : List LlcBlock} {t : LlcBlock}
    (hb : x.blocks = some (bs ++ [t])) (hne : bs ≠ []) (hh : Headed bs)
    (ht : t.hdr = none) (hcs : x.cs.IsGprs) (hfit : UlFits x) :
    ¬ UlRoundTrips x := by
  rintro ⟨o, y, henc, hdec, -, -, -, -, -, hsame⟩
  obtain ⟨o', henc', hdec'⟩ :=
    dec_enc_headed hb hne hh (Or.inr ⟨t, rfl, ht⟩) hcs hfit
  have ho : o' = o := Except.ok.inj (henc'.symm.trans henc)
  rw [ho] at hdec'
  have hcount := hsame.length_eq
  rw [Except.ok.inj (hdec.symm.trans hdec'), segments, segments, hb,
      List.length_map, List.length_map] at hcount
  have hlen : (bs ++ [t]).length = bs.length := hcount
  rw [List.length_append] at hlen
  exact absurd hlen (Nat.succ_ne_self _)

/-- **WHEN THE UPLINK DATA BLOCK ROUND TRIPS**: a consistent block that fits
    comes back iff it has a segment, and either every segment has a header or
    there is just one. -/
theorem ulRoundTrips_iff (x : RlcmacUlDataBlock) {bs : List LlcBlock}
    (hb : x.blocks = some bs) (hc : Consistent bs) (hcs : x.cs.IsGprs)
    (hfit : UlFits x) :
    UlRoundTrips x ↔
      bs ≠ [] ∧ ((∀ b ∈ bs, b.hdr.isSome = true) ∨ bs.length = 1) := by
  have hseg : segments x = bs.map LlcBlock.payload := by
    rw [segments, hb]
    rfl
  constructor
  · rintro ⟨o, y, henc, hdec, hrest⟩
    have hsame := hrest.2.2.2.2.2
    have hcount := hsame.length_eq
    rw [hseg, List.length_map] at hcount
    cases hc with
    | headed hh =>
        refine ⟨?_, Or.inl (headed_isSome hh)⟩
        rintro rfl
        exact dec_segments_ne_nil hdec (List.length_eq_zero_iff.mp hcount.symm)
    | @tail ds t hh _ ht =>
        refine ⟨List.append_ne_nil_of_right_ne_nil _ (List.cons_ne_nil _ _),
          Or.inr ?_⟩
        by_cases hne : ds = []
        · rw [hne]
          rfl
        · exact absurd ⟨o, y, henc, hdec, hrest⟩
            (tail_lost hb hne hh ht hcs hfit)
  · rintro ⟨hne, hform⟩
    cases hc with
    | headed hh =>
        rw [← List.append_nil bs] at hb
        obtain ⟨o, henc, hdec⟩ :=
          dec_enc_headed hb hne hh (Or.inl rfl) hcs hfit
        exact ⟨o, _, henc, hdec, rfl, rfl, rfl, rfl, rfl, Or.inl hseg⟩
    | @tail ds t hh _ ht =>
        have hds : ds = [] := tail_alone ht hform
        rw [hds] at hb
        exact ulRoundTrips_single hb ht hfit

/-- A TLLI. -/
def someTlli : GprsTlli := ⟨[0xc0, 0x01, 0x02, 0x03], rfl⟩

/-- A CS-1 block with a TLLI and the LLC blocks given. -/
def cs1Block (bs : List LlcBlock) : RlcmacUlDataBlock where
  cs := .cs1
  macHdr := {
    payloadType := .rlcData, countdown := 15, stallInd := false, retry := false
    spare := false, pfiInd := false, tfi := 3, tlliInd := true, bsn := 5
    e := false }
  tlli := some someTlli
  pfi := none
  blocks := some bs

/-- Two PDUs, each with its length indicator. -/
def twoHeaded : List LlcBlock :=
  [⟨some ⟨2, true, false⟩, [0x0a, 0x0b]⟩, ⟨some ⟨1, false, true⟩, [0x0c]⟩]

theorem twoHeaded_headed : Headed twoHeaded :=
  ⟨⟨_, rfl, rfl, by decide⟩, ⟨_, rfl, rfl, by decide⟩, trivial⟩

theorem ulRoundTrips_iff_twoHeaded : UlRoundTrips (cs1Block twoHeaded) :=
  (ulRoundTrips_iff (cs1Block twoHeaded) rfl (.headed twoHeaded_headed) trivial
    (show _ ≤ 23 by decide)).mpr ⟨by decide, Or.inl (by decide)⟩

/-- The end of one PDU, M=1, and a second PDU filling the rest of the block. -/
def headedThenTail : List LlcBlock :=
  [⟨some ⟨1, true, true⟩, [0x0a]⟩, ⟨none, List.replicate 14 0x0b⟩]

theorem headedThenTail_consistent : Consistent headedThenTail :=
  @Consistent.tail [⟨some ⟨1, true, true⟩, [0x0a]⟩] _
    ⟨⟨_, rfl, rfl, by decide⟩, trivial⟩
    (fun h hl => by rw [← Option.some.inj hl]; rfl) rfl

/-- **THE SECOND PDU IS LOST**: the block fits and is consistent, but its last
    segment does not come back. -/
theorem headedThenTail_lost :
    Consistent headedThenTail ∧ (cs1Block headedThenTail).cs.IsGprs
      ∧ ulDataLen (cs1Block headedThenTail) = 23
      ∧ ¬ UlRoundTrips (cs1Block headedThenTail) :=
  ⟨headedThenTail_consistent, trivial, by decide,
    @tail_lost _ [⟨some ⟨1, true, true⟩, [0x0a]⟩] _ rfl (by decide)
      ⟨⟨_, rfl, rfl, by decide⟩, trivial⟩ rfl trivial (show _ ≤ 23 by decide)⟩

end OsmoRlcmac
