import OsmoTtcn.RlcmacUlProofs
import OsmoTtcn.RunGuardProofs
import OsmoTtcn.UlTbfProofs

/-! # The radio blocks of an uplink TBF

    `f_ul_tbf_get_next_block` asks `f_gprs_blocksize` how much room there is,
    lets `f_ul_tbf_pull_multi` fill it, and puts the segments into a block
    whose coding scheme is always CS-1.  The encoder then pads to the length of
    the scheme in the block, and not of the scheme of the TBF.

    Three things decide whether such a block is what the TBF needs: the scheme
    of the TBF, whether the encoder reaches its length, and whether the decoder
    finds the segments again.  The decoder gives a payload to each length
    indicator and takes no more octets than it says (`dec_blocks`), so a segment
    without a header behind others is lost, and so is one with LI = 0: what
    comes back is a list of PDUs that end inside the block, or a block that is
    filled by a part of one PDU (`readable_of_returnable`). -/

namespace OsmoUlTbf

open OsmoTitan OsmoRlcmac WireOctet RunGuard

-- ── The code ─────────────────────────────────────────────────────────────────

/-- The coding schemes of GPRS. -/
inductive GprsCodingScheme where
  | cs1 | cs2 | cs3 | cs4
  deriving DecidableEq, Repr

/-- The fourth label of the `select` is `CS3` again. -/
def fGprsBlocksize : GprsCodingScheme → Except Fault Nat
  | .cs1 => .ok 22
  | .cs2 => .ok 32
  | .cs3 => .ok 38
  | .cs4 => .error (.shutdown "Invalid GPRS CS CS4 (3)")

/-- The state with what the header of a block is made of. -/
structure UlTbf extends UlTbfState where
  initialCs : GprsCodingScheme
  numTs : Nat
  /-- send state variable V(S) -/
  vS : Nat
  tfi : Nat
  /-- block sequence number of next block within TBF -/
  bsnP : Nat
  /-- list of already-sent RLC/MAC Blocks -/
  rlcSent : List RlcmacUlDataBlock
  deriving DecidableEq, Repr

section Init

variable {PduLlc : Type} (encPduLlc : PduLlc → List UInt8)

/-- `f_UlTbfState_init`, with all members. -/
def ulTbfInit (initialCs : GprsCodingScheme) (llcPdus : Option (List PduLlc))
    (llcPdusEnc : List (List UInt8)) (totlen : Int) : UlTbf where
  toUlTbfState := fUlTbfStateInit encPduLlc llcPdus llcPdusEnc totlen
  initialCs := initialCs
  numTs := 1
  vS := 0
  tfi := 0
  bsnP := 0
  rlcSent := []

end Init

/-- Division and remainder of TTCN-3 round towards zero. -/
def fDivRoundUp (dividend divisor : Int) : Except Fault Int :=
  if divisor = 0 then .error (.ttcnError "Integer division by zero.")
  else
    let x := Int.tdiv dividend divisor
    .ok (if Int.tmod dividend divisor ≠ 0 then x + 1 else x)

/-- Determine 'K' value for given CS (TS 44.060 9.3.1.1) -/
def fKForCs (_cs : GprsCodingScheme) : Int := 1

/-- TS 44.060 9.3.1.1 -/
def fCalcCv (nbc bsnP nts : Int) (cs : GprsCodingScheme) (bsCvMax : Int) :
    Except Fault Int :=
  (fDivRoundUp (nbc - bsnP - 1) (nts * fKForCs cs)).map
    (fun x => if x ≤ bsCvMax then x else 15)

/-- `f_rlcmac_hdr_size` -/
def fRlcmacHdrSize (tlliNeeded : Bool) : Nat := if tlliNeeded then 2 + 4 else 2

/-- determine countdown value based on remaining length pending -/
def fUlTbfGetCv (us : UlTbf) (cs : GprsCodingScheme) (tlliNeeded : Bool) :
    Except Fault Int := do
  let blksize ← fGprsBlocksize cs
  let numRemain ← fDivRoundUp us.totalBytesRemain
    ((blksize : Int) - fRlcmacHdrSize tlliNeeded)
  fCalcCv (numRemain + us.rlcSent.length) us.bsnP us.numTs us.initialCs 14

/-- A number as the value of a type of `n` numbers. -/
def uintN (n : Nat) (v : Int) : Except Fault (Fin n) :=
  if h : 0 ≤ v ∧ v < n then .ok ⟨v.toNat, by omega⟩ else .error .outOfRange

/-- The common part of the two templates. -/
def rlcmacUlData (cs : CodingScheme) (tfi cv bsn : Int) (blocks : List LlcBlock)
    (stall : Bool) (tlli : Option GprsTlli) : Except Fault RlcmacUlDataBlock := do
  let tfi ← uintN 32 tfi
  let countdown ← uintN 16 cv
  let bsn ← uintN 128 bsn
  .ok {
    cs := cs
    macHdr := {
      payloadType := .rlcData, countdown := countdown, stallInd := stall, retry := false
      spare := false, pfiInd := false, tfi := tfi, tlliInd := tlli.isSome, bsn := bsn
      e := false }
    tlli := tlli
    pfi := none
    blocks := some blocks }

/-- `t_RLCMAC_UL_DATA` -/
def tRlcmacUlData (cs : CodingScheme) (tfi cv bsn : Int) (blocks : List LlcBlock)
    (stall : Bool) : Except Fault RlcmacUlDataBlock :=
  rlcmacUlData cs tfi cv bsn blocks stall none

/-- `t_RLCMAC_UL_DATA_TLLI` -/
def tRlcmacUlDataTlli (cs : CodingScheme) (tfi cv bsn : Int) (blocks : List LlcBlock)
    (stall : Bool) (tlli : GprsTlli) : Except Fault RlcmacUlDataBlock :=
  rlcmacUlData cs tfi cv bsn blocks stall (some tlli)

/-- include TLLI when needed -/
def nextData (us : UlTbf) (cv : Int) (llcBlocks : List LlcBlock) (tlli : GprsTlli)
    (tlliNeeded : Bool) : Except Fault RlcmacUlDataBlock :=
  if tlliNeeded then tRlcmacUlDataTlli .cs1 us.tfi cv us.vS llcBlocks false tlli
  else tRlcmacUlData .cs1 us.tfi cv us.vS llcBlocks false

/-- `tlli` is the one of the `MmContext`, of which nothing else is used.  There
    is no block when there are no more data. -/
def fUlTbfGetNextBlock (us : UlTbf) (tlli : GprsTlli) (tlliNeeded : Bool) :
    Except Fault (UlTbf × Option RlcmacUlDataBlock) := do
  let blksize ← fGprsBlocksize us.initialCs
  let cv ← fUlTbfGetCv us us.initialCs tlliNeeded
  let pulled ← fUlTbfPullMulti us.toUlTbfState (blksize - fRlcmacHdrSize tlliNeeded) false
  if pulled.1 = false then .ok ({ us with toUlTbfState := pulled.2.2 }, none)
  else do
    let blk ← nextData us cv pulled.2.1 tlli tlliNeeded
    -- Increment Block Sequence Number, and append to list of sent blocks
    .ok ({ us with
      toUlTbfState := pulled.2.2
      bsnP := us.bsnP + 1
      vS := (us.bsnP + 1) % 128
      rlcSent := us.rlcSent ++ [blk] }, some blk)

/-- A call with what it is given. -/
structure Call where
  tlli : GprsTlli
  tlliNeeded : Bool
  deriving DecidableEq

/-- One call of `f_ul_tbf_get_next_block`. -/
def callStep (us : UlTbf) (c : Call) : Except Fault (UlTbf × Option RlcmacUlDataBlock) :=
  fUlTbfGetNextBlock us c.tlli c.tlliNeeded

section Union

variable {Ctrl Egprs : Type}

/-- `RlcmacUlBlock` -/
inductive RlcmacUlBlock (Ctrl Egprs : Type) where
  | data (block : RlcmacUlDataBlock)
  | ctrl (block : Ctrl)
  | dataEgprs (block : Egprs)

variable (decCtrl : List UInt8 → Except Fault Ctrl)
variable (decEgprs : List UInt8 → Except Fault Egprs)

/-- `dec_RlcmacUlBlock`, with the decoders of the other two alternatives. -/
def decRlcmacUlBlock (stream : List UInt8) : Except Fault (RlcmacUlBlock Ctrl Egprs) :=
  match payloadLen2CodingScheme stream.length with
  | .cs1 | .cs2 | .cs3 | .cs4 =>
      match stream.head? with
      | none => .error .badIndex
      | some o =>
          if o.toNat / 64 = MacPayloadType.rlcData.toBits then
            (decRlcmacUlDataBlock stream).map .data
          else (decCtrl stream).map .ctrl
  | .mcs0 => .error .unbound
  | _ => (decEgprs stream).map .dataEgprs

-- ── What a call is to do ─────────────────────────────────────────────────────

/-- The coding scheme of the TBF as one of RLC/MAC. -/
def GprsCodingScheme.toCodingScheme : GprsCodingScheme → CodingScheme
  | .cs1 => .cs1
  | .cs2 => .cs2
  | .cs3 => .cs3
  | .cs4 => .cs4

/-- The block has the length of a radio block of the scheme, and the decoder
    finds its segments. -/
def BlockFits (cs : GprsCodingScheme) (blk : RlcmacUlDataBlock) : Prop :=
  ∃ o y, encRlcmacUlDataBlock blk = .ok o
    ∧ o.length = fRlcmacCsMcs2blockLen cs.toCodingScheme
    ∧ decRlcmacUlBlock decCtrl decEgprs o = .ok (.data y) ∧ y.blocks = blk.blocks

/-- The call returns, and a block that it returns fits. -/
def CallRight (us : UlTbf) (c : Call) : Prop :=
  ∃ us' r, callStep us c = .ok (us', r)
    ∧ ∀ blk ∈ r, BlockFits decCtrl decEgprs us.initialCs blk

end Union

/-- The PDUs one after the other, each with an octet for its header, up to the
    end of the PDUs or of the room; the last octet may be the header of a PDU of
    one octet, which is then sent with the next block. -/
def EndsInRoom : List (List UInt8) → Nat → Prop
  | [], _ => True
  | p :: ps, m => m = 0 ∨ (m = 1 ∧ p.length = 1)
      ∨ (p.length < m ∧ EndsInRoom ps (m - 1 - p.length))

/-- The PDUs end in the room, or the first of them is longer than it. -/
def Readable (ps : List (List UInt8)) (m : Nat) : Prop :=
  EndsInRoom ps m ∨ ∃ p ∈ ps.head?, m < p.length

/-- There is nothing to send and the scheme has a block size, or the scheme is
    CS-1 and what is sent next can be read. -/
def HoldsWhen (us : UlTbf) (c : Call) : Prop :=
  (us.initialCs ≠ .cs4 ∧ pending us.toUlTbfState = [])
    ∨ (us.initialCs = .cs1
      ∧ Readable (pending us.toUlTbfState) (22 - fRlcmacHdrSize c.tlliNeeded))

/-- Whether every PDU ends in the room, decided PDU by PDU. -/
def decEndsInRoom : (ps : List (List UInt8)) → (m : Nat) → Decidable (EndsInRoom ps m)
  | [], _ => isTrue trivial
  | p :: ps, m =>
      have : Decidable (EndsInRoom ps (m - 1 - p.length)) :=
        decEndsInRoom ps (m - 1 - p.length)
      inferInstanceAs (Decidable (_ ∨ (_ ∧ _) ∨ (_ ∧ _)))

instance (ps : List (List UInt8)) (m : Nat) : Decidable (EndsInRoom ps m) :=
  decEndsInRoom ps m

instance (ps : List (List UInt8)) (m : Nat) : Decidable (Readable ps m) :=
  inferInstanceAs (Decidable (_ ∨ ∃ p, p ∈ ps.head? ∧ _))

instance (us : UlTbf) (c : Call) : Decidable (HoldsWhen us c) :=
  inferInstanceAs (Decidable ((_ ∧ _) ∨ (_ ∧ _)))

-- ── The encoder ──────────────────────────────────────────────────────────────

theorem encLlcHdrs_length : ∀ {bs : List LlcBlock} {os : List UInt8},
    encLlcHdrs bs = .ok os → os.length = (bs.flatMap LlcBlock.headers).length := by
  intro bs
  induction bs with
  | nil =>
      intro os h
      rw [← Except.ok.inj h]
      rfl
  | cons b bs ih =>
      intro os h
      rw [encLlcHdrs] at h
      cases hb : b.hdr with
      | none =>
          rw [hb] at h
          obtain ⟨o, ho, h⟩ := bind_ok h
          obtain ⟨os', hos, h⟩ := bind_ok h
          rw [← Except.ok.inj h, ← Except.ok.inj ho, List.nil_append, ih hos,
            List.flatMap_cons, LlcBlock.headers, hb]
          rfl
      | some hdr =>
          rw [hb] at h
          obtain ⟨o, ho, h⟩ := bind_ok h
          obtain ⟨os', hos, h⟩ := bind_ok h
          have hone : o.length = 1 := by
            rw [encLlcBlockHdr] at ho
            split at ho
            · rw [← Except.ok.inj ho]
              rfl
            · cases ho
          rw [← Except.ok.inj h, List.length_append, hone, ih hos, List.flatMap_cons,
            LlcBlock.headers, hb, List.length_append]
          rfl

/-- The octets in front of the padding start with the header, and are no more
    than those of the parts. -/
theorem enc_parts {x : RlcmacUlDataBlock} {o : List UInt8} (hb : x.blocks.isSome = true)
    (h : encRlcmacUlDataBlock x = .ok o) :
    ∃ buf, o = encodeTrailingPaddingSpb (encUlMacDataHeader (fixUlMacDataHeader x) ++ buf) x.cs
      ∧ 3 + buf.length ≤ ulDataLen x := by
  obtain ⟨bs, hbs⟩ := Option.isSome_iff_exists.mp hb
  obtain ⟨ext, hext, h⟩ := bind_ok h
  have hlen : ext.length ≤ ((x.blocks.getD []).flatMap LlcBlock.headers).length := by
    unfold encExtension at hext
    split at hext
    · rw [← Except.ok.inj hext]
      exact Nat.zero_le _
    · rw [hbs] at hext ⊢
      exact Nat.le_of_eq (encLlcHdrs_length hext)
  refine ⟨_, (Except.ok.inj h).symm, ?_⟩
  rw [ulDataLen]
  simp only [List.length_append]
  omega

theorem encodeTrailingPaddingSpb_length_le (buf : List UInt8) (cs : CodingScheme) :
    (encodeTrailingPaddingSpb buf cs).length ≤ max (fRlcmacCsMcs2blockLen cs) buf.length := by
  have hle := blockLenNoSpareBits_le cs
  simp only [encodeTrailingPaddingSpb]
  split
  · exact Nat.le_max_right _ _
  · simp only [List.length_append, List.length_replicate]
    omega

/-- **THE LENGTH IS THAT OF THE SCHEME IN THE BLOCK**, when the data fit it, and
    at most that or theirs. -/
theorem enc_length {x : RlcmacUlDataBlock} {o : List UInt8} (hb : x.blocks.isSome = true)
    (h : encRlcmacUlDataBlock x = .ok o) :
    (UlFits x → o.length = fRlcmacCsMcs2blockLen x.cs)
      ∧ o.length ≤ max (fRlcmacCsMcs2blockLen x.cs) (ulDataLen x) := by
  obtain ⟨buf, rfl, hlen⟩ := enc_parts hb h
  have hbuf : (encUlMacDataHeader (fixUlMacDataHeader x) ++ buf).length = 3 + buf.length := by
    rw [List.length_append]
    rfl
  constructor
  · intro hfit
    have hfit' : ulDataLen x ≤ fRlcmacCsMcs2blockLenNoSpareBits x.cs := hfit
    obtain ⟨pad, hpad, -, hpadLen⟩ := @encodeTrailingPaddingSpb_fits
      (encUlMacDataHeader (fixUlMacDataHeader x) ++ buf) x.cs (by omega)
    rw [hpad, hpadLen]
  · have hle := encodeTrailingPaddingSpb_length_le
      (encUlMacDataHeader (fixUlMacDataHeader x) ++ buf) x.cs
    omega

/-- The payload type is in front. -/
theorem enc_head {x : RlcmacUlDataBlock} {o : List UInt8} (hb : x.blocks.isSome = true)
    (hpt : x.macHdr.payloadType = .rlcData) (h : encRlcmacUlDataBlock x = .ok o) :
    ∃ o0, o.head? = some o0 ∧ o0.toNat / 64 = MacPayloadType.rlcData.toBits := by
  obtain ⟨buf, rfl, -⟩ := enc_parts hb h
  have hcv := x.macHdr.countdown.isLt
  have hsi := bit_lt_two x.macHdr.stallInd
  have hr := bit_lt_two x.macHdr.retry
  refine ⟨UInt8.ofNat (x.macHdr.payloadType.toBits * 64 + x.macHdr.countdown.val * 4
    + bit x.macHdr.stallInd * 2 + bit x.macHdr.retry), ?_, ?_⟩
  · simp only [encodeTrailingPaddingSpb]
    split <;> rfl
  · rw [hpt]
    show (UInt8.ofNat (0 * 64 + _ + _ + _)).toNat / 64 = 0
    rw [toNat_octet (by omega)]
    omega

-- ── The decoder ──────────────────────────────────────────────────────────────

theorem slicePayloads_le : ∀ (hs : List LlcBlockHdr) (buf : List UInt8),
    ∀ b ∈ slicePayloads hs buf, ∃ h, b.hdr = some h ∧ b.payload.length ≤ h.lengthInd := by
  intro hs
  induction hs with
  | nil =>
      intro buf b hb
      exact nomatch hb
  | cons h hs ih =>
      intro buf b hb
      rcases List.mem_cons.mp hb with rfl | hmem
      · refine ⟨h, rfl, ?_⟩
        show (buf.take (min h.lengthInd buf.length)).length ≤ _
        rw [List.length_take]
        omega
      · exact ih _ b hmem

/-- Segments that the decoder can return. -/
def Returnable (bs : List LlcBlock) : Prop :=
  (∃ p, bs = [⟨none, p⟩])
    ∨ ∀ b ∈ bs, ∃ h, b.hdr = some h ∧ b.payload.length ≤ h.lengthInd

/-- **A SEGMENT FOR EACH LENGTH INDICATOR**, of no more octets than it says, or
    one segment without any. -/
theorem dec_blocks {o : List UInt8} {y : RlcmacUlDataBlock}
    (h : decRlcmacUlDataBlock o = .ok y) : ∃ bs, y.blocks = some bs ∧ Returnable bs := by
  obtain ⟨⟨macHdr, buf⟩, -, h⟩ := bind_ok h
  obtain ⟨⟨hdrs, buf1⟩, -, h⟩ := bind_ok h
  obtain ⟨⟨tlli, buf2⟩, -, h⟩ := bind_ok h
  obtain ⟨⟨pfi, buf3⟩, -, h⟩ := bind_ok h
  refine ⟨if macHdr.e then [⟨none, buf3⟩] else slicePayloads hdrs buf3, ?_, ?_⟩
  · rw [← Except.ok.inj h]
  · split
    · exact Or.inl ⟨buf3, rfl⟩
    · exact Or.inr (slicePayloads_le hdrs buf3)

section Union

variable {Ctrl Egprs : Type}
variable {decCtrl : List UInt8 → Except Fault Ctrl}
variable {decEgprs : List UInt8 → Except Fault Egprs}

/-- A block of CS-1 with the payload type of data. -/
theorem decRlcmacUlBlock_data {o : List UInt8} (hlen : o.length = 23)
    (hhead : ∃ o0, o.head? = some o0 ∧ o0.toNat / 64 = MacPayloadType.rlcData.toBits) :
    decRlcmacUlBlock decCtrl decEgprs o = (decRlcmacUlDataBlock o).map .data := by
  obtain ⟨o0, ho, hpt⟩ := hhead
  rw [decRlcmacUlBlock, hlen, ho]
  exact if_pos hpt

-- ── Blocks of CS-1 ───────────────────────────────────────────────────────────

section Cs1

variable {x : RlcmacUlDataBlock} {bs : List LlcBlock}

/-- Segments with headers come back. -/
theorem blockFits_headed (hcs : x.cs = .cs1) (hpt : x.macHdr.payloadType = .rlcData)
    (hb : x.blocks = some bs) (hne : bs ≠ []) (hh : Headed bs) (hfit : UlFits x) :
    BlockFits decCtrl decEgprs .cs1 x := by
  have hsome : x.blocks.isSome = true := by rw [hb]; rfl
  have hgprs : x.cs.IsGprs := by rw [hcs]; trivial
  have hb' : x.blocks = some (bs ++ []) := by rw [hb, List.append_nil]
  obtain ⟨o, henc, hdec⟩ := dec_enc_headed hb' hne hh (Or.inl rfl) hgprs hfit
  have hlen : o.length = 23 := by
    rw [(enc_length hsome henc).1 hfit, hcs]
    rfl
  have hdata := @decRlcmacUlBlock_data _ _ decCtrl decEgprs o hlen (enc_head hsome hpt henc)
  exact ⟨o, _, henc, hlen, hdata.trans (congrArg (Except.map RlcmacUlBlock.data) hdec),
    hb.symm⟩

/-- A segment without a header comes back when it fills the block. -/
theorem blockFits_single {t : LlcBlock} (hcs : x.cs = .cs1)
    (hpt : x.macHdr.payloadType = .rlcData) (hb : x.blocks = some [t]) (ht : t.hdr = none)
    (hfull : ulDataLen x = 23) : BlockFits decCtrl decEgprs .cs1 x := by
  have hsome : x.blocks.isSome = true := by rw [hb]; rfl
  have hblk : fRlcmacCsMcs2blockLen x.cs = 23 := by rw [hcs]; rfl
  have hfit : UlFits x := by
    rw [UlFits, hfull, hcs]
    exact Nat.le_refl 23
  obtain ⟨o, pad, -, hpadLen, henc, hdec⟩ := dec_enc_single hb ht hfit
  -- The data are as long as the block, so there is no padding.
  have hpad : pad = [] := List.length_eq_zero_iff.mp (by omega)
  have hlen : o.length = 23 := ((enc_length hsome henc).1 hfit).trans hblk
  have hdata := @decRlcmacUlBlock_data _ _ decCtrl decEgprs o hlen (enc_head hsome hpt henc)
  refine ⟨o, _, henc, hlen, hdata.trans (congrArg (Except.map RlcmacUlBlock.data) hdec), ?_⟩
  show some [LlcBlock.mk none (t.payload ++ pad)] = x.blocks
  rw [hb, hpad, List.append_nil, ← ht]

/-- What comes back can be decoded. -/
theorem BlockFits.decodable (hpt : x.macHdr.payloadType = .rlcData)
    (hb : x.blocks = some bs) (h : BlockFits decCtrl decEgprs .cs1 x) :
    Returnable bs := by
  obtain ⟨o, y, henc, hlen, hdec, hsame⟩ := h
  have hsome : x.blocks.isSome = true := by rw [hb]; rfl
  rw [decRlcmacUlBlock_data hlen (enc_head hsome hpt henc)] at hdec
  obtain ⟨y', hy, hdata⟩ := map_ok hdec
  obtain ⟨bs', hbs', hdecodable⟩ := dec_blocks hy
  have hyy : y' = y := by injection hdata
  rw [hyy, hsame, hb] at hbs'
  rw [Option.some.inj hbs']
  exact hdecodable

end Cs1

end Union

-- ── Segments that can be read ────────────────────────────────────────────────

/-- E is set in a header that no other follows. -/
theorem linkHdr_e {next : List LlcBlock} (hh : Headed next) (n : Nat) :
    (linkHdr n next).e = true ↔ next = [] := by
  cases next with
  | nil => exact iff_of_true rfl rfl
  | cons b bs =>
      obtain ⟨⟨h, hb, -, -⟩, -⟩ := hh
      refine iff_of_false ?_ (List.cons_ne_nil b bs)
      show ¬ (!(b.hdr.isSome)) = true
      rw [hb]
      exact Bool.false_ne_true

theorem segment_headed {ps : List (List UInt8)} (m : Nat) (h : EndsInRoom ps m) :
    Headed (segment ps m).1 := by
  induction ps, m using segment.induct with
  | case1 m => trivial
  | case2 p ps =>
      rw [segment_zero]
      trivial
  | case3 p ps m h0 hlt =>
      rcases h with hm | ⟨hm, hlen⟩ | ⟨hgt, -⟩
      · exact absurd hm h0
      · omega
      · omega
  | case4 p ps h0 hlt =>
      rcases h with hm | ⟨hm, -⟩ | ⟨hgt, -⟩
      · exact absurd hm h0
      · rw [segment_singular ps (Nat.pos_of_ne_zero h0) rfl, hm]
        exact ⟨⟨_, rfl, rfl, iff_of_true rfl rfl⟩, trivial⟩
      · exact absurd hgt (Nat.lt_irrefl _)
  | case5 p ps m h0 hlt hne ih =>
      rcases h with hm | ⟨hm, hlen⟩ | ⟨hgt, hrest⟩
      · exact absurd hm h0
      · exact absurd (hlen.trans hm.symm) hne
      · rw [segment_normal ps hgt]
        exact ⟨⟨_, rfl, rfl, linkHdr_e (ih hrest) _⟩, ih hrest⟩

/-- Only PDUs that end in the room leave no octet without a header. -/
theorem endsInRoom_of_segment {ps : List (List UInt8)} (m : Nat)
    (h : ∀ b ∈ (segment ps m).1, ∃ hdr, b.hdr = some hdr ∧ b.payload.length ≤ hdr.lengthInd) :
    EndsInRoom ps m := by
  induction ps, m using segment.induct with
  | case1 m => trivial
  | case2 p ps => exact Or.inl rfl
  | case3 p ps m h0 hlt =>
      rw [segment_chunk ps (Nat.pos_of_ne_zero h0) hlt] at h
      obtain ⟨hdr, hhdr, -⟩ := h _ List.mem_cons_self
      cases hhdr
  | case4 p ps h0 hlt =>
      rw [segment_singular ps (Nat.pos_of_ne_zero h0) rfl] at h
      obtain ⟨hdr, hhdr, hle⟩ := h _ List.mem_cons_self
      rw [← Option.some.inj hhdr] at hle
      have hle' : (p.take (p.length - 1)).length ≤ 0 := hle
      rw [List.length_take] at hle'
      have hone : p.length = 1 := by omega
      exact Or.inr (Or.inl ⟨hone, hone⟩)
  | case5 p ps m h0 hlt hne ih =>
      have hgt : p.length < m := by omega
      rw [segment_normal ps hgt] at h
      exact Or.inr (Or.inr ⟨hgt, ih fun b hb => h b (List.mem_cons_of_mem _ hb)⟩)

theorem segment_ne_nil {ps : List (List UInt8)} {m : Nat} (hps : ps ≠ []) (hm : 0 < m) :
    (segment ps m).1 ≠ [] := by
  cases ps with
  | nil => exact absurd rfl hps
  | cons p ps =>
      rcases Nat.lt_trichotomy m p.length with hlt | heq | hgt
      · rw [segment_chunk ps hm hlt]
        exact List.cons_ne_nil _ _
      · rw [segment_singular ps hm heq.symm]
        exact List.cons_ne_nil _ _
      · rw [segment_normal ps hgt]
        exact List.cons_ne_nil _ _

/-- A part of one PDU fills the room. -/
theorem segment_single {ps : List (List UInt8)} {m : Nat} (hm : 0 < m)
    (h : ∃ p ∈ ps.head?, m < p.length) :
    ∃ payload, (segment ps m).1 = [⟨none, payload⟩] ∧ payload.length = m := by
  obtain ⟨p, hp, hlt⟩ := h
  cases ps with
  | nil => exact nomatch hp
  | cons q qs =>
      rw [← Option.some.inj hp] at hlt
      refine ⟨q.take m, by rw [segment_chunk qs hm hlt], ?_⟩
      rw [List.length_take]
      omega

/-- **WHAT THE DECODER CAN RETURN** is what `Readable` says. -/
theorem readable_of_returnable {ps : List (List UInt8)} {m : Nat} (hps : ps ≠ [])
    (hm : 0 < m) (h : Returnable (segment ps m).1) : Readable ps m := by
  rcases h with ⟨payload, hone⟩ | hall
  · cases ps with
    | nil => exact absurd rfl hps
    | cons p ps =>
        rcases Nat.lt_trichotomy m p.length with hlt | heq | hgt
        · exact Or.inr ⟨p, rfl, hlt⟩
        · rw [segment_singular ps hm heq.symm] at hone
          exact nomatch (List.cons.inj hone).1
        · rw [segment_normal ps hgt] at hone
          exact nomatch (List.cons.inj hone).1
  · exact Or.inl (endsInRoom_of_segment m hall)

-- ── The block that is made ───────────────────────────────────────────────────

theorem headers_payloads_length (bs : List LlcBlock) :
    (bs.flatMap LlcBlock.headers).length + (bs.flatMap LlcBlock.payload).length
      = fLlcBlocksEncLen bs := by
  induction bs with
  | nil => rfl
  | cons b bs ih =>
      rw [fLlcBlocksEncLen_cons, ← ih, List.flatMap_cons, List.flatMap_cons,
        List.length_append, List.length_append]
      cases hb : b.hdr with
      | none =>
          rw [LlcBlock.headers, fLlcBlockEncLen, hb]
          show 0 + _ + _ = _
          rw [if_neg (by decide)]
          omega
      | some h =>
          rw [LlcBlock.headers, fLlcBlockEncLen, hb]
          show 1 + _ + _ = 1 + _ + _
          omega

/-- The TLLI of a block. -/
def blockTlli (c : Call) : Option GprsTlli := if c.tlliNeeded then some c.tlli else none

/-- A block of the first segments of the octets that are not yet pulled. -/
structure Made (us : UlTbf) (c : Call) (blksize : Nat) (x : RlcmacUlDataBlock) : Prop where
  cs : x.cs = .cs1
  payloadType : x.macHdr.payloadType = .rlcData
  tlli : x.tlli = blockTlli c
  pfi : x.pfi = none
  blocks : x.blocks
    = some (segment (pending us.toUlTbfState) (blksize - fRlcmacHdrSize c.tlliNeeded)).1

section Made

variable {us : UlTbf} {c : Call} {n : Nat} {x : RlcmacUlDataBlock}

theorem Made.tlli_length (h : Made us c n x) :
    (encTlli x.tlli).length + 2 = fRlcmacHdrSize c.tlliNeeded := by
  rw [h.tlli, blockTlli]
  cases c.tlliNeeded with
  | false => rfl
  | true =>
      show c.tlli.octets.length + 2 = _
      rw [c.tlli.len]
      rfl

/-- The header takes an octet more than `f_rlcmac_hdr_size` says. -/
theorem Made.ulDataLen (h : Made us c n x) :
    OsmoRlcmac.ulDataLen x = 1 + fRlcmacHdrSize c.tlliNeeded + fLlcBlocksEncLen
      (segment (pending us.toUlTbfState) (n - fRlcmacHdrSize c.tlliNeeded)).1 := by
  have htlli := h.tlli_length
  have hsum := headers_payloads_length
    (segment (pending us.toUlTbfState) (n - fRlcmacHdrSize c.tlliNeeded)).1
  rw [OsmoRlcmac.ulDataLen, llcPayloads, h.blocks, h.pfi, Option.getD_some]
  show 3 + _ + _ + 0 + _ = _
  omega

theorem Made.ulDataLen_le (h : Made us c n x) (hn : fRlcmacHdrSize c.tlliNeeded ≤ n) :
    OsmoRlcmac.ulDataLen x ≤ n + 1 := by
  have hfits := segment_fits (pending us.toUlTbfState) (n - fRlcmacHdrSize c.tlliNeeded)
  rw [h.ulDataLen]
  omega

end Made

theorem fRlcmacHdrSize_le (tlliNeeded : Bool) : fRlcmacHdrSize tlliNeeded ≤ 6 := by
  cases tlliNeeded <;> decide

section Union

variable {Ctrl Egprs : Type}
variable {decCtrl : List UInt8 → Except Fault Ctrl}
variable {decEgprs : List UInt8 → Except Fault Egprs}
variable {us : UlTbf} {c : Call} {x : RlcmacUlDataBlock}

/-- **IN CS-1** the block fits when its segments can be read. -/
theorem Made.fits_cs1 (h : Made us c 22 x) (hp : pending us.toUlTbfState ≠ []) :
    BlockFits decCtrl decEgprs .cs1 x
      ↔ Readable (pending us.toUlTbfState) (22 - fRlcmacHdrSize c.tlliNeeded) := by
  have hhdr := fRlcmacHdrSize_le c.tlliNeeded
  have hm : 0 < 22 - fRlcmacHdrSize c.tlliNeeded := by omega
  constructor
  · intro hfits
    exact readable_of_returnable hp hm (hfits.decodable h.payloadType h.blocks)
  · rintro (hends | hlong)
    · have hfit : UlFits x := by
        rw [UlFits, h.cs]
        exact h.ulDataLen_le (by omega)
      exact blockFits_headed h.cs h.payloadType h.blocks (segment_ne_nil hp hm)
        (segment_headed _ hends) hfit
    · obtain ⟨payload, hseg, hlen⟩ := segment_single hm hlong
      have hblocks := h.blocks
      have hdata := h.ulDataLen
      rw [hseg] at hblocks hdata
      refine blockFits_single h.cs h.payloadType hblocks rfl ?_
      have hone : fLlcBlocksEncLen [⟨none, payload⟩] = payload.length := rfl
      rw [hdata, hone, hlen]
      omega

/-- **IN CS-2 AND CS-3** it never does: the encoder pads to the length of CS-1,
    and the data alone are an octet short of the block of the TBF. -/
theorem Made.not_fits {n : Nat} (h : Made us c n x) (hhdr : fRlcmacHdrSize c.tlliNeeded ≤ n)
    (hlong : 23 < fRlcmacCsMcs2blockLen us.initialCs.toCodingScheme)
    (hshort : n + 1 < fRlcmacCsMcs2blockLen us.initialCs.toCodingScheme) :
    ¬ BlockFits decCtrl decEgprs us.initialCs x := by
  rintro ⟨o, y, henc, hlen, -, -⟩
  have hsome : x.blocks.isSome = true := by
    rw [h.blocks]
    rfl
  have hle := (enc_length hsome henc).2
  have hdata := h.ulDataLen_le hhdr
  rw [h.cs] at hle
  have hle' : o.length ≤ max 23 (OsmoRlcmac.ulDataLen x) := hle
  omega

end Union

-- ── The countdown value ──────────────────────────────────────────────────────

theorem fDivRoundUp_ok (dividend : Int) {divisor : Int} (h : divisor ≠ 0) :
    ∃ x, fDivRoundUp dividend divisor = .ok x := ⟨_, if_neg h⟩

/-- Of a number that is not negative. -/
theorem fDivRoundUp_nonneg {dividend divisor : Int} (h0 : 0 ≤ dividend) (hd : 0 < divisor) :
    ∃ x, fDivRoundUp dividend divisor = .ok x ∧ 0 ≤ x ∧ (0 < dividend → 0 < x) := by
  refine ⟨_, if_neg (Int.ne_of_gt hd), ?_⟩
  rw [Int.tdiv_eq_ediv_of_nonneg h0, Int.tmod_eq_emod_of_nonneg h0]
  have hdiv := Int.ediv_nonneg h0 (Int.le_of_lt hd)
  have hsum := Int.mul_ediv_add_emod dividend divisor
  by_cases hmod : dividend % divisor = 0
  · rw [if_neg (not_not.mpr hmod)]
    refine ⟨hdiv, fun hpos => ?_⟩
    rcases Int.lt_or_eq_of_le hdiv with hlt | heq
    · exact hlt
    · rw [← heq, hmod, Int.mul_zero] at hsum
      omega
  · rw [if_pos hmod]
    exact ⟨by omega, fun _ => by omega⟩

/-- What every call keeps. -/
structure Sound (us : UlTbf) : Prop where
  valid : Valid us.toUlTbfState
  numTs : us.numTs = 1
  vS : us.vS < 128
  tfi : us.tfi < 32
  sent : us.rlcSent.length = us.bsnP

/-- The countdown value is computed, and fits its field while there are data. -/
theorem fUlTbfGetCv_ok {us : UlTbf} (hs : Sound us) {n : Nat} {needed : Bool}
    (hn : fGprsBlocksize us.initialCs = .ok n) (hroom : fRlcmacHdrSize needed < n) :
    ∃ cv, fUlTbfGetCv us us.initialCs needed = .ok cv
      ∧ (pending us.toUlTbfState ≠ [] → 0 ≤ cv ∧ cv < 16) := by
  have hnet : 0 < (n : Int) - fRlcmacHdrSize needed := by omega
  have hrem : us.totalBytesRemain = (octets (pending us.toUlTbfState) : Nat) := hs.valid.remain
  obtain ⟨num, hnum, hnum0, hnumPos⟩ := @fDivRoundUp_nonneg us.totalBytesRemain _
    (by rw [hrem]; omega) hnet
  have hdivisor : (us.numTs : Int) * fKForCs us.initialCs = 1 := by
    rw [hs.numTs]
    rfl
  have hcalc : fUlTbfGetCv us us.initialCs needed
      = (fDivRoundUp (num + us.rlcSent.length - us.bsnP - 1) 1).map
        (fun x => if x ≤ 14 then x else 15) := by
    rw [fUlTbfGetCv, hn, ok_bind, hnum, ok_bind, fCalcCv, hdivisor]
  rw [hcalc]
  by_cases hp : pending us.toUlTbfState = []
  · obtain ⟨x, hx⟩ := @fDivRoundUp_ok (num + us.rlcSent.length - us.bsnP - 1) 1 (by decide)
    rw [hx]
    exact ⟨_, rfl, fun hne => absurd hp hne⟩
  · have hpos : 0 < num := by
      refine hnumPos ?_
      obtain ⟨p, ps, hcons⟩ := List.exists_cons_of_ne_nil hp
      have hp0 : 0 < p.length := List.length_pos_iff.mpr
        (hs.valid.pending_ne p (by rw [hcons]; exact List.mem_cons_self))
      rw [hrem, hcons, octets_cons]
      omega
    have hsent := hs.sent
    obtain ⟨x, hx, hx0, -⟩ := @fDivRoundUp_nonneg (num + us.rlcSent.length - us.bsnP - 1) 1
      (by omega) (by decide)
    rw [hx]
    refine ⟨_, rfl, fun _ => ?_⟩
    dsimp only
    split <;> omega

-- ── A call ───────────────────────────────────────────────────────────────────

theorem uintN_ok {n : Nat} {v : Int} (h : 0 ≤ v ∧ v < n) : ∃ k, uintN n v = .ok k :=
  ⟨_, dif_pos h⟩

theorem rlcmacUlData_ok {tfi cv bsn : Int} (htfi : 0 ≤ tfi ∧ tfi < 32)
    (hcv : 0 ≤ cv ∧ cv < 16) (hbsn : 0 ≤ bsn ∧ bsn < 128) (cs : CodingScheme)
    (blocks : List LlcBlock) (stall : Bool) (tlli : Option GprsTlli) :
    ∃ x, rlcmacUlData cs tfi cv bsn blocks stall tlli = .ok x ∧ x.cs = cs
      ∧ x.macHdr.payloadType = .rlcData ∧ x.tlli = tlli ∧ x.pfi = none
      ∧ x.blocks = some blocks := by
  obtain ⟨a, ha⟩ := @uintN_ok 32 _ htfi
  obtain ⟨b, hb⟩ := @uintN_ok 16 _ hcv
  obtain ⟨d, hd⟩ := @uintN_ok 128 _ hbsn
  rw [rlcmacUlData, ha, ok_bind, hb, ok_bind, hd, ok_bind]
  exact ⟨_, rfl, rfl, rfl, rfl, rfl, rfl⟩

theorem nextData_ok {us : UlTbf} (hs : Sound us) {cv : Int} (hcv : 0 ≤ cv ∧ cv < 16)
    (blocks : List LlcBlock) (c : Call) :
    ∃ x, nextData us cv blocks c.tlli c.tlliNeeded = .ok x ∧ x.cs = .cs1
      ∧ x.macHdr.payloadType = .rlcData ∧ x.tlli = blockTlli c ∧ x.pfi = none
      ∧ x.blocks = some blocks := by
  have hvS := hs.vS
  have htfi := hs.tfi
  have hdata := @rlcmacUlData_ok us.tfi cv us.vS (by omega) hcv (by omega) .cs1 blocks false
  rw [nextData, blockTlli]
  cases c.tlliNeeded with
  | false => exact hdata none
  | true => exact hdata (some c.tlli)

/-- **NO DATA, NO BLOCK.** -/
theorem callStep_none {us : UlTbf} (hs : Sound us) {c : Call} {n : Nat}
    (hn : fGprsBlocksize us.initialCs = .ok n) (hroom : fRlcmacHdrSize c.tlliNeeded < n)
    (hp : pending us.toUlTbfState = []) : callStep us c = .ok (us, none) := by
  obtain ⟨cv, hcv, -⟩ := fUlTbfGetCv_ok hs hn hroom
  rw [callStep, fUlTbfGetNextBlock, hn, ok_bind, hcv, ok_bind,
    pullMulti_nil hp (show 1 ≤ n - fRlcmacHdrSize c.tlliNeeded by omega), ok_bind, if_pos rfl]

/-- What a call leaves that sends `x`. -/
def sentState (us : UlTbf) (pulled : UlTbfState) (x : RlcmacUlDataBlock) : UlTbf :=
  { us with
    toUlTbfState := pulled
    bsnP := us.bsnP + 1
    vS := (us.bsnP + 1) % 128
    rlcSent := us.rlcSent ++ [x] }

theorem sentState_sound {us : UlTbf} (hs : Sound us) {rest : List (List UInt8)}
    {pulled : UlTbfState} (hcopied : Copied us.toUlTbfState rest pulled)
    (x : RlcmacUlDataBlock) : Sound (sentState us pulled x) where
  valid := hcopied.valid
  numTs := hs.numTs
  vS := Nat.mod_lt _ (by decide)
  tfi := hs.tfi
  sent := by
    show (us.rlcSent ++ [x]).length = us.bsnP + 1
    rw [List.length_append, hs.sent]
    rfl

/-- The steps of a call while there are data. -/
theorem callStep_sends {us : UlTbf} (hs : Sound us) {c : Call} {n : Nat}
    (hn : fGprsBlocksize us.initialCs = .ok n) (hroom : fRlcmacHdrSize c.tlliNeeded < n)
    (hp : pending us.toUlTbfState ≠ []) :
    ∃ cv pulled x, fUlTbfGetCv us us.initialCs c.tlliNeeded = .ok cv
      ∧ Copied us.toUlTbfState
          (segment (pending us.toUlTbfState) (n - fRlcmacHdrSize c.tlliNeeded)).2 pulled
      ∧ nextData us cv (segment (pending us.toUlTbfState)
          (n - fRlcmacHdrSize c.tlliNeeded)).1 c.tlli c.tlliNeeded = .ok x
      ∧ Made us c n x ∧ callStep us c = .ok (sentState us pulled x, some x) := by
  obtain ⟨cv, hcv, hrange⟩ := fUlTbfGetCv_ok hs hn hroom
  obtain ⟨pulled, hmulti, hcopied⟩ := pullMulti_spec hs.valid hp
    (show 1 ≤ n - fRlcmacHdrSize c.tlliNeeded by omega)
  obtain ⟨x, hx, hcs, hpt, htlli, hpfi, hblocks⟩ := nextData_ok hs (hrange hp)
    (segment (pending us.toUlTbfState) (n - fRlcmacHdrSize c.tlliNeeded)).1 c
  refine ⟨cv, pulled, x, hcv, hcopied, hx, ⟨hcs, hpt, htlli, hpfi, hblocks⟩, ?_⟩
  rw [callStep, fUlTbfGetNextBlock, hn, ok_bind, hcv, ok_bind, hmulti, ok_bind,
    if_neg Bool.noConfusion, hx, ok_bind]
  rfl

/-- **A CALL SENDS THE NEXT SEGMENTS.** -/
theorem callStep_some {us : UlTbf} (hs : Sound us) {c : Call} {n : Nat}
    (hn : fGprsBlocksize us.initialCs = .ok n) (hroom : fRlcmacHdrSize c.tlliNeeded < n)
    (hp : pending us.toUlTbfState ≠ []) :
    ∃ us' x, callStep us c = .ok (us', some x) ∧ Made us c n x ∧ Sound us' := by
  obtain ⟨cv, pulled, x, -, hcopied, -, hmade, hstep⟩ := callStep_sends hs hn hroom hp
  exact ⟨_, x, hstep, hmade, sentState_sound hs hcopied x⟩

/-- The scheme without a block size stops the test. -/
theorem callStep_cs4 {us : UlTbf} (h : us.initialCs = .cs4) (c : Call) :
    callStep us c = .error (.shutdown "Invalid GPRS CS CS4 (3)") := by
  rw [callStep, fUlTbfGetNextBlock, h]
  rfl

/-- The block size of the other schemes, and the radio block it is for. -/
theorem fGprsBlocksize_ok {cs : GprsCodingScheme} (h : cs ≠ .cs4) :
    ∃ n, fGprsBlocksize cs = .ok n ∧ 22 ≤ n
      ∧ (cs = .cs1 → n = 22)
      ∧ (cs ≠ .cs1 → 23 < fRlcmacCsMcs2blockLen cs.toCodingScheme
        ∧ n + 1 < fRlcmacCsMcs2blockLen cs.toCodingScheme) := by
  cases cs with
  | cs1 => exact ⟨22, rfl, by decide, fun _ => rfl, fun hne => absurd rfl hne⟩
  | cs2 => exact ⟨32, rfl, by decide, fun heq => (nomatch heq), fun _ => by decide⟩
  | cs3 => exact ⟨38, rfl, by decide, fun heq => (nomatch heq), fun _ => by decide⟩
  | cs4 => exact absurd rfl h

section Runs

variable {Ctrl Egprs : Type}
variable {decCtrl : List UInt8 → Except Fault Ctrl}
variable {decEgprs : List UInt8 → Except Fault Egprs}

/-- **WHEN A CALL IS RIGHT**, from any state that calls lead to. -/
theorem callRight_iff {us : UlTbf} (hs : Sound us) (c : Call) :
    CallRight decCtrl decEgprs us c ↔ HoldsWhen us c := by
  by_cases h4 : us.initialCs = .cs4
  · constructor
    · rintro ⟨us', r, hstep, -⟩
      rw [callStep_cs4 h4] at hstep
      exact nomatch hstep
    · rintro (⟨hne, -⟩ | ⟨h1, -⟩)
      · exact absurd h4 hne
      · exact nomatch h4.symm.trans h1
  obtain ⟨n, hn, hle, hcs1, hother⟩ := fGprsBlocksize_ok h4
  have hhdr := fRlcmacHdrSize_le c.tlliNeeded
  have hroom : fRlcmacHdrSize c.tlliNeeded < n := by omega
  by_cases hp : pending us.toUlTbfState = []
  · exact iff_of_true ⟨us, none, callStep_none hs hn hroom hp, fun _ h => nomatch h⟩
      (Or.inl ⟨h4, hp⟩)
  obtain ⟨us', x, hstep, hmade, -⟩ := callStep_some hs hn hroom hp
  have hright : CallRight decCtrl decEgprs us c
      ↔ BlockFits decCtrl decEgprs us.initialCs x := by
    constructor
    · rintro ⟨us2, r, hstep2, hfits⟩
      rw [hstep] at hstep2
      obtain ⟨-, rfl⟩ := Prod.mk.inj (Except.ok.inj hstep2)
      exact hfits x rfl
    · intro hfits
      refine ⟨us', some x, hstep, fun blk hblk => ?_⟩
      rw [← Option.some.inj hblk]
      exact hfits
  rw [hright]
  by_cases h1 : us.initialCs = .cs1
  · rw [hcs1 h1] at hmade
    rw [h1, hmade.fits_cs1 hp]
    constructor
    · intro hread
      exact Or.inr ⟨h1, hread⟩
    · rintro (⟨-, hnil⟩ | ⟨-, hread⟩)
      · exact absurd hnil hp
      · exact hread
  · obtain ⟨hlong, hshort⟩ := hother h1
    refine iff_of_false (hmade.not_fits (Nat.le_of_lt hroom) hlong hshort) ?_
    rintro (⟨-, hnil⟩ | ⟨heq, -⟩)
    · exact hp hnil
    · exact h1 heq

end Runs

theorem callStep_sound {us us' : UlTbf} {c : Call} {r : Option RlcmacUlDataBlock}
    (hs : Sound us) (h : callStep us c = .ok (us', r)) : Sound us' := by
  by_cases h4 : us.initialCs = .cs4
  · rw [callStep_cs4 h4] at h
    exact nomatch h
  obtain ⟨n, hn, hle, -, -⟩ := fGprsBlocksize_ok h4
  have hhdr := fRlcmacHdrSize_le c.tlliNeeded
  have hroom : fRlcmacHdrSize c.tlliNeeded < n := by omega
  by_cases hp : pending us.toUlTbfState = []
  · rw [callStep_none hs hn hroom hp] at h
    rw [← (Prod.mk.inj (Except.ok.inj h)).1]
    exact hs
  · obtain ⟨us2, x, hstep, -, hs2⟩ := callStep_some hs hn hroom hp
    rw [hstep] at h
    rw [← (Prod.mk.inj (Except.ok.inj h)).1]
    exact hs2

-- ── Every call of a TBF ──────────────────────────────────────────────────────

section Init

variable {PduLlc : Type} {encPduLlc : PduLlc → List UInt8}

theorem ulTbfInit_sound {pdus : List PduLlc} (hne : ∀ p ∈ pdus, encPduLlc p ≠ [])
    (cs : GprsCodingScheme) (enc : List (List UInt8)) (totlen : Int) :
    Sound (ulTbfInit encPduLlc cs (some pdus) enc totlen) :=
  ⟨(fUlTbfStateInit_valid hne enc totlen).1, rfl, show 0 < 128 by decide,
    show 0 < 32 by decide, rfl⟩

variable {Ctrl Egprs : Type}

/-- **THE BLOCKS OF A TBF**: from the initial state of a TBF with any PDUs that
    encode to an octet at least, in every state that calls lead to, with and
    without TLLI, the next call returns and its block is one radio block of the
    scheme of the TBF in which the decoder finds the same segments, if and only
    if `HoldsWhen` is true of that state. -/
theorem ulTbf_nextBlock (decCtrl : List UInt8 → Except Fault Ctrl)
    (decEgprs : List UInt8 → Except Fault Egprs) (pdus : List PduLlc)
    (hne : ∀ p ∈ pdus, encPduLlc p ≠ []) (cs : GprsCodingScheme) (enc : List (List UInt8))
    (totlen : Int) (calls : List Call) (us : UlTbf) (sent : List (Option RlcmacUlDataBlock))
    (hrun : run callStep (ulTbfInit encPduLlc cs (some pdus) enc totlen) calls
      = .ok (us, sent)) (c : Call) :
    CallRight decCtrl decEgprs us c ↔ HoldsWhen us c := by
  have hsound : Sound us := by
    refine @run_reports_inv _ _ _ _ callStep (fun us _ => Sound us)
      (fun _ _ _ _ _ hs hstep => callStep_sound hs hstep) calls _ [] us sent
      (ulTbfInit_sound hne cs enc totlen) hrun
  exact callRight_iff hsound c

end Init

/-- A decoder for blocks of another kind, of which there are none. -/
def noSuchBlock (_stream : List UInt8) : Except Fault Empty := .error .rawIncomplete

/-- The TBF of a list of PDUs that are already encoded. -/
def tbfOf (cs : GprsCodingScheme) (pdus : List (List UInt8)) : UlTbf :=
  ulTbfInit id cs (some pdus) [] 0

/-- A call that needs the TLLI. -/
def withTlli : Call := ⟨someTlli, true⟩

/-- A call that does not. -/
def withoutTlli : Call := ⟨someTlli, false⟩

/-- A PDU of 30 octets in CS-1: the part that the first block leaves is in the
    second one with its length. -/
theorem ulTbf_nextBlock_second : ∃ us sent,
    run callStep (tbfOf .cs1 [List.replicate 30 7]) [withTlli] = .ok (us, sent)
      ∧ CallRight noSuchBlock noSuchBlock us withoutTlli :=
  ⟨_, _, rfl, (@ulTbf_nextBlock (List UInt8) id Empty Empty noSuchBlock noSuchBlock
    [List.replicate 30 7] (by decide) .cs1 [] 0 [withTlli] _ _ rfl withoutTlli).mpr
    (by decide)⟩

/-- **WRONG BLOCKS**: any call in CS-4 stops the test, a block of a TBF in CS-2
    is encoded as one of CS-1, and in CS-1 a PDU of exactly the room is not
    decoded again, nor is one that starts behind another and does not end in the
    block. -/
theorem blocks_wrong :
    callStep (tbfOf .cs4 [[7]]) withTlli = .error (.shutdown "Invalid GPRS CS CS4 (3)")
    ∧ ¬ CallRight noSuchBlock noSuchBlock (tbfOf .cs2 [List.replicate 50 7]) withoutTlli
    ∧ ¬ CallRight noSuchBlock noSuchBlock (tbfOf .cs1 [List.replicate 20 7]) withoutTlli
    ∧ ¬ CallRight noSuchBlock noSuchBlock (tbfOf .cs1 [[7], List.replicate 30 8])
        withoutTlli := by
  have hsound (cs : GprsCodingScheme) {pdus : List (List UInt8)} (hne : ∀ p ∈ pdus, id p ≠ []) :
      Sound (tbfOf cs pdus) := ulTbfInit_sound hne cs [] 0
  refine ⟨callStep_cs4 rfl withTlli, ?_, ?_, ?_⟩
  · rw [callRight_iff (hsound .cs2 (by decide))]
    decide
  · rw [callRight_iff (hsound .cs1 (by decide))]
    decide
  · rw [callRight_iff (hsound .cs1 (by decide))]
    decide

end OsmoUlTbf
