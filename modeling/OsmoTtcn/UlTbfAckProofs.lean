import OsmoTtcn.AckNackProofs
import OsmoTtcn.UlTbfBlocksProofs

/-! # Ack/Nack in an uplink TBF

    `f_ul_tbf_process_acknack` walks through the bitmap of a PACKET UPLINK
    ACK/NACK and sets a bit in V(B) for each block that it acknowledges.

    `f_acknackdesc_ack_block` builds the same information element: there bit `i`
    is the block `64 - i` below SSN (`ackBlock_acked`).  Here it is taken for the
    block `i` above SSN, without a wrap at 128.  The two are 64 blocks apart, so
    that never is a right bit set; `ackRight_iff` says when this leaves no trace.
    The bound in `f_UlTbf_ack_one_block` lets the index behind the last one
    through, at which a bit is appended. -/

namespace OsmoUlTbfAck

open OsmoTitan OsmoRlcmac OsmoUlTbf OsmoAckNack CountLoop

-- ── The code ─────────────────────────────────────────────────────────────────

/-- The state with the rest of `us.et`. -/
structure UlTbfTx extends UlTbf where
  /-- acknowledge state variable V(A): BSN value of oldest RLC data block that
      has not been positively acknowledged by peer. -/
  vA : Int
  /-- acknowledge state array V(B) -/
  vB : List Bool
  deriving DecidableEq, Repr

section Init

variable {PduLlc : Type} (encPduLlc : PduLlc → List UInt8)

/-- `f_UlTbfState_init`, with `f_RlcEndpointTx_init`. -/
def ulTbfTxInit (initialCs : GprsCodingScheme) (llcPdus : Option (List PduLlc))
    (llcPdusEnc : List (List UInt8)) (totlen : Int) : UlTbfTx where
  toUlTbf := ulTbfInit encPduLlc initialCs llcPdus llcPdusEnc totlen
  vA := 0
  vB := List.replicate 128 false

end Init

/-- `UlAckNackGprs`; nothing is done with the other members. -/
structure UlAckNackGprs where
  ackNackDesc : AckNackDescription
  deriving DecidableEq, Repr

/-- `PacketUlAckNack` -/
structure PacketUlAckNack where
  gprs : Option UlAckNackGprs
  deriving DecidableEq, Repr

/-- `RlcmacDlCtrlUnion` -/
inductive RlcmacDlCtrlUnion where
  | ulAckNack (msg : PacketUlAckNack)
  | other
  deriving DecidableEq, Repr

/-- `RlcmacDlCtrlBlock` -/
structure RlcmacDlCtrlBlock where
  payload : RlcmacDlCtrlUnion
  deriving DecidableEq, Repr

/-- `bits[idx] := v`, where the index behind the last bit appends one. -/
def assignBit (bits : List Bool) (idx : Int) (v : Bool) : Except Fault (List Bool) :=
  if 0 ≤ idx ∧ idx < bits.length then .ok (bits.set idx.toNat v)
  else if idx = bits.length then .ok (bits ++ [v])
  else .error .badIndex

/-- What is logged of a block that is not in `v_b`. -/
def cannotAck (n vA : Int) : String :=
  "UlTbf: Cannot ACK " ++ toString n ++ " while V(A) is " ++ toString vA

/-- `f_UlTbf_ack_one_block` -/
def fUlTbfAckOneBlock (us : UlTbfTx) (n : Int) : Except Fault UlTbfTx :=
  -- compute index into v_b
  let idx := n - us.vA
  if idx < 0 ∨ idx > us.vB.length then .error (.shutdown (cannotAck n us.vA))
  else (assignBit us.vB idx true).map (fun bits => { us with vB := bits })

/-- check if V(B) contains '1' at lower end: so far it only logs -/
def fUlTbfCheckAdvanceVA (us : UlTbfTx) : UlTbfTx := us

/-- One round over the bitmap. -/
def ackRound (desc : AckNackDescription) (i : Int) (us : UlTbfTx) : Except Fault UlTbfTx :=
  (desc.receiveBlockBitmap.get i).bind (fun received =>
    if received then fUlTbfAckOneBlock us (desc.startingSeqNr.val + i) else .ok us)

/-- `f_ul_tbf_process_acknack` -/
def fUlTbfProcessAcknack (us : UlTbfTx) (db : RlcmacDlCtrlBlock) : Except Fault UlTbfTx :=
  match db.payload with
  | .ulAckNack ⟨some uanGprs⟩ =>
      -- iterate over received bitmap, ACK each block in our TBF state
      (downTo (64 - 1) 0 (ackRound uanGprs.ackNackDesc) us).map fUlTbfCheckAdvanceVA
  | _ => .ok us

-- ── What the bitmap says ─────────────────────────────────────────────────────

/-- The BSN of bit `i`. -/
def bitBsn (ssn : Fin 128) (i : Nat) : Int := ((ssn.val : Int) - 64 + i) % 128

/-- The bitmap acknowledges a BSN. -/
def Acked (desc : AckNackDescription) (bsn : Int) : Prop :=
  ∃ i, i < 64 ∧ desc.receiveBlockBitmap.bit i = true ∧ bitBsn desc.startingSeqNr i = bsn

/-- The place of a BSN in V(B). -/
def vbIndex (us : UlTbfTx) (bsn : Int) : Int := (bsn - us.vA) % 128

/-- The message of a description. -/
def ulAckNackOf (desc : AckNackDescription) : RlcmacDlCtrlBlock :=
  ⟨.ulAckNack ⟨some ⟨desc⟩⟩⟩

/-- **A RIGHT CALL** comes through, sets the bits of the blocks that the bitmap
    acknowledges, and changes nothing else. -/
def AckRight (us : UlTbfTx) (desc : AckNackDescription) : Prop :=
  ∃ us', fUlTbfProcessAcknack us (ulAckNackOf desc) = .ok us'
    ∧ us' = { us with vB := us'.vB }
    ∧ us'.vB.length = us.vB.length
    ∧ (∀ bsn, Acked desc bsn → vbIndex us bsn < us.vB.length)
    ∧ ∀ k : Nat, k < us.vB.length → (us'.vB.getD k false = true
        ↔ us.vB.getD k false = true ∨ ∃ bsn, Acked desc bsn ∧ vbIndex us bsn = k)

/-- The index that the code makes of bit `i`. -/
def codeIndex (us : UlTbfTx) (desc : AckNackDescription) (i : Nat) : Int :=
  desc.startingSeqNr.val + i - us.vA

/-- The bit is there and set. -/
def IsSet (bits : List Bool) (k : Int) : Prop :=
  0 ≤ k ∧ k < bits.length ∧ bits.getD k.toNat false = true

instance (bits : List Bool) (k : Int) : Decidable (IsSet bits k) :=
  inferInstanceAs (Decidable (_ ∧ _ ∧ _))

/-- What the bitmap acknowledges is known already, and so are the blocks that the
    code takes instead. -/
def NothingNew (us : UlTbfTx) (desc : AckNackDescription) : Prop :=
  ∀ i, i < 64 → desc.receiveBlockBitmap.bit i = true →
    IsSet us.vB (codeIndex us desc i)
      ∧ IsSet us.vB (vbIndex us (bitBsn desc.startingSeqNr i))

instance (us : UlTbfTx) (desc : AckNackDescription) : Decidable (NothingNew us desc) :=
  Nat.decidableBallLT 64 (fun i _ => desc.receiveBlockBitmap.bit i = true →
    IsSet us.vB (codeIndex us desc i) ∧ IsSet us.vB (vbIndex us (bitBsn desc.startingSeqNr i)))

-- ── The other side ───────────────────────────────────────────────────────────

/-- **THE BUILDER'S READING**: behind `f_acknackdesc_ack_block` the block is
    acknowledged. -/
theorem ackBlock_acked {desc desc' : AckNackDescription} {bsn : Fin 128} {fin : Bool}
    (h : fAcknackdescAckBlock desc bsn fin = .ok desc') : Acked desc' bsn.val := by
  have hin : InCycle desc bsn := by
    by_contra hout
    rw [ackBlock_error hout] at h
    cases h
  have hb := bsn.isLt
  by_cases hlt : bsn.val < desc.startingSeqNr.val
  · rw [ackBlock_hole hin hlt] at h
    rw [← Except.ok.inj h]
    obtain ⟨hlo, -⟩ := hin
    refine ⟨64 - (desc.startingSeqNr.val - bsn.val), by omega, ?_, ?_⟩
    · exact desc.receiveBlockBitmap.bit_put_self (by omega) true
    · show ((desc.startingSeqNr.val : Int) - 64 + _) % 128 = _
      omega
  · obtain ⟨bm', hack, -, -, hlast⟩ := ackBlock_advance hin (Nat.le_of_not_lt hlt) fin
    rw [hack] at h
    rw [← Except.ok.inj h]
    refine ⟨63, by decide, hlast, ?_⟩
    show (((bsn.val + 1) % 128 : Nat) - 64 + (63 : Nat) : Int) % 128 = _
    omega

-- ── One block ────────────────────────────────────────────────────────────────

section Rounds

variable {us us' : UlTbfTx} {desc : AckNackDescription}

theorem getD_set_iff {bits : List Bool} {j : Nat} (hj : j < bits.length) (k : Nat) :
    (bits.set j true).getD k false = true ↔ bits.getD k false = true ∨ j = k := by
  rw [List.getD_eq_getElem?_getD, List.getD_eq_getElem?_getD]
  by_cases hjk : j = k
  · rw [← hjk, List.getElem?_set_self hj]
    exact ⟨fun _ => Or.inr rfl, fun _ => rfl⟩
  · rw [List.getElem?_set_ne hjk]
    exact ⟨Or.inl, fun h => h.resolve_right hjk⟩

/-- A block in the array is marked. -/
theorem ackOneBlock_inside {n : Int} (hlo : 0 ≤ n - us.vA) (hhi : n - us.vA < us.vB.length) :
    fUlTbfAckOneBlock us n = .ok { us with vB := us.vB.set (n - us.vA).toNat true } := by
  rw [fUlTbfAckOneBlock, if_neg (by omega), assignBit, if_pos ⟨hlo, hhi⟩]
  rfl

/-- A call that comes through has marked a block in the array, or made the array
    longer. -/
theorem ackOneBlock_ok {n : Int} (h : fUlTbfAckOneBlock us n = .ok us') :
    us'.vA = us.vA ∧ ((0 ≤ n - us.vA ∧ n - us.vA < us.vB.length
        ∧ us'.vB.length = us.vB.length) ∨ us'.vB.length = us.vB.length + 1) := by
  by_cases hin : 0 ≤ n - us.vA ∧ n - us.vA < us.vB.length
  · rw [ackOneBlock_inside hin.1 hin.2] at h
    rw [← Except.ok.inj h]
    exact ⟨rfl, Or.inl ⟨hin.1, hin.2, List.length_set⟩⟩
  by_cases hout : n - us.vA < 0 ∨ n - us.vA > us.vB.length
  · rw [fUlTbfAckOneBlock, if_pos hout] at h
    cases h
  · rw [fUlTbfAckOneBlock, if_neg hout, assignBit, if_neg hin, if_pos (by omega)] at h
    rw [← Except.ok.inj h]
    exact ⟨rfl, Or.inr List.length_append⟩

theorem codeIndex_eq (i : Nat) :
    (desc.startingSeqNr.val : Int) + i - us.vA = codeIndex us desc i := rfl

-- ── The loop ─────────────────────────────────────────────────────────────────

/-- The index of every acknowledged block lies in the array. -/
def AllInside (us : UlTbfTx) (desc : AckNackDescription) : Prop :=
  ∀ i, i < 64 → desc.receiveBlockBitmap.bit i = true →
    0 ≤ codeIndex us desc i ∧ codeIndex us desc i < us.vB.length

/-- Behind the rounds above `i`, `bits` has what they mark. -/
structure MarkedAbove (us : UlTbfTx) (desc : AckNackDescription) (i : Int)
    (us' : UlTbfTx) : Prop where
  frame : us' = { us with vB := us'.vB }
  length : us'.vB.length = us.vB.length
  marks : ∀ k : Nat, us'.vB.getD k false = true
    ↔ us.vB.getD k false = true ∨ ∃ j : Nat, i < j ∧ j < 64
      ∧ desc.receiveBlockBitmap.bit j = true ∧ codeIndex us desc j = k

/-- A round marks its block. -/
theorem ackRound_marks (hin : AllInside us desc) {i : Int} (hlo : 0 ≤ i) (hhi : i ≤ 64 - 1)
    (h : MarkedAbove us desc i us') :
    ∃ us2, ackRound desc i us' = .ok us2 ∧ MarkedAbove us desc (i - 1) us2 := by
  obtain ⟨n, rfl⟩ : ∃ n : Nat, i = n := ⟨i.toNat, by omega⟩
  have hn : n < 64 := by omega
  rw [ackRound, desc.receiveBlockBitmap.get_ok hn rfl]
  by_cases hbit : desc.receiveBlockBitmap.bit n = true
  · obtain ⟨hidxLo, hidxHi⟩ := hin n hn hbit
    have hvA : us'.vA = us.vA := by
      rw [h.frame]
    have hidx : (desc.startingSeqNr.val : Int) + n - us'.vA = codeIndex us desc n := by
      rw [hvA, codeIndex_eq]
    have hack := @ackOneBlock_inside us' (desc.startingSeqNr.val + n)
      (by rw [hidx]; exact hidxLo) (by rw [hidx, h.length]; exact hidxHi)
    rw [hidx] at hack
    refine ⟨{ us' with vB := us'.vB.set (codeIndex us desc n).toNat true }, ?_, ?_, ?_, ?_⟩
    · show (if desc.receiveBlockBitmap.bit n = true then _ else _) = _
      rw [if_pos hbit]
      exact hack
    · rw [h.frame]
    · exact List.length_set.trans h.length
    · intro k
      show (us'.vB.set (codeIndex us desc n).toNat true).getD k false = true ↔ _
      rw [getD_set_iff (by rw [h.length]; omega), h.marks, or_assoc]
      refine or_congr Iff.rfl ?_
      constructor
      · rintro (⟨j, hj, hj64, hjbit, hjk⟩ | hk)
        · exact ⟨j, by omega, hj64, hjbit, hjk⟩
        · exact ⟨n, by omega, hn, hbit, by omega⟩
      · rintro ⟨j, hj, hj64, hjbit, hjk⟩
        by_cases hjn : j = n
        · rw [hjn] at hjk
          exact Or.inr (by omega)
        · exact Or.inl ⟨j, by omega, hj64, hjbit, hjk⟩
  · refine ⟨us', ?_, h.frame, h.length, fun k => ?_⟩
    · show (if desc.receiveBlockBitmap.bit n = true then _ else _) = _
      rw [if_neg hbit]
    · rw [h.marks]
      refine or_congr Iff.rfl ?_
      constructor
      · rintro ⟨j, hj, hrest⟩
        exact ⟨j, by omega, hrest⟩
      · rintro ⟨j, hj, hj64, hjbit, hjk⟩
        have hjn : j ≠ n := by
          rintro rfl
          exact hbit hjbit
        exact ⟨j, by omega, hj64, hjbit, hjk⟩

/-- **THE BLOCKS ABOVE SSN** are marked where their places lie in the array. -/
theorem processAcknack_inside (hin : AllInside us desc) :
    ∃ us', fUlTbfProcessAcknack us (ulAckNackOf desc) = .ok us'
      ∧ MarkedAbove us desc (-1) us' := by
  have hstart : MarkedAbove us desc (64 - 1) us := by
    refine ⟨rfl, rfl, fun k => ⟨Or.inl, ?_⟩⟩
    rintro (h | ⟨j, hj, hj64, -⟩)
    · exact h
    · omega
  obtain ⟨us', hloop, hinv⟩ := downTo_inv (by decide)
    (fun i s hlo hhi hs => ackRound_marks hin hlo hhi hs) hstart
  refine ⟨us', ?_, hinv⟩
  show (downTo (64 - 1) 0 (ackRound desc) us).map fUlTbfCheckAdvanceVA = _
  rw [hloop]
  rfl

/-- **A CALL THAT COMES THROUGH** and leaves the length has had every place in the
    array. -/
theorem allInside_of_ok (h : fUlTbfProcessAcknack us (ulAckNackOf desc) = .ok us')
    (hlen : us'.vB.length = us.vB.length) : AllInside us desc := by
  have hloop : downTo (64 - 1) 0 (ackRound desc) us = .ok us' := by
    have hmap : (downTo (64 - 1) 0 (ackRound desc) us).map fUlTbfCheckAdvanceVA = .ok us' := h
    cases hrun : downTo (64 - 1) 0 (ackRound desc) us with
    | error e =>
        rw [hrun] at hmap
        cases hmap
    | ok us2 =>
        rw [hrun] at hmap
        exact hmap
  -- the array never gets shorter, and longer with each place outside
  obtain ⟨-, -, hinside⟩ := @downTo_ok UlTbfTx Fault (ackRound desc)
    (fun i s => s.vA = us.vA ∧ us.vB.length ≤ s.vB.length
      ∧ (s.vB.length = us.vB.length → ∀ j : Nat, i < j → j < 64 →
        desc.receiveBlockBitmap.bit j = true →
        0 ≤ codeIndex us desc j ∧ codeIndex us desc j < us.vB.length))
    (64 - 1) 0 us us' (by decide)
    (by
      rintro i s s' hlo hhi ⟨hvA, hle, hdone⟩ hround
      obtain ⟨n, rfl⟩ : ∃ n : Nat, i = n := ⟨i.toNat, by omega⟩
      rw [ackRound, desc.receiveBlockBitmap.get_ok (show n < 64 by omega) rfl] at hround
      by_cases hbit : desc.receiveBlockBitmap.bit n = true
      · have hack : fUlTbfAckOneBlock s (desc.startingSeqNr.val + n) = .ok s' := by
          have hite : (if desc.receiveBlockBitmap.bit n = true then
              fUlTbfAckOneBlock s (desc.startingSeqNr.val + n) else .ok s) = .ok s' := hround
          rw [if_pos hbit] at hite
          exact hite
        obtain ⟨hvA', hor⟩ := ackOneBlock_ok hack
        rw [hvA, codeIndex_eq] at hor
        refine ⟨hvA'.trans hvA, by omega, fun heq j hj hj64 hjbit => ?_⟩
        by_cases hjn : j = n
        · rw [hjn]
          omega
        · exact hdone (by omega) j (by omega) hj64 hjbit
      · have hite : (if desc.receiveBlockBitmap.bit n = true then
            fUlTbfAckOneBlock s (desc.startingSeqNr.val + n) else .ok s) = .ok s' := hround
        rw [if_neg hbit] at hite
        rw [← Except.ok.inj hite]
        refine ⟨hvA, hle, fun heq j hj hj64 hjbit => ?_⟩
        have hjn : j ≠ n := by
          rintro rfl
          exact hbit hjbit
        exact hdone heq j (by omega) hj64 hjbit)
    ⟨rfl, Nat.le_refl _, fun _ j hj hj64 => by omega⟩ hloop
  exact fun i hi hbit => hinside hlen i (by omega) hi hbit

end Rounds

-- ── When a call is right ─────────────────────────────────────────────────────

/-- **64 BLOCKS APART**: the code never marks the place of an acknowledged block. -/
theorem codeIndex_ne {us : UlTbfTx} {desc : AckNackDescription} {i j : Nat} (hi : i < 64)
    (hj : j < 64) : codeIndex us desc i ≠ vbIndex us (bitBsn desc.startingSeqNr j) := by
  rw [codeIndex, vbIndex, bitBsn]
  omega

/-- **EXACTLY WHEN** a call is right; and what the builder has put into the
    description of a block is that the block is acknowledged. -/
theorem ackRight_iff (us : UlTbfTx) (desc : AckNackDescription) :
    (AckRight us desc ↔ NothingNew us desc)
      ∧ ∀ desc' bsn fin, fAcknackdescAckBlock desc' bsn fin = .ok desc → Acked desc bsn.val := by
  refine ⟨?_, fun _ _ _ hbuilt => ackBlock_acked hbuilt⟩
  constructor
  · rintro ⟨us', hcall, hframe, hlen, hplace, hbits⟩
    have hin := allInside_of_ok hcall hlen
    obtain ⟨us2, hcall2, hmarked⟩ := processAcknack_inside hin
    rw [hcall] at hcall2
    rw [← Except.ok.inj hcall2] at hmarked
    intro i hi hbit
    obtain ⟨hlo, hhi⟩ := hin i hi hbit
    have hvb0 : 0 ≤ vbIndex us (bitBsn desc.startingSeqNr i) :=
      Int.emod_nonneg _ (by decide)
    have hvb := hplace _ ⟨i, hi, hbit, rfl⟩
    refine ⟨⟨hlo, hhi, ?_⟩, hvb0, hvb, ?_⟩
    · -- the code has marked it, so it was set, or is acknowledged
      have hset := (hmarked.marks (codeIndex us desc i).toNat).mpr
        (Or.inr ⟨i, by omega, hi, hbit, by omega⟩)
      rcases (hbits _ (by omega)).mp hset with hold | ⟨bsn, ⟨j, hj, -, rfl⟩, hidx⟩
      · exact hold
      · exact absurd (show codeIndex us desc i = _ by omega) (codeIndex_ne hi hj)
    · -- it is acknowledged, so it was set, or the code has marked it
      have hset := (hbits (vbIndex us (bitBsn desc.startingSeqNr i)).toNat (by omega)).mpr
        (Or.inr ⟨_, ⟨i, hi, hbit, rfl⟩, by omega⟩)
      rcases (hmarked.marks _).mp hset with hold | ⟨j, -, hj, -, hidx⟩
      · exact hold
      · exact absurd (show codeIndex us desc j = _ by omega) (codeIndex_ne hj hi)
  · intro h
    have hin : AllInside us desc := fun i hi hbit =>
      ⟨(h i hi hbit).1.1, (h i hi hbit).1.2.1⟩
    obtain ⟨us', hcall, hmarked⟩ := processAcknack_inside hin
    refine ⟨us', hcall, hmarked.frame, hmarked.length, ?_, fun k _ => ?_⟩
    · rintro bsn ⟨i, hi, hbit, rfl⟩
      exact (h i hi hbit).2.2.1
    · rw [hmarked.marks]
      constructor
      · rintro (hold | ⟨i, -, hi, hbit, hidx⟩)
        · exact Or.inl hold
        · have hset := (h i hi hbit).1.2.2
          rw [hidx] at hset
          exact Or.inl hset
      · rintro (hold | ⟨bsn, ⟨i, hi, hbit, rfl⟩, hidx⟩)
        · exact Or.inl hold
        · have hset := (h i hi hbit).2.2.2
          rw [hidx] at hset
          exact Or.inl hset

-- ── A first block ────────────────────────────────────────────────────────────

/-- A TBF of one PDU. -/
def freshTx : UlTbfTx := ulTbfTxInit id .cs1 (some [[7]]) [] 0

/-- Only the block below SSN is acknowledged. -/
def lastOnly (ssn : Fin 128) : AckNackDescription :=
  ⟨false, ssn, ⟨List.replicate 63 false ++ [true], rfl⟩⟩

theorem ackBlock_first :
    fAcknackdescAckBlock tAckNackDescriptionInit 0 false = .ok (lastOnly 1) := by
  decide

/-- **BLOCK 0** is taken for block 64; and block 64, taken for block 128, makes the
    array longer. -/
theorem ack_first_wrong :
    fAcknackdescAckBlock tAckNackDescriptionInit 0 false = .ok (lastOnly 1)
    ∧ (fUlTbfProcessAcknack freshTx (ulAckNackOf (lastOnly 1))).map UlTbfTx.vB
        = .ok ((List.replicate 128 false).set 64 true)
    ∧ ¬ AckRight freshTx (lastOnly 1)
    ∧ fAcknackdescAckBlock (lastOnly 1) 64 false = .ok (lastOnly 65)
    ∧ (fUlTbfProcessAcknack freshTx (ulAckNackOf (lastOnly 65))).map UlTbfTx.vB
        = .ok (List.replicate 128 false ++ [true])
    ∧ ¬ AckRight freshTx (lastOnly 65) := by
  refine ⟨ackBlock_first, by decide +kernel, ?_, by decide +kernel, by decide +kernel, ?_⟩
  · rw [(ackRight_iff freshTx (lastOnly 1)).1]
    decide +kernel
  · rw [(ackRight_iff freshTx (lastOnly 65)).1]
    decide +kernel

end OsmoUlTbfAck
