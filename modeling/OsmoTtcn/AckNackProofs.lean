import OsmoTtcn.TitanProofs
import OsmoTtcn.RunGuardProofs
import OsmoTtcn.CountLoopProofs
import OsmoTtcn.SeqWindowProofs

/-! # GPRS downlink Ack/Nack description

    `f_acknackdesc_ack_block` keeps a bitmap of the last 64 downlink blocks
    below the starting sequence number SSN, which counts modulo 128, and
    `f_acknackdesc_bsn_is_retrans` looks blocks up in it.

    The specification counts blocks without wrapping: a received BSN is the
    block of that number in the window around the next expected one
    (`unwrap`), and what there is to know is the list of blocks received.
    `Matches` relates the two.

    The code compares BSN and SSN as plain numbers and corrects a wrap by the
    constant 218, so it is right as long as the two lie in the same cycle of
    128, and a block that fills a hole leaves `final_ack` as it was:
    `ackNackRun_ok_iff`. -/

namespace OsmoAckNack

open OsmoTitan CountLoop RunGuard SeqWindow

-- ── The bitmap ───────────────────────────────────────────────────────────────

/-- `ReceivedBlockBitmap`, a bitstring of length 64. -/
structure ReceivedBlockBitmap where
  bits : List Bool
  len : bits.length = 64
  deriving DecidableEq, Repr

namespace ReceivedBlockBitmap

/-- A bit of the bitmap; false outside of it. -/
def bit (bm : ReceivedBlockBitmap) (j : Nat) : Bool := bm.bits.getD j false

/-- The bitmap with one bit set to a value. -/
def put (bm : ReceivedBlockBitmap) (j : Nat) (v : Bool) : ReceivedBlockBitmap :=
  ⟨bm.bits.set j v, by rw [List.length_set, bm.len]⟩

/-- `bm[i]` as a value. -/
def get (bm : ReceivedBlockBitmap) (i : Int) : Except Fault Bool :=
  if 0 ≤ i ∧ i < 64 then .ok (bm.bit i.toNat) else .error .badIndex

/-- `bm[i] := v` -/
def set (bm : ReceivedBlockBitmap) (i : Int) (v : Bool) :
    Except Fault ReceivedBlockBitmap :=
  if 0 ≤ i ∧ i < 64 then .ok (bm.put i.toNat v) else .error .badIndex

/-- Inside of the bitmap a bit can be read. -/
theorem get_ok (bm : ReceivedBlockBitmap) {i : Int} {j : Nat} (hj : j < 64)
    (hi : i = j) : bm.get i = .ok (bm.bit j) := by
  have hn : i.toNat = j := by omega
  rw [get, if_pos (by omega), hn]

/-- Inside of the bitmap a bit can be written. -/
theorem set_ok (bm : ReceivedBlockBitmap) {i : Int} {j : Nat} (hj : j < 64)
    (hi : i = j) (v : Bool) : bm.set i v = .ok (bm.put j v) := by
  have hn : i.toNat = j := by omega
  rw [set, if_pos (by omega), hn]

/-- Below it nothing can be read. -/
theorem get_neg (bm : ReceivedBlockBitmap) {i : Int} (hi : i < 0) :
    bm.get i = .error .badIndex :=
  if_neg (fun h => absurd h.1 (Int.not_le.mpr hi))

/-- Below it nothing can be written. -/
theorem set_neg (bm : ReceivedBlockBitmap) {i : Int} (hi : i < 0) (v : Bool) :
    bm.set i v = .error .badIndex :=
  if_neg (fun h => absurd h.1 (Int.not_le.mpr hi))

/-- What was written is read. -/
theorem bit_put_self (bm : ReceivedBlockBitmap) {j : Nat} (hj : j < 64)
    (v : Bool) : (bm.put j v).bit j = v := by
  have hlt : j < bm.bits.length := by
    rw [bm.len]
    exact hj
  show (bm.bits.set j v).getD j false = v
  rw [List.getD_eq_getElem?_getD, List.getElem?_set_self hlt]
  rfl

/-- The other bits are as they were. -/
theorem bit_put_ne (bm : ReceivedBlockBitmap) {j k : Nat} (hjk : j ≠ k)
    (v : Bool) : (bm.put j v).bit k = bm.bit k := by
  show (bm.bits.set j v).getD k false = bm.bits.getD k false
  rw [List.getD_eq_getElem?_getD, List.getD_eq_getElem?_getD,
      List.getElem?_set_ne hjk]

end ReceivedBlockBitmap

-- ── The code ─────────────────────────────────────────────────────────────────

/-- `AckNackDescription` -/
structure AckNackDescription where
  finalAck : Bool
  startingSeqNr : Fin 128
  receiveBlockBitmap : ReceivedBlockBitmap
  deriving DecidableEq, Repr

/-- The empty bitmap is of 64 bits. -/
theorem noBlocks_length : (List.replicate 64 false).length = 64 :=
  List.length_replicate

/-- `t_AckNackDescription_init` -/
def tAckNackDescriptionInit : AckNackDescription where
  finalAck := false
  startingSeqNr := 0
  receiveBlockBitmap := ⟨List.replicate 64 false, noBlocks_length⟩

/-- Check whether a given BSN is a retransmission in the not yet ACKed Tx
    window. -/
def fAcknackdescBsnIsRetrans (desc : AckNackDescription) (bsn : Fin 128) :
    Except Fault Bool :=
  let ssn : Int := desc.startingSeqNr.val
  let b : Int := bsn.val
  -- Filling hole?
  if b < ssn then desc.receiveBlockBitmap.get (64 - (ssn - b))
  -- Filling hole, wraparound:
  else if b - ssn > 64 then
    desc.receiveBlockBitmap.get (64 - (ssn + (218 - b)))
  else .ok false

/-- One bit of the bitmap is set. -/
def setReceived (desc : AckNackDescription) (i : Int) :
    Except Fault AckNackDescription :=
  (desc.receiveBlockBitmap.set i true).map
    (fun bm => { desc with receiveBlockBitmap := bm })

/-- SSN is increased by `inc`, and so RBB values need to be moved. -/
def moveBitmap (bm : ReceivedBlockBitmap) (inc : Int) :
    Except Fault ReceivedBlockBitmap := do
  let bm ← forTo 0 (64 - inc)
    (fun i bm => (bm.get (i + inc)).bind (fun v => bm.set i v)) bm
  let bm ← forTo (64 - inc) (64 - 1) (fun i bm => bm.set i false) bm
  bm.set (64 - 1) true

/-- TS 44.060 sec 12.3 Ack/Nack Description -/
def fAcknackdescAckBlock (desc : AckNackDescription) (bsn : Fin 128)
    (finalAck : Bool) : Except Fault AckNackDescription :=
  let ssn : Int := desc.startingSeqNr.val
  let b : Int := bsn.val
  -- Filling hole?
  if b < ssn then setReceived desc (64 - (ssn - b))
  -- Filling hole, wraparound:
  else if b - ssn > 64 then setReceived desc (64 - (ssn + (218 - b)))
  else
    (moveBitmap desc.receiveBlockBitmap (b - ssn + 1)).map (fun bm => {
      finalAck := finalAck
      startingSeqNr := Fin.ofNat 128 (bsn.val + 1)
      receiveBlockBitmap := bm })

-- ── Moving the bitmap ────────────────────────────────────────────────────────

/-- The first loop: the bits below `64 - inc` come from `inc` above. -/
theorem moveDown_ok (bm : ReceivedBlockBitmap) {inc : Nat} (hlo : 1 ≤ inc)
    (hhi : inc ≤ 64) :
    ∃ bm', forTo 0 (64 - (inc : Int)) (fun i bm =>
        (bm.get (i + inc)).bind (fun v => bm.set i v)) bm = .ok bm'
      ∧ ∀ j, j < 64 - inc → bm'.bit j = bm.bit (j + inc) := by
  obtain ⟨bm', hloop, hinv⟩ := @forTo_inv ReceivedBlockBitmap Fault
    (fun i bm => (bm.get (i + inc)).bind (fun v => bm.set i v))
    -- behind the counter the bits are moved, from it on they are as before
    (fun i bm' => (∀ j : Nat, (j : Int) < i → bm'.bit j = bm.bit (j + inc))
      ∧ ∀ j : Nat, i ≤ j → bm'.bit j = bm.bit j)
    0 (64 - (inc : Int)) bm (by omega)
    (by
      rintro i s h0 hi ⟨hdone, hrest⟩
      obtain ⟨n, rfl⟩ : ∃ n : Nat, i = n := ⟨i.toNat, by omega⟩
      have hget : s.get (n + inc) = .ok (s.bit (n + inc)) :=
        s.get_ok (by omega) (by omega)
      have hset : s.set n (s.bit (n + inc))
          = .ok (s.put n (s.bit (n + inc))) := s.set_ok (by omega) rfl _
      refine ⟨s.put n (s.bit (n + inc)), ?_, ?_, ?_⟩
      · rw [hget]
        exact hset
      · intro j hj
        by_cases hjn : j = n
        · rw [hjn, s.bit_put_self (by omega), hrest (n + inc) (by omega)]
        · rw [s.bit_put_ne (Ne.symm hjn)]
          exact hdone j (by omega)
      · intro j hj
        rw [s.bit_put_ne (by omega)]
        exact hrest j (by omega))
    ⟨fun j hj => absurd hj (by omega), fun j _ => rfl⟩
  exact ⟨bm', hloop, fun j hj => hinv.1 j (by omega)⟩

/-- The second loop clears the bits from `a` on, save the last one. -/
theorem clearFrom_ok (bm : ReceivedBlockBitmap) {a : Nat} (ha : a ≤ 63) :
    ∃ bm', forTo (a : Int) (64 - 1) (fun i bm => bm.set i false) bm = .ok bm'
      ∧ (∀ j, j < a → bm'.bit j = bm.bit j)
      ∧ ∀ j, a ≤ j → j < 63 → bm'.bit j = false := by
  obtain ⟨bm', hloop, hinv⟩ := @forTo_inv ReceivedBlockBitmap Fault
    (fun i bm => bm.set i false)
    (fun i bm' => (∀ j : Nat, j < a → bm'.bit j = bm.bit j)
      ∧ ∀ j : Nat, a ≤ j → (j : Int) < i → bm'.bit j = false)
    a (64 - 1) bm (by omega)
    (by
      rintro i s h0 hi ⟨hkeep, hclear⟩
      obtain ⟨n, rfl⟩ : ∃ n : Nat, i = n := ⟨i.toNat, by omega⟩
      refine ⟨s.put n false, s.set_ok (by omega) rfl _, ?_, ?_⟩
      · intro j hj
        rw [s.bit_put_ne (by omega)]
        exact hkeep j hj
      · intro j hlo hj
        by_cases hjn : j = n
        · rw [hjn, s.bit_put_self (by omega)]
        · rw [s.bit_put_ne (Ne.symm hjn)]
          exact hclear j hlo (by omega))
    ⟨fun j _ => rfl, fun j hlo hj => absurd hj (by omega)⟩
  exact ⟨bm', hloop, hinv.1, fun j hlo hj => hinv.2 j hlo (by omega)⟩

/-- **THE MOVE**: every bit comes from `inc` above, new blocks are not
    received, and the last one is. -/
theorem moveBitmap_ok (bm : ReceivedBlockBitmap) {inc : Nat} (hlo : 1 ≤ inc)
    (hhi : inc ≤ 64) :
    ∃ bm', moveBitmap bm inc = .ok bm'
      ∧ (∀ j, j < 64 - inc → bm'.bit j = bm.bit (j + inc))
      ∧ (∀ j, 64 - inc ≤ j → j < 63 → bm'.bit j = false)
      ∧ bm'.bit 63 = true := by
  obtain ⟨bm1, hloop1, hmoved⟩ := moveDown_ok bm hlo hhi
  obtain ⟨bm2, hloop2, hkeep, hclear⟩ :=
    clearFrom_ok bm1 (show 64 - inc ≤ 63 by omega)
  have hstart : ((64 - inc : Nat) : Int) = 64 - (inc : Int) := by omega
  rw [hstart] at hloop2
  refine ⟨bm2.put 63 true, ?_, ?_, ?_, bm2.bit_put_self (by decide) _⟩
  · rw [moveBitmap]
    show Except.bind (forTo 0 (64 - (inc : Int)) _ bm) _ = _
    rw [hloop1]
    show Except.bind (forTo (64 - (inc : Int)) (64 - 1) _ bm1) _ = _
    rw [hloop2]
    exact bm2.set_ok (by decide) rfl true
  · intro j hj
    rw [bm2.bit_put_ne (by omega), hkeep j hj, hmoved j hj]
  · intro j hj hj63
    rw [bm2.bit_put_ne (by omega), hclear j hj hj63]

/-- More than 64 new blocks are more than the second loop can clear. -/
theorem moveBitmap_over (bm : ReceivedBlockBitmap) {inc : Int}
    (hinc : 64 < inc) : moveBitmap bm inc = .error .badIndex := by
  have hempty : forTo 0 (64 - inc) (fun i bm =>
      (bm.get (i + inc)).bind (fun v => bm.set i v)) bm = .ok bm :=
    forTo_empty (by omega) bm
  have hneg : forTo (64 - inc) (64 - 1)
      (fun i (bm : ReceivedBlockBitmap) => bm.set i false) bm
      = .error .badIndex :=
    forTo_error (by omega) (bm.set_neg (by omega) false)
  rw [moveBitmap]
  show Except.bind (forTo 0 (64 - inc) _ bm) _ = _
  rw [hempty]
  show Except.bind (forTo (64 - inc) (64 - 1) _ bm) _ = _
  rw [hneg]
  rfl

-- ── What one call does ───────────────────────────────────────────────────────

/-- BSN and SSN lie in the same cycle of 128 and in the same window. -/
def InCycle (desc : AckNackDescription) (bsn : Fin 128) : Prop :=
  desc.startingSeqNr.val ≤ bsn.val + 64 ∧ bsn.val < desc.startingSeqNr.val + 64

instance (desc : AckNackDescription) (bsn : Fin 128) :
    Decidable (InCycle desc bsn) :=
  inferInstanceAs (Decidable (_ ∧ _))

/-- A block behind the window's start fills a hole. -/
theorem ackBlock_hole {desc : AckNackDescription} {bsn : Fin 128}
    (hin : InCycle desc bsn) (hlt : bsn.val < desc.startingSeqNr.val)
    (fin : Bool) :
    fAcknackdescAckBlock desc bsn fin = .ok { desc with
      receiveBlockBitmap := desc.receiveBlockBitmap.put
        (64 - (desc.startingSeqNr.val - bsn.val)) true } := by
  obtain ⟨hbelow, -⟩ := hin
  have hset : desc.receiveBlockBitmap.set
      (64 - ((desc.startingSeqNr.val : Int) - bsn.val)) true
      = .ok (desc.receiveBlockBitmap.put
          (64 - (desc.startingSeqNr.val - bsn.val)) true) :=
    desc.receiveBlockBitmap.set_ok (by omega) (by omega) true
  rw [fAcknackdescAckBlock, if_pos (by omega), setReceived, hset]
  rfl

/-- A block at or after the start moves the window behind it. -/
theorem ackBlock_advance {desc : AckNackDescription} {bsn : Fin 128}
    (hin : InCycle desc bsn) (hle : desc.startingSeqNr.val ≤ bsn.val)
    (fin : Bool) :
    ∃ bm', fAcknackdescAckBlock desc bsn fin = .ok {
        finalAck := fin
        startingSeqNr := Fin.ofNat 128 (bsn.val + 1)
        receiveBlockBitmap := bm' }
      ∧ (∀ j, j < 63 - (bsn.val - desc.startingSeqNr.val) → bm'.bit j
          = desc.receiveBlockBitmap.bit
              (j + (bsn.val - desc.startingSeqNr.val + 1)))
      ∧ (∀ j, 63 - (bsn.val - desc.startingSeqNr.val) ≤ j → j < 63 →
          bm'.bit j = false)
      ∧ bm'.bit 63 = true := by
  obtain ⟨-, habove⟩ := hin
  obtain ⟨bm', hmove, hold, hnew, hlast⟩ := moveBitmap_ok
    desc.receiveBlockBitmap (Nat.le_add_left 1 (bsn.val
      - desc.startingSeqNr.val)) (by omega)
  have hinc : ((bsn.val - desc.startingSeqNr.val + 1 : Nat) : Int)
      = (bsn.val : Int) - desc.startingSeqNr.val + 1 := by omega
  rw [hinc] at hmove
  refine ⟨bm', ?_, fun j hj => hold j (by omega),
    fun j hj => hnew j (by omega), hlast⟩
  rw [fAcknackdescAckBlock, if_neg (by omega), if_neg (by omega), hmove]
  rfl

/-- Outside of the cycle every branch leaves the bitmap. -/
theorem ackBlock_error {desc : AckNackDescription} {bsn : Fin 128}
    (hout : ¬ InCycle desc bsn) (fin : Bool) :
    fAcknackdescAckBlock desc bsn fin = .error .badIndex := by
  have hb := bsn.isLt
  have hor : bsn.val + 64 < desc.startingSeqNr.val
      ∨ desc.startingSeqNr.val + 64 < bsn.val
      ∨ bsn.val = desc.startingSeqNr.val + 64 := by
    by_contra hno
    exact hout ⟨by omega, by omega⟩
  rcases hor with hlow | hhigh | hedge
  · rw [fAcknackdescAckBlock, if_pos (by omega), setReceived,
        desc.receiveBlockBitmap.set_neg (by omega)]
    rfl
  · rw [fAcknackdescAckBlock, if_neg (by omega), if_pos (by omega),
        setReceived, desc.receiveBlockBitmap.set_neg (by omega)]
    rfl
  · rw [fAcknackdescAckBlock, if_neg (by omega), if_neg (by omega),
        moveBitmap_over _ (by omega)]
    rfl

/-- A block behind the start came before if its bit says so. -/
theorem isRetrans_hole {desc : AckNackDescription} {bsn : Fin 128}
    (hin : InCycle desc bsn) (hlt : bsn.val < desc.startingSeqNr.val) :
    fAcknackdescBsnIsRetrans desc bsn = .ok (desc.receiveBlockBitmap.bit
      (64 - (desc.startingSeqNr.val - bsn.val))) := by
  obtain ⟨hbelow, -⟩ := hin
  rw [fAcknackdescBsnIsRetrans, if_pos (by omega)]
  exact desc.receiveBlockBitmap.get_ok (by omega) (by omega)

/-- A block at or after the start is new. -/
theorem isRetrans_new {desc : AckNackDescription} {bsn : Fin 128}
    (hle : desc.startingSeqNr.val ≤ bsn.val)
    (hin : bsn.val ≤ desc.startingSeqNr.val + 64) :
    fAcknackdescBsnIsRetrans desc bsn = .ok false := by
  rw [fAcknackdescBsnIsRetrans, if_neg (by omega), if_neg (by omega)]

/-- A block out of the window has no bit. -/
theorem isRetrans_error {desc : AckNackDescription} {bsn : Fin 128}
    (hout : bsn.val + 64 < desc.startingSeqNr.val
      ∨ desc.startingSeqNr.val + 64 < bsn.val) :
    fAcknackdescBsnIsRetrans desc bsn = .error .badIndex := by
  have hb := bsn.isLt
  rcases hout with hlow | hhigh
  · rw [fAcknackdescBsnIsRetrans, if_pos (by omega)]
    exact desc.receiveBlockBitmap.get_neg (by omega)
  · rw [fAcknackdescBsnIsRetrans, if_neg (by omega), if_pos (by omega)]
    exact desc.receiveBlockBitmap.get_neg (by omega)

-- ── The specification ────────────────────────────────────────────────────────

/-- The blocks received, counted without wrapping, and the `final_ack` that
    was requested last. -/
structure Received where
  seen : List Int
  finalAck : Bool

/-- The block that a BSN stands for. -/
def Received.block (g : Received) (bsn : Fin 128) : Int :=
  unwrap 64 (nextExpected g.seen) bsn.val

/-- A call on the description. -/
inductive Call where
  | ackBlock (bsn : Fin 128) (finalAck : Bool)
  | bsnIsRetrans (bsn : Fin 128)

/-- The code takes a call. -/
def step (desc : AckNackDescription) :
    Call → Except Fault (AckNackDescription × Option Bool)
  | .ackBlock bsn fin => (fAcknackdescAckBlock desc bsn fin).map (·, none)
  | .bsnIsRetrans bsn =>
      (fAcknackdescBsnIsRetrans desc bsn).map (fun b => (desc, some b))

/-- The specification takes a call. -/
def spec (g : Received) : Call → Received × Option Bool
  | .ackBlock bsn fin => (⟨g.block bsn :: g.seen, fin⟩, none)
  | .bsnIsRetrans bsn => (g, some (decide (g.block bsn ∈ g.seen)))

/-- SSN is one above the highest block received, bit `64 - k` tells whether
    block SSN - k was received, and `final_ack` is as requested. -/
structure Matches (desc : AckNackDescription) (g : Received) : Prop where
  ssn : (desc.startingSeqNr.val : Int) = nextExpected g.seen % 128
  bits : ∀ k : Nat, 1 ≤ k → k ≤ 64 →
    (desc.receiveBlockBitmap.bit (64 - k) = true
      ↔ nextExpected g.seen - k ∈ g.seen)
  finalAck : desc.finalAck = g.finalAck

/-- Nothing was received at the start. -/
theorem matches_init : Matches tAckNackDescriptionInit ⟨[], false⟩ where
  ssn := rfl
  bits := by
    intro k hlo hhi
    have hbit : tAckNackDescriptionInit.receiveBlockBitmap.bit (64 - k)
        = false := by
      show (List.replicate 64 false).getD (64 - k) false = false
      rw [List.getD_eq_getElem?_getD, List.getElem?_replicate]
      by_cases h : 64 - k < 64
      · rw [if_pos h]
        rfl
      · rw [if_neg h]
        rfl
    rw [hbit]
    exact ⟨fun h => (nomatch h), fun h => nomatch h⟩
  finalAck := rfl

/-- In the cycle a BSN is read off as the plain difference to SSN. -/
theorem block_inCycle {desc : AckNackDescription} {g : Received}
    {bsn : Fin 128} (h : Matches desc g) (hin : InCycle desc bsn) :
    g.block bsn
      = nextExpected g.seen + ((bsn.val : Int) - desc.startingSeqNr.val) := by
  obtain ⟨hlo, hhi⟩ := hin
  have hssn := h.ssn
  refine unwrap_unique ?_ (by omega) (by omega)
  show _ % (2 * 64) = _ % (2 * 64)
  omega

/-- Filling a hole is receiving the block. -/
theorem matches_hole {desc : AckNackDescription} {g : Received}
    {bsn : Fin 128} (h : Matches desc g) (hin : InCycle desc bsn)
    (hlt : bsn.val < desc.startingSeqNr.val) :
    Matches { desc with
        receiveBlockBitmap := desc.receiveBlockBitmap.put
          (64 - (desc.startingSeqNr.val - bsn.val)) true }
      ⟨g.block bsn :: g.seen, desc.finalAck⟩ := by
  have hblock := block_inCycle h hin
  obtain ⟨hbelow, -⟩ := hin
  have hnext : nextExpected (g.block bsn :: g.seen) = nextExpected g.seen := by
    rw [nextExpected_cons]
    omega
  refine ⟨?_, ?_, rfl⟩
  · show (desc.startingSeqNr.val : Int) = nextExpected (_ :: _) % 128
    rw [hnext]
    exact h.ssn
  · intro k hlo hhi
    show ReceivedBlockBitmap.bit (_ : ReceivedBlockBitmap) (64 - k) = true
      ↔ nextExpected (_ :: _) - k ∈ _ :: _
    rw [hnext, List.mem_cons]
    by_cases hk : 64 - (desc.startingSeqNr.val - bsn.val) = 64 - k
    · rw [hk, ReceivedBlockBitmap.bit_put_self _ (by omega)]
      exact ⟨fun _ => Or.inl (by omega), fun _ => rfl⟩
    · rw [ReceivedBlockBitmap.bit_put_ne _ hk, h.bits k hlo hhi]
      exact ⟨Or.inr, fun hor => hor.resolve_left (by omega)⟩

/-- So is moving the window. -/
theorem matches_advance {desc : AckNackDescription} {g : Received}
    {bsn : Fin 128} {fin : Bool} {bm' : ReceivedBlockBitmap}
    (h : Matches desc g) (hin : InCycle desc bsn)
    (hle : desc.startingSeqNr.val ≤ bsn.val)
    (hold : ∀ j, j < 63 - (bsn.val - desc.startingSeqNr.val) → bm'.bit j
      = desc.receiveBlockBitmap.bit
          (j + (bsn.val - desc.startingSeqNr.val + 1)))
    (hnew : ∀ j, 63 - (bsn.val - desc.startingSeqNr.val) ≤ j → j < 63 →
      bm'.bit j = false)
    (hlast : bm'.bit 63 = true) :
    Matches ⟨fin, Fin.ofNat 128 (bsn.val + 1), bm'⟩
      ⟨g.block bsn :: g.seen, fin⟩ := by
  have hblock := block_inCycle h hin
  obtain ⟨-, habove⟩ := hin
  have hssn := h.ssn
  have hnext : nextExpected (g.block bsn :: g.seen) = g.block bsn + 1 := by
    rw [nextExpected_cons]
    omega
  refine ⟨?_, ?_, rfl⟩
  · show (((bsn.val + 1) % 128 : Nat) : Int) = nextExpected (_ :: _) % 128
    rw [hnext]
    omega
  · intro k hlo hhi
    show bm'.bit (64 - k) = true ↔ nextExpected (_ :: _) - k ∈ _ :: _
    rw [hnext, List.mem_cons]
    -- the last block, the blocks lost before it, and the ones moved
    by_cases hfirst : k = 1
    · rw [hfirst, hlast]
      exact ⟨fun _ => Or.inl (by omega), fun _ => rfl⟩
    by_cases hlost : k ≤ bsn.val - desc.startingSeqNr.val + 1
    · rw [hnew (64 - k) (by omega) (by omega)]
      have hnot : g.block bsn + 1 - k ∉ g.seen :=
        not_mem_of_nextExpected_le (by omega)
      refine ⟨fun hf => (nomatch hf), fun hor => ?_⟩
      rcases hor with heq | hmem
      · omega
      · exact absurd hmem hnot
    · have hbits := h.bits (k - (bsn.val - desc.startingSeqNr.val + 1))
        (by omega) (by omega)
      have hidx : 64 - k + (bsn.val - desc.startingSeqNr.val + 1)
          = 64 - (k - (bsn.val - desc.startingSeqNr.val + 1)) := by omega
      have hblk : nextExpected g.seen
          - ((k - (bsn.val - desc.startingSeqNr.val + 1) : Nat) : Int)
          = g.block bsn + 1 - k := by omega
      rw [hold (64 - k) (by omega), hidx, hbits, hblk]
      exact ⟨Or.inr, fun hor => hor.resolve_left (by omega)⟩

-- ── Runs ─────────────────────────────────────────────────────────────────────

/-- When a call is answered right: BSN and SSN are in the same cycle, and a
    block that fills a hole requests the `final_ack` that is set.  The BSN 64
    above SSN is taken for a new one, whatever the oldest bit says. -/
def CallGuard (desc : AckNackDescription) : Call → Prop
  | .ackBlock bsn fin => InCycle desc bsn
      ∧ (bsn.val < desc.startingSeqNr.val → fin = desc.finalAck)
  | .bsnIsRetrans bsn => InCycle desc bsn
      ∨ (bsn.val = desc.startingSeqNr.val + 64
          ∧ desc.receiveBlockBitmap.bit 0 = false)

instance decCallGuard : ∀ desc c, Decidable (CallGuard desc c)
  | _, .ackBlock _ _ => inferInstanceAs (Decidable (_ ∧ _))
  | _, .bsnIsRetrans _ => inferInstanceAs (Decidable (_ ∨ _))

/-- **A BLOCK IS NOTED** exactly while the guard holds. -/
theorem ackBlock_stepOk_iff {desc : AckNackDescription} {g : Received}
    (h : Matches desc g) (bsn : Fin 128) (fin : Bool) :
    StepOk step spec Matches desc g (.ackBlock bsn fin)
      ↔ CallGuard desc (.ackBlock bsn fin) := by
  by_cases hin : InCycle desc bsn
  · by_cases hlt : bsn.val < desc.startingSeqNr.val
    · have hack := ackBlock_hole hin hlt fin
      have hstep : step desc (.ackBlock bsn fin) = .ok (_, none) :=
        congrArg (Except.map (·, none)) hack
      constructor
      · rintro ⟨s', hs, hR⟩
        rw [hstep] at hs
        have hkept : desc.finalAck = s'.finalAck :=
          congrArg (fun r => r.1.finalAck) (Except.ok.inj hs)
        have hfin : s'.finalAck = fin := hR.finalAck
        exact ⟨hin, fun _ => (hkept.trans hfin).symm⟩
      · rintro ⟨-, hfin⟩
        refine ⟨_, hstep, ?_⟩
        show Matches _ ⟨g.block bsn :: g.seen, fin⟩
        rw [hfin hlt]
        exact matches_hole h hin hlt
    · obtain ⟨bm', hack, hold, hnew, hlast⟩ :=
        ackBlock_advance hin (Nat.le_of_not_lt hlt) fin
      have hstep : step desc (.ackBlock bsn fin) = .ok (_, none) :=
        congrArg (Except.map (·, none)) hack
      constructor
      · rintro -
        exact ⟨hin, fun hlt' => absurd hlt' hlt⟩
      · rintro -
        exact ⟨_, hstep,
          matches_advance h hin (Nat.le_of_not_lt hlt) hold hnew hlast⟩
  · have hstep : step desc (.ackBlock bsn fin) = .error .badIndex :=
      congrArg (Except.map (·, none)) (ackBlock_error hin fin)
    constructor
    · rintro ⟨s', hs, -⟩
      rw [hstep] at hs
      exact nomatch hs
    · rintro ⟨hin', -⟩
      exact absurd hin' hin

/-- What the specification answers in the cycle, and 64 above SSN. -/
theorem block_mem_iff_bit {desc : AckNackDescription} {g : Received}
    {bsn : Fin 128} {k : Nat} (h : Matches desc g) (hlo : 1 ≤ k) (hhi : k ≤ 64)
    (hblock : g.block bsn = nextExpected g.seen - k) :
    decide (g.block bsn ∈ g.seen)
      = desc.receiveBlockBitmap.bit (64 - k) := by
  have hbits := h.bits k hlo hhi
  rw [← hblock] at hbits
  cases hb : desc.receiveBlockBitmap.bit (64 - k) with
  | true => exact decide_eq_true (hbits.mp hb)
  | false =>
      refine decide_eq_false (fun hmem => ?_)
      rw [hbits.mpr hmem] at hb
      exact nomatch hb

/-- What is answered of a block is whether it came before. -/
theorem isRetrans_stepOk {desc : AckNackDescription} {g : Received}
    {bsn : Fin 128} {b : Bool} (h : Matches desc g)
    (hret : fAcknackdescBsnIsRetrans desc bsn = .ok b) :
    StepOk step spec Matches desc g (.bsnIsRetrans bsn)
      ↔ b = decide (g.block bsn ∈ g.seen) := by
  have hstep : step desc (.bsnIsRetrans bsn) = .ok (desc, some b) :=
    congrArg (Except.map (fun b => (desc, some b))) hret
  constructor
  · rintro ⟨s', hs, -⟩
    rw [hstep] at hs
    exact Option.some.inj (congrArg Prod.snd (Except.ok.inj hs))
  · intro hb
    exact ⟨desc, by rw [hstep, hb]; rfl, h⟩

/-- **A BLOCK IS RECOGNISED** exactly while the guard holds. -/
theorem isRetrans_stepOk_iff {desc : AckNackDescription} {g : Received}
    (h : Matches desc g) (bsn : Fin 128) :
    StepOk step spec Matches desc g (.bsnIsRetrans bsn)
      ↔ CallGuard desc (.bsnIsRetrans bsn) := by
  by_cases hin : InCycle desc bsn
  · have hblock := block_inCycle h hin
    refine ⟨fun _ => Or.inl hin, fun _ => ?_⟩
    obtain ⟨hbelow, habove⟩ := id hin
    by_cases hlt : bsn.val < desc.startingSeqNr.val
    · rw [isRetrans_stepOk h (isRetrans_hole hin hlt)]
      exact (block_mem_iff_bit h (by omega) (by omega)
        (by rw [hblock]; omega)).symm
    · rw [isRetrans_stepOk h (isRetrans_new (by omega) (by omega))]
      exact (decide_eq_false
        (not_mem_of_nextExpected_le (by rw [hblock]; omega))).symm
  by_cases hedge : bsn.val = desc.startingSeqNr.val + 64
  · have hssn := h.ssn
    have hblock : g.block bsn = nextExpected g.seen - (64 : Nat) := by
      refine unwrap_unique ?_ (by omega) (by omega)
      show _ % (2 * 64) = _ % (2 * 64)
      omega
    have hbit := block_mem_iff_bit h (by decide) (Nat.le_refl 64) hblock
    rw [isRetrans_stepOk h (isRetrans_new (by omega) (by omega)), hbit]
    exact ⟨fun hf => Or.inr ⟨hedge, hf.symm⟩,
      fun hor => ((hor.resolve_left hin).2).symm⟩
  · have hret := @isRetrans_error desc bsn (by
      by_contra hno
      exact hin ⟨by omega, by omega⟩)
    have hstep : step desc (.bsnIsRetrans bsn) = .error .badIndex :=
      congrArg (Except.map (fun b => (desc, some b))) hret
    constructor
    · rintro ⟨s', hs, -⟩
      rw [hstep] at hs
      exact nomatch hs
    · rintro (hin' | ⟨hedge', -⟩)
      · exact absurd hin' hin
      · exact absurd hedge' hedge

/-- **WHEN A RUN OF CALLS IS RIGHT**: from the initial description, every call
    returns, answers what the specification answers and leaves a matching
    description iff every call meets its guard. -/
theorem ackNackRun_ok_iff (calls : List Call) :
    RunOk step spec Matches tAckNackDescriptionInit ⟨[], false⟩ calls
      ↔ Guarded step CallGuard tAckNackDescriptionInit calls :=
  runOk_iff_guarded (fun desc g c h => by
    cases c with
    | ackBlock bsn fin => exact ackBlock_stepOk_iff h bsn fin
    | bsnIsRetrans bsn => exact isRetrans_stepOk_iff h bsn)
    calls _ _ matches_init

/-- A BSN less than a window away from SSN modulo 128. -/
def InWindow (desc : AckNackDescription) : Call → Prop
  | .ackBlock bsn _ | .bsnIsRetrans bsn =>
      (bsn.val + 128 - desc.startingSeqNr.val) % 128 ≠ 64

instance decInWindow : ∀ desc c, Decidable (InWindow desc c)
  | _, .ackBlock _ _ | _, .bsnIsRetrans _ => inferInstanceAs (Decidable (_ ≠ _))

/-- Blocks 60 and 120, then block 2 of the next cycle: the last seven blocks
    of the first cycle are lost. -/
def lossAtWrap : List Call :=
  [.ackBlock 60 false, .ackBlock 120 false, .ackBlock 2 false]

/-- **A LOSS AT THE WRAP** makes the code leave the bitmap, although every
    block is in the window. -/
theorem lossAtWrap_not_ok :
    Guarded step InWindow tAckNackDescriptionInit lossAtWrap
      ∧ run step tAckNackDescriptionInit lossAtWrap = .error .badIndex
      ∧ ¬ RunOk step spec Matches tAckNackDescriptionInit ⟨[], false⟩
          lossAtWrap := by
  have hrun : run step tAckNackDescriptionInit lossAtWrap
      = .error .badIndex := by decide
  exact ⟨by decide, hrun, not_runOk_of_error matches_init hrun⟩

end OsmoAckNack
