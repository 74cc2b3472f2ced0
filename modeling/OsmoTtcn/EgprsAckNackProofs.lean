import OsmoTtcn.AckNackProofs

/-! # EGPRS downlink Ack/Nack description

    `f_egprs_acknackdesc_ack_block` keeps V(Q), the lowest block not received,
    as SSN - 1 modulo 2048, and a bitmap of the 64 blocks from V(Q) on, V(Q)
    at its last index.

    The specification counts blocks without wrapping, as for GPRS: V(Q) is
    `lowestMissing` of the blocks received, and a BSN stands for a block at
    most 63 ahead of it or for one behind.

    The code compares BSN and V(Q) as plain numbers, and when V(Q) is received
    it looks for blocks to release only as far as V(Q) itself.  So it is right
    as long as V(Q) and the BSN lie in the same cycle and no block behind V(Q)
    was received before V(Q) was: `egprsAckNackRun_ok_iff`. -/

namespace OsmoEgprsAckNack

open OsmoTitan OsmoAckNack CountLoop RunGuard SeqWindow

-- ── The code ─────────────────────────────────────────────────────────────────

/-- A bitmap of 64 blocks like the GPRS one. -/
abbrev UncompressedReceivedBlockBitmap := ReceivedBlockBitmap

/-- `EgprsAckNackDescription` -/
structure EgprsAckNackDescription where
  finalAck : Bool
  beginWindow : Bool
  endWindow : Bool
  startingSeqNr : Fin 2048
  compressed : Bool
  urbb : UncompressedReceivedBlockBitmap
  deriving DecidableEq, Repr

/-- `t_EgprsAckNackDescription_init` -/
def tEgprsAckNackDescriptionInit : EgprsAckNackDescription where
  finalAck := false
  beginWindow := true
  endWindow := true
  startingSeqNr := 1
  compressed := false
  urbb := ⟨List.replicate 64 false, noBlocks_length⟩

/-- SSN = V(Q) + 1 -/
def vQ (desc : EgprsAckNackDescription) : Int :=
  ((desc.startingSeqNr.val : Int) + 2047) % 2048

/-- Check whether a given BSN is a retransmission in the not yet ACKed Tx
    window. -/
def fEgprsAcknackdescBsnIsRetrans (desc : EgprsAckNackDescription)
    (bsn : Fin 2048) : Except Fault Bool :=
  let b : Int := bsn.val
  let vq := vQ desc
  -- Repetition?
  if b < vq then
    -- Filling hole, wraparound:
    if b - vq > 64 then desc.urbb.get (64 - (vq + (2048 - b)))
    else .ok true
  else desc.urbb.get (64 - (b - vq + 1))

/-- The loop that counts the received blocks from index `i` down, for a number
    of rounds or until the first that was not received. -/
def countReceived (urbb : UncompressedReceivedBlockBitmap) :
    Nat → Int → Except Fault Nat
  | 0, _ => .ok 0
  | rounds + 1, i =>
      (urbb.get i).bind (fun received =>
        if received then (countReceived urbb rounds (i - 1)).map (· + 1) else .ok 0)

/-- SSN is increased by `n`, and so RBB values need to be moved. -/
def moveUrbb (urbb : UncompressedReceivedBlockBitmap) (n : Int) :
    Except Fault UncompressedReceivedBlockBitmap := do
  let urbb ← downTo 63 n
    (fun i urbb => (urbb.get (i - n)).bind (fun v => urbb.set i v)) urbb
  downTo (n - 1) 0 (fun i urbb => urbb.set i false) urbb

/-- TS 44.060 sec 12.3 Ack/Nack Description -/
def fEgprsAcknackdescAckBlock (desc : EgprsAckNackDescription) (bsn : Fin 2048)
    (finalAck : Bool) : Except Fault EgprsAckNackDescription :=
  let b : Int := bsn.val
  let vq := vQ desc
  -- Repetition?
  if b < vq then
    -- Filling hole, wraparound:
    if b - vq > 64 then
      (desc.urbb.set (64 - (vq + (2048 - b))) true).map
        (fun urbb => { desc with urbb := urbb })
    else .ok desc
  else do
    let inc := b - vq + 1
    let urbb ← desc.urbb.set (64 - inc) true
    let n ← countReceived urbb inc.toNat 63
    if n > 0 then do
      let urbb ← moveUrbb urbb n
      .ok { desc with
        startingSeqNr := Fin.ofNat 2048 (desc.startingSeqNr.val + n)
        urbb := urbb
        finalAck := finalAck }
    else .ok { desc with urbb := urbb, finalAck := finalAck }

-- ── Moving the bitmap ────────────────────────────────────────────────────────

/-- The first loop: the bits from `n` on come from `n` below. -/
theorem moveUp_ok (urbb : UncompressedReceivedBlockBitmap) {n : Nat}
    (hlo : 1 ≤ n) (hhi : n ≤ 64) :
    ∃ urbb', downTo 63 n (fun i urbb =>
        (urbb.get (i - n)).bind (fun v => urbb.set i v)) urbb = .ok urbb'
      ∧ ∀ j, n ≤ j → j < 64 → urbb'.bit j = urbb.bit (j - n) := by
  obtain ⟨urbb', hloop, hinv⟩ := @downTo_inv UncompressedReceivedBlockBitmap Fault
    (fun i urbb => (urbb.get (i - n)).bind (fun v => urbb.set i v))
    -- above the counter the bits are moved, up to it they are as before
    (fun i urbb' => (∀ j : Nat, i < j → j < 64 → urbb'.bit j = urbb.bit (j - n))
      ∧ ∀ j : Nat, (j : Int) ≤ i → urbb'.bit j = urbb.bit j)
    63 n urbb (by omega)
    (by
      rintro i s hi h63 ⟨hdone, hrest⟩
      obtain ⟨k, rfl⟩ : ∃ k : Nat, i = k := ⟨i.toNat, by omega⟩
      have hget : s.get (k - n) = .ok (s.bit (k - n)) := s.get_ok (by omega) (by omega)
      have hset : s.set k (s.bit (k - n)) = .ok (s.put k (s.bit (k - n))) :=
        s.set_ok (by omega) rfl _
      refine ⟨s.put k (s.bit (k - n)), ?_, ?_, ?_⟩
      · rw [hget]
        exact hset
      · intro j hj hj64
        by_cases hjk : j = k
        · rw [hjk, s.bit_put_self (by omega), hrest (k - n) (by omega)]
        · rw [s.bit_put_ne (Ne.symm hjk)]
          exact hdone j (by omega) hj64
      · intro j hj
        rw [s.bit_put_ne (by omega)]
        exact hrest j (by omega))
    ⟨fun j hj hj64 => absurd hj (by omega), fun j _ => rfl⟩
  exact ⟨urbb', hloop, fun j hj hj64 => hinv.1 j (by omega) hj64⟩

/-- The second loop clears the bits below `n`. -/
theorem clearBelow_ok (urbb : UncompressedReceivedBlockBitmap) {n : Nat}
    (hlo : 1 ≤ n) (hhi : n ≤ 64) :
    ∃ urbb', downTo ((n : Int) - 1) 0 (fun i urbb => urbb.set i false) urbb
        = .ok urbb'
      ∧ (∀ j, n ≤ j → urbb'.bit j = urbb.bit j)
      ∧ ∀ j, j < n → urbb'.bit j = false := by
  obtain ⟨urbb', hloop, hinv⟩ := @downTo_inv UncompressedReceivedBlockBitmap Fault
    (fun i urbb => urbb.set i false)
    (fun i urbb' => (∀ j : Nat, n ≤ j → urbb'.bit j = urbb.bit j)
      ∧ ∀ j : Nat, i < j → j < n → urbb'.bit j = false)
    ((n : Int) - 1) 0 urbb (by omega)
    (by
      rintro i s h0 hi ⟨hkeep, hclear⟩
      obtain ⟨k, rfl⟩ : ∃ k : Nat, i = k := ⟨i.toNat, by omega⟩
      refine ⟨s.put k false, s.set_ok (by omega) rfl _, ?_, ?_⟩
      · intro j hj
        rw [s.bit_put_ne (by omega)]
        exact hkeep j hj
      · intro j hj hjn
        by_cases hjk : j = k
        · rw [hjk, s.bit_put_self (by omega)]
        · rw [s.bit_put_ne (Ne.symm hjk)]
          exact hclear j (by omega) hjn)
    ⟨fun j _ => rfl, fun j hj hjn => absurd hj (by omega)⟩
  exact ⟨urbb', hloop, hinv.1, fun j hj => hinv.2 j (by omega) hj⟩

/-- **THE MOVE**: every bit comes from `n` below, and the new blocks are not
    received. -/
theorem moveUrbb_ok (urbb : UncompressedReceivedBlockBitmap) {n : Nat}
    (hlo : 1 ≤ n) (hhi : n ≤ 64) :
    ∃ urbb', moveUrbb urbb n = .ok urbb'
      ∧ (∀ j, n ≤ j → j < 64 → urbb'.bit j = urbb.bit (j - n))
      ∧ ∀ j, j < n → urbb'.bit j = false := by
  obtain ⟨urbb1, hloop1, hmoved⟩ := moveUp_ok urbb hlo hhi
  obtain ⟨urbb2, hloop2, hkeep, hclear⟩ := clearBelow_ok urbb1 hlo hhi
  refine ⟨urbb2, ?_, ?_, hclear⟩
  · rw [moveUrbb, hloop1, ok_bind]
    exact hloop2
  · intro j hj hj64
    rw [hkeep j hj, hmoved j hj hj64]

/-- The last bit is inside of the bitmap. -/
theorem get_last (urbb : UncompressedReceivedBlockBitmap) :
    urbb.get 63 = .ok (urbb.bit 63) :=
  urbb.get_ok (by decide) rfl

-- ── What one call does ───────────────────────────────────────────────────────

section Calls

variable {desc : EgprsAckNackDescription} {bsn : Fin 2048}

/-- V(Q) is a block number. -/
theorem vQ_lt (desc : EgprsAckNackDescription) : vQ desc < 2048 :=
  Int.emod_lt_of_pos _ (by decide)

/-- A BSN below V(Q) is left alone; the wraparound branch is never taken. -/
theorem ackBlock_below (hlt : (bsn.val : Int) < vQ desc) (fin : Bool) :
    fEgprsAcknackdescAckBlock desc bsn fin = .ok desc := by
  rw [fEgprsAcknackdescAckBlock, if_pos hlt, if_neg (by omega)]

/-- Below V(Q) every block came before. -/
theorem isRetrans_below (hlt : (bsn.val : Int) < vQ desc) :
    fEgprsAcknackdescBsnIsRetrans desc bsn = .ok true := by
  rw [fEgprsAcknackdescBsnIsRetrans, if_pos hlt, if_neg (by omega)]

/-- A BSN 64 or more above V(Q) is outside of the bitmap. -/
theorem ackBlock_over (hle : vQ desc + 64 ≤ bsn.val) (fin : Bool) :
    fEgprsAcknackdescAckBlock desc bsn fin = .error .badIndex := by
  simp only [fEgprsAcknackdescAckBlock]
  rw [if_neg (by omega), desc.urbb.set_neg (by omega), error_bind]

/-- Beyond the window there is no bit to read. -/
theorem isRetrans_over (hle : vQ desc + 64 ≤ bsn.val) :
    fEgprsAcknackdescBsnIsRetrans desc bsn = .error .badIndex := by
  rw [fEgprsAcknackdescBsnIsRetrans, if_neg (by omega), desc.urbb.get_neg (by omega)]

variable {k : Nat}

/-- Inside of the window the bit says whether a block came before. -/
theorem isRetrans_window (hk : k < 64) (hb : (bsn.val : Int) = vQ desc + k) :
    fEgprsAcknackdescBsnIsRetrans desc bsn = .ok (desc.urbb.bit (63 - k)) := by
  rw [fEgprsAcknackdescBsnIsRetrans, if_neg (by omega)]
  exact desc.urbb.get_ok (by omega) (by omega)

/-- A block ahead of a missing V(Q) is only noted. -/
theorem ackBlock_ahead (hk : k < 64) (hk0 : 0 < k)
    (hb : (bsn.val : Int) = vQ desc + k) (hmiss : desc.urbb.bit 63 = false)
    (fin : Bool) :
    fEgprsAcknackdescAckBlock desc bsn fin
      = .ok { desc with urbb := desc.urbb.put (63 - k) true, finalAck := fin } := by
  have hset : desc.urbb.set (64 - ((bsn.val : Int) - vQ desc + 1)) true
      = .ok (desc.urbb.put (63 - k) true) := desc.urbb.set_ok (by omega) (by omega) true
  have hbit : (desc.urbb.put (63 - k) true).get 63 = .ok false := by
    rw [get_last, ReceivedBlockBitmap.bit_put_ne _ (by omega), hmiss]
  have hinc : ((bsn.val : Int) - vQ desc + 1).toNat = k + 1 := by omega
  have hcount : countReceived (desc.urbb.put (63 - k) true) (k + 1) 63 = .ok 0 := by
    rw [countReceived, hbit]
    rfl
  simp only [fEgprsAcknackdescAckBlock]
  rw [if_neg (by omega), hset, ok_bind, hinc, hcount, ok_bind,
    if_neg (Nat.lt_irrefl 0)]

/-- V(Q) itself moves the window by just one block. -/
theorem ackBlock_vQ (hb : (bsn.val : Int) = vQ desc) (fin : Bool) :
    ∃ urbb', fEgprsAcknackdescAckBlock desc bsn fin = .ok { desc with
        startingSeqNr := Fin.ofNat 2048 (desc.startingSeqNr.val + 1)
        urbb := urbb'
        finalAck := fin }
      ∧ (∀ j, 1 ≤ j → j < 64 → urbb'.bit j = desc.urbb.bit (j - 1))
      ∧ urbb'.bit 0 = false := by
  have hset : desc.urbb.set (64 - ((bsn.val : Int) - vQ desc + 1)) true
      = .ok (desc.urbb.put 63 true) := desc.urbb.set_ok (by decide) (by omega) true
  have hbit : (desc.urbb.put 63 true).get 63 = .ok true := by
    rw [get_last, ReceivedBlockBitmap.bit_put_self _ (by decide)]
  have hinc : ((bsn.val : Int) - vQ desc + 1).toNat = 1 := by omega
  have hcount : countReceived (desc.urbb.put 63 true) 1 63 = .ok 1 := by
    rw [countReceived, hbit]
    rfl
  obtain ⟨urbb', hmove, hmoved, hclear⟩ :=
    moveUrbb_ok (desc.urbb.put 63 true) (Nat.le_refl 1) (by decide)
  refine ⟨urbb', ?_, ?_, hclear 0 (by decide)⟩
  · simp only [fEgprsAcknackdescAckBlock]
    rw [if_neg (by omega), hset, ok_bind, hinc, hcount, ok_bind, if_pos Nat.one_pos,
      hmove, ok_bind]
  · intro j hj hj64
    rw [hmoved j hj hj64, ReceivedBlockBitmap.bit_put_ne _ (by omega)]

end Calls

-- ── The specification ────────────────────────────────────────────────────────

/-- The block that a BSN stands for, after the blocks that were received. -/
def block (seen : List Int) (bsn : Fin 2048) : Int :=
  residueFrom (lowestMissing seen - 1984) 2048 bsn.val

/-- A call on the description. -/
inductive Call where
  | ackBlock (bsn : Fin 2048) (finalAck : Bool)
  | bsnIsRetrans (bsn : Fin 2048)

/-- The code takes a call. -/
def step (desc : EgprsAckNackDescription) :
    Call → Except Fault (EgprsAckNackDescription × Option Bool)
  | .ackBlock bsn fin => (fEgprsAcknackdescAckBlock desc bsn fin).map (·, none)
  | .bsnIsRetrans bsn =>
      (fEgprsAcknackdescBsnIsRetrans desc bsn).map (fun b => (desc, some b))

/-- A block that is noted gives no answer. -/
theorem step_ackBlock (desc : EgprsAckNackDescription) (bsn : Fin 2048) (fin : Bool) :
    step desc (.ackBlock bsn fin)
      = (fEgprsAcknackdescAckBlock desc bsn fin).map (·, none) := rfl

/-- A block that is asked about changes nothing. -/
theorem step_bsnIsRetrans (desc : EgprsAckNackDescription) (bsn : Fin 2048) :
    step desc (.bsnIsRetrans bsn)
      = (fEgprsAcknackdescBsnIsRetrans desc bsn).map (fun b => (desc, some b)) := rfl

/-- The specification takes a call. -/
def spec (seen : List Int) : Call → List Int × Option Bool
  | .ackBlock bsn _ => (block seen bsn :: seen, none)
  | .bsnIsRetrans bsn => (seen, some (decide (block seen bsn ∈ seen)))

/-- SSN is one above the lowest block not received, V(Q), bit `63 - k` tells
    whether block V(Q) + k was received, and no later one was. -/
structure Matches (desc : EgprsAckNackDescription) (seen : List Int) : Prop where
  ssn : (desc.startingSeqNr.val : Int) = ((lowestMissing seen : Int) + 1) % 2048
  bits : ∀ k : Nat, k < 64 →
    (desc.urbb.bit (63 - k) = true ↔ (lowestMissing seen : Int) + k ∈ seen)
  top : ∀ a ∈ seen, a < lowestMissing seen + 64

/-- Nothing was received at the start. -/
theorem matches_init : Matches tEgprsAckNackDescriptionInit [] := by
  have hlow : lowestMissing [] = 0 :=
    lowestMissing_eq (fun m hm => nomatch hm) List.not_mem_nil
  refine ⟨?_, ?_, fun a ha => nomatch ha⟩
  · rw [hlow]
    rfl
  · intro k hk
    have hbit : tEgprsAckNackDescriptionInit.urbb.bit (63 - k) = false := by
      show (List.replicate 64 false).getD (63 - k) false = false
      rw [List.getD_eq_getElem?_getD, List.getElem?_replicate, if_pos (by omega)]
      rfl
    rw [hbit]
    exact ⟨fun h => (nomatch h), fun h => nomatch h⟩

section Steps

variable {desc : EgprsAckNackDescription} {seen : List Int} {bsn : Fin 2048}

/-- V(Q) is the lowest block that is missing. -/
theorem Matches.vQ_eq (h : Matches desc seen) :
    vQ desc = (lowestMissing seen : Int) % 2048 := by
  have hssn := h.ssn
  rw [vQ]
  omega

/-- V(Q) itself is missing. -/
theorem Matches.bit_last (h : Matches desc seen) : desc.urbb.bit 63 = false := by
  rw [← Bool.not_eq_true, h.bits 0 (by decide)]
  simpa using lowestMissing_not_mem seen

/-- Which block a number in the window stands for. -/
theorem block_above (h : Matches desc seen) {k : Nat} (hk : k < 64)
    (hmod : ((bsn.val : Int) - vQ desc - k) % 2048 = 0) :
    block seen bsn = lowestMissing seen + k := by
  have hvq := h.vQ_eq
  refine residueFrom_unique ?_ (by omega) (by omega)
  show _ % 2048 = _ % 2048
  omega

/-- A BSN up to 1984 below V(Q) stands for a block that was received. -/
theorem block_below_mem (h : Matches desc seen) (hlt : (bsn.val : Int) < vQ desc)
    (hnear : vQ desc ≤ bsn.val + 1984) : block seen bsn ∈ seen := by
  have hvq := h.vQ_eq
  obtain ⟨n, hn⟩ : ∃ n : Nat, (n : Int) = lowestMissing seen + (bsn.val - vQ desc) :=
    ⟨((lowestMissing seen : Int) + (bsn.val - vQ desc)).toNat, by omega⟩
  have hblock : block seen bsn = n := by
    refine residueFrom_unique ?_ (by omega) (by omega)
    show _ % 2048 = _ % 2048
    omega
  rw [hblock]
  exact mem_of_lt_lowestMissing (by omega)

/-- A block that was received before changes nothing. -/
theorem Matches.cons_of_mem (h : Matches desc seen) {a : Int} (ha : a ∈ seen) :
    Matches desc (a :: seen) := by
  have hlow : lowestMissing (a :: seen) = lowestMissing seen := by
    refine lowestMissing_cons_ne ?_
    rintro rfl
    exact lowestMissing_not_mem seen ha
  refine ⟨?_, ?_, ?_⟩
  · rw [hlow]
    exact h.ssn
  · intro k hk
    rw [hlow, h.bits k hk, List.mem_cons]
    exact ⟨Or.inr, fun hor => hor.elim (fun heq => heq ▸ ha) id⟩
  · intro b hb
    rw [hlow]
    rcases List.mem_cons.mp hb with rfl | hmem
    · exact h.top b ha
    · exact h.top b hmem

/-- A block ahead of V(Q) is noted in the bitmap. -/
theorem matches_ahead (h : Matches desc seen) {k : Nat} (hk : k < 64) (hk0 : 0 < k)
    (fin : Bool) :
    Matches { desc with urbb := desc.urbb.put (63 - k) true, finalAck := fin }
      (((lowestMissing seen : Int) + k) :: seen) := by
  have hlow : lowestMissing (((lowestMissing seen : Int) + k) :: seen)
      = lowestMissing seen := lowestMissing_cons_ne (by omega)
  refine ⟨?_, ?_, ?_⟩
  · rw [hlow]
    exact h.ssn
  · intro j hj
    rw [hlow, List.mem_cons]
    show (desc.urbb.put (63 - k) true).bit (63 - j) = true ↔ _
    by_cases hjk : j = k
    · rw [hjk, ReceivedBlockBitmap.bit_put_self _ (by omega)]
      exact ⟨fun _ => Or.inl rfl, fun _ => rfl⟩
    · rw [ReceivedBlockBitmap.bit_put_ne _ (by omega), h.bits j hj]
      exact ⟨Or.inr, fun hor => hor.resolve_left (by omega)⟩
  · intro a ha
    rw [hlow]
    rcases List.mem_cons.mp ha with rfl | hmem
    · omega
    · exact h.top a hmem

/-- The block at V(Q) moves the window. -/
theorem matches_vQ (h : Matches desc seen)
    (hnext : (lowestMissing seen : Int) + 1 ∉ seen)
    {urbb' : UncompressedReceivedBlockBitmap}
    (hmoved : ∀ j, 1 ≤ j → j < 64 → urbb'.bit j = desc.urbb.bit (j - 1))
    (hfirst : urbb'.bit 0 = false) (fin : Bool) :
    Matches { desc with
        startingSeqNr := Fin.ofNat 2048 (desc.startingSeqNr.val + 1)
        urbb := urbb'
        finalAck := fin }
      ((lowestMissing seen : Int) :: seen) := by
  have hlow := lowestMissing_cons_self hnext
  have hssn := h.ssn
  refine ⟨?_, ?_, ?_⟩
  · rw [hlow]
    show (((desc.startingSeqNr.val + 1) % 2048 : Nat) : Int) = _
    omega
  · intro k hk
    rw [hlow, List.mem_cons]
    show urbb'.bit (63 - k) = true ↔ _
    have hcast : ((lowestMissing seen + 1 : Nat) : Int) + k
        = lowestMissing seen + ((k + 1 : Nat) : Int) := by omega
    rw [hcast]
    by_cases hlast : k = 63
    · rw [hlast, hfirst]
      refine ⟨fun hf => (nomatch hf), fun hor => ?_⟩
      rcases hor with heq | hmem
      · omega
      · have htop := h.top _ hmem
        omega
    · have hidx : 63 - k - 1 = 63 - (k + 1) := by omega
      rw [hmoved (63 - k) (by omega) (by omega), hidx, h.bits (k + 1) (by omega)]
      exact ⟨Or.inr, fun hor => hor.resolve_left (by omega)⟩
  · intro a ha
    rw [hlow]
    rcases List.mem_cons.mp ha with rfl | hmem
    · omega
    · have htop := h.top a hmem
      omega

-- ── Runs ─────────────────────────────────────────────────────────────────────

/-- The BSN is in the window from V(Q) on and in the same cycle of 2048. -/
def InCycle (desc : EgprsAckNackDescription) (bsn : Fin 2048) : Prop :=
  vQ desc ≤ bsn.val ∧ (bsn.val : Int) < vQ desc + 64

/-- The BSN is below V(Q) as a number.  It is behind V(Q), unless it is that
    far below that it is in the window again, behind the wrap; then its bit
    says that it was received. -/
def KnownBelow (desc : EgprsAckNackDescription) (bsn : Fin 2048) : Prop :=
  (bsn.val : Int) < vQ desc
    ∧ (vQ desc ≤ bsn.val + 1984 ∨ desc.urbb.bit (vQ desc - bsn.val - 1985).toNat = true)

instance (desc : EgprsAckNackDescription) (bsn : Fin 2048) :
    Decidable (InCycle desc bsn) :=
  inferInstanceAs (Decidable (_ ∧ _))

instance (desc : EgprsAckNackDescription) (bsn : Fin 2048) :
    Decidable (KnownBelow desc bsn) :=
  inferInstanceAs (Decidable (_ ∧ _))

/-- When a call is answered right.  When V(Q) is received, the block behind it
    must be missing, since the window is only moved by one. -/
def CallGuard (desc : EgprsAckNackDescription) : Call → Prop
  | .ackBlock bsn _ =>
      (InCycle desc bsn ∧ ((bsn.val : Int) = vQ desc → desc.urbb.bit 62 = false))
        ∨ KnownBelow desc bsn
  | .bsnIsRetrans bsn => InCycle desc bsn ∨ KnownBelow desc bsn

instance decCallGuard : ∀ desc c, Decidable (CallGuard desc c)
  | _, .ackBlock _ _ | _, .bsnIsRetrans _ => inferInstanceAs (Decidable (_ ∨ _))

/-- Where a BSN can be. -/
theorem bsn_cases (desc : EgprsAckNackDescription) (bsn : Fin 2048) :
    ((bsn.val : Int) < vQ desc ∧ vQ desc ≤ bsn.val + 1984)
      ∨ (∃ k : Nat, 0 < k ∧ k < 64 ∧ (bsn.val : Int) + 2048 = vQ desc + k)
      ∨ (∃ k : Nat, k < 64 ∧ (bsn.val : Int) = vQ desc + k)
      ∨ vQ desc + 64 ≤ bsn.val := by
  have hv := vQ_lt desc
  by_cases hlt : (bsn.val : Int) < vQ desc
  · by_cases hnear : vQ desc ≤ bsn.val + 1984
    · exact Or.inl ⟨hlt, hnear⟩
    · exact Or.inr (Or.inl ⟨((bsn.val : Int) + 2048 - vQ desc).toNat, by omega,
        by omega, by omega⟩)
  · by_cases hover : vQ desc + 64 ≤ bsn.val
    · exact Or.inr (Or.inr (Or.inr hover))
    · exact Or.inr (Or.inr (Or.inl ⟨((bsn.val : Int) - vQ desc).toNat, by omega,
        by omega⟩))

/-- Behind the wrap, the bit of the guard is the one of the block. -/
theorem knownBelow_wrapped {k : Nat} (h : Matches desc seen) (hk : k < 64)
    (hb : (bsn.val : Int) + 2048 = vQ desc + k) :
    KnownBelow desc bsn ↔ block seen bsn ∈ seen := by
  have hidx : (vQ desc - bsn.val - 1985).toNat = 63 - k := by omega
  have hblock := @block_above desc seen bsn h k hk (by omega)
  rw [KnownBelow, hidx, h.bits k hk, hblock]
  have hbelow : (bsn.val : Int) < vQ desc := by omega
  have hfar : ¬ vQ desc ≤ bsn.val + 1984 := by omega
  simp [hbelow, hfar]

/-- A block below V(Q) is taken for one that came before. -/
theorem ackBlock_below_stepOk (hlt : (bsn.val : Int) < vQ desc) (fin : Bool) :
    StepOk step spec Matches desc seen (.ackBlock bsn fin)
      ↔ Matches desc (block seen bsn :: seen) := by
  have hstep : step desc (.ackBlock bsn fin) = .ok (desc, none) := by
    rw [step_ackBlock, ackBlock_below hlt]
    rfl
  constructor
  · rintro ⟨s', hs, hR⟩
    rw [hstep] at hs
    have hsame : desc = s' := congrArg Prod.fst (Except.ok.inj hs)
    rw [hsame]
    exact hR
  · intro hR
    exact ⟨desc, hstep, hR⟩

/-- **A BLOCK IS NOTED** exactly while the guard holds. -/
theorem ackBlock_stepOk_iff (h : Matches desc seen) (bsn : Fin 2048) (fin : Bool) :
    StepOk step spec Matches desc seen (.ackBlock bsn fin)
      ↔ CallGuard desc (.ackBlock bsn fin) := by
  rcases bsn_cases desc bsn with ⟨hlt, hnear⟩ | ⟨k, hk0, hk, hb⟩ | ⟨k, hk, hb⟩ | hover
  · rw [ackBlock_below_stepOk hlt]
    exact ⟨fun _ => Or.inr ⟨hlt, Or.inl hnear⟩,
      fun _ => h.cons_of_mem (block_below_mem h hlt hnear)⟩
  · have hout : ¬ InCycle desc bsn := fun hin => by
      have hlo := hin.1
      omega
    have hblock := @block_above desc seen bsn h k hk (by omega)
    rw [ackBlock_below_stepOk (by omega)]
    constructor
    · intro hR
      have hlow : lowestMissing (block seen bsn :: seen) = lowestMissing seen := by
        rw [hblock]
        exact lowestMissing_cons_ne (by omega)
      have hbits := hR.bits k hk
      rw [hlow, ← hblock] at hbits
      have hold := h.bits k hk
      rw [← hblock] at hold
      exact Or.inr ((knownBelow_wrapped h hk hb).mpr
        (hold.mp (hbits.mpr List.mem_cons_self)))
    · rintro (⟨hin, -⟩ | hknown)
      · exact absurd hin hout
      · exact h.cons_of_mem ((knownBelow_wrapped h hk hb).mp hknown)
  · have hin : InCycle desc bsn := ⟨by omega, by omega⟩
    have hnot : ¬ KnownBelow desc bsn := fun hknown => by
      have hlt := hknown.1
      omega
    have hblock := @block_above desc seen bsn h k hk (by omega)
    by_cases hk0 : k = 0
    · rw [hk0] at hb hblock
      have hvq : (bsn.val : Int) = vQ desc := by omega
      obtain ⟨urbb', hack, hmoved, hfirst⟩ := ackBlock_vQ hvq fin
      have hstep := step_ackBlock desc bsn fin
      rw [hack] at hstep
      have hself : block seen bsn = lowestMissing seen := by omega
      have hsecond : desc.urbb.bit 62 = true ↔ (lowestMissing seen : Int) + 1 ∈ seen :=
        h.bits 1 (by decide)
      constructor
      · rintro ⟨s', hs, hR⟩
        refine Or.inl ⟨hin, fun _ => ?_⟩
        rw [hstep] at hs
        have hurbb : urbb' = s'.urbb :=
          congrArg (fun r => r.1.urbb) (Except.ok.inj hs)
        have hlast : s'.urbb.bit 63 = desc.urbb.bit 62 := by
          rw [← hurbb]
          exact hmoved 63 (by decide) (by decide)
        rw [← hlast]
        exact hR.bit_last
      · rintro (⟨-, hfree⟩ | hknown)
        · refine ⟨_, hstep, ?_⟩
          show Matches _ (block seen bsn :: seen)
          rw [hself]
          refine matches_vQ h (fun hmem => ?_) hmoved hfirst fin
          rw [hfree hvq] at hsecond
          exact nomatch hsecond.mpr hmem
        · exact absurd hknown hnot
    · have hpos : 0 < k := Nat.pos_of_ne_zero hk0
      have hstep := step_ackBlock desc bsn fin
      rw [ackBlock_ahead hk hpos hb h.bit_last] at hstep
      refine ⟨fun _ => Or.inl ⟨hin, fun hvq => absurd hvq (by omega)⟩,
        fun _ => ⟨_, hstep, ?_⟩⟩
      show Matches _ (block seen bsn :: seen)
      rw [hblock]
      exact matches_ahead h hk hpos fin
  · have hstep : step desc (.ackBlock bsn fin) = .error .badIndex := by
      rw [step_ackBlock, ackBlock_over hover]
      rfl
    constructor
    · rintro ⟨s', hs, -⟩
      rw [hstep] at hs
      exact nomatch hs
    · rintro (⟨⟨-, hhi⟩, -⟩ | ⟨hlt, -⟩) <;> omega

/-- What is answered of a block is whether it came before. -/
theorem isRetrans_stepOk (h : Matches desc seen) {b : Bool}
    (hret : fEgprsAcknackdescBsnIsRetrans desc bsn = .ok b) :
    StepOk step spec Matches desc seen (.bsnIsRetrans bsn)
      ↔ (b = true ↔ block seen bsn ∈ seen) := by
  have hstep : step desc (.bsnIsRetrans bsn) = .ok (desc, some b) := by
    rw [step_bsnIsRetrans, hret]
    rfl
  have hdec : (b = true ↔ block seen bsn ∈ seen) ↔ b = decide (block seen bsn ∈ seen) := by
    cases b <;> simp
  rw [hdec]
  constructor
  · rintro ⟨s', hs, -⟩
    rw [hstep] at hs
    exact Option.some.inj (congrArg Prod.snd (Except.ok.inj hs))
  · intro hb
    refine ⟨desc, ?_, h⟩
    rw [hstep, hb]
    rfl

/-- **A BLOCK IS RECOGNISED** exactly while the guard holds. -/
theorem isRetrans_stepOk_iff (h : Matches desc seen) (bsn : Fin 2048) :
    StepOk step spec Matches desc seen (.bsnIsRetrans bsn)
      ↔ CallGuard desc (.bsnIsRetrans bsn) := by
  rcases bsn_cases desc bsn with ⟨hlt, hnear⟩ | ⟨k, hk0, hk, hb⟩ | ⟨k, hk, hb⟩ | hover
  · rw [isRetrans_stepOk h (isRetrans_below hlt)]
    exact ⟨fun _ => Or.inr ⟨hlt, Or.inl hnear⟩,
      fun _ => ⟨fun _ => block_below_mem h hlt hnear, fun _ => rfl⟩⟩
  · rw [isRetrans_stepOk h (isRetrans_below (by omega)), ← knownBelow_wrapped h hk hb]
    constructor
    · intro hiff
      exact Or.inr (hiff.mp rfl)
    · rintro (hin | hknown)
      · have hlo := hin.1
        omega
      · exact ⟨fun _ => hknown, fun _ => rfl⟩
  · have hblock := @block_above desc seen bsn h k hk (by omega)
    rw [isRetrans_stepOk h (isRetrans_window hk hb), h.bits k hk, hblock]
    exact ⟨fun _ => Or.inl ⟨by omega, by omega⟩, fun _ => Iff.rfl⟩
  · have hstep : step desc (.bsnIsRetrans bsn) = .error .badIndex := by
      rw [step_bsnIsRetrans, isRetrans_over hover]
      rfl
    constructor
    · rintro ⟨s', hs, -⟩
      rw [hstep] at hs
      exact nomatch hs
    · rintro (⟨-, hhi⟩ | ⟨hlt, -⟩) <;> omega

/-- **ONE CALL** is right exactly while its guard holds. -/
theorem step_iff (h : Matches desc seen) (c : Call) :
    StepOk step spec Matches desc seen c ↔ CallGuard desc c := by
  cases c with
  | ackBlock bsn fin => exact ackBlock_stepOk_iff h bsn fin
  | bsnIsRetrans bsn => exact isRetrans_stepOk_iff h bsn

end Steps

/-- **WHEN A RUN OF CALLS IS RIGHT**: from the initial description, every call
    returns, answers what the specification answers and leaves a matching
    description iff every call meets its guard. -/
theorem egprsAckNackRun_ok_iff (calls : List Call) :
    RunOk step spec Matches tEgprsAckNackDescriptionInit [] calls
      ↔ Guarded step CallGuard tEgprsAckNackDescriptionInit calls :=
  runOk_iff_guarded (fun _ _ c h => step_iff h c) calls _ _ matches_init

/-- A BSN at most 63 ahead of V(Q) modulo 2048. -/
def InWindow (desc : EgprsAckNackDescription) : Call → Prop
  | .ackBlock bsn _ | .bsnIsRetrans bsn => ((bsn.val : Int) - vQ desc) % 2048 < 64

instance decInWindow : ∀ desc c, Decidable (InWindow desc c)
  | _, .ackBlock _ _ | _, .bsnIsRetrans _ => inferInstanceAs (Decidable (_ < _))

/-- Blocks 1 and 0 in the wrong order. -/
def swapped : List Call := [.ackBlock 1 false, .ackBlock 0 false]

/-- **A HOLE THAT IS FILLED** releases only itself: V(Q) becomes block 1,
    which was received, and its bit is set. -/
theorem swapped_not_ok :
    Guarded step InWindow tEgprsAckNackDescriptionInit swapped
      ∧ (run step tEgprsAckNackDescriptionInit swapped).map
          (fun r => (vQ r.1, r.1.urbb.bit 63)) = .ok (1, true)
      ∧ ¬ RunOk step spec Matches tEgprsAckNackDescriptionInit [] swapped := by
  have hguard : ¬ Guarded step CallGuard tEgprsAckNackDescriptionInit swapped := by
    decide
  refine ⟨by decide, by decide, fun hrun => hguard ?_⟩
  exact (runOk_iff_guarded (fun _ _ c h => step_iff h c) swapped _ _
    matches_init).mp hrun

end OsmoEgprsAckNack
