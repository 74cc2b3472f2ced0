import OsmoTtcn.CountdownProofs
import OsmoTtcn.UlTbfBlocksProofs

/-! # The countdown value of an uplink TBF

    `f_ul_tbf_get_cv` foresees the number of blocks that follow: the octets not
    yet sent, divided by the room in a block like the next one.  It leaves out
    the octets that length indicators take, in the next block and in those that
    follow, and takes all blocks to have a TLLI or none.

    A block leaves the octets that were there, less its room, and again those of
    its length indicators (`octets_segment`).  So the countdown is right exactly
    if at each block from the first announced number on these need one block less
    than was foreseen (`ulTbf_countdown`); where the next block has the same room,
    if the length indicators fit what the last foreseen block leaves free
    (`foreseen_same`). -/

namespace OsmoUlTbf

open OsmoTitan OsmoRlcmac RunGuard Countdown

-- ── Countdowns ───────────────────────────────────────────────────────────────

/-- The LLC octets of a block. -/
def blockOctets (b : RlcmacUlDataBlock) : Nat := payloadOctets (b.blocks.getD [])

/-- With `left` octets to be sent in front of a block, it carries the last one. -/
def CarriesLast (left : Nat) (b : RlcmacUlDataBlock) : Prop :=
  0 < left ∧ left = blockOctets b

/-- **A RIGHT COUNTDOWN**, with `left` octets to be sent in front of the first
    block: while counting down, which is up to 14, the value is the number of
    blocks that follow; it never increases; and it is 0 exactly on the block that
    carries the last octet. -/
def CountdownRight : (left : Nat) → List RlcmacUlDataBlock → Prop
  | _, [] => True
  | left, b :: bs =>
      (b.macHdr.countdown.val ≤ 14 → b.macHdr.countdown.val = bs.length)
      ∧ (∀ b' ∈ bs.head?, b'.macHdr.countdown ≤ b.macHdr.countdown)
      ∧ (b.macHdr.countdown.val = 0 ↔ CarriesLast left b)
      ∧ CountdownRight (left - blockOctets b) bs

/-- The length indicators in the next block with room for `m` octets. -/
def liOctets : (ps : List (List UInt8)) → (m : Nat) → Nat
  | [], _ => 0
  | p :: ps, m =>
      if m = 0 then 0
      else if m < p.length then 0
      else if p.length = m then 1
      else 1 + liOctets ps (m - 1 - p.length)

/-- The room in a block. -/
def room (cs : GprsCodingScheme) (c : Call) : Nat :=
  (fGprsBlocksize cs).toOption.getD 0 - fRlcmacHdrSize c.tlliNeeded

/-- In front of a call `c` at which a number is announced, and behind which octets
    are left: they need one block less, like the one of the next call `c'`, than
    there were to be with this one. -/
def Foreseen (us : UlTbf) (c c' : Call) : Prop :=
  let ps := pending us.toUlTbfState
  let m := room us.initialCs c
  octets ps ≤ 15 * m → m < octets ps + liOctets ps m →
    (octets ps + liOctets ps m - m) ⌈/⌉ room us.initialCs c' + 1 = octets ps ⌈/⌉ m

instance (us : UlTbf) (c c' : Call) : Decidable (Foreseen us c c') :=
  inferInstanceAs (Decidable (_ → _ → _))

/-- A call and the next one. -/
def pairStep (us : UlTbf) (p : Call × Call) : Except Fault (UlTbf × Option RlcmacUlDataBlock) :=
  callStep us p.1

/-- Every call with the next one meets the condition. -/
def AllForeseen (us : UlTbf) (calls : List Call) : Prop :=
  Guarded pairStep (fun us p => Foreseen us p.1 p.2) us (calls.zip calls.tail)

instance (us : UlTbf) (calls : List Call) : Decidable (AllForeseen us calls) :=
  @decGuarded _ _ _ _ pairStep (fun us p => Foreseen us p.1 p.2)
    (fun us p => inferInstanceAs (Decidable (Foreseen us p.1 p.2))) us (calls.zip calls.tail)

-- ── What a block takes ───────────────────────────────────────────────────────

/-- **LENGTH INDICATORS** take the octets that LLC octets do not. -/
theorem octets_segment (ps : List (List UInt8)) (m : Nat) :
    octets (segment ps m).2 = octets ps + liOctets ps m - m := by
  induction ps, m using segment.induct with
  | case1 m => exact (Nat.zero_sub m).symm
  | case2 p ps =>
      rw [segment_zero, liOctets, if_pos rfl]
      rfl
  | case3 p ps m h0 h =>
      rw [segment_chunk ps (Nat.pos_of_ne_zero h0) h, liOctets, if_neg h0, if_pos h,
        octets_cons, octets_cons, List.length_drop]
      omega
  | case4 p ps h0 h =>
      rw [segment_singular ps (Nat.pos_of_ne_zero h0) rfl, liOctets, if_neg h0, if_neg h,
        if_pos rfl, octets_cons, octets_cons, List.length_drop]
      omega
  | case5 p ps m h0 h hne ih =>
      rw [segment_normal ps (by omega), liOctets, if_neg h0, if_neg h, if_neg hne, octets_cons]
      show octets (segment ps (m - 1 - p.length)).2 = _
      rw [ih]
      omega

theorem octets_pos {ps : List (List UInt8)} (hne : ∀ p ∈ ps, p ≠ []) (hps : ps ≠ []) :
    0 < octets ps := by
  obtain ⟨p, ps, rfl⟩ := List.exists_cons_of_ne_nil hps
  have hp : 0 < p.length := List.length_pos_iff.mpr (hne p List.mem_cons_self)
  rw [octets_cons]
  omega

-- ── The value ────────────────────────────────────────────────────────────────

theorem fDivRoundUp_natCast (a : Nat) {b : Nat} (hb : 0 < b) :
    fDivRoundUp a b = .ok ((a ⌈/⌉ b : Nat) : Int) := by
  rw [fDivRoundUp, if_neg (by omega)]
  refine congrArg Except.ok ?_
  rw [Int.tdiv_eq_ediv_of_nonneg (Int.natCast_nonneg a),
    Int.tmod_eq_emod_of_nonneg (Int.natCast_nonneg a), ← Int.natCast_mod, ← Int.natCast_ediv,
    Nat.ceilDiv_eq_add_pred_div]
  have hdiv := Nat.div_add_mod a b
  by_cases hmod : a % b = 0
  · rw [if_neg (by omega)]
    have hq : (a + b - 1) / b = a / b := by
      refine Nat.div_eq_of_lt_le ?_ ?_
      · rw [Nat.mul_comm]
        omega
      · rw [Nat.add_mul, Nat.one_mul, Nat.mul_comm]
        omega
    rw [hq]
  · rw [if_pos (by omega)]
    have hlt := Nat.mod_lt a hb
    have hq : (a + b - 1) / b = a / b + 1 := by
      refine Nat.div_eq_of_lt_le ?_ ?_
      · rw [Nat.add_mul, Nat.one_mul, Nat.mul_comm]
        omega
      · rw [Nat.add_mul, Nat.add_mul, Nat.one_mul, Nat.mul_comm]
        omega
    rw [hq]
    rfl

/-- **WHAT IS FORESEEN**: as many blocks as the octets not yet sent fill, and no
    length indicators. -/
theorem fUlTbfGetCv_eq {us : UlTbf} (hs : Sound us) {n : Nat} {c : Call}
    (hn : fGprsBlocksize us.initialCs = .ok n) (hroom : fRlcmacHdrSize c.tlliNeeded < n)
    (hp : pending us.toUlTbfState ≠ []) :
    fUlTbfGetCv us us.initialCs c.tlliNeeded
      = .ok (announce 14 (octets (pending us.toUlTbfState)
          ⌈/⌉ (n - fRlcmacHdrSize c.tlliNeeded) - 1) : Nat) := by
  have hnet : 0 < n - fRlcmacHdrSize c.tlliNeeded := by omega
  have hsub : (n : Int) - fRlcmacHdrSize c.tlliNeeded
      = (n - fRlcmacHdrSize c.tlliNeeded : Nat) := by omega
  have hpos := ceilDiv_pos hnet (octets_pos hs.valid.pending_ne hp)
  have hsent := hs.sent
  have hrest : ((octets (pending us.toUlTbfState) ⌈/⌉ (n - fRlcmacHdrSize c.tlliNeeded) : Nat)
        : Int) + us.rlcSent.length - us.bsnP - 1
      = (octets (pending us.toUlTbfState) ⌈/⌉ (n - fRlcmacHdrSize c.tlliNeeded) - 1 : Nat) := by
    omega
  have hone : (us.numTs : Int) * fKForCs us.initialCs = (1 : Nat) := by
    rw [hs.numTs]
    rfl
  rw [fUlTbfGetCv, hn, ok_bind, hs.valid.remain, hsub, fDivRoundUp_natCast _ hnet, ok_bind,
    fCalcCv, hrest, hone, fDivRoundUp_natCast _ Nat.one_pos, Nat.ceilDiv_eq_add_pred_div _ 1,
    Nat.add_sub_cancel, Nat.div_one]
  generalize octets (pending us.toUlTbfState) ⌈/⌉ (n - fRlcmacHdrSize c.tlliNeeded) - 1 = x
  refine congrArg Except.ok ?_
  show (if (x : Int) ≤ 14 then (x : Int) else 15) = _
  by_cases hle : x ≤ 14
  · rw [if_pos (by omega), announce_of_le hle]
  · rw [if_neg (by omega), announce_of_lt (Nat.not_le.mp hle)]
    rfl

theorem uintN_val {n : Nat} {v : Int} {k : Fin n} (h : uintN n v = .ok k) : (k.val : Int) = v := by
  by_cases hv : 0 ≤ v ∧ v < n
  · rw [uintN, dif_pos hv] at h
    rw [← Except.ok.inj h]
    exact Int.toNat_of_nonneg hv.1
  · rw [uintN, dif_neg hv] at h
    cases h

theorem rlcmacUlData_countdown {cs : CodingScheme} {tfi cv bsn : Int} {blocks : List LlcBlock}
    {stall : Bool} {tlli : Option GprsTlli} {x : RlcmacUlDataBlock}
    (h : rlcmacUlData cs tfi cv bsn blocks stall tlli = .ok x) :
    (x.macHdr.countdown.val : Int) = cv := by
  obtain ⟨tfi', -, h⟩ := bind_ok h
  obtain ⟨cv', hcv, h⟩ := bind_ok h
  obtain ⟨bsn', -, h⟩ := bind_ok h
  rw [← Except.ok.inj h]
  exact uintN_val hcv

theorem nextData_countdown {us : UlTbf} {cv : Int} {blocks : List LlcBlock} {tlli : GprsTlli}
    {needed : Bool} {x : RlcmacUlDataBlock} (h : nextData us cv blocks tlli needed = .ok x) :
    (x.macHdr.countdown.val : Int) = cv := by
  cases needed with
  | true => exact rlcmacUlData_countdown h
  | false => exact rlcmacUlData_countdown h

-- ── The blocks of a run ──────────────────────────────────────────────────────

/-- Blocks that carry an octet at least each, and `left` together. -/
def Carry : (left : Nat) → List RlcmacUlDataBlock → Prop
  | left, [] => left = 0
  | left, b :: bs => 0 < blockOctets b ∧ blockOctets b ≤ left ∧ Carry (left - blockOctets b) bs

theorem carry_zero {bs : List RlcmacUlDataBlock} (h : Carry 0 bs) : bs = [] := by
  cases bs with
  | nil => rfl
  | cons b bs =>
      obtain ⟨hpos, hle, -⟩ := h
      omega

/-- The value of a block. -/
def cvOf (b : RlcmacUlDataBlock) : Nat := b.macHdr.countdown.val

/-- The block that carries the last octet is the last one. -/
theorem countdownRight_iff : ∀ {bs : List RlcmacUlDataBlock} {left : Nat}, Carry left bs →
    (CountdownRight left bs ↔ CountsDown 14 (bs.map cvOf)) := by
  intro bs
  induction bs with
  | nil => exact fun _ => Iff.rfl
  | cons b bs ih =>
      intro left h
      obtain ⟨hpos, hle, hrest⟩ := h
      have hlast : CarriesLast left b ↔ bs.map cvOf = [] := by
        rw [CarriesLast, List.map_eq_nil_iff]
        constructor
        · rintro ⟨-, heq⟩
          rw [heq, Nat.sub_self] at hrest
          exact carry_zero hrest
        · rintro rfl
          have hzero : left - blockOctets b = 0 := hrest
          exact ⟨by omega, by omega⟩
      rw [List.map_cons, CountdownRight, CountsDown, ih hrest, hlast, List.length_map]
      refine and_congr Iff.rfl (and_congr ?_ Iff.rfl)
      cases bs with
      | nil =>
          constructor
          · intro _ c' hc'
            cases hc'
          · intro _ b' hb'
            cases hb'
      | cons b' bs =>
          constructor
          · rintro hhead _ hc'
            rw [← Option.some.inj hc']
            exact hhead b' rfl
          · rintro hhead _ hb'
            rw [← Option.some.inj hb']
            exact hhead _ rfl

theorem room_eq {cs : GprsCodingScheme} {n : Nat} (hn : fGprsBlocksize cs = .ok n) (c : Call) :
    room cs c = n - fRlcmacHdrSize c.tlliNeeded := by
  rw [room, hn]
  rfl

theorem two_le_room {cs : GprsCodingScheme} {n : Nat} (hn : fGprsBlocksize cs = .ok n)
    (c : Call) : fRlcmacHdrSize c.tlliNeeded < n ∧ 2 ≤ room cs c := by
  have hcs : cs ≠ .cs4 := by
    rintro rfl
    cases hn
  obtain ⟨k, hk, hle, -⟩ := fGprsBlocksize_ok hcs
  rw [hn] at hk
  have hkn := Except.ok.inj hk
  have hhdr := fRlcmacHdrSize_le c.tlliNeeded
  rw [room_eq hn]
  exact ⟨by omega, by omega⟩

/-- **A BLOCK**: what it carries, what it leaves, and its value. -/
theorem callStep_block {us : UlTbf} (hs : Sound us) {c : Call} {n : Nat}
    (hn : fGprsBlocksize us.initialCs = .ok n) (hp : pending us.toUlTbfState ≠ []) :
    ∃ us' x, callStep us c = .ok (us', some x) ∧ Sound us' ∧ us'.initialCs = us.initialCs
      ∧ octets (pending us'.toUlTbfState) = octets (pending us.toUlTbfState)
          + liOctets (pending us.toUlTbfState) (room us.initialCs c) - room us.initialCs c
      ∧ blockOctets x + octets (pending us'.toUlTbfState) = octets (pending us.toUlTbfState)
      ∧ 0 < blockOctets x
      ∧ cvOf x = announce 14
          (octets (pending us.toUlTbfState) ⌈/⌉ room us.initialCs c - 1) := by
  obtain ⟨hroom, htwo⟩ := two_le_room hn c
  rw [room_eq hn] at htwo ⊢
  obtain ⟨cv, pulled, x, hcv, hcopied, hx, hmade, hstep⟩ := callStep_sends hs hn hroom hp
  have hpending : pending (sentState us pulled x).toUlTbfState
      = (segment (pending us.toUlTbfState) (n - fRlcmacHdrSize c.tlliNeeded)).2 :=
    hcopied.pending
  have hblock : blockOctets x = payloadOctets
      (segment (pending us.toUlTbfState) (n - fRlcmacHdrSize c.tlliNeeded)).1 := by
    rw [blockOctets, hmade.blocks]
    rfl
  have hsum := segment_octets (pending us.toUlTbfState) (n - fRlcmacHdrSize c.tlliNeeded)
  have hless := segment_progress hs.valid.pending_ne hp htwo
  refine ⟨_, x, hstep, sentState_sound hs hcopied x, rfl, ?_, ?_, by omega, ?_⟩
  · rw [hpending, octets_segment]
  · rw [hpending, hblock]
    exact hsum
  · rw [fUlTbfGetCv_eq hs hn hroom hp] at hcv
    have hval := nextData_countdown hx
    rw [← Except.ok.inj hcv] at hval
    exact Int.natCast_inj.mp hval

/-- **EVERY SEQUENCE OF CALLS** returns, and enough of them send everything. -/
theorem run_total {n : Nat} : ∀ (calls : List Call) {us : UlTbf}, Sound us →
    fGprsBlocksize us.initialCs = .ok n →
    ∃ us' rs, run callStep us calls = .ok (us', rs)
      ∧ Sound us' ∧ us'.initialCs = us.initialCs
      ∧ (octets (pending us.toUlTbfState) ≤ calls.length → pending us'.toUlTbfState = []) := by
  intro calls
  induction calls with
  | nil =>
      intro us hs _
      refine ⟨us, [], rfl, hs, rfl, fun hle => ?_⟩
      by_contra hne
      exact absurd (octets_pos hs.valid.pending_ne hne) (Nat.not_lt.mpr hle)
  | cons c calls ih =>
      intro us hs hn
      by_cases hp : pending us.toUlTbfState = []
      · obtain ⟨us', rs, hrun, hs', hcs', hend⟩ := ih hs hn
        refine ⟨us', none :: rs, ?_, hs', hcs', fun _ => hend ?_⟩
        · rw [run, callStep_none hs hn (two_le_room hn c).1 hp]
          show (run callStep us calls).map _ = _
          rw [hrun]
          rfl
        · rw [hp]
          exact Nat.zero_le _
      · obtain ⟨us1, x, hstep, hs1, hcs, -, hsum, hpos, -⟩ := callStep_block hs hn hp
        obtain ⟨us', rs, hrun, hs', hcs', hend⟩ := ih hs1 (by rw [hcs]; exact hn)
        refine ⟨us', some x :: rs, ?_, hs', hcs'.trans hcs, fun hle => hend ?_⟩
        · rw [run, hstep]
          show (run callStep us1 calls).map _ = _
          rw [hrun]
          rfl
        · rw [List.length_cons] at hle
          omega

-- ── When a countdown is right ────────────────────────────────────────────────

theorem allForeseen_cons {us us' : UlTbf} {r : Option RlcmacUlDataBlock} {c c' : Call}
    {calls : List Call} (hstep : callStep us c = .ok (us', r)) :
    AllForeseen us (c :: c' :: calls) ↔ Foreseen us c c' ∧ AllForeseen us' (c' :: calls) :=
  @guarded_cons_ok _ _ _ _ pairStep _ us us' (c, c') r ((c' :: calls).zip calls) hstep

/-- With nothing to send, and in front of the last block, there is no condition. -/
theorem foreseen_of_le {us : UlTbf} {c c' : Call}
    (h : octets (pending us.toUlTbfState)
      + liOctets (pending us.toUlTbfState) (room us.initialCs c) ≤ room us.initialCs c) :
    Foreseen us c c' := fun _ hlt => absurd hlt (Nat.not_lt.mpr h)

/-- What the calls send that send all that is pending. -/
structure Sends (us : UlTbf) (calls : List Call) (bs : List RlcmacUlDataBlock) : Prop where
  carry : Carry (octets (pending us.toUlTbfState)) bs
  head : ∀ c ∈ calls.head?, pending us.toUlTbfState ≠ [] → ∃ b bs', bs = b :: bs'
    ∧ cvOf b = announce 14 (octets (pending us.toUlTbfState) ⌈/⌉ room us.initialCs c - 1)
  countsDown_iff : CountsDown 14 (bs.map cvOf) ↔ AllForeseen us calls

/-- A call with nothing to send. -/
theorem Sends.idle {us : UlTbf} {c : Call} {calls : List Call} {bs : List RlcmacUlDataBlock}
    (h : Sends us calls bs) (hp : pending us.toUlTbfState = [])
    (hstep : callStep us c = .ok (us, none)) : Sends us (c :: calls) bs where
  carry := h.carry
  head := fun _ _ hne => absurd hp hne
  countsDown_iff := by
    rw [h.countsDown_iff]
    cases calls with
    | nil => exact Iff.rfl
    | cons c' calls =>
        rw [allForeseen_cons hstep]
        refine (and_iff_right (foreseen_of_le ?_)).symm
        rw [hp]
        exact Nat.zero_le _

/-- **A BLOCK IN FRONT** of those of the other calls. -/
theorem Sends.cons {us us' : UlTbf} {n : Nat} {c : Call} {calls : List Call}
    {x : RlcmacUlDataBlock} {bs : List RlcmacUlDataBlock} (hs' : Sound us')
    (hn : fGprsBlocksize us.initialCs = .ok n) (hcs : us'.initialCs = us.initialCs)
    (hstep : callStep us c = .ok (us', some x))
    (hleft : octets (pending us'.toUlTbfState) = octets (pending us.toUlTbfState)
      + liOctets (pending us.toUlTbfState) (room us.initialCs c) - room us.initialCs c)
    (hsum : blockOctets x + octets (pending us'.toUlTbfState)
      = octets (pending us.toUlTbfState))
    (hpos : 0 < blockOctets x)
    (hcv : cvOf x = announce 14
      (octets (pending us.toUlTbfState) ⌈/⌉ room us.initialCs c - 1))
    (hcalls : pending us'.toUlTbfState ≠ [] → calls ≠ [])
    (h : Sends us' calls bs) : Sends us (c :: calls) (x :: bs) where
  carry := by
    refine ⟨hpos, by omega, ?_⟩
    have hrest : octets (pending us.toUlTbfState) - blockOctets x
        = octets (pending us'.toUlTbfState) := by omega
    rw [hrest]
    exact h.carry
  head := by
    intro c' hc' _
    rw [← Option.some.inj hc']
    exact ⟨x, bs, rfl, hcv⟩
  countsDown_iff := by
    have hm := (two_le_room hn c).2
    by_cases hp' : pending us'.toUlTbfState = []
    · -- the last block: what is foreseen is that none follows
      have hzero : octets (pending us'.toUlTbfState) = 0 := by
        rw [hp']
        rfl
      have hbs : bs = [] := by
        have hcarry := h.carry
        rw [hzero] at hcarry
        exact carry_zero hcarry
      have hone : octets (pending us.toUlTbfState) ⌈/⌉ room us.initialCs c = 1 :=
        ceilDiv_eq_one (by omega) (by omega)
      rw [hone] at hcv
      have hall := h.countsDown_iff
      rw [hbs] at hall ⊢
      rw [List.map_cons, hcv]
      refine iff_of_true countsDown_last ?_
      cases calls with
      | nil => exact trivial
      | cons c' calls =>
          rw [allForeseen_cons hstep]
          exact ⟨foreseen_of_le (by omega), hall.mp trivial⟩
    · obtain ⟨c', calls, rfl⟩ := List.exists_cons_of_ne_nil (hcalls hp')
      obtain ⟨b', bs', rfl, hcv'⟩ := h.head c' rfl hp'
      have hhere := ceilDiv_pos (show 0 < room us.initialCs c by omega)
        (show 0 < octets (pending us.toUlTbfState) by omega)
      have hthere := ceilDiv_pos
        (show 0 < room us.initialCs c' by have := (two_le_room hn c').2; omega)
        (octets_pos hs'.valid.pending_ne hp')
      have hleft0 := octets_pos hs'.valid.pending_ne hp'
      have hall := h.countsDown_iff
      rw [hcs] at hcv'
      rw [List.map_cons, hcv'] at hall
      rw [allForeseen_cons hstep, List.map_cons, List.map_cons, hcv, hcv', countsDown_cons, hall]
      refine and_congr ?_ Iff.rfl
      show _ ↔ (_ → _ → _)
      have hbound : octets (pending us.toUlTbfState) ≤ 15 * room us.initialCs c
          ↔ octets (pending us.toUlTbfState) ⌈/⌉ room us.initialCs c ≤ 15 := by
        rw [ceilDiv_le_iff_le_mul (by omega), Nat.mul_comm]
      rw [hbound, ← hleft]
      constructor
      · intro hx hle _
        have heq := hx (by omega)
        omega
      · intro hfore hle
        have heq := hfore (by omega) (by omega)
        omega

theorem run_sends {n : Nat} : ∀ (calls : List Call) {us us' : UlTbf}
    {rs : List (Option RlcmacUlDataBlock)}, Sound us → fGprsBlocksize us.initialCs = .ok n →
    run callStep us calls = .ok (us', rs) → pending us'.toUlTbfState = [] →
    Sends us calls rs.reduceOption := by
  intro calls
  induction calls with
  | nil =>
      intro us us' rs _ _ hrun hend
      obtain ⟨rfl, rfl⟩ := Prod.mk.inj (Except.ok.inj hrun)
      refine ⟨?_, ?_, Iff.rfl⟩
      · rw [hend]
        rfl
      · intro c hc
        cases hc
  | cons c calls ih =>
      intro us us' rs hs hn hrun hend
      obtain ⟨us1, r, rs', hstep1, hrun1, rfl⟩ := run_cons_ok hrun
      by_cases hp : pending us.toUlTbfState = []
      · have hnone := callStep_none hs hn (two_le_room hn c).1 hp
        rw [hnone] at hstep1
        obtain ⟨rfl, rfl⟩ := Prod.mk.inj (Except.ok.inj hstep1)
        exact (ih hs hn hrun1 hend).idle hp hnone
      · obtain ⟨us2, x, hstep, hs2, hcs, hleft, hsum, hpos, hcv⟩ := @callStep_block us hs c n hn hp
        rw [hstep] at hstep1
        obtain ⟨rfl, rfl⟩ := Prod.mk.inj (Except.ok.inj hstep1)
        refine Sends.cons hs2 hn hcs hstep hleft hsum hpos hcv ?_
          (ih hs2 (by rw [hcs]; exact hn) hrun1 hend)
        rintro hne rfl
        obtain ⟨rfl, -⟩ := Prod.mk.inj (Except.ok.inj hrun1)
        exact hne hend

/-- **WHERE THE ROOM STAYS THE SAME**, the length indicators are to fit what the
    last foreseen block leaves free. -/
theorem foreseen_same {us : UlTbf} {n : Nat} {c c' : Call}
    (hn : fGprsBlocksize us.initialCs = .ok n) (hsame : c'.tlliNeeded = c.tlliNeeded)
    (hs : Sound us) (hp : pending us.toUlTbfState ≠ []) :
    Foreseen us c c' ↔
      (octets (pending us.toUlTbfState) ≤ 15 * room us.initialCs c →
        room us.initialCs c < octets (pending us.toUlTbfState)
          + liOctets (pending us.toUlTbfState) (room us.initialCs c) →
        liOctets (pending us.toUlTbfState) (room us.initialCs c)
          ≤ room us.initialCs c * (octets (pending us.toUlTbfState) ⌈/⌉ room us.initialCs c)
            - octets (pending us.toUlTbfState)) := by
  have hroom : room us.initialCs c' = room us.initialCs c := by
    rw [room, room, hsame]
  have hm := (two_le_room hn c).2
  rw [Foreseen, hroom]
  refine imp_congr_right (fun _ => imp_congr_right (fun hlt => ?_))
  exact ceilDiv_extra_iff (by omega) (octets_pos hs.valid.pending_ne hp) hlt

section Init

variable {PduLlc : Type} {encPduLlc : PduLlc → List UInt8}

/-- **THE COUNTDOWN OF A TBF**: with any PDUs that encode to an octet at least, any
    scheme with a block size and any choice of TLLIs, calls return, as many calls
    as there are octets send everything, and the values of the blocks that send
    everything are a right countdown if and only if every call with the next one
    meets `Foreseen`.  In every state that calls lead to, and for two calls with
    the same choice, this says that the length indicators fit what the last block
    that is foreseen leaves free. -/
theorem ulTbf_countdown {n : Nat} (pdus : List PduLlc) (hne : ∀ p ∈ pdus, encPduLlc p ≠ [])
    (cs : GprsCodingScheme) (hn : fGprsBlocksize cs = .ok n) (enc : List (List UInt8))
    (totlen : Int) (calls : List Call) :
    ∃ us rs, run callStep (ulTbfInit encPduLlc cs (some pdus) enc totlen) calls = .ok (us, rs)
      ∧ (octets (pdus.map encPduLlc) ≤ calls.length → pending us.toUlTbfState = [])
      ∧ (pending us.toUlTbfState = [] →
        (CountdownRight (octets (pdus.map encPduLlc)) rs.reduceOption
          ↔ AllForeseen (ulTbfInit encPduLlc cs (some pdus) enc totlen) calls))
      ∧ (pending us.toUlTbfState ≠ [] → ∀ c c', c'.tlliNeeded = c.tlliNeeded →
        (Foreseen us c c' ↔ (octets (pending us.toUlTbfState) ≤ 15 * room us.initialCs c →
          room us.initialCs c < octets (pending us.toUlTbfState)
            + liOctets (pending us.toUlTbfState) (room us.initialCs c) →
          liOctets (pending us.toUlTbfState) (room us.initialCs c)
            ≤ room us.initialCs c * (octets (pending us.toUlTbfState) ⌈/⌉ room us.initialCs c)
              - octets (pending us.toUlTbfState)))) := by
  have hs := ulTbfInit_sound hne cs enc totlen
  have hpending : pending (ulTbfInit encPduLlc cs (some pdus) enc totlen).toUlTbfState
      = pdus.map encPduLlc := (fUlTbfStateInit_valid hne enc totlen).2
  obtain ⟨us, rs, hrun, hs', hcs, hend⟩ := run_total calls hs hn
  rw [hpending] at hend
  refine ⟨us, rs, hrun, hend, fun hdone => ?_,
    fun hp c c' hsame => foreseen_same (by rw [hcs]; exact hn) hsame hs' hp⟩
  have hsends := run_sends calls hs hn hrun hdone
  have hcarry := hsends.carry
  rw [hpending] at hcarry
  rw [countdownRight_iff hcarry, hsends.countsDown_iff]

end Init

/-- A PDU of 30 octets in CS-1: a part without a length indicator, and the rest with
    one. -/
theorem ulTbf_countdown_two : ∃ us rs,
    run callStep (tbfOf .cs1 [List.replicate 30 7]) [withoutTlli, withoutTlli] = .ok (us, rs)
      ∧ CountdownRight 30 rs.reduceOption := by
  obtain ⟨us, rs, hrun, -, hiff, -⟩ := @ulTbf_countdown (List UInt8) id 22
    [List.replicate 30 7] (by decide) .cs1 rfl [] 0 [withoutTlli, withoutTlli]
  have hdone : (run callStep (tbfOf .cs1 [List.replicate 30 7])
      [withoutTlli, withoutTlli]).map (fun r => pending r.1.toUlTbfState) = .ok [] := by decide
  have hpending : pending us.toUlTbfState = [] := by
    have hmap := congrArg (Except.map (fun r => pending r.1.toUlTbfState)) hrun
    exact Except.ok.inj (hmap.symm.trans hdone)
  exact ⟨us, rs, hrun, (hiff hpending).mpr (by decide)⟩

/-- A countdown that starts with the wrong number of blocks that follow. -/
theorem not_countdownRight {left : Nat} {bs : List RlcmacUlDataBlock}
    (h : ∃ b bs', bs = b :: bs' ∧ cvOf b ≤ 14 ∧ cvOf b ≠ bs'.length) :
    ¬ CountdownRight left bs := by
  obtain ⟨b, bs', rfl, hle, hne⟩ := h
  rintro ⟨hcount, -⟩
  exact hne (hcount hle)

/-- **WRONG COUNTDOWNS**: 20 octets are foreseen to fit one block, and are sent with
    a length indicator in two; and 34 octets are foreseen to take three blocks with a
    TLLI, of which the second one has none. -/
theorem countdown_wrong :
    (∃ us rs, run callStep (tbfOf .cs1 [List.replicate 20 7]) [withoutTlli, withoutTlli]
        = .ok (us, rs) ∧ pending us.toUlTbfState = [] ∧ rs.reduceOption.map cvOf = [0, 0]
      ∧ ¬ CountdownRight 20 rs.reduceOption)
    ∧ ∃ us rs, run callStep (tbfOf .cs1 [List.replicate 34 7]) [withTlli, withoutTlli]
        = .ok (us, rs) ∧ pending us.toUlTbfState = [] ∧ rs.reduceOption.map cvOf = [2, 0]
      ∧ ¬ CountdownRight 34 rs.reduceOption :=
  ⟨⟨_, _, rfl, by decide, by decide, not_countdownRight ⟨_, _, rfl, by decide, by decide⟩⟩,
    ⟨_, _, rfl, by decide, by decide, not_countdownRight ⟨_, _, rfl, by decide, by decide⟩⟩⟩

end OsmoUlTbf
