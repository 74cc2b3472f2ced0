import OsmoTtcn.PcuSchedProofs

/-! # Frame numbers

    Tests of the packet channels compute the frame in which a block is to be
    sent.  A multiframe of 52 frames has twelve blocks of four frames, and an
    idle frame behind every third one.  `f_next_pdtch_block` divides by 4 to see
    which block a frame is in, as if the idle frames in front of it were frames
    of blocks.

    `next_blocks` says where that goes wrong: never at the first frame of a
    block, and behind the third idle frame at every other one.
    `starting_time` says that the starting time of a TBF is a frame number
    modulo 42432, in three residues. -/

namespace OsmoTdma

open OsmoPcuSched

-- ── Functions ────────────────────────────────────────────────────────────────

/-- 3GPP TS 45.002 Table 6 -/
def fn2bn (fn : Nat) : Nat := fn % 52 / 4

/-- `f_next_pdtch_block` -/
def fNextPdtchBlock (fn : Nat) : Nat :=
  let bn := fn2bn fn + 1
  fGsmFnSum (fn - fn % 52) (bn * 4 + bn / 3)

/-- The PTCCH block of a frame number. -/
def ptcchFn2bn (fn : Nat) : Nat := fn % 416 / 104

/-- `f_next_ptcch_dl_block` -/
def fNextPtcchDlBlock (fn : Nat) : Nat :=
  let bn := ptcchFn2bn fn + 1
  fGsmFnSum (fn - fn % 416) (bn * 104 + 12)

/-- Derive PTCCH/U sub-slot from a given TDMA frame-number. -/
def fTdmaPtcchFn2ss (fn : Nat) : Int :=
  match fn % 416 with
  | 12 => 0
  | 38 => 1
  | 64 => 2
  | 90 => 3
  | 116 => 4
  | 142 => 5
  | 168 => 6
  | 194 => 7
  | 220 => 8
  | 246 => 9
  | 272 => 10
  | 298 => 11
  | 324 => 12
  | 350 => 13
  | 376 => 14
  | 402 => 15
  | _ => -1

/-- `TBF_StartingTime`, a frame number in its reduced form. -/
structure TbfStartingTime where
  t1 : Fin 32
  t3 : Fin 64
  t2 : Fin 32
  deriving DecidableEq, Repr

/-- `mod` of TTCN-3 is never negative. -/
def fTbfStartingTime2FnMod42432 (st : TbfStartingTime) : Int :=
  51 * (((st.t3.val : Int) - st.t2.val) % 26) + st.t3.val + 51 * 26 * st.t1.val

-- ── The next block ───────────────────────────────────────────────────────────

/-- The first frame after `fn` with the property. -/
def IsNext (P : Nat → Prop) (fn next : Nat) : Prop :=
  ∃ k, 0 < k ∧ next = fGsmFnSum fn k ∧ P next ∧ ∀ j, 0 < j → j < k → ¬ P (fGsmFnSum fn j)

/-- There is only one first frame. -/
theorem isNext_iff {P : Nat → Prop} {fn gap next : Nat} (hgap : 0 < gap)
    (hat : P (fGsmFnSum fn gap)) (hbefore : ∀ j, 0 < j → j < gap → ¬ P (fGsmFnSum fn j)) :
    IsNext P fn next ↔ next = fGsmFnSum fn gap := by
  constructor
  · rintro ⟨k, hk, rfl, hnext, hfirst⟩
    rcases Nat.lt_trichotomy k gap with hlt | heq | hgt
    · exact absurd hnext (hbefore k hk hlt)
    · rw [heq]
    · exact absurd hat (hfirst gap hgap hgt)
  · rintro rfl
    exact ⟨gap, hgap, rfl, hat, hbefore⟩

/-- The hyperframe has a whole number of what is repeated in it. -/
theorem fGsmFnSum_mod {m : Nat} (hm : m ∣ gsmMaxFrameNumber) (a b : Nat) :
    fGsmFnSum a b % m = (a + b) % m :=
  Nat.mod_mod_of_dvd _ hm

/-- Two sums of one hyperframe are the same only if the numbers are. -/
theorem fGsmFnSum_inj {a b c d : Nat} (h : a + b < c + d + gsmMaxFrameNumber)
    (h' : c + d < a + b + gsmMaxFrameNumber) :
    fGsmFnSum a b = fGsmFnSum c d ↔ a + b = c + d := by
  have hmax : gsmMaxFrameNumber = 2715648 := rfl
  rw [hmax] at h h'
  constructor
  · intro heq
    have hmod : (a + b) % 2715648 = (c + d) % 2715648 := heq
    omega
  · exact fun heq => congrArg (· % gsmMaxFrameNumber) heq

/-- A block begins. -/
def PdtchBlock (fn : Nat) : Prop := isBlockBegin fn = true

theorem pdtchBlock_iff {fn : Nat} :
    PdtchBlock fn ↔ fn % 13 = 0 ∨ fn % 13 = 4 ∨ fn % 13 = 8 := by
  rw [PdtchBlock, isBlockBegin, decide_eq_true_eq]

theorem pdtchBlock_sum (fn k : Nat) : PdtchBlock (fGsmFnSum fn k) ↔ PdtchBlock (fn + k) := by
  rw [pdtchBlock_iff, pdtchBlock_iff, fGsmFnSum_mod (by decide)]

/-- How far it is to the next block. -/
def pdtchGap (fn : Nat) : Nat :=
  if fn % 13 < 4 then 4 - fn % 13 else if fn % 13 < 8 then 8 - fn % 13 else 13 - fn % 13

theorem pdtchGap_cases (fn : Nat) :
    (fn % 13 < 4 ∧ fn % 13 + pdtchGap fn = 4)
    ∨ (4 ≤ fn % 13 ∧ fn % 13 < 8 ∧ fn % 13 + pdtchGap fn = 8)
    ∨ (8 ≤ fn % 13 ∧ fn % 13 + pdtchGap fn = 13) := by
  have hlt : fn % 13 < 13 := Nat.mod_lt fn (by decide)
  rw [pdtchGap]
  by_cases h4 : fn % 13 < 4
  · rw [if_pos h4]
    exact Or.inl ⟨h4, by omega⟩
  · rw [if_neg h4]
    by_cases h8 : fn % 13 < 8
    · rw [if_pos h8]
      exact Or.inr (Or.inl ⟨by omega, h8, by omega⟩)
    · rw [if_neg h8]
      exact Or.inr (Or.inr ⟨by omega, by omega⟩)

theorem isNext_pdtch {fn next : Nat} :
    IsNext PdtchBlock fn next ↔ next = fGsmFnSum fn (pdtchGap fn) := by
  have hlt : fn % 13 < 13 := Nat.mod_lt fn (by decide)
  have hcases := pdtchGap_cases fn
  refine isNext_iff (by omega) ?_ ?_
  · rw [pdtchBlock_sum, pdtchBlock_iff]
    omega
  · intro j hpos hj
    rw [pdtchBlock_sum, pdtchBlock_iff]
    omega

/-- What the code adds to the beginning of the multiframe is right. -/
theorem fNextPdtchBlock_offset (r : Fin 52) :
    (r.val / 4 + 1) * 4 + (r.val / 4 + 1) / 3 = r.val + pdtchGap r.val
      ↔ r.val % 13 ≠ 12 ∧ r.val % 13 % 4 + r.val / 13 < 4 := by
  revert r
  decide

/-- The code comes to the next block from frames that have as many frames of
    their block behind them as there were idle frames. -/
theorem fNextPdtchBlock_next {fn : Nat} :
    IsNext PdtchBlock fn (fNextPdtchBlock fn)
      ↔ fn % 13 ≠ 12 ∧ fn % 13 % 4 + fn % 52 / 13 < 4 := by
  have hlt : fn % 52 < 52 := Nat.mod_lt fn (by decide)
  have h13 : fn % 52 % 13 = fn % 13 := Nat.mod_mod_of_dvd fn (by decide)
  have hgap : pdtchGap (fn % 52) = pdtchGap fn := by rw [pdtchGap, h13, pdtchGap]
  have hcases := pdtchGap_cases fn
  have hmax : gsmMaxFrameNumber = 2715648 := rfl
  have hoffset : (fn % 52 / 4 + 1) * 4 + (fn % 52 / 4 + 1) / 3 = fn % 52 + pdtchGap (fn % 52)
      ↔ fn % 52 % 13 ≠ 12 ∧ fn % 52 % 13 % 4 + fn % 52 / 13 < 4 :=
    fNextPdtchBlock_offset ⟨fn % 52, hlt⟩
  rw [hgap, h13] at hoffset
  rw [← hoffset, isNext_pdtch, fNextPdtchBlock, fn2bn]
  rw [fGsmFnSum_inj (by rw [hmax]; omega) (by rw [hmax]; omega)]
  omega

/-- What it comes to is a block in any case. -/
theorem fNextPdtchBlock_block (fn : Nat) : PdtchBlock (fNextPdtchBlock fn) := by
  have hall : ∀ r : Fin 52, PdtchBlock ((r.val / 4 + 1) * 4 + (r.val / 4 + 1) / 3) := by
    simp only [pdtchBlock_iff]
    decide
  have hoffset := pdtchBlock_iff.mp (hall ⟨fn % 52, Nat.mod_lt fn (by decide)⟩)
  rw [fNextPdtchBlock, pdtchBlock_sum, pdtchBlock_iff, fn2bn]
  generalize (fn % 52 / 4 + 1) * 4 + (fn % 52 / 4 + 1) / 3 = offset at hoffset ⊢
  omega

-- ── The next block of PTCCH/D ────────────────────────────────────────────────

/-- The first burst of a block of PTCCH/D; the others follow after 26, 52 and 78
    frames. -/
def PtcchDlBlock (fn : Nat) : Prop := fn % 104 = 12

/-- How far it is to the next one. -/
def ptcchGap (fn : Nat) : Nat := if fn % 104 < 12 then 12 - fn % 104 else 116 - fn % 104

theorem ptcchGap_cases (fn : Nat) :
    (fn % 104 < 12 ∧ fn % 104 + ptcchGap fn = 12)
    ∨ (12 ≤ fn % 104 ∧ fn % 104 + ptcchGap fn = 116) := by
  rw [ptcchGap]
  by_cases h : fn % 104 < 12
  · rw [if_pos h]
    exact Or.inl ⟨h, by omega⟩
  · rw [if_neg h]
    exact Or.inr ⟨by omega, by omega⟩

theorem isNext_ptcch {fn next : Nat} :
    IsNext PtcchDlBlock fn next ↔ next = fGsmFnSum fn (ptcchGap fn) := by
  have hcases := ptcchGap_cases fn
  refine isNext_iff (by omega) ?_ ?_
  · rw [PtcchDlBlock, fGsmFnSum_mod (by decide)]
    omega
  · intro j hpos hj
    rw [PtcchDlBlock, fGsmFnSum_mod (by decide)]
    omega

/-- In front of the first burst of its own 104 frames the code leaves this one
    out. -/
theorem fNextPtcchDlBlock_next {fn : Nat} :
    IsNext PtcchDlBlock fn (fNextPtcchDlBlock fn) ↔ 12 ≤ fn % 104 := by
  have hcases := ptcchGap_cases fn
  have hmax : gsmMaxFrameNumber = 2715648 := rfl
  rw [isNext_ptcch, fNextPtcchDlBlock, ptcchFn2bn]
  rw [fGsmFnSum_inj (by rw [hmax]; omega) (by rw [hmax]; omega)]
  omega

theorem fNextPtcchDlBlock_block (fn : Nat) : PtcchDlBlock (fNextPtcchDlBlock fn) := by
  rw [fNextPtcchDlBlock, PtcchDlBlock, fGsmFnSum_mod (by decide), ptcchFn2bn]
  omega

-- ── Sub-slots of PTCCH/U ─────────────────────────────────────────────────────

/-- The sixteen cases are one. -/
theorem fTdmaPtcchFn2ss_eq (fn : Nat) :
    fTdmaPtcchFn2ss fn = if fn % 26 = 12 then ((fn % 416 / 26 : Nat) : Int) else -1 := by
  by_cases h : fn % 26 = 12
  · rw [if_pos h]
    have hslots : ∀ i : Fin 16, fTdmaPtcchFn2ss (26 * i.val + 12) = i.val := by decide
    have hslot : fTdmaPtcchFn2ss (26 * (fn % 416 / 26) + 12) = (fn % 416 / 26 : Nat) :=
      hslots ⟨fn % 416 / 26, by omega⟩
    have hfn : 26 * (fn % 416 / 26) + 12 = fn % 416 := by omega
    rw [hfn, fTdmaPtcchFn2ss, Nat.mod_mod] at hslot
    exact hslot
  · rw [if_neg h, fTdmaPtcchFn2ss]
    split
    case h_17 => rfl
    all_goals omega

/-- The clock of the PCU tests tells of a burst in every 26th frame. -/
theorem ptcchUlBurst_iff (fn : Nat) :
    ⟨.ptcchUlBurst, fn⟩ ∈ clckEvents fn ↔ fn % 26 = 12 := by
  rw [clckEvents]
  by_cases hbegin : isBlockBegin fn = true
  · rw [if_pos hbegin]
    rw [isBlockBegin, decide_eq_true_eq] at hbegin
    refine iff_of_false ?_ (by omega)
    intro h
    cases List.mem_singleton.mp h
  · rw [if_neg hbegin]
    by_cases hend : isBlockEnd fn = true
    · rw [if_pos hend]
      rw [isBlockEnd, decide_eq_true_eq] at hend
      refine iff_of_false ?_ (by omega)
      intro h
      cases List.mem_singleton.mp h
    · rw [if_neg hend]
      by_cases hburst : fn % 52 = 12 ∨ fn % 52 = 38
      · rw [if_pos hburst]
        refine iff_of_true ?_ (by omega)
        split
        · exact List.mem_cons_of_mem _ List.mem_cons_self
        · exact List.mem_cons_self
      · rw [if_neg hburst]
        exact iff_of_false List.not_mem_nil (by omega)

-- ── The starting time of a TBF ───────────────────────────────────────────────

/-- What is sent for a frame number (TS 44.018). -/
def startingTimeOf (fn : Nat) : TbfStartingTime where
  t1 := Fin.ofNat 32 (fn / 1326)
  t3 := Fin.ofNat 64 (fn % 51)
  t2 := Fin.ofNat 32 (fn % 26)

/-- The residue modulo 51 less the one modulo 26 tells how often 51 goes into a
    number, as 51 is one less than twice 26. -/
theorem quotient_of_residues {b : Nat} (h : b < 1326) :
    ((b % 51 : Nat) - (b % 26 : Nat) : Int) % 26 = (b / 51 : Nat) := by
  omega

/-- The residues tell the frame number modulo 42432. -/
theorem fTbfStartingTime_of (fn : Nat) :
    fTbfStartingTime2FnMod42432 (startingTimeOf fn) = (fn % 42432 : Nat) := by
  have h1 : (startingTimeOf fn).t1.val = fn / 1326 % 32 := rfl
  have h3 : (startingTimeOf fn).t3.val = fn % 51 := by
    show fn % 51 % 64 = fn % 51
    omega
  have h2 : (startingTimeOf fn).t2.val = fn % 26 := by
    show fn % 26 % 32 = fn % 26
    omega
  have h51 : fn % 51 = fn % 1326 % 51 := (Nat.mod_mod_of_dvd fn (by decide)).symm
  have h26 : fn % 26 = fn % 1326 % 26 := (Nat.mod_mod_of_dvd fn (by decide)).symm
  have hsplit : fn % 42432 = fn % 1326 + 1326 * (fn / 1326 % 32) := by omega
  rw [fTbfStartingTime2FnMod42432, h1, h2, h3, h51, h26,
    quotient_of_residues (Nat.mod_lt fn (by decide)), hsplit]
  omega

/-- Both residues are. -/
def TbfStartingTime.Valid (st : TbfStartingTime) : Prop := st.t3.val < 51 ∧ st.t2.val < 26

theorem valid_startingTimeOf (fn : Nat) : (startingTimeOf fn).Valid := by
  have h3 : (startingTimeOf fn).t3.val = fn % 51 % 64 := rfl
  have h2 : (startingTimeOf fn).t2.val = fn % 26 % 32 := rfl
  rw [TbfStartingTime.Valid, h3, h2]
  omega

/-- Every starting time with residues is that of a frame number. -/
theorem startingTimeOf_fTbf {st : TbfStartingTime} (h : st.Valid) :
    startingTimeOf (fTbfStartingTime2FnMod42432 st).toNat = st := by
  obtain ⟨h3, h2⟩ := h
  have h1 := st.t1.isLt
  have hfn : ∃ fn : Nat, fTbfStartingTime2FnMod42432 st = fn ∧ fn / 1326 = st.t1.val
      ∧ fn % 51 = st.t3.val ∧ fn % 26 = st.t2.val := by
    refine ⟨(fTbfStartingTime2FnMod42432 st).toNat, ?_⟩
    rw [fTbfStartingTime2FnMod42432]
    omega
  obtain ⟨fn, heq, hfn1, hfn3, hfn2⟩ := hfn
  rw [heq, Int.toNat_natCast, startingTimeOf, hfn1, hfn2, hfn3]
  rcases st with ⟨t1, t3, t2⟩
  congr
  · exact Fin.ofNat_val_eq_self t1
  · exact Fin.ofNat_val_eq_self t3
  · exact Fin.ofNat_val_eq_self t2

-- ── Results ──────────────────────────────────────────────────────────────────

/-- **THE NEXT BLOCK**: what is computed is the beginning of a block, of PDTCH or
    of PTCCH/D.  It is the next one of PDTCH exactly where the frame is in a
    block and the idle frames before it are not more than the frames that are
    left of the block behind it, so at every first frame; and the next one of
    PTCCH/D but in the 12 frames in front of it.  A frame has a sub-slot of
    PTCCH/U exactly if the clock tells of a burst in it. -/
theorem next_blocks (fn : Nat) :
    PdtchBlock (fNextPdtchBlock fn)
    ∧ (IsNext PdtchBlock fn (fNextPdtchBlock fn)
        ↔ fn % 13 ≠ 12 ∧ fn % 13 % 4 + fn % 52 / 13 < 4)
    ∧ (PdtchBlock fn → IsNext PdtchBlock fn (fNextPdtchBlock fn))
    ∧ PtcchDlBlock (fNextPtcchDlBlock fn)
    ∧ (IsNext PtcchDlBlock fn (fNextPtcchDlBlock fn) ↔ 12 ≤ fn % 104)
    ∧ (fTdmaPtcchFn2ss fn ≠ -1 ↔ ⟨.ptcchUlBurst, fn⟩ ∈ clckEvents fn) := by
  refine ⟨fNextPdtchBlock_block fn, fNextPdtchBlock_next, fun h => ?_,
    fNextPtcchDlBlock_block fn, fNextPtcchDlBlock_next, ?_⟩
  · rw [pdtchBlock_iff] at h
    rw [fNextPdtchBlock_next]
    omega
  · rw [ptcchUlBurst_iff, fTdmaPtcchFn2ss_eq]
    by_cases hburst : fn % 26 = 12
    · rw [if_pos hburst]
      exact iff_of_true (by omega) hburst
    · rw [if_neg hburst]
      exact iff_of_false (not_not_intro rfl) hburst

-- from the idle frame 12 the code goes to 17, but a block begins at 13
example : fNextPdtchBlock 12 = 17 ∧ isBlockBegin 13 = true := by decide

/-- **THE STARTING TIME**: of a frame number it is the number modulo 42432, and
    one that is received is that of a frame number exactly if its residues are
    below 51 and 26. -/
theorem starting_time :
    (∀ fn, fTbfStartingTime2FnMod42432 (startingTimeOf fn) = (fn % 42432 : Nat))
    ∧ ∀ st, startingTimeOf (fTbfStartingTime2FnMod42432 st).toNat = st ↔ st.Valid := by
  refine ⟨fTbfStartingTime_of, fun st => ⟨fun h => ?_, startingTimeOf_fTbf⟩⟩
  rw [← h]
  exact valid_startingTimeOf _

end OsmoTdma
