import OsmoTtcn.ReflectedCrcProofs

/-! # The frame check sequence of LLC

    `f_LLC_compute_fcs` takes an octet at a time through a table of 256 words.
    The table holds the register after eight zero bits (`tblCrc24_eq`), so the
    walk is the bit-serial CRC-24 with the generator 0xAD85DD, and the frame it
    makes is a codeword.

    No change of up to 24 consecutive bits of a frame goes undetected:
    `fLlcComputeFcs_detects`. -/

namespace OsmoLlcFcs

open ReflectedCrc

-- ── The table walk ───────────────────────────────────────────────────────────

/-- CRC24 table - FCS -/
def tblCrc24 : Array UInt32 :=
  #[0x00000000, 0x00d6a776, 0x00f64557, 0x0020e221, 0x00b78115, 0x00612663, 0x0041c442, 0x00976334,
    0x00340991, 0x00e2aee7, 0x00c24cc6, 0x0014ebb0, 0x00838884, 0x00552ff2, 0x0075cdd3, 0x00a36aa5,
    0x00681322, 0x00beb454, 0x009e5675, 0x0048f103, 0x00df9237, 0x00093541, 0x0029d760, 0x00ff7016,
    0x005c1ab3, 0x008abdc5, 0x00aa5fe4, 0x007cf892, 0x00eb9ba6, 0x003d3cd0, 0x001ddef1, 0x00cb7987,
    0x00d02644, 0x00068132, 0x00266313, 0x00f0c465, 0x0067a751, 0x00b10027, 0x0091e206, 0x00474570,
    0x00e42fd5, 0x003288a3, 0x00126a82, 0x00c4cdf4, 0x0053aec0, 0x008509b6, 0x00a5eb97, 0x00734ce1,
    0x00b83566, 0x006e9210, 0x004e7031, 0x0098d747, 0x000fb473, 0x00d91305, 0x00f9f124, 0x002f5652,
    0x008c3cf7, 0x005a9b81, 0x007a79a0, 0x00acded6, 0x003bbde2, 0x00ed1a94, 0x00cdf8b5, 0x001b5fc3,
    0x00fb4733, 0x002de045, 0x000d0264, 0x00dba512, 0x004cc626, 0x009a6150, 0x00ba8371, 0x006c2407,
    0x00cf4ea2, 0x0019e9d4, 0x00390bf5, 0x00efac83, 0x0078cfb7, 0x00ae68c1, 0x008e8ae0, 0x00582d96,
    0x00935411, 0x0045f367, 0x00651146, 0x00b3b630, 0x0024d504, 0x00f27272, 0x00d29053, 0x00043725,
    0x00a75d80, 0x0071faf6, 0x005118d7, 0x0087bfa1, 0x0010dc95, 0x00c67be3, 0x00e699c2, 0x00303eb4,
    0x002b6177, 0x00fdc601, 0x00dd2420, 0x000b8356, 0x009ce062, 0x004a4714, 0x006aa535, 0x00bc0243,
    0x001f68e6, 0x00c9cf90, 0x00e92db1, 0x003f8ac7, 0x00a8e9f3, 0x007e4e85, 0x005eaca4, 0x00880bd2,
    0x00437255, 0x0095d523, 0x00b53702, 0x00639074, 0x00f4f340, 0x00225436, 0x0002b617, 0x00d41161,
    0x00777bc4, 0x00a1dcb2, 0x00813e93, 0x005799e5, 0x00c0fad1, 0x00165da7, 0x0036bf86, 0x00e018f0,
    0x00ad85dd, 0x007b22ab, 0x005bc08a, 0x008d67fc, 0x001a04c8, 0x00cca3be, 0x00ec419f, 0x003ae6e9,
    0x00998c4c, 0x004f2b3a, 0x006fc91b, 0x00b96e6d, 0x002e0d59, 0x00f8aa2f, 0x00d8480e, 0x000eef78,
    0x00c596ff, 0x00133189, 0x0033d3a8, 0x00e574de, 0x007217ea, 0x00a4b09c, 0x008452bd, 0x0052f5cb,
    0x00f19f6e, 0x00273818, 0x0007da39, 0x00d17d4f, 0x00461e7b, 0x0090b90d, 0x00b05b2c, 0x0066fc5a,
    0x007da399, 0x00ab04ef, 0x008be6ce, 0x005d41b8, 0x00ca228c, 0x001c85fa, 0x003c67db, 0x00eac0ad,
    0x0049aa08, 0x009f0d7e, 0x00bfef5f, 0x00694829, 0x00fe2b1d, 0x00288c6b, 0x00086e4a, 0x00dec93c,
    0x0015b0bb, 0x00c317cd, 0x00e3f5ec, 0x0035529a, 0x00a231ae, 0x007496d8, 0x005474f9, 0x0082d38f,
    0x0021b92a, 0x00f71e5c, 0x00d7fc7d, 0x00015b0b, 0x0096383f, 0x00409f49, 0x00607d68, 0x00b6da1e,
    0x0056c2ee, 0x00806598, 0x00a087b9, 0x007620cf, 0x00e143fb, 0x0037e48d, 0x001706ac, 0x00c1a1da,
    0x0062cb7f, 0x00b46c09, 0x00948e28, 0x0042295e, 0x00d54a6a, 0x0003ed1c, 0x00230f3d, 0x00f5a84b,
    0x003ed1cc, 0x00e876ba, 0x00c8949b, 0x001e33ed, 0x008950d9, 0x005ff7af, 0x007f158e, 0x00a9b2f8,
    0x000ad85d, 0x00dc7f2b, 0x00fc9d0a, 0x002a3a7c, 0x00bd5948, 0x006bfe3e, 0x004b1c1f, 0x009dbb69,
    0x0086e4aa, 0x005043dc, 0x0070a1fd, 0x00a6068b, 0x003165bf, 0x00e7c2c9, 0x00c720e8, 0x0011879e,
    0x00b2ed3b, 0x00644a4d, 0x0044a86c, 0x00920f1a, 0x00056c2e, 0x00d3cb58, 0x00f32979, 0x00258e0f,
    0x00eef788, 0x003850fe, 0x0018b2df, 0x00ce15a9, 0x0059769d, 0x008fd1eb, 0x00af33ca, 0x007994bc,
    0x00dafe19, 0x000c596f, 0x002cbb4e, 0x00fa1c38, 0x006d7f0c, 0x00bbd87a, 0x009b3a5b, 0x004d9d2d]

/-- `INIT_CRC24` -/
def initCrc24 : UInt32 := 0xffffff

/-- One octet at a time. -/
def crc24Calc (fcs : UInt32) (cp : List UInt8) : UInt32 :=
  cp.foldl (fun fcs o =>
    (fcs >>> 8) ^^^ tblCrc24.getD ((fcs ^^^ o.toUInt32) &&& 0xff).toNat 0) fcs

/-- `f_LLC_compute_fcs` -/
def fLlcComputeFcs (data : List UInt8) : List UInt8 :=
  let fcsCalc := crc24Calc initCrc24 data
  let fcsCalc := ~~~ fcsCalc
  let fcsCalc := fcsCalc &&& 0xffffff
  [(fcsCalc &&& 0xff).toUInt8, ((fcsCalc >>> 8) &&& 0xff).toUInt8,
    ((fcsCalc >>> 16) &&& 0xff).toUInt8]

-- ── The CRC-24, a bit at a time ──────────────────────────────────────────────

/-- The reflected generator. -/
def crc24Poly : BitVec 24 := 0xAD85DD

example : tblCrc24.getD 128 0 = 0x00ad85dd := by decide +kernel

/-- Octets in the order of transmission, the lowest bit of each first. -/
def txBits (octets : List UInt8) : List Bool := octets.flatMap (fun o => lowBits 8 o.toBitVec)

/-- The CRC-24: from all ones, complemented. -/
def crc24 (data : List UInt8) : BitVec 24 :=
  ~~~ run crc24Poly (BitVec.allOnes 24) (txBits data)

/-- The least significant octet first. -/
def fcsOctets (fcs : BitVec 24) : List UInt8 :=
  [⟨fcs.setWidth 8⟩, ⟨(fcs >>> 8).setWidth 8⟩, ⟨(fcs >>> 16).setWidth 8⟩]

/-- **THE TABLE** holds the remainders of all octets. -/
theorem tblCrc24_toList : tblCrc24.toList.map UInt32.toBitVec
    = (List.range 256).map (fun i =>
      (run crc24Poly (BitVec.ofNat 24 i) (lowBits 8 0#24)).setWidth 32) := by
  decide +kernel

/-- **THE TABLE** holds what eight zero bits make of a register. -/
theorem tblCrc24_eq {i : Nat} (hi : i < 256) : (tblCrc24.getD i 0).toBitVec
    = (run crc24Poly (BitVec.ofNat 24 i) (lowBits 8 0#24)).setWidth 32 := by
  have hat := congrArg (·[i]?) tblCrc24_toList
  simp only [List.getElem?_map, List.getElem?_range hi, Option.map_some] at hat
  obtain ⟨word, hword, heq⟩ := Option.map_eq_some_iff.mp hat
  rw [Array.getElem?_toList] at hword
  rw [Array.getD_eq_getD_getElem?, hword]
  exact heq

/-- The word of the table that is taken. -/
theorem crc24_index (reg : BitVec 24) (o : UInt8) {fcs : UInt32}
    (hfcs : fcs.toBitVec = reg.setWidth 32) :
    ((fcs ^^^ o.toUInt32) &&& 0xff).toNat = (reg.setWidth 8 ^^^ o.toBitVec).toNat := by
  have hlow : (fcs ^^^ o.toUInt32).toBitVec.setWidth 8 = reg.setWidth 8 ^^^ o.toBitVec := by
    rw [UInt32.toBitVec_xor, hfcs, UInt8.toBitVec_toUInt32, BitVec.setWidth_xor,
        BitVec.setWidth_setWidth_of_le _ (by decide), BitVec.setWidth_setWidth_of_le _ (by decide),
        BitVec.setWidth_eq]
  rw [← hlow, BitVec.toNat_setWidth, UInt32.toNat_and]
  exact Nat.and_two_pow_sub_one_eq_mod _ 8

/-- A shift within 32 bits. -/
theorem toBitVec_shiftRight {reg : BitVec 24} {fcs : UInt32} (hfcs : fcs.toBitVec = reg.setWidth 32)
    {n : UInt32} (hn : n.toNat < 32) :
    (fcs >>> n).toBitVec = (reg >>> n.toNat).setWidth 32 := by
  have hmod : (n.toBitVec % 32#32).toNat = n.toNat := Nat.mod_eq_of_lt hn
  rw [BitVec.setWidth_ushiftRight (by decide), ← hfcs, ← hmod]
  exact UInt32.toBitVec_shiftRight fcs n

/-- **ONE OCTET** through the table is its eight bits through the register. -/
theorem crc24_octet (reg : BitVec 24) (o : UInt8) {fcs : UInt32}
    (hfcs : fcs.toBitVec = reg.setWidth 32) :
    ((fcs >>> 8) ^^^ tblCrc24.getD ((fcs ^^^ o.toUInt32) &&& 0xff).toNat 0).toBitVec
      = (run crc24Poly reg (lowBits 8 o.toBitVec)).setWidth 32 := by
  obtain ⟨x, hx⟩ : ∃ x, x = reg.setWidth 8 ^^^ o.toBitVec := ⟨_, rfl⟩
  have hlow : lowBits 8 (x.setWidth 24) = xorBits (lowBits 8 reg) (lowBits 8 o.toBitVec) := by
    rw [lowBits_setWidth _ (by decide), hx, lowBits_xor, lowBits_setWidth _ (Nat.le_refl 8)]
  have hhigh : x.setWidth 24 >>> 8 = 0#24 := by
    have hlt := x.isLt
    refine BitVec.eq_of_toNat_eq ?_
    rw [BitVec.toNat_ushiftRight, Nat.shiftRight_eq_div_pow, BitVec.toNat_setWidth,
        BitVec.toNat_ofNat]
    omega
  have hshift : (fcs >>> 8).toBitVec = (reg >>> 8).setWidth 32 :=
    toBitVec_shiftRight hfcs (by decide)
  rw [run_chunk hlow (lowBits_length 8 _) hhigh, UInt32.toBitVec_xor, crc24_index reg o hfcs, ← hx,
      tblCrc24_eq x.isLt, hshift, BitVec.ofNat_toNat, BitVec.setWidth_xor]

/-- **THE WALK** is the bits of all octets through the register. -/
theorem crc24Calc_eq : ∀ (data : List UInt8) {reg : BitVec 24} {fcs : UInt32},
    fcs.toBitVec = reg.setWidth 32 →
    (crc24Calc fcs data).toBitVec = (run crc24Poly reg (txBits data)).setWidth 32 := by
  intro data
  induction data with
  | nil => exact fun h => h
  | cons o data ih =>
      intro reg fcs hfcs
      rw [txBits, List.flatMap_cons, run_append]
      exact ih (crc24_octet reg o hfcs)

/-- The complement of a register, in 32 bits. -/
theorem complement_mask (reg : BitVec 24) :
    ~~~ reg.setWidth 32 &&& 0xffffff#32 = (~~~ reg).setWidth 32 := by
  refine BitVec.eq_of_getLsbD_eq (fun i hi => ?_)
  have hmask : (0xffffff#32).getLsbD i = decide (i < 24) := Nat.testBit_two_pow_sub_one 24 i
  rw [BitVec.getLsbD_and, hmask, BitVec.getLsbD_not, BitVec.getLsbD_setWidth,
      BitVec.getLsbD_setWidth, BitVec.getLsbD_not, decide_eq_true hi]
  cases decide (i < 24) <;> cases reg.getLsbD i <;> rfl

/-- The low octet of a register. -/
theorem toUInt8_mask {fcs : UInt32} {reg : BitVec 24} (h : fcs.toBitVec = reg.setWidth 32) :
    (fcs &&& 0xff).toUInt8 = ⟨reg.setWidth 8⟩ := by
  refine UInt8.toBitVec_inj.mp (BitVec.eq_of_getLsbD_eq (fun i hi => ?_))
  have hmask : (0xff#32).getLsbD i = decide (i < 8) := Nat.testBit_two_pow_sub_one 8 i
  rw [UInt32.toBitVec_toUInt8, UInt32.toBitVec_and, h]
  show ((reg.setWidth 32 &&& 0xff#32).setWidth 8).getLsbD i = (reg.setWidth 8).getLsbD i
  rw [BitVec.getLsbD_setWidth, BitVec.getLsbD_and, hmask, BitVec.getLsbD_setWidth,
      BitVec.getLsbD_setWidth, decide_eq_true hi, decide_eq_true (by omega), Bool.and_true,
      Bool.true_and]

/-- **THE FCS** is the bit-serial CRC-24. -/
theorem fLlcComputeFcs_eq (data : List UInt8) : fLlcComputeFcs data = fcsOctets (crc24 data) := by
  have hinit : initCrc24.toBitVec = (BitVec.allOnes 24).setWidth 32 := by decide
  obtain ⟨fcs, hfcs⟩ : ∃ fcs, fcs = ~~~ crc24Calc initCrc24 data &&& 0xffffff := ⟨_, rfl⟩
  have hcalc : fcs.toBitVec = (crc24 data).setWidth 32 := by
    rw [hfcs, UInt32.toBitVec_and, UInt32.toBitVec_not, crc24Calc_eq data hinit]
    exact complement_mask _
  have hsplit : fLlcComputeFcs data = [(fcs &&& 0xff).toUInt8, ((fcs >>> 8) &&& 0xff).toUInt8,
      ((fcs >>> 16) &&& 0xff).toUInt8] := by
    rw [hfcs]
    rfl
  rw [hsplit, toUInt8_mask hcalc, toUInt8_mask (toBitVec_shiftRight hcalc (by decide)),
      toUInt8_mask (toBitVec_shiftRight hcalc (by decide))]
  rfl

-- ── Bursts ───────────────────────────────────────────────────────────────────

/-- A frame that is received with another information field or FCS than was
    sent, within 24 consecutive bits, has not the FCS that is computed. -/
def DetectsBursts (info : List UInt8) : Prop :=
  ∀ info' fcs', info'.length = info.length → fcs'.length = 3 →
    WithinBurst 24 (txBits (info ++ fLlcComputeFcs info)) (txBits (info' ++ fcs')) →
    info' ++ fcs' ≠ info ++ fLlcComputeFcs info → fLlcComputeFcs info' ≠ fcs'

/-- Octets are sent one after the other. -/
theorem txBits_append (a b : List UInt8) : txBits (a ++ b) = txBits a ++ txBits b :=
  List.flatMap_append

/-- A frame is a codeword. -/
theorem txBits_frame (info : List UInt8) : txBits (info ++ fLlcComputeFcs info)
    = codeword crc24Poly (BitVec.allOnes 24) (txBits info) := by
  have hfcs : ∀ fcs : BitVec 24, txBits (fcsOctets fcs) = lowBits 24 fcs := by
    intro fcs
    calc txBits (fcsOctets fcs)
        = lowBits 8 (fcs.setWidth 8) ++ (lowBits 8 ((fcs >>> 8).setWidth 8)
          ++ (lowBits 8 ((fcs >>> 16).setWidth 8) ++ [])) := rfl
      _ = lowBits 8 fcs ++ (lowBits 8 (fcs >>> 8) ++ lowBits 8 (fcs >>> 16)) := by
          rw [lowBits_setWidth _ (Nat.le_refl 8), lowBits_setWidth _ (Nat.le_refl 8),
              lowBits_setWidth _ (Nat.le_refl 8), List.append_nil]
      _ = lowBits 8 fcs ++ lowBits 16 (fcs >>> 8) := congrArg _ (lowBits_add 8 8 (fcs >>> 8)).symm
      _ = lowBits 24 fcs := (lowBits_add 8 16 fcs).symm
  rw [txBits_append, fLlcComputeFcs_eq, hfcs]
  rfl

/-- An octet is eight bits. -/
theorem txBits_length (octets : List UInt8) : (txBits octets).length = octets.length * 8 := by
  induction octets with
  | nil => rfl
  | cons o octets ih =>
      rw [txBits, List.flatMap_cons, List.length_append, lowBits_length, List.length_cons]
      show 8 + (txBits octets).length = _
      omega

/-- The bits make the octets. -/
theorem txBits_inj {a : List UInt8} : ∀ {b : List UInt8}, txBits a = txBits b → a = b := by
  induction a with
  | nil =>
      intro b h
      have hlen := congrArg List.length h
      rw [txBits_length, txBits_length, List.length_nil] at hlen
      exact (List.length_eq_zero_iff.mp (by omega)).symm
  | cons o a ih =>
      intro b h
      cases b with
      | nil =>
          have hlen := congrArg List.length h
          rw [txBits_length, txBits_length, List.length_cons, List.length_nil] at hlen
          omega
      | cons p b =>
          obtain ⟨hhead, htail⟩ := List.append_inj h
            ((lowBits_length 8 _).trans (lowBits_length 8 _).symm)
          rw [UInt8.toBitVec_inj.mp (lowBits_inj hhead), ih htail]

/-- **THE FCS OF LLC**: the table walk is the bit-serial CRC-24 for all octets,
    and a change within 24 consecutive bits of a frame is detected. -/
theorem fLlcComputeFcs_detects : (∀ data, fLlcComputeFcs data = fcsOctets (crc24 data))
    ∧ ∀ info, DetectsBursts info := by
  refine ⟨fLlcComputeFcs_eq, fun info info' fcs' hlen _ hburst hne hfcs => hne ?_⟩
  rw [← hfcs] at hburst ⊢
  rw [txBits_frame, txBits_frame] at hburst
  refine (txBits_inj ?_).symm
  rw [txBits_frame, txBits_frame]
  refine codeword_unique (by decide) ?_ hburst
  rw [txBits_length, txBits_length, hlen]

/-- An octet of the information field that is inverted. -/
theorem fLlcComputeFcs_detects_inverted :
    fLlcComputeFcs [0x01, 0x3f, 0x0b] ≠ fLlcComputeFcs [0x01, 0xc0, 0x0b] := by
  refine fLlcComputeFcs_detects.2 [0x01, 0xc0, 0x0b] [0x01, 0x3f, 0x0b]
    (fLlcComputeFcs [0x01, 0xc0, 0x0b]) rfl rfl ?_ (by decide)
  have hsplit : ∀ o : UInt8, txBits ([0x01, o, 0x0b] ++ fLlcComputeFcs [0x01, 0xc0, 0x0b])
      = txBits [0x01] ++ (txBits [o]
        ++ txBits (0x0b :: fLlcComputeFcs [0x01, 0xc0, 0x0b])) := by
    intro o
    rw [← txBits_append, ← txBits_append]
    rfl
  rw [hsplit, hsplit]
  exact withinBurst_append rfl (by decide)

end OsmoLlcFcs
