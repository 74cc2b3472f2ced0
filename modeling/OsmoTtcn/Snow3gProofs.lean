import OsmoTtcn.TitanProofs

/-! # SNOW 3G and the wrapper for f8

    SNOW 3G has a shift register of sixteen words and a machine of three; its
    key stream is a word for every clock.  `snow_3g_f8` puts the first words of
    the key stream over the data, for a length in bits, and clears the bits
    behind the length.

    The wrapper `f_snow_3g_f8` passes the length in octets.  So of `n` octets
    only the first `n` bits, filled up to whole words, are ciphered, and where
    `n` is no multiple of eight bits in the middle are cleared
    (`snow3gF8_eq`).  `snow3gF8_right_iff` says for which data this is the
    exclusive or with the key stream all the same. -/

namespace OsmoSnow3g

open OsmoTitan

-- ── The tables ───────────────────────────────────────────────────────────────

/-- Rijndael S-box SR -/
def sr : Array UInt8 :=
  #[0x63, 0x7c, 0x77, 0x7b, 0xf2, 0x6b, 0x6f, 0xc5, 0x30, 0x01, 0x67, 0x2b, 0xfe, 0xd7, 0xab, 0x76,
    0xca, 0x82, 0xc9, 0x7d, 0xfa, 0x59, 0x47, 0xf0, 0xad, 0xd4, 0xa2, 0xaf, 0x9c, 0xa4, 0x72, 0xc0,
    0xb7, 0xfd, 0x93, 0x26, 0x36, 0x3f, 0xf7, 0xcc, 0x34, 0xa5, 0xe5, 0xf1, 0x71, 0xd8, 0x31, 0x15,
    0x04, 0xc7, 0x23, 0xc3, 0x18, 0x96, 0x05, 0x9a, 0x07, 0x12, 0x80, 0xe2, 0xeb, 0x27, 0xb2, 0x75,
    0x09, 0x83, 0x2c, 0x1a, 0x1b, 0x6e, 0x5a, 0xa0, 0x52, 0x3b, 0xd6, 0xb3, 0x29, 0xe3, 0x2f, 0x84,
    0x53, 0xd1, 0x00, 0xed, 0x20, 0xfc, 0xb1, 0x5b, 0x6a, 0xcb, 0xbe, 0x39, 0x4a, 0x4c, 0x58, 0xcf,
    0xd0, 0xef, 0xaa, 0xfb, 0x43, 0x4d, 0x33, 0x85, 0x45, 0xf9, 0x02, 0x7f, 0x50, 0x3c, 0x9f, 0xa8,
    0x51, 0xa3, 0x40, 0x8f, 0x92, 0x9d, 0x38, 0xf5, 0xbc, 0xb6, 0xda, 0x21, 0x10, 0xff, 0xf3, 0xd2,
    0xcd, 0x0c, 0x13, 0xec, 0x5f, 0x97, 0x44, 0x17, 0xc4, 0xa7, 0x7e, 0x3d, 0x64, 0x5d, 0x19, 0x73,
    0x60, 0x81, 0x4f, 0xdc, 0x22, 0x2a, 0x90, 0x88, 0x46, 0xee, 0xb8, 0x14, 0xde, 0x5e, 0x0b, 0xdb,
    0xe0, 0x32, 0x3a, 0x0a, 0x49, 0x06, 0x24, 0x5c, 0xc2, 0xd3, 0xac, 0x62, 0x91, 0x95, 0xe4, 0x79,
    0xe7, 0xc8, 0x37, 0x6d, 0x8d, 0xd5, 0x4e, 0xa9, 0x6c, 0x56, 0xf4, 0xea, 0x65, 0x7a, 0xae, 0x08,
    0xba, 0x78, 0x25, 0x2e, 0x1c, 0xa6, 0xb4, 0xc6, 0xe8, 0xdd, 0x74, 0x1f, 0x4b, 0xbd, 0x8b, 0x8a,
    0x70, 0x3e, 0xb5, 0x66, 0x48, 0x03, 0xf6, 0x0e, 0x61, 0x35, 0x57, 0xb9, 0x86, 0xc1, 0x1d, 0x9e,
    0xe1, 0xf8, 0x98, 0x11, 0x69, 0xd9, 0x8e, 0x94, 0x9b, 0x1e, 0x87, 0xe9, 0xce, 0x55, 0x28, 0xdf,
    0x8c, 0xa1, 0x89, 0x0d, 0xbf, 0xe6, 0x42, 0x68, 0x41, 0x99, 0x2d, 0x0f, 0xb0, 0x54, 0xbb, 0x16]

/-- S-box SQ -/
def sq : Array UInt8 :=
  #[0x25, 0x24, 0x73, 0x67, 0xd7, 0xae, 0x5c, 0x30, 0xa4, 0xee, 0x6e, 0xcb, 0x7d, 0xb5, 0x82, 0xdb,
    0xe4, 0x8e, 0x48, 0x49, 0x4f, 0x5d, 0x6a, 0x78, 0x70, 0x88, 0xe8, 0x5f, 0x5e, 0x84, 0x65, 0xe2,
    0xd8, 0xe9, 0xcc, 0xed, 0x40, 0x2f, 0x11, 0x28, 0x57, 0xd2, 0xac, 0xe3, 0x4a, 0x15, 0x1b, 0xb9,
    0xb2, 0x80, 0x85, 0xa6, 0x2e, 0x02, 0x47, 0x29, 0x07, 0x4b, 0x0e, 0xc1, 0x51, 0xaa, 0x89, 0xd4,
    0xca, 0x01, 0x46, 0xb3, 0xef, 0xdd, 0x44, 0x7b, 0xc2, 0x7f, 0xbe, 0xc3, 0x9f, 0x20, 0x4c, 0x64,
    0x83, 0xa2, 0x68, 0x42, 0x13, 0xb4, 0x41, 0xcd, 0xba, 0xc6, 0xbb, 0x6d, 0x4d, 0x71, 0x21, 0xf4,
    0x8d, 0xb0, 0xe5, 0x93, 0xfe, 0x8f, 0xe6, 0xcf, 0x43, 0x45, 0x31, 0x22, 0x37, 0x36, 0x96, 0xfa,
    0xbc, 0x0f, 0x08, 0x52, 0x1d, 0x55, 0x1a, 0xc5, 0x4e, 0x23, 0x69, 0x7a, 0x92, 0xff, 0x5b, 0x5a,
    0xeb, 0x9a, 0x1c, 0xa9, 0xd1, 0x7e, 0x0d, 0xfc, 0x50, 0x8a, 0xb6, 0x62, 0xf5, 0x0a, 0xf8, 0xdc,
    0x03, 0x3c, 0x0c, 0x39, 0xf1, 0xb8, 0xf3, 0x3d, 0xf2, 0xd5, 0x97, 0x66, 0x81, 0x32, 0xa0, 0x00,
    0x06, 0xce, 0xf6, 0xea, 0xb7, 0x17, 0xf7, 0x8c, 0x79, 0xd6, 0xa7, 0xbf, 0x8b, 0x3f, 0x1f, 0x53,
    0x63, 0x75, 0x35, 0x2c, 0x60, 0xfd, 0x27, 0xd3, 0x94, 0xa5, 0x7c, 0xa1, 0x05, 0x58, 0x2d, 0xbd,
    0xd9, 0xc7, 0xaf, 0x6b, 0x54, 0x0b, 0xe0, 0x38, 0x04, 0xc8, 0x9d, 0xe7, 0x14, 0xb1, 0x87, 0x9c,
    0xdf, 0x6f, 0xf9, 0xda, 0x2a, 0xc4, 0x59, 0x16, 0x74, 0x91, 0xab, 0x26, 0x61, 0x76, 0x34, 0x2b,
    0xad, 0x99, 0xfb, 0x72, 0xec, 0x33, 0x12, 0xde, 0x98, 0x3b, 0xc0, 0x9b, 0x3e, 0x18, 0x10, 0x3a,
    0x56, 0xe1, 0x77, 0xc9, 0x1e, 0x9e, 0x95, 0xa3, 0x90, 0x19, 0xa8, 0x6c, 0x09, 0xd0, 0xf0, 0x86]

/-- `box[o]` -/
def look (box : Array UInt8) (o : UInt8) : UInt8 := box.getD o.toNat 0

-- ── Words ────────────────────────────────────────────────────────────────────

/-- `MULx` -/
def mulx (v c : UInt8) : UInt8 := if v &&& 0x80 ≠ 0 then v <<< 1 ^^^ c else v <<< 1

/-- `MULxPOW` -/
def mulxPow (v : UInt8) : (i : Nat) → (c : UInt8) → UInt8
  | 0, _ => v
  | i + 1, c => mulx (mulxPow v i c) c

/-- Octets as a word, most significant first. -/
def word (o0 o1 o2 o3 : UInt8) : UInt32 :=
  o0.toUInt32 <<< 24 ||| o1.toUInt32 <<< 16 ||| o2.toUInt32 <<< 8 ||| o3.toUInt32

/-- The octet of a word behind `shift` bits. -/
def octetOf (w : UInt32) (shift : UInt32) : UInt8 := (w >>> shift &&& 0xff).toUInt8

/-- `MULalpha` -/
def mulAlpha (c : UInt8) : UInt32 :=
  word (mulxPow c 23 0xa9) (mulxPow c 245 0xa9) (mulxPow c 48 0xa9) (mulxPow c 239 0xa9)

/-- `DIValpha` -/
def divAlpha (c : UInt8) : UInt32 :=
  word (mulxPow c 16 0xa9) (mulxPow c 39 0xa9) (mulxPow c 6 0xa9) (mulxPow c 64 0xa9)

/-- Four octets through a box, and mixed. -/
def mixBox (box : Array UInt8) (c : UInt8) (w : UInt32) : UInt32 :=
  let w0 := look box (octetOf w 24)
  let w1 := look box (octetOf w 16)
  let w2 := look box (octetOf w 8)
  let w3 := look box (octetOf w 0)
  word (mulx w0 c ^^^ w1 ^^^ w2 ^^^ (mulx w3 c ^^^ w3))
    (mulx w0 c ^^^ w0 ^^^ mulx w1 c ^^^ w2 ^^^ w3)
    (w0 ^^^ (mulx w1 c ^^^ w1) ^^^ mulx w2 c ^^^ w3)
    (w0 ^^^ w1 ^^^ (mulx w2 c ^^^ w2) ^^^ mulx w3 c)

/-- `S1` -/
def s1 (w : UInt32) : UInt32 := mixBox sr 0x1b w

/-- `S2` -/
def s2 (w : UInt32) : UInt32 := mixBox sq 0x69 w

-- ── The cipher ───────────────────────────────────────────────────────────────

/-- `LFSR_S0` to `LFSR_S15` and `FSM_R1` to `FSM_R3` -/
structure Snow3g where
  lfsrS0 : UInt32
  lfsrS1 : UInt32
  lfsrS2 : UInt32
  lfsrS3 : UInt32
  lfsrS4 : UInt32
  lfsrS5 : UInt32
  lfsrS6 : UInt32
  lfsrS7 : UInt32
  lfsrS8 : UInt32
  lfsrS9 : UInt32
  lfsrS10 : UInt32
  lfsrS11 : UInt32
  lfsrS12 : UInt32
  lfsrS13 : UInt32
  lfsrS14 : UInt32
  lfsrS15 : UInt32
  fsmR1 : UInt32
  fsmR2 : UInt32
  fsmR3 : UInt32

/-- What both modes feed back. -/
def feedback (st : Snow3g) : UInt32 :=
  (st.lfsrS0 <<< 8 &&& (0xffffff00 : UInt32)) ^^^ mulAlpha (octetOf st.lfsrS0 24) ^^^ st.lfsrS2
    ^^^ (st.lfsrS11 >>> 8 &&& (0x00ffffff : UInt32)) ^^^ divAlpha (octetOf st.lfsrS11 0)

/-- Every register takes the next one, and the last one `v`. -/
def shift (st : Snow3g) (v : UInt32) : Snow3g :=
  { st with
    lfsrS0 := st.lfsrS1
    lfsrS1 := st.lfsrS2
    lfsrS2 := st.lfsrS3
    lfsrS3 := st.lfsrS4
    lfsrS4 := st.lfsrS5
    lfsrS5 := st.lfsrS6
    lfsrS6 := st.lfsrS7
    lfsrS7 := st.lfsrS8
    lfsrS8 := st.lfsrS9
    lfsrS9 := st.lfsrS10
    lfsrS10 := st.lfsrS11
    lfsrS11 := st.lfsrS12
    lfsrS12 := st.lfsrS13
    lfsrS13 := st.lfsrS14
    lfsrS14 := st.lfsrS15
    lfsrS15 := v }

/-- `ClockLFSRInitializationMode` -/
def clockLfsrInitializationMode (st : Snow3g) (f : UInt32) : Snow3g :=
  shift st (feedback st ^^^ f)

/-- `ClockLFSRKeyStreamMode` -/
def clockLfsrKeyStreamMode (st : Snow3g) : Snow3g := shift st (feedback st)

/-- `ClockFSM`: the word F and the registers. -/
def clockFsm (st : Snow3g) : UInt32 × Snow3g :=
  ((st.lfsrS15 + st.fsmR1) ^^^ st.fsmR2,
    { st with
      fsmR1 := st.fsmR2 + (st.fsmR3 ^^^ st.lfsrS5)
      fsmR2 := s1 st.fsmR1
      fsmR3 := s2 st.fsmR2 })

/-- The loop of `snow_3g_initialize`. -/
def initializeRounds : (rounds : Nat) → Snow3g → Snow3g
  | 0, st => st
  | rounds + 1, st =>
      let (f, st') := clockFsm st
      initializeRounds rounds (clockLfsrInitializationMode st' f)

/-- `snow_3g_initialize`; it sets every register. -/
def snow3gInitialize (k iv : Vector UInt32 4) : Snow3g :=
  initializeRounds 32
    { lfsrS0 := k[0] ^^^ 0xffffffff
      lfsrS1 := k[1] ^^^ 0xffffffff
      lfsrS2 := k[2] ^^^ 0xffffffff
      lfsrS3 := k[3] ^^^ 0xffffffff
      lfsrS4 := k[0]
      lfsrS5 := k[1]
      lfsrS6 := k[2]
      lfsrS7 := k[3]
      lfsrS8 := k[0] ^^^ 0xffffffff
      lfsrS9 := k[1] ^^^ (0xffffffff : UInt32) ^^^ iv[3]
      lfsrS10 := k[2] ^^^ (0xffffffff : UInt32) ^^^ iv[2]
      lfsrS11 := k[3] ^^^ 0xffffffff
      lfsrS12 := k[0] ^^^ iv[1]
      lfsrS13 := k[1]
      lfsrS14 := k[2]
      lfsrS15 := k[3] ^^^ iv[0]
      fsmR1 := 0
      fsmR2 := 0
      fsmR3 := 0 }

/-- The loop of `snow_3g_generate_key_stream`: `n` words. -/
def keyStreamLoop : (n : Nat) → Snow3g → List UInt32
  | 0, _ => []
  | n + 1, st =>
      let (f, st') := clockFsm st
      (f ^^^ st'.lfsrS0) :: keyStreamLoop n (clockLfsrKeyStreamMode st')

/-- `snow_3g_generate_key_stream`; the first word of the machine is discarded. -/
def snow3gGenerateKeyStream (n : Nat) (st : Snow3g) : List UInt32 :=
  keyStreamLoop n (clockLfsrKeyStreamMode (clockFsm st).2)

example : mulAlpha 0x01 = 0xe19fcf13 ∧ divAlpha 0x01 = 0x180f40cd := by decide +kernel

-- ── f8 ───────────────────────────────────────────────────────────────────────

/-- The octets from a pointer on. -/
abbrev Mem := Nat → UInt8

/-- `data[j] ^= o` -/
def xorOctet (data : Mem) (j : Nat) (o : UInt8) : Mem :=
  fun i => if i = j then data i ^^^ o else data i

/-- One round of the loop of `snow_3g_f8`. -/
def xorWord (data : Mem) (i : Nat) (z : UInt32) : Mem :=
  let data := xorOctet data (4 * i) (octetOf z 24)
  let data := xorOctet data (4 * i + 1) (octetOf z 16)
  let data := xorOctet data (4 * i + 2) (octetOf z 8)
  xorOctet data (4 * i + 3) (octetOf z 0)

/-- The rounds from `i` on. -/
def xorWords : List UInt32 → (i : Nat) → Mem → Mem
  | [], _, data => data
  | z :: zs, i, data => xorWords zs (i + 1) (xorWord data i z)

/-- How many bits of the last octet do not count. -/
def lastbits (length : UInt32) : UInt32 := (8 - length % 8) % 8

/-- `256 - (1 << lastbits)` -/
def lastMask (length : UInt32) : UInt8 := (256 - (1 : UInt32) <<< lastbits length).toUInt8

/-- zero last bits of data in case its length is not byte-aligned -/
def zeroLastBits (length : UInt32) (data : Mem) : Mem :=
  if lastbits length ≠ 0 then
    fun i => if i = (length / 8).toNat then data i &&& lastMask length else data i
  else data

/-- `K[3-i]`, from the octets of the key from `4*i` on. -/
def keyWord (key : Vector UInt8 16) (i : Nat) : UInt32 :=
  let o (j : Nat) : UInt32 := (key.toArray.getD j 0).toUInt32
  o (4 * i) <<< 24 ^^^ o (4 * i + 1) <<< 16 ^^^ o (4 * i + 2) <<< 8 ^^^ o (4 * i + 3)

/-- The cipher with key and initialization vector of f8. -/
def f8Start (key : Vector UInt8 16) (count bearer dir : UInt32) : Snow3g :=
  let iv2 := bearer <<< 27 ||| (dir &&& 0x1) <<< 26
  snow3gInitialize #v[keyWord key 3, keyWord key 2, keyWord key 1, keyWord key 0]
    #v[iv2, count, iv2, count]

/-- The number of words for a length in bits. -/
def f8Words (length : UInt32) : Nat := ((length + 31) / 32).toNat

/-- `snow_3g_f8` -/
def snow3gF8 (key : Vector UInt8 16) (count bearer dir : UInt32) (data : Mem)
    (length : UInt32) : Mem :=
  let ks := snow3gGenerateKeyStream (f8Words length) (f8Start key count bearer dir)
  zeroLastBits length (xorWords ks 0 data)

/-- The buffer of an octetstring, with what lies behind it. -/
def memOf (data : List UInt8) (beyond : Mem) : Mem :=
  fun i => match data[i]? with
    | some o => o
    | none => beyond (i - data.length)

/-- `f_snow_3g_f8`: the result, and what lies behind the buffer then. -/
def fSnow3gF8 (key : Vector UInt8 16) (count bearer : Int) (isDownlink : Bool)
    (data : List UInt8) (beyond : Mem) : Except Fault (List UInt8 × Mem) :=
  (cInt count).bind (fun c => (cInt bearer).bind (fun b =>
    let mem := snow3gF8 key c.toUInt32 b.toUInt32 (if isDownlink then 1 else 0)
      (memOf data beyond) (UInt32.ofNat data.length)
    .ok ((List.range data.length).map mem, fun i => mem (data.length + i))))

-- ── The key stream ───────────────────────────────────────────────────────────

/-- Word `t` of the key stream from a state on, for any `t`. -/
def zWord : Snow3g → Nat → UInt32
  | st, 0 => (clockFsm st).1 ^^^ (clockFsm st).2.lfsrS0
  | st, t + 1 => zWord (clockLfsrKeyStreamMode (clockFsm st).2) t

/-- The octets of a word, most significant first. -/
def octetAt (z : UInt32) : Nat → UInt8
  | 0 => octetOf z 24
  | 1 => octetOf z 16
  | 2 => octetOf z 8
  | _ => octetOf z 0

/-- **OCTET `j` OF THE KEY STREAM** of f8. -/
def keyStreamOctet (key : Vector UInt8 16) (count bearer dir : UInt32) (j : Nat) : UInt8 :=
  octetAt (zWord (clockLfsrKeyStreamMode (clockFsm (f8Start key count bearer dir)).2) (j / 4))
    (j % 4)

/-- The words of the key stream, one clocking after the other. -/
theorem keyStreamLoop_getElem? (n t : Nat) (st : Snow3g) (h : t < n) :
    (keyStreamLoop n st)[t]? = some (zWord st t) := by
  induction n generalizing t st with
  | zero => exact absurd h (Nat.not_lt_zero t)
  | succ n ih =>
      cases t with
      | zero => rfl
      | succ t => exact ih t _ (Nat.lt_of_succ_lt_succ h)

theorem keyStreamLoop_length (n : Nat) (st : Snow3g) : (keyStreamLoop n st).length = n := by
  induction n generalizing st with
  | zero => rfl
  | succ n ih =>
      show (keyStreamLoop n _).length + 1 = n + 1
      rw [ih]

-- ── What f8 does to the memory ───────────────────────────────────────────────

/-- One word of the key stream goes over four octets. -/
theorem xorWord_apply (data : Mem) (i : Nat) (z : UInt32) (j : Nat) :
    xorWord data i z j = if j / 4 = i then data j ^^^ octetAt z (j % 4) else data j := by
  by_cases h : j / 4 = i
  · rw [if_pos h]
    have hr : j % 4 = 0 ∨ j % 4 = 1 ∨ j % 4 = 2 ∨ j % 4 = 3 := by omega
    rcases hr with hr | hr | hr | hr
    all_goals
      simp only [xorWord, xorOctet, hr, octetAt]
      split_ifs
      all_goals first | rfl | omega
  · rw [if_neg h]
    simp only [xorWord, xorOctet]
    split_ifs
    all_goals first | rfl | omega

/-- The rounds from `i` on change the octets of their words, each once. -/
theorem xorWords_apply (zs : List UInt32) (i : Nat) (data : Mem) (j : Nat) :
    xorWords zs i data j
      = if i ≤ j / 4 then
          match zs[j / 4 - i]? with
          | some z => data j ^^^ octetAt z (j % 4)
          | none => data j
        else data j := by
  induction zs generalizing i data with
  | nil =>
      split_ifs
      · rfl
      · rfl
  | cons z zs ih =>
      rw [xorWords, ih, xorWord_apply]
      by_cases hhere : j / 4 = i
      · have hpast : ¬ i + 1 ≤ j / 4 := by omega
        have hfirst : j / 4 - i = 0 := by omega
        rw [if_neg hpast, if_pos hhere, if_pos (Nat.le_of_eq hhere.symm), hfirst]
        rfl
      · rw [if_neg hhere]
        by_cases hpast : i + 1 ≤ j / 4
        · obtain ⟨k, hk⟩ : ∃ k, j / 4 - i = k + 1 := ⟨j / 4 - i - 1, by omega⟩
          have hk' : j / 4 - (i + 1) = k := by omega
          rw [if_pos hpast, if_pos (by omega), hk, hk']
          rfl
        · rw [if_neg hpast, if_neg (by omega)]

/-- The first `n` words are ciphered. -/
def ciphered (ks : Mem) (n : Nat) (data : Mem) : Mem :=
  fun j => if j < 4 * n then data j ^^^ ks j else data j

/-- **WHAT F8 DOES** to the memory. -/
theorem snow3gF8_eq (key : Vector UInt8 16) (count bearer dir : UInt32) (data : Mem)
    (length : UInt32) :
    snow3gF8 key count bearer dir data length
      = zeroLastBits length
        (ciphered (keyStreamOctet key count bearer dir) (f8Words length) data) := by
  refine congrArg (zeroLastBits length) (funext fun j => ?_)
  rw [xorWords_apply, if_pos (Nat.zero_le _), Nat.sub_zero, snow3gGenerateKeyStream, ciphered]
  by_cases hword : j / 4 < f8Words length
  · rw [keyStreamLoop_getElem? _ _ _ hword, if_pos (by omega)]
    rfl
  · have hnone : ∀ st, (keyStreamLoop (f8Words length) st)[j / 4]? = none := by
      intro st
      refine List.getElem?_eq_none ?_
      rw [keyStreamLoop_length]
      omega
    rw [hnone, if_neg (by omega)]

theorem and_xor_mask (a k m : UInt8) : (a ^^^ k) &&& m = (a &&& m) ^^^ (k &&& m) :=
  UInt8.toNat_inj.mp (by
    simp only [UInt8.toNat_and, UInt8.toNat_xor]
    exact Nat.and_xor_distrib_right)

/-- What is added twice does nothing. -/
theorem xor_cancel (a k : UInt8) : a ^^^ k ^^^ k = a := by
  rw [UInt8.xor_assoc, UInt8.xor_self, UInt8.xor_zero]

/-- Exclusive or that changes nothing is with zero. -/
theorem xor_eq_self {a k : UInt8} (h : a ^^^ k = a) : k = 0 := by
  rw [← UInt8.xor_right_inj a, h, UInt8.xor_zero]

-- ── A right f8 ───────────────────────────────────────────────────────────────

/-- Octet `i` of the data with octet `i` of the key stream. -/
def xored (ks : Mem) (data : List UInt8) : List UInt8 := data.mapIdx (fun i o => o ^^^ ks i)

/-- The key stream for the arguments of the wrapper. -/
def f8KeyStream (key : Vector UInt8 16) (count bearer : Int) (isDownlink : Bool) : Mem :=
  keyStreamOctet key (Int32.ofInt count).toUInt32 (Int32.ofInt bearer).toUInt32
    (if isDownlink then 1 else 0)

/-- **A RIGHT F8**: every octet with the key stream, nothing behind the data
    changed, and the data again the second time. -/
structure F8Right (key : Vector UInt8 16) (count bearer : Int) (isDownlink : Bool)
    (data : List UInt8) (beyond : Mem) : Prop where
  once : fSnow3gF8 key count bearer isDownlink data beyond
    = .ok (xored (f8KeyStream key count bearer isDownlink) data, beyond)
  twice : ∃ beyond', fSnow3gF8 key count bearer isDownlink
      (xored (f8KeyStream key count bearer isDownlink) data) beyond = .ok (data, beyond')

/-- Where the lengths go wrong and it makes no difference: the key stream is zero
    in the octets that are ciphered and are not data, and in those that are data
    and are not ciphered; and the bits that are cleared are zero in the data and
    in the key stream. -/
structure StreamFits (ks : Mem) (data : List UInt8) : Prop where
  covered : ∀ j, (j < 4 * f8Words (UInt32.ofNat data.length) ↔ data.length ≤ j) → ks j = 0
  cleared : lastbits (UInt32.ofNat data.length) ≠ 0 →
    ∀ o, data[(UInt32.ofNat data.length / 8).toNat]? = some o →
      o &&& lastMask (UInt32.ofNat data.length) = o
        ∧ ks (UInt32.ofNat data.length / 8).toNat &&& lastMask (UInt32.ofNat data.length)
          = ks (UInt32.ofNat data.length / 8).toNat

section Lists

variable {data : List UInt8} {beyond : Mem}

theorem memOf_inside {j : Nat} (h : j < data.length) : memOf data beyond j = data[j] := by
  rw [memOf, List.getElem?_eq_getElem h]

theorem memOf_beyond (j : Nat) : memOf data beyond (data.length + j) = beyond j := by
  rw [memOf, List.getElem?_eq_none (Nat.le_add_right _ _), Nat.add_sub_cancel_left]

/-- A memory that begins with some octets. -/
theorem range_map_eq_iff {mem : Mem} {out : List UInt8} (hlength : out.length = data.length) :
    (List.range data.length).map mem = out ↔ ∀ j (h : j < out.length), mem j = out[j] := by
  constructor
  · intro h j hj
    have hrange : ((List.range data.length).map mem)[j]? = some (mem j) := by
      rw [List.getElem?_map, List.getElem?_range (by omega)]
      rfl
    rw [h, List.getElem?_eq_getElem hj] at hrange
    exact (Option.some.inj hrange).symm
  · intro h
    refine List.ext_getElem ?_ ?_
    · rw [List.length_map, List.length_range, hlength]
    · intro j h1 h2
      rw [List.getElem_map, List.getElem_range]
      exact h j h2

theorem xored_length (ks : Mem) : (xored ks data).length = data.length :=
  List.length_mapIdx

/-- Each octet has its octet of the key stream added. -/
theorem xored_getElem (ks : Mem) {j : Nat} (h : j < (xored ks data).length)
    (h' : j < data.length) : (xored ks data)[j] = data[j] ^^^ ks j :=
  List.getElem_mapIdx

/-- The octet in which bits are cleared is an octet of the data. -/
theorem cleared_inside (h : lastbits (UInt32.ofNat data.length) ≠ 0) :
    (UInt32.ofNat data.length / 8).toNat < data.length := by
  have hmod : (UInt32.ofNat data.length).toNat = data.length % 2 ^ 32 := UInt32.toNat_ofNat'
  have hle : data.length % 2 ^ 32 ≤ data.length := Nat.mod_le _ _
  have hdiv : (UInt32.ofNat data.length / 8).toNat = data.length % 2 ^ 32 / 8 := by
    rw [UInt32.toNat_div, hmod]
    rfl
  have hpos : data.length % 2 ^ 32 ≠ 0 := by
    intro hzero
    have hnone : UInt32.ofNat data.length = 0 := UInt32.toNat_inj.mp (hmod.trans hzero)
    rw [hnone] at h
    exact h rfl
  omega

end Lists

-- ── Once ─────────────────────────────────────────────────────────────────────

/-- Of the last octet the bits that do not count are cleared. -/
theorem zeroLastBits_last {length : UInt32} {mem : Mem} (h : lastbits length ≠ 0) :
    zeroLastBits length mem (length / 8).toNat
      = mem (length / 8).toNat &&& lastMask length := by
  rw [zeroLastBits, if_pos h]
  exact if_pos rfl

/-- The other octets are left alone. -/
theorem zeroLastBits_other {length : UInt32} {mem : Mem} {j : Nat}
    (h : ¬ (lastbits length ≠ 0 ∧ j = (length / 8).toNat)) :
    zeroLastBits length mem j = mem j := by
  rw [zeroLastBits]
  by_cases hlast : lastbits length ≠ 0
  · rw [if_pos hlast]
    exact if_neg (fun hj => h ⟨hlast, hj⟩)
  · rw [if_neg hlast]

section Stream

variable (ks : Mem) (data : List UInt8) (beyond : Mem)

/-- f8 over a buffer of the length of the data. -/
def effect (mem : Mem) : Mem :=
  zeroLastBits (UInt32.ofNat data.length)
    (ciphered ks (f8Words (UInt32.ofNat data.length)) mem)

/-- Every octet of the data with the key stream, and nothing else. -/
def Once : Prop :=
  (∀ j (h : j < data.length), effect ks data (memOf data beyond) j = data[j] ^^^ ks j)
    ∧ ∀ j, effect ks data (memOf data beyond) (data.length + j) = beyond j

variable {ks data beyond}

/-- What is ciphered, under the condition. -/
theorem ciphered_fits (h : StreamFits ks data) (j : Nat) :
    ciphered ks (f8Words (UInt32.ofNat data.length)) (memOf data beyond) j
      = if j < data.length then memOf data beyond j ^^^ ks j else memOf data beyond j := by
  rw [ciphered]
  by_cases hword : j < 4 * f8Words (UInt32.ofNat data.length)
  · rw [if_pos hword]
    by_cases hj : j < data.length
    · rw [if_pos hj]
    · rw [if_neg hj, h.covered j ⟨fun _ => Nat.le_of_not_lt hj, fun _ => hword⟩,
        UInt8.xor_zero]
  · rw [if_neg hword]
    by_cases hj : j < data.length
    · rw [if_pos hj, h.covered j ⟨fun hw => absurd hw hword, fun hd => absurd hj (by omega)⟩,
        UInt8.xor_zero]
    · rw [if_neg hj]

theorem once_of_fits (h : StreamFits ks data) : Once ks data beyond := by
  constructor
  · intro j hj
    have hc : ciphered ks (f8Words (UInt32.ofNat data.length)) (memOf data beyond) j
        = data[j] ^^^ ks j := by
      rw [ciphered_fits h, if_pos hj, memOf_inside hj]
    by_cases hlast : lastbits (UInt32.ofNat data.length) ≠ 0
        ∧ j = (UInt32.ofNat data.length / 8).toNat
    · obtain ⟨hlast, rfl⟩ := hlast
      obtain ⟨hdata, hks⟩ := h.cleared hlast _ (List.getElem?_eq_getElem hj)
      rw [effect, zeroLastBits_last hlast, hc, and_xor_mask, hdata, hks]
    · rw [effect, zeroLastBits_other hlast, hc]
  · intro j
    have hlast : ¬ (lastbits (UInt32.ofNat data.length) ≠ 0
        ∧ data.length + j = (UInt32.ofNat data.length / 8).toNat) := by
      rintro ⟨hlast, hj⟩
      have hinside := cleared_inside hlast
      omega
    rw [effect, zeroLastBits_other hlast, ciphered_fits h, if_neg (by omega), memOf_beyond]

/-- What is encrypted fits as what is decrypted does. -/
theorem fits_xored (h : StreamFits ks data) : StreamFits ks (xored ks data) where
  covered := by
    rw [xored_length]
    exact h.covered
  cleared := by
    rw [xored_length]
    intro hlast o ho
    have hinside := cleared_inside hlast
    obtain ⟨hdata, hks⟩ := h.cleared hlast _ (List.getElem?_eq_getElem hinside)
    have hj : (UInt32.ofNat data.length / 8).toNat < (xored ks data).length := by
      rw [xored_length]
      exact hinside
    rw [List.getElem?_eq_getElem hj, xored_getElem ks hj hinside] at ho
    rw [← Option.some.inj ho, and_xor_mask, hdata, hks]
    exact ⟨rfl, rfl⟩

/-- The octet with cleared bits, right once and twice. -/
theorem masked_octet (hlast : lastbits (UInt32.ofNat data.length) ≠ 0)
    (hdata : (UInt32.ofNat data.length / 8).toNat < data.length)
    (honce : effect ks data (memOf data beyond) (UInt32.ofNat data.length / 8).toNat
      = data[(UInt32.ofNat data.length / 8).toNat] ^^^ ks (UInt32.ofNat data.length / 8).toNat)
    (htwice : effect ks data (memOf (xored ks data) beyond)
        (UInt32.ofNat data.length / 8).toNat
      = data[(UInt32.ofNat data.length / 8).toNat]) :
    data[(UInt32.ofNat data.length / 8).toNat] &&& lastMask (UInt32.ofNat data.length)
        = data[(UInt32.ofNat data.length / 8).toNat]
      ∧ ks (UInt32.ofNat data.length / 8).toNat &&& lastMask (UInt32.ofNat data.length)
        = ks (UInt32.ofNat data.length / 8).toNat
      ∧ (¬ (UInt32.ofNat data.length / 8).toNat < 4 * f8Words (UInt32.ofNat data.length) →
        ks (UInt32.ofNat data.length / 8).toNat = 0) := by
  have hx : (UInt32.ofNat data.length / 8).toNat < (xored ks data).length := by
    rw [xored_length]
    exact hdata
  rw [effect, zeroLastBits_last hlast, ciphered, memOf_inside hdata] at honce
  rw [effect, zeroLastBits_last hlast, ciphered, memOf_inside hx,
    xored_getElem ks hx hdata] at htwice
  generalize data[(UInt32.ofNat data.length / 8).toNat] = a at honce htwice ⊢
  generalize ks (UInt32.ofNat data.length / 8).toNat = k at honce htwice ⊢
  generalize lastMask (UInt32.ofNat data.length) = m at honce htwice ⊢
  by_cases hword : (UInt32.ofNat data.length / 8).toNat
      < 4 * f8Words (UInt32.ofNat data.length)
  · rw [if_pos hword] at honce htwice
    rw [xor_cancel] at htwice
    rw [and_xor_mask, htwice, UInt8.xor_right_inj] at honce
    exact ⟨htwice, honce, fun h => absurd hword h⟩
  · rw [if_neg hword] at honce htwice
    rw [← honce, UInt8.and_assoc, UInt8.and_self] at htwice
    rw [htwice] at honce
    have hk := xor_eq_self honce.symm
    refine ⟨htwice, ?_, fun _ => hk⟩
    rw [hk, UInt8.zero_and]

/-- **EXACTLY WHEN** f8 ciphers the data, and deciphers what it ciphered. -/
theorem once_twice_iff :
    (Once ks data beyond
        ∧ ∀ j (h : j < data.length),
          effect ks data (memOf (xored ks data) beyond) j = data[j])
      ↔ StreamFits ks data := by
  constructor
  · rintro ⟨⟨hinside, hbeyond⟩, htwice⟩
    -- an octet that is not the one with cleared bits
    have hother : ∀ j, ¬ (lastbits (UInt32.ofNat data.length) ≠ 0
        ∧ j = (UInt32.ofNat data.length / 8).toNat) →
        (j < 4 * f8Words (UInt32.ofNat data.length) ↔ data.length ≤ j) → ks j = 0 := by
      intro j hlast hj
      by_cases hword : j < 4 * f8Words (UInt32.ofNat data.length)
      · obtain ⟨i, rfl⟩ : ∃ i, j = data.length + i := ⟨j - data.length, by omega⟩
        have hb := hbeyond i
        rw [effect, zeroLastBits_other hlast, ciphered, if_pos hword, memOf_beyond] at hb
        exact xor_eq_self hb
      · have hdata : j < data.length := by omega
        have hd := hinside j hdata
        rw [effect, zeroLastBits_other hlast, ciphered, if_neg hword, memOf_inside hdata] at hd
        exact xor_eq_self hd.symm
    constructor
    · intro j hj
      by_cases hlast : lastbits (UInt32.ofNat data.length) ≠ 0
          ∧ j = (UInt32.ofNat data.length / 8).toNat
      · obtain ⟨hlast, rfl⟩ := hlast
        have hdata := cleared_inside hlast
        exact (masked_octet hlast hdata (hinside _ hdata) (htwice _ hdata)).2.2 (by omega)
      · exact hother j hlast hj
    · intro hlast o ho
      have hdata := cleared_inside hlast
      rw [List.getElem?_eq_getElem hdata] at ho
      obtain ⟨ha, hk, -⟩ := masked_octet hlast hdata (hinside _ hdata) (htwice _ hdata)
      rw [← Option.some.inj ho]
      exact ⟨ha, hk⟩
  · intro h
    refine ⟨once_of_fits h, fun j hj => ?_⟩
    have hj' : j < (xored ks data).length := by
      rw [xored_length]
      exact hj
    have hx := (@once_of_fits ks (xored ks data) beyond (fits_xored h)).1 j hj'
    rw [effect, xored_length] at hx
    rw [effect, hx, xored_getElem ks hj' hj, xor_cancel]

end Stream

-- ── The wrapper ──────────────────────────────────────────────────────────────

/-- `(u32) count`, where it is an `int`. -/
def IsCInt (n : Int) : Prop := -2147483648 ≤ n ∧ n < 2147483648

section Wrapper

variable (key : Vector UInt8 16) (count bearer : Int) (isDownlink : Bool)

/-- With integers of C the function returns. -/
theorem fSnow3gF8_ok {count bearer : Int} (hc : IsCInt count) (hb : IsCInt bearer)
    (data : List UInt8) (beyond : Mem) :
    fSnow3gF8 key count bearer isDownlink data beyond
      = .ok ((List.range data.length).map
          (effect (f8KeyStream key count bearer isDownlink) data (memOf data beyond)),
        fun j => effect (f8KeyStream key count bearer isDownlink) data (memOf data beyond)
          (data.length + j)) := by
  have hcount : cInt count = .ok (Int32.ofInt count) := if_pos hc
  have hbearer : cInt bearer = .ok (Int32.ofInt bearer) := if_pos hb
  rw [fSnow3gF8, hcount]
  show (cInt bearer).bind _ = _
  rw [hbearer]
  show Except.ok _ = _
  rw [snow3gF8_eq]
  rfl

theorem cInt_isCInt {n : Int} {c : Int32} (h : cInt n = .ok c) : IsCInt n := by
  by_contra hn
  have herror : cInt n
      = .error (.ttcnError "Using the value of a large integer value as an integer.") :=
    if_neg hn
  rw [herror] at h
  exact nomatch h

/-- No other numbers get through. -/
theorem fSnow3gF8_int {r : List UInt8 × Mem} {data : List UInt8} {beyond : Mem}
    (h : fSnow3gF8 key count bearer isDownlink data beyond = .ok r) :
    IsCInt count ∧ IsCInt bearer := by
  obtain ⟨c, hc, h⟩ := bind_ok h
  obtain ⟨b, hb, -⟩ := bind_ok h
  exact ⟨cInt_isCInt hc, cInt_isCInt hb⟩

/-- The arguments are numbers that get through, and the data fits its key
    stream. -/
structure F8Fits (key : Vector UInt8 16) (count bearer : Int) (isDownlink : Bool)
    (data : List UInt8) : Prop where
  countInt : IsCInt count
  bearerInt : IsCInt bearer
  stream : StreamFits (f8KeyStream key count bearer isDownlink) data

variable {key count bearer isDownlink} {data : List UInt8} {beyond : Mem}

/-- A buffer of the length of the data is treated as the data is. -/
theorem effect_xored (ks : Mem) : effect ks (xored ks data) = effect ks data := by
  funext mem
  rw [effect, xored_length, effect]

/-- What comes back fits. -/
theorem fits_of_right (h : F8Right key count bearer isDownlink data beyond) :
    F8Fits key count bearer isDownlink data := by
  obtain ⟨hc, hb⟩ := fSnow3gF8_int key count bearer isDownlink h.once
  obtain ⟨honce, beyond', htwice⟩ := h
  have hx := @xored_length data (f8KeyStream key count bearer isDownlink)
  rw [fSnow3gF8_ok key isDownlink hc hb] at honce htwice
  obtain ⟨hout, hbeyond⟩ := Prod.mk.inj (Except.ok.inj honce)
  obtain ⟨hback, -⟩ := Prod.mk.inj (Except.ok.inj htwice)
  rw [hx, effect_xored, range_map_eq_iff rfl] at hback
  rw [range_map_eq_iff hx] at hout
  refine ⟨hc, hb, once_twice_iff.mp ⟨⟨fun j hj => ?_, fun j => congrFun hbeyond j⟩, hback⟩⟩
  rw [hout j (by rw [hx]; exact hj)]
  exact xored_getElem _ _ hj

/-- What fits comes back. -/
theorem right_of_fits (h : F8Fits key count bearer isDownlink data) :
    F8Right key count bearer isDownlink data beyond := by
  obtain ⟨hc, hb, hstream⟩ := h
  obtain ⟨⟨hinside, hbeyond⟩, htwice⟩ := (@once_twice_iff _ _ beyond).mpr hstream
  have hx := @xored_length data (f8KeyStream key count bearer isDownlink)
  constructor
  · rw [fSnow3gF8_ok key isDownlink hc hb]
    refine congrArg Except.ok (Prod.ext ?_ (funext hbeyond))
    refine (range_map_eq_iff hx).mpr (fun j hj => ?_)
    have hj' : j < data.length := by
      rw [← hx]
      exact hj
    rw [hinside j hj', xored_getElem _ hj hj']
  · refine ⟨_, (fSnow3gF8_ok key isDownlink hc hb _ beyond).trans
      (congrArg Except.ok (Prod.ext ?_ rfl))⟩
    show (List.range (xored _ data).length).map _ = data
    rw [hx, effect_xored]
    exact (range_map_eq_iff rfl).mpr htwice

end Wrapper

/-- **EXACTLY WHEN** `f_snow_3g_f8` is right. -/
theorem snow3gF8_right_iff (key : Vector UInt8 16) (count bearer : Int) (isDownlink : Bool)
    (data : List UInt8) (beyond : Mem) :
    F8Right key count bearer isDownlink data beyond
      ↔ F8Fits key count bearer isDownlink data :=
  ⟨fits_of_right, right_of_fits⟩

/-- One octet: seven of its bits are cleared. -/
theorem snow3gF8_one_octet :
    ¬ F8Right (Vector.replicate 16 0x00) 0 0 false [0x01] (fun _ => 0x00) := by
  intro h
  have hdata := ((fits_of_right h).stream.cleared (by decide) 0x01 rfl).1
  exact absurd hdata (by decide)

end OsmoSnow3g
