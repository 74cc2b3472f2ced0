import OsmoTtcn.NumberTextProofs
import OsmoTtcn.RanImsiProofs

/-! # Identities as decimal digits in octets

    Two digits share an octet, the first of them in its low half, and an F
    stands where there is no digit.  `GSM_Types` writes and reads the identity
    of a network in this form, once with `hex2oct` and once with the RAW codec;
    `Osmocom_Types` does the same with an IMSI.

    `plmn_identity` says that the two ways to write a network agree, what is
    read back, and for which numbers `f_build_BcdMccMnc_int` works: it asks for
    digits that `int2str` does not write, those in front of a small number.
    `imsi_octets` says which IMSIs and which octets come through unchanged. -/

namespace OsmoBcd

open OsmoTitan OsmoMisc OsmoRanImsi

-- ── Octets and digits ────────────────────────────────────────────────────────

/-- The octet of two hexadecimal digits. -/
def octet (h0 h1 : Fin 16) : UInt8 := UInt8.ofNat (16 * h0.val + h1.val)

/-- `oct2hex(o)[0]` -/
def high (o : UInt8) : Fin 16 := Fin.ofNat 16 (o.toNat / 16)

/-- `oct2hex(o)[1]` -/
def low (o : UInt8) : Fin 16 := Fin.ofNat 16 o.toNat

/-- An octet is worth sixteen times its high half, and its low half. -/
theorem toNat_octet (h0 h1 : Fin 16) : (octet h0 h1).toNat = 16 * h0.val + h1.val := by
  have hlt : 16 * h0.val + h1.val < 256 := by omega
  rw [octet, UInt8.toNat_ofNat', Nat.mod_eq_of_lt hlt]

@[simp] theorem high_octet (h0 h1 : Fin 16) : high (octet h0 h1) = h0 := by
  apply Fin.ext
  show (octet h0 h1).toNat / 16 % 16 = h0.val
  rw [toNat_octet]
  omega

@[simp] theorem low_octet (h0 h1 : Fin 16) : low (octet h0 h1) = h1 := by
  apply Fin.ext
  show (octet h0 h1).toNat % 16 = h1.val
  rw [toNat_octet]
  omega

@[simp] theorem octet_high_low (o : UInt8) : octet (high o) (low o) = o := by
  apply UInt8.toNat_inj.mp
  have hlt : o.toNat < 256 := o.toNat_lt
  have hhigh : (high o).val = o.toNat / 16 % 16 := rfl
  have hlow : (low o).val = o.toNat % 16 := rfl
  rw [toNat_octet, hhigh, hlow]
  omega

-- ── The identity of a network ────────────────────────────────────────────────

/-- Three digits. -/
structure GsmMcc where
  d0 : Fin 16
  d1 : Fin 16
  d2 : Fin 16
  deriving DecidableEq, Repr

/-- Two or three digits. -/
inductive GsmMnc where
  | two (d0 d1 : Fin 16)
  | three (d0 d1 d2 : Fin 16)
  deriving DecidableEq, Repr

/-- `OCT3` -/
abbrev Oct3 : Type := Vector UInt8 3

/-- `BcdMccMnc`, six digits. -/
abbrev BcdMccMnc : Type := Vector (Fin 16) 6

/-- `hex2oct` of six digits -/
def hex2oct3 (h : Vector (Fin 16) 6) : Oct3 := #v[octet h[0] h[1], octet h[2] h[3], octet h[4] h[5]]

/-- `oct2hex` of three octets -/
def oct2hex3 (o : Oct3) : Vector (Fin 16) 6 :=
  #v[high o[0], low o[0], high o[1], low o[1], high o[2], low o[2]]

/-- `f_enc_mcc_mnc` -/
def fEncMccMnc (mcc : GsmMcc) : GsmMnc → Oct3
  | .two m0 m1 => hex2oct3 #v[mcc.d1, mcc.d0, 15, mcc.d2, m1, m0]
  | .three m0 m1 m2 => hex2oct3 #v[mcc.d1, mcc.d0, m2, mcc.d2, m1, m0]

/-- `f_dec_mcc_mnc` -/
def fDecMccMnc (mccMnc : Oct3) : GsmMcc × GsmMnc :=
  let hs := oct2hex3 mccMnc
  (⟨hs[1], hs[0], hs[3]⟩,
    if hs[2] ≠ 15 then .three hs[5] hs[4] hs[2] else .two hs[5] hs[4])

/-- Compute BcdMccMnc from a pair of GsmMcc/GsmMnc values. -/
def fBuildBcdMccMnc (mcc : GsmMcc) : GsmMnc → BcdMccMnc
  | .two m0 m1 => #v[mcc.d0, mcc.d1, mcc.d2, 15, m0, m1]
  | .three m0 m1 m2 => #v[mcc.d0, mcc.d1, mcc.d2, m2, m0, m1]

/-- The RAW encoder, for `HEXORDER(low)`. -/
def encBcdMccMnc (str : BcdMccMnc) : Oct3 :=
  #v[octet str[1] str[0], octet str[3] str[2], octet str[5] str[4]]

/-- A hexadecimal digit, as `str2hex` reads it. -/
def hexDigit (c : Char) : Except Fault (Fin 16) :=
  if c.isDigit = true then .ok (Fin.ofNat 16 (c.toNat - 48))
  else if 'a' ≤ c ∧ c ≤ 'f' then .ok (Fin.ofNat 16 (c.toNat - 87))
  else if 'A' ≤ c ∧ c ≤ 'F' then .ok (Fin.ofNat 16 (c.toNat - 55))
  else .error (.ttcnError
    "The argument of function str2hex() shall contain hexadecimal digits only.")

/-- `str2hex` -/
def str2hex : Charstring → Except Fault Hexstring
  | [] => .ok []
  | c :: cs => do
      let d ← hexDigit c
      let ds ← str2hex cs
      return d :: ds

/-- `h[i]` -/
def digit (h : Hexstring) (i : Nat) : Except Fault (Fin 16) :=
  match h[i]? with
  | some d => .ok d
  | none => .error .badIndex

/-- Compute BcdMccMnc from integer values. -/
def fBuildBcdMccMncInt (mcc mnc : Nat) (mnc3Digits : Bool) : Except Fault BcdMccMnc := do
  let mccStr ← str2hex (int2str mcc)
  let mncStr ← str2hex (int2str mnc)
  let gsmMcc : GsmMcc := ⟨← digit mccStr 0, ← digit mccStr 1, ← digit mccStr 2⟩
  if mnc3Digits = true then
    return fBuildBcdMccMnc gsmMcc
      (.three (← digit mncStr 0) (← digit mncStr 1) (← digit mncStr 2))
  else
    return fBuildBcdMccMnc gsmMcc (.two (← digit mncStr 0) (← digit mncStr 1))

-- ── Two ways to write it, one to read ────────────────────────────────────────

/-- The RAW codec swaps the digits that `f_enc_mcc_mnc` writes swapped. -/
theorem encBcdMccMnc_build (mcc : GsmMcc) (mnc : GsmMnc) :
    encBcdMccMnc (fBuildBcdMccMnc mcc mnc) = fEncMccMnc mcc mnc := by
  cases mnc with
  | two m0 m1 => rfl
  | three m0 m1 m2 => rfl

-- as in the self test of the source
example : encBcdMccMnc (fBuildBcdMccMnc ⟨2, 6, 2⟩ (.two 4 2)) = #v[0x62, 0xF2, 0x24] := by decide

@[simp] theorem oct2hex3_hex2oct3 (h0 h1 h2 h3 h4 h5 : Fin 16) :
    oct2hex3 (hex2oct3 #v[h0, h1, h2, h3, h4, h5]) = #v[h0, h1, h2, h3, h4, h5] := by
  show #v[high (octet h0 h1), low (octet h0 h1), high (octet h2 h3), low (octet h2 h3),
    high (octet h4 h5), low (octet h4 h5)] = _
  simp only [high_octet, low_octet]

/-- No third digit is an F. -/
def GsmMnc.Plain : GsmMnc → Prop
  | .two _ _ => True
  | .three _ _ d2 => d2 ≠ 15

/-- A code comes back unless its last digit is the filler. -/
theorem fDecMccMnc_enc (mcc : GsmMcc) (mnc : GsmMnc) :
    fDecMccMnc (fEncMccMnc mcc mnc) = (mcc, mnc) ↔ mnc.Plain := by
  cases mnc with
  | two m0 m1 =>
      rw [fEncMccMnc, fDecMccMnc, oct2hex3_hex2oct3]
      exact ⟨fun _ => trivial, fun _ => rfl⟩
  | three m0 m1 m2 =>
      rw [fEncMccMnc, fDecMccMnc, oct2hex3_hex2oct3]
      show ((⟨mcc.d0, mcc.d1, mcc.d2⟩ : GsmMcc), if m2 ≠ 15 then _ else _) = _ ↔ m2 ≠ 15
      constructor
      · intro h hm2
        rw [if_neg (not_not_intro hm2)] at h
        cases (Prod.mk.inj h).2
      · intro hm2
        rw [if_pos hm2]
        rfl

/-- Any three octets come back. -/
theorem fEncMccMnc_dec (o : Oct3) :
    fEncMccMnc (fDecMccMnc o).1 (fDecMccMnc o).2 = o := by
  have ho : o = #v[o[0], o[1], o[2]] := by
    apply Vector.ext
    intro i hi
    rcases i with _ | _ | _ | i
    · rfl
    · rfl
    · rfl
    · exact absurd hi (by omega)
  have hwritten : fEncMccMnc (fDecMccMnc o).1 (fDecMccMnc o).2
      = #v[octet (high o[0]) (low o[0]), octet (high o[1]) (low o[1]),
          octet (high o[2]) (low o[2])] := by
    show fEncMccMnc _ (if high o[1] ≠ 15 then _ else _) = _
    by_cases hf : high o[1] = 15
    · rw [if_neg (not_not_intro hf), hf]
      rfl
    · rw [if_pos hf]
      rfl
  rw [hwritten, octet_high_low, octet_high_low, octet_high_low]
  exact ho.symm

-- ── From numbers ─────────────────────────────────────────────────────────────

/-- The last decimal digit. -/
def decimal (n : Nat) : Fin 16 := Fin.ofNat 16 (n % 10)

/-- A decimal digit is a hexadecimal one. -/
theorem hexDigit_digitChar : ∀ k : Fin 10,
    hexDigit (Nat.digitChar k.val) = .ok (Fin.ofNat 16 k.val) := by
  decide

/-- A text is read piece by piece. -/
theorem str2hex_append (cs cs' : Charstring) :
    str2hex (cs ++ cs') = (do let ds ← str2hex cs; let ds' ← str2hex cs'; return ds ++ ds') := by
  induction cs with
  | nil =>
      rw [List.nil_append, str2hex]
      cases str2hex cs' <;> rfl
  | cons c cs ih =>
      rw [List.cons_append, str2hex, str2hex, ih]
      cases hexDigit c with
      | error e => rfl
      | ok d =>
          cases str2hex cs with
          | error e => rfl
          | ok ds => cases str2hex cs' <;> rfl

/-- The digits of a number, one less with each division. -/
theorem str2hex_digits (n : Nat) : str2hex (Nat.toDigits 10 n) =
    if n < 10 then .ok [decimal n]
    else (str2hex (Nat.toDigits 10 (n / 10))).map fun ds => ds ++ [decimal n] := by
  have hlast : str2hex [Nat.digitChar (n % 10)] = .ok [decimal n] := by
    rw [str2hex, hexDigit_digitChar ⟨n % 10, Nat.mod_lt n (by decide)⟩]
    rfl
  rw [Nat.toDigits_eq_if (by decide)]
  by_cases hn : n < 10
  · rw [if_pos hn, if_pos hn]
    rw [Nat.mod_eq_of_lt hn] at hlast
    exact hlast
  · rw [if_neg hn, if_neg hn, str2hex_append, hlast]
    cases str2hex (Nat.toDigits 10 (n / 10)) <;> rfl

/-- The text of a number that is not negative. -/
theorem str2hex_int2str (n : Nat) : str2hex (int2str n) = str2hex (Nat.toDigits 10 n) := by
  rw [int2str, if_neg (by omega), Int.natAbs_natCast]

/-- A number of one digit. -/
theorem str2hex_one {n : Nat} (h : n < 10) : str2hex (int2str n) = .ok [decimal n] := by
  rw [str2hex_int2str, str2hex_digits, if_pos h]

/-- A number of two digits. -/
theorem str2hex_two {n : Nat} (h : 10 ≤ n) (h' : n < 100) :
    str2hex (int2str n) = .ok [decimal (n / 10), decimal n] := by
  rw [str2hex_int2str, str2hex_digits, if_neg (by omega), str2hex_digits, if_pos (by omega)]
  rfl

/-- A number of three digits. -/
theorem str2hex_three {n : Nat} (h : 100 ≤ n) (h' : n < 1000) :
    str2hex (int2str n) = .ok [decimal (n / 100), decimal (n / 10), decimal n] := by
  rw [str2hex_int2str, str2hex_digits, if_neg (by omega), str2hex_digits, if_neg (by omega),
    str2hex_digits, if_pos (by omega), Nat.div_div_eq_div_mul]
  rfl

/-- The three digits of the country. -/
def gsmMcc (n : Nat) : GsmMcc := ⟨decimal (n / 100), decimal (n / 10), decimal n⟩

/-- The digits of the network, as many as it has. -/
def gsmMnc (n : Nat) (mnc3Digits : Bool) : GsmMnc :=
  if mnc3Digits = true then .three (decimal (n / 100)) (decimal (n / 10)) (decimal n)
  else .two (decimal (n / 10)) (decimal n)

/-- The smallest number with as many digits as the network has. -/
def smallest (mnc3Digits : Bool) : Nat := if mnc3Digits = true then 100 else 10

/-- Three digits are there only if the number is large enough. -/
theorem read_three {n : Nat} (hn : n < 1000) : ∃ str, str2hex (int2str n) = .ok str
    ∧ ∀ g : Fin 16 → Fin 16 → Fin 16 → Except Fault BcdMccMnc,
      (do let d0 ← digit str 0; let d1 ← digit str 1; let d2 ← digit str 2; g d0 d1 d2)
        = if 100 ≤ n then g (decimal (n / 100)) (decimal (n / 10)) (decimal n)
          else .error .badIndex := by
  by_cases hone : n < 10
  · refine ⟨_, str2hex_one hone, fun g => ?_⟩
    rw [if_neg (by omega)]
    rfl
  · by_cases htwo : n < 100
    · refine ⟨_, str2hex_two (by omega) htwo, fun g => ?_⟩
      rw [if_neg (by omega)]
      rfl
    · refine ⟨_, str2hex_three (by omega) hn, fun g => ?_⟩
      rw [if_pos (by omega)]
      rfl

/-- Two digits are read of a number below 100, if it has two. -/
theorem read_two {n : Nat} (hn : n < 100) : ∃ str, str2hex (int2str n) = .ok str
    ∧ ∀ g : Fin 16 → Fin 16 → Except Fault BcdMccMnc,
      (do let d0 ← digit str 0; let d1 ← digit str 1; g d0 d1)
        = if 10 ≤ n then g (decimal (n / 10)) (decimal n) else .error .badIndex := by
  by_cases hone : n < 10
  · refine ⟨_, str2hex_one hone, fun g => ?_⟩
    rw [if_neg (by omega)]
    rfl
  · refine ⟨_, str2hex_two (by omega) hn, fun g => ?_⟩
    rw [if_pos (by omega)]
    rfl

/-- Neither number may be one with a zero in front. -/
theorem fBuildBcdMccMncInt_eq {mcc mnc : Nat} (mnc3Digits : Bool) (hmcc : mcc < 1000)
    (hmnc : mnc < 10 * smallest mnc3Digits) :
    fBuildBcdMccMncInt mcc mnc mnc3Digits
      = if 100 ≤ mcc ∧ smallest mnc3Digits ≤ mnc
        then .ok (fBuildBcdMccMnc (gsmMcc mcc) (gsmMnc mnc mnc3Digits))
        else .error .badIndex := by
  obtain ⟨mccStr, hmccStr, hmccRead⟩ := read_three hmcc
  cases mnc3Digits with
  | true =>
      obtain ⟨mncStr, hmncStr, hmncRead⟩ := read_three hmnc
      have hread : fBuildBcdMccMncInt mcc mnc true
          = (do
              let d0 ← digit mccStr 0; let d1 ← digit mccStr 1; let d2 ← digit mccStr 2
              let m0 ← digit mncStr 0; let m1 ← digit mncStr 1; let m2 ← digit mncStr 2
              Except.ok (fBuildBcdMccMnc ⟨d0, d1, d2⟩ (.three m0 m1 m2))) := by
        rw [fBuildBcdMccMncInt, hmccStr, hmncStr]
        rfl
      rw [hread, hmccRead, hmncRead]
      by_cases hsmall : 100 ≤ mcc
      · rw [if_pos hsmall]
        exact if_congr (by rw [and_iff_right hsmall]; rfl) rfl rfl
      · rw [if_neg hsmall, if_neg fun h => hsmall h.1]
  | false =>
      obtain ⟨mncStr, hmncStr, hmncRead⟩ := read_two hmnc
      have hread : fBuildBcdMccMncInt mcc mnc false
          = (do
              let d0 ← digit mccStr 0; let d1 ← digit mccStr 1; let d2 ← digit mccStr 2
              let m0 ← digit mncStr 0; let m1 ← digit mncStr 1
              Except.ok (fBuildBcdMccMnc ⟨d0, d1, d2⟩ (.two m0 m1))) := by
        rw [fBuildBcdMccMncInt, hmccStr, hmncStr]
        rfl
      rw [hread, hmccRead, hmncRead]
      by_cases hsmall : 100 ≤ mcc
      · rw [if_pos hsmall]
        exact if_congr (by rw [and_iff_right hsmall]; rfl) rfl rfl
      · rw [if_neg hsmall, if_neg fun h => hsmall h.1]

-- ── The identity of a subscriber ─────────────────────────────────────────────

/-- The loop of `imsi_hex2oct`: swap nibbles and pad with F. -/
def swapped : Hexstring → Hexstring
  | d0 :: d1 :: ds => d1 :: d0 :: swapped ds
  | [d0] => [15, d0]
  | [] => []

/-- The octets of an even number of digits. -/
def octets : Hexstring → List UInt8
  | h0 :: h1 :: hs => octet h0 h1 :: octets hs
  | _ => []

/-- `hex2oct`: a zero is put in front of an odd number of digits. -/
def hex2oct (h : Hexstring) : List UInt8 := octets (if h.length % 2 = 0 then h else 0 :: h)

/-- `imsi_hex2oct` -/
def imsiHex2oct (imsi : Hexstring) : List UInt8 := hex2oct (swapped imsi)

/-- With the filler there are digits in pairs. -/
theorem length_swapped (imsi : Hexstring) : (swapped imsi).length % 2 = 0 := by
  induction imsi using swapped.induct with
  | case1 d0 d1 ds ih =>
      rw [swapped, List.length_cons, List.length_cons]
      omega
  | case2 d0 =>
      rw [swapped]
      exact Nat.mod_self 2
  | case3 => rfl

/-- The digits go into octets two by two. -/
theorem imsiHex2oct_eq (imsi : Hexstring) : imsiHex2oct imsi = octets (swapped imsi) := by
  rw [imsiHex2oct, hex2oct, if_pos (length_swapped imsi)]

@[simp] theorem imsiHex2oct_pair (d0 d1 : Fin 16) (ds : Hexstring) :
    imsiHex2oct (d0 :: d1 :: ds) = octet d1 d0 :: imsiHex2oct ds := by
  rw [imsiHex2oct_eq, imsiHex2oct_eq]
  rfl

@[simp] theorem imsiOct2hex_cons (o : UInt8) (os : List UInt8) :
    imsiOct2hex (o :: os)
      = (if high o = 15 then [low o] else [low o, high o]) ++ imsiOct2hex os :=
  List.flatMap_cons

/-- No digit at an odd place is an F. -/
def Plain (imsi : Hexstring) : Prop := ∀ i, imsi[2 * i + 1]? ≠ some 15

/-- The second digit of every pair counts. -/
theorem plain_pair {d0 d1 : Fin 16} {ds : Hexstring} :
    Plain (d0 :: d1 :: ds) ↔ d1 ≠ 15 ∧ Plain ds := by
  constructor
  · intro h
    exact ⟨fun hd => h 0 (congrArg some hd), fun i => h (i + 1)⟩
  · rintro ⟨hd, hds⟩ i
    cases i with
    | zero => exact fun h => hd (Option.some.inj h)
    | succ i => exact hds i

/-- A single digit is plain. -/
theorem plain_single (d0 : Fin 16) : Plain [d0] := by
  intro i h
  rw [List.getElem?_eq_none (by rw [List.length_singleton]; omega)] at h
  cases h

/-- The F that fills the last octet goes again. -/
theorem imsiOct2hex_single (d0 : Fin 16) : imsiOct2hex (imsiHex2oct [d0]) = [d0] := by
  have hoctet : imsiHex2oct [d0] = [octet 15 d0] := by
    rw [imsiHex2oct_eq, swapped]
    rfl
  rw [hoctet, imsiOct2hex_cons, high_octet, low_octet, if_pos rfl]
  rfl

/-- Digits can go, but none are added. -/
theorem length_imsiOct2hex_hex2oct (imsi : Hexstring) :
    (imsiOct2hex (imsiHex2oct imsi)).length ≤ imsi.length := by
  induction imsi using swapped.induct with
  | case1 d0 d1 ds ih =>
      rw [imsiHex2oct_pair, imsiOct2hex_cons, high_octet, low_octet, List.length_append,
        List.length_cons, List.length_cons]
      have hpair : (if d1 = 15 then [d0] else [d0, d1]).length ≤ 2 := by
        split
        · exact Nat.le_succ 1
        · exact Nat.le_refl 2
      omega
  | case2 d0 => rw [imsiOct2hex_single]
  | case3 => exact Nat.le_refl 0

/-- **THERE AND BACK**: an IMSI comes through unless an F stands at an odd
    place. -/
theorem imsiOct2hex_hex2oct (imsi : Hexstring) :
    imsiOct2hex (imsiHex2oct imsi) = imsi ↔ Plain imsi := by
  induction imsi using swapped.induct with
  | case1 d0 d1 ds ih =>
      rw [imsiHex2oct_pair, imsiOct2hex_cons, high_octet, low_octet, plain_pair, ← ih]
      by_cases hd : d1 = 15
      · -- a digit is missing, and nothing behind it makes up for that
        rw [if_pos hd]
        constructor
        · intro h
          have hlength := congrArg List.length h
          have hle := length_imsiOct2hex_hex2oct ds
          simp only [List.length_append, List.length_cons, List.length_nil] at hlength
          omega
        · exact fun h => absurd hd h.1
      · rw [if_neg hd]
        constructor
        · intro h
          have hcancel : [d0, d1] ++ imsiOct2hex (imsiHex2oct ds) = [d0, d1] ++ ds := h
          exact ⟨hd, List.append_cancel_left hcancel⟩
        · rintro ⟨-, h⟩
          rw [h]
          rfl
  | case2 d0 => exact iff_of_true (imsiOct2hex_single d0) (plain_single d0)
  | case3 =>
      refine iff_of_true rfl fun i h => ?_
      cases h

/-- No octet but the last has an F in its high half. -/
def Filled (os : List UInt8) : Prop := ∀ o ∈ os.dropLast, high o ≠ 15

/-- The filler may stand in the last octet only. -/
theorem filled_cons {o o' : UInt8} {os : List UInt8} :
    Filled (o :: o' :: os) ↔ high o ≠ 15 ∧ Filled (o' :: os) :=
  List.forall_mem_cons

/-- Octets of a plain IMSI. -/
theorem filled_of_plain {imsi : Hexstring} (h : Plain imsi) : Filled (imsiHex2oct imsi) := by
  induction imsi using swapped.induct with
  | case1 d0 d1 ds ih =>
      obtain ⟨hd, hds⟩ := plain_pair.mp h
      rw [imsiHex2oct_pair]
      cases hos : imsiHex2oct ds with
      | nil => exact fun o ho => absurd ho List.not_mem_nil
      | cons o os =>
          have hrest := ih hds
          rw [hos] at hrest
          rw [filled_cons, high_octet]
          exact ⟨hd, hrest⟩
  | case2 d0 =>
      rw [imsiHex2oct_eq, swapped]
      exact fun o ho => absurd ho List.not_mem_nil
  | case3 => exact fun o ho => absurd ho List.not_mem_nil

/-- **BACK AND THERE**: octets come through unless one before the last has an F
    in its high half. -/
theorem imsiHex2oct_oct2hex (os : List UInt8) :
    imsiHex2oct (imsiOct2hex os) = os ↔ Filled os := by
  constructor
  · intro h
    have hplain : Plain (imsiOct2hex os) := (imsiOct2hex_hex2oct _).mp (congrArg imsiOct2hex h)
    rw [← h]
    exact filled_of_plain hplain
  · intro h
    induction os with
    | nil => rfl
    | cons o os ih =>
        rw [imsiOct2hex_cons]
        cases os with
        | nil =>
            by_cases hf : high o = 15
            · rw [if_pos hf, imsiHex2oct_eq]
              show [octet 15 (low o)] = [o]
              rw [← hf, octet_high_low]
            · rw [if_neg hf]
              show imsiHex2oct (low o :: high o :: []) = [o]
              rw [imsiHex2oct_pair, octet_high_low]
              rfl
        | cons o' os =>
            obtain ⟨hf, hrest⟩ := filled_cons.mp h
            rw [if_neg hf]
            show imsiHex2oct (low o :: high o :: imsiOct2hex (o' :: os)) = o :: o' :: os
            rw [imsiHex2oct_pair, octet_high_low, ih hrest]

-- ── Results ──────────────────────────────────────────────────────────────────

/-- **THE IDENTITY OF A NETWORK**: both ways to write it agree; every three
    octets are written again from what is read of them; what is written is
    read, unless the third digit is an F; and from two numbers the identity is
    made if none of them has a zero in front, and not at all if one has. -/
theorem plmn_identity :
    (∀ mcc mnc, encBcdMccMnc (fBuildBcdMccMnc mcc mnc) = fEncMccMnc mcc mnc)
    ∧ (∀ o, fEncMccMnc (fDecMccMnc o).1 (fDecMccMnc o).2 = o)
    ∧ (∀ mcc mnc, fDecMccMnc (fEncMccMnc mcc mnc) = (mcc, mnc) ↔ mnc.Plain)
    ∧ ∀ (mcc mnc : Nat) (mnc3Digits : Bool), mcc < 1000 → mnc < 10 * smallest mnc3Digits →
      fBuildBcdMccMncInt mcc mnc mnc3Digits
        = if 100 ≤ mcc ∧ smallest mnc3Digits ≤ mnc
          then .ok (fBuildBcdMccMnc (gsmMcc mcc) (gsmMnc mnc mnc3Digits))
          else .error .badIndex :=
  ⟨encBcdMccMnc_build, fEncMccMnc_dec, fDecMccMnc_enc,
    fun _ _ mnc3Digits hmcc hmnc => fBuildBcdMccMncInt_eq mnc3Digits hmcc hmnc⟩

/-- A network 01 cannot be made from its number. -/
theorem plmn_identity_zero : fBuildBcdMccMncInt 262 1 false = .error .badIndex := by
  rw [plmn_identity.2.2.2 262 1 false (by decide) (by decide)]
  decide

/-- **THE IDENTITY OF A SUBSCRIBER**: which IMSIs and which octets come through
    unchanged; and that a RANAP PAGING for the octets of such an IMSI goes where
    a BSSMAP PAGING for the IMSI goes. -/
theorem imsi_octets :
    (∀ imsi, imsiOct2hex (imsiHex2oct imsi) = imsi ↔ Plain imsi)
    ∧ (∀ os, imsiHex2oct (imsiOct2hex os) = os ↔ Filled os)
    ∧ ∀ (Comp : Type) (t : ImsiTable Comp) (imsi : Hexstring)
        (temporaryUeId : Option TemporaryUeId), Plain imsi →
      commonRanapUnitdataCallback t ⟨imsiHex2oct imsi, temporaryUeId⟩
        = commonBssmapUnitdataCallback t imsi (temporaryUeId.map TemporaryUeId.octets) := by
  refine ⟨imsiOct2hex_hex2oct, imsiHex2oct_oct2hex, fun Comp t imsi temporaryUeId h => ?_⟩
  rw [commonRanapUnitdataCallback, commonBssmapUnitdataCallback, (imsiOct2hex_hex2oct imsi).mpr h]

/-- A component has registered for the IMSI 26242. -/
def oneHandler : ImsiTable Nat := fun i =>
  if i = 0 then { compRef := some 7, imsi := some [2, 6, 2, 4, 2], tmsi := reserved }
  else imsiTableInit i

/-- A paging reaches the handler of its IMSI. -/
theorem imsi_octets_paging :
    commonRanapUnitdataCallback oneHandler ⟨imsiHex2oct [2, 6, 2, 4, 2], none⟩ = .client 7 := by
  have hplain : Plain [2, 6, 2, 4, 2] :=
    plain_pair.mpr ⟨by decide, plain_pair.mpr ⟨by decide, plain_single 2⟩⟩
  rw [imsi_octets.2.2 Nat oneHandler [2, 6, 2, 4, 2] none hplain]
  decide

end OsmoBcd
