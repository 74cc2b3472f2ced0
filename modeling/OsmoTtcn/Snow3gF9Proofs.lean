import OsmoTtcn.Snow3gProofs
import OsmoTtcn.WordResidueProofs

/-! # The integrity function f9

    `library/snow_3g/snow-3g.c`: five words of the key stream give the point
    `P`, the factor `Q` and the mask of the message authentication code.  The
    message, cut into words of 64 bits with zeros behind its end, is evaluated
    at `P` by Horner's rule; the length in bits is added, and what a
    multiplication by `Q` leaves in the top half is masked.

    `MUL64` shifts and adds; it is the product of residues modulo
    `X^64 + X^4 + X^3 + X + 1`.  For a message that is not empty the wrapper
    `f_snow_3g_f9` reads the message and nothing else.  For an empty one the
    number of words before the last one wraps around, and the loop reads from a
    buffer that holds nothing. -/

namespace OsmoSnow3g

open OsmoTitan WordResidue

-- ── Multiplication ───────────────────────────────────────────────────────────

/-- `MUL64x` -/
def mul64x (v c : UInt64) : UInt64 :=
  if v &&& 0x8000000000000000 ≠ 0 then v <<< 1 ^^^ c else v <<< 1

/-- `MUL64xPOW` -/
def mul64xPow (v : UInt64) : (i : Nat) → (c : UInt64) → UInt64
  | 0, _ => v
  | i + 1, c => mul64x (mul64xPow v i c) c

/-- One round of the loop of `MUL64`. -/
def mul64Round (v p c : UInt64) (result : UInt64) (i : Nat) : UInt64 :=
  if p >>> UInt64.ofNat i &&& 0x1 ≠ 0 then result ^^^ mul64xPow v i c else result

/-- `MUL64` -/
def mul64 (v p c : UInt64) : UInt64 := (List.range 64).foldl (mul64Round v p c) 0

-- ── f9 ───────────────────────────────────────────────────────────────────────

/-- `data[j]` -/
def readOctet (data : List UInt8) (j : Nat) : Except Fault UInt8 :=
  match data[j]? with
  | some o => .ok o
  | none => .error .overread

/-- `mask8bit`, for `n` from 1 to 7 -/
def mask8bit (n : Nat) : UInt8 := 0xff ^^^ (((1 : UInt8) <<< UInt8.ofNat (8 - n)) - 1)

/-- The octet at place `j` of a word, added to it. -/
def place (m : UInt64) (j : Nat) (o : UInt8) : UInt64 :=
  m ||| o.toUInt64 <<< UInt64.ofNat (8 * (7 - j))

/-- The word that a round of the first loop reads, from `data[8*i]` on. -/
def f9Word (data : List UInt8) (base : Nat) : Except Fault UInt64 := do
  let o0 ← readOctet data base
  let o1 ← readOctet data (base + 1)
  let o2 ← readOctet data (base + 2)
  let o3 ← readOctet data (base + 3)
  let o4 ← readOctet data (base + 4)
  let o5 ← readOctet data (base + 5)
  let o6 ← readOctet data (base + 6)
  let o7 ← readOctet data (base + 7)
  .ok (o0.toUInt64 <<< 56 ||| o1.toUInt64 <<< 48 ||| o2.toUInt64 <<< 40 ||| o3.toUInt64 <<< 32
    ||| o4.toUInt64 <<< 24 ||| o5.toUInt64 <<< 16 ||| o6.toUInt64 <<< 8 ||| o7.toUInt64)

/-- The loop for 0 <= i <= D-3: `n` rounds from `i` on. -/
def f9Loop (data : List UInt8) (p : UInt64) : (n : Nat) → (i : UInt32) → (eval : UInt64) →
    Except Fault UInt64
  | 0, _, eval => .ok eval
  | n + 1, i, eval => do
      let m ← f9Word data (8 * i).toNat
      f9Loop data p n (i + 1) (mul64 (eval ^^^ m) p 0x1b)

/-- `M_D_2`: the whole octets while there are more than seven bits, and the
    rest of an octet. -/
def f9Last (data : List UInt8) (base : Nat) : (remBits : Nat) → (i : Nat) → (m : UInt64) →
    Except Fault UInt64
  | remBits + 8, i, m => do
      let o ← readOctet data (base + i)
      f9Last data base remBits (i + 1) (place m i o)
  | remBits, i, m =>
      if 0 < remBits then do
        let o ← readOctet data (base + i)
        .ok (place m i (o &&& mask8bit remBits))
      else .ok m

/-- `D - 2`, which is the number of words before the last one. -/
def f9Rounds (length : UInt64) : UInt32 :=
  (if length % 64 = 0 then (length >>> 6) + 1 else (length >>> 6) + 2).toUInt32 - 2

/-- `rem_bits` of the last word. -/
def f9RemBits (length : UInt64) : Nat :=
  if length % 64 = 0 then 64 else (length % 64).toNat

/-- The key stream of f9: five words. -/
def f9KeyStream (key : Vector UInt8 16) (count fresh dir : UInt32) : List UInt32 :=
  snow3gGenerateKeyStream 5
    (snow3gInitialize (Vector.ofFn fun i : Fin 4 => keyWord key (3 - i))
      #v[fresh ^^^ dir <<< 15, count ^^^ dir <<< 31, fresh, count])

/-- Two words of the key stream. -/
def twoWords (hi lo : UInt32) : UInt64 := hi.toUInt64 <<< 32 ||| lo.toUInt64

/-- The octets of `out`. -/
def macOctets (eval : UInt64) (z4 : UInt32) : List UInt8 :=
  (List.range 4).map (fun i =>
    ((eval >>> UInt64.ofNat (56 - i * 8) ^^^ (z4 >>> UInt32.ofNat (24 - i * 8)).toUInt64)
      &&& 0xff).toUInt8)

/-- `snow_3g_f9` -/
def snow3gF9 (key : Vector UInt8 16) (count fresh dir : UInt32) (data : List UInt8)
    (length : UInt64) : Except Fault (List UInt8) := do
  let z := f9KeyStream key count fresh dir
  let p := twoWords (z.getD 0 0) (z.getD 1 0)
  let q := twoWords (z.getD 2 0) (z.getD 3 0)
  let rounds := f9Rounds length
  let eval ← f9Loop data p rounds.toNat 0 0
  let m ← f9Last data (8 * rounds).toNat (f9RemBits length) 0 0
  let eval := mul64 (eval ^^^ m) p 0x1b
  .ok (macOctets (mul64 (eval ^^^ length) q 0x1b) (z.getD 4 0))

/-- `f_snow_3g_f9` -/
def fSnow3gF9 (key : Vector UInt8 16) (count fresh : Int) (isDownlink : Bool)
    (data : List UInt8) : Except Fault (List UInt8) :=
  (cInt count).bind (fun c => (cInt fresh).bind (fun f =>
    snow3gF9 key c.toUInt32 f.toUInt32 (if isDownlink then 1 else 0) data
      (UInt64.ofNat data.length * 8)))

-- ── Multiplication is the product ────────────────────────────────────────────

/-- `MUL64x` is one step of a register of 64 bits. -/
theorem mul64x_toNat (v c : UInt64) :
    (mul64x v c).toNat = Crc.step 64 c.toNat v.toNat false := by
  have htop : (v &&& 0x8000000000000000 ≠ 0) ↔ v.toNat &&& (1 <<< 63) ≠ 0 := by
    rw [ne_eq, ne_eq, ← UInt64.toNat_inj, UInt64.toNat_and]
    rfl
  have hmask : ∀ n : Nat, n &&& ((1 <<< 64) - 1) = n % 2 ^ 64 := fun n =>
    Nat.and_two_pow_sub_one_eq_mod n 64
  have hshift : (v <<< 1).toNat = v.toNat <<< 1 % 2 ^ 64 := UInt64.toNat_shiftLeft v 1
  have hc : c.toNat % 2 ^ 64 = c.toNat := Nat.mod_eq_of_lt c.toNat_lt
  show _ = (if (v.toNat ^^^ (0 <<< 63)) &&& (1 <<< 63) ≠ 0
    then ((v.toNat ^^^ (0 <<< 63)) <<< 1) ^^^ c.toNat
    else (v.toNat ^^^ (0 <<< 63)) <<< 1) &&& ((1 <<< 64) - 1)
  rw [Nat.zero_shiftLeft, Nat.xor_zero, hmask, mul64x]
  by_cases h : v &&& 0x8000000000000000 ≠ 0
  · rw [if_pos h, if_pos (htop.mp h), UInt64.toNat_xor, hshift, Nat.xor_mod_two_pow, hc]
  · rw [if_neg h, if_neg (mt htop.mpr h), hshift]

/-- `MUL64xPOW` is so many of them. -/
theorem mul64xPow_toNat (v c : UInt64) (i : Nat) :
    (mul64xPow v i c).toNat = shifted 64 c.toNat v.toNat i := by
  induction i with
  | zero => rfl
  | succ i ih => rw [mul64xPow, mul64x_toNat, ih, shifted]

/-- `MUL64` is a product of polynomials. -/
theorem mul64_toNat (v p c : UInt64) :
    (mul64 v p c).toNat = product 64 c.toNat v.toNat p.toNat 64 := by
  have hbit : ∀ i < 64, (p >>> UInt64.ofNat i &&& 0x1 ≠ 0) ↔ p.toNat.testBit i = true := by
    intro i hi
    have hi' : (UInt64.ofNat i).toNat = i := by
      rw [UInt64.toNat_ofNat']
      omega
    rw [ne_eq, ← UInt64.toNat_inj, UInt64.toNat_and, UInt64.toNat_shiftRight, hi',
      Nat.mod_eq_of_lt hi, Nat.testBit]
    rw [Nat.and_comm]
    simp
  have hfirst : ∀ n ≤ 64, ((List.range n).foldl (mul64Round v p c) 0).toNat
      = product 64 c.toNat v.toNat p.toNat n := by
    intro n
    induction n with
    | zero => exact fun _ => rfl
    | succ n ih =>
        intro hn
        rw [List.range_succ, List.foldl_append, List.foldl_cons, List.foldl_nil, mul64Round,
          product, ← ih (by omega)]
        by_cases h : p.toNat.testBit n = true
        · rw [if_pos h, if_pos ((hbit n (by omega)).mpr h), UInt64.toNat_xor, mul64xPow_toNat]
        · rw [if_neg h, if_neg (mt (hbit n (by omega)).mp h)]
  exact hfirst 64 (Nat.le_refl 64)

/-- The residue of a word modulo `X^64 + X^4 + X^3 + X + 1`. -/
noncomputable def residue (w : UInt64) : Residue 64 0x1b := res 64 0x1b w.toNat

/-- Words of one residue are the same. -/
theorem residue_injective : Function.Injective residue := fun a b h =>
  UInt64.toNat_inj.mp (res_injective a.toNat_lt b.toNat_lt h)

theorem residue_xor (a b : UInt64) : residue (a ^^^ b) = residue a + residue b := by
  rw [residue, UInt64.toNat_xor, res_xor]
  rfl

/-- **`MUL64` IS THE PRODUCT** of residues. -/
theorem residue_mul64 (v p : UInt64) :
    residue (mul64 v p 0x1b) = residue v * residue p := by
  rw [residue, mul64_toNat]
  exact res_product (by decide) (by decide) v.toNat p.toNat

-- ── The words of a message ───────────────────────────────────────────────────

/-- The octets of a message from `base` on, at the places `js` of a word;
    behind the end there are zeros. -/
def placed (data : List UInt8) (base : Nat) (js : List Nat) (m : UInt64) : UInt64 :=
  js.foldl (fun m j => place m j (data.getD (base + j) 0)) m

/-- Word `i` of a message. -/
def wordAt (data : List UInt8) (i : Nat) : UInt64 := placed data (8 * i) (List.range 8) 0

/-- The words that a message fills, the last one perhaps in part. -/
def blocks (data : List UInt8) : List UInt64 :=
  (List.range ((data.length + 7) / 8)).map (wordAt data)

theorem readOctet_ok {data : List UInt8} {j : Nat} (h : j < data.length) :
    readOctet data j = .ok (data.getD j 0) := by
  rw [readOctet, List.getD_eq_getElem?_getD, List.getElem?_eq_getElem h]
  rfl

/-- Eight octets that are there make a word. -/
theorem f9Word_ok {data : List UInt8} {base : Nat} (h : base + 8 ≤ data.length) :
    f9Word data base = .ok (placed data base (List.range 8) 0) := by
  rw [f9Word, readOctet_ok (j := base) (by omega), readOctet_ok (j := base + 1) (by omega),
    readOctet_ok (j := base + 2) (by omega), readOctet_ok (j := base + 3) (by omega),
    readOctet_ok (j := base + 4) (by omega), readOctet_ok (j := base + 5) (by omega),
    readOctet_ok (j := base + 6) (by omega), readOctet_ok (j := base + 7) (by omega)]
  simp [placed, List.range_succ, place]

/-- The loop over the octets of the last word. -/
theorem f9Last_ok {data : List UInt8} {base : Nat} : ∀ (k i : Nat) (m : UInt64),
    base + i + k ≤ data.length →
    f9Last data base (8 * k) i m = .ok (placed data base (List.range' i k) m) := by
  intro k
  induction k with
  | zero => exact fun _ _ _ => rfl
  | succ k ih =>
      intro i m h
      have hmul : 8 * (k + 1) = 8 * k + 8 := by omega
      rw [hmul, f9Last, readOctet_ok (j := base + i) (by omega), ok_bind, ih _ _ (by omega)]
      rfl

theorem place_zero (m : UInt64) (j : Nat) : place m j 0 = m := by
  rw [place]
  simp

/-- Behind the end of the message nothing is added. -/
theorem placed_beyond {data : List UInt8} {base : Nat} (js : List Nat) (m : UInt64)
    (h : ∀ j ∈ js, data.length ≤ base + j) : placed data base js m = m := by
  induction js generalizing m with
  | nil => rfl
  | cons j js ih =>
      have hzero : data.getD (base + j) 0 = 0 :=
        List.getD_eq_default _ _ (h j List.mem_cons_self)
      rw [placed, List.foldl_cons, hzero, place_zero]
      exact ih m (fun j' hj => h j' (List.mem_cons_of_mem _ hj))

/-- **THE LAST WORD** holds the rest of the message and zeros. -/
theorem f9Last_word {data : List UInt8} {i k : Nat} (hk : k ≤ 8)
    (hend : data.length = 8 * i + k) : f9Last data (8 * i) (8 * k) 0 0 = .ok (wordAt data i) := by
  rw [f9Last_ok k 0 0 (by omega), wordAt]
  have hsplit : List.range 8 = List.range' 0 k ++ List.range' k (8 - k) := by
    have happ := List.range'_append_1 (s := 0) (m := k) (n := 8 - k)
    rw [Nat.zero_add, Nat.add_sub_cancel' hk] at happ
    rw [List.range_eq_range', happ]
  have happ : placed data (8 * i) (List.range' 0 k ++ List.range' k (8 - k)) 0
      = placed data (8 * i) (List.range' k (8 - k)) (placed data (8 * i) (List.range' 0 k) 0) :=
    List.foldl_append
  rw [hsplit, happ]
  refine congrArg Except.ok (placed_beyond _ _ fun j hj => ?_).symm
  have hj' := List.mem_range'_1.mp hj
  omega

/-- The loop over the words before the last one. -/
theorem f9Loop_ok {data : List UInt8} (p : UInt64) : ∀ (n i : Nat) (eval : UInt64),
    8 * (i + n) ≤ data.length → i + n < 2 ^ 29 →
    f9Loop data p n (UInt32.ofNat i) eval = .ok (((List.range' i n).map (wordAt data)).foldl
      (fun e m => mul64 (e ^^^ m) p 0x1b) eval) := by
  intro n
  induction n with
  | zero => exact fun _ _ _ _ => rfl
  | succ n ih =>
      intro i eval h hi
      have hbase : (8 * UInt32.ofNat i).toNat = 8 * i := by
        rw [UInt32.toNat_mul, UInt32.toNat_ofNat']
        show 8 * (i % 2 ^ 32) % 2 ^ 32 = 8 * i
        omega
      have hnext : UInt32.ofNat i + 1 = UInt32.ofNat (i + 1) := by
        rw [UInt32.ofNat_add]
        rfl
      rw [f9Loop, hbase, f9Word_ok (by omega), ok_bind, hnext, ih _ _ (by omega) (by omega)]
      rfl

-- ── The code of a message ────────────────────────────────────────────────────

/-- For a message of `n` octets, the words before the last one and its octets. -/
theorem f9_split {n : Nat} (hpos : 0 < n) (hn : n < 2 ^ 31) :
    ∃ i k, 0 < k ∧ k ≤ 8 ∧ n = 8 * i + k ∧ (n + 7) / 8 = i + 1 ∧
      f9Rounds (UInt64.ofNat n * 8) = UInt32.ofNat i ∧
      f9RemBits (UInt64.ofNat n * 8) = 8 * k := by
  have hlen : (UInt64.ofNat n * 8).toNat = 8 * n := by
    rw [UInt64.toNat_mul, UInt64.toNat_ofNat']
    show n % 2 ^ 64 * 8 % 2 ^ 64 = 8 * n
    omega
  have hmod : (UInt64.ofNat n * 8 % 64).toNat = 8 * n % 64 := by
    rw [UInt64.toNat_mod, hlen]
    rfl
  have hzero : UInt64.ofNat n * 8 % 64 = 0 ↔ n % 8 = 0 := by
    rw [← UInt64.toNat_inj, hmod]
    show 8 * n % 64 = 0 ↔ n % 8 = 0
    omega
  have hdiv : ((UInt64.ofNat n * 8) >>> 6).toNat = n / 8 := by
    rw [UInt64.toNat_shiftRight, hlen]
    show (8 * n) >>> 6 = n / 8
    rw [Nat.shiftRight_eq_div_pow]
    omega
  by_cases h : n % 8 = 0
  · refine ⟨n / 8 - 1, 8, by omega, by omega, by omega, by omega, ?_, ?_⟩
    · rw [f9Rounds, if_pos (hzero.mpr h), ← UInt32.toNat_inj, UInt32.toNat_sub,
        UInt64.toNat_toUInt32, UInt64.toNat_add, hdiv, UInt32.toNat_ofNat']
      show (2 ^ 32 - 2 + (n / 8 + 1) % 2 ^ 64 % 2 ^ 32) % 2 ^ 32 = (n / 8 - 1) % 2 ^ 32
      omega
    · rw [f9RemBits, if_pos (hzero.mpr h)]
  · refine ⟨n / 8, n % 8, by omega, by omega, by omega, by omega, ?_, ?_⟩
    · rw [f9Rounds, if_neg (mt hzero.mp h), ← UInt32.toNat_inj, UInt32.toNat_sub,
        UInt64.toNat_toUInt32, UInt64.toNat_add, hdiv, UInt32.toNat_ofNat']
      show (2 ^ 32 - 2 + (n / 8 + 2) % 2 ^ 64 % 2 ^ 32) % 2 ^ 32 = n / 8 % 2 ^ 32
      omega
    · rw [f9RemBits, if_neg (mt hzero.mp h), hmod]
      omega

/-- `P` and `Q` of a key stream. -/
def f9P (z : List UInt32) : UInt64 := twoWords (z.getD 0 0) (z.getD 1 0)

/-- `Q`, of the third and fourth word. -/
def f9Q (z : List UInt32) : UInt64 := twoWords (z.getD 2 0) (z.getD 3 0)

/-- The word whose top half becomes the code. -/
def f9Eval (z : List UInt32) (data : List UInt8) : UInt64 :=
  mul64 ((blocks data).foldl (fun e m => mul64 (e ^^^ m) (f9P z) 0x1b) 0
    ^^^ (UInt64.ofNat data.length * 8)) (f9Q z) 0x1b

/-- Horner's rule on words is Horner's rule on residues. -/
theorem residue_foldl (p : UInt64) : ∀ (ms : List UInt64) (e : UInt64),
    residue (ms.foldl (fun e m => mul64 (e ^^^ m) p 0x1b) e)
      = (ms.map residue).foldl (fun e m => (e + m) * residue p) (residue e) := by
  intro ms
  induction ms with
  | nil => exact fun _ => rfl
  | cons m ms ih =>
      intro e
      rw [List.foldl_cons, ih, residue_mul64, residue_xor]
      rfl

/-- What f9 computes of a message that is not empty. -/
theorem snow3gF9_ok {key : Vector UInt8 16} {count fresh dir : UInt32} {data : List UInt8}
    (hpos : data ≠ []) (hn : data.length < 2 ^ 31) :
    snow3gF9 key count fresh dir data (UInt64.ofNat data.length * 8)
      = .ok (macOctets (f9Eval (f9KeyStream key count fresh dir) data)
          ((f9KeyStream key count fresh dir).getD 4 0)) := by
  obtain ⟨i, k, -, hk, hlen, hblocks, hrounds, hrem⟩ :=
    f9_split (List.length_pos_of_ne_nil hpos) hn
  have hi : (UInt32.ofNat i).toNat = i := by
    rw [UInt32.toNat_ofNat']
    omega
  have hbase : (8 * UInt32.ofNat i).toNat = 8 * i := by
    rw [UInt32.toNat_mul, hi]
    show 8 * i % 2 ^ 32 = 8 * i
    omega
  have hloop := @f9Loop_ok data (f9P (f9KeyStream key count fresh dir)) i 0 0
    (by omega) (by omega)
  have hsplit : blocks data = (List.range' 0 i).map (wordAt data) ++ [wordAt data i] := by
    rw [blocks, hblocks, List.range_succ, List.map_append, List.range_eq_range']
    rfl
  rw [snow3gF9]
  show (f9Loop data (f9P _) (f9Rounds _).toNat (UInt32.ofNat 0) 0).bind _ = _
  rw [hrounds, hi, hloop, hrem, hbase, f9Eval, hsplit, List.foldl_append]
  show (f9Last data (8 * i) (8 * k) 0 0).bind _ = _
  rw [f9Last_word hk hlen]
  rfl

/-- **THE LOOP OF F9** evaluates a polynomial. -/
theorem residue_f9Eval (z : List UInt32) (data : List UInt8) :
    residue (f9Eval z data) = (evalAt (residue (f9P z)) ((blocks data).map residue)
      + residue (UInt64.ofNat data.length * 8)) * residue (f9Q z) := by
  have hzero : residue 0 = 0 := res_zero 64 0x1b
  rw [f9Eval, residue_mul64, residue_xor, residue_foldl, horner, hzero, zero_mul, zero_add]

/-- An empty message: the number of words before the last one wraps around, and
    the first of them is not there. -/
theorem snow3gF9_empty (key : Vector UInt8 16) (count fresh dir : UInt32) :
    snow3gF9 key count fresh dir [] 0 = .error .overread := rfl

/-- **THE CODE OF A MESSAGE**: for every message that is not empty, the wrapper
    reads the message and no more and returns the top half of one word, masked
    with the fifth word of the key stream.  The residue of that word is the
    message evaluated at `P`, the length in bits added, times `Q`; no other
    word has it.  For an empty message it reads past the end. -/
theorem fSnow3gF9_code (key : Vector UInt8 16) {count fresh : Int} (isDownlink : Bool)
    {data : List UInt8} (hc : IsCInt count) (hf : IsCInt fresh) (hn : data.length < 2 ^ 31) :
    (data = [] → fSnow3gF9 key count fresh isDownlink data = .error .overread) ∧
    (data ≠ [] → ∃ w z, z = f9KeyStream key (Int32.ofInt count).toUInt32
        (Int32.ofInt fresh).toUInt32 (if isDownlink then 1 else 0) ∧
      fSnow3gF9 key count fresh isDownlink data = .ok (macOctets w (z.getD 4 0)) ∧
      residue w = (evalAt (residue (f9P z)) ((blocks data).map residue)
        + residue (UInt64.ofNat data.length * 8)) * residue (f9Q z) ∧
      ∀ w', residue w' = residue w → w' = w) := by
  obtain ⟨z, hz⟩ : ∃ z, z = f9KeyStream key (Int32.ofInt count).toUInt32
      (Int32.ofInt fresh).toUInt32 (if isDownlink then 1 else 0) := ⟨_, rfl⟩
  have hc' : cInt count = .ok (Int32.ofInt count) := if_pos hc
  have hf' : cInt fresh = .ok (Int32.ofInt fresh) := if_pos hf
  constructor
  · rintro rfl
    rw [fSnow3gF9, hc', hf']
    exact snow3gF9_empty key (Int32.ofInt count).toUInt32 (Int32.ofInt fresh).toUInt32
      (if isDownlink then 1 else 0)
  · intro hpos
    refine ⟨f9Eval z data, z, hz, ?_, residue_f9Eval z data, fun w' h => residue_injective h⟩
    rw [fSnow3gF9, hc', hf', hz]
    exact snow3gF9_ok hpos hn

/-- A message of two words, the second one filled up with zeros. -/
def twelveOctets : List UInt8 :=
  [0x80, 0x01, 0xff, 0x37, 0x5a, 0xc3, 0x00, 0x92, 0x6e, 0x18, 0xf4, 0x2d]

/-- A message of twelve octets. -/
theorem fSnow3gF9_code_twelve :
    ∃ w z, z = f9KeyStream (Vector.replicate 16 0) (Int32.ofInt 7).toUInt32
        (Int32.ofInt (-2)).toUInt32 (if true then 1 else 0) ∧
      fSnow3gF9 (Vector.replicate 16 0) 7 (-2) true twelveOctets
        = .ok (macOctets w (z.getD 4 0)) ∧
      residue w = (evalAt (residue (f9P z)) ((blocks twelveOctets).map residue)
        + residue (UInt64.ofNat twelveOctets.length * 8)) * residue (f9Q z) ∧
      ∀ w', residue w' = residue w → w' = w :=
  (fSnow3gF9_code (Vector.replicate 16 0) true ⟨by decide, by decide⟩ ⟨by decide, by decide⟩
    (by decide)).2
    (List.cons_ne_nil _ _)

end OsmoSnow3g
