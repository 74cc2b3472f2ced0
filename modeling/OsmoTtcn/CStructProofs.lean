import OsmoTtcn.WireOctetProofs

/-! # C structs in memory

    A struct is written member by member in its layout, and read by going
    through the same layout: `put…` writes a member before the octets that
    follow it, `get…` takes it off again.  Integers are little-endian.  A
    character array that is written is what was copied into it, the rest of
    it zero.  One that is read is a pointer, that is all the memory from its
    start on, because a C string ends with its terminator and not with its
    array: `cstr_putArray_lt` and `cstr_putArray_le` say when the string that
    was copied is the one that is read.

    The last part is about words of presence flags. -/

namespace CStruct

open WireOctet

/-- A string of octets. -/
abbrev Octets := List UInt8

-- ── Members ──────────────────────────────────────────────────────────────────

/-- Reads a member; nothing, when the memory ends. -/
abbrev Get := StateT Octets Option

variable {α β : Type}

/-- What is read first is read from the head. -/
theorem get_bind {g : Get α} {f : α → Get β} {bs bs' : Octets} {a : α}
    (h : g bs = some (a, bs')) : (g >>= f) bs = f a bs' := by
  show (g bs).bind (fun r => f r.1 r.2) = _
  rw [h]
  rfl

/-- A `uint8_t`. -/
def putU8 (n : UInt8) (rest : Octets) : Octets := n :: rest

/-- A `uint8_t`, read back. -/
def getU8 : Get UInt8
  | n :: rest => some (n, rest)
  | [] => none

/-- A `uint16_t`, its low octet first. -/
def putU16 (n : UInt16) (rest : Octets) : Octets :=
  UInt8.ofNat (n.toNat % 256) :: UInt8.ofNat (n.toNat / 256) :: rest

/-- A `uint16_t`, read back. -/
def getU16 : Get UInt16
  | a :: b :: rest => some (UInt16.ofNat (ofBe16 b a), rest)
  | _ => none

/-- A `uint32_t`, its lowest octet first. -/
def putU32 (n : UInt32) (rest : Octets) : Octets :=
  UInt8.ofNat (n.toNat % 256) :: UInt8.ofNat (n.toNat / 256 % 256)
    :: UInt8.ofNat (n.toNat / 256 ^ 2 % 256) :: UInt8.ofNat (n.toNat / 256 ^ 3)
    :: rest

/-- A `uint32_t`, read back. -/
def getU32 : Get UInt32
  | a :: b :: c :: d :: rest =>
      some (UInt32.ofNat (ofBe16 d c * 65536 + ofBe16 b a), rest)
  | _ => none

/-- An `int`. -/
def putI32 (n : Int32) (rest : Octets) : Octets := putU32 n.toUInt32 rest

/-- An `int`, read back. -/
def getI32 : Get Int32 := do
  let n ← getU32
  pure n.toInt32

/-- An array of `n` numbers that holds these, and zeros from there on. -/
def putI32s : Nat → List Int32 → Octets → Octets
  | 0, _, rest => rest
  | k + 1, ns, rest => putI32 (ns.headD 0) (putI32s k ns.tail rest)

/-- So many of them. -/
def getI32s : Nat → Get (List Int32)
  | 0 => pure []
  | k + 1 => do
      let n ← getI32
      let ns ← getI32s k
      pure (n :: ns)

/-- A pointer to an array of `n` characters. -/
def getPtr (n : Nat) : Get Octets := fun bs =>
  if bs.length < n then none else some (bs, bs.drop n)

/-- A pointer to the last member. -/
def getRest : Get Octets := fun bs => some (bs, [])

/-- An array of `n` characters that holds these, and zeros from there on. -/
def putArray (n : Nat) (chars rest : Octets) : Octets :=
  (chars ++ List.replicate n 0).take n ++ rest

/-- Octets that nobody reads. -/
def putPad (n : Nat) (rest : Octets) : Octets := List.replicate n 0 ++ rest

/-- Octets that nobody reads, passed over. -/
def skip (n : Nat) : Get Unit := fun bs =>
  if bs.length < n then none else some ((), bs.drop n)

theorem getU8_putU8 (n : UInt8) (rest : Octets) :
    getU8 (putU8 n rest) = some (n, rest) := rfl

theorem getU16_putU16 (n : UInt16) (rest : Octets) :
    getU16 (putU16 n rest) = some (n, rest) := by
  have hn : n.toNat < 65536 := n.toNat_lt_size
  have hval : ofBe16 (UInt8.ofNat (n.toNat / 256)) (UInt8.ofNat (n.toNat % 256))
      = n.toNat := by
    show (UInt8.ofNat _).toNat * 256 + (UInt8.ofNat _).toNat = _
    rw [toNat_octet (by omega), toNat_octet (by omega)]
    omega
  show some (UInt16.ofNat (ofBe16 _ _), rest) = _
  rw [hval, UInt16.ofNat_toNat]

theorem getU32_putU32 (n : UInt32) (rest : Octets) :
    getU32 (putU32 n rest) = some (n, rest) := by
  have hn : n.toNat < 4294967296 := n.toNat_lt_size
  have hhigh : ofBe16 (UInt8.ofNat (n.toNat / 256 ^ 3))
      (UInt8.ofNat (n.toNat / 256 ^ 2 % 256)) = n.toNat / 65536 := by
    show (UInt8.ofNat _).toNat * 256 + (UInt8.ofNat _).toNat = _
    rw [toNat_octet (by omega), toNat_octet (by omega)]
    omega
  have hlow : ofBe16 (UInt8.ofNat (n.toNat / 256 % 256))
      (UInt8.ofNat (n.toNat % 256)) = n.toNat % 65536 := by
    show (UInt8.ofNat _).toNat * 256 + (UInt8.ofNat _).toNat = _
    rw [toNat_octet (by omega), toNat_octet (by omega)]
    omega
  have hval : n.toNat / 65536 * 65536 + n.toNat % 65536 = n.toNat := by omega
  show some (UInt32.ofNat (ofBe16 _ _ * 65536 + ofBe16 _ _), rest) = _
  rw [hhigh, hlow, hval, UInt32.ofNat_toNat]

theorem getI32_putI32 (n : Int32) (rest : Octets) :
    getI32 (putI32 n rest) = some (n, rest) := by
  rw [getI32, putI32, get_bind (getU32_putU32 _ rest)]
  rfl

/-- What was put is read back, and zeros for the rest. -/
theorem getI32s_putI32s {n : Nat} {ns : List Int32} (h : ns.length ≤ n)
    (rest : Octets) :
    getI32s n (putI32s n ns rest)
      = some (ns ++ List.replicate (n - ns.length) 0, rest) := by
  induction n generalizing ns with
  | zero =>
      rw [List.eq_nil_of_length_eq_zero (Nat.le_zero.mp h)]
      rfl
  | succ k ih =>
      show (getI32 >>= _) (putI32 _ (putI32s k ns.tail rest)) = _
      rw [get_bind (getI32_putI32 _ _)]
      cases ns with
      | nil =>
          show (getI32s k >>= _) (putI32s k [] rest) = _
          rw [get_bind (@ih [] (Nat.zero_le k))]
          rfl
      | cons n ns =>
          show (getI32s k >>= _) (putI32s k ns rest) = _
          rw [get_bind (@ih ns (Nat.le_of_succ_le_succ h)), List.length_cons,
            Nat.succ_sub_succ]
          rfl

/-- An array is as long as it was declared. -/
theorem array_length (n : Nat) (chars : Octets) :
    ((chars ++ List.replicate n 0).take n).length = n := by
  rw [List.length_take, List.length_append, List.length_replicate]
  omega

/-- There are as many octets as the array has. -/
theorem le_putArray_length (n : Nat) (chars rest : Octets) :
    n ≤ (putArray n chars rest).length := by
  rw [putArray, List.length_append, array_length]
  exact Nat.le_add_right n _

/-- What follows the array comes next. -/
theorem drop_putArray (n : Nat) (chars rest : Octets) :
    (putArray n chars rest).drop n = rest := by
  have hlen := array_length n chars
  rw [putArray, List.drop_append_of_le_length (Nat.le_of_eq hlen.symm),
    List.drop_of_length_le (Nat.le_of_eq hlen)]
  rfl

/-- A pointer to the array sees what is behind it. -/
theorem getPtr_putArray (n : Nat) (chars rest : Octets) :
    getPtr n (putArray n chars rest) = some (putArray n chars rest, rest) := by
  rw [getPtr, if_neg (Nat.not_lt.mpr (le_putArray_length n chars rest)),
    drop_putArray]

/-- What is put is followed by zeros. -/
theorem putArray_eq {n : Nat} {chars : Octets} (h : chars.length ≤ n)
    (rest : Octets) :
    putArray n chars rest
      = chars ++ (List.replicate (n - chars.length) 0 ++ rest) := by
  rw [putArray, List.take_append, List.take_of_length_le h, List.take_replicate,
    Nat.min_eq_left (Nat.sub_le n chars.length), List.append_assoc]

/-- The head of the array is what was put. -/
theorem take_putArray {n : Nat} {chars : Octets} (h : chars.length ≤ n)
    (rest : Octets) :
    (putArray n chars rest).take chars.length = chars := by
  rw [putArray_eq h, List.take_left]

/-- Two arrays, the second within the zeros of the first. -/
theorem putArray_putArray (n k : Nat) (chars chars' rest : Octets) :
    putArray (n + k) (putArray n chars chars') rest
      = putArray n chars (putArray k chars' rest) := by
  have hlen := array_length n chars
  have htail : (chars' ++ List.replicate (n + k) 0).take k
      = (chars' ++ List.replicate k 0).take k := by
    rw [List.take_append, List.take_append, List.take_replicate, List.take_replicate]
    congr 2
    omega
  have hk : n + k - n = k := Nat.add_sub_cancel_left n k
  show ((_ ++ chars') ++ List.replicate (n + k) 0).take (n + k) ++ rest = _
  have hle : ((chars ++ List.replicate n 0).take n).length ≤ n + k :=
    Nat.le_trans (Nat.le_of_eq hlen) (Nat.le_add_right n k)
  rw [List.append_assoc, List.take_append, hlen, hk, htail,
    List.take_of_length_le hle, List.append_assoc]
  rfl

/-- The padding is passed over. -/
theorem skip_putPad (n : Nat) (rest : Octets) :
    skip n (putPad n rest) = some ((), rest) := by
  have hlen : (List.replicate n (0 : UInt8)).length = n := List.length_replicate
  have hlong : ¬ (putPad n rest).length < n := by
    rw [putPad, List.length_append]
    omega
  have hdrop : (putPad n rest).drop n = rest := by
    rw [putPad, List.drop_append_of_le_length (Nat.le_of_eq hlen.symm),
      List.drop_of_length_le (Nat.le_of_eq hlen)]
    rfl
  rw [skip, if_neg hlong, hdrop]

-- ── C strings ────────────────────────────────────────────────────────────────

/-- The characters of a C string in front of its terminator; nothing, when
    the memory ends before it. -/
def cstr : Octets → Option Octets
  | [] => none
  | c :: cs => if c = 0 then some [] else (cstr cs).map (c :: ·)

/-- What `strncpy` copies of a string into an array of `n` characters. -/
def strncpy (n : Nat) (s : Octets) : Octets := (s.takeWhile (· ≠ 0)).take n

/-- A string without a terminator in it. -/
def NoNul (s : Octets) : Prop := ∀ c ∈ s, c ≠ 0

instance (s : Octets) : Decidable (NoNul s) :=
  List.decidableBAll (fun c => c ≠ 0) s

/-- A text ends with its first zero. -/
theorem cstr_append {s : Octets} (h : NoNul s) (rest : Octets) :
    cstr (s ++ 0 :: rest) = some s := by
  induction s with
  | nil => rfl
  | cons c cs ih =>
      have hc : c ≠ 0 := h c List.mem_cons_self
      have hcs : NoNul cs := fun x hx => h x (List.mem_cons_of_mem c hx)
      show (if c = 0 then some [] else (cstr (cs ++ 0 :: rest)).map _) = _
      rw [if_neg hc, ih hcs]
      rfl

/-- A text without zeros is copied as it is. -/
theorem strncpy_eq {n : Nat} {s : Octets} (h : NoNul s) (hlen : s.length ≤ n) :
    strncpy n s = s := by
  have hall : (s ++ []).takeWhile (· ≠ 0) = s ++ [].takeWhile (· ≠ 0) :=
    List.takeWhile_append_of_pos fun c hc => decide_eq_true (h c hc)
  rw [List.takeWhile_nil, List.append_nil] at hall
  rw [strncpy, hall, List.take_of_length_le hlen]

/-- A string shorter than its array is terminated in it. -/
theorem cstr_putArray_lt {n : Nat} {s : Octets} (h : NoNul s)
    (hlen : s.length < n) (rest : Octets) :
    cstr (putArray n (strncpy n s) rest) = some s := by
  obtain ⟨k, hk⟩ := Nat.exists_eq_succ_of_ne_zero (Nat.sub_ne_zero_of_lt hlen)
  have hle : s.length ≤ n := Nat.le_of_lt hlen
  rw [strncpy_eq h hle, putArray_eq hle, hk]
  exact cstr_append h _

/-- A string that fills its array is terminated by a zero behind it. -/
theorem cstr_putArray_le {n : Nat} {s : Octets} (h : NoNul s)
    (hlen : s.length ≤ n) (rest : Octets) :
    cstr (putArray n (strncpy n s) (0 :: rest)) = some s := by
  rcases Nat.lt_or_eq_of_le hlen with hlt | heq
  · exact cstr_putArray_lt h hlt _
  · rw [strncpy_eq h hlen, putArray_eq hlen, heq, Nat.sub_self]
    exact cstr_append h _

-- ── Lists that end with a mark ───────────────────────────────────────────────

/-- The elements up to the first mark, which is the last of them. -/
def upTo [DecidableEq α] (mark : α) : List α → List α
  | [] => []
  | x :: xs => if x = mark then [x] else x :: upTo mark xs

/-- The mark is the last element, and only that. -/
def EndsWith (mark : α) (xs : List α) : Prop :=
  xs.getLast? = some mark ∧ mark ∉ xs.dropLast

instance [DecidableEq α] (mark : α) (xs : List α) : Decidable (EndsWith mark xs) :=
  inferInstanceAs (Decidable (_ ∧ _))

/-- A part is not longer than the whole. -/
theorem upTo_length_le [DecidableEq α] (mark : α) (xs : List α) :
    (upTo mark xs).length ≤ xs.length := by
  induction xs with
  | nil => exact Nat.le_refl 0
  | cons x xs ih =>
      rw [upTo]
      by_cases hx : x = mark
      · rw [if_pos hx]
        exact Nat.succ_le_succ (Nat.zero_le _)
      · rw [if_neg hx]
        exact Nat.succ_le_succ ih

/-- What follows the mark does not matter. -/
theorem upTo_append [DecidableEq α] {mark : α} {xs : List α}
    (h : EndsWith mark xs) (ys : List α) : upTo mark (xs ++ ys) = xs := by
  induction xs with
  | nil => exact nomatch h.1
  | cons x xs ih =>
      rw [List.cons_append, upTo]
      cases xs with
      | nil =>
          have hx : x = mark := Option.some.inj h.1
          rw [if_pos hx]
      | cons y zs =>
          have hx : x ≠ mark := fun he => h.2 (he ▸ List.mem_cons_self)
          have htail : EndsWith mark (y :: zs) :=
            ⟨h.1, fun hm => h.2 (List.mem_cons_of_mem x hm)⟩
          rw [if_neg hx, ih htail]

-- ── Flags ────────────────────────────────────────────────────────────────────

/-- `word & flag` as a condition -/
def hasFlag (word flag : UInt32) : Bool := decide (word &&& flag ≠ 0)

/-- A word of flags, each set with `word |= flag` where its condition holds. -/
def flagWord : List (UInt32 × Bool) → UInt32
  | [] => 0
  | (flag, b) :: flags => if b then flagWord flags ||| flag else flagWord flags

/-- Flags in separate bits. -/
def Disjoint (flags : List UInt32) : Prop :=
  flags.Pairwise (fun f f' => f &&& f' = 0) ∧ ∀ f ∈ flags, f ≠ 0

instance (flags : List UInt32) : Decidable (Disjoint flags) :=
  @instDecidableAnd _ _ inferInstance (List.decidableBAll (fun f => f ≠ 0) flags)

/-- A mask goes over a sum of flags. -/
theorem or_and_distrib (a b c : UInt32) :
    (a ||| b) &&& c = (a &&& c) ||| (b &&& c) :=
  UInt32.toBitVec_inj.mp BitVec.and_or_distrib_right

/-- A flag apart from all the flags of a word is not set in it. -/
theorem flagWord_and_eq_zero {flags : List (UInt32 × Bool)} {flag : UInt32}
    (h : ∀ f ∈ flags.map Prod.fst, flag &&& f = 0) :
    flagWord flags &&& flag = 0 := by
  induction flags with
  | nil => exact UInt32.zero_and
  | cons p flags ih =>
      obtain ⟨f, b⟩ := p
      have htail : flagWord flags &&& flag = 0 :=
        ih fun f hf => h f (List.mem_cons_of_mem _ hf)
      have hhead : f &&& flag = 0 := by
        rw [UInt32.and_comm]
        exact h f List.mem_cons_self
      cases b with
      | false => exact htail
      | true =>
          show (flagWord flags ||| f) &&& flag = 0
          rw [or_and_distrib, htail, hhead, UInt32.or_zero]

/-- **FLAGS ARE READ BACK**: a flag of the word is set when its condition
    holds, whatever the other flags are. -/
theorem hasFlag_flagWord {flags : List (UInt32 × Bool)}
    (hdis : Disjoint (flags.map Prod.fst)) {flag : UInt32} {b : Bool}
    (h : (flag, b) ∈ flags) : hasFlag (flagWord flags) flag = b := by
  induction flags with
  | nil => exact nomatch h
  | cons p flags ih =>
      obtain ⟨f, c⟩ := p
      obtain ⟨hpair, hne⟩ := hdis
      obtain ⟨hapart, hpair'⟩ := List.pairwise_cons.mp hpair
      have hdis' : Disjoint (flags.map Prod.fst) :=
        ⟨hpair', fun g hg => hne g (List.mem_cons_of_mem f hg)⟩
      rcases List.mem_cons.mp h with heq | htail
      · obtain ⟨rfl, rfl⟩ := Prod.mk.inj heq
        have hclear : flagWord flags &&& flag = 0 := flagWord_and_eq_zero hapart
        cases b with
        | false => exact decide_eq_false fun hset => hset hclear
        | true =>
            refine decide_eq_true ?_
            show (flagWord flags ||| flag) &&& flag ≠ 0
            rw [or_and_distrib, hclear, UInt32.and_self, UInt32.zero_or]
            exact hne flag List.mem_cons_self
      · have hapart' : f &&& flag = 0 :=
          hapart flag (List.mem_map_of_mem (f := Prod.fst) htail)
        have hrest : hasFlag (flagWord flags) flag = b := ih hdis' htail
        cases c with
        | false => exact hrest
        | true =>
            show decide ((flagWord flags ||| f) &&& flag ≠ 0) = b
            rw [or_and_distrib, hapart', UInt32.or_zero]
            exact hrest

end CStruct
