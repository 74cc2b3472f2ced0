import OsmoTtcn.TitanProofs

/-! # Numbers as texts

    `int2str` and `str2int` of TTCN-3 with their round trip. -/

namespace OsmoMisc

open OsmoTitan

/-- `charstring`, as a list of characters. -/
abbrev Charstring : Type := List Char

/-- `isspace` of the C locale. -/
def isSpace (c : Char) : Bool := c ∈ [' ', '\t', '\n', '\r', Char.ofNat 11, Char.ofNat 12]

/-- The text without the white space around it. -/
def trimmed (s : Charstring) : Charstring :=
  ((s.dropWhile isSpace).reverse.dropWhile isSpace).reverse

/-- The digits of a number, without a sign. -/
def str2nat (s : Charstring) : Except Fault Nat :=
  if s ≠ [] ∧ s.all Char.isDigit = true then .ok (Nat.ofDigitChars 10 s 0)
  else .error (.ttcnError
    "The argument of function str2int() does not represent a valid integer value.")

/-- `str2int`: white space around the number is let through. -/
def str2int (s : Charstring) : Except Fault Int :=
  match trimmed s with
  | '-' :: digits => (str2nat digits).map fun n : Nat => -(n : Int)
  | '+' :: digits => (str2nat digits).map fun n : Nat => (n : Int)
  | digits => (str2nat digits).map fun n : Nat => (n : Int)

/-- `int2str` -/
def int2str (n : Int) : Charstring :=
  if n < 0 then '-' :: Nat.toDigits 10 n.natAbs else Nat.toDigits 10 n.natAbs

-- ── From numbers to texts and back ───────────────────────────────────────────

/-- Where there is no space none is dropped. -/
theorem dropWhile_of_none {s : Charstring} (h : ∀ c ∈ s, isSpace c = false) :
    s.dropWhile isSpace = s := by
  cases s with
  | nil => rfl
  | cons c s => exact List.dropWhile_cons_of_neg (by rw [h c List.mem_cons_self]; decide)

/-- Where there is no space none is trimmed. -/
theorem trimmed_of_none {s : Charstring} (h : ∀ c ∈ s, isSpace c = false) : trimmed s = s := by
  rw [trimmed, dropWhile_of_none h,
    dropWhile_of_none fun c hc => h c (List.mem_reverse.mp hc), List.reverse_reverse]

/-- The digits of a number are digits. -/
theorem isDigit_toDigits (n : Nat) {c : Char} (h : c ∈ Nat.toDigits 10 n) : c.isDigit = true :=
  Nat.isDigit_of_mem_toDigits (by decide) (by decide) h

/-- The digits of a number are read back. -/
theorem str2nat_toDigits (n : Nat) : str2nat (Nat.toDigits 10 n) = .ok n := by
  have hall : (Nat.toDigits 10 n).all Char.isDigit = true :=
    List.all_eq_true.mpr fun c hc => isDigit_toDigits n hc
  rw [str2nat, if_pos ⟨Nat.toDigits_ne_nil, hall⟩,
    Nat.ofDigitChars_toDigits (by decide) (by decide)]

/-- A digit is no white space and no sign. -/
theorem isDigit_ne {c d : Char} (h : c.isDigit = true) (hd : d.isDigit = false) : c ≠ d :=
  fun heq => by
    rw [heq, hd] at h
    exact Bool.false_ne_true h

/-- A digit is no space. -/
theorem isDigit_not_space {c : Char} (h : c.isDigit = true) : isSpace c = false := by
  rw [isSpace, decide_eq_false_iff_not]
  intro hc
  simp only [List.mem_cons, List.not_mem_nil, or_false] at hc
  rcases hc with hc | hc | hc | hc | hc | hc
  all_goals exact isDigit_ne h (by decide) hc

/-- The text of a number has digits and perhaps a sign. -/
theorem int2str_char {n : Int} {c : Char} (h : c ∈ int2str n) : c = '-' ∨ c.isDigit = true := by
  rw [int2str] at h
  by_cases hn : n < 0
  · rw [if_pos hn] at h
    exact (List.mem_cons.mp h).imp_right (isDigit_toDigits _)
  · rw [if_neg hn] at h
    exact Or.inr (isDigit_toDigits _ h)

/-- No other character is in it. -/
theorem int2str_notMem (n : Int) {c : Char} (hsign : c ≠ '-') (hdigit : c.isDigit = false) :
    c ∉ int2str n := by
  intro h
  rcases int2str_char h with hc | hc
  · exact hsign hc
  · rw [hdigit] at hc
    exact Bool.false_ne_true hc

/-- It is not empty. -/
theorem int2str_ne_nil (n : Int) : int2str n ≠ [] := by
  rw [int2str]
  by_cases hn : n < 0
  · rw [if_pos hn]
    exact List.cons_ne_nil _ _
  · rw [if_neg hn]
    exact Nat.toDigits_ne_nil

/-- **NUMBERS**: what `int2str` writes, `str2int` reads. -/
theorem str2int_int2str (n : Int) : str2int (int2str n) = .ok n := by
  have htrim : trimmed (int2str n) = int2str n := trimmed_of_none fun c hc => by
    rcases int2str_char hc with rfl | hdigit
    · decide
    · exact isDigit_not_space hdigit
  rw [str2int, htrim, int2str]
  by_cases hn : n < 0
  · rw [if_pos hn]
    show (str2nat _).map _ = _
    rw [str2nat_toDigits]
    exact congrArg Except.ok (by show -(n.natAbs : Int) = n; omega)
  · rw [if_neg hn]
    have hvalue : (str2nat (Nat.toDigits 10 n.natAbs)).map (fun n : Nat => (n : Int)) = .ok n := by
      rw [str2nat_toDigits]
      exact congrArg Except.ok (by show (n.natAbs : Int) = n; omega)
    cases hdigits : Nat.toDigits 10 n.natAbs with
    | nil => exact absurd hdigits Nat.toDigits_ne_nil
    | cons c digits =>
        -- the first digit is no sign
        have hc : c.isDigit = true :=
          isDigit_toDigits n.natAbs (by rw [hdigits]; exact List.mem_cons_self)
        have hminus : c ≠ '-' := isDigit_ne hc (by decide)
        have hplus : c ≠ '+' := isDigit_ne hc (by decide)
        rw [hdigits] at hvalue
        split
        · rename_i heq
          exact absurd (List.head_eq_of_cons_eq heq) hminus
        · rename_i heq
          exact absurd (List.head_eq_of_cons_eq heq) hplus
        · exact hvalue

end OsmoMisc
