import OsmoTtcn.WireOctetProofs

/-! # The runtime under the C++ helpers

    The hand-written C++ functions run on the TITAN runtime.  They stop a
    test case with `TTCN_error`, they call generated RAW codecs that report a
    buffer that is too short or a value that is too large for its field, and
    they index C buffers with no check at all.  `Fault` keeps these apart, so
    that an access past the end of a buffer is never mistaken for a reported
    error. -/

namespace OsmoTitan

open WireOctet

/-- Why a helper does not return. -/
inductive Fault where
  /-- `TTCN_error` with its text. -/
  | ttcnError (msg : String)
  /-- The RAW decoder ran out of bits. -/
  | rawIncomplete
  /-- The RAW encoder was given a value too large for its field. -/
  | rawOverflow
  /-- An octet past the end of the buffer is accessed. -/
  | overread
  /-- A C array is written past its end. -/
  | overrun
  /-- The dynamic test case error of TTCN-3 for an index outside a value. -/
  | badIndex
  /-- The dynamic test case error of TTCN-3 for a number that does not fit. -/
  | outOfRange
  /-- `Misc_Helpers.f_shutdown` with the verdict fail and its text. -/
  | shutdown (msg : String)
  /-- A value that is unbound is used. -/
  | unbound
  /-- The dynamic test case error for a number no enumerated item has. -/
  | invalidEnum
  /-- `std::runtime_error` with its text. -/
  | thrown (msg : String)
  /-- A failed `assert`. -/
  | assertion
  /-- The rounds a loop is given did not suffice. -/
  | outOfFuel
  deriving DecidableEq, Repr

/-- `n` octets from the start of a piece of memory, as `memcpy` and the
    constructor of an `OCTETSTRING` take them: nothing checks that they are
    there. -/
def copyOctets (n : Nat) (mem : List UInt8) : Except Fault (List UInt8) :=
  if mem.length < n then .error .overread else .ok (mem.take n)

/-- `INTEGER::operator int` -/
def cInt (n : Int) : Except Fault Int32 :=
  if -2147483648 ≤ n ∧ n < 2147483648 then .ok (Int32.ofInt n)
  else .error (.ttcnError "Using the value of a large integer value as an integer.")

/-- The items of an enumerated type with their numbers, of which no two are
    the same. -/
class Enumerated (E : Type) where
  items : List E
  num : E → Int32
  find_num : ∀ e, items.find? (fun x => num x == num e) = some e

/-- The constructor of an enumerated type from a number. -/
def enumOfInt {E : Type} [Enumerated E] (n : Int32) : Except Fault E :=
  match Enumerated.items.find? (fun x : E => Enumerated.num x == n) with
  | some e => .ok e
  | none => .error .invalidEnum

/-- `substr` of TTCN-3, which refuses a negative index or count. -/
def substr (s : List UInt8) (index n : Int) : Except Fault (List UInt8) :=
  if 0 ≤ index ∧ 0 ≤ n ∧ index + n ≤ s.length then
    .ok ((s.drop index.toNat).take n.toNat)
  else .error .badIndex

/-- A part that is inside is cut out. -/
theorem substr_ok {s : List UInt8} {index n : Nat} (h : index + n ≤ s.length) :
    substr s index n = .ok ((s.drop index).take n) :=
  if_pos (by omega)

/-- `int2oct(n, 1)` -/
def int2oct1 (n : Int) : Except Fault UInt8 :=
  if 0 ≤ n ∧ n < 256 then .ok (UInt8.ofNat n.toNat) else .error .outOfRange

/-- What a search found, or the verdict fail with its text. -/
def orShutdown {α : Type} (found : Option α) (msg : String) : Except Fault α :=
  match found with
  | some a => .ok a
  | none => .error (.shutdown msg)

/-- The value of a variable or a field that may be unbound. -/
def bound {α : Type} (value : Option α) : Except Fault α :=
  match value with
  | some a => .ok a
  | none => .error .unbound

@[simp] theorem ok_bind {α β : Type} (a : α) (f : α → Except Fault β) :
    (Except.ok a >>= f) = f a := rfl

@[simp] theorem error_bind {α β : Type} (e : Fault) (f : α → Except Fault β) :
    ((Except.error e : Except Fault α) >>= f) = .error e := rfl

/-- A computation that came through came through in both parts. -/
theorem bind_ok {α β : Type} {x : Except Fault α} {f : α → Except Fault β}
    {r : β} (h : x.bind f = .ok r) : ∃ a, x = .ok a ∧ f a = .ok r := by
  cases x with
  | error e => exact nomatch h
  | ok a => exact ⟨a, rfl, h⟩

/-- What was mapped came from a value. -/
theorem map_ok {α β : Type} {x : Except Fault α} {f : α → β} {r : β}
    (h : x.map f = .ok r) : ∃ a, x = .ok a ∧ f a = r := by
  cases x with
  | error e => exact nomatch h
  | ok a => exact ⟨a, rfl, Except.ok.inj h⟩

/-- A computation that failed failed in one of its parts. -/
theorem bind_error {α β : Type} {x : Except Fault α} {f : α → Except Fault β}
    {e : Fault} (h : x.bind f = .error e) :
    x = .error e ∨ ∃ a, x = .ok a ∧ f a = .error e := by
  cases x with
  | error e' => exact Or.inl (congrArg Except.error (Except.error.inj h))
  | ok a => exact Or.inr ⟨a, rfl, h⟩

/-- A mapping does not fail of its own. -/
theorem map_error {α β : Type} {x : Except Fault α} {f : α → β} {e : Fault}
    (h : x.map f = .error e) : x = .error e := by
  cases x with
  | error e' => exact congrArg Except.error (Except.error.inj h)
  | ok a => exact nomatch h

/-- An unbound value is the only failure. -/
theorem bound_error {α : Type} {value : Option α} {e : Fault}
    (h : bound value = .error e) : e = .unbound := by
  cases value with
  | none => exact (Except.error.inj h).symm
  | some b => exact nomatch h

/-- What is found is returned. -/
theorem orShutdown_eq_ok {α : Type} {found : Option α} {msg : String} {a : α} :
    orShutdown found msg = .ok a ↔ found = some a := by
  cases found with
  | none => simp [orShutdown]
  | some b => simp [orShutdown]

/-- A bound value is returned. -/
theorem bound_ok {α : Type} {value : Option α} {a : α} (h : bound value = .ok a) :
    value = some a := by
  cases value with
  | none => exact nomatch h
  | some b => rw [Except.ok.inj h]

/-- What is not found ends the test. -/
theorem orShutdown_eq_error {α : Type} {found : Option α} {msg : String} {e : Fault} :
    orShutdown found msg = .error e ↔ found = none ∧ e = .shutdown msg := by
  cases found with
  | none => simp [orShutdown, eq_comm]
  | some b => simp [orShutdown]

/-- As many octets as there are can be copied. -/
theorem copyOctets_ok {n : Nat} {mem : List UInt8} (h : n ≤ mem.length) :
    copyOctets n mem = .ok (mem.take n) :=
  if_neg (Nat.not_lt.mpr h)

/-- An integer of 32 bits is kept. -/
theorem cInt_ok {n : Int} (h : -2147483648 ≤ n ∧ n < 2147483648) :
    cInt n = .ok (Int32.ofInt n) :=
  if_pos h

/-- The number of an enumerated value is that value's. -/
theorem enumOfInt_num {E : Type} [Enumerated E] (e : E) :
    enumOfInt (Enumerated.num e) = .ok e := by
  rw [enumOfInt, Enumerated.find_num e]

end OsmoTitan
