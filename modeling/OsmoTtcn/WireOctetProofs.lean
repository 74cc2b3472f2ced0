import Mathlib.Algebra.GroupWithZero.Nat
import Mathlib.Algebra.Group.Int.Defs
import Mathlib.Data.List.Induction
import Mathlib.Tactic.Common

/-! # Octets as numbers: bits, fields and big-endian words

    A wire format packs small numbers into octets by weights that are powers
    of two and reads them back by division and remainder.  This file has the
    two directions for one octet and for a 16-bit big-endian word, over plain
    naturals, so that the packing of a concrete header is an `omega` goal. -/

namespace WireOctet

/-- A truth value as the bit it is sent as. -/
def bit (b : Bool) : Nat := if b then 1 else 0

/-- Bit `k` of an octet, least significant first. -/
def bitOf (o : UInt8) (k : Nat) : Bool := decide (o.toNat / 2 ^ k % 2 = 1)

@[simp] theorem bit_true : bit true = 1 := rfl
@[simp] theorem bit_false : bit false = 0 := rfl

/-- A bit is less than two. -/
theorem bit_lt_two (b : Bool) : bit b < 2 := by
  cases b <;> decide

/-- A bit sent is the bit read. -/
theorem decide_bit_eq_one (b : Bool) : decide (bit b = 1) = b := by
  cases b <;> rfl

/-- A number that fits an octet survives it. -/
theorem toNat_octet {n : Nat} (h : n < 256) : (UInt8.ofNat n).toNat = n :=
  UInt8.toNat_ofNat_of_lt' h

/-- The high field of an octet of two fields, the low one below `w`. -/
theorem octet_div {a b w : Nat} (hb : b < w) (h : a * w + b < 256) :
    (UInt8.ofNat (a * w + b)).toNat / w = a := by
  have hw : 0 < w := Nat.lt_of_le_of_lt (Nat.zero_le b) hb
  rw [toNat_octet h, Nat.mul_comm, Nat.mul_add_div hw, Nat.div_eq_of_lt hb]
  rfl

/-- The low field. -/
theorem octet_mod {a b w : Nat} (hb : b < w) (h : a * w + b < 256) :
    (UInt8.ofNat (a * w + b)).toNat % w = b := by
  rw [toNat_octet h, Nat.mul_comm, Nat.mul_add_mod, Nat.mod_eq_of_lt hb]

/-- The two octets of a 16-bit word, most significant first. -/
def be16 (n : Nat) : List UInt8 := [UInt8.ofNat (n / 256), UInt8.ofNat (n % 256)]

/-- The word that two octets make. -/
def ofBe16 (hi lo : UInt8) : Nat := hi.toNat * 256 + lo.toNat

@[simp] theorem be16_length (n : Nat) : (be16 n).length = 2 := rfl

/-- **WORD ROUND TRIP**: a 16-bit number is read back from its two octets. -/
theorem ofBe16_be16 {n : Nat} (h : n < 65536) :
    ofBe16 (UInt8.ofNat (n / 256)) (UInt8.ofNat (n % 256)) = n := by
  show (UInt8.ofNat (n / 256)).toNat * 256 + (UInt8.ofNat (n % 256)).toNat = n
  rw [toNat_octet (show n / 256 < 256 by omega),
      toNat_octet (show n % 256 < 256 by omega)]
  omega

-- ── Fields of a few bits ─────────────────────────────────────────────────────

/- The numbers of a field of `k` bits are literals of `Fin (2 ^ k)`, which need a
   bound that is not zero. -/
instance (priority := high) neZero4 : NeZero 4 := ⟨by decide⟩
instance (priority := high) neZero8 : NeZero 8 := ⟨by decide⟩
instance (priority := high) neZero16 : NeZero 16 := ⟨by decide⟩
instance (priority := high) neZero32 : NeZero 32 := ⟨by decide⟩
instance (priority := high) neZero64 : NeZero 64 := ⟨by decide⟩
instance (priority := high) neZero128 : NeZero 128 := ⟨by decide⟩
instance (priority := high) neZero1024 : NeZero 1024 := ⟨by decide⟩
instance (priority := high) neZero2048 : NeZero 2048 := ⟨by decide⟩

end WireOctet

/-! # Fields that are followed by their lengths

    A string of fields of which each is followed by its length in two octets
    is read from its end: the last two octets say how long the last field is.
    So strings of fields that fit their lengths are told apart field by field. -/

namespace TrailedFields

open WireOctet

/-- The fields, each with its length behind it. -/
def octets (ps : List (List UInt8)) : List UInt8 := ps.flatMap (fun p => p ++ be16 p.length)

@[simp] theorem octets_nil : octets [] = [] := rfl

/-- The last part is followed by its length. -/
theorem octets_snoc (ps : List (List UInt8)) (p : List UInt8) :
    octets (ps ++ [p]) = octets ps ++ p ++ be16 p.length := by
  rw [octets, octets, List.flatMap_append, List.flatMap_singleton, List.append_assoc]

/-- The first part is followed by its length. -/
theorem octets_cons (p : List UInt8) (ps : List (List UInt8)) :
    octets (p :: ps) = p ++ be16 p.length ++ octets ps := List.flatMap_cons

/-- Lengths that fit are told apart by their octets. -/
theorem be16_inj {m n : Nat} (hm : m < 65536) (hn : n < 65536) (h : be16 m = be16 n) :
    m = n := by
  obtain ⟨hhi, hlo⟩ := List.cons.inj h
  rw [← ofBe16_be16 hm, ← ofBe16_be16 hn, hhi, (List.cons.inj hlo).1]

/-- Every field fits its length. -/
def Fits (ps : List (List UInt8)) : Prop := ∀ p ∈ ps, p.length < 65536

/-- **FIELDS ARE READ FROM THE END**, in one way. -/
theorem octets_inj : ∀ (ps qs : List (List UInt8)), Fits ps → Fits qs →
    octets ps = octets qs → ps = qs := by
  intro ps
  induction ps using List.reverseRecOn with
  | nil =>
      intro qs _ _ h
      induction qs using List.reverseRecOn with
      | nil => rfl
      | append_singleton qs q _ =>
          rw [octets_snoc] at h
          have hlen := congrArg List.length h
          simp at hlen
  | append_singleton ps p ih =>
      intro qs hps hqs h
      induction qs using List.reverseRecOn with
      | nil =>
          rw [octets_snoc] at h
          have hlen := congrArg List.length h
          simp at hlen
      | append_singleton qs q _ =>
          rw [octets_snoc, octets_snoc] at h
          have hp : p.length < 65536 := hps p (by simp)
          have hq : q.length < 65536 := hqs q (by simp)
          -- first the length, then the field it is the length of
          obtain ⟨hfront, hlast⟩ := List.append_inj' h rfl
          obtain ⟨hrest, hpq⟩ := List.append_inj' hfront (be16_inj hp hq hlast)
          have hps' : Fits ps := fun r hr => hps r (List.mem_append_left _ hr)
          have hqs' : Fits qs := fun r hr => hqs r (List.mem_append_left _ hr)
          rw [ih qs hps' hqs' hrest, hpq]

end TrailedFields
