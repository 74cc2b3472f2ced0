import OsmoTtcn.TitanProofs

/-! # The kinds of TLLI

    The first bits of a TLLI say of which kind it is, and a TLLI of a kind is
    built from a P-TMSI by putting such bits in front.  The two functions do not
    agree: what is built as FOREIGN is RANDOM, and what is built as RANDOM is
    RESERVED.  A TLLI that is drawn is LOCAL. -/

namespace OsmoTlli

open OsmoTitan

-- ── Functions ────────────────────────────────────────────────────────────────

/-- The kinds of TLLIs that are told apart. -/
inductive TlliType where
  | tlliLocal
  | foreign
  | random
  | auxiliary
  | reserved
  | gRnti
  | randGRnti
  deriving DecidableEq, Repr

/-- An octetstring of four, as `oct2bit` gives it. -/
structure Oct4 where
  bits : List Bool
  length_bits : bits.length = 32

/-- `substr(bits, 0, count)` -/
def start (bits : List Bool) (count : Nat) : List Bool := bits.take count

/-- `f_gprs_tlli_type` -/
def fGprsTlliType (tlli : Oct4) : Except Fault TlliType :=
  if start tlli.bits 2 = [true, true] then .ok .tlliLocal
  else if start tlli.bits 2 = [true, false] then .ok .foreign
  else if start tlli.bits 5 = [false, true, true, true, true] then .ok .random
  else if start tlli.bits 4 = [false, true, true, false] then .ok .reserved
  else if start tlli.bits 3 = [false, true, false] then .ok .reserved
  else if start tlli.bits 4 = [false, false, false, false] then .ok .gRnti
  else if start tlli.bits 4 = [false, false, false, true] then .ok .randGRnti
  else .error (.shutdown "Unknonw TLLI Type ")

/-- The `prefix` of `f_gprs_tlli_from_tmsi`. -/
def tmsiPrefix : TlliType → Option (List Bool)
  | .tlliLocal => some [true, true]
  | .foreign => some [false, true, true, true, true]
  | .random => some [false, true, true, false]
  | .reserved => some [false, true, false]
  | .gRnti => some [false, false, false, false]
  | .randGRnti => some [false, false, false, true]
  | .auxiliary => none

theorem tmsiPrefix_length {tlliType : TlliType} {bits : List Bool}
    (h : tmsiPrefix tlliType = some bits) : bits.length ≤ 5 := by
  cases tlliType <;> cases h <;> decide

/-- `prefix & substr(tmsi_bits, lengthof(prefix), 32-lengthof(prefix))` -/
def behind (first : List Bool) (tmsi : Oct4) (h : first.length ≤ 5) : Oct4 where
  bits := first ++ (tmsi.bits.drop first.length).take (32 - first.length)
  length_bits := by
    rw [List.length_append, List.length_take, List.length_drop, tmsi.length_bits]
    omega

/-- `f_gprs_tlli_from_tmsi` -/
def fGprsTlliFromTmsi (tmsi : Oct4) (tlliType : TlliType) : Except Fault Oct4 :=
  match h : tmsiPrefix tlliType with
  | some first => .ok (behind first tmsi (tmsiPrefix_length h))
  | none => .error (.shutdown "Unknonw TLLI Type ")

/-- `'c0000000'O` -/
def cMask : List Bool := [true, true] ++ List.replicate 30 false

/-- `f_gprs_tlli_random`, with what `f_rnd_octstring(4)` returns. -/
def fGprsTlliRandom (rnd : Oct4) : Oct4 where
  bits := List.zipWith or rnd.bits cMask
  length_bits := by
    rw [List.length_zipWith, rnd.length_bits]
    rfl

-- ── The first bits ───────────────────────────────────────────────────────────

/-- The first bits that a kind has. -/
def marks : TlliType → List (List Bool)
  | .tlliLocal => [[true, true]]
  | .foreign => [[true, false]]
  | .random => [[false, true, true, true, true]]
  | .auxiliary => []
  | .reserved => [[false, true, true, false], [false, true, false]]
  | .gRnti => [[false, false, false, false]]
  | .randGRnti => [[false, false, false, true]]

/-- No mark is the beginning of one of another kind. -/
theorem marks_apart (a b : TlliType) : ∀ p ∈ marks a, ∀ q ∈ marks b, p <+: q → a = b := by
  cases a <;> cases b <;> decide

/-- A TLLI is of one kind. -/
theorem marks_unique {a b : TlliType} {p q bits : List Bool} (hp : p ∈ marks a) (hq : q ∈ marks b)
    (hpre : p <+: bits) (hqre : q <+: bits) : a = b := by
  rcases List.prefix_or_prefix_of_prefix hpre hqre with h | h
  · exact marks_apart a b p hp q hq h
  · exact (marks_apart b a q hq p hp h).symm

theorem start_eq_iff {bits p : List Bool} : start bits p.length = p ↔ p <+: bits := by
  rw [List.prefix_iff_eq_take, start, eq_comm]

/-- What is found begins with a mark. -/
theorem fGprsTlliType_marked {tlli : Oct4} {a : TlliType} (h : fGprsTlliType tlli = .ok a) :
    ∃ p ∈ marks a, p <+: tlli.bits := by
  rw [fGprsTlliType] at h
  split at h
  · rename_i hp
    cases h
    exact ⟨_, List.mem_singleton.mpr rfl, start_eq_iff.mp hp⟩
  split at h
  · rename_i hp
    cases h
    exact ⟨_, List.mem_singleton.mpr rfl, start_eq_iff.mp hp⟩
  split at h
  · rename_i hp
    cases h
    exact ⟨_, List.mem_singleton.mpr rfl, start_eq_iff.mp hp⟩
  split at h
  · rename_i hp
    cases h
    exact ⟨_, List.mem_cons_self, start_eq_iff.mp hp⟩
  split at h
  · rename_i hp
    cases h
    exact ⟨_, List.mem_cons_of_mem _ List.mem_cons_self, start_eq_iff.mp hp⟩
  split at h
  · rename_i hp
    cases h
    exact ⟨_, List.mem_singleton.mpr rfl, start_eq_iff.mp hp⟩
  split at h
  · rename_i hp
    cases h
    exact ⟨_, List.mem_singleton.mpr rfl, start_eq_iff.mp hp⟩
  · cases h

/-- What begins with a mark is found. -/
theorem fGprsTlliType_found {tlli : Oct4} {a : TlliType} {p : List Bool} (hp : p ∈ marks a)
    (hpre : p <+: tlli.bits) : ∃ b, fGprsTlliType tlli = .ok b := by
  have hstart := start_eq_iff.mpr hpre
  rw [fGprsTlliType]
  split_ifs with hlocal hforeign hrandom hfour hthree hgRnti hrandGRnti
  any_goals exact ⟨_, rfl⟩
  -- nothing is left for the last branch
  cases a with
  | tlliLocal =>
      cases List.mem_singleton.mp hp
      exact absurd hstart hlocal
  | foreign =>
      cases List.mem_singleton.mp hp
      exact absurd hstart hforeign
  | random =>
      cases List.mem_singleton.mp hp
      exact absurd hstart hrandom
  | auxiliary => cases hp
  | reserved =>
      rcases List.mem_cons.mp hp with rfl | hp
      · exact absurd hstart hfour
      · cases List.mem_singleton.mp hp
        exact absurd hstart hthree
  | gRnti =>
      cases List.mem_singleton.mp hp
      exact absurd hstart hgRnti
  | randGRnti =>
      cases List.mem_singleton.mp hp
      exact absurd hstart hrandGRnti

/-- **THE KIND OF A TLLI.** -/
theorem fGprsTlliType_iff {tlli : Oct4} {a : TlliType} :
    fGprsTlliType tlli = .ok a ↔ ∃ p ∈ marks a, p <+: tlli.bits := by
  refine ⟨fGprsTlliType_marked, fun ⟨p, hp, hpre⟩ => ?_⟩
  obtain ⟨b, hb⟩ := fGprsTlliType_found hp hpre
  obtain ⟨q, hq, hqre⟩ := fGprsTlliType_marked hb
  rw [hb, marks_unique hp hq hpre hqre]

-- ── What is built ────────────────────────────────────────────────────────────

/-- The kind that a TLLI is of when it is built for another one. -/
def builtAs : TlliType → Option TlliType
  | .foreign => some .random
  | .random => some .reserved
  | .auxiliary => none
  | a => some a

theorem tmsiPrefix_mark : ∀ a b : TlliType, ∀ p, tmsiPrefix a = some p → builtAs a = some b →
    p ∈ marks b := by
  intro a b p hp hb
  cases a <;> cases hp <;> cases hb <;> decide

theorem fGprsTlliFromTmsi_ok {tmsi tlli : Oct4} {a : TlliType}
    (h : fGprsTlliFromTmsi tmsi a = .ok tlli) :
    ∃ p, ∃ hp : tmsiPrefix a = some p, tlli = behind p tmsi (tmsiPrefix_length hp) := by
  rw [fGprsTlliFromTmsi] at h
  split at h
  · rename_i p hp
    cases h
    exact ⟨p, hp, rfl⟩
  · cases h

/-- **WHAT IS BUILT.** -/
theorem fGprsTlliFromTmsi_type {tmsi tlli : Oct4} {a b : TlliType}
    (h : fGprsTlliFromTmsi tmsi a = .ok tlli) :
    fGprsTlliType tlli = .ok b ↔ builtAs a = some b := by
  obtain ⟨p, hp, rfl⟩ := fGprsTlliFromTmsi_ok h
  obtain ⟨c, hc⟩ : ∃ c, builtAs a = some c := by
    cases a <;> first | exact ⟨_, rfl⟩ | cases hp
  have htype : fGprsTlliType (behind p tmsi (tmsiPrefix_length hp)) = .ok c :=
    fGprsTlliType_iff.mpr ⟨p, tmsiPrefix_mark a c p hp hc, List.prefix_append _ _⟩
  rw [htype, hc, Except.ok.injEq, Option.some.injEq]

/-- Behind the first bits the TLLI is the P-TMSI. -/
theorem behind_drop {first : List Bool} {tmsi : Oct4} (h : first.length ≤ 5) :
    (behind first tmsi h).bits.drop 5 = tmsi.bits.drop 5 := by
  have hwhole : (tmsi.bits.drop first.length).length ≤ 32 - first.length :=
    Nat.le_of_eq (by rw [List.length_drop, tmsi.length_bits])
  show (first ++ (tmsi.bits.drop first.length).take (32 - first.length)).drop 5 = _
  rw [List.take_of_length_le hwhole, List.drop_append, List.drop_eq_nil_of_le h, List.nil_append,
    List.drop_drop, Nat.add_sub_cancel' h]

theorem or_zeros (bits : List Bool) :
    List.zipWith or bits (List.replicate bits.length false) = bits := by
  induction bits with
  | nil => rfl
  | cons b bits ih =>
      rw [List.length_cons, List.replicate_succ, List.zipWith_cons_cons, Bool.or_false, ih]

theorem fGprsTlliRandom_bits (rnd : Oct4) :
    (fGprsTlliRandom rnd).bits = [true, true] ++ rnd.bits.drop 2 := by
  obtain ⟨bits, hlen⟩ := rnd
  obtain ⟨b, c, rest, rfl⟩ : ∃ b c rest, bits = b :: c :: rest := by
    match bits, hlen with
    | b :: c :: rest, _ => exact ⟨b, c, rest, rfl⟩
  have hrest : rest.length = 30 := by
    rw [List.length_cons, List.length_cons] at hlen
    omega
  show (b || true) :: (c || true) :: List.zipWith or rest (List.replicate 30 false) = _
  rw [Bool.or_true, Bool.or_true, ← hrest, or_zeros]
  rfl

/-- Every kind but AUXILIARY has bits to put in front. -/
theorem fGprsTlliFromTmsi_iff {tmsi : Oct4} {a : TlliType} :
    (∃ tlli, fGprsTlliFromTmsi tmsi a = .ok tlli) ↔ a ≠ .auxiliary := by
  constructor
  · rintro ⟨tlli, h⟩ rfl
    cases h
  · intro h
    cases a <;> first | exact ⟨_, rfl⟩ | contradiction

/-- **THE KINDS OF TLLI.**  A TLLI is of a kind if and only if it begins with one
    of its marks.  Built for a kind it is of that kind, except for FOREIGN,
    which gives RANDOM, and RANDOM, which gives RESERVED; for AUXILIARY none is
    built.  Its last 27 bits are those of the P-TMSI.  A TLLI that is drawn is
    LOCAL, with 30 bits as drawn. -/
theorem tlli_types :
    (∀ (tlli : Oct4) (a : TlliType),
      fGprsTlliType tlli = .ok a ↔ ∃ p ∈ marks a, p <+: tlli.bits)
    ∧ (∀ (tmsi : Oct4) (a : TlliType),
      (∃ tlli, fGprsTlliFromTmsi tmsi a = .ok tlli) ↔ a ≠ .auxiliary)
    ∧ (∀ (tmsi : Oct4) (a : TlliType),
      (∃ tlli, fGprsTlliFromTmsi tmsi a = .ok tlli ∧ fGprsTlliType tlli = .ok a)
        ↔ a ≠ .foreign ∧ a ≠ .random ∧ a ≠ .auxiliary)
    ∧ (∀ (tmsi tlli : Oct4) (a b : TlliType), fGprsTlliFromTmsi tmsi a = .ok tlli →
      (fGprsTlliType tlli = .ok b ↔ builtAs a = some b) ∧ tlli.bits.drop 5 = tmsi.bits.drop 5)
    ∧ ∀ rnd : Oct4, fGprsTlliType (fGprsTlliRandom rnd) = .ok .tlliLocal
      ∧ (fGprsTlliRandom rnd).bits.drop 2 = rnd.bits.drop 2 := by
  refine ⟨fun tlli a => fGprsTlliType_iff, fun tmsi a => fGprsTlliFromTmsi_iff, fun tmsi a => ?_,
    fun tmsi tlli a b h => ⟨?_, ?_⟩,
    fun rnd => ⟨?_, ?_⟩⟩
  · constructor
    · rintro ⟨tlli, h, htype⟩
      have hbuilt := (fGprsTlliFromTmsi_type h).mp htype
      refine ⟨?_, ?_, ?_⟩
      · rintro rfl
        cases hbuilt
      · rintro rfl
        cases hbuilt
      · rintro rfl
        cases hbuilt
    · rintro ⟨hforeign, hrandom, hauxiliary⟩
      have hbuilt : builtAs a = some a := by
        cases a <;> first | rfl | contradiction
      obtain ⟨tlli, h⟩ : ∃ tlli, fGprsTlliFromTmsi tmsi a = .ok tlli :=
        fGprsTlliFromTmsi_iff.mpr hauxiliary
      exact ⟨tlli, h, (fGprsTlliFromTmsi_type h).mpr hbuilt⟩
  · exact fGprsTlliFromTmsi_type h
  · obtain ⟨p, hp, rfl⟩ := fGprsTlliFromTmsi_ok h
    exact behind_drop (tmsiPrefix_length hp)
  · rw [fGprsTlliType_iff]
    refine ⟨_, List.mem_singleton.mpr rfl, ?_⟩
    rw [fGprsTlliRandom_bits]
    exact List.prefix_append _ _
  · rw [fGprsTlliRandom_bits]
    rfl

/-- A TLLI that is built as FOREIGN, of the P-TMSI c0000000. -/
example : ∃ tlli, fGprsTlliFromTmsi ⟨cMask, rfl⟩ .foreign = .ok tlli
    ∧ fGprsTlliType tlli = .ok .random := ⟨_, rfl, rfl⟩

end OsmoTlli
