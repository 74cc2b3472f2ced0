import OsmoTtcn.TitanProofs
import OsmoTtcn.WhileLoopProofs

/-! # Hostnames as DNS and APN labels

    `f_enc_dns_hostname` cuts a hostname at its dots and puts the length of each
    label in front of it; `f_dec_dns_hostname` goes back.  Both are loops that
    cut a piece off the front of what is left.

    `dns_hostname_codec` proves that each undoes the other on proper labels, and
    that decoding any octets ends: with the labels that the octets consist of,
    or with an error where they do not consist of any. -/

namespace OsmoDns

open OsmoTitan WhileLoop

-- ── Charstrings ──────────────────────────────────────────────────────────────

/-- The characters are those of ISO/IEC 646, by their codes. -/
abbrev Charstring : Type := List (Fin 128)

/-- "." -/
def dot : Fin 128 := 46

/-- `substr` of a charstring. -/
def substrChar (s : Charstring) (index n : Int) : Except Fault Charstring :=
  if 0 ≤ index ∧ 0 ≤ n ∧ index + n ≤ s.length then
    .ok ((s.drop index.toNat).take n.toNat)
  else .error .badIndex

/-- A character as an octet. -/
def char2octet (c : Fin 128) : UInt8 := UInt8.ofNat c.val

/-- `char2oct` -/
def char2oct (s : Charstring) : List UInt8 := s.map char2octet

/-- The error of `oct2char`. -/
def outsideIso646 : Fault :=
  .ttcnError "The argument of function oct2char() contains an octet outside 00 .. 7F."

/-- An octet as a character, if there is one. -/
def octet2char (o : UInt8) : Except Fault (Fin 128) :=
  if o.toNat < 128 then .ok (Fin.ofNat 128 o.toNat) else .error outsideIso646

/-- `oct2char` -/
def oct2char (os : List UInt8) : Except Fault Charstring := os.mapM octet2char

/-- `oct2int` -/
def oct2int (os : List UInt8) : Nat := os.foldl (fun n o => n * 256 + o.toNat) 0

-- ── The helpers ──────────────────────────────────────────────────────────────

/-- The first position of `c`, or -1. -/
def fStrchr (s : Charstring) (c : Fin 128) : Int :=
  match s.idxOf? c with
  | some i => i
  | none => -1

/-- `f_dns_enc_label` -/
def fDnsEncLabel (str : Charstring) : Except Fault (List UInt8) :=
  (int2oct1 str.length).map (fun len => len :: char2oct str)

/-- What is left of the hostname, and what is encoded. -/
abbrev EncState : Type := Charstring × List UInt8

/-- The condition of the encoding loop. -/
def encGoing (s : EncState) : Bool := decide (0 < s.1.length)

/-- The body of the encoding loop. -/
def encRound : EncState → Except Fault EncState
  | (str, ret) =>
      let dotIdx := fStrchr str dot
      if dotIdx ≥ 0 then
        -- there is another dot
        (substrChar str 0 dotIdx).bind (fun l =>
          (fDnsEncLabel l).bind (fun lbl =>
            (substrChar str (dotIdx + 1) (str.length - dotIdx - 1)).map (fun str' =>
              (str', ret ++ lbl))))
      else
        -- no more dot
        (fDnsEncLabel str).map (fun lbl => ([], ret ++ lbl))

/-- What a loop leaves in its result, for a number of rounds that suffices. -/
def returned {A B : Type} (r : Option (Except Fault (A × B))) : Except Fault B :=
  match r with
  | some r => r.map Prod.snd
  | none => .error .outOfFuel

/-- `f_enc_dns_hostname` -/
def fEncDnsHostname (str : Charstring) : Except Fault (List UInt8) :=
  returned (loop encGoing encRound str.length (str, []))

/-- What is left of the octets, and what is decoded. -/
abbrev DecState : Type := List UInt8 × Charstring

/-- The condition of the decoding loop. -/
def decGoing (s : DecState) : Bool := decide (0 < s.1.length)

/-- The body of the decoding loop. -/
def decRound : DecState → Except Fault DecState
  | (inp, ret) =>
      (substr inp 0 1).bind (fun head =>
        let labelLen := oct2int head
        (substr inp 1 labelLen).bind (fun label =>
          (oct2char label).bind (fun lbl =>
            (substr inp (1 + labelLen) (inp.length - 1 - labelLen)).map (fun inp' =>
              (inp', if inp'.length > 0 then ret ++ lbl ++ [dot] else ret ++ lbl)))))

/-- `f_dec_dns_hostname` -/
def fDecDnsHostname (inp : List UInt8) : Except Fault Charstring :=
  returned (loop decGoing decRound inp.length (inp, []))

-- ── Labels ───────────────────────────────────────────────────────────────────

/-- A label of a hostname. -/
structure IsLabel (l : Charstring) : Prop where
  nonempty : l ≠ []
  short : l.length ≤ 63
  noDot : dot ∉ l

/-- The length octet and the characters of each label. -/
def labelOctets (l : Charstring) : List UInt8 := UInt8.ofNat l.length :: char2oct l

/-- Labels as they are sent. -/
def wire (labels : List Charstring) : List UInt8 := labels.flatMap labelOctets

/-- The labels with dots between them. -/
def joined (labels : List Charstring) : Charstring := [dot].intercalate labels

-- ── Charstrings and octets ───────────────────────────────────────────────────

/-- A part that is inside is cut out. -/
theorem substrChar_ok {s : Charstring} {index n : Nat} (h : index + n ≤ s.length) :
    substrChar s index n = .ok ((s.drop index).take n) :=
  if_pos (by omega)

/-- A character keeps its code. -/
theorem char2octet_toNat (c : Fin 128) : (char2octet c).toNat = c.val :=
  WireOctet.toNat_octet (Nat.lt_trans c.isLt (by decide))

/-- An octet is the character that it is the code of. -/
theorem octet2char_ok {o : UInt8} {c : Fin 128} :
    octet2char o = .ok c ↔ char2octet c = o := by
  rw [octet2char]
  by_cases ho : o.toNat < 128
  · rw [if_pos ho]
    constructor
    · intro h
      rw [← Except.ok.inj h, ← UInt8.toNat_inj, char2octet_toNat]
      exact Nat.mod_eq_of_lt ho
    · rintro rfl
      rw [char2octet_toNat]
      exact congrArg Except.ok (Fin.ext (Nat.mod_eq_of_lt c.isLt))
  · rw [if_neg ho]
    constructor
    · intro h
      exact nomatch h
    · rintro rfl
      rw [char2octet_toNat] at ho
      exact absurd c.isLt ho

/-- Octets are read one by one. -/
theorem oct2char_cons (o : UInt8) (os : List UInt8) : oct2char (o :: os)
    = (octet2char o).bind (fun c => (oct2char os).map (fun s => c :: s)) := by
  rw [oct2char, List.mapM_cons]
  rfl

/-- Octets are decoded as the characters that they are encoded from. -/
theorem oct2char_ok : ∀ {os : List UInt8} {s : Charstring},
    oct2char os = .ok s ↔ char2oct s = os := by
  intro os
  induction os with
  | nil =>
      intro s
      cases s with
      | nil => exact ⟨fun _ => rfl, fun _ => rfl⟩
      | cons c s => exact ⟨fun h => (nomatch h), fun h => (nomatch h)⟩
  | cons o os ih =>
      intro s
      rw [oct2char_cons]
      constructor
      · intro h
        obtain ⟨c, hc, h⟩ := bind_ok h
        obtain ⟨s', hs', rfl⟩ := map_ok h
        rw [← octet2char_ok.mp hc, ← ih.mp hs']
        rfl
      · intro h
        cases s with
        | nil => exact nomatch h
        | cons c s =>
            obtain ⟨hc, hs⟩ := List.cons.inj h
            rw [octet2char_ok.mpr hc, Except.bind, ih.mpr hs]
            rfl

/-- They are refused for a code above 127 only. -/
theorem oct2char_error : ∀ {os : List UInt8} {e : Fault}, oct2char os = .error e →
    e = outsideIso646 := by
  intro os
  induction os with
  | nil => exact fun h => nomatch h
  | cons o os ih =>
      intro e h
      rw [oct2char_cons] at h
      rcases bind_error h with ho | ⟨c, -, hos⟩
      · rw [octet2char] at ho
        by_cases hlt : o.toNat < 128
        · rw [if_pos hlt] at ho
          exact nomatch ho
        · rw [if_neg hlt] at ho
          exact (Except.error.inj ho).symm
      · exact ih (map_error hos)

-- ── Encoding ─────────────────────────────────────────────────────────────────

/-- The first dot is behind the first label. -/
theorem idxOf_dot : ∀ {l : Charstring} (rest : Charstring), dot ∉ l →
    (l ++ dot :: rest).idxOf? dot = some l.length := by
  intro l
  induction l with
  | nil => intro rest _; rfl
  | cons c l ih =>
      intro rest h
      have hc : (c == dot) = false :=
        beq_false_of_ne (fun heq => h (heq ▸ List.mem_cons_self))
      rw [List.cons_append, List.idxOf?_cons, hc,
        ih rest (fun hmem => h (List.mem_cons_of_mem c hmem))]
      rfl

/-- A label of less than 256 characters is encoded. -/
theorem fDnsEncLabel_ok {l : Charstring} (h : l.length < 256) :
    fDnsEncLabel l = .ok (labelOctets l) := by
  rw [fDnsEncLabel, int2oct1, if_pos (by omega)]
  rfl

/-- A label in front of a dot. -/
theorem encRound_dot {l : Charstring} (hdot : dot ∉ l) (hlen : l.length < 256)
    (rest : Charstring) (ret : List UInt8) :
    encRound (l ++ dot :: rest, ret) = .ok (rest, ret ++ labelOctets l) := by
  have hidx : fStrchr (l ++ dot :: rest) dot = (l.length : Nat) := by
    rw [fStrchr, idxOf_dot rest hdot]
  have hlabel : substrChar (l ++ dot :: rest) (0 : Nat) (l.length : Nat) = .ok l := by
    rw [substrChar_ok (by rw [List.length_append]; omega), List.drop_zero, List.take_left]
  have htotal : (l ++ dot :: rest).length = l.length + (rest.length + 1) :=
    List.length_append
  have hrest : substrChar (l ++ dot :: rest) (l.length + 1 : Nat) (rest.length : Nat)
      = .ok rest := by
    have hdrop : (l ++ dot :: rest).drop (l.length + 1) = rest := by
      rw [List.drop_append]
      simp
    rw [substrChar_ok (by omega), hdrop, List.take_length]
  have hcount : ((l ++ dot :: rest).length : Int) - (l.length : Nat) - 1
      = (rest.length : Nat) := by
    omega
  simp only [encRound, hidx]
  rw [if_pos (Int.natCast_nonneg _), hcount]
  show (substrChar _ (0 : Nat) _).bind _ = _
  rw [hlabel, Except.bind, fDnsEncLabel_ok hlen, Except.bind]
  show (substrChar _ (l.length + 1 : Nat) _).map _ = _
  rw [hrest]
  rfl

/-- The last label. -/
theorem encRound_last {l : Charstring} (hdot : dot ∉ l) (hlen : l.length < 256)
    (ret : List UInt8) : encRound (l, ret) = .ok ([], ret ++ labelOctets l) := by
  have hidx : fStrchr l dot = -1 := by
    rw [fStrchr, List.idxOf?_eq_none_iff.mpr hdot]
  simp only [encRound, hidx]
  rw [if_neg (by decide), fDnsEncLabel_ok hlen]
  rfl

/-- The loop goes on while there is text. -/
theorem encGoing_iff {s : EncState} : encGoing s = true ↔ s.1 ≠ [] := by
  rw [encGoing, decide_eq_true_iff, List.length_pos_iff]

/-- The first label is sent first. -/
theorem wire_cons (l : Charstring) (ls : List Charstring) :
    wire (l :: ls) = labelOctets l ++ wire ls := rfl

/-- The first label is followed by a dot. -/
theorem joined_cons (l : Charstring) {ls : List Charstring} (h : ls ≠ []) :
    joined (l :: ls) = l ++ dot :: joined ls := by
  rw [joined, List.intercalate_cons_of_ne_nil h, List.append_assoc]
  rfl

/-- A single label is followed by nothing. -/
theorem joined_singleton (l : Charstring) : joined [l] = l := List.intercalate_singleton

/-- **ENCODING**, by induction on the labels. -/
theorem encLoop_joined : ∀ {labels : List Charstring}, labels ≠ [] →
    (∀ l ∈ labels, IsLabel l) → ∀ (n : Nat) (ret : List UInt8),
    (joined labels).length ≤ n →
    loop encGoing encRound n (joined labels, ret) = some (.ok ([], ret ++ wire labels)) := by
  intro labels
  induction labels with
  | nil => exact fun h => absurd rfl h
  | cons l ls ih =>
      intro _ hall n ret hn
      have hl := hall l List.mem_cons_self
      have hshort : l.length < 256 := Nat.lt_of_le_of_lt hl.short (by decide)
      have hpos := List.length_pos_iff.mpr hl.nonempty
      by_cases hls : ls = []
      · subst hls
        rw [joined_singleton] at hn ⊢
        obtain ⟨n, rfl⟩ := Nat.exists_eq_add_one_of_ne_zero (show n ≠ 0 by omega)
        rw [loop_ok (encGoing_iff.mpr hl.nonempty) (encRound_last hl.noDot hshort ret),
          loop_done (by rfl), wire_cons, wire, List.flatMap_nil, List.append_nil]
      · rw [joined_cons l hls] at hn ⊢
        rw [List.length_append, List.length_cons] at hn
        obtain ⟨n, rfl⟩ := Nat.exists_eq_add_one_of_ne_zero (show n ≠ 0 by omega)
        rw [loop_ok (encGoing_iff.mpr (by simp)) (encRound_dot hl.noDot hshort _ ret),
          ih hls (fun m hm => hall m (List.mem_cons_of_mem l hm)) n _ (by omega),
          List.append_assoc, ← wire_cons]

/-- **ENCODING** sends the labels of a name. -/
theorem fEncDnsHostname_joined {labels : List Charstring} (hne : labels ≠ [])
    (hall : ∀ l ∈ labels, IsLabel l) :
    fEncDnsHostname (joined labels) = .ok (wire labels) := by
  rw [fEncDnsHostname, encLoop_joined hne hall _ _ (Nat.le_refl _)]
  rfl

-- ── Decoding ─────────────────────────────────────────────────────────────────

/-- **ONE ROUND** of the decoder: a label that is there, or an error. -/
theorem decRound_eq (o : UInt8) (body : List UInt8) (ret : Charstring) :
    decRound (o :: body, ret) =
      if o.toNat ≤ body.length then
        (oct2char (body.take o.toNat)).map (fun lbl => (body.drop o.toNat,
          if (body.drop o.toNat).length > 0 then ret ++ lbl ++ [dot] else ret ++ lbl))
      else .error .badIndex := by
  have hhead : substr (o :: body) (0 : Nat) (1 : Nat) = .ok [o] := by
    rw [substr_ok (by simp)]
    rfl
  have hint : oct2int [o] = o.toNat := by
    rw [oct2int, List.foldl_cons, List.foldl_nil, Nat.zero_mul, Nat.zero_add]
  show (substr (o :: body) (0 : Nat) (1 : Nat)).bind _ = _
  rw [hhead, Except.bind]
  dsimp only
  rw [hint]
  by_cases hlen : o.toNat ≤ body.length
  · have hlabel : substr (o :: body) (1 : Nat) (o.toNat : Nat)
        = .ok (body.take o.toNat) := by
      rw [substr_ok (by rw [List.length_cons]; omega)]
      rfl
    have hcount : ((o :: body).length : Int) - 1 - (o.toNat : Nat)
        = (body.length - o.toNat : Nat) := by
      rw [List.length_cons]
      omega
    have hrest : substr (o :: body) (1 + o.toNat : Nat) (body.length - o.toNat : Nat)
        = .ok (body.drop o.toNat) := by
      rw [substr_ok (by rw [List.length_cons]; omega), Nat.add_comm, List.drop_succ_cons,
        List.take_of_length_le (Nat.le_of_eq List.length_drop)]
    show (substr (o :: body) (1 : Nat) (o.toNat : Nat)).bind _ = _
    rw [if_pos hlen, hlabel, Except.bind, hcount]
    show Except.bind _ (fun lbl =>
      (substr (o :: body) (1 + o.toNat : Nat) (body.length - o.toNat : Nat)).map _) = _
    rw [hrest]
    cases oct2char (body.take o.toNat) with
    | error e => rfl
    | ok lbl => rfl
  · have hpast : substr (o :: body) 1 (o.toNat : Nat) = .error .badIndex := by
      rw [substr, if_neg]
      rw [List.length_cons]
      omega
    rw [if_neg hlen, hpast]
    rfl

/-- The loop goes on while there are octets. -/
theorem decGoing_iff {s : DecState} : decGoing s = true ↔ s.1 ≠ [] := by
  rw [decGoing, decide_eq_true_iff, List.length_pos_iff]

/-- Nothing is sent only of no labels. -/
theorem wire_eq_nil {labels : List Charstring} : wire labels = [] ↔ labels = [] := by
  cases labels with
  | nil => exact ⟨fun _ => rfl, fun _ => rfl⟩
  | cons l ls => exact ⟨fun h => (nomatch h), fun h => (nomatch h)⟩

/-- The hostname grows by a label, and by a dot if another one follows. -/
theorem joined_grow (ret l : Charstring) (ls : List Charstring) :
    (if (wire ls).length > 0 then ret ++ l ++ [dot] else ret ++ l) ++ joined ls
      = ret ++ joined (l :: ls) := by
  by_cases hls : ls = []
  · rw [hls, joined_singleton]
    exact List.append_nil _
  · have hpos : (wire ls).length > 0 :=
      List.length_pos_iff.mpr (fun h => hls (wire_eq_nil.mp h))
    rw [if_pos hpos, joined_cons l hls, List.append_assoc, List.append_assoc]
    rfl

/-- A label that is in front is decoded. -/
theorem decRound_label {l : Charstring} (hlen : l.length < 256) (rest : List UInt8)
    (ret : Charstring) :
    decRound (labelOctets l ++ rest, ret)
      = .ok (rest, if rest.length > 0 then ret ++ l ++ [dot] else ret ++ l) := by
  have ho : (UInt8.ofNat l.length).toNat = (char2oct l).length := by
    rw [WireOctet.toNat_octet hlen, char2oct, List.length_map]
  show decRound (UInt8.ofNat l.length :: (char2oct l ++ rest), ret) = _
  rw [decRound_eq, ho, if_pos (by rw [List.length_append]; omega), List.take_left,
    List.drop_left, oct2char_ok.mpr rfl]
  rfl

/-- Only labels are decoded. -/
theorem decRound_ok {inp inp' : List UInt8} {ret ret' : Charstring}
    (h : decRound (inp, ret) = .ok (inp', ret')) :
    ∃ l : Charstring, l.length < 256 ∧ inp = labelOctets l ++ inp' := by
  cases inp with
  | nil => exact nomatch h
  | cons o body =>
      rw [decRound_eq] at h
      by_cases hlen : o.toNat ≤ body.length
      · rw [if_pos hlen] at h
        obtain ⟨l, hl, heq⟩ := map_ok h
        have hchars := oct2char_ok.mp hl
        have hcount : l.length = o.toNat := by
          rw [← List.length_take_of_le hlen, ← hchars, char2oct, List.length_map]
        refine ⟨l, hcount ▸ UInt8.toNat_lt o, ?_⟩
        rw [← (Prod.mk.inj heq).1, labelOctets, hchars, hcount, UInt8.ofNat_toNat,
          List.cons_append, List.take_append_drop]
      · rw [if_neg hlen] at h
        exact nomatch h

/-- **DECODING**, by induction on the labels. -/
theorem decLoop_wire : ∀ {labels : List Charstring}, (∀ l ∈ labels, l.length < 256) →
    ∀ (n : Nat) (ret : Charstring), (wire labels).length ≤ n →
    loop decGoing decRound n (wire labels, ret) = some (.ok ([], ret ++ joined labels)) := by
  intro labels
  induction labels with
  | nil =>
      intro _ n ret _
      rw [wire, List.flatMap_nil, loop_done (by rfl)]
      show _ = some (Except.ok ([], ret ++ []))
      rw [List.append_nil]
  | cons l ls ih =>
      intro hall n ret hn
      have hl := hall l List.mem_cons_self
      rw [wire_cons] at hn ⊢
      rw [List.length_append, labelOctets, List.length_cons] at hn
      obtain ⟨n, rfl⟩ := Nat.exists_eq_add_one_of_ne_zero (show n ≠ 0 by omega)
      rw [loop_ok (decGoing_iff.mpr (List.cons_ne_nil _ _)) (decRound_label hl _ ret),
        ih (fun m hm => hall m (List.mem_cons_of_mem l hm)) n _ (by omega), joined_grow]

/-- What the decoder accepts are labels, by induction on the rounds. -/
theorem decLoop_ok : ∀ {n : Nat} {inp : List UInt8} {ret : Charstring} {t : DecState},
    loop decGoing decRound n (inp, ret) = some (.ok t) →
    ∃ labels : List Charstring, (∀ l ∈ labels, l.length < 256) ∧ inp = wire labels := by
  intro n
  induction n with
  | zero =>
      intro inp ret t h
      cases inp with
      | nil => exact ⟨[], fun l hl => (nomatch hl), rfl⟩
      | cons o body => exact nomatch h
  | succ n ih =>
      intro inp ret t h
      cases inp with
      | nil => exact ⟨[], fun l hl => (nomatch hl), rfl⟩
      | cons o body =>
          have hgo : decGoing (o :: body, ret) = true :=
            decGoing_iff.mpr (List.cons_ne_nil _ _)
          cases hr : decRound (o :: body, ret) with
          | error e =>
              rw [loop_error hgo hr] at h
              exact nomatch Option.some.inj h
          | ok s' =>
              obtain ⟨inp', ret'⟩ := s'
              rw [loop_ok hgo hr] at h
              obtain ⟨l, hl, hinp⟩ := decRound_ok hr
              obtain ⟨ls, hls, hrest⟩ := ih h
              refine ⟨l :: ls, fun m hm => ?_, by rw [hinp, hrest, wire_cons]⟩
              rcases List.mem_cons.mp hm with rfl | hm
              · exact hl
              · exact hls m hm

/-- The decoder needs no more rounds than there are octets. -/
theorem decLoop_ends (inp : List UInt8) (ret : Charstring) :
    ∃ r, loop decGoing decRound inp.length (inp, ret) = some r := by
  refine loop_of_measure (fun s : DecState => s.1.length) (I := fun _ => True)
    (fun s _ hgo => of_decide_eq_true hgo) ?_ inp.length (inp, ret) trivial (Nat.le_refl _)
  rintro ⟨inp, ret⟩ ⟨inp', ret'⟩ - - hr
  obtain ⟨l, -, rfl⟩ := decRound_ok hr
  refine ⟨trivial, ?_⟩
  show inp'.length < (labelOctets l ++ inp').length
  rw [List.length_append, labelOctets, List.length_cons]
  omega

/-- **WHAT IS DECODED**: the labels that the octets consist of. -/
theorem fDecDnsHostname_ok_iff {inp : List UInt8} {h : Charstring} :
    fDecDnsHostname inp = .ok h ↔ ∃ labels : List Charstring,
      (∀ l ∈ labels, l.length < 256) ∧ inp = wire labels ∧ h = joined labels := by
  constructor
  · intro hok
    obtain ⟨r, hr⟩ := decLoop_ends inp []
    rw [fDecDnsHostname, hr] at hok
    obtain ⟨t, rfl, rfl⟩ := map_ok hok
    obtain ⟨labels, hall, rfl⟩ := decLoop_ok hr
    refine ⟨labels, hall, rfl, ?_⟩
    rw [decLoop_wire hall _ [] (Nat.le_refl _)] at hr
    rw [← Except.ok.inj (Option.some.inj hr)]
    rfl
  · rintro ⟨labels, hall, rfl, rfl⟩
    rw [fDecDnsHostname, decLoop_wire hall _ [] (Nat.le_refl _)]
    rfl

-- ── The codec ────────────────────────────────────────────────────────────────

/-- Octets that proper labels are encoded as. -/
def IsWire (inp : List UInt8) : Prop :=
  ∃ labels : List Charstring, labels ≠ [] ∧ (∀ l ∈ labels, IsLabel l) ∧ inp = wire labels

/-- **DECODING ENDS**: every round that the decoder comes to takes an octet at
    least, or it is an error, as it is where the label does not lie inside the
    octets. -/
structure DecodesSafely (inp : List UInt8) : Prop where
  ends : ∃ r, loop decGoing decRound inp.length (inp, []) = some r
  consumes : ∀ s s', Comes decGoing decRound (inp, []) s → decRound s = .ok s' →
    ∃ taken, taken ≠ [] ∧ s.1 = taken ++ s'.1
  inside : ∀ s o body, Comes decGoing decRound (inp, []) s → s.1 = o :: body →
    body.length < o.toNat → decRound s = .error .badIndex
  result : (∃ labels, inp = wire labels ∧ fDecDnsHostname inp = .ok (joined labels))
    ∨ fDecDnsHostname inp = .error .badIndex
    ∨ fDecDnsHostname inp = .error outsideIso646

/-- A round fails for a label that is cut off or no text. -/
theorem decRound_error {o : UInt8} {body : List UInt8} {ret : Charstring} {e : Fault}
    (h : decRound (o :: body, ret) = .error e) : e = .badIndex ∨ e = outsideIso646 := by
  rw [decRound_eq] at h
  by_cases hlen : o.toNat ≤ body.length
  · rw [if_pos hlen] at h
    exact Or.inr (oct2char_error (map_error h))
  · rw [if_neg hlen] at h
    exact Or.inl (Except.error.inj h).symm

/-- **DECODING** ends on any input. -/
theorem decodesSafely (inp : List UInt8) : DecodesSafely inp where
  ends := decLoop_ends inp []
  consumes := by
    rintro ⟨inp', ret⟩ ⟨inp'', ret'⟩ - hr
    obtain ⟨l, -, hinp⟩ := decRound_ok hr
    exact ⟨labelOctets l, List.cons_ne_nil _ _, hinp⟩
  inside := by
    rintro ⟨inp', ret⟩ o body - hinp hpast
    rw [show inp' = o :: body from hinp, decRound_eq, if_neg (Nat.not_le.mpr hpast)]
  result := by
    cases hdec : fDecDnsHostname inp with
    | ok h =>
        obtain ⟨labels, -, hinp, rfl⟩ := fDecDnsHostname_ok_iff.mp hdec
        exact Or.inl ⟨labels, hinp, rfl⟩
    | error e =>
        obtain ⟨r, hr⟩ := decLoop_ends inp []
        rw [fDecDnsHostname, hr] at hdec
        have hr' : r = .error e := map_error hdec
        rw [hr'] at hr
        obtain ⟨⟨inp', ret⟩, -, hgo, hround⟩ := loop_fails hr
        cases inp' with
        | nil => exact nomatch hgo
        | cons o body =>
            rcases decRound_error hround with rfl | rfl
            · exact Or.inr (Or.inl rfl)
            · exact Or.inr (Or.inr rfl)

/-- **DECODING** gives back the labels of a name. -/
theorem fDecDnsHostname_wire {labels : List Charstring} (hall : ∀ l ∈ labels, IsLabel l) :
    fDecDnsHostname (wire labels) = .ok (joined labels) :=
  fDecDnsHostname_ok_iff.mpr ⟨labels,
    fun l hl => Nat.lt_of_le_of_lt (hall l hl).short (by decide), rfl, rfl⟩

/-- **THE CODEC**: proper labels are encoded as their length octets and
    characters and decoded again, octets of proper labels come back, and
    decoding any octets is safe. -/
theorem dns_hostname_codec :
    (∀ labels : List Charstring, labels ≠ [] → (∀ l ∈ labels, IsLabel l) →
      fEncDnsHostname (joined labels) = .ok (wire labels)
        ∧ fDecDnsHostname (wire labels) = .ok (joined labels))
    ∧ (∀ inp, IsWire inp → ∃ h, fDecDnsHostname inp = .ok h ∧ fEncDnsHostname h = .ok inp)
    ∧ ∀ inp, DecodesSafely inp := by
  refine ⟨fun labels hne hall => ?_, ?_, decodesSafely⟩
  · exact ⟨fEncDnsHostname_joined hne hall, fDecDnsHostname_wire hall⟩
  · rintro inp ⟨labels, hne, hall, rfl⟩
    exact ⟨joined labels, fDecDnsHostname_wire hall, fEncDnsHostname_joined hne hall⟩

/-- "a.bc" -/
example : fEncDnsHostname [97, 46, 98, 99] = .ok [1, 97, 2, 98, 99]
    ∧ fDecDnsHostname [1, 97, 3, 98, 99] = .error .badIndex := by decide

end OsmoDns
