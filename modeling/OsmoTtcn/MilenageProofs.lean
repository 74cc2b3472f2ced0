import OsmoTtcn.OctetBufferProofs

/-! # Milenage

    `library/milenage/milenage.c` with the wrapper `f_milenage_check`.  The
    functions f1 to f5* encrypt blocks under the subscriber key; what they are
    used for is the agreement between an authentication centre and a card.  The
    centre hides its sequence number in a token that carries a code over it;
    the card takes the token if the number is new to it, and otherwise answers
    with its own number, hidden and with a code in its turn.

    The block cipher is a parameter: nothing here depends on what it is. -/

namespace OsmoMilenage

open OctetBuffer

section Functions

-- `aes_128_encrypt_block`, of a key and a block
variable (aes : Vector UInt8 16 → Vector UInt8 16 → Vector UInt8 16)

/-- The loop `tmp[(i + r) % 16] = x[i]`. -/
def rotated (r : Nat) (x : Vector UInt8 16) : Vector UInt8 16 :=
  Vector.ofFn fun j => x.get (Fin.ofNat 16 (j.val + (16 - r)))

/-- `tmp[15] ^= c` -/
def xorLast (x : Vector UInt8 16) (c : UInt8) : Vector UInt8 16 := 
  x.setIfInBounds 15 (x.get 15 ^^^ c)

/-- `mac_a` and `mac_s` -/
structure F1 where
  mac_a : Vector UInt8 8
  mac_s : Vector UInt8 8

/-- `milenage_f1` -/
def milenageF1 (opc k rand : Vector UInt8 16) (sqn : Vector UInt8 6) (amf : Vector UInt8 2) :
    F1 :=
  let tmp1 := aes k (xor rand opc)
  let tmp2 : Vector UInt8 16 := (sqn ++ amf) ++ (sqn ++ amf)
  let tmp3 := xor (rotated 8 (xor tmp2 opc)) tmp1
  let out := xor (aes k tmp3) opc
  { mac_a := slice out 0 8, mac_s := slice out 8 8 }

/-- `res`, `ck`, `ik`, `ak` and `akstar` -/
structure F2345 where
  res : Vector UInt8 8
  ck : Vector UInt8 16
  ik : Vector UInt8 16
  ak : Vector UInt8 6
  akstar : Vector UInt8 6

/-- `milenage_f2345`; a caller leaves out what it passes no buffer for. -/
def milenageF2345 (opc k rand : Vector UInt8 16) : F2345 :=
  let tmp2 := aes k (xor rand opc)
  let out2 := xor (aes k (xorLast (xor tmp2 opc) 1)) opc
  { res := slice out2 8 8
    ak := slice out2 0 6
    ck := xor (aes k (xorLast (rotated 12 (xor tmp2 opc)) 2)) opc
    ik := xor (aes k (xorLast (rotated 8 (xor tmp2 opc)) 4)) opc
    akstar := slice (xor (aes k (xorLast (rotated 4 (xor tmp2 opc)) 8)) opc) 0 6 }

/-- What the centre keeps of a challenge: the token, and what it expects. -/
structure Generated where
  autn : Vector UInt8 16
  ik : Vector UInt8 16
  ck : Vector UInt8 16
  res : Vector UInt8 8

/-- `milenage_generate`; `none` where the buffer for the response is too short. -/
def milenageGenerate (opc : Vector UInt8 16) (amf : Vector UInt8 2) (k : Vector UInt8 16)
    (sqn : Vector UInt8 6) (rand : Vector UInt8 16) (resLen : Nat) : Option Generated :=
  if resLen < 8 then none
  else
    let f1 := milenageF1 aes opc k rand sqn amf
    let f2345 := milenageF2345 aes opc k rand
    some { autn := xor sqn f2345.ak ++ amf ++ f1.mac_a
           ik := f2345.ik
           ck := f2345.ck
           res := f2345.res }

/-- `milenage_auts`: the number of the card, where the code is right. -/
def milenageAuts (opc k rand : Vector UInt8 16) (auts : Vector UInt8 14) :
    Option (Vector UInt8 6) :=
  let ak := (milenageF2345 aes opc k rand).akstar
  let sqn := xor (slice auts 0 6) ak
  let mac_s := (milenageF1 aes opc k rand sqn (Vector.replicate 2 0)).mac_s
  if memcmp mac_s (slice auts 6 8) ≠ 0 then none else some sqn

/-- What `milenage_check` returns and fills; `auts` is filled only for a
    synchronization failure. -/
structure Checked where
  rc : Int
  ik : Vector UInt8 16
  ck : Vector UInt8 16
  res : Vector UInt8 8
  auts : Option (Vector UInt8 14)
  deriving DecidableEq

/-- `milenage_check`.  The number is looked at before the code. -/
def milenageCheck (opc k : Vector UInt8 16) (sqn : Vector UInt8 6)
    (rand autn : Vector UInt8 16) : Checked :=
  let f2345 := milenageF2345 aes opc k rand
  let rx_sqn := xor (slice autn 0 6) f2345.ak
  let filled (rc : Int) (auts : Option (Vector UInt8 14)) : Checked :=
    { rc := rc, ik := f2345.ik, ck := f2345.ck, res := f2345.res, auts := auts }
  if memcmp rx_sqn sqn ≤ 0 then
    let mac_s := (milenageF1 aes opc k rand sqn (Vector.replicate 2 0)).mac_s
    filled (-2) (some (xor sqn f2345.akstar ++ mac_s))
  else
    let amf := slice autn 6 2
    let mac_a := (milenageF1 aes opc k rand rx_sqn amf).mac_a
    if memcmp mac_a (slice autn 8 8) ≠ 0 then filled (-1) none else filled 0 none

/-- `f_milenage_check`: of the eight octets of `sqn` the first six are read. -/
def fMilenageCheck (opc k : Vector UInt8 16) (sqn : Vector UInt8 8)
    (rand autn : Vector UInt8 16) : Checked :=
  milenageCheck aes opc k (slice sqn 0 6) rand autn

end Functions

variable {aes : Vector UInt8 16 → Vector UInt8 16 → Vector UInt8 16}
variable {opc k rand : Vector UInt8 16}

-- ── Tokens ───────────────────────────────────────────────────────────────────

/-- The token of the centre, for a number and a field. -/
def autnOf (aes : Vector UInt8 16 → Vector UInt8 16 → Vector UInt8 16)
    (opc k rand : Vector UInt8 16) (sqn : Vector UInt8 6) (amf : Vector UInt8 2) :
    Vector UInt8 16 :=
  xor sqn (milenageF2345 aes opc k rand).ak ++ amf ++ (milenageF1 aes opc k rand sqn amf).mac_a

/-- The token of the card, for its number. -/
def autsOf (aes : Vector UInt8 16 → Vector UInt8 16 → Vector UInt8 16)
    (opc k rand : Vector UInt8 16) (sqn : Vector UInt8 6) : Vector UInt8 14 :=
  xor sqn (milenageF2345 aes opc k rand).akstar
    ++ (milenageF1 aes opc k rand sqn (Vector.replicate 2 0)).mac_s

/-- The three parts of a token of the centre. -/
theorem slices_autn (a : Vector UInt8 6) (amf : Vector UInt8 2) (mac : Vector UInt8 8) :
    slice (m := 16) (a ++ amf ++ mac) 0 6 = a
      ∧ slice (m := 16) (a ++ amf ++ mac) 6 2 = amf
      ∧ slice (m := 16) (a ++ amf ++ mac) 8 8 = mac := by
  refine ⟨Vector.ext fun i h => ?_, Vector.ext fun i h => ?_, slice_append_right _ _⟩
  · rw [slice_getElem _ (by omega), Vector.getElem_append_left (by omega),
      Vector.getElem_append_left (by omega)]
    simp
  · have hle : 6 ≤ 6 + i := Nat.le_add_right 6 i
    rw [slice_getElem _ (by omega), Vector.getElem_append_left (by omega),
      Vector.getElem_append_right (by omega) hle]
    simp

/-- A token is its three parts. -/
theorem autn_slices (v : Vector UInt8 16) :
    slice v 0 6 ++ slice v 6 2 ++ slice v 8 8 = v := by
  have hfirst : slice v 0 6 ++ slice v 6 2 = slice v 0 8 := by
    refine Vector.ext fun i h => ?_
    by_cases hi : i < 6
    · rw [Vector.getElem_append_left hi, slice_getElem _ (by omega), slice_getElem _ (by omega)]
    · have hle : 6 ≤ i := Nat.le_of_not_lt hi
      rw [Vector.getElem_append_right (by omega) hle, slice_getElem _ (by omega),
        slice_getElem _ (by omega)]
      simp [Nat.add_sub_cancel' hle]
  rw [hfirst]
  exact append_slices (m := 8) (n := 8) v

-- ── What the card decides ────────────────────────────────────────────────────

/-- The three outcomes of the check, by what the token says and what it is. -/
theorem milenageCheck_cases (aes : Vector UInt8 16 → Vector UInt8 16 → Vector UInt8 16)
    (opc k rand : Vector UInt8 16) (sqn : Vector UInt8 6) (autn : Vector UInt8 16) :
    ∃ rx amf mac, autn = xor rx (milenageF2345 aes opc k rand).ak ++ amf ++ mac ∧
      milenageCheck aes opc k sqn rand autn =
        { rc := if num rx ≤ num sqn then -2
            else if mac = (milenageF1 aes opc k rand rx amf).mac_a then 0 else -1
          ik := (milenageF2345 aes opc k rand).ik
          ck := (milenageF2345 aes opc k rand).ck
          res := (milenageF2345 aes opc k rand).res
          auts := if num rx ≤ num sqn then some (autsOf aes opc k rand sqn) else none } := by
  refine ⟨xor (slice autn 0 6) (milenageF2345 aes opc k rand).ak,
    slice autn 6 2, slice autn 8 8, ?_, ?_⟩
  · rw [xor_xor]
    exact (autn_slices autn).symm
  · rw [milenageCheck]
    simp only [memcmp_nonpos_iff, ne_eq, memcmp_eq_zero_iff]
    by_cases hold : num (xor (slice autn 0 6) (milenageF2345 aes opc k rand).ak) ≤ num sqn
    · rw [if_pos hold, if_pos hold, if_pos hold]
      rfl
    · rw [if_neg hold, if_neg hold, if_neg hold]
      by_cases hmac : slice autn 8 8 = (milenageF1 aes opc k rand
          (xor (slice autn 0 6) (milenageF2345 aes opc k rand).ak) (slice autn 6 2)).mac_a
      · rw [if_pos hmac, if_neg (not_not.mpr hmac.symm)]
      · rw [if_neg hmac, if_pos (fun h => hmac h.symm)]

/-- A token for the card is read as what it was made of. -/
theorem milenageCheck_autnOf (sqnHE sqnMS : Vector UInt8 6) (amf : Vector UInt8 2) :
    milenageCheck aes opc k sqnMS rand (autnOf aes opc k rand sqnHE amf) =
      { rc := if num sqnHE ≤ num sqnMS then -2 else 0
        ik := (milenageF2345 aes opc k rand).ik
        ck := (milenageF2345 aes opc k rand).ck
        res := (milenageF2345 aes opc k rand).res
        auts := if num sqnHE ≤ num sqnMS then some (autsOf aes opc k rand sqnMS) else none } := by
  obtain ⟨rx, amf', mac, hautn, hcheck⟩ := milenageCheck_cases aes opc k rand sqnMS
    (autnOf aes opc k rand sqnHE amf)
  obtain ⟨hsqn, hamf, hmac⟩ := slices_autn (xor sqnHE (milenageF2345 aes opc k rand).ak) amf
    (milenageF1 aes opc k rand sqnHE amf).mac_a
  obtain ⟨hsqn', hamf', hmac'⟩ := slices_autn (xor rx (milenageF2345 aes opc k rand).ak) amf' mac
  rw [autnOf] at hautn
  rw [hautn, hsqn'] at hsqn
  rw [hautn, hamf'] at hamf
  rw [hautn, hmac'] at hmac
  have hrx : rx = sqnHE := by
    rw [← xor_xor rx (milenageF2345 aes opc k rand).ak, hsqn, xor_xor]
  rw [hcheck, hmac, hrx, hamf, if_pos rfl]

/-- The token of the card gives its number back, and no other token gives it. -/
theorem milenageAuts_eq_some {auts : Vector UInt8 14} {sqn : Vector UInt8 6} :
    milenageAuts aes opc k rand auts = some sqn ↔ auts = autsOf aes opc k rand sqn := by
  rw [milenageAuts]
  simp only [ne_eq, memcmp_eq_zero_iff]
  constructor
  · intro h
    by_cases hmac : (milenageF1 aes opc k rand (xor (slice auts 0 6)
        (milenageF2345 aes opc k rand).akstar) (Vector.replicate 2 0)).mac_s = slice auts 6 8
    · rw [if_neg (not_not.mpr hmac)] at h
      rw [autsOf, ← Option.some.inj h, hmac, xor_xor]
      exact (append_slices (m := 6) (n := 8) auts).symm
    · rw [if_pos hmac] at h
      cases h
  · rintro rfl
    have hsqn : slice (autsOf aes opc k rand sqn) 0 6
        = xor sqn (milenageF2345 aes opc k rand).akstar := slice_append_left _ _
    have hmac : slice (autsOf aes opc k rand sqn) 6 8
        = (milenageF1 aes opc k rand sqn (Vector.replicate 2 0)).mac_s := slice_append_right _ _
    rw [hsqn, hmac, xor_xor, if_neg (not_not.mpr rfl)]

/-- **CENTRE AND CARD AGREE**, whatever the block cipher, the keys and the
    challenge: the card takes the token of the centre exactly if its number is
    new, with the keys and the response of the centre.  Otherwise it answers
    with a token from which the centre reads the number of the card. -/
theorem milenage_agreement (aes : Vector UInt8 16 → Vector UInt8 16 → Vector UInt8 16)
    (opc k rand : Vector UInt8 16) (amf : Vector UInt8 2) (sqnHE sqnMS : Vector UInt8 6) :
    ∃ g auts, milenageGenerate aes opc amf k sqnHE rand 8 = some g ∧
      milenageCheck aes opc k sqnMS rand g.autn =
        (if num sqnMS < num sqnHE
          then { rc := 0, ik := g.ik, ck := g.ck, res := g.res, auts := none }
          else { rc := -2, ik := g.ik, ck := g.ck, res := g.res, auts := some auts }) ∧
      milenageAuts aes opc k rand auts = some sqnMS := by
  refine ⟨⟨autnOf aes opc k rand sqnHE amf, (milenageF2345 aes opc k rand).ik,
    (milenageF2345 aes opc k rand).ck, (milenageF2345 aes opc k rand).res⟩,
    autsOf aes opc k rand sqnMS, rfl, ?_, milenageAuts_eq_some.mpr rfl⟩
  rw [milenageCheck_autnOf]
  by_cases h : num sqnMS < num sqnHE
  · rw [if_pos h, if_neg (Nat.not_le.mpr h), if_neg (Nat.not_le.mpr h)]
  · rw [if_neg h, if_pos (Nat.le_of_not_lt h), if_pos (Nat.le_of_not_lt h)]

/-- The answers that the card makes for its number. -/
theorem milenageCheck_auts_iff {auts : Vector UInt8 14} {sqn : Vector UInt8 6} :
    (∃ autn, (milenageCheck aes opc k sqn rand autn).auts = some auts)
      ↔ auts = autsOf aes opc k rand sqn := by
  constructor
  · rintro ⟨autn, h⟩
    obtain ⟨rx, amf, mac, -, hcheck⟩ := milenageCheck_cases aes opc k rand sqn autn
    rw [hcheck] at h
    by_cases hold : num rx ≤ num sqn
    · exact (Option.some.inj ((if_pos hold).symm.trans h)).symm
    · exact nomatch (if_neg hold).symm.trans h
  · rintro rfl
    refine ⟨autnOf aes opc k rand sqn (Vector.replicate 2 0), ?_⟩
    rw [milenageCheck_autnOf]
    exact if_pos (Nat.le_refl _)

/-- The tokens that the card accepts. -/
theorem milenageCheck_accepts_iff {autn : Vector UInt8 16} {sqnMS : Vector UInt8 6} :
    (milenageCheck aes opc k sqnMS rand autn).rc = 0 ↔ ∃ sqnHE amf,
      num sqnMS < num sqnHE ∧ autn = autnOf aes opc k rand sqnHE amf := by
  constructor
  · intro h
    obtain ⟨rx, amf, mac, hautn, hcheck⟩ := milenageCheck_cases aes opc k rand sqnMS autn
    rw [hcheck] at h
    by_cases hold : num rx ≤ num sqnMS
    · rw [if_pos hold] at h
      cases h
    · rw [if_neg hold] at h
      by_cases hmac : mac = (milenageF1 aes opc k rand rx amf).mac_a
      · exact ⟨rx, amf, Nat.lt_of_not_le hold, by rw [hautn, hmac, autnOf]⟩
      · rw [if_neg hmac] at h
        cases h
  · rintro ⟨sqnHE, amf, hnew, rfl⟩
    rw [milenageCheck_autnOf]
    exact if_neg (Nat.not_le.mpr hnew)

/-- The tokens that the card takes for old. -/
theorem milenageCheck_old_iff {autn : Vector UInt8 16} {sqnMS : Vector UInt8 6} :
    (milenageCheck aes opc k sqnMS rand autn).rc = -2 ↔
      num (xor (slice autn 0 6) (milenageF2345 aes opc k rand).ak) ≤ num sqnMS := by
  obtain ⟨rx, amf, mac, hautn, hcheck⟩ := milenageCheck_cases aes opc k rand sqnMS autn
  obtain ⟨hsqn, -, -⟩ := slices_autn (xor rx (milenageF2345 aes opc k rand).ak) amf mac
  rw [hcheck, hautn, hsqn, xor_xor]
  by_cases hold : num rx ≤ num sqnMS
  · exact iff_of_true (if_pos hold) hold
  · refine iff_of_false (fun h => ?_) hold
    rw [if_neg hold] at h
    by_cases hmac : mac = (milenageF1 aes opc k rand rx amf).mac_a
    · rw [if_pos hmac] at h
      cases h
    · rw [if_neg hmac] at h
      cases h

/-- **ONLY GENUINE TOKENS COUNT**: the card accepts a token exactly if the
    centre makes it for some new number and some field, and the centre accepts
    an answer exactly if the card makes it for its number.  For an old number
    the card answers without a look at the code. -/
theorem milenage_genuine (aes : Vector UInt8 16 → Vector UInt8 16 → Vector UInt8 16)
    (opc k rand autn : Vector UInt8 16) (sqnMS sqn : Vector UInt8 6) (auts : Vector UInt8 14) :
    ((milenageCheck aes opc k sqnMS rand autn).rc = 0 ↔ ∃ sqnHE amf g,
      num sqnMS < num sqnHE ∧ milenageGenerate aes opc amf k sqnHE rand 8 = some g
        ∧ autn = g.autn) ∧
    ((milenageCheck aes opc k sqnMS rand autn).rc = -2 ↔
      num (xor (slice autn 0 6) (milenageF2345 aes opc k rand).ak) ≤ num sqnMS) ∧
    (milenageAuts aes opc k rand auts = some sqn
      ↔ ∃ autn', (milenageCheck aes opc k sqn rand autn').auts = some auts) := by
  refine ⟨?_, milenageCheck_old_iff, milenageAuts_eq_some.trans milenageCheck_auts_iff.symm⟩
  rw [milenageCheck_accepts_iff]
  constructor
  · rintro ⟨sqnHE, amf, hnew, hautn⟩
    exact ⟨sqnHE, amf, _, hnew, rfl, hautn⟩
  · rintro ⟨sqnHE, amf, g, hnew, hg, hautn⟩
    refine ⟨sqnHE, amf, hnew, ?_⟩
    rw [hautn, ← Option.some.inj hg]
    rfl

end OsmoMilenage
