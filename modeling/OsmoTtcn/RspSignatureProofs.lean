import OsmoTtcn.DerProofs
import OsmoTtcn.TitanProofs

/-! # ECDSA signatures in two formats

    BSI TR-03111 has `r` and `s` in 32 octets each; DER has them as integers of
    as many octets as they need.  The two conversions go through BIGNUMs of
    OpenSSL, whose functions are parameters.

    `ecdsa_signature_formats` proves that the conversions are inverse to each
    other, leading zeros included, and that nothing is written outside the 64
    octets. -/

namespace OsmoRsp

open OsmoTitan Der

-- ── OpenSSL ──────────────────────────────────────────────────────────────────

/-- BIGNUMs and the codec of signatures. -/
structure Openssl (Bn : Type) where
  /-- `BN_new` and `ECDSA_SIG_new` give an object. -/
  bnNew : Bool
  ecdsaSigNew : Bool
  bnBin2bn : List UInt8 → Bn
  bnNumBytes : Bn → Nat
  /-- What `BN_bn2bin` writes. -/
  bnBn2bin : Bn → List UInt8
  /-- `none`: the result is negative. -/
  i2dEcdsaSig : Bn × Bn → Option (List UInt8)
  /-- `r` and `s` of what is parsed; `none` is a null pointer. -/
  d2iEcdsaSig : List UInt8 → Option (Option Bn × Option Bn)

/-- Octets are written at an offset into a vector; nothing checks the offset. -/
def writeAt (buf : List UInt8) (offset : Int) (os : List UInt8) :
    Except Fault (List UInt8) :=
  if 0 ≤ offset ∧ offset + os.length ≤ buf.length then
    .ok (buf.take offset.toNat ++ os ++ buf.drop (offset.toNat + os.length))
  else .error .overrun

section Code

variable {Bn : Type} (ssl : Openssl Bn)

/-- `convertBSI_TR03111_to_DER` -/
def convertBsiTr03111ToDer (bsiSignature : List UInt8) : List UInt8 :=
  if bsiSignature.length ≠ 64 then []
  else if ssl.bnNew = false then []
  else
    let r := ssl.bnBin2bn (bsiSignature.take 32)
    let s := ssl.bnBin2bn ((bsiSignature.drop 32).take 32)
    if ssl.ecdsaSigNew = false then []
    else match ssl.i2dEcdsaSig (r, s) with
      | none => []
      | some derSignature => derSignature

/-- `convertDER_to_BSI_TR03111` -/
def convertDerToBsiTr03111 (derSignature : List UInt8) : Except Fault (List UInt8) :=
  if derSignature = [] then .ok []
  else match ssl.d2iEcdsaSig derSignature with
    | some (some r, some s) =>
        let rLen : Int := ssl.bnNumBytes r
        let sLen : Int := ssl.bnNumBytes s
        if rLen > 32 ∨ sLen > 32 then .ok []
        else
          -- with leading zeros padding
          (writeAt (List.replicate 64 0) (32 - rLen) (ssl.bnBn2bin r)).bind
            (fun bsiSignature =>
              writeAt bsiSignature (64 - sLen) (ssl.bnBn2bin s))
    -- failed to parse
    | _ => .ok []

end Code

-- ── What OpenSSL does ────────────────────────────────────────────────────────

/-- `ECDSA-Sig-Value ::= SEQUENCE { r INTEGER, s INTEGER }` -/
def sigValue (r s : Nat) : Tlv := sequence [integer r, integer s]

/-- A signature in its DER form. -/
def derSig (r s : Nat) : List UInt8 := (sigValue r s).octets

/-- The length of the encoding is an `int`. -/
def Fits (r s : Nat) : Prop := (derSig r s).length < 2147483648

/-- The conversions are right: `val` is the number that a BIGNUM is for. -/
structure Openssl.Laws {Bn : Type} (ssl : Openssl Bn) (val : Bn → Int) : Prop where
  bnNew : ssl.bnNew = true
  ecdsaSigNew : ssl.ecdsaSigNew = true
  bnBin2bn : ∀ os, val (ssl.bnBin2bn os) = (ofOctets os : Nat)
  bnNumBytes : ∀ b, ssl.bnNumBytes b = (octets (val b).natAbs).length
  bnBn2bin : ∀ b, ssl.bnBn2bin b = octets (val b).natAbs
  i2dEcdsaSig : ∀ r s (n m : Nat), val r = n → val s = m → Fits n m →
    ssl.i2dEcdsaSig (r, s) = some (derSig n m)
  d2iEcdsaSig : ∀ n m : Nat, Fits n m → ∃ r s,
    ssl.d2iEcdsaSig (derSig n m) = some (some r, some s) ∧ val r = n ∧ val s = m

-- ── The buffer ───────────────────────────────────────────────────────────────

/-- A number is written at the end of a field of zeros. -/
theorem writeAt_field (pre post : List UInt8) {os : List UInt8} {k : Nat} (h : os.length ≤ k) :
    writeAt (pre ++ (List.replicate k 0 ++ post)) ((pre.length + k : Nat) - os.length) os
      = .ok (pre ++ (List.replicate (k - os.length) 0 ++ os ++ post)) := by
  have hoffset : ((pre.length + k : Nat) : Int) - os.length
      = (pre.length + (k - os.length) : Nat) := by
    omega
  have htake : (pre ++ (List.replicate k 0 ++ post)).take (pre.length + (k - os.length))
      = pre ++ List.replicate (k - os.length) 0 := by
    rw [List.take_length_add_append, List.take_append_of_le_length
      (by rw [List.length_replicate]; omega), List.take_replicate, Nat.min_eq_left (by omega)]
  have hdrop : (pre ++ (List.replicate k 0 ++ post)).drop
      (pre.length + (k - os.length) + os.length) = post := by
    rw [show pre.length + (k - os.length) + os.length = pre.length + k by omega,
      List.drop_length_add_append, List.drop_left' List.length_replicate]
  rw [writeAt, hoffset, Int.toNat_natCast, htake, hdrop, if_pos]
  · rw [List.append_assoc, List.append_assoc, List.append_assoc]
  · rw [List.length_append, List.length_append, List.length_replicate]
    omega

section Conversions

variable {Bn : Type} {ssl : Openssl Bn} {val : Bn → Int}

/-- **WHAT IS WRITTEN**: the two numbers, padded to 32 octets each. -/
theorem convertDer_small (h : ssl.Laws val) {der : List UInt8} {r s : Bn} (hne : der ≠ [])
    (hd2i : ssl.d2iEcdsaSig der = some (some r, some s))
    (hr : (octets (val r).natAbs).length ≤ 32) (hs : (octets (val s).natAbs).length ≤ 32) :
    convertDerToBsiTr03111 ssl der
      = .ok (padded 32 (val r).natAbs ++ padded 32 (val s).natAbs) := by
  have hfirst : writeAt (List.replicate 64 0) (32 - (octets (val r).natAbs).length)
      (octets (val r).natAbs) = .ok (padded 32 (val r).natAbs ++ List.replicate 32 0) := by
    have hw := writeAt_field [] (List.replicate 32 0) hr
    exact hw
  have hsecond : writeAt (padded 32 (val r).natAbs ++ List.replicate 32 0)
      (64 - (octets (val s).natAbs).length) (octets (val s).natAbs)
      = .ok (padded 32 (val r).natAbs ++ padded 32 (val s).natAbs) := by
    have hw := writeAt_field (padded 32 (val r).natAbs) [] hs
    rw [padded_length (octets_length_le.mp hr), List.append_nil, List.append_nil] at hw
    exact hw
  rw [convertDerToBsiTr03111, if_neg hne, hd2i]
  simp only [h.bnNumBytes, h.bnBn2bin]
  rw [if_neg (by omega), hfirst]
  exact hsecond

/-- A number of more than 32 octets. -/
theorem convertDer_large (h : ssl.Laws val) {der : List UInt8} {r s : Bn}
    (hd2i : ssl.d2iEcdsaSig der = some (some r, some s))
    (hlarge : 32 < (octets (val r).natAbs).length ∨ 32 < (octets (val s).natAbs).length) :
    convertDerToBsiTr03111 ssl der = .ok [] := by
  rw [convertDerToBsiTr03111]
  by_cases hne : der = []
  · rw [if_pos hne]
  · rw [if_neg hne, hd2i]
    simp only [h.bnNumBytes]
    rw [if_pos (by omega)]

/-- **NOTHING IS WRITTEN OUTSIDE** the 64 octets, whatever is parsed. -/
theorem convertDer_returns (h : ssl.Laws val) (der : List UInt8) :
    ∃ b, convertDerToBsiTr03111 ssl der = .ok b := by
  by_cases hne : der = []
  · exact ⟨[], by rw [convertDerToBsiTr03111, if_pos hne]⟩
  · cases hd2i : ssl.d2iEcdsaSig der with
    | none => exact ⟨[], by rw [convertDerToBsiTr03111, if_neg hne, hd2i]⟩
    | some sig =>
        rcases sig with ⟨_ | r, _ | s⟩
        · exact ⟨[], by rw [convertDerToBsiTr03111, if_neg hne, hd2i]⟩
        · exact ⟨[], by rw [convertDerToBsiTr03111, if_neg hne, hd2i]⟩
        · exact ⟨[], by rw [convertDerToBsiTr03111, if_neg hne, hd2i]⟩
        · by_cases hlarge : 32 < (octets (val r).natAbs).length
              ∨ 32 < (octets (val s).natAbs).length
          · exact ⟨_, convertDer_large h hd2i hlarge⟩
          · obtain ⟨hr, hs⟩ := not_or.mp hlarge
            exact ⟨_, convertDer_small h hne hd2i (Nat.le_of_not_lt hr) (Nat.le_of_not_lt hs)⟩

-- ── The formats ──────────────────────────────────────────────────────────────

theorem natContent_length (n : Nat) : (natContent n).length ≤ (octets n).length + 1 := by
  rw [natContent]
  cases octets n with
  | nil => exact Nat.le_refl 1
  | cons o os =>
      dsimp only
      by_cases ho : o.toNat < 128
      · rw [if_pos ho]
        exact Nat.le_succ _
      · rw [if_neg ho]
        exact Nat.le_refl _

/-- An INTEGER of 32 octets takes at most 35. -/
theorem integer_length {n : Nat} (h : n < 256 ^ 32) : (integer n).octets.length ≤ 35 := by
  have hlen : (natContent n).length ≤ 33 :=
    Nat.le_trans (natContent_length n) (Nat.succ_le_succ (octets_length_le.mpr h))
  have hheader : (integer n).header.length = 2 := by
    show ([2] ++ lengthOctets (natContent n).length).length = 2
    rw [lengthOctets, if_pos (by omega)]
    rfl
  rw [Tlv.octets, List.length_append, hheader]
  show 2 + (natContent n).length ≤ 35
  omega

/-- Numbers of 32 octets have a short encoding. -/
theorem fits_small {n m : Nat} (hn : n < 256 ^ 32) (hm : m < 256 ^ 32) : Fits n m := by
  have hn35 := integer_length hn
  have hm35 := integer_length hm
  have hcontent : (sigValue n m).content.length
      = (integer n).octets.length + (integer m).octets.length := by
    show ((integer n).octets ++ ((integer m).octets ++ [])).length = _
    rw [List.append_nil, List.length_append]
  have hheader : (sigValue n m).header.length = 2 := by
    show ([48] ++ lengthOctets (sigValue n m).content.length).length = 2
    rw [lengthOctets, if_pos (by omega)]
    rfl
  rw [Fits, derSig, Tlv.octets, List.length_append, hheader, hcontent]
  omega

theorem derSig_ne_nil (n m : Nat) : derSig n m ≠ [] := by
  show 48 :: _ ≠ []
  exact List.cons_ne_nil _ _

theorem ofOctets_small {os : List UInt8} (h : os.length = 32) : ofOctets os < 256 ^ 32 := by
  have hlt := ofOctets_lt os
  rw [h] at hlt
  exact hlt

/-- The encoding of a signature, from its halves. -/
theorem convertBsi_eq (h : ssl.Laws val) {a b : List UInt8} (ha : a.length = 32)
    (hb : b.length = 32) :
    convertBsiTr03111ToDer ssl (a ++ b) = derSig (ofOctets a) (ofOctets b) := by
  have hlen : (a ++ b).length = 64 := by
    rw [List.length_append, ha, hb]
  have hr : (a ++ b).take 32 = a := List.take_left' ha
  have hs : ((a ++ b).drop 32).take 32 = b := by
    rw [List.drop_left' ha, List.take_of_length_le (Nat.le_of_eq hb)]
  have hi2d := h.i2dEcdsaSig _ _ _ _ (h.bnBin2bn a) (h.bnBin2bn b)
    (fits_small (ofOctets_small ha) (ofOctets_small hb))
  rw [convertBsiTr03111ToDer, if_neg (not_not.mpr hlen), h.bnNew, h.ecdsaSigNew,
    if_neg (by decide), hr, hs]
  dsimp only
  rw [if_neg (by decide), hi2d]

/-- The 64 octets of a DER signature. -/
theorem convertDer_derSig (h : ssl.Laws val) {r s : Nat} (hr : r < 256 ^ 32)
    (hs : s < 256 ^ 32) :
    convertDerToBsiTr03111 ssl (derSig r s) = .ok (padded 32 r ++ padded 32 s) := by
  obtain ⟨r', s', hd2i, hvr, hvs⟩ := h.d2iEcdsaSig r s (fits_small hr hs)
  have hr' : (val r').natAbs = r := by rw [hvr, Int.natAbs_natCast]
  have hs' : (val s').natAbs = s := by rw [hvs, Int.natAbs_natCast]
  have hsmall := convertDer_small h (derSig_ne_nil r s) hd2i
    (by rw [hr']; exact octets_length_le.mpr hr) (by rw [hs']; exact octets_length_le.mpr hs)
  rw [hr', hs'] at hsmall
  exact hsmall

/-- **TWO FORMATS OF ONE SIGNATURE**: 64 octets come back from DER, and DER from
    64 octets; a number of more than 32 octets is rejected; and every write
    stays inside the 64 octets. -/
theorem ecdsa_signature_formats (h : ssl.Laws val) :
    (∀ b : List UInt8, b.length = 64 →
      convertDerToBsiTr03111 ssl (convertBsiTr03111ToDer ssl b) = .ok b)
    ∧ (∀ r s : Nat, r < 2 ^ 256 → s < 2 ^ 256 → ∃ b,
      convertDerToBsiTr03111 ssl (derSig r s) = .ok b ∧ b.length = 64
        ∧ convertBsiTr03111ToDer ssl b = derSig r s)
    ∧ (∀ der r s, ssl.d2iEcdsaSig der = some (some r, some s) →
      32 < (octets (val r).natAbs).length ∨ 32 < (octets (val s).natAbs).length →
      convertDerToBsiTr03111 ssl der = .ok [])
    ∧ ∀ der, ∃ b, convertDerToBsiTr03111 ssl der = .ok b := by
  refine ⟨fun b hb => ?_, fun r s hr hs => ?_, fun der r s => convertDer_large h,
    convertDer_returns h⟩
  · have hfirst : (b.take 32).length = 32 := by
      rw [List.length_take]
      omega
    have hsecond : (b.drop 32).length = 32 := by
      rw [List.length_drop]
      omega
    have hpad : ∀ {os : List UInt8}, os.length = 32 → padded 32 (ofOctets os) = os := by
      intro os hos
      have hpadded := padded_ofOctets os
      rw [hos] at hpadded
      exact hpadded
    have hbsi := convertBsi_eq h hfirst hsecond
    rw [List.take_append_drop] at hbsi
    rw [hbsi, convertDer_derSig h (ofOctets_small hfirst) (ofOctets_small hsecond),
      hpad hfirst, hpad hsecond, List.take_append_drop]
  · have hr' : r < 256 ^ 32 := by
      rw [show (256 : Nat) ^ 32 = 2 ^ 256 by decide]
      exact hr
    have hs' : s < 256 ^ 32 := by
      rw [show (256 : Nat) ^ 32 = 2 ^ 256 by decide]
      exact hs
    refine ⟨_, convertDer_derSig h hr' hs', ?_, ?_⟩
    · rw [List.length_append, padded_length hr', padded_length hs']
    · rw [convertBsi_eq h (padded_length hr') (padded_length hs'), ofOctets_padded,
        ofOctets_padded]

end Conversions

-- ── An instance ──────────────────────────────────────────────────────────────

/-- The two integers of a SEQUENCE. -/
def readSig (der : List UInt8) : Option (Nat × Nat) :=
  (readTlv der).bind (fun sig =>
    (readTlv sig.1.content).bind (fun r =>
      (readTlv r.2).bind (fun s =>
        if sig.1.ident = (sequence []).ident ∧ r.1.ident = (integer 0).ident
            ∧ s.1.ident = (integer 0).ident then
          some (ofOctets r.1.content, ofOctets s.1.content)
        else none)))

/-- A concrete OpenSSL, whose numbers are natural numbers. -/
def natSsl : Openssl Nat where
  bnNew := true
  ecdsaSigNew := true
  bnBin2bn := ofOctets
  bnNumBytes := fun n => (octets n).length
  bnBn2bin := octets
  i2dEcdsaSig := fun sig => some (derSig sig.1 sig.2)
  d2iEcdsaSig := fun der => (readSig der).map (fun sig => (some sig.1, some sig.2))

theorem content_length_le (t : Tlv) : t.content.length ≤ t.octets.length := by
  rw [Tlv.octets, List.length_append]
  exact Nat.le_add_left _ _

/-- A DER signature is read back. -/
theorem readSig_derSig {n m : Nat} (h : Fits n m) : readSig (derSig n m) = some (n, m) := by
  have hcontent : (sigValue n m).content = (integer n).octets ++ (integer m).octets := by
    show (integer n).octets ++ ((integer m).octets ++ []) = _
    rw [List.append_nil]
  have hlen : (sigValue n m).content.length < 2147483648 :=
    Nat.lt_of_le_of_lt (content_length_le _) h
  have hshort : ∀ {t : Tlv}, t.octets.length < 2147483648 → t.content.length < 256 ^ 126 :=
    fun ht => Nat.lt_of_lt_of_le (Nat.lt_of_le_of_lt (content_length_le _) ht) (by decide)
  rw [hcontent, List.length_append] at hlen
  have hsig := readTlv_octets (t := sigValue n m) (hshort h) []
  have hr := readTlv_octets (t := integer n) (hshort (by omega)) (integer m).octets
  have hs := readTlv_octets (t := integer m) (hshort (by omega)) []
  rw [List.append_nil] at hsig hs
  rw [readSig, derSig, hsig, Option.bind_some, hcontent, hr, Option.bind_some, hs,
    Option.bind_some, if_pos ⟨rfl, rfl, rfl⟩]
  show some (ofOctets (natContent n), ofOctets (natContent m)) = _
  rw [ofOctets_natContent, ofOctets_natContent]

/-- The concrete OpenSSL obeys the documented laws. -/
theorem natSsl_laws : natSsl.Laws (fun n => (n : Int)) where
  bnNew := rfl
  ecdsaSigNew := rfl
  bnBin2bn := fun _ => rfl
  bnNumBytes := fun _ => rfl
  bnBn2bin := fun _ => rfl
  i2dEcdsaSig := by
    intro r s n m hr hs _
    rw [← Int.ofNat.inj hr, ← Int.ofNat.inj hs]
    rfl
  d2iEcdsaSig := by
    intro n m hfits
    refine ⟨n, m, ?_, rfl, rfl⟩
    show (readSig (derSig n m)).map _ = _
    rw [readSig_derSig hfits]
    rfl

/-- `r` has a leading zero octet, `s` is 0. -/
def zerosSignature : List UInt8 := 0 :: List.replicate 31 0x80 ++ List.replicate 32 0

/-- A signature of zeros comes back. -/
theorem ecdsa_signature_formats_zeros :
    convertDerToBsiTr03111 natSsl (convertBsiTr03111ToDer natSsl zerosSignature)
        = .ok zerosSignature
      ∧ ∃ b, convertDerToBsiTr03111 natSsl (derSig 128 0) = .ok b ∧ b.length = 64
        ∧ convertBsiTr03111ToDer natSsl b = derSig 128 0 :=
  ⟨(ecdsa_signature_formats natSsl_laws).1 zerosSignature rfl,
    (ecdsa_signature_formats natSsl_laws).2.1 128 0 (by decide) (by decide)⟩

end OsmoRsp
