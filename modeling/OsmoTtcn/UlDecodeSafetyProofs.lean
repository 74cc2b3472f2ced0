import OsmoTtcn.EgprsPlacementProofs

/-! # Uplink data blocks that are malformed

    Behind the header, both uplink decoders move one cursor through the
    extension octets, the TLLI, the PFI and the payloads.  The extension octets
    and the PFI are decoded and a payload is cut to what is left, so none of
    them is read past the end.

    The four octets of the TLLI are taken unchecked.  `ulDecode_safe_iff` says
    that this is all: a block that announces a TLLI needs four octets behind its
    extension octets. -/

namespace OsmoRlcmac

open OsmoTitan WireOctet LiSegments

-- ── The parts behind the header ──────────────────────────────────────────────

/-- What a decoder may do with octets it is given: report an error, or return
    something that `Q` holds of. -/
def ReadsWithin {α : Type} (Q : α → Prop) : Except Fault α → Prop
  | .error e => e ≠ .overread
  | .ok a => Q a

/-- These octets stand in `buf` one after the other, behind the first `n`. -/
def SlicesOf (buf : List UInt8) (n : Nat) (tlli : Option GprsTlli) (pfi : Option RlcMacUlPfi)
    (payloads : List UInt8) : Prop :=
  ∃ pre post, buf = pre ++ (encTlli tlli ++ (encPfi pfi ++ (payloads ++ post)))
    ∧ pre.length = n

/-- The TLLI is the head of what is decoded. -/
theorem decTlli_split {ti : Bool} {buf rest : List UInt8} {tlli : Option GprsTlli}
    (h : decTlli ti buf = .ok (tlli, rest)) : buf = encTlli tlli ++ rest := by
  rw [decTlli] at h
  cases ti with
  | false =>
      obtain ⟨rfl, rfl⟩ := Prod.mk.inj (Except.ok.inj h)
      rfl
  | true =>
      rw [if_pos rfl, takeTlli] at h
      by_cases hlen : 4 ≤ buf.length
      · rw [dif_pos hlen] at h
        obtain ⟨rfl, rfl⟩ := Prod.mk.inj (Except.ok.inj h)
        exact (List.take_append_drop 4 buf).symm
      · rw [dif_neg hlen] at h
        cases h

/-- The octet of a PFI. -/
theorem encRlcMacUlPfi_dec (o : UInt8) :
    encRlcMacUlPfi { pfi := Fin.ofNat 128 (o.toNat / 2), m := bitOf o 0 } = [o] := by
  have ho := o.toNat_lt
  have hval : (Fin.ofNat 128 (o.toNat / 2)).val = o.toNat / 2 :=
    Nat.mod_eq_of_lt (by omega)
  have hbit : bit (bitOf o 0) = o.toNat % 2 := by
    rw [bitOf, bit, Nat.pow_zero, Nat.div_one]
    split
    · rename_i h
      exact (of_decide_eq_true h).symm
    · rename_i h
      have hne : ¬ o.toNat % 2 = 1 := fun h1 => h (decide_eq_true h1)
      omega
  rw [encRlcMacUlPfi, hval, hbit]
  refine congrArg (fun o => [o]) (UInt8.toNat_inj.mp ?_)
  rw [toNat_octet (by omega)]
  omega

/-- So is the PFI. -/
theorem decPfi_split {pi : Bool} {buf rest : List UInt8} {pfi : Option RlcMacUlPfi}
    (h : decPfi pi buf = .ok (pfi, rest)) : buf = encPfi pfi ++ rest := by
  rw [decPfi] at h
  cases pi with
  | false =>
      obtain ⟨rfl, rfl⟩ := Prod.mk.inj (Except.ok.inj h)
      rfl
  | true =>
      cases buf with
      | nil => exact nomatch h
      | cons o buf =>
          obtain ⟨rfl, rfl⟩ := Prod.mk.inj (Except.ok.inj h)
          rw [encPfi, encRlcMacUlPfi_dec]
          rfl

/-- Decoding a PFI reads nothing that is not there. -/
theorem decPfi_error {pi : Bool} {buf : List UInt8} {e : Fault} (h : decPfi pi buf = .error e) :
    e ≠ .overread := by
  rw [decPfi] at h
  cases pi with
  | false => exact nomatch h
  | true =>
      cases buf with
      | nil =>
          rw [← Except.error.inj h]
          exact nofun
      | cons o buf => exact nomatch h

/-- **THE TLLI** is taken where four octets are left, or not announced. -/
theorem decTlli_cases (ti : Bool) (buf : List UInt8) :
    (∃ r, decTlli ti buf = .ok r ∧ (ti = true → 4 ≤ buf.length))
      ∨ decTlli ti buf = .error .overread ∧ ti = true ∧ ¬ 4 ≤ buf.length := by
  rw [decTlli]
  cases ti with
  | false => exact Or.inl ⟨_, rfl, nofun⟩
  | true =>
      rw [if_pos rfl, takeTlli]
      by_cases hlen : 4 ≤ buf.length
      · rw [dif_pos hlen]
        exact Or.inl ⟨_, rfl, fun _ => hlen⟩
      · rw [dif_neg hlen]
        exact Or.inr ⟨rfl, rfl, hlen⟩

section Body

variable {H B : Type}

/-- What follows the header: the headers of the segments, the TLLI, the PFI and
    the octets that are left. -/
def decUlBody (ext : Except Fault (List H × List UInt8)) (tlliInd pfiInd : Bool) :
    Except Fault (List H × Option GprsTlli × Option RlcMacUlPfi × List UInt8) := do
  let (hdrs, buf) ← ext
  let (tlli, buf) ← decTlli tlliInd buf
  let (pfi, buf) ← decPfi pfiInd buf
  .ok (hdrs, tlli, pfi, buf)

/-- Both decoders are this, with a record made of it. -/
theorem decUlBody_map {α : Type} (ext : Except Fault (List H × List UInt8)) (ti pi : Bool)
    (f : List H → Option GprsTlli → Option RlcMacUlPfi → List UInt8 → α) :
    (do
      let (hdrs, buf) ← ext
      let (tlli, buf) ← decTlli ti buf
      let (pfi, buf) ← decPfi pi buf
      .ok (f hdrs tlli pfi buf))
    = (decUlBody ext ti pi).map (fun r => f r.1 r.2.1 r.2.2.1 r.2.2.2) := by
  rw [decUlBody]
  cases ext with
  | error e => rfl
  | ok r =>
      obtain ⟨hdrs, buf⟩ := r
      rw [ok_bind, ok_bind]
      dsimp only
      cases decTlli ti buf with
      | error e => rfl
      | ok r =>
          obtain ⟨tlli, buf₁⟩ := r
          rw [ok_bind, ok_bind]
          dsimp only
          cases decPfi pi buf₁ <;> rfl

/-- **THE CURSOR** stays within the octets iff four of them are left for an
    announced TLLI. -/
theorem decUlBody_within_iff {Q : List H × Option GprsTlli × Option RlcMacUlPfi × List UInt8 → Prop}
    {ext : Except Fault (List H × List UInt8)} {ti pi : Bool}
    (hext : ∀ e, ext = .error e → e ≠ .overread)
    (hQ : ∀ hdrs buf tlli pfi rest, ext = .ok (hdrs, buf) →
      buf = encTlli tlli ++ (encPfi pfi ++ rest) → Q (hdrs, tlli, pfi, rest)) :
    ReadsWithin Q (decUlBody ext ti pi)
      ↔ ∀ hdrs buf, ext = .ok (hdrs, buf) → ti = true → 4 ≤ buf.length := by
  cases hread : ext with
  | error e => exact iff_of_true (hext e hread) (fun _ _ h => nomatch h)
  | ok r =>
      obtain ⟨hdrs, buf⟩ := r
      rw [decUlBody, ok_bind]
      rcases decTlli_cases ti buf with ⟨⟨tlli, buf₁⟩, htlli, hfits⟩ | ⟨htlli, hti, hshort⟩
      · dsimp only
        rw [htlli, ok_bind]
        refine iff_of_true ?_ (fun hdrs' buf' h hti => ?_)
        · cases hpfi : decPfi pi buf₁ with
          | error e => exact decPfi_error hpfi
          | ok r =>
              obtain ⟨pfi, buf₂⟩ := r
              refine hQ hdrs buf tlli pfi buf₂ hread ?_
              rw [decTlli_split htlli, decPfi_split hpfi]
        · rw [← (Prod.mk.inj (Except.ok.inj h)).2]
          exact hfits hti
      · dsimp only
        rw [htlli]
        exact iff_of_false (fun h => h rfl) (fun h => hshort (h hdrs buf rfl hti))

end Body

/-- The same behind octets that are not looked at. -/
theorem SlicesOf.behind {octets : List UInt8} {n : Nat} {tlli : Option GprsTlli}
    {pfi : Option RlcMacUlPfi} {payloads : List UInt8}
    (h : SlicesOf octets n tlli pfi payloads) (hdr : List UInt8) :
    SlicesOf (hdr ++ octets) (hdr.length + n) tlli pfi payloads := by
  obtain ⟨pre, post, rfl, rfl⟩ := h
  exact ⟨hdr ++ pre, post, (List.append_assoc _ _ _).symm, List.length_append⟩

-- ── Room for the TLLI ────────────────────────────────────────────────────────

/-- The extension octets that follow E: the next one, unless E is set, and then
    those that follow the E of it. -/
def IsExtension : Bool → List UInt8 → Prop
  | e, [] => e = true
  | e, o :: ext => e = false ∧ IsExtension (bitOf o 0) ext

/-- Four octets are left behind the extension octets for a TLLI. -/
def TlliFits (ti e : Bool) (octets : List UInt8) : Prop :=
  ti = true → ∀ ext rest, IsExtension e ext → octets = ext ++ rest → 4 ≤ rest.length

theorem isExtension_true {ext : List UInt8} : IsExtension true ext ↔ ext = [] := by
  cases ext with
  | nil => exact iff_of_true rfl rfl
  | cons o ext => exact iff_of_false (fun h => (nomatch h.1)) (List.cons_ne_nil _ _)

section Extension

variable {H B : Type} {L : Layout H B}

/-- The headers are read off the extension octets. -/
theorem readHdrs_iff (hlast : ∀ o, L.last (L.dec o) = bitOf o 0) : ∀ {octets rest : List UInt8},
    (∃ hdrs, L.readHdrs octets = some (hdrs, rest))
      ↔ ∃ ext, IsExtension false ext ∧ octets = ext ++ rest := by
  intro octets
  induction octets with
  | nil =>
      refine fun {rest} => iff_of_false (fun ⟨_, h⟩ => (nomatch h)) ?_
      rintro ⟨ext, hext, hnil⟩
      obtain ⟨rfl, -⟩ := List.append_eq_nil_iff.mp hnil.symm
      exact nomatch hext
  | cons o octets ih =>
      intro rest
      rw [Layout.readHdrs, hlast]
      cases he : bitOf o 0 with
      | true =>
          rw [if_pos rfl]
          constructor
          · rintro ⟨hdrs, h⟩
            obtain ⟨-, rfl⟩ := Prod.mk.inj (Option.some.inj h)
            exact ⟨[o], ⟨rfl, he⟩, rfl⟩
          · rintro ⟨_ | ⟨o', ext⟩, hext, heq⟩
            · exact nomatch hext
            · obtain ⟨rfl, rfl⟩ := List.cons.inj heq
              rw [IsExtension, he, isExtension_true] at hext
              rw [hext.2]
              exact ⟨_, rfl⟩
      | false =>
          rw [if_neg Bool.false_ne_true]
          constructor
          · rintro ⟨hdrs, h⟩
            obtain ⟨⟨hdrs', rest'⟩, hread, hr⟩ := Option.map_eq_some_iff.mp h
            obtain ⟨-, rfl⟩ := Prod.mk.inj hr
            obtain ⟨ext, hext, rfl⟩ := ih.mp ⟨_, hread⟩
            refine ⟨o :: ext, ⟨rfl, ?_⟩, rfl⟩
            rw [he]
            exact hext
          · rintro ⟨_ | ⟨o', ext⟩, hext, heq⟩
            · exact nomatch hext
            · obtain ⟨rfl, hoctets⟩ := List.cons.inj heq
              rw [IsExtension, he] at hext
              obtain ⟨hdrs, hread⟩ := ih.mpr ⟨ext, hext.2, hoctets⟩
              rw [hread]
              exact ⟨_, rfl⟩

/-- The headers and the octets behind them, as either decoder reads them. -/
def readExtension (L : Layout H B) (e : Bool) (octets : List UInt8) :
    Except Fault (List H × List UInt8) :=
  if e then .ok ([], octets)
  else
    match L.readHdrs octets with
    | some r => .ok r
    | none => .error .rawIncomplete

/-- Nor does decoding the extension. -/
theorem readExtension_error {e : Bool} {octets : List UInt8} {f : Fault}
    (h : readExtension L e octets = .error f) : f ≠ .overread := by
  rw [readExtension] at h
  cases e with
  | true => exact nomatch h
  | false =>
      rw [if_neg Bool.false_ne_true] at h
      cases hread : L.readHdrs octets with
      | none =>
          rw [hread] at h
          rw [← Except.error.inj h]
          exact nofun
      | some r =>
          rw [hread] at h
          exact nomatch h

theorem readExtension_ok {octets : List UInt8} {r : List H × List UInt8} :
    readExtension L false octets = .ok r ↔ L.readHdrs octets = some r := by
  rw [readExtension, if_neg Bool.false_ne_true]
  cases L.readHdrs octets with
  | none => exact ⟨fun h => (nomatch h), fun h => (nomatch h)⟩
  | some r => exact ⟨fun h => congrArg some (Except.ok.inj h),
      fun h => congrArg Except.ok (Option.some.inj h)⟩

/-- **THE EXTENSION** is read if the octets start with one. -/
theorem readExtension_iff (hlast : ∀ o, L.last (L.dec o) = bitOf o 0) {e : Bool}
    {octets rest : List UInt8} : (∃ hdrs, readExtension L e octets = .ok (hdrs, rest))
      ↔ ∃ ext, IsExtension e ext ∧ octets = ext ++ rest := by
  cases e with
  | false => exact (exists_congr fun hdrs => readExtension_ok).trans (readHdrs_iff hlast)
  | true =>
      constructor
      · rintro ⟨hdrs, h⟩
        exact ⟨[], rfl, (Prod.mk.inj (Except.ok.inj h)).2⟩
      · rintro ⟨ext, hext, rfl⟩
        rw [isExtension_true.mp hext]
        exact ⟨[], rfl⟩

/-- **THE PARTS ARE SLICES**, with the payloads cut out by the headers, or one
    payload for all that is left. -/
theorem slicesOf_segments (hseg : ∀ h payload, L.payload (L.seg h payload) = payload)
    (hhdr : ∀ h payload, L.hdr (L.seg h payload) = some h) {e : Bool} {octets buf rest : List UInt8}
    {hdrs : List H} {tlli : Option GprsTlli} {pfi : Option RlcMacUlPfi} {whole : B}
    (hwhole : L.hdr whole = none ∧ L.payload whole = rest)
    (hext : readExtension L e octets = .ok (hdrs, buf))
    (hbuf : buf = encTlli tlli ++ (encPfi pfi ++ rest)) :
    SlicesOf octets (L.headers (if e then [whole] else L.slices hdrs rest)).length tlli pfi
      ((if e then [whole] else L.slices hdrs rest).flatMap L.payload) := by
  cases e with
  | true =>
      obtain ⟨rfl, rfl⟩ := Prod.mk.inj (Except.ok.inj hext)
      rw [if_pos rfl, List.flatMap_singleton, hwhole.2, Layout.headers,
          List.filterMap_cons_none hwhole.1]
      refine ⟨[], [], ?_, rfl⟩
      rw [List.append_nil]
      exact hbuf
  | false =>
      rw [if_neg Bool.false_ne_true, Layout.headers_slices hhdr]
      obtain ⟨pre, hpre, hmap⟩ := Layout.readHdrs_split (readExtension_ok.mp hext)
      obtain ⟨post, hpost⟩ := Layout.slices_prefix hseg hdrs rest
      refine ⟨pre, post, ?_, ?_⟩
      · rw [hpost, ← hbuf]
        exact hpre
      · rw [← hmap, List.length_map]

/-- **A DATA BLOCK** behind its header, for either decoder. -/
theorem decUlBody_sliced_iff (hseg : ∀ h payload, L.payload (L.seg h payload) = payload)
    (hhdr : ∀ h payload, L.hdr (L.seg h payload) = some h)
    (hlast : ∀ o, L.last (L.dec o) = bitOf o 0)
    {Q : List H × Option GprsTlli × Option RlcMacUlPfi × List UInt8 → Prop}
    {ti pi e : Bool} {octets : List UInt8} (whole : List UInt8 → B)
    (hwhole : ∀ rest, L.hdr (whole rest) = none ∧ L.payload (whole rest) = rest)
    (hQ : ∀ hdrs tlli pfi rest,
      SlicesOf octets (L.headers (if e then [whole rest] else L.slices hdrs rest)).length tlli pfi
        ((if e then [whole rest] else L.slices hdrs rest).flatMap L.payload) →
      Q (hdrs, tlli, pfi, rest)) :
    ReadsWithin Q (decUlBody (readExtension L e octets) ti pi) ↔ TlliFits ti e octets := by
  have hfits : (∀ hdrs buf, readExtension L e octets = .ok (hdrs, buf) → ti = true →
      4 ≤ buf.length) ↔ TlliFits ti e octets := by
    constructor
    · intro h hti front rest hfront hsplit
      obtain ⟨hdrs, hread⟩ := (readExtension_iff hlast).mpr ⟨front, hfront, hsplit⟩
      exact h hdrs rest hread hti
    · intro h hdrs buf hread hti
      obtain ⟨front, hfront, hsplit⟩ := (readExtension_iff hlast).mp ⟨hdrs, hread⟩
      exact h hti front buf hfront hsplit
  refine (decUlBody_within_iff (fun _ => readExtension_error)
    (fun hdrs buf tlli pfi rest hread hbuf => ?_)).trans hfits
  exact hQ hdrs tlli pfi rest (slicesOf_segments hseg hhdr (hwhole rest) hread hbuf)

end Extension

-- ── GPRS ─────────────────────────────────────────────────────────────────────

/-- The extension octets and LLC segments of GPRS. -/
def llcLayout : Layout LlcBlockHdr LlcBlock where
  len := LlcBlockHdr.lengthInd
  last := LlcBlockHdr.e
  dec := decLlcBlockHdr
  hdr := LlcBlock.hdr
  payload := LlcBlock.payload
  seg h payload := ⟨some h, payload⟩
  seg_payload := by
    rintro ⟨bh, bp⟩ h hb
    exact congrArg (LlcBlock.mk · bp) hb.symm

/-- The loop of the decoder reads headers up to the last. -/
theorem decLlcHdrs_eq : ∀ buf, decLlcHdrs buf
    = match llcLayout.readHdrs buf with
      | some r => .ok r
      | none => .error .rawIncomplete := by
  intro buf
  induction buf with
  | nil => rfl
  | cons o buf ih =>
      rw [decLlcHdrs, Layout.readHdrs]
      by_cases he : (decLlcBlockHdr o).e = true
      · rw [if_pos he, if_pos (show llcLayout.last (llcLayout.dec o) = true from he)]
        rfl
      · rw [if_neg he, if_neg (show ¬ llcLayout.last (llcLayout.dec o) = true from he), ih]
        cases llcLayout.readHdrs buf <;> rfl

theorem slicePayloads_eq : ∀ hdrs buf, slicePayloads hdrs buf = llcLayout.slices hdrs buf := by
  intro hdrs
  induction hdrs with
  | nil => exact fun _ => rfl
  | cons h hdrs ih =>
      intro buf
      rw [slicePayloads, ih]
      rfl

/-- The TLLI, the PFI and the payloads of a block are slices of the stream,
    behind the header and the extension octets. -/
def UlSliced (stream : List UInt8) (x : RlcmacUlDataBlock) : Prop :=
  SlicesOf stream (3 + ((x.blocks.getD []).filterMap LlcBlock.hdr).length) x.tlli x.pfi
    (llcPayloads x.blocks)

/-- **GPRS**: a block whose header announces a TLLI has room for it. -/
def UlTlliFits (stream : List UInt8) : Prop :=
  ∀ o0 o1 o2 octets, stream = o0 :: o1 :: o2 :: octets →
    TlliFits (bitOf o1 0) (bitOf o2 0) octets

theorem decRlcmacUlDataBlock_eq (stream : List UInt8) : decRlcmacUlDataBlock stream
    = (decUlMacDataHeader stream).bind (fun q =>
      (decUlBody (decExtension q.1.e q.2) q.1.tlliInd q.1.pfiInd).map (fun r =>
        { cs := payloadLen2CodingScheme stream.length, macHdr := q.1, tlli := r.2.1
          pfi := r.2.2.1
          blocks := some (if q.1.e then [⟨none, r.2.2.2⟩]
            else slicePayloads r.1 r.2.2.2) })) := by
  rw [decRlcmacUlDataBlock]
  cases decUlMacDataHeader stream with
  | error e => rfl
  | ok q =>
      obtain ⟨macHdr, buf⟩ := q
      rw [ok_bind]
      exact decUlBody_map (decExtension macHdr.e buf) macHdr.tlliInd macHdr.pfiInd
        (fun hdrs tlli pfi buf => RlcmacUlDataBlock.mk (payloadLen2CodingScheme stream.length)
          macHdr tlli pfi (some (if macHdr.e then [⟨none, buf⟩] else slicePayloads hdrs buf)))

theorem ReadsWithin.map_iff {α β : Type} {Q : β → Prop} (f : α → β) (r : Except Fault α) :
    ReadsWithin Q (r.map f) ↔ ReadsWithin (fun a => Q (f a)) r := by
  cases r <;> exact Iff.rfl

/-- The decoder of GPRS reads an extension. -/
theorem decExtension_eq (e : Bool) (buf : List UInt8) :
    decExtension e buf = readExtension llcLayout e buf := by
  rw [decExtension, decLlcHdrs_eq, readExtension]
  cases llcLayout.readHdrs buf <;> rfl

/-- **GPRS**: every octet string is decoded within its octets iff there is room
    for the TLLI it announces. -/
theorem ulDecode_within_iff (stream : List UInt8) :
    ReadsWithin (UlSliced stream) (decRlcmacUlDataBlock stream) ↔ UlTlliFits stream := by
  rw [decRlcmacUlDataBlock_eq]
  match stream with
  | [] | [_] | [_, _] =>
      exact iff_of_true (show Fault.rawIncomplete ≠ .overread from nofun)
        (fun _ _ _ _ h => nomatch h)
  | o0 :: o1 :: o2 :: octets =>
      have hroom : TlliFits (bitOf o1 0) (bitOf o2 0) octets
          ↔ UlTlliFits (o0 :: o1 :: o2 :: octets) := by
        constructor
        · intro h p0 p1 p2 rest heq
          simp only [List.cons.injEq] at heq
          obtain ⟨-, rfl, rfl, rfl⟩ := heq
          exact h
        · exact fun h => h o0 o1 o2 octets rfl
      show ReadsWithin _ (Except.map _ (decUlBody (decExtension (bitOf o2 0) octets) _ _)) ↔ _
      rw [decExtension_eq]
      refine (ReadsWithin.map_iff _ _).trans ((decUlBody_sliced_iff (L := llcLayout)
        (fun _ _ => rfl) (fun _ _ => rfl) (fun _ => rfl) (LlcBlock.mk none) (fun _ => ⟨rfl, rfl⟩)
        (fun hdrs tlli pfi rest hsliced => ?_)).trans hroom)
      have hbehind := hsliced.behind [o0, o1, o2]
      rw [← slicePayloads_eq] at hbehind
      exact hbehind

-- ── EGPRS ────────────────────────────────────────────────────────────────────

/-- The TLLI, the PFI and the payloads are slices of the data block that lies in
    the stream, behind the octet with TI and E and the extension octets. -/
def EgprsUlSliced (stream : List UInt8) (x : RlcmacUlEgprsDataBlock) : Prop :=
  ∀ b : AlignedBlock (codingScheme2DataBlockLen (payloadLen2CodingScheme stream.length)),
    LiesAt stream type3Offset b →
    SlicesOf b.octets (1 + ((x.blocks.getD []).filterMap EgprsLlcBlock.hdr).length) x.tlli x.pfi
      (egprsLlcPayloads x.blocks)

/-- **EGPRS**: a data block that announces a TLLI has room for it, where the
    length is one of header type 3. -/
def EgprsUlTlliFits (stream : List UInt8) : Prop :=
  (payloadLen2CodingScheme stream.length).IsType3 →
    ∀ b : AlignedBlock (codingScheme2DataBlockLen (payloadLen2CodingScheme stream.length)),
      LiesAt stream type3Offset b → TlliFits b.ti b.e b.data

section Egprs

variable {stream : List UInt8}

/-- A block of type 3 has all of its octets. -/
theorem type3_length {len : Nat} (h : (payloadLen2CodingScheme len).IsType3) :
    4 ≤ len ∧ (type3Offset - initialSpareBits) / 8
      + codingScheme2DataBlockLen (payloadLen2CodingScheme len) + 2 ≤ len := by
  unfold payloadLen2CodingScheme at h ⊢
  split at h
  all_goals first | exact absurd h id | decide

theorem decEgprsUlMacDataHeaderType3_ok (hlen : 4 ≤ stream.length) :
    ∃ macHdr, decEgprsUlMacDataHeaderType3 stream = .ok macHdr ∧ macHdr.headerType = .type3 := by
  match stream, hlen with
  | o0 :: o1 :: o2 :: o3 :: rest, _ => exact ⟨_, rfl, rfl⟩

/-- **THE DECODER** on the data block that lies in the stream. -/
theorem decRlcmacUlEgprsDataBlock_eq
    (h : (payloadLen2CodingScheme stream.length).IsType3)
    {b : AlignedBlock (codingScheme2DataBlockLen (payloadLen2CodingScheme stream.length))}
    (hb : LiesAt stream type3Offset b) :
    ∃ macHdr, decRlcmacUlEgprsDataBlock stream
      = (decUlBody (decEgprsExtension b.e b.data) b.ti macHdr.pfiInd).map (fun r =>
        { mcs := payloadLen2CodingScheme stream.length, macHdr := macHdr, tlliInd := b.ti
          e := b.e, tlli := r.2.1, pfi := r.2.2.1
          blocks := some (if b.e then [⟨none, r.2.2.2⟩]
            else egprsLayout.slices r.1 r.2.2.2) }) := by
  obtain ⟨hlen, hreach⟩ := type3_length h
  obtain ⟨macHdr, hhdr, htype⟩ := decEgprsUlMacDataHeaderType3_ok hlen
  have hget := getEgprsDataBlock_ok b (by decide) hreach hb
  refine ⟨macHdr, ?_⟩
  simp only [decRlcmacUlEgprsDataBlock]
  rw [decEgprsUlMacDataHeader_type3 h, hhdr, ok_bind, htype]
  dsimp only [setupRlcMacPriv]
  rw [show 3 * 8 + 7 = type3Offset from rfl, hget, ok_bind, AlignedBlock.octets, decTiE_octet,
      ok_bind]
  exact decUlBody_map (decEgprsExtension b.e b.data) b.ti macHdr.pfiInd
    (fun hdrs tlli pfi buf => RlcmacUlEgprsDataBlock.mk
      (payloadLen2CodingScheme stream.length) macHdr b.ti b.e tlli pfi
      (some (if b.e then [⟨none, buf⟩] else egprsLayout.slices hdrs buf)))

/-- So does the one of EGPRS. -/
theorem decEgprsExtension_eq (e : Bool) (buf : List UInt8) :
    decEgprsExtension e buf = readExtension egprsLayout e buf := by
  rw [decEgprsExtension, readExtension]
  cases egprsLayout.readHdrs buf <;> rfl

/-- **EGPRS**: every octet string is decoded within its octets iff there is room
    for the TLLI it announces. -/
theorem egprsUlDecode_within_iff (stream : List UInt8) :
    ReadsWithin (EgprsUlSliced stream) (decRlcmacUlEgprsDataBlock stream)
      ↔ EgprsUlTlliFits stream := by
  by_cases h : (payloadLen2CodingScheme stream.length).IsType3
  · obtain ⟨b, hb⟩ := exists_liesAt
      (codingScheme2DataBlockLen (payloadLen2CodingScheme stream.length)) stream type3Offset
    have hroom : TlliFits b.ti b.e b.data ↔ EgprsUlTlliFits stream := by
      constructor
      · intro hfits _ b' hb'
        rw [← hb.unique hb']
        exact hfits
      · exact fun hfits => hfits h b hb
    obtain ⟨macHdr, hdec⟩ := decRlcmacUlEgprsDataBlock_eq h hb
    rw [hdec, decEgprsExtension_eq]
    refine (ReadsWithin.map_iff _ _).trans ((decUlBody_sliced_iff (L := egprsLayout)
      (fun _ _ => rfl) (fun _ _ => rfl) (fun _ => rfl) (EgprsLlcBlock.mk none) (fun _ => ⟨rfl, rfl⟩)
      (fun hdrs tlli pfi rest hsliced b' hb' => ?_)).trans hroom)
    rw [← hb.unique hb']
    exact hsliced.behind [tiEOctet b.ti b.e]
  · have hunbound : decRlcmacUlEgprsDataBlock stream = .error .unbound := by
      simp only [decRlcmacUlEgprsDataBlock]
      cases hmcs : payloadLen2CodingScheme stream.length <;> rw [hmcs] at h <;>
        first | rfl | exact absurd trivial h
    rw [hunbound]
    exact iff_of_true (show Fault.unbound ≠ .overread by decide) (fun h3 => absurd h3 h)

end Egprs

-- ── Both decoders ────────────────────────────────────────────────────────────

/-- **WHEN MALFORMED BLOCKS ARE SAFE**: for every octet string, each decoder
    reports an error or returns slices of it iff a TLLI that is announced has
    four octets behind the extension octets. -/
theorem ulDecode_safe_iff (stream : List UInt8) :
    (ReadsWithin (UlSliced stream) (decRlcmacUlDataBlock stream) ↔ UlTlliFits stream)
      ∧ (ReadsWithin (EgprsUlSliced stream) (decRlcmacUlEgprsDataBlock stream)
        ↔ EgprsUlTlliFits stream) :=
  ⟨ulDecode_within_iff stream, egprsUlDecode_within_iff stream⟩

/-- A GPRS block that is a header with TI, and an EGPRS block of MCS-1 whose 21
    extension octets leave one octet for a TLLI. -/
theorem ulDecode_unsafe :
    ¬ ReadsWithin (UlSliced [0x00, 0x01, 0x01]) (decRlcmacUlDataBlock [0x00, 0x01, 0x01])
      ∧ ∃ stream, ¬ ReadsWithin (EgprsUlSliced stream) (decRlcmacUlEgprsDataBlock stream) := by
  refine ⟨fun h => h rfl, ⟨[0, 0, 0, 0, 1] ++ List.replicate 19 0 ++ [2, 0, 0], ?_⟩⟩
  have hover : decRlcmacUlEgprsDataBlock ([0, 0, 0, 0, 1] ++ List.replicate 19 0 ++ [2, 0, 0])
      = .error .overread := by decide +kernel
  rw [hover]
  exact fun h => h rfl

end OsmoRlcmac
