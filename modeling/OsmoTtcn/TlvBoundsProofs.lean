import OsmoTtcn.BssgpLenProofs

/-! # TLVs that run past the end of a message

    Both walks of `BSSGP_Helper.cc` check that tag and length field are there
    with what is left at `ofs`, and that the value is there with the length of
    the whole TLV part.  The first TLV starts at 0, so for it both are the same.

    A later TLV whose value runs past the end is seen only if it is longer than
    the whole part, and is copied from behind the message otherwise:
    `tlvBounds_iff`. -/

namespace OsmoBssgpLen

open OsmoTitan WireOctet WireScan

-- ── Framing ──────────────────────────────────────────────────────────────────

/-- What a walk reads: TLVs with variable-length "length" fields, or with 16-bit
    ones. -/
inductive Form where
  | tvLV | tl16V
  deriving DecidableEq, Repr

/-- A tag and a length field. -/
structure TlHeader where
  tag : UInt8
  tlLength : Nat
  dataLen : Nat

/-- The tag and the length field that some octets start with, and the octets
    behind them; nothing where they are not all there. -/
def Form.header : Form → List UInt8 → Option (TlHeader × List UInt8)
  | .tvLV, tag :: l0 :: body =>
      if 0x80 ≤ l0.toNat then some (⟨tag, 2, l0.toNat % 0x80⟩, body)
      else
        match body with
        | [] => none
        | l1 :: body' => some (⟨tag, 3, ofBe16 l0 l1⟩, body')
  | .tl16V, tag :: l0 :: l1 :: body => some (⟨tag, 3, ofBe16 l0 l1⟩, body)
  | _, _ => none

/-- Some octets start with a TLV that is all there. -/
def Form.Next (f : Form) (rest : List UInt8) (t : Tlv) (rest' : List UInt8) : Prop :=
  ∃ h, f.header rest = some (h, t.value ++ rest') ∧ h.tag = t.tag ∧ h.dataLen = t.value.length

/-- The tag, the length field or the value of the TLV that comes next would
    extend past the end. -/
def Form.Overruns (f : Form) (rest : List UInt8) : Prop :=
  rest ≠ [] ∧ ∀ h body, f.header rest = some (h, body) → body.length < h.dataLen

/-- Behind TLVs that are all there, one is not. -/
def Form.OverrunsIn (f : Form) (part : List UInt8) : Prop :=
  ∃ ts rest, Walk f.Next part ts rest ∧ f.Overruns rest

theorem Form.header_tvLV (tag l0 : UInt8) (body : List UInt8) :
    Form.tvLV.header (tag :: l0 :: body)
      = if 0x80 ≤ l0.toNat then some (⟨tag, 2, l0.toNat % 0x80⟩, body)
        else
          match body with
          | [] => none
          | l1 :: body' => some (⟨tag, 3, ofBe16 l0 l1⟩, body') := rfl

theorem Form.header_nil (f : Form) : f.header [] = none := by
  cases f <;> rfl

theorem Form.header_length {f : Form} {rest body : List UInt8} {h : TlHeader}
    (hhdr : f.header rest = some (h, body)) :
    rest.length = h.tlLength + body.length ∧ 2 ≤ h.tlLength ∧ h.dataLen < 0x10000 := by
  cases f with
  | tvLV =>
      match rest, hhdr with
      | tag :: l0 :: body', hhdr =>
          rw [header_tvLV] at hhdr
          by_cases hl0 : 0x80 ≤ l0.toNat
          · rw [if_pos hl0] at hhdr
            obtain ⟨rfl, rfl⟩ := Prod.mk.inj (Option.some.inj hhdr)
            simp only [List.length_cons]
            omega
          · rw [if_neg hl0] at hhdr
            match body', hhdr with
            | l1 :: body'', hhdr =>
                obtain ⟨rfl, rfl⟩ := Prod.mk.inj (Option.some.inj hhdr)
                have h1 := l1.toNat_lt
                simp only [List.length_cons, ofBe16]
                omega
  | tl16V =>
      match rest, hhdr with
      | tag :: l0 :: l1 :: body', hhdr =>
          obtain ⟨rfl, rfl⟩ := Prod.mk.inj (Option.some.inj hhdr)
          have h0 := l0.toNat_lt
          have h1 := l1.toNat_lt
          simp only [List.length_cons, ofBe16]
          omega

theorem Form.Next.length_lt {f : Form} {rest rest' : List UInt8} {t : Tlv}
    (h : f.Next rest t rest') : rest'.length < rest.length := by
  obtain ⟨h, hhdr, -, -⟩ := h
  obtain ⟨hlen, h2, -⟩ := Form.header_length hhdr
  rw [hlen, List.length_append]
  omega

/-- The octets determine their first TLV. -/
theorem Form.Next.unique {f : Form} {rest rest' rest'' : List UInt8} {t t' : Tlv}
    (h : f.Next rest t rest') (h' : f.Next rest t' rest'') : rest' = rest'' := by
  obtain ⟨h, hhdr, -, hlen⟩ := h
  obtain ⟨h', hhdr', -, hlen'⟩ := h'
  obtain ⟨rfl, hbody⟩ := Prod.mk.inj (Option.some.inj (hhdr.symm.trans hhdr'))
  exact (List.append_inj hbody (hlen.symm.trans hlen')).2

theorem Form.stuck_nil (f : Form) : Stuck f.Next [] := by
  rintro t rest' ⟨h, hhdr, -, -⟩
  rw [f.header_nil] at hhdr
  exact nomatch hhdr

theorem Form.Overruns.stuck {f : Form} {rest : List UInt8} (h : f.Overruns rest) :
    Stuck f.Next rest := by
  rintro t rest' ⟨hd, hhdr, -, hlen⟩
  have hlt := h.2 hd _ hhdr
  rw [hlen, List.length_append] at hlt
  omega

/-- **ONE OR THE OTHER**: TLVs that fill the octets, or one that runs past the
    end. -/
theorem Form.not_overrunsIn {f : Form} {part : List UInt8} {ts : List Tlv}
    (w : Walk f.Next part ts []) : ¬ f.OverrunsIn part := by
  rintro ⟨ts', rest, w', hover⟩
  have hend : [] = rest := @Walk.unique _ _ f.Next Next.unique _ _ _ _ _ w w' f.stuck_nil
    hover.stuck
  exact hover.1 hend.symm

-- ── The walks ────────────────────────────────────────────────────────────────

/-- One round of the loop that reads this form. -/
def Form.step : Form → Nat → List UInt8 → Except Fault (List UInt8 × List UInt8)
  | .tvLV => expandTlvStep
  | .tl16V => compactTlvStep

/-- The loop that reads this form. -/
def Form.convertPart : Form → List UInt8 → Except Fault (List UInt8)
  | .tvLV => expandTlvPart
  | .tl16V => compactTlvPart

/-- A TLV in the form it is converted to. -/
def Form.target : Form → Tlv → List UInt8
  | .tvLV => tl16v
  | .tl16V => tvlv

/-- The tag and length field that are written for one that is read. -/
def Form.hdrBuf : Form → TlHeader → List UInt8
  | .tvLV, h => h.tag :: be16 h.dataLen
  | .tl16V, h => if h.dataLen ≤ 0x7f then [h.tag, UInt8.ofNat (0x80 + h.dataLen)]
      else h.tag :: be16 h.dataLen

/-- The check of the code: the TLV is longer than the whole TLV part. -/
def Form.Seen (f : Form) (inLen : Nat) (rest : List UInt8) : Prop :=
  ∀ h body, f.header rest = some (h, body) → inLen < h.tlLength + h.dataLen

theorem Form.convertPart_eq (f : Form) (part : List UInt8) :
    f.convertPart part = scan (f.step part.length) part := by
  cases f <;> rfl

theorem Form.target_eq (f : Form) {h : TlHeader} {t : Tlv} (htag : h.tag = t.tag)
    (hlen : h.dataLen = t.value.length) : f.target t = f.hdrBuf h ++ t.value := by
  cases f with
  | tvLV =>
      rw [target, tl16v, hdrBuf, htag, hlen]
      rfl
  | tl16V =>
      rw [target, tvlv, hdrBuf, htag, hlen]
      split <;> rfl

/-- Without a tag and a length field there is an error. -/
theorem Form.step_none {f : Form} {rest : List UInt8} (inLen : Nat)
    (hhdr : f.header rest = none) : ∃ msg, f.step inLen rest = .error (.ttcnError msg) := by
  cases f with
  | tvLV =>
      match rest, hhdr with
      | [], _ => exact ⟨_, rfl⟩
      | [_], _ => exact ⟨_, rfl⟩
      | tag :: l0 :: body, hhdr =>
          rw [header_tvLV] at hhdr
          rw [step, expandTlvStep.eq_def]
          dsimp only
          by_cases hl0 : 0x80 ≤ l0.toNat
          · rw [if_pos hl0] at hhdr
            exact nomatch hhdr
          · rw [if_neg hl0] at hhdr ⊢
            match body, hhdr with
            | [], _ => exact ⟨_, rfl⟩
  | tl16V =>
      match rest, hhdr with
      | [], _ => exact ⟨_, rfl⟩
      | [_], _ => exact ⟨_, rfl⟩
      | [_, _], _ => exact ⟨_, rfl⟩

/-- With them, the value is checked. -/
theorem Form.step_some {f : Form} {rest body : List UInt8} {h : TlHeader} (inLen : Nat)
    (hhdr : f.header rest = some (h, body)) :
    f.step inLen rest = tlvValue inLen h.tlLength h.dataLen (f.hdrBuf h) body := by
  cases f with
  | tvLV =>
      match rest, hhdr with
      | tag :: l0 :: body', hhdr =>
          rw [header_tvLV] at hhdr
          rw [step, expandTlvStep.eq_def]
          dsimp only
          by_cases hl0 : 0x80 ≤ l0.toNat
          · rw [if_pos hl0] at hhdr ⊢
            obtain ⟨rfl, rfl⟩ := Prod.mk.inj (Option.some.inj hhdr)
            rfl
          · rw [if_neg hl0] at hhdr ⊢
            match body', hhdr with
            | l1 :: body'', hhdr =>
                obtain ⟨rfl, rfl⟩ := Prod.mk.inj (Option.some.inj hhdr)
                rfl
  | tl16V =>
      match rest, hhdr with
      | tag :: l0 :: l1 :: body', hhdr =>
          obtain ⟨rfl, rfl⟩ := Prod.mk.inj (Option.some.inj hhdr)
          rw [step, compactTlvStep, hdrBuf]
          split <;> rfl

/-- Where a walk fails: a TLV runs past the end, and it is reported iff the
    check sees it. -/
def Form.Fails (f : Form) (inLen : Nat) (rest : List UInt8) (e : Fault) : Prop :=
  f.Overruns rest ∧ (e ≠ .overread ↔ f.Seen inLen rest)

/-- **ONE ROUND** takes a TLV, or fails at one that runs past the end. -/
theorem Form.step_next (f : Form) {inLen : Nat} {rest : List UInt8} (hne : rest ≠ [])
    (hle : rest.length ≤ inLen) :
    (∃ t rest', f.Next rest t rest' ∧ f.step inLen rest = .ok (f.target t, rest'))
      ∨ ∃ e, f.step inLen rest = .error e ∧ f.Fails inLen rest e := by
  cases hhdr : f.header rest with
  | none =>
      obtain ⟨msg, hstep⟩ := Form.step_none inLen hhdr
      refine Or.inr ⟨_, hstep, ⟨hne, fun h body h' => ?_⟩,
        iff_of_true Fault.noConfusion fun h body h' => ?_⟩
      · rw [hhdr] at h'
        cases h'
      · rw [hhdr] at h'
        cases h'
  | some r =>
      obtain ⟨h, body⟩ := r
      obtain ⟨hlen, -, hfits⟩ := Form.header_length hhdr
      have hunique : ∀ {p : TlHeader → List UInt8 → Prop}, p h body →
          ∀ h' body', f.header rest = some (h', body') → p h' body' := by
        intro p hp h' body' hhdr'
        obtain ⟨rfl, rfl⟩ := Prod.mk.inj (Option.some.inj (hhdr.symm.trans hhdr'))
        exact hp
      rw [Form.step_some inLen hhdr, tlvValue]
      by_cases hseen : inLen < h.tlLength + h.dataLen
      · rw [if_pos hseen]
        refine Or.inr ⟨_, rfl, ⟨hne, hunique ?_⟩, iff_of_true Fault.noConfusion (hunique hseen)⟩
        show body.length < h.dataLen
        omega
      · rw [if_neg hseen]
        by_cases hover : body.length < h.dataLen
        · rw [if_pos hover]
          exact Or.inr ⟨_, rfl, ⟨hne, hunique hover⟩,
            iff_of_false (fun hne => hne rfl) (fun hall => hseen (hall h body hhdr))⟩
        · rw [if_neg hover]
          have hvalue : h.dataLen = (body.take h.dataLen).length := by
            rw [List.length_take]
            omega
          refine Or.inl ⟨⟨h.tag, body.take h.dataLen, hvalue ▸ hfits⟩, body.drop h.dataLen,
            ⟨h, ?_, rfl, hvalue⟩, ?_⟩
          · rw [List.take_append_drop]
            exact hhdr
          · rw [f.target_eq rfl hvalue]

/-- The result of a walk: an error where a TLV runs past the end, and all TLVs
    converted where none does. -/
def Form.WalksRight (f : Form) (part : List UInt8) : Except Fault (List UInt8) → Prop
  | .error e => e ≠ .overread ∧ f.OverrunsIn part
  | .ok out => ¬ f.OverrunsIn part ∧ ∃ ts, Walk f.Next part ts [] ∧ out = ts.flatMap f.target

/-- The TLV that runs past the end, if there is one, is longer than all of the
    TLV part, or lacks its tag or its length field. -/
def Form.Sees (f : Form) (part : List UInt8) : Prop :=
  ∀ ts rest, Walk f.Next part ts rest → f.Overruns rest → f.Seen part.length rest

/-- **ONE WALK** is right iff its check sees the TLV that runs past the end. -/
theorem Form.walksRight_iff (f : Form) (part : List UInt8) :
    f.WalksRight part (f.convertPart part) ↔ f.Sees part := by
  rw [f.convertPart_eq]
  rcases scan_walk Next.length_lt
      (fun rest hne hle => f.step_next hne hle) (Nat.le_refl part.length) with
    ⟨ts, w, hscan⟩ | ⟨ts, rest, e, w, -, ⟨hover, hseen⟩, hscan⟩
  · rw [hscan]
    exact iff_of_true ⟨f.not_overrunsIn w, ts, w, rfl⟩
      (fun ts' rest w' hover => absurd ⟨ts', rest, w', hover⟩ (f.not_overrunsIn w))
  · rw [hscan]
    constructor
    · rintro ⟨hne, -⟩ ts' rest' w' hover'
      have hend : rest = rest' := @Walk.unique _ _ f.Next Next.unique _ _ _ _ _ w w' hover.stuck
        hover'.stuck
      rw [← hend]
      exact hseen.mp hne
    · exact fun hsees => ⟨hseen.mpr (hsees ts rest w hover), ts, rest, w, hover⟩

-- ── Messages ─────────────────────────────────────────────────────────────────

/-- The entry point of a protocol that reads this form. -/
def Proto.convertLen (proto : Proto) : Form → List UInt8 → Except Fault (List UInt8)
  | .tvLV => proto.expandLen
  | .tl16V => proto.compactLen

/-- A message ends within its static header, or a TLV behind it would extend past
    the end. -/
def IllFramed (proto : Proto) (f : Form) : List UInt8 → Prop
  | [] => True
  | pduType :: rest => ∃ n, proto.staticHdrLen pduType = some n
      ∧ ((pduType :: rest).length < n ∨ f.OverrunsIn ((pduType :: rest).drop n))

/-- All of a message has been converted, or it is one without TLVs. -/
def Consumed (proto : Proto) (f : Form) (out : List UInt8) : List UInt8 → Prop
  | [] => False
  | pduType :: rest =>
      match proto.staticHdrLen pduType with
      | none => out = pduType :: rest
      | some n => ∃ ts, Walk f.Next ((pduType :: rest).drop n) ts []
          ∧ out = (pduType :: rest).take n ++ ts.flatMap f.target

/-- An error is raised for what is framed badly, and for nothing else; all of
    any other message is consumed. -/
def ConvertsRight (proto : Proto) (f : Form) (msg : List UInt8) :
    Except Fault (List UInt8) → Prop
  | .error e => e ≠ .overread ∧ IllFramed proto f msg
  | .ok out => ¬ IllFramed proto f msg ∧ Consumed proto f out msg

/-- A message is not empty, and the check sees what runs past its end. -/
def CheckSees (proto : Proto) (f : Form) : List UInt8 → Prop
  | [] => False
  | pduType :: rest => ∀ n, proto.staticHdrLen pduType = some n →
      f.Sees ((pduType :: rest).drop n)

theorem Proto.convertLen_eq (proto : Proto) (f : Form) : ∃ name,
    proto.convertLen f = OsmoBssgpLen.convertLen name proto.staticHdrLen f.convertPart := by
  cases proto <;> cases f <;> exact ⟨_, rfl⟩

/-- Octets that end within a static header hold no TLV. -/
theorem Form.sees_nil (f : Form) : f.Sees [] := by
  intro ts rest w hover
  have hend : [] = rest := @Walk.unique _ _ f.Next Next.unique _ _ _ _ _ (.here []) w f.stuck_nil
    hover.stuck
  exact absurd hend.symm hover.1

/-- **WHEN THE BOUNDS HOLD**: for every message of either protocol and either
    direction, an error is raised exactly for a TLV that runs past the end and
    everything else is consumed iff the message is not empty and the TLV that
    runs past its end, if any, is longer than all of the TLV part. -/
theorem tlvBounds_iff (proto : Proto) (f : Form) (msg : List UInt8) :
    ConvertsRight proto f msg (proto.convertLen f msg) ↔ CheckSees proto f msg := by
  obtain ⟨name, hconvert⟩ := proto.convertLen_eq f
  rw [hconvert]
  cases msg with
  | nil => exact iff_of_false (fun h => h.1 rfl) id
  | cons pduType rest =>
      rw [OsmoBssgpLen.convertLen, CheckSees]
      cases hshl : proto.staticHdrLen pduType with
      | none =>
          refine iff_of_true ⟨?_, ?_⟩ (fun m h => absurd h (Option.some_ne_none m).symm)
          · rintro ⟨n, hn, -⟩
            rw [hshl] at hn
            cases hn
          · rw [Consumed, hshl]
      | some n =>
          have hsees : (∀ m, some n = some m → f.Sees ((pduType :: rest).drop m))
              ↔ f.Sees ((pduType :: rest).drop n) :=
            ⟨fun h => h n rfl, fun h m hm => Option.some.inj hm ▸ h⟩
          rw [hsees]
          dsimp only
          by_cases hshort : (pduType :: rest).length < n
          · rw [if_pos hshort, List.drop_eq_nil_of_le (Nat.le_of_lt hshort)]
            exact iff_of_true ⟨Fault.noConfusion, n, hshl, Or.inl hshort⟩ f.sees_nil
          · have hill : IllFramed proto f (pduType :: rest)
                ↔ f.OverrunsIn ((pduType :: rest).drop n) := by
              constructor
              · rintro ⟨m, hm, hover⟩
                obtain rfl := Option.some.inj (hshl.symm.trans hm)
                exact hover.resolve_left hshort
              · exact fun hover => ⟨n, hshl, Or.inr hover⟩
            rw [if_neg hshort, ← f.walksRight_iff]
            cases f.convertPart ((pduType :: rest).drop n) with
            | error e => exact and_congr_right' hill
            | ok out =>
                refine and_congr (not_congr hill) ?_
                rw [Consumed, hshl]
                constructor
                · rintro ⟨ts, w, hout⟩
                  exact ⟨ts, w, List.append_cancel_left hout⟩
                · rintro ⟨ts, w, rfl⟩
                  exact ⟨ts, w, rfl⟩

/-- A BVC-RESET whose second TLV, in either form, wants two octets more than
    there are, behind a first TLV of three octets, and the empty message. -/
theorem tlvBounds_overread :
    ¬ ConvertsRight .bssgp .tvLV [0x22, 0x04, 0x83, 0, 0, 0, 0x04, 0x82]
        (fBssgpExpandLen [0x22, 0x04, 0x83, 0, 0, 0, 0x04, 0x82])
      ∧ ¬ ConvertsRight .bssgp .tl16V [0x22, 0x04, 0, 3, 0, 0, 0, 0x04, 0, 2]
        (fBssgpCompactLen [0x22, 0x04, 0, 3, 0, 0, 0, 0x04, 0, 2])
      ∧ ¬ ConvertsRight .ns .tvLV [] (fNsExpandLen []) := by
  refine ⟨fun h => ?_, fun h => ?_, fun h => h.1 rfl⟩
  · have hfirst : expandTlvStep 7 [0x04, 0x83, 0, 0, 0, 0x04, 0x82]
        = .ok ([0x04, 0, 3, 0, 0, 0], [0x04, 0x82]) := rfl
    have hsecond : expandTlvStep 7 [0x04, 0x82] = .error .overread := rfl
    have hover : fBssgpExpandLen [0x22, 0x04, 0x83, 0, 0, 0, 0x04, 0x82] = .error .overread := by
      show (scan (expandTlvStep 7) [0x04, 0x83, 0, 0, 0, 0x04, 0x82]).map _ = _
      rw [scan_step hfirst (by decide), scan_error (List.cons_ne_nil _ _) hsecond]
      rfl
    rw [hover] at h
    exact h.1 rfl
  · have hfirst : compactTlvStep 9 [0x04, 0, 3, 0, 0, 0, 0x04, 0, 2]
        = .ok ([0x04, 0x83, 0, 0, 0], [0x04, 0, 2]) := by decide +kernel
    have hsecond : compactTlvStep 9 [0x04, 0, 2] = .error .overread := by decide +kernel
    have hover : fBssgpCompactLen [0x22, 0x04, 0, 3, 0, 0, 0, 0x04, 0, 2]
        = .error .overread := by
      show (scan (compactTlvStep 9) [0x04, 0, 3, 0, 0, 0, 0x04, 0, 2]).map _ = _
      rw [scan_step hfirst (by decide), scan_error (List.cons_ne_nil _ _) hsecond]
      rfl
    rw [hover] at h
    exact h.1 rfl

end OsmoBssgpLen
