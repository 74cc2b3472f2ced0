import OsmoTtcn.LiSegmentsProofs
import OsmoTtcn.RlcmacTypesProofs

/-! # Segmentation of LLC PDUs in an uplink TBF

    `f_ul_tbf_pull_multi` fills one radio block after the other from a list of
    encoded LLC PDUs.  It keeps the number of the current PDU and an index in
    it, and rewrites M and E of the previous segment when it adds the next.

    `segment` is the same segmentation by recursion on the octets that are not
    yet pulled, with M and E read off the segments that follow
    (`pullLoop_spec`).  What the claim of a lossless segmentation needs is
    proved about `segment` and carried over to every sequence of calls:
    `ulTbf_lossless`. -/

namespace OsmoUlTbf

open OsmoTitan OsmoRlcmac Reassembly

-- ── The code ─────────────────────────────────────────────────────────────────

/-- The PDUs of a TBF, and how far they were sent. -/
structure UlTbfState where
  /-- list of encoded LLC PDUs -/
  llcPdusEnc : List (List UInt8)
  /-- total length of all encoded LLC PDUs -/
  llcPduTotlen : Int
  /-- index of current/next PDU in llc_pdus_enc -/
  curPdu : Nat
  /-- byte offset into current/next PDU; next byte to transmit -/
  curIndex : Nat
  /-- total number of bytes remaining in TBF -/
  totalBytesRemain : Int
  deriving DecidableEq, Repr

section Init

variable {PduLlc : Type} (encPduLlc : PduLlc → List UInt8)

/-- One round of the loop over the abstract PDUs. -/
def initRound (us : UlTbfState) (pdu : PduLlc) : UlTbfState :=
  { us with
    llcPdusEnc := us.llcPdusEnc ++ [encPduLlc pdu]
    llcPduTotlen := us.llcPduTotlen + (encPduLlc pdu).length }

/-- `llcPdus` is optional; without it the list of encoded PDUs is given. -/
def fUlTbfStateInit (llcPdus : Option (List PduLlc))
    (llcPdusEnc : List (List UInt8)) (totlen : Int) : UlTbfState :=
  match llcPdus with
  | none => ⟨llcPdusEnc, totlen, 0, 0, 0⟩
  | some pdus =>
      let us := pdus.foldl (initRound encPduLlc) ⟨[], 0, 0, 0, 0⟩
      { us with totalBytesRemain := us.llcPduTotlen }

end Init

/-- copy 'len' number of bytes from current pending LLC PDU -/
def fCopyFromLlc (us : UlTbfState) (len : Nat) :
    Except Fault (List UInt8 × UlTbfState) :=
  match us.llcPdusEnc[us.curPdu]? with
  | none => .error .badIndex
  | some pdu =>
      (substr pdu us.curIndex len).map (fun ret =>
        -- if we completed this PDU, move on to the next, resetting the index
        if pdu.length ≤ us.curIndex + len then
          (ret, { us with
            curPdu := us.curPdu + 1
            curIndex := 0
            totalBytesRemain := us.totalBytesRemain - len })
        else
          (ret, { us with
            curIndex := us.curIndex + len
            totalBytesRemain := us.totalBytesRemain - len }))

/-- A segment with the header given and `len` octets. -/
def pullSegment (hdr : Option LlcBlockHdr) (prev : LlcBlockHdr)
    (us : UlTbfState) (len : Nat) :
    Except Fault (Option LlcBlock × LlcBlockHdr × UlTbfState) :=
  (fCopyFromLlc us len).map (fun r => (some ⟨hdr, r.1⟩, prev, r.2))

/-- generate one LlcBlock (maximum size 'max_len') -/
def fUlTbfPullOne (prevHdr : LlcBlockHdr) (us : UlTbfState) (maxLen : Nat)
    (isFinal : Bool) :
    Except Fault (Option LlcBlock × LlcBlockHdr × UlTbfState) :=
  match us.llcPdusEnc[us.curPdu]? with
  -- if we've already pulled all data from all LLC PDUs: nothing to do
  | none => .ok (none, prevHdr, us)
  | some pdu =>
      let curLlcRemainLen := pdu.length - us.curIndex
      let prev :=
        -- start of a new LLC PDU
        if us.curIndex = 0 then { prevHdr with more := true } else prevHdr
      if maxLen < curLlcRemainLen then pullSegment none prev us maxLen
      else if curLlcRemainLen = maxLen ∧ isFinal = true then
        pullSegment none { prev with e := true } us maxLen
      else if curLlcRemainLen = maxLen then
        -- LLC remainder would fit exactly -> "singular case" with L=0
        pullSegment (some ⟨0, false, true⟩) { prev with e := false } us
          (maxLen - 1)
      else
        pullSegment (some ⟨curLlcRemainLen, false, true⟩)
          { prev with e := false } us curLlcRemainLen

/-- return encoded size of one given LlcBlock -/
def fLlcBlockEncLen (blk : LlcBlock) : Nat :=
  if blk.hdr.isSome then 1 + blk.payload.length else blk.payload.length

/-- return encoded size of given record of LlcBlock -/
def fLlcBlocksEncLen (blks : List LlcBlock) : Nat :=
  (blks.map fLlcBlockEncLen).sum

/-- The fields of `dummy_hdr` are unbound and only written. -/
def dummyHdr : LlcBlockHdr := ⟨0, false, false⟩

/-- The next segment; the header of the last one is passed `inout`. -/
def pullNext (ret : List LlcBlock) (us : UlTbfState) (spaceLeft : Nat)
    (isFinal : Bool) :
    Except Fault (Option LlcBlock × List LlcBlock × UlTbfState) :=
  match ret.getLast? with
  | none =>
      (fUlTbfPullOne dummyHdr us spaceLeft isFinal).map
        (fun r => (r.1, ret, r.2.2))
  | some last =>
      match last.hdr with
      | none => .error .unbound
      | some h =>
          (fUlTbfPullOne h us spaceLeft isFinal).map (fun r =>
            (r.1, ret.dropLast ++ [{ last with hdr := some r.2.1 }], r.2.2))

/-- loop as long as we have pending LLC data and space left in the current
    block... -/
def pullLoop (maxLen : Nat) (isFinal : Bool) :
    Nat → List LlcBlock → UlTbfState →
    Except Fault (Bool × List LlcBlock × UlTbfState)
  | fuel, ret, us =>
      if maxLen ≤ fLlcBlocksEncLen ret then .ok (true, ret, us)
      else
        match fuel with
        | 0 => .error .outOfFuel
        | fuel + 1 =>
            match pullNext ret us (maxLen - fLlcBlocksEncLen ret) isFinal with
            | .error f => .error f
            -- insufficient LLC Data
            | .ok (none, ret', us') => .ok (!ret'.isEmpty, ret', us')
            | .ok (some lb, ret', us') =>
                pullLoop maxLen isFinal fuel (ret' ++ [lb]) us'

/-- Every segment takes an octet at least, so `maxLen` rounds suffice. -/
def fUlTbfPullMulti (us : UlTbfState) (maxLen : Nat) (isFinal : Bool) :
    Except Fault (Bool × List LlcBlock × UlTbfState) :=
  pullLoop maxLen isFinal maxLen [] us

-- ── Segmentation by recursion ────────────────────────────────────────────────

/-- A header with the length given: M=1 iff a segment follows, E=0 iff one
    with a header follows. -/
def linkHdr (lengthInd : Nat) (next : List LlcBlock) : LlcBlockHdr where
  lengthInd := lengthInd
  more := !next.isEmpty
  e := !next.head?.any (fun b => b.hdr.isSome)

/-- The segments that fit `m` octets, and what they leave. -/
def segment : List (List UInt8) → Nat → List LlcBlock × List (List UInt8)
  | [], _ => ([], [])
  | p :: ps, m =>
      if m = 0 then ([], p :: ps)
      else if m < p.length then ([⟨none, p.take m⟩], p.drop m :: ps)
      else if p.length = m then
        ([⟨some ⟨0, false, true⟩, p.take (m - 1)⟩], p.drop (m - 1) :: ps)
      else
        let next := segment ps (m - 1 - p.length)
        (⟨some (linkHdr p.length next.1), p⟩ :: next.1, next.2)

/-- The number of octets in a list of PDUs. -/
def octets (ps : List (List UInt8)) : Nat := (ps.map List.length).sum

/-- The payload octets of a list of segments. -/
def payloadOctets (bs : List LlcBlock) : Nat :=
  (bs.map (fun b => b.payload.length)).sum

/-- A segment with LI > 0 ends its LLC PDU. -/
def endsPdu (b : LlcBlock) : Bool := b.hdr.any (fun h => 0 < h.lengthInd)

/-- The form of a list of segments: only the last one has no header or LI = 0,
    LI is the payload length otherwise, M = 1 iff a segment follows, and E = 0
    iff a segment with a header follows. -/
def WellFormed : List LlcBlock → Prop
  | [] => True
  | b :: bs => (match b.hdr with
      | none => bs = []
      | some h => (h.lengthInd = 0 ∧ bs = []
            ∨ 0 < h.lengthInd ∧ h.lengthInd = b.payload.length)
          ∧ h.more = (!bs.isEmpty)
          ∧ h.e = !bs.head?.any (fun c => c.hdr.isSome))
      ∧ WellFormed bs

/-- The length of two lists of blocks. -/
theorem fLlcBlocksEncLen_append (xs ys : List LlcBlock) :
    fLlcBlocksEncLen (xs ++ ys)
      = fLlcBlocksEncLen xs + fLlcBlocksEncLen ys := by
  rw [fLlcBlocksEncLen, List.map_append, List.sum_append]
  rfl

theorem octets_cons (p : List UInt8) (ps : List (List UInt8)) :
    octets (p :: ps) = p.length + octets ps := rfl

theorem fLlcBlocksEncLen_cons (b : LlcBlock) (bs : List LlcBlock) :
    fLlcBlocksEncLen (b :: bs) = fLlcBlockEncLen b + fLlcBlocksEncLen bs := rfl

theorem payloadOctets_cons (b : LlcBlock) (bs : List LlcBlock) :
    payloadOctets (b :: bs) = b.payload.length + payloadOctets bs := rfl

/-- The four cases of a segmentation, by the room for the first PDU. -/
theorem segment_zero (ps : List (List UInt8)) : segment ps 0 = ([], ps) := by
  cases ps with
  | nil => rfl
  | cons p ps => exact if_pos rfl

/-- A PDU that is too long is cut. -/
theorem segment_chunk {p : List UInt8} (ps : List (List UInt8)) {m : Nat}
    (h0 : 0 < m) (h : m < p.length) :
    segment (p :: ps) m = ([⟨none, p.take m⟩], p.drop m :: ps) := by
  rw [segment, if_neg (Nat.ne_of_gt h0), if_pos h]

/-- A PDU that fills the room exactly. -/
theorem segment_singular {p : List UInt8} (ps : List (List UInt8)) {m : Nat}
    (h0 : 0 < m) (h : p.length = m) :
    segment (p :: ps) m
      = ([⟨some ⟨0, false, true⟩, p.take (m - 1)⟩], p.drop (m - 1) :: ps) := by
  rw [segment, if_neg (Nat.ne_of_gt h0), if_neg (by omega), if_pos h]

/-- A PDU with room behind it. -/
theorem segment_normal {p : List UInt8} (ps : List (List UInt8)) {m : Nat}
    (h : p.length < m) :
    segment (p :: ps) m
      = (⟨some (linkHdr p.length (segment ps (m - 1 - p.length)).1), p⟩
          :: (segment ps (m - 1 - p.length)).1,
        (segment ps (m - 1 - p.length)).2) := by
  rw [segment, if_neg (by omega), if_neg (by omega), if_neg (by omega)]

-- ── What a segmentation keeps ────────────────────────────────────────────────

/-- **BUDGET.** -/
theorem segment_fits (ps : List (List UInt8)) (m : Nat) :
    fLlcBlocksEncLen (segment ps m).1 ≤ m := by
  induction ps, m using segment.induct with
  | case1 m => exact Nat.zero_le _
  | case2 p ps => rw [segment_zero]; exact Nat.zero_le _
  | case3 p ps m h0 h =>
      rw [segment_chunk ps (Nat.pos_of_ne_zero h0) h]
      show (p.take m).length + 0 ≤ m
      rw [List.length_take]
      omega
  | case4 p ps h0 h =>
      rw [segment_singular ps (Nat.pos_of_ne_zero h0) rfl]
      show 1 + (p.take (p.length - 1)).length + 0 ≤ p.length
      rw [List.length_take]
      omega
  | case5 p ps m h0 h hne ih =>
      rw [segment_normal ps (by omega), fLlcBlocksEncLen_cons]
      show 1 + p.length + _ ≤ m
      omega

/-- No octet is lost or sent twice. -/
theorem segment_octets (ps : List (List UInt8)) (m : Nat) :
    payloadOctets (segment ps m).1 + octets (segment ps m).2 = octets ps := by
  induction ps, m using segment.induct with
  | case1 m => rfl
  | case2 p ps => rw [segment_zero]; exact Nat.zero_add _
  | case3 p ps m h0 h =>
      rw [segment_chunk ps (Nat.pos_of_ne_zero h0) h]
      show (p.take m).length + 0 + octets (p.drop m :: ps) = _
      rw [octets_cons, octets_cons, List.length_take, List.length_drop]
      omega
  | case4 p ps h0 h =>
      rw [segment_singular ps (Nat.pos_of_ne_zero h0) rfl]
      show (p.take (p.length - 1)).length + 0 + octets (p.drop _ :: ps) = _
      rw [octets_cons, octets_cons, List.length_take, List.length_drop]
      omega
  | case5 p ps m h0 h hne ih =>
      rw [segment_normal ps (by omega), payloadOctets_cons, octets_cons]
      show p.length + _ + octets (segment ps (m - 1 - p.length)).2 = _
      omega

/-- **M AND E.** -/
theorem segment_wellFormed {ps : List (List UInt8)} (m : Nat)
    (hne : ∀ p ∈ ps, p ≠ []) : WellFormed (segment ps m).1 := by
  induction ps, m using segment.induct with
  | case1 m => exact trivial
  | case2 p ps => rw [segment_zero]; exact trivial
  | case3 p ps m h0 h =>
      rw [segment_chunk ps (Nat.pos_of_ne_zero h0) h]
      exact ⟨rfl, trivial⟩
  | case4 p ps h0 h =>
      rw [segment_singular ps (Nat.pos_of_ne_zero h0) rfl]
      exact ⟨⟨Or.inl ⟨rfl, rfl⟩, rfl, rfl⟩, trivial⟩
  | case5 p ps m h0 h hlen ih =>
      rw [segment_normal ps (by omega)]
      have hpos : 0 < p.length :=
        List.length_pos_iff.mpr (hne p List.mem_cons_self)
      exact ⟨⟨Or.inr ⟨hpos, rfl⟩, rfl, rfl⟩,
        ih (fun q hq => hne q (List.mem_cons_of_mem _ hq))⟩

/-- **LOSSLESS**: what the receiver has and what is left stays the list of
    PDUs. -/
theorem segment_holds {ps : List (List UInt8)} (m : Nat)
    (hne : ∀ p ∈ ps, p ≠ []) :
    ∀ {b : Buffer UInt8} {whole : List (List UInt8)}, Holds b ps whole →
      Holds (reassemble endsPdu LlcBlock.payload b (segment ps m).1)
        (segment ps m).2 whole := by
  induction ps, m using segment.induct with
  | case1 m => intro b whole h; exact h
  | case2 p ps => intro b whole h; rw [segment_zero]; exact h
  | case3 p ps m h0 h =>
      intro b whole hb
      rw [segment_chunk ps (Nat.pos_of_ne_zero h0) h]
      exact @Holds.feed_part _ _ endsPdu LlcBlock.payload b
        ⟨none, p.take m⟩ p ps whole m hb rfl rfl
  | case4 p ps h0 h =>
      intro b whole hb
      rw [segment_singular ps (Nat.pos_of_ne_zero h0) rfl]
      exact @Holds.feed_part _ _ endsPdu LlcBlock.payload b
        ⟨some ⟨0, false, true⟩, p.take (p.length - 1)⟩ p ps whole
        (p.length - 1) hb rfl rfl
  | case5 p ps m h0 h hlen ih =>
      intro b whole hb
      rw [segment_normal ps (by omega)]
      have hpos : 0 < p.length :=
        List.length_pos_iff.mpr (hne p List.mem_cons_self)
      refine ih (fun q hq => hne q (List.mem_cons_of_mem _ hq)) ?_
      exact @Holds.feed_last _ _ endsPdu LlcBlock.payload b
        ⟨some (linkHdr p.length _), p⟩ ps whole hb (decide_eq_true hpos)

/-- **PROGRESS**, with room for two octets: a header and one octet. -/
theorem segment_progress {ps : List (List UInt8)} {m : Nat}
    (hne : ∀ p ∈ ps, p ≠ []) (hps : ps ≠ []) (hm : 2 ≤ m) :
    octets (segment ps m).2 < octets ps := by
  cases ps with
  | nil => exact absurd rfl hps
  | cons p ps =>
      have hpos : 0 < p.length :=
        List.length_pos_iff.mpr (hne p List.mem_cons_self)
      rw [octets_cons]
      rcases Nat.lt_trichotomy m p.length with hlt | heq | hgt
      · rw [segment_chunk ps (by omega) hlt, octets_cons, List.length_drop]
        omega
      · rw [segment_singular ps (by omega) heq.symm, octets_cons,
            List.length_drop]
        omega
      · rw [segment_normal ps hgt]
        have hsum := segment_octets ps (m - 1 - p.length)
        show octets (segment ps (m - 1 - p.length)).2 < _
        omega

-- ── The code computes the segmentation ───────────────────────────────────────

/-- The octets that are not yet pulled. -/
def pending (us : UlTbfState) : List (List UInt8) :=
  match us.llcPdusEnc.drop us.curPdu with
  | [] => []
  | p :: ps => p.drop us.curIndex :: ps

/-- What every call keeps: no PDU is empty, the index lies in the current PDU,
    and `total_bytes_remain` counts the octets that are not yet pulled. -/
structure Valid (us : UlTbfState) : Prop where
  nonempty : ∀ p ∈ us.llcPdusEnc, p ≠ []
  index : ∀ p, us.llcPdusEnc[us.curPdu]? = some p → us.curIndex < p.length
  remain : us.totalBytesRemain = octets (pending us)

theorem pending_none {us : UlTbfState} (h : us.llcPdusEnc[us.curPdu]? = none) :
    pending us = [] := by
  rw [pending, List.drop_eq_nil_iff.mpr (List.getElem?_eq_none_iff.mp h)]

theorem drop_of_getElem? {us : UlTbfState} {p : List UInt8}
    (h : us.llcPdusEnc[us.curPdu]? = some p) :
    us.llcPdusEnc.drop us.curPdu
      = p :: us.llcPdusEnc.drop (us.curPdu + 1) := by
  obtain ⟨hlt, hp⟩ := List.getElem?_eq_some_iff.mp h
  rw [List.drop_eq_getElem_cons hlt, hp]

theorem pending_some {us : UlTbfState} {p : List UInt8}
    (h : us.llcPdusEnc[us.curPdu]? = some p) :
    pending us
      = p.drop us.curIndex :: us.llcPdusEnc.drop (us.curPdu + 1) := by
  rw [pending, drop_of_getElem? h]

/-- What is pending begins with what is left of the current PDU. -/
theorem pending_cons {us : UlTbfState} {q : List UInt8} {qs : List (List UInt8)}
    (hp : pending us = q :: qs) : ∃ p, us.llcPdusEnc[us.curPdu]? = some p
      ∧ q = p.drop us.curIndex ∧ qs = us.llcPdusEnc.drop (us.curPdu + 1) := by
  cases hcur : us.llcPdusEnc[us.curPdu]? with
  | none =>
      rw [pending_none hcur] at hp
      exact nomatch hp
  | some p =>
      rw [pending_some hcur] at hp
      obtain ⟨hq, hqs⟩ := List.cons.inj hp
      exact ⟨p, rfl, hq.symm, hqs.symm⟩

/-- No PDU that is pending is empty. -/
theorem Valid.pending_ne {us : UlTbfState} (h : Valid us) :
    ∀ p ∈ pending us, p ≠ [] := by
  intro q hq
  cases hcur : us.llcPdusEnc[us.curPdu]? with
  | none =>
      rw [pending_none hcur] at hq
      exact nomatch hq
  | some p =>
      rw [pending_some hcur] at hq
      rcases List.mem_cons.mp hq with rfl | hmem
      · rw [ne_eq, List.drop_eq_nil_iff]
        exact Nat.not_le.mpr (h.index p hcur)
      · exact h.nonempty q (List.mem_of_mem_drop hmem)

/-- The state is at the start of a PDU as soon as one is completed. -/
structure Copied (us : UlTbfState) (rest : List (List UInt8))
    (us' : UlTbfState) : Prop where
  valid : Valid us'
  pending : pending us' = rest
  pdus : us'.llcPdusEnc = us.llcPdusEnc

/-- Copying a part of the current PDU. -/
theorem fCopyFromLlc_part {us : UlTbfState} {q : List UInt8}
    {qs : List (List UInt8)} {len : Nat} (hv : Valid us)
    (hp : pending us = q :: qs) (hlen : len < q.length) :
    ∃ us', fCopyFromLlc us len = .ok (q.take len, us')
      ∧ Copied us (q.drop len :: qs) us' := by
  obtain ⟨p, hcur, rfl, rfl⟩ := pending_cons hp
  rw [List.length_drop] at hlen
  have hsub : substr p us.curIndex len
      = .ok ((p.drop us.curIndex).take len) := substr_ok (by omega)
  refine ⟨{ us with
    curIndex := us.curIndex + len
    totalBytesRemain := us.totalBytesRemain - len }, ?_, ?_, ?_, rfl⟩
  · rw [fCopyFromLlc, hcur]
    show (substr p us.curIndex len).map _ = _
    rw [hsub]
    exact congrArg Except.ok (if_neg (by omega))
  · refine ⟨hv.nonempty, ?_, ?_⟩
    · intro p' hp'
      have hpp : p = p' := Option.some.inj (hcur.symm.trans hp')
      show us.curIndex + len < p'.length
      rw [← hpp]
      omega
    · have hremain := hv.remain
      rw [pending_some hcur, octets_cons, List.length_drop] at hremain
      have hnext := @pending_some { us with
        curIndex := us.curIndex + len
        totalBytesRemain := us.totalBytesRemain - len } p hcur
      rw [hnext, octets_cons, List.length_drop]
      show us.totalBytesRemain - len = ((p.length - (us.curIndex + len)
        + octets (us.llcPdusEnc.drop (us.curPdu + 1)) : Nat) : Int)
      omega
  · rw [@pending_some { us with
        curIndex := us.curIndex + len
        totalBytesRemain := us.totalBytesRemain - len } p hcur,
      List.drop_drop]

/-- Copying the rest of the current PDU. -/
theorem fCopyFromLlc_rest {us : UlTbfState} {q : List UInt8}
    {qs : List (List UInt8)} (hv : Valid us) (hp : pending us = q :: qs) :
    ∃ us', fCopyFromLlc us q.length = .ok (q, us')
      ∧ Copied us qs us' ∧ us'.curIndex = 0 := by
  obtain ⟨p, hcur, rfl, rfl⟩ := pending_cons hp
  have hidx := hv.index p hcur
  have hsub : substr p us.curIndex (p.drop us.curIndex).length
      = .ok (p.drop us.curIndex) := by
    rw [substr_ok (by rw [List.length_drop]; omega), List.take_length]
  have hnext : pending { us with
      curPdu := us.curPdu + 1
      curIndex := 0
      totalBytesRemain := us.totalBytesRemain
        - (p.drop us.curIndex).length }
      = us.llcPdusEnc.drop (us.curPdu + 1) := by
    rw [pending]
    show (match us.llcPdusEnc.drop (us.curPdu + 1) with
      | [] => []
      | q :: qs => q.drop 0 :: qs) = _
    cases us.llcPdusEnc.drop (us.curPdu + 1) <;> rfl
  refine ⟨_, ?_, ⟨?_, hnext, rfl⟩, rfl⟩
  · rw [fCopyFromLlc, hcur]
    show (substr p us.curIndex (p.drop us.curIndex).length).map _ = _
    rw [hsub]
    exact congrArg Except.ok (if_pos (by rw [List.length_drop]; omega))
  · refine ⟨hv.nonempty, ?_, ?_⟩
    · intro p' hp'
      exact List.length_pos_iff.mpr
        (hv.nonempty p' (List.mem_of_getElem? hp'))
    · have hremain := hv.remain
      rw [pending_some hcur, octets_cons] at hremain
      rw [hnext]
      show us.totalBytesRemain - _ = _
      rw [hremain]
      omega

/-- What is copied in two parts is copied. -/
theorem Copied.trans {us us1 us2 : UlTbfState} {r1 r2 : List (List UInt8)}
    (h1 : Copied us r1 us1) (h2 : Copied us1 r2 us2) : Copied us r2 us2 :=
  ⟨h2.valid, h2.pending, h2.pdus.trans h1.pdus⟩

/-- Without a PDU nothing is pulled. -/
theorem pullOne_none {us : UlTbfState} (hp : pending us = []) (prev : LlcBlockHdr)
    (m : Nat) (f : Bool) : fUlTbfPullOne prev us m f = .ok (none, prev, us) := by
  cases hcur : us.llcPdusEnc[us.curPdu]? with
  | none => rw [fUlTbfPullOne, hcur]
  | some p =>
      rw [pending_some hcur] at hp
      exact nomatch hp

/-- M of the previous segment, set at the start of a PDU. -/
def startHdr (us : UlTbfState) (prev : LlcBlockHdr) : LlcBlockHdr :=
  if us.curIndex = 0 then { prev with more := true } else prev

/-- The branches of `f_ul_tbf_pull_one` over what is left of the current PDU. -/
theorem pullOne_cons {us : UlTbfState} {q : List UInt8}
    {qs : List (List UInt8)} (hp : pending us = q :: qs) (prev : LlcBlockHdr)
    (m : Nat) :
    fUlTbfPullOne prev us m false
      = if m < q.length then pullSegment none (startHdr us prev) us m
        else if q.length = m then
          pullSegment (some ⟨0, false, true⟩)
            { startHdr us prev with e := false } us (m - 1)
        else
          pullSegment (some ⟨q.length, false, true⟩)
            { startHdr us prev with e := false } us q.length := by
  obtain ⟨p, hcur, hq, -⟩ := pending_cons hp
  have hlen : p.length - us.curIndex = q.length := by
    rw [hq, List.length_drop]
  have hfinal : ¬ (q.length = m ∧ false = true) := fun h => nomatch h.2
  rw [fUlTbfPullOne, hcur]
  show (if m < p.length - us.curIndex then _ else _) = _
  rw [hlen, if_neg hfinal]
  rfl

/-- As much is pulled as there is room. -/
theorem pullOne_chunk {us : UlTbfState} {q : List UInt8}
    {qs : List (List UInt8)} {m : Nat} (hv : Valid us)
    (hp : pending us = q :: qs) (hm : m < q.length) (prev : LlcBlockHdr) :
    ∃ us', fUlTbfPullOne prev us m false
        = .ok (some ⟨none, q.take m⟩, startHdr us prev, us')
      ∧ Copied us (q.drop m :: qs) us' := by
  obtain ⟨us', hcopy, hus'⟩ := fCopyFromLlc_part hv hp hm
  refine ⟨us', ?_, hus'⟩
  rw [pullOne_cons hp, if_pos hm, pullSegment, hcopy]
  rfl

theorem pullOne_singular {us : UlTbfState} {q : List UInt8}
    {qs : List (List UInt8)} {m : Nat} (hv : Valid us)
    (hp : pending us = q :: qs) (hm : q.length = m) (h0 : 0 < m)
    (prev : LlcBlockHdr) :
    ∃ us', fUlTbfPullOne prev us m false
        = .ok (some ⟨some ⟨0, false, true⟩, q.take (m - 1)⟩,
            { startHdr us prev with e := false }, us')
      ∧ Copied us (q.drop (m - 1) :: qs) us' := by
  obtain ⟨us', hcopy, hus'⟩ :=
    fCopyFromLlc_part hv hp (show m - 1 < q.length by omega)
  refine ⟨us', ?_, hus'⟩
  rw [pullOne_cons hp, if_neg (by omega), if_pos hm, pullSegment, hcopy]
  rfl

/-- A PDU that fits is pulled to its end. -/
theorem pullOne_normal {us : UlTbfState} {q : List UInt8}
    {qs : List (List UInt8)} {m : Nat} (hv : Valid us)
    (hp : pending us = q :: qs) (hm : q.length < m) (prev : LlcBlockHdr) :
    ∃ us', fUlTbfPullOne prev us m false
        = .ok (some ⟨some ⟨q.length, false, true⟩, q⟩,
            { startHdr us prev with e := false }, us')
      ∧ Copied us qs us' ∧ us'.curIndex = 0 := by
  obtain ⟨us', hcopy, hus', hidx⟩ := fCopyFromLlc_rest hv hp
  refine ⟨us', ?_, hus', hidx⟩
  rw [pullOne_cons hp, if_neg (by omega), if_neg (by omega), pullSegment, hcopy]
  rfl

-- ── The loop over one block ──────────────────────────────────────────────────

/-- The loop ends when there is no room. -/
theorem pullLoop_full {maxLen : Nat} {ret : List LlcBlock}
    (h : maxLen ≤ fLlcBlocksEncLen ret) (fuel : Nat) (us : UlTbfState) :
    pullLoop maxLen false fuel ret us = .ok (true, ret, us) := by
  cases fuel <;> exact if_pos h

/-- One round that adds a segment. -/
theorem pullLoop_round {maxLen fuel : Nat} {ret ret' : List LlcBlock}
    {us us' : UlTbfState} {lb : LlcBlock}
    (h : fLlcBlocksEncLen ret < maxLen)
    (hnext : pullNext ret us (maxLen - fLlcBlocksEncLen ret) false
      = .ok (some lb, ret', us')) :
    pullLoop maxLen false (fuel + 1) ret us
      = pullLoop maxLen false fuel (ret' ++ [lb]) us' := by
  rw [pullLoop, if_neg (by omega)]
  show (match pullNext ret us _ false with
    | .error f => _
    | .ok (none, ret', us') => _
    | .ok (some lb, ret', us') => _) = _
  rw [hnext]

/-- The last round. -/
theorem pullLoop_end {maxLen fuel : Nat} {ret ret' : List LlcBlock}
    {us us' : UlTbfState}
    (h : fLlcBlocksEncLen ret < maxLen)
    (hnext : pullNext ret us (maxLen - fLlcBlocksEncLen ret) false
      = .ok (none, ret', us')) :
    pullLoop maxLen false (fuel + 1) ret us
      = .ok (!ret'.isEmpty, ret', us') := by
  rw [pullLoop, if_neg (by omega)]
  show (match pullNext ret us _ false with
    | .error f => _
    | .ok (none, ret', us') => _
    | .ok (some lb, ret', us') => _) = _
  rw [hnext]

/-- The next segment behind one that ends its PDU. -/
theorem pullNext_append {us us' : UlTbfState} {m : Nat} {init : List LlcBlock}
    {h h' : LlcBlockHdr} {p : List UInt8} {lb : Option LlcBlock}
    (hone : fUlTbfPullOne h us m false = .ok (lb, h', us')) :
    pullNext (init ++ [⟨some h, p⟩]) us m false
      = .ok (lb, init ++ [⟨some h', p⟩], us') := by
  rw [pullNext, List.getLast?_concat]
  show (fUlTbfPullOne h us m false).map _ = _
  rw [hone]
  show Except.ok (lb, (init ++ [_]).dropLast ++ [_], us') = _
  rw [List.dropLast_concat]

theorem encLen_concat_hdr (init : List LlcBlock) (h : LlcBlockHdr)
    (p : List UInt8) :
    fLlcBlocksEncLen (init ++ [⟨some h, p⟩])
      = fLlcBlocksEncLen init + (1 + p.length) := by
  rw [fLlcBlocksEncLen_append]
  rfl

/-- **THE LOOP IS THE SEGMENTATION**, behind a segment that ends its PDU: the
    flags of that segment follow from what is added. -/
theorem pullLoop_spec {maxLen : Nat} :
    ∀ (rest : List (List UInt8)) {us : UlTbfState} {fuel m n : Nat}
      {init : List LlcBlock} {p : List UInt8},
      Valid us → pending us = rest → us.curIndex = 0 →
      fLlcBlocksEncLen init + (1 + p.length) + m = maxLen → m ≤ fuel →
      ∃ us', pullLoop maxLen false fuel
            (init ++ [⟨some ⟨n, false, true⟩, p⟩]) us
          = .ok (true, init ++ ⟨some (linkHdr n (segment rest m).1), p⟩
              :: (segment rest m).1, us')
        ∧ Copied us (segment rest m).2 us' := by
  intro rest
  induction rest with
  | nil =>
      intro us fuel m n init p hv hp _ hlen hfuel
      refine ⟨us, ?_, hv, hp, rfl⟩
      have henc := encLen_concat_hdr init ⟨n, false, true⟩ p
      by_cases hm : m = 0
      · exact pullLoop_full (by omega) fuel us
      · obtain ⟨fuel, rfl⟩ : ∃ k, fuel = k + 1 := ⟨fuel - 1, by omega⟩
        rw [pullLoop_end (by omega) (pullNext_append (pullOne_none hp _ _ _))]
        show Except.ok (!(init ++ [_]).isEmpty, _, us) = _
        rw [List.isEmpty_eq_false_iff.mpr
          (List.append_ne_nil_of_right_ne_nil _ (List.cons_ne_nil _ _))]
        rfl
  | cons q qs ih =>
      intro us fuel m n init p hv hp hidx hlen hfuel
      have henc : ∀ h, fLlcBlocksEncLen (init ++ [⟨some h, p⟩])
          = fLlcBlocksEncLen init + (1 + p.length) :=
        fun h => encLen_concat_hdr init h p
      have hroom : maxLen - fLlcBlocksEncLen (init ++ [⟨some ⟨n, false, true⟩, p⟩])
          = m := by
        rw [henc]
        omega
      have hstart : startHdr us ⟨n, false, true⟩ = ⟨n, true, true⟩ := if_pos hidx
      by_cases hm : m = 0
      · rw [hm, segment_zero]
        exact ⟨us, pullLoop_full (by rw [henc]; omega) fuel us, hv, hp, rfl⟩
      obtain ⟨fuel, rfl⟩ : ∃ k, fuel = k + 1 := ⟨fuel - 1, by omega⟩
      rcases Nat.lt_trichotomy m q.length with hlt | heq | hgt
      · obtain ⟨us', hone, hus'⟩ := pullOne_chunk hv hp hlt ⟨n, false, true⟩
        rw [segment_chunk qs (by omega) hlt]
        refine ⟨us', ?_, hus'⟩
        rw [← hroom] at hone
        rw [pullLoop_round (by rw [henc]; omega) (pullNext_append hone), hroom,
            hstart, pullLoop_full, List.append_assoc]
        · rfl
        · rw [fLlcBlocksEncLen_append, henc]
          show maxLen ≤ _ + ((q.take m).length + 0)
          rw [List.length_take]
          omega
      · obtain ⟨us', hone, hus'⟩ :=
          pullOne_singular hv hp heq.symm (by omega) ⟨n, false, true⟩
        rw [segment_singular qs (by omega) heq.symm]
        refine ⟨us', ?_, hus'⟩
        rw [← hroom] at hone
        rw [pullLoop_round (by rw [henc]; omega) (pullNext_append hone), hroom,
            hstart, pullLoop_full, List.append_assoc]
        · rfl
        · rw [fLlcBlocksEncLen_append, henc]
          show maxLen ≤ _ + (1 + (q.take (m - 1)).length + 0)
          rw [List.length_take]
          omega
      · obtain ⟨us1, hone, hus1, hidx1⟩ :=
          pullOne_normal hv hp hgt ⟨n, false, true⟩
        rw [segment_normal qs hgt]
        rw [← hroom] at hone
        obtain ⟨us', hloop, hus'⟩ := @ih us1 fuel (m - 1 - q.length) q.length
          (init ++ [⟨some ⟨n, true, false⟩, p⟩]) q hus1.valid hus1.pending hidx1
          (by rw [henc]; omega) (by omega)
        refine ⟨us', ?_, hus1.trans hus'⟩
        rw [pullLoop_round (by rw [henc]; omega) (pullNext_append hone),
            hstart, hloop, List.append_assoc]
        rfl

/-- The first segment of a block. -/
theorem pullNext_nil {us us' : UlTbfState} {m : Nat} {h' : LlcBlockHdr}
    {lb : Option LlcBlock}
    (hone : fUlTbfPullOne dummyHdr us m false = .ok (lb, h', us')) :
    pullNext [] us m false = .ok (lb, [], us') := by
  show (fUlTbfPullOne dummyHdr us m false).map _ = _
  rw [hone]
  rfl

/-- Without data, no segment. -/
theorem pullMulti_nil {us : UlTbfState} {m : Nat} (hp : pending us = [])
    (hm : 1 ≤ m) : fUlTbfPullMulti us m false = .ok (false, [], us) := by
  obtain ⟨k, rfl⟩ : ∃ k, m = k + 1 := ⟨m - 1, by omega⟩
  exact pullLoop_end hm (pullNext_nil (pullOne_none hp _ _ _))

/-- **A CALL IS A SEGMENTATION** of the octets that are not yet pulled. -/
theorem pullMulti_spec {us : UlTbfState} {m : Nat} (hv : Valid us)
    (hp : pending us ≠ []) (hm : 1 ≤ m) :
    ∃ us', fUlTbfPullMulti us m false
        = .ok (true, (segment (pending us) m).1, us')
      ∧ Copied us (segment (pending us) m).2 us' := by
  obtain ⟨k, rfl⟩ : ∃ k, m = k + 1 := ⟨m - 1, by omega⟩
  cases hrest : pending us with
  | nil => exact absurd hrest hp
  | cons q qs =>
      have hround : ∀ {lb us' h'}, fUlTbfPullOne dummyHdr us (k + 1) false
          = .ok (some lb, h', us') → fUlTbfPullMulti us (k + 1) false
          = pullLoop (k + 1) false k [lb] us' := fun hone =>
        pullLoop_round (show 0 < k + 1 by omega) (pullNext_nil hone)
      rcases Nat.lt_trichotomy (k + 1) q.length with hlt | heq | hgt
      · obtain ⟨us', hone, hus'⟩ := pullOne_chunk hv hrest hlt dummyHdr
        rw [segment_chunk qs hm hlt, hround hone, pullLoop_full]
        · exact ⟨us', rfl, hus'⟩
        · show k + 1 ≤ (q.take (k + 1)).length + 0
          rw [List.length_take]
          omega
      · obtain ⟨us', hone, hus'⟩ :=
          pullOne_singular hv hrest heq.symm hm dummyHdr
        rw [segment_singular qs hm heq.symm, hround hone, pullLoop_full]
        · exact ⟨us', rfl, hus'⟩
        · show k + 1 ≤ 1 + (q.take (k + 1 - 1)).length + 0
          rw [List.length_take]
          omega
      · obtain ⟨us1, hone, hus1, hidx1⟩ := pullOne_normal hv hrest hgt dummyHdr
        obtain ⟨us', hloop, hus'⟩ := @pullLoop_spec (k + 1) qs us1 k
          (k + 1 - 1 - q.length) q.length [] q hus1.valid hus1.pending hidx1
          (show 0 + (1 + q.length) + (k + 1 - 1 - q.length) = k + 1 by omega)
          (by omega)
        rw [segment_normal qs hgt, hround hone]
        exact ⟨us', hloop, hus1.trans hus'⟩

-- ── Sequences of calls ───────────────────────────────────────────────────────

/-- The lists returned so far, and whether a call reported no more data. -/
structure Pulled where
  blocks : List (List LlcBlock)
  us : UlTbfState
  finished : Bool
  deriving DecidableEq, Repr

/-- Non-final calls with the budgets given, until one reports no more data. -/
def pullAll : List Nat → UlTbfState → Except Fault Pulled
  | [], us => .ok ⟨[], us, false⟩
  | m :: ms, us =>
      match fUlTbfPullMulti us m false with
      | .error f => .error f
      | .ok (false, _, us') => .ok ⟨[], us', true⟩
      | .ok (true, bs, us') =>
          (pullAll ms us').map (fun r => { r with blocks := bs :: r.blocks })

/-- The receiver takes all lists in order. -/
def received (b : Buffer UInt8) (blocks : List (List LlcBlock)) :
    Buffer UInt8 :=
  reassemble endsPdu LlcBlock.payload b blocks.flatten

/-- What calls with `budgets` achieve from a state with `rest` to be pulled,
    for a receiver that has `b` of the PDUs `whole`. -/
structure Lossless (budgets : List Nat) (rest whole : List (List UInt8))
    (b : Buffer UInt8) (r : Pulled) : Prop where
  /-- Every list fits its budget. -/
  fits : List.Forall₂ (fun bs m => fLlcBlocksEncLen bs ≤ m) r.blocks
    (budgets.take r.blocks.length)
  /-- M, E and LI are as the segments are. -/
  wellFormed : ∀ bs ∈ r.blocks, WellFormed bs
  /-- No octet is lost, duplicated or moved across a PDU boundary. -/
  holds : Holds (received b r.blocks) (pending r.us) whole
  /-- `total_bytes_remain` counts what is not yet pulled. -/
  remain : r.us.totalBytesRemain = octets (pending r.us)
  pulled : (r.blocks.map payloadOctets).sum + octets (pending r.us)
    = octets rest
  /-- A call reports no more data when all PDUs are delivered. -/
  complete : r.finished = true → received b r.blocks = ⟨whole, []⟩
  /-- Every call before it returns a list. -/
  unfinished : r.finished = false → r.blocks.length = budgets.length
  /-- More calls with room for two octets than there are octets suffice. -/
  terminates : octets rest < (budgets.filter (2 ≤ ·)).length →
    r.finished = true

theorem received_cons (b : Buffer UInt8) (bs : List LlcBlock)
    (blocks : List (List LlcBlock)) :
    received b (bs :: blocks)
      = received (reassemble endsPdu LlcBlock.payload b bs) blocks := by
  rw [received, List.flatten_cons, reassemble_append]
  rfl

/-- One call more in front. -/
theorem Lossless.cons {m : Nat} {ms : List Nat} {us : UlTbfState}
    {whole : List (List UInt8)} {b : Buffer UInt8} {r : Pulled}
    (hv : Valid us) (hp : pending us ≠ [])
    (h : Lossless ms (segment (pending us) m).2 whole
      (reassemble endsPdu LlcBlock.payload b (segment (pending us) m).1) r) :
    Lossless (m :: ms) (pending us) whole b
      { r with blocks := (segment (pending us) m).1 :: r.blocks } where
  fits := List.Forall₂.cons (segment_fits (pending us) m) h.fits
  wellFormed := by
    intro bs hbs
    rcases List.mem_cons.mp hbs with rfl | hmem
    · exact segment_wellFormed m hv.pending_ne
    · exact h.wellFormed bs hmem
  holds := by
    show Holds (received b (_ :: r.blocks)) _ _
    rw [received_cons]
    exact h.holds
  remain := h.remain
  pulled := by
    have hsum := segment_octets (pending us) m
    have htail := h.pulled
    show payloadOctets _ + (r.blocks.map payloadOctets).sum + _ = _
    show _ + _ + octets (pending r.us) = _
    omega
  complete := by
    intro hfin
    show received b (_ :: r.blocks) = _
    rw [received_cons]
    exact h.complete hfin
  unfinished := fun hfin => congrArg (· + 1) (h.unfinished hfin)
  terminates := by
    intro hlt
    refine h.terminates ?_
    have hsum := segment_octets (pending us) m
    by_cases hm : 2 ≤ m
    · have hprog := segment_progress hv.pending_ne hp hm
      rw [List.filter_cons_of_pos (by simpa using hm), List.length_cons] at hlt
      omega
    · rw [List.filter_cons_of_neg (by simpa using hm)] at hlt
      omega

/-- **EVERY SEQUENCE OF CALLS**, from any valid state. -/
theorem pullAll_lossless : ∀ (budgets : List Nat) {us : UlTbfState}
    {whole : List (List UInt8)} {b : Buffer UInt8},
    (∀ m ∈ budgets, 1 ≤ m) → Valid us → Holds b (pending us) whole →
    ∃ r, pullAll budgets us = .ok r
      ∧ Lossless budgets (pending us) whole b r := by
  intro budgets
  induction budgets with
  | nil =>
      intro us whole b _ hv hb
      exact ⟨_, rfl, .nil, fun _ hbs => (nomatch hbs), hb, hv.remain,
        Nat.zero_add _, fun h => (nomatch h), fun _ => rfl,
        fun h => absurd h (Nat.not_lt_zero _)⟩
  | cons m ms ih =>
      intro us whole b hm hv hb
      have h1 : 1 ≤ m := hm m List.mem_cons_self
      by_cases hp : pending us = []
      · refine ⟨⟨[], us, true⟩, ?_, .nil, fun _ hbs => (nomatch hbs), hb,
          hv.remain, Nat.zero_add _, fun _ => ?_, fun h => (nomatch h),
          fun _ => rfl⟩
        · rw [pullAll, pullMulti_nil hp h1]
        · rw [hp] at hb
          obtain ⟨hacc, hdone⟩ := hb
          show b = _
          rw [← hacc, ← hdone]
      · obtain ⟨us', hmulti, hus'⟩ := pullMulti_spec hv hp h1
        have hb' := segment_holds m hv.pending_ne hb
        rw [← hus'.pending] at hb'
        obtain ⟨r, hrun, hr⟩ := ih
          (fun k hk => hm k (List.mem_cons_of_mem _ hk)) hus'.valid hb'
        rw [hus'.pending] at hr
        refine ⟨_, ?_, hr.cons hv hp⟩
        rw [pullAll, hmulti]
        show (pullAll ms us').map _ = _
        rw [hrun]
        rfl

section Init

variable {PduLlc : Type} {encPduLlc : PduLlc → List UInt8}

theorem foldl_initRound : ∀ (pdus : List PduLlc) (us : UlTbfState),
    pdus.foldl (initRound encPduLlc) us
      = { us with
          llcPdusEnc := us.llcPdusEnc ++ pdus.map encPduLlc
          llcPduTotlen := us.llcPduTotlen + octets (pdus.map encPduLlc) } := by
  intro pdus
  induction pdus with
  | nil =>
      intro us
      show us = ⟨us.llcPdusEnc ++ [], us.llcPduTotlen + 0, _, _, _⟩
      rw [List.append_nil, Int.add_zero]
  | cons p ps ih =>
      intro us
      rw [List.foldl_cons, ih, List.map_cons, octets_cons, initRound]
      show UlTbfState.mk ((us.llcPdusEnc ++ [encPduLlc p]) ++ _)
        (us.llcPduTotlen + _ + _) _ _ _ = _
      rw [List.append_assoc, Int.add_assoc]
      rfl

/-- The state is valid at the start. -/
theorem fUlTbfStateInit_valid {pdus : List PduLlc}
    (hne : ∀ p ∈ pdus, encPduLlc p ≠ []) (enc : List (List UInt8))
    (totlen : Int) :
    Valid (fUlTbfStateInit encPduLlc (some pdus) enc totlen)
      ∧ pending (fUlTbfStateInit encPduLlc (some pdus) enc totlen)
        = pdus.map encPduLlc := by
  have hinit : fUlTbfStateInit encPduLlc (some pdus) enc totlen
      = ⟨pdus.map encPduLlc, octets (pdus.map encPduLlc), 0, 0,
          octets (pdus.map encPduLlc)⟩ := by
    rw [fUlTbfStateInit, foldl_initRound]
    show UlTbfState.mk ([] ++ _) (0 + _) 0 0 (0 + _) = _
    rw [List.nil_append, Int.zero_add]
  have hpend : ∀ t r : Int, pending ⟨pdus.map encPduLlc, t, 0, 0, r⟩
      = pdus.map encPduLlc := by
    intro t r
    rw [pending]
    show (match (pdus.map encPduLlc).drop 0 with
      | [] => []
      | p :: ps => p.drop 0 :: ps) = _
    cases pdus <;> rfl
  have hall : ∀ q ∈ pdus.map encPduLlc, q ≠ [] := by
    intro q hq
    obtain ⟨p, hp, rfl⟩ := List.mem_map.mp hq
    exact hne p hp
  rw [hinit]
  refine ⟨⟨hall, ?_, ?_⟩, hpend _ _⟩
  · intro q hq
    exact List.length_pos_iff.mpr (hall q (List.mem_of_getElem? hq))
  · rw [hpend]

/-- **UPLINK SEGMENTATION IS LOSSLESS**: from the initial state of a TBF with
    non-empty PDUs, calls with any budgets of at least one octet return lists
    that fit, with M, E and LI set right, that a receiver reassembles to the
    PDUs; and more calls with room for two octets than there are octets
    finish. -/
theorem ulTbf_lossless (pdus : List PduLlc)
    (hne : ∀ p ∈ pdus, encPduLlc p ≠ []) (budgets : List Nat)
    (hb : ∀ m ∈ budgets, 1 ≤ m) (enc : List (List UInt8)) (totlen : Int) :
    ∃ r, pullAll budgets (fUlTbfStateInit encPduLlc (some pdus) enc totlen)
        = .ok r
      ∧ Lossless budgets (pdus.map encPduLlc) (pdus.map encPduLlc)
          Buffer.empty r := by
  obtain ⟨hv, hp⟩ := fUlTbfStateInit_valid hne enc totlen
  have hstart := holds_empty (pdus.map encPduLlc)
  rw [← hp] at hstart
  obtain ⟨r, hrun, hr⟩ := pullAll_lossless budgets hb hv hstart
  rw [hp] at hr
  exact ⟨r, hrun, hr⟩

end Init

/-- Three PDUs over three blocks. -/
def threePdus : List (List UInt8) := [[1, 2, 3, 4, 5], [6], [7, 8]]

/-- Three PDUs in three blocks. -/
theorem ulTbf_lossless_threePdus :
    ∃ r, pullAll [3, 5, 9] (fUlTbfStateInit id (some threePdus) [] 0) = .ok r
      ∧ Lossless [3, 5, 9] (threePdus.map id) (threePdus.map id)
          Buffer.empty r :=
  ulTbf_lossless threePdus (by decide) [3, 5, 9] (by decide) [] 0

/-- A PDU of one octet. -/
def oneOctet : UlTbfState :=
  fUlTbfStateInit id (some [[(0x2a : UInt8)]]) [] 0

/-- **BUDGETS OF ONE OCTET**: the singular case takes the header only, so no
    number of calls pulls the last octet of a PDU. -/
theorem oneOctet_never_finished :
    ¬ ∃ n r, pullAll (List.replicate n 1) oneOctet = .ok r
      ∧ r.finished = true := by
  have hcall : fUlTbfPullMulti oneOctet 1 false
      = .ok (true, [⟨some ⟨0, false, true⟩, []⟩], oneOctet) := by decide
  have hrun : ∀ n, ∃ r, pullAll (List.replicate n 1) oneOctet = .ok r
      ∧ r.finished = false := by
    intro n
    induction n with
    | zero => exact ⟨_, rfl, rfl⟩
    | succ n ih =>
        obtain ⟨r, hr, hfin⟩ := ih
        refine ⟨⟨[⟨some ⟨0, false, true⟩, []⟩] :: r.blocks, r.us, r.finished⟩,
          ?_, hfin⟩
        rw [List.replicate_succ, pullAll, hcall]
        show (pullAll (List.replicate n 1) oneOctet).map _ = _
        rw [hr]
        rfl
  rintro ⟨n, r, hr, hfin⟩
  obtain ⟨r', hr', hfin'⟩ := hrun n
  rw [Except.ok.inj (hr.symm.trans hr'), hfin'] at hfin
  exact nomatch hfin

end OsmoUlTbf
