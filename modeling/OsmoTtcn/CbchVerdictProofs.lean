import OsmoTtcn.CbchMatchProofs

/-! # The verdict of the CBCH tests

    The tests receive blocks on both channels, look at the place of each, and
    report at the end.  A block that two messages have, or a message and the
    default message, is always taken by the first one, and a schedule block is let
    through at TB 0 only: with blocks that differ, and no schedule block at TB 4,
    the tests complain exactly if something is wrong (`noFailure_iff`). -/

namespace OsmoCbch

open OsmoTitan RoutedRun

-- ── Both channels ────────────────────────────────────────────────────────────

/-- The channels receive a block, which is not looked at before. -/
def routeStep (pars : CbchBlocksOf) (rx : Rx) : CbchBlocksOf × List String :=
  if fCbchFn2tb rx.1 < 4 then
    (⟨(fCbchMatch pars.basic rx.2 (fCbchFn2tb rx.1)).1, pars.extended⟩,
      (fCbchMatch pars.basic rx.2 (fCbchFn2tb rx.1)).2)
  else
    (⟨pars.basic, (optStep (fun chan rx => fCbchMatch chan rx.2 (fCbchFn2tb rx.1))
        pars.extended rx).1⟩,
      (optStep (fun chan rx => fCbchMatch chan rx.2 (fCbchFn2tb rx.1)) pars.extended rx).2)

/-- A block is checked against its frame, and then against the messages. -/
theorem rxStep_eq : rxStep = fun pars rx =>
    ((routeStep pars rx).1, fCbchFnVerify rx.1 rx.2 ++ (routeStep pars rx).2) := by
  funext pars rx
  rw [rxStep, routeStep]
  by_cases htb : fCbchFn2tb rx.1 < 4
  · rw [if_pos htb, if_pos htb]
  · rw [if_neg htb, if_neg htb]
    cases hext : pars.extended with
    | none =>
        obtain ⟨basic, ext⟩ := pars
        cases hext
        rfl
    | some ext => rfl

/-- **THE FIRST FOUR PLACES** are those of the basic channel. -/
theorem rx_routed : Routed routeStep (fun chan rx => fCbchMatch chan rx.2 (fCbchFn2tb rx.1))
    (optStep (fun chan rx => fCbchMatch chan rx.2 (fCbchFn2tb rx.1))) CbchBlocksOf.mk
    (fun rx => decide (fCbchFn2tb rx.1 < 4)) (fun _ => True) where
  left := fun _ _ _ _ htb => if_pos (of_decide_eq_true htb)
  right := fun _ _ _ _ htb => if_neg (of_decide_eq_false htb)
  keeps := fun _ _ _ _ => trivial

/-- No block is reported if all were seen. -/
theorem reportBlocks_nil_iff (text : Nat → String) (blocks : List CbchBlock) :
    reportBlocks text blocks = [] ↔ AllSeen blocks := by
  rw [reportBlocks, List.filterMap_eq_nil_iff]
  constructor
  · intro h j b hj
    have hb := h (b, j) (List.mk_mem_zipIdx_iff_getElem?.mpr hj)
    by_contra hseen
    rw [if_neg hseen] at hb
    cases hb
  · rintro h ⟨b, j⟩ hmem
    exact if_pos (h j b (List.mk_mem_zipIdx_iff_getElem?.mp hmem))

/-- Nothing is reported if the channel has sent everything. -/
theorem report_nil_iff (chan : ChanBlocks) (id : String) :
    fCbchReport chan id = [] ↔ ChanSeen chan := by
  rw [fCbchReport, List.append_eq_nil_iff, List.flatMap_eq_nil_iff, ChanSeen]
  refine and_congr ?_ ?_
  · constructor
    · intro h blocks hblocks
      obtain ⟨i, hi⟩ := List.mem_iff_getElem?.mp hblocks
      exact (reportBlocks_nil_iff _ _).mp
        (h (blocks, i) (List.mk_mem_zipIdx_iff_getElem?.mpr hi))
    · rintro h ⟨blocks, i⟩ hmem
      have hi := List.mk_mem_zipIdx_iff_getElem?.mp hmem
      exact (reportBlocks_nil_iff _ _).mpr (h blocks (List.mem_of_getElem? hi))
  · cases chan.defaultMsg with
    | none =>
        refine iff_of_true rfl (fun blocks hblocks => ?_)
        cases hblocks
    | some blocks =>
        show reportBlocks _ blocks = [] ↔ _
        rw [reportBlocks_nil_iff]
        constructor
        · intro h blocks' hblocks
          rw [← Option.some.inj hblocks]
          exact h
        · exact fun h => h blocks rfl

/-- Nothing at all is reported if both channels have. -/
theorem reportAll_nil_iff (pars : CbchBlocksOf) :
    reportAll pars = [] ↔ ChanSeen pars.basic ∧ ∀ ext ∈ pars.extended, ChanSeen ext := by
  rw [reportAll, List.append_eq_nil_iff, report_nil_iff]
  refine and_congr Iff.rfl ?_
  cases pars.extended with
  | none =>
      refine iff_of_true rfl (fun ext hext => ?_)
      cases hext
  | some ext =>
      show fCbchReport ext "Extended" = [] ↔ _
      rw [report_nil_iff]
      constructor
      · intro h ext' hext
        rw [← Option.some.inj hext]
        exact h
      · exact fun h => h ext rfl

/-- **EACH CHANNEL ON ITS OWN**, and the place of each block. -/
theorem noFailure_iff_chanOk (pars : CbchBlocksOf) (rxs : List Rx) :
    NoFailure pars rxs ↔ (∀ rx ∈ rxs, fCbchFnVerify rx.1 rx.2 = [])
      ∧ ChanOk pars.basic (basicRx rxs)
      ∧ ∀ ext ∈ pars.extended, ChanOk ext (extendedRx rxs) := by
  obtain ⟨basic, extended⟩ := pars
  have hbasic := quiet_map chanStep (fun rx : Rx => (fCbchFn2tb rx.1 % 4, rx.2))
    (rxs.filter (fun rx => decide (fCbchFn2tb rx.1 < 4))) basic
  have hfinal := final_map chanStep (fun rx : Rx => (fCbchFn2tb rx.1 % 4, rx.2))
    (rxs.filter (fun rx => decide (fCbchFn2tb rx.1 < 4))) basic
  have hext := fun ext => quiet_map chanStep (fun rx : Rx => (fCbchFn2tb rx.1 % 4, rx.2))
    (rxs.filter (fun rx => !decide (fCbchFn2tb rx.1 < 4))) ext
  have hfinalExt := fun ext => final_map chanStep (fun rx : Rx => (fCbchFn2tb rx.1 % 4, rx.2))
    (rxs.filter (fun rx => !decide (fCbchFn2tb rx.1 < 4))) ext
  rw [NoFailure, rxStep_eq, quiet_append_iff, final_append_check,
    quiet_routed_iff rx_routed rxs basic extended trivial,
    final_routed rx_routed rxs basic extended trivial, reportAll_nil_iff, quiet_optStep_iff,
    final_optStep]
  constructor
  · rintro ⟨⟨hverify, hq, hqe⟩, hs, hse⟩
    refine ⟨hverify, ⟨hbasic.mpr hq, ?_⟩, fun ext hmem => ⟨(hext ext).mpr (hqe ext hmem), ?_⟩⟩
    · rw [basicRx, hfinal]
      exact hs
    · rw [extendedRx, hfinalExt]
      exact hse _ (Option.mem_map_of_mem _ hmem)
  · rintro ⟨hverify, ⟨hq, hs⟩, he⟩
    rw [basicRx, hfinal] at hs
    refine ⟨⟨hverify, hbasic.mp hq, fun ext hmem => (hext ext).mp (he ext hmem).1⟩, hs,
      fun ext' hext' => ?_⟩
    obtain ⟨ext, hmem, rfl⟩ := Option.map_eq_some_iff.mp hext'
    have hse := (he ext hmem).2
    rw [extendedRx, hfinalExt] at hse
    exact hse

/-- A frame is right if its slot may carry the block, and a schedule is not in slot
    4. -/
theorem fnVerify_nil_iff (fn : Nat) (cb : CBCHBlock) :
    fCbchFnVerify fn cb = [] ↔ SlotAllowed (fCbchFn2tb fn) cb.blockType.seqNr
      ∧ (cb.blockType.seqNr = 8 → fCbchFn2tb fn ≠ 4) := by
  rw [fCbchFnVerify, SlotAllowed]
  generalize cb.blockType.seqNr = seqNr
  generalize fCbchFn2tb fn = tb
  have height : seqNr = 8 ↔ seqNr.val = 8 := Fin.ext_iff
  rw [height]
  show (if seqNr.val = 15 then _ else _) = _ ↔ _
  by_cases hnull : seqNr.val = 15
  · rw [if_pos hnull]
    exact iff_of_true rfl ⟨⟨fun h => by omega, fun h => by omega⟩, fun h => by omega⟩
  rw [if_neg hnull]
  by_cases hsched : seqNr.val = 8
  · rw [if_pos hsched]
    by_cases htb : tb = 0
    · rw [if_neg (not_not.mpr htb)]
      exact iff_of_true rfl ⟨⟨fun h => by omega, fun _ => Or.inl htb⟩, fun _ => by omega⟩
    · rw [if_pos htb]
      refine iff_of_false (List.cons_ne_nil _ _) (fun h => ?_)
      have h4 := h.1.2 hsched
      have hne := h.2 hsched
      omega
  rw [if_neg hsched]
  by_cases hlt : seqNr.val < 4
  · rw [if_pos hlt]
    by_cases htb : seqNr.val ≠ tb ∧ seqNr.val + 4 ≠ tb
    · rw [if_pos htb]
      refine iff_of_false (List.cons_ne_nil _ _) (fun h => ?_)
      have hor := h.1.1 hlt
      omega
    · rw [if_neg htb]
      exact iff_of_true rfl ⟨⟨fun _ => by omega, fun h => by omega⟩, fun h => by omega⟩
  · rw [if_neg hlt]
    exact iff_of_true rfl ⟨⟨fun h => absurd h hlt, fun h => by omega⟩, fun h => by omega⟩

-- ── The configured messages ──────────────────────────────────────────────────

/-- Block `j` of the payload with its number and the mark of the last one. -/
def airAt (msg : CbchTestMsg) (j : Nat) : Option CBCHBlock :=
  (payloadAt msg.payload j).toOption.map (fun payload =>
    ⟨⟨false, 1, decide (j = msg.lastBlock.val), blockSeqNr msg j⟩, payload⟩)

/-- A message as it is sent. -/
def CbchTestMsg.air (msg : CbchTestMsg) : Air :=
  fun j => if j < msg.lastBlock.val + 1 then airAt msg j else none

/-- What the parameters say of a channel. -/
def CbchTestParsChan.expected (pars : CbchTestParsChan) : Expected :=
  ⟨pars.msgs.map CbchTestMsg.air, pars.defaultMsg.map CbchTestMsg.air⟩

/-- The payload has as many blocks as the message says. -/
def CbchTestMsg.Whole (msg : CbchTestMsg) : Prop :=
  22 * (msg.lastBlock.val + 1) ≤ msg.payload.length

/-- Every message of a channel has all of its payload. -/
def CbchTestParsChan.Whole (pars : CbchTestParsChan) : Prop :=
  (∀ msg ∈ pars.msgs, msg.Whole) ∧ ∀ msg ∈ pars.defaultMsg, msg.Whole

/-- Every message has all of its payload. -/
def CbchTestPars.Whole (pars : CbchTestPars) : Prop :=
  pars.basic.Whole ∧ ∀ ext ∈ pars.extended, ext.Whole

/-- The blocks of a message are cut out of its payload. -/
theorem compLoop_ok {msg : CbchTestMsg} : ∀ (rounds i : Nat),
    22 * (i + rounds) ≤ msg.payload.length →
    ∃ blocks, compLoop msg rounds i = .ok blocks ∧ Fresh blocks
      ∧ ∀ k, air blocks k = if k < rounds then airAt msg (i + k) else none := by
  intro rounds
  induction rounds with
  | zero =>
      intro i _
      refine ⟨[], rfl, fun j b hj => ?_, fun k => rfl⟩
      cases hj
  | succ rounds ih =>
      intro i hlen
      obtain ⟨blocks, hloop, hfresh, hair⟩ := ih (i + 1) (by omega)
      obtain ⟨payload, hpayload⟩ : ∃ payload, payloadAt msg.payload i = .ok payload :=
        ⟨_, dif_pos (by omega)⟩
      refine ⟨⟨blockSeqNr msg i, decide (i = msg.lastBlock.val), payload, false⟩ :: blocks,
        ?_, ?_, ?_⟩
      · rw [compLoop, compBlock, hpayload]
        show (compLoop msg rounds (i + 1)).map _ = _
        rw [hloop]
        rfl
      · rintro j b hj
        cases j with
        | zero =>
            rw [← Option.some.inj hj]
        | succ j => exact hfresh j b hj
      · rintro k
        cases k with
        | zero =>
            rw [if_pos (Nat.succ_pos rounds), Nat.add_zero, airAt, hpayload]
            rfl
        | succ k =>
            show air blocks k = _
            rw [hair]
            have hidx : i + (k + 1) = i + 1 + k := by omega
            rw [hidx]
            by_cases hk : k < rounds
            · rw [if_pos hk, if_pos (Nat.succ_lt_succ hk)]
            · rw [if_neg hk, if_neg (fun h => hk (Nat.lt_of_succ_lt_succ h))]

/-- **THE BLOCKS OF A MESSAGE** are as it is sent, and not seen. -/
theorem fCompBlocks_ok {msg : CbchTestMsg} (h : msg.Whole) :
    ∃ blocks, fCompBlocks msg = .ok blocks ∧ Fresh blocks ∧ air blocks = msg.air := by
  obtain ⟨blocks, hloop, hfresh, hair⟩ := @compLoop_ok msg (msg.lastBlock.val + 1) 0
    (by rw [Nat.zero_add]; exact h)
  refine ⟨blocks, hloop, hfresh, funext fun k => ?_⟩
  rw [hair, Nat.zero_add]
  rfl

/-- So it is for a list of messages. -/
theorem compMsgs_ok : ∀ {msgs : List CbchTestMsg}, (∀ msg ∈ msgs, msg.Whole) →
    ∃ bs, compMsgs msgs = .ok bs ∧ (∀ blocks ∈ bs, Fresh blocks)
      ∧ bs.map air = msgs.map CbchTestMsg.air := by
  intro msgs
  induction msgs with
  | nil => exact fun _ => ⟨[], rfl, fun blocks h => absurd h List.not_mem_nil, rfl⟩
  | cons msg msgs ih =>
      intro h
      obtain ⟨hmsg, hmsgs⟩ := List.forall_mem_cons.mp h
      obtain ⟨blocks, hblocks, hfresh, hair⟩ := fCompBlocks_ok hmsg
      obtain ⟨bs, hbs, hfreshs, hairs⟩ := ih hmsgs
      refine ⟨blocks :: bs, ?_, List.forall_mem_cons.mpr ⟨hfresh, hfreshs⟩, ?_⟩
      · rw [compMsgs, hblocks]
        show (compMsgs msgs).map _ = _
        rw [hbs]
        rfl
      · rw [List.map_cons, List.map_cons, hair, hairs]

/-- What a channel is expected to send is what the parameters say. -/
theorem computeChan_ok {pars : CbchTestParsChan} (h : pars.Whole) :
    ∃ chan, fCbchComputeExpBlocksChan pars = .ok chan ∧ ChanFresh chan
      ∧ chan.expected = pars.expected := by
  obtain ⟨bs, hbs, hfresh, hairs⟩ := compMsgs_ok h.1
  rw [fCbchComputeExpBlocksChan, hbs, CbchTestParsChan.expected, ← hairs]
  cases hdflt : pars.defaultMsg with
  | none =>
      refine ⟨⟨bs, none⟩, rfl, ⟨hfresh, fun blocks hb => ?_⟩, rfl⟩
      cases hb
  | some msg =>
      obtain ⟨blocks, hblocks, hfreshd, hair⟩ := fCompBlocks_ok (h.2 msg hdflt)
      refine ⟨⟨bs, some blocks⟩, ?_, ⟨hfresh, fun blocks' hb => ?_⟩, ?_⟩
      · show (fCompBlocks msg).map _ = _
        rw [hblocks]
        rfl
      · rw [← Option.some.inj hb]
        exact hfreshd
      · exact congrArg (fun a => Expected.mk (bs.map air) (some a)) hair

/-- **THE CONFIGURATION** is computed, with nothing seen. -/
theorem compute_ok {pars : CbchTestPars} (h : pars.Whole) :
    ∃ b, fCbchComputeExpBlocks pars = .ok b ∧ ChanFresh b.basic
      ∧ (∀ ext ∈ b.extended, ChanFresh ext) ∧ b.basic.expected = pars.basic.expected
      ∧ b.extended.map ChanBlocks.expected
        = pars.extended.map CbchTestParsChan.expected := by
  obtain ⟨basic, hbasic, hfresh, hexpected⟩ := computeChan_ok h.1
  rw [fCbchComputeExpBlocks, hbasic]
  cases hext : pars.extended with
  | none =>
      refine ⟨⟨basic, none⟩, rfl, hfresh, fun ext hmem => ?_, hexpected, rfl⟩
      cases hmem
  | some ext =>
      obtain ⟨chan, hchan, hfreshe, hexpectede⟩ := computeChan_ok (h.2 ext hext)
      refine ⟨⟨basic, some chan⟩, ?_, hfresh, fun ext' hmem => ?_, hexpected, ?_⟩
      · show (fCbchComputeExpBlocksChan ext).map _ = _
        rw [hchan]
        rfl
      · rw [← Option.some.inj hmem]
        exact hfreshe
      · exact congrArg some hexpectede

-- ── The verdict ──────────────────────────────────────────────────────────────

/-- **WHAT WAS RECEIVED IS RIGHT**: every block is at a place that its sequence number
    allows, and what arrives on each channel that is configured is right. -/
structure Right (pars : CbchTestPars) (rxs : List Rx) : Prop where
  slots : ∀ rx ∈ rxs, SlotAllowed (fCbchFn2tb rx.1) rx.2.blockType.seqNr
  basic : Arrived pars.basic.expected (basicRx rxs)
  extended : ∀ ext ∈ pars.extended, Arrived ext.expected (extendedRx rxs)

/-- The blocks that are expected on each channel differ. -/
def BlocksDiffer (pars : CbchTestPars) : Prop :=
  Distinct pars.basic.expected ∧ ∀ ext ∈ pars.extended, Distinct ext.expected

/-- No schedule block is received at the first place of the extended channel. -/
def NoScheduleAt4 (rxs : List Rx) : Prop :=
  ∀ rx ∈ rxs, rx.2.blockType.seqNr = 8 → fCbchFn2tb rx.1 ≠ 4

instance (rxs : List Rx) : Decidable (NoScheduleAt4 rxs) :=
  inferInstanceAs (Decidable (∀ rx ∈ rxs, rx.2.blockType.seqNr = 8 → fCbchFn2tb rx.1 ≠ 4))

/-- **EXACTLY WHEN** no check fails. -/
theorem noFailure_iff {pars : CbchTestPars} {b : CbchBlocksOf} (hfresh : ChanFresh b.basic)
    (hfreshe : ∀ ext ∈ b.extended, ChanFresh ext)
    (hbasic : b.basic.expected = pars.basic.expected)
    (hext : b.extended.map ChanBlocks.expected = pars.extended.map CbchTestParsChan.expected)
    (rxs : List Rx) :
    NoFailure b rxs ↔ Right pars rxs ∧ BlocksDiffer pars ∧ NoScheduleAt4 rxs := by
  -- what holds of the channel with its blocks holds of the configured one
  have hiff : ∀ P : Expected → Prop, (∀ ext ∈ b.extended, P ext.expected)
      ↔ ∀ ext ∈ pars.extended, P ext.expected := by
    intro P
    constructor
    · intro h ext hmem
      have hmap : ext.expected ∈ b.extended.map ChanBlocks.expected := by
        rw [hext]
        exact Option.mem_map_of_mem _ hmem
      obtain ⟨chan, hchan, heq⟩ := Option.map_eq_some_iff.mp hmap
      rw [← heq]
      exact h chan hchan
    · intro h chan hchan
      have hmap : chan.expected ∈ pars.extended.map CbchTestParsChan.expected := by
        rw [← hext]
        exact Option.mem_map_of_mem _ hchan
      obtain ⟨ext, hmem, heq⟩ := Option.map_eq_some_iff.mp hmap
      rw [← heq]
      exact h ext hmem
  have hchan : (∀ ext ∈ b.extended, ChanOk ext (extendedRx rxs))
      ↔ ∀ ext ∈ pars.extended, Arrived ext.expected (extendedRx rxs) ∧ Distinct ext.expected := by
    rw [← hiff (fun e => Arrived e (extendedRx rxs) ∧ Distinct e)]
    exact forall₂_congr (fun ext hmem => chanOk_iff (hfreshe ext hmem) _)
  rw [noFailure_iff_chanOk, hchan, chanOk_iff hfresh, hbasic]
  constructor
  · rintro ⟨hverify, ⟨harrived, hdistinct⟩, he⟩
    have hslots := fun rx hmem => (fnVerify_nil_iff rx.1 rx.2).mp (hverify rx hmem)
    exact ⟨⟨fun rx hmem => (hslots rx hmem).1, harrived, fun ext hmem => (he ext hmem).1⟩,
      ⟨hdistinct, fun ext hmem => (he ext hmem).2⟩, fun rx hmem => (hslots rx hmem).2⟩
  · rintro ⟨⟨hslots, harrived, he⟩, ⟨hdistinct, hde⟩, h4⟩
    exact ⟨fun rx hmem => (fnVerify_nil_iff rx.1 rx.2).mpr ⟨hslots rx hmem, h4 rx hmem⟩,
      ⟨harrived, hdistinct⟩, fun ext hmem => ⟨he ext hmem, hde ext hmem⟩⟩

/-- **THE VERDICT** for parameters without a fault. -/
theorem noFailure_of_whole {pars : CbchTestPars} (hwhole : pars.Whole) :
    ∃ b, fCbchComputeExpBlocks pars = .ok b
      ∧ ∀ rxs, NoFailure b rxs ↔ Right pars rxs ∧ BlocksDiffer pars ∧ NoScheduleAt4 rxs := by
  obtain ⟨b, hb, hfresh, hfreshe, hbasic, hext⟩ := compute_ok hwhole
  exact ⟨b, hb, noFailure_iff hfresh hfreshe hbasic hext⟩

/-- The messages of a channel in another order. -/
def ChanReordered (c c' : CbchTestParsChan) : Prop :=
  c.msgs.Perm c'.msgs ∧ c.defaultMsg = c'.defaultMsg

/-- The same messages in another order, on each channel. -/
def Reordered (pars pars' : CbchTestPars) : Prop :=
  ChanReordered pars.basic pars'.basic
    ∧ Option.Rel ChanReordered pars.extended pars'.extended

/-- The order can be changed back. -/
theorem ChanReordered.symm {c c' : CbchTestParsChan} (h : ChanReordered c c') :
    ChanReordered c' c := ⟨h.1.symm, h.2.symm⟩

/-- The order can be changed back on both channels. -/
theorem Reordered.symm {pars pars' : CbchTestPars} (h : Reordered pars pars') :
    Reordered pars' pars := by
  obtain ⟨hbasic, hext⟩ := h
  refine ⟨hbasic.symm, ?_⟩
  generalize pars.extended = o at hext ⊢
  generalize pars'.extended = o' at hext ⊢
  cases hext with
  | some hc => exact .some hc.symm
  | none => exact .none

/-- What has arrived does not depend on the order. -/
theorem Arrived.reordered {c c' : CbchTestParsChan} {l : List (Nat × CBCHBlock)}
    (hc : ChanReordered c c') (h : Arrived c.expected l) : Arrived c'.expected l := by
  have hmem : ∀ m, m ∈ c'.expected.msgs ↔ m ∈ c.expected.msgs :=
    fun m => (hc.1.map CbchTestMsg.air).mem_iff.symm
  have hdflt : c'.expected.dflt = c.expected.dflt :=
    congrArg (Option.map CbchTestMsg.air) hc.2.symm
  refine ⟨fun m hm => h.once m ((hmem m).mp hm), fun d hd => h.dflt d (by rw [← hdflt]; exact hd),
    fun p hp => ?_⟩
  rw [hdflt]
  rcases h.other p hp with ⟨m, hm, hb⟩ | hother
  · exact Or.inl ⟨m, (hmem m).mpr hm, hb⟩
  · exact Or.inr hother

/-- Nor does whether blocks differ. -/
theorem Distinct.reordered {c c' : CbchTestParsChan} (hc : ChanReordered c c')
    (h : Distinct c.expected) : Distinct c'.expected := by
  intro j
  have hdflt : c'.expected.dflt = c.expected.dflt :=
    congrArg (Option.map CbchTestMsg.air) hc.2.symm
  have hperm : (c.expected.msgs ++ c.expected.dflt.toList).Perm
      (c'.expected.msgs ++ c'.expected.dflt.toList) := by
    rw [hdflt]
    exact (hc.1.map CbchTestMsg.air).append_right _
  exact (hperm.filterMap (fun m => m j)).nodup_iff.mp (h j)

/-- **THE ORDER OF THE MESSAGES** does not matter for what is right. -/
theorem right_reordered {pars pars' : CbchTestPars} {rxs : List Rx} (h : Reordered pars pars')
    (hright : Right pars rxs ∧ BlocksDiffer pars) : Right pars' rxs ∧ BlocksDiffer pars' := by
  obtain ⟨hbasic, hext⟩ := h
  obtain ⟨hr, hdistinct, hde⟩ := hright
  have hchan : ∀ ext' ∈ pars'.extended,
      Arrived ext'.expected (extendedRx rxs) ∧ Distinct ext'.expected := by
    have hre := hr.extended
    generalize pars.extended = o at hext hre hde
    generalize pars'.extended = o' at hext
    cases hext with
    | some hc =>
        intro ext' hmem
        rw [← Option.some.inj hmem]
        exact ⟨(hre _ rfl).reordered hc, (hde _ rfl).reordered hc⟩
    | none =>
        intro ext' hmem
        cases hmem
  exact ⟨⟨hr.slots, hr.basic.reordered hbasic, fun ext hmem => (hchan ext hmem).1⟩,
    hdistinct.reordered hbasic, fun ext hmem => (hchan ext hmem).2⟩

/-- Nor does whether the payload is there. -/
theorem CbchTestPars.Whole.reordered {pars pars' : CbchTestPars} (h : Reordered pars pars')
    (hw : pars.Whole) : pars'.Whole := by
  have hchan : ∀ {c c' : CbchTestParsChan}, ChanReordered c c' → c.Whole → c'.Whole := by
    rintro c c' ⟨hperm, hdflt⟩ ⟨hmsgs, hd⟩
    refine ⟨fun msg hmem => hmsgs msg (hperm.mem_iff.mpr hmem), ?_⟩
    rw [← hdflt]
    exact hd
  obtain ⟨hbasic, hext⟩ := h
  refine ⟨hchan hbasic hw.1, ?_⟩
  have hwe := hw.2
  generalize pars.extended = o at hext hwe
  generalize pars'.extended = o' at hext ⊢
  cases hext with
  | some hc =>
      intro ext' hmem
      rw [← Option.some.inj hmem]
      exact hchan hc (hwe _ rfl)
  | none =>
      intro ext' hmem
      cases hmem

/-- **THE MATCHING ENGINE**: with messages whose payload is there, the blocks are
    computed; where the blocks of a channel differ and no schedule block is received
    at TB 4, no check fails if and only if what was received is right; and whether
    one fails does not depend on the order of the messages. -/
theorem cbch_verdict {pars : CbchTestPars} (hwhole : pars.Whole) :
    ∃ b, fCbchComputeExpBlocks pars = .ok b
      ∧ (∀ rxs, BlocksDiffer pars → NoScheduleAt4 rxs → (NoFailure b rxs ↔ Right pars rxs))
      ∧ ∀ pars', Reordered pars pars' → ∃ b', fCbchComputeExpBlocks pars' = .ok b'
        ∧ ∀ rxs, (NoFailure b' rxs ↔ NoFailure b rxs) := by
  obtain ⟨b, hb, hexact⟩ := noFailure_of_whole hwhole
  refine ⟨b, hb, fun rxs hdiffer h4 => ?_, fun pars' hpars => ?_⟩
  · rw [hexact]
    exact and_iff_left ⟨hdiffer, h4⟩
  · obtain ⟨b', hb', hexact'⟩ := noFailure_of_whole (hwhole.reordered hpars)
    refine ⟨b', hb', fun rxs => ?_⟩
    rw [hexact', hexact, ← and_assoc, ← and_assoc]
    exact and_congr ⟨right_reordered hpars.symm, right_reordered hpars⟩ Iff.rfl

-- ── Messages of one block ────────────────────────────────────────────────────

/-- A message of one block. -/
def oneBlock (cmd : RslCbCommand) (o : UInt8) : CbchTestMsg := ⟨cmd, 0, List.replicate 22 o⟩

/-- A block as it is sent. -/
def blockOf (seqNr : Fin 16) (o : UInt8) : CBCHBlock :=
  ⟨⟨false, 1, true, seqNr⟩, ⟨List.replicate 22 o, List.length_replicate⟩⟩

/-- The number of a first block. -/
def seqOf (cmd : RslCbCommand) : Fin 16 := if cmd = .schedule then 8 else 0

theorem oneBlock_whole (cmd : RslCbCommand) (o : UInt8) : (oneBlock cmd o).Whole :=
  Nat.le_of_eq List.length_replicate.symm

/-- It sends its block at the first place. -/
theorem air_oneBlock {cmd : RslCbCommand} {o : UInt8} {j : Nat} {b : CBCHBlock} :
    (oneBlock cmd o).air j = some b ↔ j = 0 ∧ b = blockOf (seqOf cmd) o := by
  cases j with
  | zero =>
      have hzero : (oneBlock cmd o).air 0 = some (blockOf (seqOf cmd) o) := by
        cases cmd <;> rfl
      rw [hzero, Option.some.injEq]
      exact ⟨fun h => ⟨rfl, h.symm⟩, fun h => h.2.symm⟩
  | succ j =>
      have hnone : (oneBlock cmd o).air (j + 1) = none :=
        if_neg (fun h => absurd (Nat.lt_of_succ_lt_succ h) (Nat.not_lt_zero j))
      rw [hnone]
      constructor
      · intro h
        cases h
      · rintro ⟨h, -⟩
        cases h

/-- A message and a default message. -/
def withDefault : CbchTestPars := ⟨⟨[oneBlock .normal 1], some (oneBlock .default 2)⟩, none⟩

theorem withDefault_whole : withDefault.Whole := by
  refine ⟨⟨fun msg hmem => ?_, fun msg hmem => ?_⟩, fun ext hmem => ?_⟩
  · rw [List.mem_singleton.mp hmem]
    exact oneBlock_whole _ _
  · rw [← Option.some.inj hmem]
    exact oneBlock_whole _ _
  · cases hmem

-- ── Messages of several blocks ───────────────────────────────────────────────

/-- What is to be shown of each block of a message has four places. -/
theorem forall_air {msg : CbchTestMsg} {P : Nat → CBCHBlock → Prop}
    (h : ∀ j : Fin 4, ∀ b ∈ msg.air j, P j b) : ∀ j b, msg.air j = some b → P j b := by
  intro j b hb
  have hlt : j < msg.lastBlock.val + 1 := by
    by_contra hge
    rw [CbchTestMsg.air, if_neg hge] at hb
    cases hb
  exact h ⟨j, Nat.lt_of_lt_of_le hlt msg.lastBlock.isLt⟩ b hb

/-- Blocks are compared at four places. -/
theorem distinct_of_places {chan : CbchTestParsChan} (h : ∀ j : Fin 4,
    ((chan.expected.msgs ++ chan.expected.dflt.toList).filterMap (fun m => m j)).Nodup) :
    Distinct chan.expected := by
  intro j
  by_cases hj : j < 4
  · exact h ⟨j, hj⟩
  · have hnone : (chan.expected.msgs ++ chan.expected.dflt.toList).filterMap (fun m => m j)
        = [] := by
      refine List.filterMap_eq_nil_iff.mpr (fun m hm => ?_)
      have hair : ∃ msg : CbchTestMsg, msg.air = m := by
        rcases List.mem_append.mp hm with hm | hm
        · obtain ⟨msg, -, hmsg⟩ := List.mem_map.mp hm
          exact ⟨msg, hmsg⟩
        · obtain ⟨msg, -, hmsg⟩ := Option.map_eq_some_iff.mp (Option.mem_toList.mp hm)
          exact ⟨msg, hmsg⟩
      obtain ⟨msg, rfl⟩ := hair
      refine Option.eq_none_iff_forall_ne_some.mpr (fun b hb => hj ?_)
      exact forall_air (P := fun j _ => j < 4) (fun j _ _ => j.isLt) j b hb
    rw [hnone]
    exact List.nodup_nil

/-- A message whose blocks are filled with these octets. -/
def filled (cmd : RslCbCommand) (lastBlock : Fin 4) (os : List UInt8) : CbchTestMsg :=
  ⟨cmd, lastBlock, os.flatMap (List.replicate 22)⟩

/-- A block of such a message. -/
def filledBlock (isLast : Bool) (seqNr : Fin 16) (o : UInt8) : CBCHBlock :=
  ⟨⟨false, 1, isLast, seqNr⟩, ⟨List.replicate 22 o, List.length_replicate⟩⟩

/-- A schedule message of two blocks and a message of three on the basic channel,
    which has a default message, and a message of two on the extended one. -/
def bothChannels : CbchTestPars where
  basic := ⟨[filled .schedule 1 [1, 2], filled .normal 2 [3, 4, 5]],
    some (filled .default 0 [6])⟩
  extended := some ⟨[filled .normal 1 [7, 8]], none⟩

/-- Two multiframes: the schedule and a NULL block before the message of the
    extended channel, then the other message, and the default message. -/
def twoMultiframes : List Rx :=
  [(0, filledBlock false 8 1), (51, filledBlock true 1 2), (153, filledBlock true 15 0),
   (204, filledBlock false 0 7), (255, filledBlock true 1 8), (408, filledBlock false 0 3),
   (459, filledBlock false 1 4), (510, filledBlock true 2 5), (816, filledBlock true 0 6)]

theorem bothChannels_whole : bothChannels.Whole := by
  refine ⟨⟨?_, ?_⟩, ?_⟩
  · exact (by decide : ∀ msg ∈ bothChannels.basic.msgs,
      22 * (msg.lastBlock.val + 1) ≤ msg.payload.length)
  · exact (by decide : ∀ msg ∈ bothChannels.basic.defaultMsg,
      22 * (msg.lastBlock.val + 1) ≤ msg.payload.length)
  · rintro ext hext
    rw [← Option.some.inj hext]
    refine ⟨?_, nofun⟩
    exact (by decide : ∀ msg ∈ [filled .normal 1 [7, 8]],
      22 * (msg.lastBlock.val + 1) ≤ msg.payload.length)

/-- No two blocks of one place are the same. -/
theorem bothChannels_differ : BlocksDiffer bothChannels := by
  refine ⟨distinct_of_places (by decide +kernel), fun ext hext => ?_⟩
  rw [← Option.some.inj hext]
  exact distinct_of_places (by decide +kernel)

/-- Every block came in its slot. -/
theorem bothChannels_right : Right bothChannels twoMultiframes := by
  refine ⟨by decide +kernel, ⟨?_, ?_, by decide +kernel⟩, fun ext hext => ?_⟩
  · intro m hm
    rcases List.mem_cons.mp hm with rfl | hm
    · exact forall_air (by decide +kernel)
    · rw [List.mem_singleton.mp hm]
      exact forall_air (by decide +kernel)
  · intro d hd
    rw [← Option.some.inj hd]
    exact forall_air (by decide +kernel)
  · rw [← Option.some.inj hext]
    refine ⟨fun m hm => ?_, nofun, by decide +kernel⟩
    rw [List.mem_singleton.mp hm]
    exact forall_air (by decide +kernel)

/-- **TWO CHANNELS**, with a schedule and messages of several blocks. -/
theorem cbch_verdict_bothChannels : ∃ b, fCbchComputeExpBlocks bothChannels = .ok b
    ∧ NoFailure b twoMultiframes := by
  obtain ⟨b, hb, hverdict, -⟩ := cbch_verdict bothChannels_whole
  exact ⟨b, hb, (hverdict _ bothChannels_differ (by decide +kernel)).mpr bothChannels_right⟩

-- ── A channel taken more simply ──────────────────────────────────────────────

/-- Each block of a message once for each message that has it, and everything else a
    block of the default message or a NULL block, whatever the place. -/
structure PlainArrived (e : Expected) (l : List (Nat × CBCHBlock)) : Prop where
  once : ∀ m ∈ e.msgs, ∀ j b, m j = some b →
    l.count (j, b) = (e.msgs.filter (fun m => m j = some b)).length
  dflt : ∀ d ∈ e.dflt, ∀ j b, d j = some b → (j, b) ∈ l
  other : ∀ p ∈ l, (∃ m ∈ e.msgs, m p.1 = some p.2) ∨ (∃ d ∈ e.dflt, d p.1 = some p.2)
    ∨ IsNull p.2

/-- On both channels, of which the extended one has no messages if it is not
    configured. -/
structure PlainRight (pars : CbchTestPars) (rxs : List Rx) : Prop where
  slots : ∀ rx ∈ rxs, SlotAllowed (fCbchFn2tb rx.1) rx.2.blockType.seqNr
  basic : PlainArrived pars.basic.expected (basicRx rxs)
  extended : PlainArrived ((pars.extended.map CbchTestParsChan.expected).getD ⟨[], none⟩)
    (extendedRx rxs)

/-- Where nothing is expected nothing has to arrive. -/
theorem plainArrived_nil : PlainArrived ⟨[], none⟩ [] where
  once := fun m hm => absurd hm List.not_mem_nil
  dflt := by
    intro d hd
    cases hd
  other := fun p hp => absurd hp List.not_mem_nil

/-- Messages of one block, all the same. -/
theorem plainArrived_same {cmd : RslCbCommand} {o : UInt8} {n : Nat}
    {l : List (Nat × CBCHBlock)} (hl : l = List.replicate n (0, blockOf (seqOf cmd) o)) :
    PlainArrived (CbchTestParsChan.expected ⟨List.replicate n (oneBlock cmd o), none⟩) l := by
  have hmsgs : (CbchTestParsChan.expected ⟨List.replicate n (oneBlock cmd o), none⟩).msgs
      = List.replicate n (oneBlock cmd o).air := List.map_replicate
  refine ⟨?_, ?_, ?_⟩
  · intro m hm j b hb
    rw [hmsgs] at hm ⊢
    rw [List.eq_of_mem_replicate hm] at hb
    obtain ⟨rfl, rfl⟩ := air_oneBlock.mp hb
    rw [hl, List.count_replicate_self, List.filter_replicate, if_pos (decide_eq_true hb),
      List.length_replicate]
  · intro d hd
    cases hd
  · intro p hp
    rw [hl] at hp
    have hn : n ≠ 0 := (List.mem_replicate.mp hp).1
    rw [List.eq_of_mem_replicate hp]
    refine Or.inl ⟨(oneBlock cmd o).air, ?_, air_oneBlock.mpr ⟨rfl, rfl⟩⟩
    rw [hmsgs]
    exact List.mem_replicate.mpr ⟨hn, rfl⟩

/-- A NULL block. -/
def nullBlock : CBCHBlock := blockOf 15 0

/-- A run that the plain reading calls right. -/
theorem withDefault_plain :
    PlainRight withDefault [(0, blockOf 0 1), (408, blockOf 0 2), (816, nullBlock)] := by
  refine ⟨by decide +kernel, ⟨?_, ?_, ?_⟩, plainArrived_nil⟩
  · intro m hm j b hb
    rw [List.mem_singleton.mp hm] at hb
    obtain ⟨rfl, rfl⟩ := air_oneBlock.mp hb
    decide +kernel
  · intro d hd j b hb
    rw [← Option.some.inj hd] at hb
    obtain ⟨rfl, rfl⟩ := air_oneBlock.mp hb
    decide +kernel
  · intro p hp
    rcases List.mem_cons.mp hp with rfl | hp
    · exact Or.inl ⟨_, List.mem_singleton.mpr rfl, air_oneBlock.mpr ⟨rfl, rfl⟩⟩
    rcases List.mem_cons.mp hp with rfl | hp
    · exact Or.inr (Or.inl ⟨_, rfl, air_oneBlock.mpr ⟨rfl, rfl⟩⟩)
    · rw [List.mem_singleton.mp hp]
      exact Or.inr (Or.inr ⟨rfl, rfl, rfl⟩)

/-- Nothing on the basic channel, and messages of one block on the extended one. -/
def onExtended (cmd : RslCbCommand) : CbchTestPars :=
  ⟨⟨[], none⟩, some ⟨[oneBlock cmd 1], none⟩⟩

/-- Parameters without a message. -/
def nothingConfigured : CbchTestPars := ⟨⟨[], none⟩, none⟩

/-- Parameters with the same message twice. -/
def twice : CbchTestPars := ⟨⟨[oneBlock .normal 1, oneBlock .normal 1], none⟩, none⟩

theorem onExtended_whole (cmd : RslCbCommand) : (onExtended cmd).Whole := by
  refine ⟨⟨fun msg hmem => absurd hmem List.not_mem_nil, fun msg hmem => ?_⟩,
    fun ext hext => ⟨fun msg hmem => ?_, fun msg hmem => ?_⟩⟩
  · cases hmem
  · rw [← Option.some.inj hext] at hmem
    rw [List.mem_singleton.mp hmem]
    exact oneBlock_whole _ _
  · rw [← Option.some.inj hext] at hmem
    cases hmem

/-- Messages on the basic channel only. -/
theorem basicOnly_whole {msgs : List CbchTestMsg} (h : ∀ msg ∈ msgs, msg.Whole) :
    CbchTestPars.Whole ⟨⟨msgs, none⟩, none⟩ := by
  refine ⟨⟨h, fun msg hmem => ?_⟩, fun ext hext => ?_⟩
  · cases hmem
  · cases hext

/-- A NULL block where the default message has one. -/
theorem null_for_default : ∃ b, fCbchComputeExpBlocks withDefault = .ok b
    ∧ ¬ NoFailure b [(0, blockOf 0 1), (408, blockOf 0 2), (816, nullBlock)] := by
  obtain ⟨b, hb, hexact⟩ := noFailure_of_whole withDefault_whole
  refine ⟨b, hb, fun hno => ?_⟩
  obtain ⟨hright, -⟩ := (hexact _).mp hno
  rcases hright.basic.other (0, nullBlock) (by decide +kernel) with ⟨m, hm, hb⟩ | hother
  · rw [List.mem_singleton.mp hm] at hb
    exact absurd (air_oneBlock.mp hb).2 (by decide +kernel)
  · exact absurd (show nullBlock = blockOf 0 2 from hother) (by decide +kernel)

/-- Blocks of an extended channel that is not configured. -/
theorem extended_ignored : ∃ b, fCbchComputeExpBlocks nothingConfigured = .ok b
    ∧ NoFailure b [(204, blockOf 0 1)]
    ∧ ¬ PlainRight nothingConfigured [(204, blockOf 0 1)] := by
  obtain ⟨b, hb, hexact⟩ := noFailure_of_whole
    (basicOnly_whole (fun msg hmem => absurd hmem List.not_mem_nil))
  refine ⟨b, hb, (hexact _).mpr ⟨⟨by decide +kernel, ?_, ?_⟩, ⟨?_, ?_⟩, by decide +kernel⟩, ?_⟩
  · refine ⟨fun m hm => absurd hm List.not_mem_nil, fun d hd => ?_,
      fun p hp => absurd hp List.not_mem_nil⟩
    cases hd
  · intro ext hext
    cases hext
  · exact fun _ => List.nodup_nil
  · intro ext hext
    cases hext
  · intro hplain
    rcases hplain.extended.other (0, blockOf 0 1) (by decide +kernel) with
      ⟨m, hm, -⟩ | ⟨d, hd, -⟩ | hnull
    · exact absurd hm List.not_mem_nil
    · cases hd
    · exact absurd hnull.2.2 (by decide +kernel)

/-- A schedule message on the extended channel. -/
theorem extended_schedule : ∃ b, fCbchComputeExpBlocks (onExtended .schedule) = .ok b
    ∧ PlainRight (onExtended .schedule) [(204, blockOf 8 1)]
    ∧ ¬ NoFailure b [(204, blockOf 8 1)] := by
  obtain ⟨b, hb, hexact⟩ := noFailure_of_whole (onExtended_whole .schedule)
  refine ⟨b, hb, ⟨by decide +kernel, plainArrived_nil, ?_⟩, fun hno => ?_⟩
  · exact @plainArrived_same .schedule 1 1 _ (by decide +kernel)
  · exact absurd ((hexact _).mp hno).2.2 (by decide +kernel)

/-- Two messages that are the same. -/
theorem same_twice : ∃ b, fCbchComputeExpBlocks twice = .ok b
    ∧ PlainRight twice [(0, blockOf 0 1), (408, blockOf 0 1)]
    ∧ ¬ NoFailure b [(0, blockOf 0 1), (408, blockOf 0 1)] := by
  have hwhole : ∀ msg ∈ [oneBlock .normal 1, oneBlock .normal 1], msg.Whole := by
    intro msg hmem
    rw [List.eq_of_mem_replicate (show msg ∈ List.replicate 2 (oneBlock .normal 1) from hmem)]
    exact oneBlock_whole _ _
  obtain ⟨b, hb, hexact⟩ := noFailure_of_whole (basicOnly_whole hwhole)
  refine ⟨b, hb, ⟨by decide +kernel, ?_, plainArrived_nil⟩, fun hno => ?_⟩
  · exact @plainArrived_same .normal 1 2 _ (by decide +kernel)
  · have hnodup := ((hexact _).mp hno).2.1.1 0
    exact absurd hnodup (by decide +kernel)

/-- **NOT SO SIMPLE**: with a default message, a NULL block at its place is refused;
    blocks of an extended channel that is not configured are ignored; a schedule
    message on the extended channel is refused; and of two messages that are the same
    the second one is never seen. -/
theorem cbch_not_plain :
    (PlainRight withDefault [(0, blockOf 0 1), (408, blockOf 0 2), (816, nullBlock)]
      ∧ ∃ b, fCbchComputeExpBlocks withDefault = .ok b
        ∧ ¬ NoFailure b [(0, blockOf 0 1), (408, blockOf 0 2), (816, nullBlock)])
    ∧ (∃ b, fCbchComputeExpBlocks nothingConfigured = .ok b
        ∧ NoFailure b [(204, blockOf 0 1)]
        ∧ ¬ PlainRight nothingConfigured [(204, blockOf 0 1)])
    ∧ (∃ b, fCbchComputeExpBlocks (onExtended .schedule) = .ok b
        ∧ PlainRight (onExtended .schedule) [(204, blockOf 8 1)]
        ∧ ¬ NoFailure b [(204, blockOf 8 1)])
    ∧ ∃ b, fCbchComputeExpBlocks twice = .ok b
        ∧ PlainRight twice [(0, blockOf 0 1), (408, blockOf 0 1)]
        ∧ ¬ NoFailure b [(0, blockOf 0 1), (408, blockOf 0 1)] :=
  ⟨⟨withDefault_plain, null_for_default⟩, extended_ignored, extended_schedule, same_twice⟩

end OsmoCbch
