import OsmoTtcn.RoutedRunProofs
import OsmoTtcn.TitanProofs
import Mathlib.Data.List.Perm.Basic
import Mathlib.Data.List.Nodup

/-! # Matching of received CBCH blocks

    The Cell Broadcast tests compute the blocks of the messages that they send
    and compare every received block with them: `f_cbch_fn_verify` looks at the
    place in the multiframe, `f_cbch_match` marks the first message with that
    block at that place, and `f_cbch_report` asks for marks at the end.

    The first message takes the blocks that it has, and the others see the rest:
    so the messages are dealt with one by one (`chan_routed`), and a channel is
    fine exactly if what it receives is right and the blocks that it expects
    differ (`chanOk_iff`). -/

namespace OsmoCbch

open OsmoTitan RoutedRun

-- ── The code ─────────────────────────────────────────────────────────────────

/-- The payload of a block, of 22 octets. -/
abbrev Oct22 : Type := {o : List UInt8 // o.length = 22}

/-- `CBCH_BlockType`: TS 04.12 Section 3.3.1 -/
structure CBCHBlockType where
  spare : Bool
  lpd : Fin 4
  lastBlock : Bool
  seqNr : Fin 16
  deriving DecidableEq, Repr

/-- `CBCH_Block`: TS 04.12 Section 3.3 -/
structure CBCHBlock where
  blockType : CBCHBlockType
  payload : Oct22
  deriving DecidableEq

/-- `tr_CBCH_Block`, where `none` is any value. -/
structure BlockTemplate where
  seqNr : Option (Fin 16)
  lastBlock : Option Bool
  payload : Option Oct22

/-- A field of a template; none is `?`. -/
def accepts {α : Type} [DecidableEq α] (t : Option α) (v : α) : Bool := t.all (· = v)

/-- `match(cb, tr_CBCH_Block(..))` -/
def BlockTemplate.matchBlock (tr : BlockTemplate) (cb : CBCHBlock) : Bool :=
  cb.blockType.spare = false && cb.blockType.lpd = 1 && accepts tr.lastBlock cb.blockType.lastBlock
    && accepts tr.seqNr cb.blockType.seqNr && accepts tr.payload cb.payload

/-- `tr_CBCH_Block`, which any block matches with a proper header. -/
def trAny : BlockTemplate := ⟨none, none, none⟩

/-- The template of a NULL block. -/
def trNull : BlockTemplate := ⟨some 15, none, none⟩

/-- `RSL_CbCommand` -/
inductive RslCbCommand where
  | normal | schedule | default | null
  deriving DecidableEq, Repr

/-- a single 22byte block within a CbchTestMsg -/
structure CbchBlock where
  seqNr : Fin 16
  isLast : Bool
  payload : Oct22
  seenOnce : Bool
  deriving DecidableEq

/-- `CBCH_TestMsg` -/
structure CbchTestMsg where
  rslCbCmd : RslCbCommand
  lastBlock : Fin 4
  payload : List UInt8

/-- `CBCH_TestParsChan` -/
structure CbchTestParsChan where
  msgs : List CbchTestMsg
  defaultMsg : Option CbchTestMsg

/-- `CBCH_TestPars` -/
structure CbchTestPars where
  basic : CbchTestParsChan
  extended : Option CbchTestParsChan

/-- `substr(payload, 22*i, 22)` -/
def payloadAt (payload : List UInt8) (i : Nat) : Except Fault Oct22 :=
  if h : 22 * i + 22 ≤ payload.length then
    .ok ⟨(payload.drop (22 * i)).take 22, by rw [List.length_take, List.length_drop]; omega⟩
  else .error .badIndex

/-- The sequence number of a block; a schedule starts with 8. -/
def blockSeqNr (msg : CbchTestMsg) (i : Nat) : Fin 16 :=
  if msg.rslCbCmd = .schedule ∧ i = 0 then 8 else Fin.ofNat 16 i

/-- One turn of the loop over the blocks of a message. -/
def compBlock (msg : CbchTestMsg) (i : Nat) : Except Fault CbchBlock :=
  (payloadAt msg.payload i).map (fun payload => {
    seqNr := blockSeqNr msg i
    isLast := decide (i = msg.lastBlock.val)
    payload := payload
    seenOnce := false })

/-- The rounds of the loop from `i` on. -/
def compLoop (msg : CbchTestMsg) : (rounds i : Nat) → Except Fault (List CbchBlock)
  | 0, _ => .ok []
  | rounds + 1, i => (compBlock msg i).bind (fun block =>
      (compLoop msg rounds (i + 1)).map (block :: ·))

/-- `f_comp_blocks` -/
def fCompBlocks (msg : CbchTestMsg) : Except Fault (List CbchBlock) :=
  compLoop msg (msg.lastBlock.val + 1) 0

/-- The computed `blocks` of the messages of a channel. -/
structure ChanBlocks where
  msgs : List (List CbchBlock)
  defaultMsg : Option (List CbchBlock)

/-- The loop over the messages of a channel. -/
def compMsgs : List CbchTestMsg → Except Fault (List (List CbchBlock))
  | [] => .ok []
  | msg :: msgs => (fCompBlocks msg).bind (fun blocks => (compMsgs msgs).map (blocks :: ·))

/-- `f_cbch_compute_exp_blocks_chan` -/
def fCbchComputeExpBlocksChan (pars : CbchTestParsChan) : Except Fault ChanBlocks :=
  (compMsgs pars.msgs).bind (fun msgs =>
    match pars.defaultMsg with
    | none => .ok ⟨msgs, none⟩
    | some msg => (fCompBlocks msg).map (fun blocks => ⟨msgs, some blocks⟩))

/-- The channels with their blocks. -/
structure CbchBlocksOf where
  basic : ChanBlocks
  extended : Option ChanBlocks

/-- `f_cbch_compute_exp_blocks` -/
def fCbchComputeExpBlocks (pars : CbchTestPars) : Except Fault CbchBlocksOf :=
  (fCbchComputeExpBlocksChan pars.basic).bind (fun basic =>
    match pars.extended with
    | none => .ok ⟨basic, none⟩
    | some ext => (fCbchComputeExpBlocksChan ext).map (fun e => ⟨basic, some e⟩))

/-- TS 05.02 Section 6.5.4 -/
def fCbchFn2tb (fn : Nat) : Nat := fn / 51 % 8

/-- Verify the CBCH TB scheduling rules of TS 05.02 Section 6.5.4; the texts of the
    failures are without the block. -/
def fCbchFnVerify (fn : Nat) (cb : CBCHBlock) : List String :=
  let tb := fCbchFn2tb fn
  let seqNr := cb.blockType.seqNr.val
  if seqNr = 15 then []
  else if seqNr = 8 then if tb ≠ 0 then ["Schedule block at TB=" ++ toString tb] else []
  else if seqNr < 4 then
    if seqNr ≠ tb ∧ seqNr + 4 ≠ tb then ["Normal block at wrong TB=" ++ toString tb] else []
  else []

/-- construct a receive/match template for given block_nr in given msg -/
def fGetBlockTemplate (blocks : List CbchBlock) (blockNr : Nat) : BlockTemplate :=
  match blocks[blockNr]? with
  | some b => ⟨some b.seqNr, some b.isLast, some b.payload⟩
  | none => trNull

/-- The block was received. -/
def CbchBlock.see (b : CbchBlock) : CbchBlock := { b with seenOnce := true }

/-- `blocks[block_nr].seen_once := true`, if there is one. -/
def markSeen (blocks : List CbchBlock) (blockNr : Nat) : List CbchBlock :=
  blocks.modify blockNr CbchBlock.see

/-- check if it's any of our expected blocks: the messages up to the first that it
    matches, of which there may be none. -/
def matchMsgs (cb : CBCHBlock) (blockNr : Nat) :
    List (List CbchBlock) → Option (List (List CbchBlock) × List String)
  | [] => none
  | blocks :: msgs =>
      match blocks[blockNr]? with
      | none => (matchMsgs cb blockNr msgs).map (fun r => (blocks :: r.1, r.2))
      | some b =>
          if (fGetBlockTemplate blocks blockNr).matchBlock cb then
            if b.seenOnce then some (blocks :: msgs, ["Received SMSCB twice! "])
            else some (markSeen blocks blockNr :: msgs, [])
          else (matchMsgs cb blockNr msgs).map (fun r => (blocks :: r.1, r.2))

/-- What a block is to be that no message has. -/
def otherTemplate (defaultMsg : Option (List CbchBlock)) (blockNr : Nat) : BlockTemplate :=
  match defaultMsg with
  -- it must be a block of the default message
  | some blocks => fGetBlockTemplate blocks blockNr
  -- it must be a NULL block
  | none => trNull

/-- `f_cbch_match`, with the block number. -/
def matchAt (chan : ChanBlocks) (cb : CBCHBlock) (blockNr : Nat) : ChanBlocks × List String :=
  if trAny.matchBlock cb = false then (chan, ["Illegal CBCH Block received: "])
  else
    match matchMsgs cb blockNr chan.msgs with
    | some (msgs, fails) => ({ chan with msgs := msgs }, fails)
    | none =>
        if (otherTemplate chan.defaultMsg blockNr).matchBlock cb then
          ({ chan with defaultMsg := chan.defaultMsg.map (markSeen · blockNr) }, [])
        else (chan, ["Received unexpected CBCH block: "])

/-- the heart of the CBCH test case matching engine for one channel (basic,
    extended) -/
def fCbchMatch (chan : ChanBlocks) (cb : CBCHBlock) (tb : Nat) : ChanBlocks × List String :=
  matchAt chan cb (tb % 4)

/-- The blocks that were not seen, with a text for each. -/
def reportBlocks (text : Nat → String) (blocks : List CbchBlock) : List String :=
  blocks.zipIdx.filterMap (fun b => if b.1.seenOnce then none else some (text b.2))

/-- Report/Evaluate the per-channel CBCH test results -/
def fCbchReport (chan : ChanBlocks) (id : String) : List String :=
  -- verify that each block of each message has been seen once
  chan.msgs.zipIdx.flatMap (fun m => reportBlocks (fun j => "Timeout waiting for " ++ id
    ++ " CBCH block " ++ toString j ++ " of msg " ++ toString m.2) m.1)
  -- verify that each block of default message has been seen at least once
  ++ (match chan.defaultMsg with
    | none => []
    | some blocks => reportBlocks (fun j => "Timeout waiting for at leaset one instance of "
        ++ "CBCH block " ++ toString j ++ " of DEFAULT msg") blocks)

/-- A received block with its frame number. -/
abbrev Rx : Type := Nat × CBCHBlock

/-- `f_TC_smscb` receives a block. -/
def rxStep (pars : CbchBlocksOf) (rx : Rx) : CbchBlocksOf × List String :=
  let tb := fCbchFn2tb rx.1
  if tb < 4 then
    let r := fCbchMatch pars.basic rx.2 tb
    ({ pars with basic := r.1 }, fCbchFnVerify rx.1 rx.2 ++ r.2)
  else
    match pars.extended with
    -- no parameters for ext. BCCH given: ignore
    | none => (pars, fCbchFnVerify rx.1 rx.2 ++ [])
    | some ext =>
        let r := fCbchMatch ext rx.2 tb
        ({ pars with extended := some r.1 }, fCbchFnVerify rx.1 rx.2 ++ r.2)

/-- What is reported behind the blocks. -/
def reportAll (pars : CbchBlocksOf) : List String :=
  fCbchReport pars.basic "Basic"
    ++ (match pars.extended with
      | none => []
      | some ext => fCbchReport ext "Extended")

/-- **NO FAILURE**, in any of the checks. -/
def NoFailure (pars : CbchBlocksOf) (rxs : List Rx) : Prop :=
  Quiet rxStep pars rxs ∧ reportAll (final rxStep pars rxs) = []

-- ── What is to arrive ────────────────────────────────────────────────────────

/-- The blocks of a message as they are sent, by their numbers. -/
abbrev Air : Type := Nat → Option CBCHBlock

/-- What is to arrive on a channel: each block of each message once, and the
    default message as often as nothing else is sent. -/
structure Expected where
  msgs : List Air
  dflt : Option Air

/-- A NULL block, which says that nothing is sent. -/
def IsNull (cb : CBCHBlock) : Prop :=
  cb.blockType.spare = false ∧ cb.blockType.lpd = 1 ∧ cb.blockType.seqNr = 15

instance (cb : CBCHBlock) : Decidable (IsNull cb) := inferInstanceAs (Decidable (_ ∧ _))

/-- What is sent where no message is: the block of the default message, or a NULL
    block where there is none. -/
def Other (dflt : Option Air) (j : Nat) (cb : CBCHBlock) : Prop :=
  match dflt.bind (· j) with
  | some b => cb = b
  | none => IsNull cb

instance (dflt : Option Air) (j : Nat) (cb : CBCHBlock) : Decidable (Other dflt j cb) := by
  unfold Other
  cases dflt.bind (· j) with
  | none => exact inferInstanceAs (Decidable (IsNull cb))
  | some b => exact inferInstanceAs (Decidable (cb = b))

/-- **WHAT WAS RECEIVED IS RIGHT**, with the number of each block. -/
structure Arrived (e : Expected) (l : List (Nat × CBCHBlock)) : Prop where
  once : ∀ m ∈ e.msgs, ∀ j b, m j = some b → l.count (j, b) = 1
  dflt : ∀ d ∈ e.dflt, ∀ j b, d j = some b → (j, b) ∈ l
  other : ∀ p ∈ l, (∃ m ∈ e.msgs, m p.1 = some p.2) ∨ Other e.dflt p.1 p.2

/-- No two messages have the same block at the same place, nor a message and the
    default message. -/
def Distinct (e : Expected) : Prop :=
  ∀ j, ((e.msgs ++ e.dflt.toList).filterMap (fun m => m j)).Nodup

/-- The places at which a sequence number may be received. -/
def SlotAllowed (tb : Nat) (seqNr : Fin 16) : Prop :=
  (seqNr.val < 4 → tb = seqNr.val ∨ tb = seqNr.val + 4) ∧ (seqNr = 8 → tb = 0 ∨ tb = 4)

instance (tb : Nat) (seqNr : Fin 16) : Decidable (SlotAllowed tb seqNr) :=
  inferInstanceAs (Decidable ((_ → _ ∨ _) ∧ (_ → _ ∨ _)))

/-- The blocks of the basic channel with their numbers, and those of the extended
    one. -/
def basicRx (rxs : List Rx) : List (Nat × CBCHBlock) :=
  (rxs.filter (fun rx => fCbchFn2tb rx.1 < 4)).map (fun rx => (fCbchFn2tb rx.1 % 4, rx.2))

/-- What was received on the extended channel, with its place. -/
def extendedRx (rxs : List Rx) : List (Nat × CBCHBlock) :=
  (rxs.filter (fun rx => !decide (fCbchFn2tb rx.1 < 4))).map
    (fun rx => (fCbchFn2tb rx.1 % 4, rx.2))

-- ── Blocks on the air ────────────────────────────────────────────────────────

/-- The block as it is sent. -/
def CbchBlock.onAir (b : CbchBlock) : CBCHBlock := ⟨⟨false, 1, b.isLast, b.seqNr⟩, b.payload⟩

/-- A message as it is sent, by the place of its blocks. -/
def air (blocks : List CbchBlock) : Air := fun j => (blocks[j]?).map CbchBlock.onAir

/-- What a channel is expected to send. -/
def ChanBlocks.expected (chan : ChanBlocks) : Expected :=
  ⟨chan.msgs.map air, chan.defaultMsg.map air⟩

/-- A field that is given has to be met. -/
theorem accepts_some {α : Type} [DecidableEq α] {v w : α} : accepts (some v) w = true ↔ w = v := by
  rw [accepts, Option.all_some, decide_eq_true_eq]
  exact eq_comm

/-- The template of a block is met by that block alone. -/
theorem matchBlock_iff (b : CbchBlock) (cb : CBCHBlock) :
    (BlockTemplate.mk (some b.seqNr) (some b.isLast) (some b.payload)).matchBlock cb = true
      ↔ cb = b.onAir := by
  obtain ⟨⟨spare, lpd, last, seqNr⟩, payload⟩ := cb
  rw [BlockTemplate.matchBlock, CbchBlock.onAir]
  simp only [Bool.and_eq_true, decide_eq_true_eq, accepts_some, CBCHBlock.mk.injEq,
    CBCHBlockType.mk.injEq]
  constructor
  · rintro ⟨⟨⟨⟨hspare, hlpd⟩, hlast⟩, hseq⟩, hpayload⟩
    exact ⟨⟨hspare, hlpd, hlast, hseq⟩, hpayload⟩
  · rintro ⟨⟨hspare, hlpd, hlast, hseq⟩, hpayload⟩
    exact ⟨⟨⟨⟨hspare, hlpd⟩, hlast⟩, hseq⟩, hpayload⟩

/-- The NULL template is met by NULL blocks. -/
theorem matchBlock_null (cb : CBCHBlock) : trNull.matchBlock cb = true ↔ IsNull cb := by
  rw [BlockTemplate.matchBlock, IsNull]
  simp only [trNull, accepts, Option.all_some, Option.all_none, Bool.and_eq_true,
    decide_eq_true_eq, and_true]
  constructor
  · rintro ⟨⟨hspare, hlpd⟩, hseq⟩
    exact ⟨hspare, hlpd, hseq.symm⟩
  · rintro ⟨hspare, hlpd, hseq⟩
    exact ⟨⟨hspare, hlpd⟩, hseq.symm⟩

/-- A block that a template takes is a legal one. -/
theorem legal_of_match {tr : BlockTemplate} {cb : CBCHBlock} (h : tr.matchBlock cb = true) :
    trAny.matchBlock cb = true := by
  simp only [BlockTemplate.matchBlock, Bool.and_eq_true, decide_eq_true_eq] at h
  obtain ⟨⟨⟨⟨hspare, hlpd⟩, -⟩, -⟩, -⟩ := h
  simp only [BlockTemplate.matchBlock, trAny, accepts, Option.all_none, Bool.and_eq_true,
    decide_eq_true_eq, and_true]
  exact ⟨hspare, hlpd⟩

/-- The template of an expected block is met by it alone. -/
theorem getBlockTemplate_iff {blocks : List CbchBlock} {j : Nat} {b : CbchBlock}
    (h : blocks[j]? = some b) (cb : CBCHBlock) :
    (fGetBlockTemplate blocks j).matchBlock cb = true ↔ cb = b.onAir := by
  rw [fGetBlockTemplate, h]
  exact matchBlock_iff b cb

/-- Where no message matches, a block of the default message or a NULL block has to. -/
theorem otherTemplate_iff (dflt : Option (List CbchBlock)) (j : Nat) (cb : CBCHBlock) :
    (otherTemplate dflt j).matchBlock cb = true ↔ Other (dflt.map air) j cb := by
  cases dflt with
  | none => exact matchBlock_null cb
  | some blocks =>
      rw [otherTemplate, Other]
      show _ ↔ (match air blocks j with | some b => cb = b | none => IsNull cb)
      cases hj : blocks[j]? with
      | none =>
          rw [air, hj, fGetBlockTemplate, hj]
          exact matchBlock_null cb
      | some b =>
          rw [air, hj]
          exact getBlockTemplate_iff hj cb

/-- What is sent at a place is the block of that place. -/
theorem air_some {blocks : List CbchBlock} {j : Nat} {cb : CBCHBlock} :
    air blocks j = some cb ↔ ∃ b, blocks[j]? = some b ∧ b.onAir = cb := by
  rw [air, Option.map_eq_some_iff]

/-- Marking a block leaves the others alone. -/
theorem getElem?_markSeen (blocks : List CbchBlock) (i j : Nat) :
    (markSeen blocks i)[j]? = (blocks[j]?).map (fun b => if i = j then b.see else b) := by
  rw [markSeen, List.getElem?_modify]
  rfl

/-- A mark is not sent. -/
theorem air_markSeen (blocks : List CbchBlock) (i : Nat) :
    air (markSeen blocks i) = air blocks := by
  funext j
  rw [air, air, getElem?_markSeen, Option.map_map]
  refine congrArg (fun f => Option.map f blocks[j]?) (funext fun b => ?_)
  show (if i = j then b.see else b).onAir = b.onAir
  by_cases hij : i = j
  · rw [if_pos hij]
    rfl
  · rw [if_neg hij]

-- ── One message ──────────────────────────────────────────────────────────────

/-- A message receives a block that it has. -/
def msgStep (blocks : List CbchBlock) (p : Nat × CBCHBlock) : List CbchBlock × List String :=
  match blocks[p.1]? with
  | none => (blocks, [])
  | some b =>
      if b.seenOnce then (blocks, ["Received SMSCB twice! "]) else (markSeen blocks p.1, [])

/-- A block that comes a second time is a fault. -/
theorem msgStep_seen {blocks : List CbchBlock} {j : Nat} {b : CbchBlock} (h : blocks[j]? = some b)
    (hseen : b.seenOnce = true) (cb : CBCHBlock) :
    msgStep blocks (j, cb) = (blocks, ["Received SMSCB twice! "]) := by
  rw [msgStep, h]
  exact if_pos hseen

/-- A block that comes for the first time is marked. -/
theorem msgStep_unseen {blocks : List CbchBlock} {j : Nat} {b : CbchBlock}
    (h : blocks[j]? = some b) (hseen : b.seenOnce = false) (cb : CBCHBlock) :
    msgStep blocks (j, cb) = (markSeen blocks j, []) := by
  rw [msgStep, h]
  exact if_neg (Bool.eq_false_iff.mp hseen)

/-- Marking does not change what is sent. -/
theorem air_msgStep (blocks : List CbchBlock) (p : Nat × CBCHBlock) :
    air (msgStep blocks p).1 = air blocks := by
  obtain ⟨j, cb⟩ := p
  cases hj : blocks[j]? with
  | none =>
      rw [msgStep, hj]
  | some b =>
      cases hseen : b.seenOnce with
      | true => rw [msgStep_seen hj hseen]
      | false => rw [msgStep_unseen hj hseen, air_markSeen]

/-- All blocks were seen. -/
def AllSeen (blocks : List CbchBlock) : Prop :=
  ∀ (j : Nat) (b : CbchBlock), blocks[j]? = some b → b.seenOnce = true

/-- **EXACTLY ONCE**: a message is fine with the blocks that it takes if each of its
    blocks is received once, and a block that it has seen before not at all. -/
theorem msg_once_iff : ∀ (l : List (Nat × CBCHBlock)) (blocks : List CbchBlock),
    (∀ p ∈ l, air blocks p.1 = some p.2) →
    (Quiet msgStep blocks l ∧ AllSeen (final msgStep blocks l)
      ↔ ∀ (j : Nat) (b : CbchBlock), blocks[j]? = some b →
        l.count (j, b.onAir) = if b.seenOnce then 0 else 1) := by
  intro l
  induction l with
  | nil =>
      intro blocks _
      rw [Quiet, final]
      constructor
      · rintro ⟨-, hall⟩ j b hj
        rw [if_pos (hall j b hj)]
        rfl
      · intro h
        refine ⟨trivial, fun j b hj => ?_⟩
        by_contra hseen
        have hcount := h j b hj
        rw [if_neg hseen] at hcount
        cases hcount
  | cons p l ih =>
      intro blocks hl
      obtain ⟨i, cb⟩ := p
      obtain ⟨c, hi, rfl⟩ := air_some.mp (hl (i, cb) List.mem_cons_self)
      rw [Quiet, final]
      cases hseen : c.seenOnce with
      | true =>
          rw [msgStep_seen hi hseen]
          refine iff_of_false (fun h => by cases h.1.1) (fun h => ?_)
          have hcount := h i c hi
          rw [List.count_cons_self, if_pos hseen] at hcount
          omega
      | false =>
          have hrest : ∀ q ∈ l, air (markSeen blocks i) q.1 = some q.2 := by
            intro q hq
            rw [air_markSeen]
            exact hl q (List.mem_cons_of_mem _ hq)
          rw [msgStep_unseen hi hseen]
          show (_ ∧ _) ∧ _ ↔ _
          rw [eq_self_iff_true, true_and, ih _ hrest]
          constructor
          · intro h j b hj
            have hmark := h j (if i = j then b.see else b) (by
              rw [getElem?_markSeen, hj]
              rfl)
            by_cases hij : i = j
            · subst hij
              have hbc : b = c := Option.some.inj (hj.symm.trans hi)
              subst hbc
              rw [if_pos rfl] at hmark
              have hzero : l.count (i, b.onAir) = 0 := hmark
              rw [List.count_cons_self, hzero, hseen]
              rfl
            · rw [if_neg hij] at hmark
              rw [List.count_cons_of_ne (fun heq => hij (Prod.mk.inj heq).1), hmark]
          · intro h j b' hj
            rw [getElem?_markSeen, Option.map_eq_some_iff] at hj
            obtain ⟨b, hj, rfl⟩ := hj
            have hcount := h j b hj
            by_cases hij : i = j
            · subst hij
              have hbc : b = c := Option.some.inj (hj.symm.trans hi)
              subst hbc
              rw [List.count_cons_self, hseen] at hcount
              rw [if_pos rfl]
              show l.count (i, b.onAir) = 0
              exact Nat.succ.inj hcount
            · rw [List.count_cons_of_ne (fun heq => hij (Prod.mk.inj heq).1)] at hcount
              rw [if_neg hij]
              exact hcount

-- ── The messages of a channel ────────────────────────────────────────────────

/-- A channel receives a block with its number. -/
def chanStep (chan : ChanBlocks) (p : Nat × CBCHBlock) : ChanBlocks × List String :=
  matchAt chan p.2 p.1

/-- A message in front of a channel. -/
def consMsg (blocks : List CbchBlock) (chan : ChanBlocks) : ChanBlocks :=
  ⟨blocks :: chan.msgs, chan.defaultMsg⟩

/-- A message takes what it sends. -/
def takes (a : Air) (p : Nat × CBCHBlock) : Bool := decide (a p.1 = some p.2)

/-- The ways through `f_cbch_match`. -/
theorem matchAt_illegal {chan : ChanBlocks} {cb : CBCHBlock} {j : Nat}
    (h : trAny.matchBlock cb = false) :
    matchAt chan cb j = (chan, ["Illegal CBCH Block received: "]) := if_pos h

/-- A message that matches takes the block. -/
theorem matchAt_some {chan : ChanBlocks} {cb : CBCHBlock} {j : Nat} {r : List (List CbchBlock) × _}
    (hlegal : trAny.matchBlock cb = true) (h : matchMsgs cb j chan.msgs = some r) :
    matchAt chan cb j = (⟨r.1, chan.defaultMsg⟩, r.2) := by
  rw [matchAt, if_neg (by rw [hlegal]; decide), h]

/-- Where none matches the default message or a NULL block is left. -/
theorem matchAt_none {chan : ChanBlocks} {cb : CBCHBlock} {j : Nat}
    (hlegal : trAny.matchBlock cb = true) (h : matchMsgs cb j chan.msgs = none) :
    matchAt chan cb j = if (otherTemplate chan.defaultMsg j).matchBlock cb then
        (⟨chan.msgs, chan.defaultMsg.map (markSeen · j)⟩, [])
      else (chan, ["Received unexpected CBCH block: "]) := by
  rw [matchAt, if_neg (by rw [hlegal]; decide), h]

/-- A message that has the block. -/
theorem matchMsgs_here {blocks : List CbchBlock} {j : Nat} {b : CbchBlock}
    (hj : blocks[j]? = some b) (msgs : List (List CbchBlock)) :
    matchMsgs b.onAir j (blocks :: msgs)
      = some ((msgStep blocks (j, b.onAir)).1 :: msgs, (msgStep blocks (j, b.onAir)).2) := by
  have hmatch := (getBlockTemplate_iff hj b.onAir).mpr rfl
  rw [matchMsgs, hj]
  show (if _ then (if _ then _ else _) else _) = _
  rw [if_pos hmatch]
  cases hseen : b.seenOnce with
  | true =>
      rw [msgStep_seen hj hseen]
      rfl
  | false =>
      rw [msgStep_unseen hj hseen]
      rfl

/-- Messages behind one that does not have it. -/
theorem matchMsgs_skip {blocks : List CbchBlock} {j : Nat} {cb : CBCHBlock}
    (h : air blocks j ≠ some cb) (msgs : List (List CbchBlock)) :
    matchMsgs cb j (blocks :: msgs)
      = (matchMsgs cb j msgs).map (fun r => (blocks :: r.1, r.2)) := by
  rw [matchMsgs]
  cases hj : blocks[j]? with
  | none => rfl
  | some b =>
      have hne : ¬ (fGetBlockTemplate blocks j).matchBlock cb = true := by
        rw [getBlockTemplate_iff hj]
        rintro rfl
        exact h (air_some.mpr ⟨b, hj, rfl⟩)
      show (if (fGetBlockTemplate blocks j).matchBlock cb then _ else _) = _
      rw [if_neg hne]

/-- What the first message takes the others do not see. -/
theorem chanStep_taken {blocks : List CbchBlock} {chan : ChanBlocks} {p : Nat × CBCHBlock}
    (h : takes (air blocks) p = true) :
    chanStep (consMsg blocks chan) p
      = (consMsg (msgStep blocks p).1 chan, (msgStep blocks p).2) := by
  obtain ⟨j, cb⟩ := p
  obtain ⟨b, hj, rfl⟩ := air_some.mp (of_decide_eq_true h)
  have hlegal := legal_of_match ((getBlockTemplate_iff hj b.onAir).mpr rfl)
  exact @matchAt_some (consMsg blocks chan) b.onAir j _ hlegal (matchMsgs_here hj chan.msgs)

/-- What it does not take the others see. -/
theorem chanStep_skipped {blocks : List CbchBlock} {chan : ChanBlocks} {p : Nat × CBCHBlock}
    (h : takes (air blocks) p = false) :
    chanStep (consMsg blocks chan) p
      = (consMsg blocks (chanStep chan p).1, (chanStep chan p).2) := by
  obtain ⟨j, cb⟩ := p
  have hskip : matchMsgs cb j (consMsg blocks chan).msgs = _ :=
    matchMsgs_skip (of_decide_eq_false h) chan.msgs
  rw [chanStep, chanStep]
  cases hlegal : trAny.matchBlock cb with
  | false => rw [matchAt_illegal hlegal, matchAt_illegal hlegal]
  | true =>
      cases hrest : matchMsgs cb j chan.msgs with
      | some r =>
          rw [hrest] at hskip
          rw [matchAt_some hlegal hskip, matchAt_some hlegal hrest]
          rfl
      | none =>
          rw [hrest] at hskip
          rw [matchAt_none hlegal hskip, matchAt_none hlegal hrest]
          show (if (otherTemplate chan.defaultMsg j).matchBlock cb then _ else _) = _
          by_cases hother : (otherTemplate chan.defaultMsg j).matchBlock cb = true
          · rw [if_pos hother, if_pos hother]
            rfl
          · rw [if_neg hother, if_neg hother]

/-- **THE FIRST MESSAGE** takes the blocks that it has, the others see the rest. -/
theorem chan_routed (a : Air) : Routed chanStep msgStep chanStep consMsg (takes a)
    (fun blocks => air blocks = a) where
  left := by
    intro blocks chan p ha htakes
    rw [← ha] at htakes
    exact chanStep_taken htakes
  right := by
    intro blocks chan p ha htakes
    rw [← ha] at htakes
    exact chanStep_skipped htakes
  keeps := by
    intro blocks p ha _
    rw [air_msgStep]
    exact ha

/-- Every block of a channel was seen. -/
def ChanSeen (chan : ChanBlocks) : Prop :=
  (∀ blocks ∈ chan.msgs, AllSeen blocks) ∧ ∀ blocks ∈ chan.defaultMsg, AllSeen blocks

/-- A channel is fine with what it receives. -/
def ChanOk (chan : ChanBlocks) (l : List (Nat × CBCHBlock)) : Prop :=
  Quiet chanStep chan l ∧ ChanSeen (final chanStep chan l)

/-- A channel is right if its first message is, and the rest with what is left. -/
theorem chanOk_cons (blocks : List CbchBlock) (chan : ChanBlocks) (l : List (Nat × CBCHBlock)) :
    ChanOk (consMsg blocks chan) l
      ↔ (Quiet msgStep blocks (l.filter (takes (air blocks)))
          ∧ AllSeen (final msgStep blocks (l.filter (takes (air blocks)))))
        ∧ ChanOk chan (l.filter (fun p => !takes (air blocks) p)) := by
  rw [ChanOk, ChanOk, quiet_routed_iff (chan_routed (air blocks)) l blocks chan rfl,
    final_routed (chan_routed (air blocks)) l blocks chan rfl, ChanSeen, ChanSeen]
  show _ ∧ (∀ m ∈ (_ :: _ : List (List CbchBlock)), AllSeen m) ∧ _ ↔ _
  rw [List.forall_mem_cons]
  constructor
  · rintro ⟨⟨hq, hqs⟩, ⟨ha, has⟩, hd⟩
    exact ⟨⟨hq, ha⟩, hqs, has, hd⟩
  · rintro ⟨⟨hq, ha⟩, hqs, has, hd⟩
    exact ⟨⟨hq, hqs⟩, ⟨ha, has⟩, hd⟩

-- ── What no message has ──────────────────────────────────────────────────────

/-- With no message left the default message is marked. -/
theorem chanStep_other {dflt : Option (List CbchBlock)} {p : Nat × CBCHBlock}
    (h : Other (dflt.map air) p.1 p.2) :
    chanStep ⟨[], dflt⟩ p = (⟨[], dflt.map (markSeen · p.1)⟩, []) := by
  have hmatch := (otherTemplate_iff dflt p.1 p.2).mpr h
  rw [chanStep, matchAt_none (legal_of_match hmatch) rfl]
  exact if_pos hmatch

/-- Anything else is a fault. -/
theorem chanStep_unexpected {dflt : Option (List CbchBlock)} {p : Nat × CBCHBlock}
    (h : ¬ Other (dflt.map air) p.1 p.2) : (chanStep ⟨[], dflt⟩ p).2 ≠ [] := by
  have hmatch : ¬ (otherTemplate dflt p.1).matchBlock p.2 = true :=
    mt (otherTemplate_iff dflt p.1 p.2).mp h
  rw [chanStep]
  cases hlegal : trAny.matchBlock p.2 with
  | false =>
      rw [matchAt_illegal hlegal]
      exact List.cons_ne_nil _ _
  | true =>
      have hnone := @matchAt_none ⟨[], dflt⟩ p.2 p.1 hlegal rfl
      rw [hnone, if_neg hmatch]
      exact List.cons_ne_nil _ _

/-- Marking does not change what the default message sends. -/
theorem map_air_markSeen (dflt : Option (List CbchBlock)) (i : Nat) :
    (dflt.map (markSeen · i)).map air = dflt.map air := by
  cases dflt with
  | none => rfl
  | some blocks => exact congrArg some (air_markSeen blocks i)

/-- **THE DEFAULT MESSAGE**: nothing else is received, and each of its blocks at least
    once. -/
theorem dflt_ok_iff : ∀ (l : List (Nat × CBCHBlock)) (dflt : Option (List CbchBlock)),
    ChanOk ⟨[], dflt⟩ l ↔ (∀ p ∈ l, Other (dflt.map air) p.1 p.2)
      ∧ ∀ blocks ∈ dflt, ∀ (j : Nat) (b : CbchBlock), blocks[j]? = some b →
        b.seenOnce = true ∨ (j, b.onAir) ∈ l := by
  intro l
  induction l with
  | nil =>
      intro dflt
      constructor
      · rintro ⟨-, -, hd⟩
        exact ⟨fun p hp => absurd hp List.not_mem_nil, fun blocks hb j b hj =>
          Or.inl (hd blocks hb j b hj)⟩
      · rintro ⟨-, hd⟩
        exact ⟨trivial, fun blocks hb => absurd hb List.not_mem_nil, fun blocks hb j b hj =>
          (hd blocks hb j b hj).resolve_right List.not_mem_nil⟩
  | cons p l ih =>
      intro dflt
      obtain ⟨i, cb⟩ := p
      rw [List.forall_mem_cons]
      by_cases hp : Other (dflt.map air) i cb
      · have hstep := @chanStep_other dflt (i, cb) hp
        have hok : ChanOk ⟨[], dflt⟩ ((i, cb) :: l)
            ↔ ChanOk ⟨[], dflt.map (markSeen · i)⟩ l := by
          rw [ChanOk, ChanOk, Quiet, final, hstep]
          exact and_congr (and_iff_right rfl) Iff.rfl
        rw [hok, ih, map_air_markSeen]
        constructor
        · rintro ⟨hother, hd⟩
          refine ⟨⟨hp, hother⟩, ?_⟩
          rintro blocks hb j b hj
          have hmem : markSeen blocks i ∈ dflt.map (markSeen · i) := by
            rw [hb]
            rfl
          have hmark := hd _ hmem j (if i = j then b.see else b) (by
            rw [getElem?_markSeen, hj]
            rfl)
          by_cases hij : i = j
          · -- it is this block that marks it
            subst hij
            have hcb : cb = b.onAir := by
              rw [hb, Other] at hp
              have hair : air blocks i = some b.onAir := air_some.mpr ⟨b, hj, rfl⟩
              have hmatch : (match air blocks i with | some b => cb = b | none => IsNull cb) := hp
              rw [hair] at hmatch
              exact hmatch
            rw [hcb]
            exact Or.inr List.mem_cons_self
          · rw [if_neg hij] at hmark
            exact hmark.imp_right (List.mem_cons_of_mem _)
        · rintro ⟨⟨-, hother⟩, hd⟩
          refine ⟨hother, ?_⟩
          rintro blocks' hb' j b' hj
          obtain ⟨blocks, hb, rfl⟩ := Option.map_eq_some_iff.mp hb'
          rw [getElem?_markSeen, Option.map_eq_some_iff] at hj
          obtain ⟨b, hj, rfl⟩ := hj
          by_cases hij : i = j
          · rw [if_pos hij]
            exact Or.inl rfl
          · rw [if_neg hij]
            refine (hd blocks hb j b hj).imp_right (fun hmem => ?_)
            rcases List.mem_cons.mp hmem with heq | hmem
            · exact absurd (Prod.mk.inj heq).1.symm hij
            · exact hmem
      · refine iff_of_false (fun hok => ?_) (fun h => hp h.1.1)
        exact @chanStep_unexpected dflt (i, cb) hp hok.1.1

-- ── A whole channel ──────────────────────────────────────────────────────────

/-- The blocks that are expected with a number. -/
def Expected.column (e : Expected) (j : Nat) : List CBCHBlock :=
  (e.msgs ++ e.dflt.toList).filterMap (fun m => m j)

/-- At a place each message sends at most one block. -/
theorem airs_cons (m : Air) (ms : List Air) (j : Nat) :
    (m :: ms).filterMap (fun m => m j) = (m j).toList ++ ms.filterMap (fun m => m j) := by
  cases h : m j with
  | none => exact List.filterMap_cons_none h
  | some b => exact List.filterMap_cons_some h

/-- What may be sent at a place is of a message or of the default message. -/
theorem mem_column {e : Expected} {j : Nat} {b : CBCHBlock} :
    b ∈ e.column j ↔ (∃ m ∈ e.msgs, m j = some b) ∨ ∃ d ∈ e.dflt, d j = some b := by
  rw [Expected.column, List.mem_filterMap]
  constructor
  · rintro ⟨m, hm, hb⟩
    rcases List.mem_append.mp hm with hm | hm
    · exact Or.inl ⟨m, hm, hb⟩
    · exact Or.inr ⟨m, Option.mem_toList.mp hm, hb⟩
  · rintro (⟨m, hm, hb⟩ | ⟨d, hd, hb⟩)
    · exact ⟨m, List.mem_append.mpr (Or.inl hm), hb⟩
    · exact ⟨d, List.mem_append.mpr (Or.inr (Option.mem_toList.mpr hd)), hb⟩

/-- A message more. -/
def Expected.cons (a : Air) (e : Expected) : Expected := ⟨a :: e.msgs, e.dflt⟩

/-- Distinct blocks stay so when a message is taken away. -/
theorem distinct_cons {a : Air} {e : Expected} :
    Distinct (e.cons a) ↔ (∀ j b, a j = some b → b ∉ e.column j) ∧ Distinct e := by
  have hcolumn : ∀ j, (e.cons a).column j = ((a j).toList ++ e.column j) :=
    airs_cons a (e.msgs ++ e.dflt.toList)
  constructor
  · intro h
    refine ⟨fun j b hb => ?_, fun j => ?_⟩
    · have hj : ((e.cons a).column j).Nodup := h j
      rw [hcolumn, hb] at hj
      exact (List.nodup_cons.mp hj).1
    · have hj : ((e.cons a).column j).Nodup := h j
      rw [hcolumn] at hj
      exact (List.nodup_append.mp hj).2.1
  · rintro ⟨hnew, hrest⟩ j
    show ((e.cons a).column j).Nodup
    rw [hcolumn]
    cases ha : a j with
    | none => exact hrest j
    | some b => exact List.nodup_cons.mpr ⟨hnew j b ha, hrest j⟩

/-- What is left was not taken. -/
theorem mem_skipped {a : Air} {l : List (Nat × CBCHBlock)} {j : Nat} {b : CBCHBlock} :
    (j, b) ∈ l.filter (fun p => !takes a p) ↔ (j, b) ∈ l ∧ a j ≠ some b := by
  rw [List.mem_filter, Bool.not_eq_true', takes, decide_eq_false_iff_not]

/-- **A MESSAGE MORE** is right if each of its blocks arrives once, and what it does
    not have is right for the others. -/
theorem arrived_cons (a : Air) (e : Expected) (l : List (Nat × CBCHBlock)) :
    Arrived (e.cons a) l ∧ Distinct (e.cons a)
      ↔ (∀ j b, a j = some b → l.count (j, b) = 1)
        ∧ Arrived e (l.filter (fun p => !takes a p)) ∧ Distinct e := by
  have hcount : ∀ {j b}, a j ≠ some b →
      (l.filter (fun p => !takes a p)).count (j, b) = l.count (j, b) := fun hne =>
    List.count_filter (by rw [takes, decide_eq_false hne]; rfl)
  rw [distinct_cons]
  constructor
  · rintro ⟨harrived, hnew, hdistinct⟩
    refine ⟨fun j b hb => harrived.once a List.mem_cons_self j b hb, ⟨?_, ?_, ?_⟩, hdistinct⟩
    · intro m hm j b hb
      rw [hcount (fun ha => hnew j b ha (mem_column.mpr (Or.inl ⟨m, hm, hb⟩)))]
      exact harrived.once m (List.mem_cons_of_mem _ hm) j b hb
    · intro d hd j b hb
      exact mem_skipped.mpr ⟨harrived.dflt d hd j b hb,
        fun ha => hnew j b ha (mem_column.mpr (Or.inr ⟨d, hd, hb⟩))⟩
    · rintro ⟨j, cb⟩ hp
      obtain ⟨hp, hne⟩ := mem_skipped.mp hp
      rcases harrived.other (j, cb) hp with ⟨m, hm, hb⟩ | hother
      · rcases List.mem_cons.mp hm with rfl | hm
        · exact absurd hb hne
        · exact Or.inl ⟨m, hm, hb⟩
      · exact Or.inr hother
  · rintro ⟨honce, harrived, hdistinct⟩
    -- what others have arrives among the blocks that this message does not have
    have hnew : ∀ j b, a j = some b → b ∉ e.column j := by
      intro j b ha hmem
      have hskipped : (j, b) ∈ l.filter (fun p => !takes a p) := by
        rcases mem_column.mp hmem with ⟨m, hm, hb⟩ | ⟨d, hd, hb⟩
        · exact List.one_le_count_iff.mp (Nat.le_of_eq (harrived.once m hm j b hb).symm)
        · exact harrived.dflt d hd j b hb
      exact (mem_skipped.mp hskipped).2 ha
    refine ⟨⟨?_, ?_, ?_⟩, hnew, hdistinct⟩
    · intro m hm j b hb
      rcases List.mem_cons.mp hm with rfl | hm
      · exact honce j b hb
      · rw [← hcount (fun ha => hnew j b ha (mem_column.mpr (Or.inl ⟨m, hm, hb⟩)))]
        exact harrived.once m hm j b hb
    · intro d hd j b hb
      exact (mem_skipped.mp (harrived.dflt d hd j b hb)).1
    · rintro ⟨j, cb⟩ hp
      by_cases ha : a j = some cb
      · exact Or.inl ⟨a, List.mem_cons_self, ha⟩
      · rcases harrived.other (j, cb) (mem_skipped.mpr ⟨hp, ha⟩) with ⟨m, hm, hb⟩ | hother
        · exact Or.inl ⟨m, List.mem_cons_of_mem _ hm, hb⟩
        · exact Or.inr hother

/-- No block was seen. -/
def Fresh (blocks : List CbchBlock) : Prop :=
  ∀ (j : Nat) (b : CbchBlock), blocks[j]? = some b → b.seenOnce = false

/-- No block of the channel was seen. -/
def ChanFresh (chan : ChanBlocks) : Prop :=
  (∀ blocks ∈ chan.msgs, Fresh blocks) ∧ ∀ blocks ∈ chan.defaultMsg, Fresh blocks

/-- **A CHANNEL** is fine exactly if what it receives is right and the blocks that it
    expects differ. -/
theorem chanOk_iff : ∀ {msgs : List (List CbchBlock)} {dflt : Option (List CbchBlock)},
    ChanFresh ⟨msgs, dflt⟩ → ∀ l : List (Nat × CBCHBlock), (ChanOk ⟨msgs, dflt⟩ l
      ↔ Arrived (ChanBlocks.expected ⟨msgs, dflt⟩) l
        ∧ Distinct (ChanBlocks.expected ⟨msgs, dflt⟩)) := by
  intro msgs dflt
  induction msgs with
  | nil =>
      rintro ⟨-, hfresh⟩ l
      have hdistinct : Distinct (ChanBlocks.expected ⟨[], dflt⟩) := by
        intro j
        cases dflt with
        | none => exact List.nodup_nil
        | some blocks =>
            show ([air blocks].filterMap (fun m => m j)).Nodup
            rw [airs_cons]
            cases air blocks j with
            | none => exact List.nodup_nil
            | some b => exact List.nodup_singleton b
      rw [dflt_ok_iff]
      constructor
      · rintro ⟨hother, hd⟩
        refine ⟨⟨fun m hm => absurd hm List.not_mem_nil, ?_, fun p hp => Or.inr (hother p hp)⟩,
          hdistinct⟩
        intro d hd' j b hb
        obtain ⟨blocks, hblocks, rfl⟩ := Option.map_eq_some_iff.mp hd'
        obtain ⟨c, hc, rfl⟩ := air_some.mp hb
        rcases hd blocks hblocks j c hc with hseen | hmem
        · rw [hfresh blocks hblocks j c hc] at hseen
          cases hseen
        · exact hmem
      · rintro ⟨harrived, -⟩
        refine ⟨fun p hp => ?_, fun blocks hblocks j c hc => Or.inr ?_⟩
        · rcases harrived.other p hp with ⟨m, hm, -⟩ | hother
          · exact absurd hm List.not_mem_nil
          · exact hother
        · exact harrived.dflt (air blocks) (Option.map_eq_some_iff.mpr ⟨blocks, hblocks, rfl⟩) j
            c.onAir (air_some.mpr ⟨c, hc, rfl⟩)
  | cons blocks msgs ih =>
      rintro ⟨hfresh, hfreshd⟩ l
      obtain ⟨hhead, htail⟩ := List.forall_mem_cons.mp hfresh
      have htaken : ∀ p ∈ l.filter (takes (air blocks)), air blocks p.1 = some p.2 :=
        fun p hp => of_decide_eq_true (List.mem_filter.mp hp).2
      have hcount : ∀ {j b}, air blocks j = some b →
          (l.filter (takes (air blocks))).count (j, b) = l.count (j, b) := fun ha =>
        List.count_filter (decide_eq_true ha)
      show ChanOk (consMsg blocks ⟨msgs, dflt⟩) l
        ↔ Arrived ((ChanBlocks.expected ⟨msgs, dflt⟩).cons (air blocks)) l
          ∧ Distinct ((ChanBlocks.expected ⟨msgs, dflt⟩).cons (air blocks))
      rw [chanOk_cons, msg_once_iff _ blocks htaken, ih ⟨htail, hfreshd⟩, arrived_cons]
      refine and_congr ?_ Iff.rfl
      constructor
      · intro h j b hb
        obtain ⟨c, hc, rfl⟩ := air_some.mp hb
        rw [← hcount hb, h j c hc, hhead j c hc]
        rfl
      · intro h j c hc
        have hb : air blocks j = some c.onAir := air_some.mpr ⟨c, hc, rfl⟩
        rw [hcount hb, h j c.onAir hb, hhead j c hc]
        rfl

end OsmoCbch
