import OsmoTtcn.PolledQueueProofs
import OsmoTtcn.RlcmacDlProofs
import OsmoTtcn.RunGuardProofs
import OsmoTtcn.WireOctetProofs
import Mathlib.Data.List.Pairwise

/-! # Scheduling of uplink blocks towards the PCU

    A BTS component of the PCU tests gets DATA.ind messages from the test case
    and the frames of a TDMA clock.  At the end of each block it goes through
    the active PDCHs, timeslot by timeslot, and sends each a DATA.ind: the
    message at the head of its one queue, if that is for this PDCH and carries
    the frame number of the block or 0, and an empty one otherwise.

    A message is meant for a block: for the next one, or for the block that the
    RRBP field of a poll gives.  `specStep` sends it there.  The code does the
    same in every step of a run that meets `BlockReady` (`pcuSched_run`), and
    in no other: the queue must be in the order of the PDCHs, RRBP N+17 and
    N+21 must fall on the beginning of a block, and neither 0 nor a frame number
    behind the wrap of the hyperframe can be told from what it is meant for. -/

namespace OsmoPcuSched

open OsmoTitan OsmoRlcmac RunGuard

-- ── Frame numbers ────────────────────────────────────────────────────────────

/-- `GsmMaxFrameNumber`, the length of a hyperframe. -/
def gsmMaxFrameNumber : Nat := 26 * 51 * 2048

/-- The sum of two TDMA frame numbers, wrapping around the hyperframe. -/
def fGsmFnSum (a b : Nat) : Nat := (a + b) % gsmMaxFrameNumber

/-- TS 44.060 10.4.5 -/
def fRrbpFnDelay : MacRrbp → Nat
  | .nplus13 => 13
  | .nplus17or18 => 17
  | .nplus21or22 => 21
  | .nplus26 => 26

/-- `f_rrbp_ack_fn` -/
def fRrbpAckFn (currentFn : Nat) (rrbp : MacRrbp) : Nat :=
  fGsmFnSum currentFn (fRrbpFnDelay rrbp)

/-- `fn2macblock` -/
def fn2macblock (fn : Nat) : Nat := fn % 52 / 4

/-- 1/4 bursts of a PDTCH block -/
def isBlockBegin (fn : Nat) : Bool := fn % 13 = 0 ∨ fn % 13 = 4 ∨ fn % 13 = 8

/-- 4/4 bursts of a PDTCH block -/
def isBlockEnd (fn : Nat) : Bool := fn % 13 = 3 ∨ fn % 13 = 7 ∨ fn % 13 = 11

-- ── Messages and events ──────────────────────────────────────────────────────

/-- `PCUIF_Sapi` -/
inductive PcuifSapi where
  | unknown | rach | bcch | pdtch | prach | ptcch | pch2 | agch2
  deriving DecidableEq, Repr

/-- `PCUIF_data` -/
structure PcuifData where
  sapi : PcuifSapi
  len : Nat
  data : List UInt8
  fn : Nat
  arfcn : Nat
  trxNr : Nat
  tsNr : Nat
  blockNr : Nat
  rssi : Int
  ber10k : Nat
  taOffsQbits : Int
  lqualCb : Int
  deriving DecidableEq, Repr

/-- `PCUIF_rts_req` -/
structure PcuifRtsReq where
  sapi : PcuifSapi
  fn : Nat
  arfcn : Nat
  trxNr : Nat
  tsNr : Nat
  blockNr : Nat
  deriving DecidableEq, Repr

/-- The body of a message; `other` stands for those that are only forwarded. -/
inductive PcuifBody (Other : Type) where
  | dataInd (ind : PcuifData)
  | rtsReq (req : PcuifRtsReq)
  | timeInd (fn : Nat)
  | other (msg : Other)
  deriving DecidableEq

/-- `PCUIF_Message`, by what the scheduler asks of it. -/
structure PcuifMessage (Other : Type) where
  btsNr : Nat
  u : PcuifBody Other
  deriving DecidableEq

/-- `RAW_PCU_EventType` -/
inductive RawPcuEventType where
  | pdtchBlockBeg | pdtchBlockEnd | ptcchDlBlock | ptcchUlBurst | pdtchBlockSent
  deriving DecidableEq, Repr

/-- `RAW_PCU_Event` -/
structure RawPcuEvent where
  event : RawPcuEventType
  tdmaFn : Nat
  deriving DecidableEq, Repr

/-- `ts_PCUIF_DATA_IND`, with the values that are not defaults. -/
def tsPcuifDataInd (trxNr tsNr blockNr : Nat) (sapi : PcuifSapi) (data : List UInt8)
    (fn arfcn : Nat) : PcuifData where
  sapi := sapi
  len := data.length
  data := data
  fn := fn
  arfcn := arfcn
  trxNr := trxNr
  tsNr := tsNr
  blockNr := blockNr
  rssi := -80
  ber10k := 0
  taOffsQbits := 0
  lqualCb := 10

/-- The events of one frame of the clock generator. -/
def clckEvents (fn : Nat) : List RawPcuEvent :=
  if isBlockBegin fn then [⟨.pdtchBlockBeg, fn⟩]
  else if isBlockEnd fn then [⟨.pdtchBlockEnd, fn⟩]
  else if fn % 52 = 12 ∨ fn % 52 = 38 then
    if fn % 104 = 90 then [⟨.ptcchDlBlock, fn⟩, ⟨.ptcchUlBurst, fn⟩]
    else [⟨.ptcchUlBurst, fn⟩]
  else []

-- ── What a message is meant for ──────────────────────────────────────────────

/-- The next block of its PDCH, or the answer to a poll with this RRBP in the
    downlink block that began at frame `n`. -/
inductive Meant where
  | asap
  | poll (n : Nat) (rrbp : MacRrbp)
  deriving DecidableEq, Repr

/-- The frame number that the test case writes into the message. -/
def Meant.fn : Meant → Nat
  | .asap => 0
  | .poll n rrbp => fRrbpAckFn n rrbp

/-- Where the answer belongs: N+18 and N+22 stand in for N+17 and N+21 when
    these are not the beginning of a block. -/
def rrbpBlock (n : Nat) : MacRrbp → Nat
  | .nplus13 => fGsmFnSum n 13
  | .nplus17or18 => if isBlockBegin (fGsmFnSum n 17) then fGsmFnSum n 17 else fGsmFnSum n 18
  | .nplus21or22 => if isBlockBegin (fGsmFnSum n 21) then fGsmFnSum n 21 else fGsmFnSum n 22
  | .nplus26 => fGsmFnSum n 26

/-- Whether the block that begins at `fn` is the one. -/
def Meant.due (fn : Nat) : Meant → Bool
  | .asap => true
  | .poll n rrbp => rrbpBlock n rrbp = fn

/-- A message with what it is meant for, which nothing in the code reads. -/
structure Queued where
  ind : PcuifData
  meant : Meant
  carries : ind.fn = meant.fn
  deriving DecidableEq, Repr

-- ── The component ────────────────────────────────────────────────────────────

/-- `PCUIF_InfoTrx`, as far as it says which timeslots are active. -/
structure PcuifInfoTrx where
  arfcn : Nat
  pdchMask : Fin 8 → Bool

/-- `RAW_PCU_BTS_CT`: its number, its transceivers and its queues. -/
structure BtsCt where
  btsNr : Nat
  trx : List PcuifInfoTrx
  pdtchDataQueue : List Queued
  pdtchRtsQueue : List PcuifRtsReq
  ptcchRtsQueue : List PcuifRtsReq
  cfgPtcchBurstFwd : Bool

/-- What is sent, to the PCU and to the test case. -/
inductive Out (Other : Type) where
  | pcuif (msg : PcuifMessage Other)
  | tc (event : RawPcuEvent)
  deriving DecidableEq

/-- A timeslot of a transceiver. -/
structure TsTrx where
  tsNr : Nat
  trxNr : Nat
  deriving DecidableEq, Repr

section Component

variable {Other : Type}

/-- Get first message from queue, when it is for this PDCH. -/
def firstFor (p : TsTrx) (queue : List Queued) : Option Queued :=
  queue.head?.filter (fun m => m.ind.trxNr = p.trxNr ∧ m.ind.tsNr = p.tsNr)

/-- `f_PCUIF_MsgQueue_dequeue` -/
def fPcuifMsgQueueDequeue : List Queued → Except Fault (Queued × List Queued)
  | [] => .error (.shutdown "Failed to dequeue a message: the queue is empty!")
  | msg :: queue => .ok (msg, queue)

/-- The bit of the PDCH mask. -/
def pdchActive (trx : List PcuifInfoTrx) (p : TsTrx) : Bool :=
  match trx[p.trxNr]? with
  | some t => if h : p.tsNr < 8 then t.pdchMask ⟨p.tsNr, h⟩ else false
  | none => false

/-- The ARFCN of a transceiver. -/
def arfcnOf (trx : List PcuifInfoTrx) (p : TsTrx) : Nat :=
  match trx[p.trxNr]? with
  | some t => t.arfcn
  | none => 0

/-- DATA.ind with its TDMA frame and block number patched, and the notice to
    the test case. -/
def sendMsg (b : BtsCt) (fn : Nat) (m : Queued) : List (Out Other) :=
  [.pcuif ⟨b.btsNr, .dataInd { m.ind with fn := fn, blockNr := fn2macblock fn }⟩,
    .tc ⟨.pdtchBlockSent, fn⟩]

/-- NOPE.ind -/
def sendNope (b : BtsCt) (fn : Nat) (p : TsTrx) : List (Out Other) :=
  [.pcuif ⟨b.btsNr, .dataInd (tsPcuifDataInd p.trxNr p.tsNr 0 .pdtch [] fn (arfcnOf b.trx p))⟩]

/-- The body of the two loops, for an active PDCH. -/
def txTurn (b : BtsCt) (fn : Nat) (p : TsTrx) (queue : List Queued) :
    Except Fault (List Queued × List (Out Other)) :=
  match firstFor p queue with
  | none => .ok (queue, sendNope b fn p)
  | some msg =>
      if msg.ind.fn = 0 ∨ msg.ind.fn = fn then
        (fPcuifMsgQueueDequeue queue).map (fun r => (r.2, sendMsg b fn r.1))
      else if msg.ind.fn < fn then
        .error (.shutdown s!"We are late scheduling the block! {msg.ind.fn} < {fn}")
      else .ok (queue, sendNope b fn p)

/-- The loop over timeslots and transceivers, one head of the queue after the other. -/
def txLoop (b : BtsCt) (fn : Nat) : List TsTrx → List Queued →
    Except Fault (List Queued × List (Out Other))
  | [], queue => .ok (queue, [])
  | p :: ps, queue =>
      -- TRX+TS not activated: continue
      if pdchActive b.trx p = false then txLoop b fn ps queue
      else
        match txTurn b fn p queue with
        | .error e => .error e
        | .ok (queue', os) => (txLoop b fn ps queue').map (fun r => (r.1, os ++ r.2))

/-- The order of the two loops. -/
def allTsTrx (trx : List PcuifInfoTrx) : List TsTrx :=
  (List.range 8).flatMap (fun ts => (List.range trx.length).map (fun t => ⟨ts, t⟩))

/-- `f_TxDataIndFn` -/
def fTxDataIndFn (b : BtsCt) (fn : Nat) : Except Fault (BtsCt × List (Out Other)) :=
  (txLoop b fn (allTsTrx b.trx) b.pdtchDataQueue).map
    (fun r => ({ b with pdtchDataQueue := r.1 }, r.2))

/-- An RTS.req with its TDMA frame and block number patched. -/
def sendRts (b : BtsCt) (fn : Nat) (req : PcuifRtsReq) : Out Other :=
  .pcuif ⟨b.btsNr, .rtsReq { req with fn := fn, blockNr := fn2macblock fn }⟩

/-- The alternatives of `as_BTS_CT_TDMASched` that are not about DATA.ind. -/
def onOtherEvent (b : BtsCt) (ev : RawPcuEvent) : BtsCt × List (Out Other) :=
  match ev.event with
  | .pdtchBlockBeg =>
      let timeInd : Out Other := .pcuif ⟨b.btsNr, .timeInd ev.tdmaFn⟩
      match b.pdtchRtsQueue with
      | [] => (b, [timeInd])
      | req :: queue => ({ b with pdtchRtsQueue := queue }, [sendRts b ev.tdmaFn req, timeInd])
  | .ptcchDlBlock =>
      match b.ptcchRtsQueue with
      | [] => (b, [])
      | req :: queue => ({ b with ptcchRtsQueue := queue }, [sendRts b (ev.tdmaFn - 78) req])
  | .ptcchUlBurst => (b, if b.cfgPtcchBurstFwd then [.tc ev] else [])
  | .pdtchBlockEnd | .pdtchBlockSent => (b, [])

/-- `as_BTS_CT_TDMASched` -/
def asBtsCtTdmaSched (b : BtsCt) (ev : RawPcuEvent) : Except Fault (BtsCt × List (Out Other)) :=
  match ev.event with
  -- FN matching the beginning of current block
  | .pdtchBlockEnd => fTxDataIndFn b (ev.tdmaFn - 3)
  | _ => .ok (onOtherEvent b ev)

/-- The events of a frame, one after the other. -/
def onEvents (b : BtsCt) : List RawPcuEvent → Except Fault (BtsCt × List (Out Other))
  | [] => .ok (b, [])
  | ev :: evs =>
      match asBtsCtTdmaSched b ev with
      | .error e => .error e
      | .ok (b', os) => (onEvents b' evs).map (fun r => (r.1, os ++ r.2))

/-- What the test case sends. -/
inductive TcMessage (Other : Type) where
  | dataInd (m : Queued)
  | rtsReq (req : PcuifRtsReq)
  | other (msg : Other)
  | enablePtcchUlFwd
  deriving DecidableEq

/-- `as_BTS_CT_MsgQueue` -/
def asBtsCtMsgQueue (b : BtsCt) : TcMessage Other → BtsCt × List (Out Other)
  | .dataInd m =>
      if m.ind.sapi = .bcch then (b, [.pcuif ⟨b.btsNr, .dataInd m.ind⟩])
      else ({ b with pdtchDataQueue := b.pdtchDataQueue ++ [m] }, [])
  | .rtsReq req =>
      if req.sapi = .pdtch then ({ b with pdtchRtsQueue := b.pdtchRtsQueue ++ [req] }, [])
      else if req.sapi = .ptcch then
        ({ b with ptcchRtsQueue := b.ptcchRtsQueue ++ [req] }, [])
      -- Forward other messages directly to the PCU
      else (b, [.pcuif ⟨b.btsNr, .rtsReq req⟩])
  | .other msg => (b, [.pcuif ⟨b.btsNr, .other msg⟩])
  | .enablePtcchUlFwd => ({ b with cfgPtcchBurstFwd := true }, [])

/-- The component and the frame of its clock generator. -/
structure Sys where
  bts : BtsCt
  fn : Nat

/-- A message of the test case, or the next frame. -/
inductive Input (Other : Type) where
  | tc (msg : TcMessage Other)
  | frame
  deriving DecidableEq

/-- One step of the BTS and its clock. -/
def sysStep (s : Sys) : Input Other → Except Fault (Sys × List (Out Other))
  | .tc msg => .ok (⟨(asBtsCtMsgQueue s.bts msg).1, s.fn⟩, (asBtsCtMsgQueue s.bts msg).2)
  | .frame => (onEvents s.bts (clckEvents s.fn)).map
      (fun r => (⟨r.1, fGsmFnSum s.fn 1⟩, r.2))

-- ── What is to be sent ───────────────────────────────────────────────────────

/-- The active timeslots, in the order in which they are served. -/
def activeTsTrx (b : BtsCt) : List TsTrx := (allTsTrx b.trx).filter (pdchActive b.trx)

/-- The timeslot that a message is for. -/
def slotOf (m : Queued) : TsTrx := ⟨m.ind.tsNr, m.ind.trxNr⟩

/-- The loops as a round over the active PDCHs. -/
def txRules (Other : Type) (b : BtsCt) (fn : Nat) :
    PolledQueue.Rules TsTrx Queued Fault (Out Other) where
  slotOf := slotOf
  serve m := m.ind.fn = 0 ∨ m.ind.fn = fn
  late m := if m.ind.fn < fn then
      some (.shutdown s!"We are late scheduling the block! {m.ind.fn} < {fn}")
    else none
  report p msg := msg.elim (sendNope b fn p) (sendMsg b fn)

/-- Each active PDCH gets the message that is meant for its block at `fn`, the
    first should there be more, and an empty one when there is none; what is
    meant for the block leaves the queue and everything else stays. -/
def dueDataInd (b : BtsCt) (fn : Nat) : BtsCt × List (Out Other) :=
  let r := PolledQueue.dueRound (txRules Other b fn) (fun m => m.meant.due fn) (activeTsTrx b)
    b.pdtchDataQueue
  ({ b with pdtchDataQueue := r.1 }, r.2)

/-- The events of a frame that does not end a block. -/
def otherEvents (b : BtsCt) : List RawPcuEvent → BtsCt × List (Out Other)
  | [] => (b, [])
  | ev :: evs =>
      ((otherEvents (onOtherEvent b ev : BtsCt × List (Out Other)).1 evs).1,
        (onOtherEvent b ev).2
          ++ (otherEvents (onOtherEvent b ev : BtsCt × List (Out Other)).1 evs).2)

/-- A frame that ends a block sends what is due in it.  Nothing is ever late. -/
def specStep (s : Sys) : Input Other → Sys × List (Out Other)
  | .tc msg => (⟨(asBtsCtMsgQueue s.bts msg).1, s.fn⟩, (asBtsCtMsgQueue s.bts msg).2)
  | .frame =>
      let r := if isBlockEnd s.fn then dueDataInd s.bts (s.fn - 3)
        else otherEvents s.bts (clckEvents s.fn)
      (⟨r.1, fGsmFnSum s.fn 1⟩, r.2)

/-- Timeslot first. -/
def Before (p p' : TsTrx) : Prop := p.tsNr < p'.tsNr ∨ (p.tsNr = p'.tsNr ∧ p.trxNr < p'.trxNr)

instance (p p' : TsTrx) : Decidable (Before p p') :=
  inferInstanceAs (Decidable (_ ∨ (_ ∧ _)))

/-- The messages for the block at `fn` that are at the front of the queue. -/
def inFront (b : BtsCt) (fn : Nat) : List Queued :=
  b.pdtchDataQueue.takeWhile (fun m => m.meant.due fn)

/-- What is behind them. -/
def behind (b : BtsCt) (fn : Nat) : List Queued :=
  b.pdtchDataQueue.dropWhile (fun m => m.meant.due fn)

/-- The PDCH has its turn after those that get a message for the block. -/
def TurnComes (b : BtsCt) (fn : Nat) (m : Queued) : Prop :=
  slotOf m ∈ activeTsTrx b ∧ ∀ m' ∈ inFront b fn, Before (slotOf m') (slotOf m)

/-- The messages for the block at `fn` are at the front of the queue, in the
    order in which the PDCHs have their turns, and each carries 0 or `fn`; the
    message behind them, when its PDCH has its turn after theirs, carries a
    number above `fn`. -/
structure BlockReady (b : BtsCt) (fn : Nat) : Prop where
  carried : ∀ m ∈ inFront b fn, slotOf m ∈ activeTsTrx b ∧ (m.ind.fn = 0 ∨ m.ind.fn = fn)
  inOrder : (inFront b fn).Pairwise (fun m m' => Before (slotOf m) (slotOf m'))
  allInFront : ∀ m ∈ behind b fn, m.meant.due fn = false
  ahead : ∀ m ∈ (behind b fn).head?, TurnComes b fn m → fn < m.ind.fn

instance (b : BtsCt) (fn : Nat) (m : Queued) : Decidable (TurnComes b fn m) :=
  inferInstanceAs (Decidable (_ ∧ _))

instance (b : BtsCt) (fn : Nat) : Decidable (BlockReady b fn) :=
  decidable_of_iff
    ((∀ m ∈ inFront b fn, slotOf m ∈ activeTsTrx b ∧ (m.ind.fn = 0 ∨ m.ind.fn = fn))
      ∧ (inFront b fn).Pairwise (fun m m' => Before (slotOf m) (slotOf m'))
      ∧ (∀ m ∈ behind b fn, m.meant.due fn = false)
      ∧ ∀ m ∈ (behind b fn).head?, TurnComes b fn m → fn < m.ind.fn)
    ⟨fun ⟨h1, h2, h3, h4⟩ => ⟨h1, h2, h3, h4⟩, fun ⟨h1, h2, h3, h4⟩ => ⟨h1, h2, h3, h4⟩⟩

/-- The frame does not end a block, or the queue is ready for the block. -/
def HoldsWhen (s : Sys) : Input Other → Prop
  | .tc _ => True
  | .frame => isBlockEnd s.fn = true → BlockReady s.bts (s.fn - 3)

instance (s : Sys) : (i : Input Other) → Decidable (HoldsWhen s i)
  | .tc _ => isTrue trivial
  | .frame => inferInstanceAs (Decidable (_ → _))

-- ── The loops are a round ────────────────────────────────────────────────────

/-- The head of the queue is first for its own timeslot and for no other. -/
theorem firstFor_cons (p : TsTrx) (m : Queued) (q : List Queued) :
    firstFor p (m :: q) = if slotOf m = p then some m else none := by
  obtain ⟨ts, trx⟩ := p
  have hiff : slotOf m = ⟨ts, trx⟩ ↔ m.ind.trxNr = trx ∧ m.ind.tsNr = ts := by
    rw [slotOf, TsTrx.mk.injEq]
    exact And.comm
  show (some m).filter _ = _
  rw [Option.filter]
  by_cases h : slotOf m = ⟨ts, trx⟩
  · rw [if_pos h, if_pos (decide_eq_true (hiff.mp h))]
  · rw [if_neg h, if_neg fun hd => h (hiff.mpr (of_decide_eq_true hd))]

/-- A turn of the loop is a turn of a polled queue. -/
theorem txTurn_eq (b : BtsCt) (fn : Nat) (p : TsTrx) (q : List Queued) :
    txTurn b fn p q = PolledQueue.turn (txRules Other b fn) p q := by
  cases q with
  | nil => rfl
  | cons m q =>
      rw [txTurn, firstFor_cons, PolledQueue.turn]
      show _ = if slotOf m = p then
          if decide (m.ind.fn = 0 ∨ m.ind.fn = fn) = true then _ else _ else _
      by_cases hp : slotOf m = p
      · rw [if_pos hp, if_pos hp]
        show (if _ then _ else _) = _
        by_cases hserve : m.ind.fn = 0 ∨ m.ind.fn = fn
        · rw [if_pos hserve, if_pos (decide_eq_true hserve)]
          rfl
        · rw [if_neg hserve, if_neg fun hd => hserve (of_decide_eq_true hd)]
          by_cases hlate : m.ind.fn < fn
          · have hrule : (txRules Other b fn).late m
                = some (.shutdown s!"We are late scheduling the block! {m.ind.fn} < {fn}") :=
              if_pos hlate
            rw [if_pos hlate, hrule]
          · have hrule : (txRules Other b fn).late m = none := if_neg hlate
            rw [if_neg hlate, hrule]
            rfl
      · rw [if_neg hp, if_neg hp]
        rfl

/-- A PDCH that is not active has no turn. -/
theorem txLoop_eq (b : BtsCt) (fn : Nat) : ∀ (ps : List TsTrx) (q : List Queued),
    txLoop b fn ps q
      = PolledQueue.round (txRules Other b fn) (ps.filter (pdchActive b.trx)) q := by
  intro ps
  induction ps with
  | nil => intro q; rfl
  | cons p ps ih =>
      intro q
      rw [txLoop]
      cases hactive : pdchActive b.trx p with
      | false =>
          rw [if_pos rfl, List.filter_cons_of_neg (by rw [hactive]; exact Bool.false_ne_true)]
          exact ih q
      | true =>
          rw [if_neg Bool.noConfusion, List.filter_cons_of_pos hactive, PolledQueue.round,
            txTurn_eq]
          cases PolledQueue.turn (txRules Other b fn) p q with
          | error e => rfl
          | ok r =>
              show (txLoop b fn ps r.1).map _ = (PolledQueue.round _ _ r.1).map _
              rw [ih]

/-- No two timeslots are each before the other. -/
theorem before_asymm : ∀ p p' : TsTrx, Before p p' → ¬ Before p' p := by
  intro p p' h h'
  rcases h with h | ⟨h, ht⟩ <;> rcases h' with h' | ⟨h', ht'⟩ <;> omega

/-- The loops go up. -/
theorem activeTsTrx_pairwise (b : BtsCt) : (activeTsTrx b).Pairwise Before := by
  refine List.Pairwise.filter _ ?_
  refine List.pairwise_flatMap.mpr ⟨fun ts _ => ?_, ?_⟩
  · refine List.pairwise_map.mpr ?_
    exact List.pairwise_lt_range.imp fun h => Or.inr ⟨rfl, h⟩
  · refine List.pairwise_lt_range.imp fun h => ?_
    intro x hx y hy
    obtain ⟨t, -, rfl⟩ := List.mem_map.mp hx
    obtain ⟨t', -, rfl⟩ := List.mem_map.mp hy
    exact Or.inl h

/-- `BlockReady` in the words of a round. -/
theorem blockReady_iff (b : BtsCt) (fn : Nat) :
    BlockReady b fn ↔ PolledQueue.Ready (txRules Other b fn) Before (fun m => m.meant.due fn)
      (activeTsTrx b) b.pdtchDataQueue := by
  have hserve (m : Queued) : (txRules Other b fn).serve m = true
      ↔ (m.ind.fn = 0 ∨ m.ind.fn = fn) := decide_eq_true_iff
  have hleft (m : Queued) : ((txRules Other b fn).serve m = false
      ∧ ((txRules Other b fn).late m).isNone = true) ↔ fn < m.ind.fn := by
    have hlate : ((txRules Other b fn).late m).isNone = true ↔ ¬ m.ind.fn < fn := by
      show (if _ then _ else _ : Option Fault).isNone = true ↔ _
      by_cases h : m.ind.fn < fn
      · rw [if_pos h]
        exact iff_of_false Bool.false_ne_true (not_not.mpr h)
      · rw [if_neg h]
        exact iff_of_true rfl h
    rw [← Bool.not_eq_true, hserve, hlate]
    omega
  constructor
  · rintro ⟨hcarried, horder, hfront, hahead⟩
    refine ⟨fun m hm => ?_, horder, hfront, fun h hh hslot hafter => ?_⟩
    · exact ⟨(hcarried m hm).1, (hserve m).mpr (hcarried m hm).2⟩
    · exact (hleft h).mpr (hahead h hh ⟨hslot, hafter⟩)
  · rintro ⟨hserved, horder, hfront, halone⟩
    refine ⟨fun m hm => ?_, horder, hfront, fun h hh hturn => ?_⟩
    · exact ⟨(hserved m hm).1, (hserve m).mp (hserved m hm).2⟩
    · exact (hleft h).mp (halone h hh hturn.1 hturn.2)

/-- **A BLOCK IS SENT RIGHT** exactly from a queue that is ready for it. -/
theorem fTxDataIndFn_iff (b : BtsCt) (fn : Nat) :
    fTxDataIndFn b fn = .ok (dueDataInd b fn : BtsCt × List (Out Other)) ↔ BlockReady b fn := by
  rw [@blockReady_iff Other, ← PolledQueue.round_iff before_asymm (activeTsTrx_pairwise b),
    fTxDataIndFn, txLoop_eq]
  show Except.map _ (PolledQueue.round _ (activeTsTrx b) _) = _ ↔ _
  cases PolledQueue.round (txRules Other b fn) (activeTsTrx b) b.pdtchDataQueue with
  | error e => exact iff_of_false (fun h => by cases h) (fun h => by cases h)
  | ok r =>
      constructor
      · intro h
        obtain ⟨hqueue, hos⟩ := Prod.mk.inj (Except.ok.inj h)
        have hqueue' := congrArg BtsCt.pdtchDataQueue hqueue
        exact congrArg Except.ok (Prod.ext hqueue' hos)
      · intro h
        rw [Except.ok.inj h]
        rfl

-- ── Frames ───────────────────────────────────────────────────────────────────

/-- On the last frame of a block the clock says so, and nothing else. -/
theorem clckEvents_blockEnd {fn : Nat} (h : isBlockEnd fn = true) :
    clckEvents fn = [⟨.pdtchBlockEnd, fn⟩] := by
  have hend : fn % 13 = 3 ∨ fn % 13 = 7 ∨ fn % 13 = 11 := of_decide_eq_true h
  have hbegin : ¬ isBlockBegin fn = true := by
    intro hb
    have hb' : fn % 13 = 0 ∨ fn % 13 = 4 ∨ fn % 13 = 8 := of_decide_eq_true hb
    omega
  rw [clckEvents, if_neg hbegin, if_pos h]

/-- On other frames it does not. -/
theorem clckEvents_other {fn : Nat} (h : ¬ isBlockEnd fn = true) :
    ∀ ev ∈ clckEvents fn, ev.event ≠ .pdtchBlockEnd := by
  intro ev hev
  rw [clckEvents, if_neg h] at hev
  split at hev
  · rw [List.mem_singleton.mp hev]
    exact fun heq => by cases heq
  · split at hev
    · split at hev
      · rcases List.mem_cons.mp hev with rfl | hev
        · exact fun heq => by cases heq
        · rw [List.mem_singleton.mp hev]
          exact fun heq => by cases heq
      · rw [List.mem_singleton.mp hev]
        exact fun heq => by cases heq
    · cases hev

/-- On other events nothing is taken from the data queue. -/
theorem asBtsCtTdmaSched_other {ev : RawPcuEvent} (b : BtsCt)
    (h : ev.event ≠ .pdtchBlockEnd) :
    asBtsCtTdmaSched b ev = .ok (onOtherEvent b ev : BtsCt × List (Out Other)) := by
  obtain ⟨event, fn⟩ := ev
  cases event with
  | pdtchBlockEnd => exact absurd rfl h
  | pdtchBlockBeg | ptcchDlBlock | ptcchUlBurst | pdtchBlockSent => rfl

/-- Only the end of a block can stop the test. -/
theorem onEvents_other : ∀ {evs : List RawPcuEvent} (b : BtsCt),
    (∀ ev ∈ evs, ev.event ≠ .pdtchBlockEnd) →
    onEvents b evs = .ok (otherEvents b evs : BtsCt × List (Out Other)) := by
  intro evs
  induction evs with
  | nil => intro b _; rfl
  | cons ev evs ih =>
      intro b h
      rw [onEvents, asBtsCtTdmaSched_other b (h ev List.mem_cons_self)]
      show (onEvents _ evs).map _ = _
      rw [ih _ fun ev' hev => h ev' (List.mem_cons_of_mem ev hev)]
      rfl

/-- At the end of a block the data of the block are sent. -/
theorem onEvents_blockEnd (b : BtsCt) (fn : Nat) :
    onEvents b [⟨.pdtchBlockEnd, fn⟩]
      = (fTxDataIndFn b (fn - 3) : Except Fault (BtsCt × List (Out Other))) := by
  have hsched : asBtsCtTdmaSched b ⟨.pdtchBlockEnd, fn⟩
      = (fTxDataIndFn b (fn - 3) : Except Fault (BtsCt × List (Out Other))) := rfl
  rw [onEvents, hsched]
  cases (fTxDataIndFn b (fn - 3) : Except Fault (BtsCt × List (Out Other))) with
  | error e => rfl
  | ok r =>
      show Except.ok (r.1, r.2 ++ []) = _
      rw [List.append_nil]

/-- **ONE STEP** is right exactly when the queue is ready. -/
theorem stepOk_iff (s : Sys) (i : Input Other) :
    StepOk sysStep specStep Eq s s i ↔ HoldsWhen s i := by
  cases i with
  | tc msg => exact iff_of_true ⟨_, rfl, rfl⟩ trivial
  | frame =>
      have hright : StepOk sysStep (specStep : Sys → Input Other → _) Eq s s .frame
          ↔ onEvents s.bts (clckEvents s.fn) = .ok (if isBlockEnd s.fn
            then (dueDataInd s.bts (s.fn - 3) : BtsCt × List (Out Other))
            else otherEvents s.bts (clckEvents s.fn)) := by
        rw [StepOk, sysStep]
        constructor
        · rintro ⟨s', hstep, hs'⟩
          obtain ⟨r, hr, hmap⟩ := map_ok hstep
          obtain ⟨hsys, hos⟩ := Prod.mk.inj hmap
          have hbts := congrArg Sys.bts (hsys.trans hs')
          exact hr.trans (congrArg Except.ok (Prod.ext hbts hos))
        · intro h
          rw [h]
          exact ⟨_, rfl, rfl⟩
      rw [hright]
      by_cases hend : isBlockEnd s.fn = true
      · rw [clckEvents_blockEnd hend, if_pos hend, onEvents_blockEnd, fTxDataIndFn_iff]
        exact ⟨fun h _ => h, fun h => h hend⟩
      · rw [if_neg hend]
        exact iff_of_true (onEvents_other s.bts (clckEvents_other hend))
          fun h => absurd h hend

end Component

-- ── What is meant is a block ─────────────────────────────────────────────────

/-- The answer to a poll in a downlink block belongs into an uplink block. -/
theorem rrbpBlock_isBlockBegin {n : Nat} (h : isBlockBegin n = true) (rrbp : MacRrbp) :
    isBlockBegin (rrbpBlock n rrbp) = true ∧ rrbpBlock n rrbp < gsmMaxFrameNumber := by
  have hn : n % 13 = 0 ∨ n % 13 = 4 ∨ n % 13 = 8 := of_decide_eq_true h
  have hmod (k : Nat) : fGsmFnSum n k % 13 = (n + k) % 13 :=
    Nat.mod_mod_of_dvd (n + k) (show 13 ∣ gsmMaxFrameNumber by decide)
  have hlt (k : Nat) : fGsmFnSum n k < gsmMaxFrameNumber := Nat.mod_lt _ (by decide)
  have hbegin (k : Nat) : isBlockBegin (fGsmFnSum n k) = true
      ↔ (n + k) % 13 = 0 ∨ (n + k) % 13 = 4 ∨ (n + k) % 13 = 8 := by
    rw [← hmod]
    exact decide_eq_true_iff
  cases rrbp with
  | nplus13 => exact ⟨(hbegin 13).mpr (by omega), hlt 13⟩
  | nplus26 => exact ⟨(hbegin 26).mpr (by omega), hlt 26⟩
  | nplus17or18 =>
      show isBlockBegin (if _ then _ else _) = true ∧ (if _ then _ else _) < _
      by_cases h17 : isBlockBegin (fGsmFnSum n 17) = true
      · rw [if_pos h17]
        exact ⟨h17, hlt 17⟩
      · rw [if_neg h17]
        rw [hbegin] at h17
        exact ⟨(hbegin 18).mpr (by omega), hlt 18⟩
  | nplus21or22 =>
      show isBlockBegin (if _ then _ else _) = true ∧ (if _ then _ else _) < _
      by_cases h21 : isBlockBegin (fGsmFnSum n 21) = true
      · rw [if_pos h21]
        exact ⟨h21, hlt 21⟩
      · rw [if_neg h21]
        rw [hbegin] at h21
        exact ⟨(hbegin 22).mpr (by omega), hlt 22⟩

/-- **A MESSAGE IS SENT ONCE**: one that is meant for the block, and alone with
    that on its PDCH, is what that PDCH sends, and is gone from the queue. -/
theorem dueDataInd_sends {Other : Type} {b : BtsCt} {fn : Nat} {m : Queued}
    (hmem : m ∈ b.pdtchDataQueue) (hdue : m.meant.due fn = true)
    (hactive : slotOf m ∈ activeTsTrx b)
    (halone : ∀ m' ∈ b.pdtchDataQueue, m'.meant.due fn = true → slotOf m' = slotOf m → m' = m) :
    (∃ pre post, (dueDataInd b fn : BtsCt × List (Out Other)).2
        = pre ++ sendMsg b fn m ++ post)
      ∧ m ∉ (dueDataInd b fn : BtsCt × List (Out Other)).1.pdtchDataQueue := by
  have hfind : b.pdtchDataQueue.find?
      (fun m' => m'.meant.due fn && decide (slotOf m' = slotOf m)) = some m := by
    cases hf : b.pdtchDataQueue.find?
        (fun m' => m'.meant.due fn && decide (slotOf m' = slotOf m)) with
    | none =>
        have hno := List.find?_eq_none.mp hf m hmem
        rw [hdue] at hno
        simp at hno
    | some m' =>
        have hprop := List.find?_some hf
        rw [Bool.and_eq_true, decide_eq_true_iff] at hprop
        rw [halone m' (List.mem_of_find?_eq_some hf) hprop.1 hprop.2]
  constructor
  · obtain ⟨pre, post, hsplit⟩ := List.append_of_mem hactive
    have hos : (dueDataInd b fn : BtsCt × List (Out Other)).2
        = (activeTsTrx b).flatMap (fun p => (txRules Other b fn).report p
          (b.pdtchDataQueue.find? (fun m' => m'.meant.due fn && decide (slotOf m' = p)))) := rfl
    rw [hos, hsplit, List.flatMap_append, List.flatMap_cons, hfind, ← List.append_assoc]
    exact ⟨_, _, rfl⟩
  · intro hin
    have hkept : (!m.meant.due fn) = true := (List.mem_filter.mp hin).2
    rw [hdue] at hkept
    cases hkept

-- ── Every run ────────────────────────────────────────────────────────────────

/-- A BTS with PDCHs on timeslots 6 and 7 of its one TRX. -/
def twoPdchs : BtsCt where
  btsNr := 0
  trx := [⟨871, fun ts => ts = 6 ∨ ts = 7⟩]
  pdtchDataQueue := []
  pdtchRtsQueue := []
  ptcchRtsQueue := []
  cfgPtcchBurstFwd := false

/-- A message on a timeslot. -/
def message (ts : Nat) (meant : Meant) : Input Unit :=
  .tc (.dataInd ⟨tsPcuifDataInd 0 ts 0 .pdtch [0] meant.fn 871, meant, rfl⟩)

/-- So many frames pass. -/
def frames (n : Nat) : List (Input Unit) := List.replicate n .frame

end OsmoPcuSched
