import OsmoTtcn.PendingMessagesProofs
import OsmoTtcn.RslEmulationProofs

/-! # Delivery of the messages of a dedicated channel

    A message of a channel that arrives in `IPA_PT` is delivered to the client
    that handles the channel, or parked in the wait queue.  The queue is
    replayed when it is disabled, and not when the client registers: until
    then, what arrives for the client goes past what waits for it.

    `dchan_in_order` proves that in a run in which this never happens each
    message is delivered once, to the client that handles the channel, in the
    order of arrival; and that behind every such run the next round delivers
    what is in front, and the wait queue goes out when it is disabled. -/

namespace OsmoRsl

open OsmoTitan SlotTable ParkedQueue

section Views

variable {n : Nat} {Comp ChanNr Body : Type} [DecidableEq Comp]
variable [DecidableEq ChanNr]

/-- The transceiver and the channel of a message that `main` dispatches.  In
    the BTS role it takes channel activations for itself. -/
def dchanOf (btsRole : Bool) (ud : AspRslUnitdata (RslMessage ChanNr Body)) :
    Option (Nat × ChanNr) :=
  match ud.rsl.kind, btsRole with
  | .dchan, _ => ud.rsl.chanNr.map (Prod.mk (fTrxByStreamId ud.streamId))
  | .chanActiv, false => ud.rsl.chanNr.map (Prod.mk (fTrxByStreamId ud.streamId))
  | _, _ => none

variable (btsRole : Bool) (k : Nat × ChanNr)

/-- The message is of the channel that is asked about. -/
def isFor (ud : AspRslUnitdata (RslMessage ChanNr Body)) : Bool :=
  decide (dchanOf btsRole ud = some k)

/-- The message on the port, if it is one. -/
def IpaPdu.unitdata :
    IpaPdu ChanNr Body → Option (AspRslUnitdata (RslMessage ChanNr Body))
  | .ud rxRsl => some rxRsl
  | .event _ => none

/-- The messages of the channel in the wait queue and in the port. -/
def buffer (s : State n Comp ChanNr Body) :
    Buffer (AspRslUnitdata (RslMessage ChanNr Body)) where
  parked := s.waitingQueue.filter (isFor btsRole k)
  pending := (s.ipaPt.filterMap IpaPdu.unitdata).filter (isFor btsRole k)

/-- The messages of the channel that an event brings. -/
def arrived : Event Comp ChanNr Body →
    List (AspRslUnitdata (RslMessage ChanNr Body))
  | .arrive pdu => pdu.unitdata.toList.filter (isFor btsRole k)
  | _ => []

/-- What a component is given, if the output is that. -/
def Output.toClient : Output Comp ChanNr Body →
    Option (Comp × AspRslUnitdata (RslMessage ChanNr Body))
  | .client comp rxRsl => some (comp, rxRsl)
  | _ => none

/-- The messages of the channel that go to clients, with these. -/
def delivered (outs : List (Output Comp ChanNr Body)) :
    List (Comp × AspRslUnitdata (RslMessage ChanNr Body)) :=
  (outs.filterMap Output.toClient).filter (fun d => isFor btsRole k d.2)

/-- What a client gets of the channel in a run. -/
def received (client : Comp) (outs : List (List (Output Comp ChanNr Body))) :
    List (AspRslUnitdata (RslMessage ChanNr Body)) :=
  ((outs.flatMap (delivered btsRole k)).filter
    (fun d => decide (d.1 = client))).map Prod.snd

/-- The client that handles the channel. -/
def handler (s : State n Comp ChanNr Body) : Option Comp :=
  (fCidByChanNr s.connectionTable k.1 k.2).bind
    (fun cid => (s.connectionTable cid).compRef)

/-- A message that can be delivered from the port finds no message of its
    channel in the wait queue. -/
def InTurn (s : State n Comp ChanNr Body) : Event Comp ChanNr Body → Prop
  | .rxIpa => ∀ rxRsl ∈ s.ipaPt.head?.bind IpaPdu.unitdata,
      dchanOf btsRole rxRsl = some k → s.dchanSuspended = false →
      (fCidByChanNr s.connectionTable k.1 k.2).isSome = true →
      (buffer btsRole k s).parked = []
  | _ => True

/-- A message of a channel that a client handles. -/
def Handled (s : State n Comp ChanNr Body) (rxRsl : AspRslUnitdata (RslMessage ChanNr Body)) :
    Prop :=
  ∃ k client, dchanOf btsRole rxRsl = some k ∧ handler k s = some client

/-- **MESSAGES GO ON** from a state: the one in front is delivered, or parked
    where nobody handles its channel; a port with messages of handled channels
    is emptied; a wait queue of such messages goes out; and who registers
    handles the channel. -/
structure GoesOn (s : State n Comp ChanNr Body) : Prop where
  next : ∀ rxRsl rest client, s.ipaPt = .ud rxRsl :: rest → dchanOf btsRole rxRsl = some k →
    s.dchanSuspended = false → handler k s = some client →
    mainStep btsRole s .rxIpa = .ok ({ s with ipaPt := rest }, [.client client rxRsl])
  parks : ∀ rxRsl rest, s.ipaPt = .ud rxRsl :: rest → dchanOf btsRole rxRsl = some k →
    s.dchanSuspended = false → fCidByChanNr s.connectionTable k.1 k.2 = none →
    s.waitQueueEnabled = true → mainStep btsRole s .rxIpa
      = .ok ({ s with ipaPt := rest, waitingQueue := s.waitingQueue ++ [rxRsl] }, [])
  drains : s.dchanSuspended = false →
    (∀ pdu ∈ s.ipaPt, ∃ rxRsl, pdu = .ud rxRsl ∧ Handled btsRole s rxRsl) →
    ∃ outs, RunGuard.run (mainStep btsRole) s (List.replicate s.ipaPt.length .rxIpa)
        = .ok ({ s with ipaPt := [] }, outs)
      ∧ (outs.flatMap (delivered btsRole k)).map Prod.snd = (buffer btsRole k s).pending
  replays : ∀ client, s.waitQueueEnabled = true →
    (∀ rxRsl ∈ s.waitingQueue, Handled btsRole s rxRsl) →
    ∃ outs, mainStep btsRole s (.waitQueue false client)
        = .ok ({ s with waitingQueue := [], waitQueueEnabled := false }, outs)
      ∧ (delivered btsRole k outs).map Prod.snd = (buffer btsRole k s).parked
      ∧ ∀ d ∈ delivered btsRole k outs, handler k s = some d.1
  registers : ∀ hdlr s' outs, mainStep btsRole s (.register k.1 k.2 hdlr) = .ok (s', outs) →
    fCidByChanNr s.connectionTable k.1 k.2 = none → handler k s' = some hdlr
  others : ∀ k' hdlr s' outs, k ≠ k' →
    mainStep btsRole s (.register k'.1 k'.2 hdlr) = .ok (s', outs)
      ∨ mainStep btsRole s (.unregister k'.1 k'.2 hdlr) = .ok (s', outs) →
    handler k s' = handler k s

/-- **DELIVERY OF A CHANNEL** in a run from `s` to `s'`: nothing is lost, sent
    twice or overtaken; a client that handles the channel all along gets it
    all, and one that never does gets nothing; and it goes on from there. -/
structure Delivers (s : State n Comp ChanNr Body)
    (es : List (Event Comp ChanNr Body)) (s' : State n Comp ChanNr Body)
    (outs : List (List (Output Comp ChanNr Body))) : Prop where
  conserved : (outs.flatMap (delivered btsRole k)).map Prod.snd
      ++ (buffer btsRole k s').waiting
    = (buffer btsRole k s).waiting ++ es.flatMap (arrived btsRole k)
  handling : ∀ client,
    RunGuard.Guarded (mainStep btsRole) (fun s _ => handler k s = some client) s es →
    received btsRole k client outs ++ (buffer btsRole k s').waiting
      = (buffer btsRole k s).waiting ++ es.flatMap (arrived btsRole k)
  others : ∀ client,
    RunGuard.Guarded (mainStep btsRole) (fun s _ => handler k s ≠ some client) s es →
    received btsRole k client outs = []
  goesOn : GoesOn btsRole k s'

end Views

-- ── What each part of the loop gives ─────────────────────────────────────────

section Steps

variable {n : Nat} {Comp ChanNr Body : Type} [DecidableEq Comp]
variable [DecidableEq ChanNr] {t : ConnectionTable n Comp ChanNr}
variable {s s' : State n Comp ChanNr Body} {outs : List (Output Comp ChanNr Body)}
variable {rxRsl : AspRslUnitdata (RslMessage ChanNr Body)}
variable {btsRole : Bool} {k : Nat × ChanNr}

/-- Only this message goes to clients. -/
def OnlyOf (rxRsl : AspRslUnitdata (RslMessage ChanNr Body))
    (outs : List (Output Comp ChanNr Body)) : Prop :=
  ∀ d ∈ outs.filterMap Output.toClient, d.2 = rxRsl

omit [DecidableEq Comp] in
/-- A message of another channel delivers nothing. -/
theorem OnlyOf.delivered_nil (h : OnlyOf rxRsl outs)
    (hk : dchanOf btsRole rxRsl ≠ some k) : delivered btsRole k outs = [] := by
  refine List.filter_eq_nil_iff.mpr (fun d hd => ?_)
  rw [h d hd]
  exact fun hfor => hk (of_decide_eq_true hfor)

omit [DecidableEq Comp] [DecidableEq ChanNr] in
/-- What is sent to a client is sent to the one of the entry. -/
theorem sendToClient_ok {cid : Fin n} {out : Output Comp ChanNr Body}
    (h : sendToClient t cid rxRsl = .ok out) :
    ∃ client, (t cid).compRef = some client ∧ out = .client client rxRsl := by
  rw [sendToClient] at h
  cases hc : (t cid).compRef with
  | none =>
      rw [hc] at h
      exact nomatch h
  | some client =>
      rw [hc] at h
      exact ⟨client, rfl, (Except.ok.inj h).symm⟩

omit [DecidableEq Comp] in
theorem fCidOf_ok {cid : Option (Fin n)} (h : fCidOf t rxRsl = .ok cid) :
    ∃ chanNr, rxRsl.rsl.chanNr = some chanNr
      ∧ cid = fCidByChanNr t (fTrxByStreamId rxRsl.streamId) chanNr := by
  obtain ⟨chanNr, hchan, hcid⟩ := map_ok h
  refine ⟨chanNr, ?_, hcid.symm⟩
  rw [chanNrOf] at hchan
  cases hc : rxRsl.rsl.chanNr with
  | none =>
      rw [hc] at hchan
      exact nomatch hchan
  | some c =>
      rw [hc] at hchan
      exact congrArg some (Except.ok.inj hchan)

omit [DecidableEq Comp] in
/-- A message that was parked goes to the handler of its channel. -/
theorem dispatchOne_ok {out : Output Comp ChanNr Body}
    (h : dispatchOne t rxRsl = .ok out) :
    ∃ chanNr cid client, rxRsl.rsl.chanNr = some chanNr
      ∧ fCidByChanNr t (fTrxByStreamId rxRsl.streamId) chanNr = some cid
      ∧ (t cid).compRef = some client ∧ out = .client client rxRsl := by
  obtain ⟨cid, hcid, hsend⟩ := bind_ok h
  obtain ⟨chanNr, hchan, rfl⟩ := fCidOf_ok hcid
  cases hf : fCidByChanNr t (fTrxByStreamId rxRsl.streamId) chanNr with
  | none =>
      rw [hf] at hsend
      exact nomatch hsend
  | some i =>
      rw [hf] at hsend
      obtain ⟨client, hcomp, hout⟩ := sendToClient_ok hsend
      exact ⟨chanNr, i, client, hchan, hf, hcomp, hout⟩

omit [DecidableEq Comp] [DecidableEq ChanNr] in
/-- A message that `main` dispatches has a channel number. -/
theorem dchanOf_some (h : dchanOf btsRole rxRsl = some k) :
    rxRsl.rsl.chanNr = some k.2 ∧ fTrxByStreamId rxRsl.streamId = k.1 := by
  have hmap : rxRsl.rsl.chanNr.map (Prod.mk (fTrxByStreamId rxRsl.streamId))
      = some k := by
    unfold dchanOf at h
    split at h
    · exact h
    · exact h
    · exact nomatch h
  obtain ⟨chanNr, hchan, rfl⟩ := Option.map_eq_some_iff.mp hmap
  exact ⟨hchan, rfl⟩

omit [DecidableEq Comp] in
/-- The whole queue goes out, each message to the client of its channel. -/
theorem dispatch_ok :
    ∀ (queue : List (AspRslUnitdata (RslMessage ChanNr Body)))
      (outs : List (Output Comp ChanNr Body)),
      fWaitingQueueDispatch s.connectionTable queue = .ok outs →
      (outs.filterMap Output.toClient).map Prod.snd = queue
        ∧ ∀ d ∈ outs.filterMap Output.toClient, ∀ btsRole k,
          dchanOf btsRole d.2 = some k → handler k s = some d.1 := by
  intro queue
  induction queue with
  | nil =>
      intro outs h
      rw [fWaitingQueueDispatch, List.mapM_nil] at h
      rw [← Except.ok.inj h]
      exact ⟨rfl, fun d hd => nomatch hd⟩
  | cons q queue ih =>
      intro outs h
      rw [fWaitingQueueDispatch, List.mapM_cons] at h
      obtain ⟨out, hout, h⟩ := bind_ok h
      obtain ⟨outs', houts, h⟩ := bind_ok h
      obtain ⟨hqueue, hto⟩ := ih outs' houts
      obtain ⟨chanNr, cid, client, hchan, hcid, hcomp, rfl⟩ := dispatchOne_ok hout
      rw [← Except.ok.inj h]
      constructor
      · exact congrArg (List.cons q) hqueue
      · intro d hd btsRole k hk
        rcases List.mem_cons.mp hd with rfl | hd
        · obtain ⟨hnr, htrx⟩ := dchanOf_some hk
          rw [hchan] at hnr
          rw [handler, ← htrx, ← Option.some.inj hnr, hcid]
          exact hcomp
        · exact hto d hd btsRole k hk

-- ── What is taken from the port ──────────────────────────────────────────────

/-- What the alternatives for a message may do: leave the wait queue alone and
    send the message around, where it is not of a dedicated channel; deliver it
    to the client of its channel; or park it. -/
inductive Taken (btsRole : Bool) (s : State n Comp ChanNr Body)
    (rxRsl : AspRslUnitdata (RslMessage ChanNr Body)) :
    State n Comp ChanNr Body → List (Output Comp ChanNr Body) → Prop where
  | common {s' : State n Comp ChanNr Body} {outs : List (Output Comp ChanNr Body)}
      (hkind : dchanOf btsRole rxRsl = none) (hport : s'.ipaPt = s.ipaPt)
      (hqueue : s'.waitingQueue = s.waitingQueue) (honly : OnlyOf rxRsl outs) :
      Taken btsRole s rxRsl s' outs
  | toHandler {k : Nat × ChanNr} {client : Comp}
      (hkind : dchanOf btsRole rxRsl = some k) (hsusp : s.dchanSuspended = false)
      (hclient : handler k s = some client) :
      Taken btsRole s rxRsl s [.client client rxRsl]
  | toQueue {k : Nat × ChanNr} (hkind : dchanOf btsRole rxRsl = some k) :
      Taken btsRole s rxRsl
        { s with waitingQueue := s.waitingQueue ++ [rxRsl] } []

omit [DecidableEq Comp] [DecidableEq ChanNr] in
theorem onlyOf_client (client : Comp) : OnlyOf rxRsl [.client client rxRsl] := by
  intro d hd
  rw [List.mem_singleton.mp hd]

omit [DecidableEq Comp] [DecidableEq ChanNr] in
theorem immAssRejLoop_only : ∀ (ras : List UInt8) (t : ConnectionTable n Comp ChanNr)
    (r : ConnectionTable n Comp ChanNr × List (Output Comp ChanNr Body)),
    immAssRejLoop rxRsl t ras = .ok r → OnlyOf rxRsl r.2 := by
  intro ras
  induction ras with
  | nil =>
      intro t r h
      rw [← Except.ok.inj h]
      exact fun d hd => nomatch hd
  | cons ra ras ih =>
      intro t r h
      rw [immAssRejLoop] at h
      cases hf : fCidByRaFn t ra 23 with
      | none =>
          rw [hf] at h
          exact ih t r h
      | some cid =>
          rw [hf] at h
          obtain ⟨out, hout, h⟩ := bind_ok h
          obtain ⟨r', hr', h⟩ := bind_ok h
          obtain ⟨client, -, rfl⟩ := sendToClient_ok hout
          rw [← Except.ok.inj h]
          intro d hd
          rcases List.mem_cons.mp hd with rfl | hd
          · rfl
          · exact ih _ r' hr' d hd

omit [DecidableEq Comp] in
/-- A message of a dedicated channel is delivered or parked. -/
theorem rxDchan_taken (hkind : rxRsl.rsl.chanNr.map
      (Prod.mk (fTrxByStreamId rxRsl.streamId)) = dchanOf btsRole rxRsl)
    (hsusp : s.dchanSuspended = false) (h : rxDchan s rxRsl = .ok (s', outs)) :
    Taken btsRole s rxRsl s' outs := by
  obtain ⟨cid, hcid, h⟩ := bind_ok h
  obtain ⟨chanNr, hchan, rfl⟩ := fCidOf_ok hcid
  rw [hchan] at hkind
  cases hf : fCidByChanNr s.connectionTable
      (fTrxByStreamId rxRsl.streamId) chanNr with
  | some i =>
      rw [hf] at h
      obtain ⟨out, hout, h⟩ := bind_ok h
      obtain ⟨client, hcomp, rfl⟩ := sendToClient_ok hout
      obtain ⟨rfl, rfl⟩ := Prod.mk.inj (Except.ok.inj h)
      refine Taken.toHandler hkind.symm hsusp ?_
      show (fCidByChanNr s.connectionTable _ chanNr).bind _ = _
      rw [hf]
      exact hcomp
  | none =>
      rw [hf] at h
      by_cases hq : s.waitQueueEnabled = true
      · simp only [if_pos hq] at h
        obtain ⟨rfl, rfl⟩ := Prod.mk.inj (Except.ok.inj h)
        exact Taken.toQueue hkind.symm
      · simp only [if_neg hq] at h
        exact nomatch h

omit [DecidableEq Comp] in
/-- A message that a client gets, after a change of the table. -/
theorem sendToClient_taken {t t' : ConnectionTable n Comp ChanNr} {cid : Fin n}
    (hkind : dchanOf btsRole rxRsl = none)
    (h : (sendToClient t cid rxRsl).map (fun out => ({ s with connectionTable := t' }, [out]))
      = .ok (s', outs)) :
    Taken btsRole s rxRsl s' outs := by
  obtain ⟨out, hout, heq⟩ := map_ok h
  obtain ⟨client, -, rfl⟩ := sendToClient_ok hout
  obtain ⟨rfl, rfl⟩ := Prod.mk.inj heq
  exact Taken.common hkind rfl rfl (onlyOf_client client)

omit [DecidableEq Comp] in
/-- An IMMEDIATE ASSIGNMENT is of no dedicated channel. -/
theorem rxImmAssign_taken {rr : Option (GsmRrPayload ChanNr)}
    (hkind : dchanOf btsRole rxRsl = none)
    (h : rxImmAssign s rxRsl rr = .ok (s', outs)) :
    Taken btsRole s rxRsl s' outs := by
  cases rr with
  | none => exact nomatch h
  | some rr =>
      cases rr with
      | immAss ra chanNr =>
          rw [rxImmAssign] at h
          cases hf : fCidByRaFn s.connectionTable ra 23 with
          | none =>
              rw [hf] at h
              exact nomatch h
          | some cid =>
              rw [hf] at h
              exact sendToClient_taken hkind h
      | immAssRej ras =>
          obtain ⟨r, hr, heq⟩ := map_ok h
          obtain ⟨rfl, rfl⟩ := Prod.mk.inj heq
          exact Taken.common hkind rfl rfl (immAssRejLoop_only ras _ r hr)
      | other =>
          obtain ⟨rfl, rfl⟩ := Prod.mk.inj (Except.ok.inj h)
          exact Taken.common hkind rfl rfl (fun d hd => nomatch hd)

omit [DecidableEq Comp] in
/-- Nor is a CHANNEL REQUIRED. -/
theorem rxChanRqd_taken {ra : UInt8} {frameNr : RslIeFrameNumber}
    (hkind : dchanOf btsRole rxRsl = none)
    (h : rxChanRqd s rxRsl ra frameNr = .ok (s', outs)) :
    Taken btsRole s rxRsl s' outs := by
  rw [rxChanRqd] at h
  cases hf : fCidByRaFn2 s.connectionTable ra frameNr with
  | none =>
      rw [hf] at h
      obtain ⟨rfl, rfl⟩ := Prod.mk.inj (Except.ok.inj h)
      exact Taken.common hkind rfl rfl (fun d hd => nomatch hd)
  | some cid =>
      rw [hf] at h
      exact sendToClient_taken hkind h

omit [DecidableEq Comp] in
/-- Nor is a CHANNEL ACTIVATION. -/
theorem rxChanActiv_taken (hkind : dchanOf btsRole rxRsl = none)
    (h : rxChanActiv s rxRsl = .ok (s', outs)) :
    Taken btsRole s rxRsl s' outs := by
  obtain ⟨chanNr, -, h⟩ := bind_ok h
  obtain ⟨lastActTable, -, h⟩ := bind_ok h
  obtain ⟨rfl, rfl⟩ := Prod.mk.inj (Except.ok.inj h)
  refine Taken.common hkind rfl rfl (fun d hd => ?_)
  by_cases hack : s.autoChanActAck = true
  · rw [if_pos hack] at hd
    exact nomatch hd
  · rw [if_neg hack] at hd
    exact nomatch hd

omit [DecidableEq Comp] [DecidableEq ChanNr] in
theorem rxPagingCmd_only : OnlyOf rxRsl (rxPagingCmd s rxRsl) := by
  intro d hd
  obtain ⟨out, hout, hd⟩ := List.mem_filterMap.mp hd
  obtain ⟨i, -, hi⟩ := List.mem_filterMap.mp hout
  obtain ⟨client, -, rfl⟩ := Option.map_eq_some_iff.mp hi
  exact congrArg Prod.snd (Option.some.inj hd).symm

omit [DecidableEq Comp] in
/-- Nor is what goes to the user as it is. -/
theorem forwarded_taken (hkind : dchanOf btsRole rxRsl = none)
    (h : some (.ok (s, [.cchan rxRsl]))
      = some (.ok (s', outs) : Except Fault (Next n Comp ChanNr Body))) :
    Taken btsRole s rxRsl s' outs := by
  obtain ⟨rfl, rfl⟩ := Prod.mk.inj (Except.ok.inj (Option.some.inj h))
  exact Taken.common hkind rfl rfl (fun d hd => nomatch hd)

omit [DecidableEq Comp] in
theorem dispatched_taken (hkind : rxRsl.rsl.chanNr.map
      (Prod.mk (fTrxByStreamId rxRsl.streamId)) = dchanOf btsRole rxRsl)
    (h : (if s.dchanSuspended then none else some (rxDchan s rxRsl))
      = some (.ok (s', outs))) : Taken btsRole s rxRsl s' outs := by
  by_cases hsusp : s.dchanSuspended = true
  · rw [if_pos hsusp] at h
    exact nomatch h
  · rw [if_neg hsusp] at h
    exact rxDchan_taken hkind (Bool.eq_false_iff.mpr hsusp) (Option.some.inj h)

omit [DecidableEq Comp] in
/-- **ONE MESSAGE** is taken in one of the three ways. -/
theorem rxRslUd_taken (h : rxRslUd s rxRsl btsRole = some (.ok (s', outs))) :
    Taken btsRole s rxRsl s' outs := by
  unfold rxRslUd at h
  cases hk : rxRsl.rsl.kind with
  | immAssign rr =>
      have hkind : dchanOf btsRole rxRsl = none := by simp only [dchanOf, hk]
      rw [hk] at h
      cases btsRole with
      | true => exact rxImmAssign_taken hkind (Option.some.inj h)
      | false => exact forwarded_taken hkind h
  | chanRqd ra frameNr =>
      have hkind : dchanOf btsRole rxRsl = none := by simp only [dchanOf, hk]
      rw [hk] at h
      cases btsRole with
      | true => exact forwarded_taken hkind h
      | false => exact rxChanRqd_taken hkind (Option.some.inj h)
  | pagingCmd =>
      have hkind : dchanOf btsRole rxRsl = none := by simp only [dchanOf, hk]
      rw [hk] at h
      cases btsRole with
      | true =>
          obtain ⟨rfl, rfl⟩ := Prod.mk.inj (Except.ok.inj (Option.some.inj h))
          exact Taken.common hkind rfl rfl rxPagingCmd_only
      | false => exact forwarded_taken hkind h
  | cchan =>
      rw [hk] at h
      exact forwarded_taken (by simp only [dchanOf, hk]) h
  | trxMgmt =>
      rw [hk] at h
      exact forwarded_taken (by simp only [dchanOf, hk]) h
  | chanActiv =>
      rw [hk] at h
      cases btsRole with
      | true => exact rxChanActiv_taken (by simp only [dchanOf, hk]) (Option.some.inj h)
      | false => exact dispatched_taken (by simp only [dchanOf, hk]) h
  | dchan =>
      rw [hk] at h
      exact dispatched_taken (by simp only [dchanOf, hk]) h
  | unknown =>
      rw [hk] at h
      by_cases hsusp : s.dchanSuspended = true
      · simp only [if_pos hsusp] at h
        exact nomatch h
      · simp only [if_neg hsusp] at h
        exact nomatch h

-- ── What one round does to a channel ─────────────────────────────────────────

/-- A round that sends nothing to clients and leaves the port and the wait
    queue as they are. -/
def Quiet (s s' : State n Comp ChanNr Body)
    (outs : List (Output Comp ChanNr Body)) : Prop :=
  s'.ipaPt = s.ipaPt ∧ s'.waitingQueue = s.waitingQueue
    ∧ outs.filterMap Output.toClient = []

omit [DecidableEq Comp] in
theorem Quiet.delivered_nil (h : Quiet s s' outs) :
    delivered btsRole k outs = [] := by
  rw [delivered, h.2.2]
  rfl

omit [DecidableEq Comp] in
/-- What is quiet moves nothing. -/
theorem Quiet.move (h : Quiet s s' outs) :
    Move (buffer btsRole k s) [] ((delivered btsRole k outs).map Prod.snd)
      (buffer btsRole k s') := by
  have hbuf : buffer btsRole k s' = buffer btsRole k s := by
    rw [buffer, buffer, h.1, h.2.1]
  rw [h.delivered_nil, hbuf]
  exact Move.idle _

omit [DecidableEq Comp] [DecidableEq ChanNr] in
theorem fTrxConnMapRegister_quiet {connId : Int}
    {idResp : Option (List IpaCcmRespPart)} {r : State n Comp ChanNr Body × IpaStreamId}
    (h : fTrxConnMapRegister s connId idResp = .ok r) :
    r.1.ipaPt = s.ipaPt ∧ r.1.waitingQueue = s.waitingQueue := by
  rw [fTrxConnMapRegister] at h
  split at h
  · exact nomatch h
  · split at h
    · exact nomatch h
    · split at h
      · split at h
        · exact nomatch h
        · obtain ⟨sid, -, rfl⟩ := map_ok h
          exact ⟨rfl, rfl⟩
      · exact nomatch h

omit [DecidableEq Comp] [DecidableEq ChanNr] in
theorem fTrxConnMapUnregister_quiet {connId : Int}
    {r : State n Comp ChanNr Body × IpaStreamId}
    (h : fTrxConnMapUnregister s connId = .ok r) :
    r.1.ipaPt = s.ipaPt ∧ r.1.waitingQueue = s.waitingQueue := by
  rw [fTrxConnMapUnregister] at h
  split at h
  · obtain ⟨sid, -, rfl⟩ := map_ok h
    exact ⟨rfl, rfl⟩
  · exact nomatch h

omit [DecidableEq Comp] [DecidableEq ChanNr] in
/-- An event of a connection is quiet. -/
theorem rxEvent_quiet {evt : AspIpaEvent}
    (h : rxEvent s evt btsRole = some (.ok (s', outs))) : Quiet s s' outs := by
  unfold rxEvent at h
  split at h
  · obtain ⟨rfl, rfl⟩ := Prod.mk.inj (Except.ok.inj (Option.some.inj h))
    exact ⟨rfl, rfl, rfl⟩
  · obtain ⟨r, hr, heq⟩ := map_ok (Option.some.inj h)
    obtain ⟨rfl, rfl⟩ := Prod.mk.inj heq
    obtain ⟨hport, hqueue⟩ := fTrxConnMapRegister_quiet hr
    exact ⟨hport, hqueue, rfl⟩
  · split at h
    · exact nomatch h
    · exact nomatch h
  · obtain ⟨r, hr, heq⟩ := map_ok (Option.some.inj h)
    obtain ⟨rfl, rfl⟩ := Prod.mk.inj heq
    obtain ⟨hport, hqueue⟩ := fTrxConnMapUnregister_quiet hr
    exact ⟨hport, hqueue, rfl⟩
  · obtain ⟨rfl, rfl⟩ := Prod.mk.inj (Except.ok.inj (Option.some.inj h))
    exact ⟨rfl, rfl, rfl⟩
  · obtain ⟨rfl, rfl⟩ := Prod.mk.inj (Except.ok.inj (Option.some.inj h))
    exact ⟨rfl, rfl, rfl⟩

omit [DecidableEq Comp] in
/-- A message of another kind or channel leaves the channel as it is. -/
theorem Taken.move_other (hk : dchanOf btsRole rxRsl ≠ some k)
    (h : Taken btsRole s rxRsl s' outs) :
    delivered btsRole k outs = [] ∧ buffer btsRole k s' = buffer btsRole k s := by
  cases h with
  | common hkind hport hqueue honly =>
      refine ⟨honly.delivered_nil hk, ?_⟩
      rw [buffer, buffer, hport, hqueue]
  | toHandler hkind hsusp hclient =>
      exact ⟨(onlyOf_client _).delivered_nil hk, rfl⟩
  | toQueue hkind =>
      refine ⟨rfl, ?_⟩
      have hfor : isFor btsRole k rxRsl = false := decide_eq_false hk
      have hqueue : (s.waitingQueue ++ [rxRsl]).filter (isFor btsRole k)
          = s.waitingQueue.filter (isFor btsRole k) := by
        rw [List.filter_append, List.filter_cons_of_neg (Bool.eq_false_iff.mp hfor),
          List.filter_nil, List.append_nil]
      rw [buffer, buffer, hqueue]

omit [DecidableEq Comp] in
/-- What is taken moves from the port to its handler or into the queue. -/
theorem Taken.move {rest : List (IpaPdu ChanNr Body)}
    (hport : s.ipaPt = .ud rxRsl :: rest)
    (hturn : InTurn btsRole k s (.rxIpa : Event Comp ChanNr Body))
    (h : Taken btsRole { s with ipaPt := rest } rxRsl s' outs) :
    Move (buffer btsRole k s) [] ((delivered btsRole k outs).map Prod.snd)
      (buffer btsRole k s') := by
  have hbuf : buffer btsRole k s
      = ⟨s.waitingQueue.filter (isFor btsRole k),
        (rxRsl :: rest.filterMap IpaPdu.unitdata).filter (isFor btsRole k)⟩ := by
    rw [buffer, hport]
    rfl
  by_cases hk : dchanOf btsRole rxRsl = some k
  · have hfor : isFor btsRole k rxRsl = true := decide_eq_true hk
    rw [List.filter_cons_of_pos hfor] at hbuf
    cases h with
    | common hkind hport' hqueue honly =>
        rw [hk] at hkind
        exact nomatch hkind
    | @toHandler k' client hkind hsusp hclient =>
        obtain rfl : k' = k := Option.some.inj (hkind.symm.trans hk)
        have hfound : (fCidByChanNr s.connectionTable k'.1 k'.2).isSome = true := by
          obtain ⟨cid, hcid, -⟩ := Option.bind_eq_some_iff.mp hclient
          exact Option.isSome_iff_exists.mpr ⟨cid, hcid⟩
        have hfront : rxRsl ∈ s.ipaPt.head?.bind IpaPdu.unitdata := by
          rw [hport]
          rfl
        have hempty : s.waitingQueue.filter (isFor btsRole k') = [] :=
          hturn rxRsl hfront hk hsusp hfound
        have hout : delivered btsRole k' [.client client rxRsl]
            = [(client, rxRsl)] := List.filter_cons_of_pos hfor
        rw [hbuf, hempty, hout]
        have hbuf' : buffer btsRole k' { s with ipaPt := rest }
            = ⟨[], (rest.filterMap IpaPdu.unitdata).filter (isFor btsRole k')⟩ := by
          rw [buffer, hempty]
        rw [hbuf']
        exact Move.deliver rxRsl _
    | toQueue hkind =>
        have hqueue : (s.waitingQueue ++ [rxRsl]).filter (isFor btsRole k)
            = s.waitingQueue.filter (isFor btsRole k) ++ [rxRsl] := by
          rw [List.filter_append, List.filter_cons_of_pos hfor, List.filter_nil]
        rw [hbuf, buffer, hqueue]
        exact Move.park _ rxRsl _
  · have hfor : isFor btsRole k rxRsl = false := decide_eq_false hk
    rw [List.filter_cons_of_neg (Bool.eq_false_iff.mp hfor)] at hbuf
    obtain ⟨hnil, hsame⟩ := h.move_other hk
    rw [hnil, hsame, hbuf]
    exact Move.idle _

omit [DecidableEq Comp] in
/-- Nothing is taken from the port, or an event, or a message. -/
theorem rxIpa_cases (h : rxIpa s btsRole = .ok (s', outs)) :
    Quiet s s' outs
      ∨ (∃ evt rest, s.ipaPt = .event evt :: rest
        ∧ Quiet { s with ipaPt := rest } s' outs)
      ∨ ∃ rxRsl rest, s.ipaPt = .ud rxRsl :: rest
        ∧ Taken btsRole { s with ipaPt := rest } rxRsl s' outs := by
  have hstay : (.ok (s, []) : Except Fault (Next n Comp ChanNr Body))
      = .ok (s', outs) → Quiet s s' outs := by
    intro heq
    obtain ⟨rfl, rfl⟩ := Prod.mk.inj (Except.ok.inj heq)
    exact ⟨rfl, rfl, rfl⟩
  rw [rxIpa] at h
  cases hport : s.ipaPt with
  | nil =>
      rw [hport] at h
      exact Or.inl (hstay h)
  | cons pdu rest =>
      rw [hport] at h
      cases pdu with
      | event evt =>
          cases htaken : rxEvent { s with ipaPt := rest } evt btsRole with
          | none =>
              simp only [htaken] at h
              exact Or.inl (hstay h)
          | some result =>
              simp only [htaken] at h
              rw [h] at htaken
              exact Or.inr (Or.inl ⟨evt, rest, rfl, rxEvent_quiet htaken⟩)
      | ud rxRsl =>
          cases htaken : rxRslUd { s with ipaPt := rest } rxRsl btsRole with
          | none =>
              simp only [htaken] at h
              exact Or.inl (hstay h)
          | some result =>
              simp only [htaken] at h
              rw [h] at htaken
              exact Or.inr (Or.inr ⟨rxRsl, rest, rfl, rxRslUd_taken htaken⟩)

omit [DecidableEq Comp] in
/-- **WHAT COMES FROM THE BTS** moves in turn. -/
theorem rxIpa_move (hturn : InTurn btsRole k s (.rxIpa : Event Comp ChanNr Body))
    (h : rxIpa s btsRole = .ok (s', outs)) :
    Move (buffer btsRole k s) [] ((delivered btsRole k outs).map Prod.snd)
      (buffer btsRole k s') := by
  rcases rxIpa_cases h with hquiet | ⟨evt, rest, hport, hquiet⟩
    | ⟨rxRsl, rest, hport, htaken⟩
  · exact hquiet.move
  · have hbuf : buffer btsRole k { s with ipaPt := rest } = buffer btsRole k s := by
      rw [buffer, buffer, hport]
      rfl
    rw [← hbuf]
    exact hquiet.move
  · exact htaken.move hport hturn

omit [DecidableEq Comp] in
/-- What is delivered from the port goes to the client of the channel. -/
theorem rxIpa_handler (h : rxIpa s btsRole = .ok (s', outs)) :
    ∀ d ∈ delivered btsRole k outs, handler k s = some d.1 := by
  intro d hd
  rcases rxIpa_cases h with hquiet | ⟨evt, rest, -, hquiet⟩
    | ⟨rxRsl, rest, -, htaken⟩
  · rw [hquiet.delivered_nil] at hd
    exact nomatch hd
  · rw [hquiet.delivered_nil] at hd
    exact nomatch hd
  · by_cases hk : dchanOf btsRole rxRsl = some k
    · cases htaken with
      | common hkind hport hqueue honly =>
          rw [hk] at hkind
          exact nomatch hkind
      | @toHandler k' client hkind hsusp hclient =>
          obtain rfl : k' = k := Option.some.inj (hkind.symm.trans hk)
          rw [List.mem_singleton.mp (List.mem_of_mem_filter hd)]
          exact hclient
      | toQueue hkind => exact nomatch hd
    · rw [(htaken.move_other hk).1] at hd
      exact nomatch hd

-- ── Every round ──────────────────────────────────────────────────────────────

omit [DecidableEq Comp] [DecidableEq ChanNr] in
/-- What goes to the BTS is quiet. -/
theorem txIpa_quiet {streamId : IpaStreamId} {rsl : RslMessage ChanNr Body}
    (h : txIpa s btsRole streamId rsl = .ok (s', outs)) : Quiet s s' outs := by
  rw [txIpa] at h
  split at h
  · obtain ⟨rfl, rfl⟩ := Prod.mk.inj (Except.ok.inj h)
    exact ⟨rfl, rfl, rfl⟩
  · obtain ⟨connId, -, heq⟩ := map_ok h
    obtain ⟨rfl, rfl⟩ := Prod.mk.inj heq
    exact ⟨rfl, rfl, rfl⟩

omit [DecidableEq ChanNr] in
theorem rxClientMsg_quiet {client : Comp} {rsl : RslMessage ChanNr Body}
    (h : rxClientMsg s btsRole client rsl = .ok (s', outs)) : Quiet s s' outs := by
  obtain ⟨cid, -, h⟩ := bind_ok h
  split at h
  · exact txIpa_quiet h
  · exact nomatch h

omit [DecidableEq Comp] [DecidableEq ChanNr] in
theorem rxClientChanRqd_quiet {client : Comp} {ra : UInt8} {fn : Option Nat}
    (h : rxClientChanRqd s btsRole client ra fn = .ok (s', outs)) :
    Quiet s s' outs := by
  obtain ⟨table, -, h⟩ := bind_ok h
  split at h
  · obtain ⟨rfl, rfl⟩ := Prod.mk.inj (Except.ok.inj h)
    exact ⟨rfl, rfl, rfl⟩
  · obtain ⟨rfl, rfl⟩ := Prod.mk.inj (Except.ok.inj h)
    exact ⟨rfl, rfl, rfl⟩
  · exact nomatch h

/-- **WHAT A ROUND IS**: the lower layer puts something into the port, or
    `main` takes it, or the wait queue goes out, or the messages stay where
    they are. -/
theorem mainStep_cases {e : Event Comp ChanNr Body} (k : Nat × ChanNr)
    (h : mainStep btsRole s e = .ok (s', outs)) :
    (∃ pdu, e = .arrive pdu ∧ s' = { s with ipaPt := s.ipaPt ++ [pdu] } ∧ outs = [])
      ∨ (e = .rxIpa ∧ rxIpa s btsRole = .ok (s', outs))
      ∨ (arrived btsRole k e = [] ∧ ∃ outs' client,
        fWaitingQueueDispatch s.connectionTable s.waitingQueue = .ok outs'
          ∧ s' = { s with waitingQueue := [], waitQueueEnabled := false }
          ∧ outs = outs' ++ [.reply client none])
      ∨ (arrived btsRole k e = [] ∧ Quiet s s' outs) := by
  cases e with
  | arrive pdu =>
      obtain ⟨rfl, rfl⟩ := Prod.mk.inj (Except.ok.inj h)
      exact Or.inl ⟨pdu, rfl, rfl, rfl⟩
  | rxIpa => exact Or.inr (Or.inl ⟨rfl, h⟩)
  | clientChanRqd client ra fn =>
      exact Or.inr (Or.inr (Or.inr ⟨rfl, rxClientChanRqd_quiet h⟩))
  | clientMsg client rsl =>
      exact Or.inr (Or.inr (Or.inr ⟨rfl, rxClientMsg_quiet h⟩))
  | unitdata ud => exact Or.inr (Or.inr (Or.inr ⟨rfl, txIpa_quiet h⟩))
  | register trxNr chanNr hdlr =>
      obtain ⟨table, -, heq⟩ := map_ok h
      obtain ⟨rfl, rfl⟩ := Prod.mk.inj heq
      exact Or.inr (Or.inr (Or.inr ⟨rfl, rfl, rfl, rfl⟩))
  | unregister trxNr chanNr hdlr =>
      obtain ⟨cid, -, heq⟩ := map_ok h
      obtain ⟨rfl, rfl⟩ := Prod.mk.inj heq
      exact Or.inr (Or.inr (Or.inr ⟨rfl, rfl, rfl, rfl⟩))
  | suspend suspend client =>
      obtain ⟨rfl, rfl⟩ := Prod.mk.inj (Except.ok.inj h)
      exact Or.inr (Or.inr (Or.inr ⟨rfl, rfl, rfl, rfl⟩))
  | waitQueue enable client =>
      have hreply : ∀ b : Bool, ({ s with waitQueueEnabled := b },
          [Output.reply client none]) = (s', outs) → Quiet s s' outs := by
        intro b heq
        obtain ⟨rfl, rfl⟩ := Prod.mk.inj heq
        exact ⟨rfl, rfl, rfl⟩
      cases enable <;> cases hq : s.waitQueueEnabled <;>
        simp only [mainStep, hq] at h
      · exact Or.inr (Or.inr (Or.inr ⟨rfl, hreply _ (Except.ok.inj h)⟩))
      · obtain ⟨outs', hdispatch, heq⟩ := map_ok h
        obtain ⟨rfl, rfl⟩ := Prod.mk.inj heq
        exact Or.inr (Or.inr (Or.inl ⟨rfl, outs', client, hdispatch, rfl, rfl⟩))
      · exact Or.inr (Or.inr (Or.inr ⟨rfl, hreply true (Except.ok.inj h)⟩))
      · exact Or.inr (Or.inr (Or.inr ⟨rfl, hreply _ (Except.ok.inj h)⟩))
  | getLastAct trxNr chanNr client =>
      obtain ⟨chanAct, -, heq⟩ := map_ok h
      obtain ⟨rfl, rfl⟩ := Prod.mk.inj heq
      exact Or.inr (Or.inr (Or.inr ⟨rfl, rfl, rfl, rfl⟩))
  | setAutoChanActAck enable client =>
      obtain ⟨rfl, rfl⟩ := Prod.mk.inj (Except.ok.inj h)
      exact Or.inr (Or.inr (Or.inr ⟨rfl, rfl, rfl, rfl⟩))

omit [DecidableEq Comp] in
theorem delivered_dispatch {outs' : List (Output Comp ChanNr Body)} {client : Comp} :
    delivered btsRole k (outs' ++ [.reply client none])
      = (outs'.filterMap Output.toClient).filter (fun d => isFor btsRole k d.2) := by
  rw [delivered, List.filterMap_append]
  exact congrArg (List.filter _) (List.append_nil _)

/-- **ONE STEP** moves in turn. -/
theorem mainStep_move {e : Event Comp ChanNr Body} (hturn : InTurn btsRole k s e)
    (h : mainStep btsRole s e = .ok (s', outs)) :
    Move (buffer btsRole k s) (arrived btsRole k e)
      ((delivered btsRole k outs).map Prod.snd) (buffer btsRole k s') := by
  rcases mainStep_cases k h with ⟨pdu, rfl, rfl, rfl⟩ | ⟨rfl, hrx⟩
    | ⟨harr, outs', client, hdispatch, rfl, rfl⟩ | ⟨harr, hquiet⟩
  · have hport : buffer btsRole k { s with ipaPt := s.ipaPt ++ [pdu] }
        = ⟨(buffer btsRole k s).parked, (buffer btsRole k s).pending
          ++ arrived btsRole k (.arrive pdu : Event Comp ChanNr Body)⟩ := by
      rw [buffer, arrived, List.filterMap_append, List.filter_append]
      cases pdu <;> rfl
    rw [hport]
    exact Move.arrive _ _ _
  · exact rxIpa_move hturn hrx
  · have hout : (delivered btsRole k (outs' ++ [.reply client none])).map Prod.snd
        = (buffer btsRole k s).parked := by
      rw [delivered_dispatch]
      show _ = s.waitingQueue.filter (isFor btsRole k)
      rw [← (dispatch_ok _ _ hdispatch).1, List.filter_map]
      rfl
    rw [harr, hout]
    exact Move.replay _ _
  · rw [harr]
    exact hquiet.move

/-- What is delivered is delivered to the handler of the channel. -/
theorem mainStep_handler {e : Event Comp ChanNr Body}
    (h : mainStep btsRole s e = .ok (s', outs)) :
    ∀ d ∈ delivered btsRole k outs, handler k s = some d.1 := by
  rcases mainStep_cases k h with ⟨pdu, rfl, rfl, rfl⟩ | ⟨rfl, hrx⟩
    | ⟨-, outs', client, hdispatch, rfl, rfl⟩ | ⟨-, hquiet⟩
  · exact fun d hd => nomatch hd
  · exact rxIpa_handler hrx
  · intro d hd
    rw [delivered_dispatch] at hd
    obtain ⟨hmem, hfor⟩ := List.mem_filter.mp hd
    exact (dispatch_ok _ _ hdispatch).2 d hmem btsRole k (of_decide_eq_true hfor)
  · rw [hquiet.delivered_nil]
    exact fun d hd => nomatch hd

-- ── Registration ─────────────────────────────────────────────────────────────

omit [DecidableEq Comp] in
/-- The slot of a channel changes, and no search for another channel is about
    it: the clients of the others stay. -/
theorem handler_update {i : Fin n} {c : ConnectionData Comp ChanNr}
    (hold : (decide ((s.connectionTable i).chanNr = some k.2
      ∧ (s.connectionTable i).trxNr = some k.1)) = false)
    (hnew : (decide (c.chanNr = some k.2 ∧ c.trxNr = some k.1)) = false) :
    handler k { s with connectionTable := Function.update s.connectionTable i c }
      = handler k s := by
  have hfind : fCidByChanNr (Function.update s.connectionTable i c) k.1 k.2
      = fCidByChanNr s.connectionTable k.1 k.2 := find_update_refused hold hnew
  rw [handler, handler, hfind]
  refine Option.bind_congr (fun cid hcid => ?_)
  have hne : cid ≠ i := by
    rintro rfl
    rw [find_accepts hcid] at hold
    exact nomatch hold
  exact congrArg ConnectionData.compRef (Function.update_of_ne hne _ _)

omit [DecidableEq Comp] in
/-- **A CLIENT REGISTERS** for a channel that nobody handles, and handles it;
    the other channels are handled as before. -/
theorem handler_register {trxNr : Nat} {chanNr : ChanNr} {hdlr : Comp}
    {table : ConnectionTable n Comp ChanNr}
    (h : fCidCreateCnr s.connectionTable trxNr chanNr hdlr = .ok table) :
    (fCidByChanNr s.connectionTable trxNr chanNr = none →
        handler (trxNr, chanNr) { s with connectionTable := table } = some hdlr)
      ∧ ∀ k, k ≠ (trxNr, chanNr) →
        handler k { s with connectionTable := table } = handler k s := by
  rw [fCidCreateCnr] at h
  cases hf : find s.connectionTable ConnectionData.free with
  | none =>
      rw [hf] at h
      exact nomatch h
  | some i =>
      rw [hf] at h
      obtain ⟨streamId, -, rfl⟩ := map_ok h
      have hfree : (s.connectionTable i).free = true := find_accepts hf
      have htrx : (s.connectionTable i).trxNr = none :=
        Option.isNone_iff_eq_none.mp (Bool.and_eq_true_iff.mp hfree).2
      constructor
      · intro hnone
        have hfind := find_update_new (i := i) (s := { s.connectionTable i with
          streamId := some streamId
          trxNr := some trxNr
          chanNr := some chanNr
          compRef := some hdlr }) hnone (decide_eq_true ⟨rfl, rfl⟩)
        show (find _ _).bind _ = _
        rw [hfind]
        exact congrArg ConnectionData.compRef
          (Function.update_self i _ s.connectionTable)
      · intro k hk
        refine handler_update (decide_eq_false ?_) (decide_eq_false ?_)
        · rintro ⟨-, htrx'⟩
          rw [htrx] at htrx'
          exact nomatch htrx'
        · rintro ⟨hchan, htrx⟩
          exact hk (Prod.ext (Option.some.inj htrx).symm (Option.some.inj hchan).symm)

omit [DecidableEq Comp] in
/-- **A CLIENT GOES**, and the other channels are handled as before. -/
theorem handler_unregister {trxNr : Nat} {chanNr : ChanNr} {cid : Fin n}
    (h : fCidByChanNr s.connectionTable trxNr chanNr = some cid)
    (hk : k ≠ (trxNr, chanNr)) :
    handler k { s with connectionTable := fCidClear s.connectionTable cid }
      = handler k s := by
  have htest : decide ((s.connectionTable cid).chanNr = some chanNr
      ∧ (s.connectionTable cid).trxNr = some trxNr) = true := find_accepts h
  obtain ⟨hchan, htrx⟩ := of_decide_eq_true htest
  refine handler_update (decide_eq_false ?_) (decide_eq_false ?_)
  · rintro ⟨hchan', htrx'⟩
    rw [hchan] at hchan'
    rw [htrx] at htrx'
    exact hk (Prod.ext (Option.some.inj htrx').symm (Option.some.inj hchan').symm)
  · rintro ⟨hchan', -⟩
    exact nomatch hchan'

-- ── Progress ─────────────────────────────────────────────────────────────────

omit [DecidableEq Comp] in
/-- The channel of a message that `main` dispatches is looked up. -/
theorem fCidOf_dchan (hk : dchanOf btsRole rxRsl = some k) :
    fCidOf t rxRsl = .ok (fCidByChanNr t k.1 k.2) := by
  obtain ⟨hchan, htrx⟩ := dchanOf_some hk
  rw [fCidOf, chanNrOf, hchan, htrx]
  rfl

omit [DecidableEq Comp] in
/-- Who handles a channel is found in the table, and sent to. -/
theorem sendToClient_handler {client : Comp} (hclient : handler k s = some client) :
    ∃ cid, fCidByChanNr s.connectionTable k.1 k.2 = some cid
      ∧ sendToClient s.connectionTable cid rxRsl = .ok (.client client rxRsl) := by
  obtain ⟨cid, hcid, hcomp⟩ := Option.bind_eq_some_iff.mp hclient
  refine ⟨cid, hcid, ?_⟩
  rw [sendToClient, hcomp]

omit [DecidableEq Comp] in
theorem dispatchOne_handler {client : Comp} (hk : dchanOf btsRole rxRsl = some k)
    (hclient : handler k s = some client) :
    dispatchOne s.connectionTable rxRsl = .ok (.client client rxRsl) := by
  obtain ⟨cid, hcid, hsend⟩ := sendToClient_handler hclient
  show Except.bind (fCidOf s.connectionTable rxRsl) _ = _
  rw [fCidOf_dchan hk, hcid]
  exact hsend

omit [DecidableEq Comp] in
/-- A queue of messages of handled channels goes out. -/
theorem dispatch_handled : ∀ queue : List (AspRslUnitdata (RslMessage ChanNr Body)),
    (∀ rxRsl ∈ queue, Handled btsRole s rxRsl) →
      ∃ outs, fWaitingQueueDispatch s.connectionTable queue = .ok outs := by
  intro queue
  induction queue with
  | nil => exact fun _ => ⟨[], rfl⟩
  | cons rxRsl queue ih =>
      intro h
      obtain ⟨k, client, hk, hclient⟩ := h rxRsl List.mem_cons_self
      obtain ⟨outs, houts⟩ := ih fun q hq => h q (List.mem_cons_of_mem _ hq)
      refine ⟨.client client rxRsl :: outs, ?_⟩
      rw [fWaitingQueueDispatch] at houts ⊢
      rw [List.mapM_cons, dispatchOne_handler hk hclient, houts]
      rfl

omit [DecidableEq Comp] in
/-- A message of a channel is taken as such, unless dispatch is suspended. -/
theorem rxIpa_dchan {rest : List (IpaPdu ChanNr Body)} (hport : s.ipaPt = .ud rxRsl :: rest)
    (hk : dchanOf btsRole rxRsl = some k) (hsusp : s.dchanSuspended = false) :
    rxIpa s btsRole = rxDchan { s with ipaPt := rest } rxRsl := by
  have htaken : rxRslUd { s with ipaPt := rest } rxRsl btsRole
      = some (rxDchan { s with ipaPt := rest } rxRsl) := by
    unfold dchanOf at hk
    unfold rxRslUd
    split at hk
    · rename_i hkind
      simp only [hkind]
      exact if_neg (Bool.eq_false_iff.mp hsusp)
    · rename_i hkind
      simp only [hkind]
      exact if_neg (Bool.eq_false_iff.mp hsusp)
    · exact nomatch hk
  rw [rxIpa, hport]
  simp only [htaken]

/-- **THE MESSAGE IN FRONT** goes to the client that handles its channel. -/
theorem mainStep_next {rest : List (IpaPdu ChanNr Body)} {client : Comp}
    (hport : s.ipaPt = .ud rxRsl :: rest) (hk : dchanOf btsRole rxRsl = some k)
    (hsusp : s.dchanSuspended = false) (hclient : handler k s = some client) :
    mainStep btsRole s .rxIpa = .ok ({ s with ipaPt := rest }, [.client client rxRsl]) := by
  obtain ⟨cid, hcid, hsend⟩ := sendToClient_handler hclient
  show rxIpa s btsRole = _
  rw [rxIpa_dchan hport hk hsusp]
  show Except.bind (fCidOf s.connectionTable rxRsl) _ = _
  rw [fCidOf_dchan hk, hcid]
  show Except.bind (sendToClient s.connectionTable cid rxRsl) _ = _
  rw [hsend]
  rfl

/-- Without a handler the message is parked. -/
theorem mainStep_parks {rest : List (IpaPdu ChanNr Body)}
    (hport : s.ipaPt = .ud rxRsl :: rest) (hk : dchanOf btsRole rxRsl = some k)
    (hsusp : s.dchanSuspended = false)
    (hnone : fCidByChanNr s.connectionTable k.1 k.2 = none)
    (hqueue : s.waitQueueEnabled = true) :
    mainStep btsRole s .rxIpa
      = .ok ({ s with ipaPt := rest, waitingQueue := s.waitingQueue ++ [rxRsl] }, []) := by
  show rxIpa s btsRole = _
  rw [rxIpa_dchan hport hk hsusp]
  show Except.bind (fCidOf s.connectionTable rxRsl) _ = _
  rw [fCidOf_dchan hk, hnone]
  exact if_pos hqueue

/-- **THE PORT IS EMPTIED** where all that is in it can be delivered. -/
theorem run_drains : ∀ (pdus : List (IpaPdu ChanNr Body)) (s : State n Comp ChanNr Body),
    s.ipaPt = pdus → s.dchanSuspended = false →
    (∀ pdu ∈ pdus, ∃ rxRsl, pdu = .ud rxRsl ∧ Handled btsRole s rxRsl) →
    ∃ outs, RunGuard.run (mainStep btsRole) s (List.replicate pdus.length .rxIpa)
        = .ok ({ s with ipaPt := [] }, outs)
      ∧ (outs.flatMap (delivered btsRole k)).map Prod.snd = (buffer btsRole k s).pending := by
  intro pdus
  induction pdus with
  | nil =>
      intro s hport _ _
      have hstay : s = { s with ipaPt := [] } := by
        rw [← hport]
      refine ⟨[], ?_, ?_⟩
      · rw [← hstay]
        rfl
      · rw [buffer, hport]
        rfl
  | cons pdu pdus ih =>
      intro s hport hsusp hall
      obtain ⟨rxRsl, rfl, k', client, hk, hclient⟩ := hall pdu List.mem_cons_self
      obtain ⟨outs, hrun, hdel⟩ := ih { s with ipaPt := pdus } rfl hsusp
        fun pdu hpdu => hall pdu (List.mem_cons_of_mem _ hpdu)
      refine ⟨[.client client rxRsl] :: outs, ?_, ?_⟩
      · rw [List.length_cons, List.replicate_succ, RunGuard.run,
            mainStep_next hport hk hsusp hclient]
        show (RunGuard.run _ _ _).map _ = _
        rw [hrun]
        rfl
      · have hfront : (delivered btsRole k [.client client rxRsl]).map Prod.snd
            = [rxRsl].filter (isFor btsRole k) := by
          show (List.filter _ [(client, rxRsl)]).map Prod.snd = _
          rw [List.filter_cons, List.filter_cons]
          split <;> rfl
        rw [List.flatMap_cons, List.map_append, hdel, hfront, buffer, buffer, hport]
        exact (List.filter_append _ _).symm

/-- **THE WAIT QUEUE GOES OUT** where all that waits can be delivered. -/
theorem mainStep_replays {client : Comp} (hqueue : s.waitQueueEnabled = true)
    (hall : ∀ rxRsl ∈ s.waitingQueue, Handled btsRole s rxRsl) :
    ∃ outs, mainStep btsRole s (.waitQueue false client)
        = .ok ({ s with waitingQueue := [], waitQueueEnabled := false }, outs)
      ∧ (delivered btsRole k outs).map Prod.snd = (buffer btsRole k s).parked
      ∧ ∀ d ∈ delivered btsRole k outs, handler k s = some d.1 := by
  obtain ⟨outs, hdispatch⟩ := dispatch_handled s.waitingQueue hall
  have hstep : mainStep btsRole s (.waitQueue false client)
      = .ok ({ s with waitingQueue := [], waitQueueEnabled := false },
        outs ++ [.reply client none]) := by
    simp only [mainStep, hqueue]
    rw [hdispatch]
    rfl
  refine ⟨_, hstep, ?_, mainStep_handler hstep⟩
  rw [delivered_dispatch]
  show _ = s.waitingQueue.filter (isFor btsRole k)
  rw [← (dispatch_ok _ _ hdispatch).1, List.filter_map]
  rfl

/-- **MESSAGES GO ON** from every state. -/
theorem goesOn (btsRole : Bool) (k : Nat × ChanNr) (s : State n Comp ChanNr Body) :
    GoesOn btsRole k s where
  next := fun _ _ _ => mainStep_next
  parks := fun _ _ => mainStep_parks
  drains := run_drains s.ipaPt s rfl
  replays := fun _ => mainStep_replays
  registers := by
    intro hdlr s' outs h hnone
    obtain ⟨table, htable, heq⟩ := map_ok h
    obtain ⟨rfl, rfl⟩ := Prod.mk.inj heq
    exact (handler_register htable).1 hnone
  others := by
    rintro k' hdlr s' outs hk (h | h)
    · obtain ⟨table, htable, heq⟩ := map_ok h
      obtain ⟨rfl, rfl⟩ := Prod.mk.inj heq
      exact (handler_register htable).2 k hk
    · obtain ⟨cid, hcid, heq⟩ := map_ok h
      obtain ⟨rfl, rfl⟩ := Prod.mk.inj heq
      refine handler_unregister ?_ hk
      cases hf : fCidByChanNr s.connectionTable k'.1 k'.2 with
      | none =>
          rw [hf] at hcid
          exact nomatch hcid
      | some i =>
          rw [hf] at hcid
          exact congrArg some (Except.ok.inj hcid)

-- ── Runs ─────────────────────────────────────────────────────────────────────

/-- A client that handles the channel gets all of it. -/
theorem received_all {client : Comp} {outss : List (List (Output Comp ChanNr Body))}
    (h : ∀ outs ∈ outss, ∀ d ∈ delivered btsRole k outs, d.1 = client) :
    received btsRole k client outss
      = (outss.flatMap (delivered btsRole k)).map Prod.snd := by
  rw [received, List.filter_eq_self.mpr]
  intro d hd
  obtain ⟨outs, houts, hd⟩ := List.mem_flatMap.mp hd
  exact decide_eq_true (h outs houts d hd)

theorem received_none {client : Comp} {outss : List (List (Output Comp ChanNr Body))}
    (h : ∀ outs ∈ outss, ∀ d ∈ delivered btsRole k outs, d.1 ≠ client) :
    received btsRole k client outss = [] := by
  rw [received, List.filter_eq_nil_iff.mpr]
  · rfl
  · intro d hd
    obtain ⟨outs, houts, hd⟩ := List.mem_flatMap.mp hd
    exact fun heq => h outs houts d hd (of_decide_eq_true heq)

end Steps

/-- **DELIVERY IN ORDER**: a run in which no message of the channel is
    delivered past one in the wait queue delivers the channel. -/
theorem dchan_in_order {n : Nat} {Comp ChanNr Body : Type} [DecidableEq Comp]
    [DecidableEq ChanNr] (btsRole : Bool) (k : Nat × ChanNr)
    (s s' : State n Comp ChanNr Body) (es : List (Event Comp ChanNr Body))
    (outs : List (List (Output Comp ChanNr Body)))
    (hrun : RunGuard.run (mainStep btsRole) s es = .ok (s', outs))
    (hturn : RunGuard.Guarded (mainStep btsRole) (InTurn btsRole k) s es) :
    Delivers btsRole k s es s' outs := by
  have hcons : (outs.flatMap (delivered btsRole k)).map Prod.snd
      ++ (buffer btsRole k s').waiting
      = (buffer btsRole k s).waiting ++ es.flatMap (arrived btsRole k) := by
    rw [List.map_flatMap]
    exact run_conserves (fun _ _ _ _ hG hs => mainStep_move hG hs) es s s' outs
      hturn hrun
  refine ⟨hcons, ?_, ?_, goesOn btsRole k s'⟩
  · intro client hclient
    rw [received_all, hcons]
    refine RunGuard.run_reports_all (fun s1 e s2 os hG hs d hd => ?_) es s s' outs
      hclient hrun
    exact Option.some.inj ((mainStep_handler hs d hd).symm.trans hG)
  · intro client hclient
    refine received_none ?_
    refine RunGuard.run_reports_all (fun s1 e s2 os hG hs d hd heq => ?_) es s s' outs
      hclient hrun
    exact hG (heq ▸ mainStep_handler hs d hd)

instance {n : Nat} {Comp ChanNr Body : Type} [DecidableEq ChanNr] (btsRole : Bool)
    (k : Nat × ChanNr) (s : State n Comp ChanNr Body) :
    (e : Event Comp ChanNr Body) → Decidable (InTurn btsRole k s e)
  | .rxIpa => inferInstanceAs (Decidable
      (∀ rxRsl ∈ s.ipaPt.head?.bind IpaPdu.unitdata,
        dchanOf btsRole rxRsl = some k → s.dchanSuspended = false →
        (fCidByChanNr s.connectionTable k.1 k.2).isSome = true →
        (buffer btsRole k s).parked = []))
  | .arrive _ | .clientChanRqd _ _ _ | .clientMsg _ _ | .unitdata _
  | .register _ _ _ | .unregister _ _ _ | .suspend _ _ | .waitQueue _ _
  | .getLastAct _ _ _ | .setAutoChanActAck _ _ => isTrue trivial

/-- A DATA INDICATION of a channel. -/
def dataInd (body : Nat) : AspRslUnitdata (RslMessage Nat Nat) where
  connId := none
  streamId := .rslTrx0
  rsl := { kind := .dchan, chanNr := some 10, body := body }

/-- A message waits for the client, which gets it before the next one. -/
def waitsFirst : List (Event Nat Nat Nat) :=
  [.waitQueue true 7, .arrive (.ud (dataInd 1)), .rxIpa, .register 0 10 7,
    .waitQueue false 7, .arrive (.ud (dataInd 2)), .rxIpa]

/-- Messages that wait for their handler are delivered first. -/
theorem dchan_in_order_waitsFirst : ∃ s' outs,
    RunGuard.run (mainStep false) (State.init : State tableSize Nat Nat Nat)
        waitsFirst = .ok (s', outs)
      ∧ Delivers false (0, 10) State.init waitsFirst s' outs :=
  ⟨_, _, rfl, dchan_in_order _ _ _ _ _ _ rfl (by decide)⟩

/-- The next message arrives while the first one still waits. -/
def overtake : List (Event Nat Nat Nat) :=
  [.waitQueue true 7, .arrive (.ud (dataInd 1)), .rxIpa, .register 0 10 7,
    .arrive (.ud (dataInd 2)), .rxIpa, .waitQueue false 7]

/-- **THE NEXT MESSAGE IS FIRST**: the client gets them the wrong way round. -/
theorem overtake_reorders : ∃ s' outs,
    RunGuard.run (mainStep false) (State.init : State tableSize Nat Nat Nat)
        overtake = .ok (s', outs)
      ∧ (buffer false (0, 10) s').waiting = []
      ∧ overtake.flatMap (arrived false (0, 10)) = [dataInd 1, dataInd 2]
      ∧ received false (0, 10) 7 outs = [dataInd 2, dataInd 1]
      ∧ ¬ Delivers false (0, 10) State.init overtake s' outs := by
  refine ⟨_, _, rfl, rfl, rfl, rfl, ?_⟩
  intro h
  exact nomatch h.conserved

end OsmoRsl
