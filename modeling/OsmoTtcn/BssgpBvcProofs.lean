import OsmoTtcn.PendingMessagesProofs
import OsmoTtcn.RunGuardProofs
import OsmoTtcn.TitanProofs

/-! # A point-to-point BVC of the BSSGP emulation

    The component waits in an `alt` for its peer, its user and its two timers;
    which alternatives it tries depends on whether the BVC is blocked.  T1
    watches a BLOCK or UNBLOCK that waits for its acknowledgement, T2 a RESET.

    T1 is started in both states, and only the alternatives of the unblocked
    state wait for it to expire; they do so under the guard that it runs.
    `t1_handled_iff` says in which reachable states its expiry is handled. -/

namespace OsmoBvc

open OsmoTitan AltStatement

/-- `BssgpCause` -/
inductive BssgpCause where
  | procOverload | equimentFailure | transitNetworkFailure
  | netSvCapModGtZeroKbps | unknownMs | bvciUnknown | cellTrafficCongestion
  | sgsnCongestion | omIntervention | bvciBlocked | pfcCreateFailure
  | pfcPreempted | abqpNoMoreSupported | semanticallyIncorrectPdu
  | invalidMandatoryIe | missingMandatoryIe | missingConditionalIe
  | unexpectedConditionalIe | conditionalIeError
  | pduNotCompatibleWithProtocolState | protocolErrorUnspecified
  | pduNotCompatibleWithFeatureSet | requestedInfoNotAvailable
  | unknownDestinationAddress | unknownRimAppIdentity
  | invalidContainerUnitInfo | pfcQueuing | pfcCreatedSuccessfully | t12Expiry
  | msUnderPsHandoverTreatment | uplinkQuality | uplinkStrength
  | downlinkQuality | downlinkStrength | distance | betterCell | traffic
  | omIntervention2 | msBackOnOldChannel | t13Expiry | t14Expiry
  | notAllRequestedPfcCreated
  deriving DecidableEq, Repr

/-- The PDUs of the state machine, and all others. -/
inductive PduBssgp (CellId : Type) where
  | bvcReset (bvci : Nat) (cause : BssgpCause) (cellId : Option CellId)
  | bvcResetAck (bvci : Nat) (cellId : Option CellId)
  | bvcBlock (bvci : Nat) (cause : BssgpCause)
  | bvcBlockAck (bvci : Nat)
  | bvcUnblock (bvci : Nat)
  | bvcUnblockAck (bvci : Nat)
  | other
  deriving DecidableEq

/-- The states of a point-to-point BVC. -/
inductive BvcState where
  | blocked | unblocked
  deriving DecidableEq, Repr

-- ── Timers ───────────────────────────────────────────────────────────────────

/-- A timer, as `running` and `timeout` see it. -/
inductive Timer where
  | idle
  | running
  /-- Expired, and the timeout not yet taken. -/
  | expired
  deriving DecidableEq, Repr

/-- `running`.  The language says that an expired timer does not run; the
    parameter is what the runtime makes of it. -/
def Timer.isRunning (expiredRuns : Bool) : Timer → Bool
  | .idle => false
  | .running => true
  | .expired => expiredRuns

@[simp] theorem Timer.isRunning_idle (expiredRuns : Bool) :
    Timer.idle.isRunning expiredRuns = false := rfl

@[simp] theorem Timer.isRunning_running (expiredRuns : Bool) :
    Timer.running.isRunning expiredRuns = true := rfl

@[simp] theorem Timer.isRunning_expired (expiredRuns : Bool) :
    Timer.expired.isRunning expiredRuns = expiredRuns := rfl

/-- `timeout` -/
def Timer.timedOut : Timer → Bool
  | .expired => true
  | _ => false

/-- Only a timer that has expired times out. -/
theorem Timer.timedOut_of_ne {t : Timer} (h : t ≠ .expired) :
    t.timedOut = false := by
  cases t with
  | idle => rfl
  | running => rfl
  | expired => exact absurd rfl h

/-- The time of a timer is over. -/
def Timer.expire : Timer → Timer
  | .running => .expired
  | t => t

-- ── The component ────────────────────────────────────────────────────────────

/-- The configuration of a PTP BVC. -/
structure BvcConfig (CellId : Type) where
  bvci : Nat
  cellId : CellId
  sgsnRole : Bool
  /-- `MGMT.checkstate("Connected")` -/
  mgmtConnected : Bool

/-- The variables of a PTP BVC. -/
structure Bvc where
  ptpBvcState : BvcState
  t1 : Timer
  t2 : Timer
  t1WaitsForBlockAck : Bool
  /-- For re-transmissions; unbound at first. -/
  lastBlockCause : Option BssgpCause
  lastResetCause : Option BssgpCause
  deriving DecidableEq, Repr

/-- A fresh BVC is blocked. -/
def Bvc.init : Bvc where
  ptpBvcState := .blocked
  t1 := .idle
  t2 := .idle
  t1WaitsForBlockAck := false
  lastBlockCause := none
  lastResetCause := none

/-- What the component sends. -/
inductive BvcOut (CellId : Type) where
  /-- To the peer, on the BVCI. -/
  | bvc (nsBvci : Nat) (pdu : PduBssgp CellId)
  | mgmtReset (bvci : Nat)
  | mgmtStatus (state : BvcState)
  | clientStatus (state : BvcState)
  /-- Routed to clients, or answered without the state machine. -/
  | routed
  | verdictFail
  deriving DecidableEq

/-- A message on the port to the peer. -/
inductive BvcIn (CellId : Type) where
  | udInd (nsBvci : Nat) (pdu : PduBssgp CellId)
  /-- The signalling BVC was reset. -/
  | resetInd
  | aspEvent
  | statusInd
  deriving DecidableEq

/-- What the user asks for on the management port. -/
inductive MgmtIn where
  | resetRequest (cause : BssgpCause)
  | blockRequest (cause : BssgpCause)
  | unblockRequest
  deriving DecidableEq, Repr

/-- The heads of the port queues. -/
structure Snapshot (CellId : Type) where
  bvc : Option (BvcIn CellId)
  mgmt : Option MgmtIn

/-- What an alternative waited for. -/
inductive Waited where
  | bvc | mgmt | t1 | t2
  deriving DecidableEq, Repr

/-- What an alternative did, and what it had waited for. -/
structure Fired (CellId : Type) where
  waited : Waited
  bvc : Bvc
  out : List (BvcOut CellId)

section Alternatives

variable {CellId : Type} [DecidableEq CellId]
variable (cfg : BvcConfig CellId) (expiredRuns : Bool)

/-- `f_ptp_sendUnblock` -/
def fPtpSendUnblock (s : Bvc) : Bvc × List (BvcOut CellId) :=
  ({ s with t1WaitsForBlockAck := false, t1 := .running },
    [.bvc 0 (.bvcUnblock cfg.bvci)])

/-- `f_ptp_sendBlock` -/
def fPtpSendBlock (cause : BssgpCause) (s : Bvc) :
    Bvc × List (BvcOut CellId) :=
  ({ s with
      t1WaitsForBlockAck := true, t1 := .running, lastBlockCause := some cause },
    [.bvc 0 (.bvcBlock cfg.bvci cause)])

/-- The cell id is in a RESET of a BSS only.  RESET is always sent via the
    signalling BVCI. -/
def fPtpSendReset (cause : BssgpCause) (s : Bvc) :
    Bvc × List (BvcOut CellId) :=
  ({ s with t2 := .running, lastResetCause := some cause },
    [.bvc 0 (.bvcReset cfg.bvci cause
      (if cfg.sgsnRole then none else some cfg.cellId))])

/-- `f_ptp_change_state` -/
def fPtpChangeState (newState : BvcState) (s : Bvc) :
    Bvc × List (BvcOut CellId) :=
  if newState = s.ptpBvcState then (s, [])
  else ({ s with ptpBvcState := newState },
    (if cfg.mgmtConnected then [.mgmtStatus newState] else [])
      ++ [.clientStatus newState])

/-- A statement that sends, and the next one. -/
def andThen (r : Bvc × List (BvcOut CellId))
    (f : Bvc → Bvc × List (BvcOut CellId)) : Bvc × List (BvcOut CellId) :=
  ((f r.1).1, r.2 ++ (f r.1).2)

/-- `BVC.receive(tr_ptp_BnsUdInd(tr, nsBvci))` -/
def receives (head : Option (BvcIn CellId)) (nsBvci : Nat)
    (tr : PduBssgp CellId → Bool) : Bool :=
  match head with
  | some (.udInd b pdu) => b == nsBvci && tr pdu
  | _ => false

/-- `tr_BVC_RESET` -/
def trBvcReset (bvci : Nat) (cellId : Option CellId) : PduBssgp CellId → Bool
  | .bvcReset b _ c => b == bvci && c == cellId
  | _ => false

/-- `tr_BVC_RESET_ACK` -/
def trBvcResetAck (bvci : Nat) (cellId : Option CellId) :
    PduBssgp CellId → Bool
  | .bvcResetAck b c => b == bvci && c == cellId
  | _ => false

/-- `tr_BVC_BLOCK` -/
def trBvcBlock (bvci : Nat) : PduBssgp CellId → Bool
  | .bvcBlock b _ => b == bvci
  | _ => false

/-- What an alternative does, with what it waited for. -/
def fired (waited : Waited) (r : Bvc × List (BvcOut CellId)) :
    Except Fault (Fired CellId) :=
  .ok ⟨waited, r.1, r.2⟩

/-- The alternatives of one altstep, in order. -/
abbrev Alts (CellId : Type) : Type :=
  List (Alternative (Except Fault (Fired CellId)))

variable (snap : Snapshot CellId) (s : Bvc)

/-- `as_ptp_handle_inbound_reset` -/
def asPtpHandleInboundReset : Alts CellId :=
  [ -- we are a SGSN: BSS/PCU-originated RESET must have a cell ID
    { guard := cfg.sgsnRole
        && receives snap.bvc 0 (trBvcReset cfg.bvci (some cfg.cellId))
      body := fired .bvc (andThen (s, (if cfg.mgmtConnected
          then [.mgmtReset cfg.bvci] else [])
          ++ [.bvc 0 (.bvcResetAck cfg.bvci none)])
        (fPtpChangeState cfg .unblocked)) },
    -- we are a BSS/PCU: SGSN-originated RESET must not have a cell ID
    { guard := !cfg.sgsnRole && receives snap.bvc 0 (trBvcReset cfg.bvci none)
      body := fired .bvc (andThen (s, (if cfg.mgmtConnected
          then [.mgmtReset cfg.bvci] else [])
          ++ [.bvc 0 (.bvcResetAck cfg.bvci (some cfg.cellId))])
        (fPtpChangeState cfg .unblocked)) }]

/-- `as_ptp_blocked` -/
def asPtpBlocked : Alts CellId :=
  [ -- UNBLOCK-ACK before T1 timeout
    { guard := s.t1.isRunning expiredRuns && !s.t1WaitsForBlockAck
        && receives snap.bvc 0 (· == .bvcUnblockAck cfg.bvci)
      body := fired .bvc (fPtpChangeState cfg .unblocked { s with t1 := .idle }) },
    { guard := cfg.sgsnRole && receives snap.bvc 0 (· == .bvcUnblock cfg.bvci)
      body := fired .bvc (andThen (s, [.bvc 0 (.bvcUnblockAck cfg.bvci)])
        (fPtpChangeState cfg .unblocked)) },
    -- RESET-ACK before T2 timeout; in SGSN role, the cell id must be present
    { guard := s.t2.isRunning expiredRuns && cfg.sgsnRole
        && receives snap.bvc 0 (trBvcResetAck cfg.bvci (some cfg.cellId))
      body := fired .bvc (fPtpChangeState cfg .unblocked { s with t2 := .idle }) },
    { guard := s.t2.isRunning expiredRuns && !cfg.sgsnRole
        && receives snap.bvc 0 (trBvcResetAck cfg.bvci none)
      body := fired .bvc (fPtpChangeState cfg .unblocked { s with t2 := .idle }) }]
  ++ asPtpHandleInboundReset cfg snap s
  ++ [ -- RESET-ACK was not received within T2: retransmit
    { guard := s.t2.timedOut
      body := match s.lastResetCause with
        | none => .error .unbound
        | some cause => fired .t2 (fPtpSendReset cfg cause s) },
    { guard := snap.mgmt == some .unblockRequest
      body := fired .mgmt (fPtpSendUnblock cfg s) }]

/-- The last two alternatives on the port to the peer stand for all that do
    without the state machine. -/
def asPtpUnblocked : Alts CellId :=
  [ -- bogus unblock, just respond with ACK
    { guard := receives snap.bvc 0 (· == .bvcUnblock cfg.bvci)
      body := fired .bvc (s, [.bvc 0 (.bvcUnblockAck cfg.bvci)]) },
    { guard := receives snap.bvc 0 (trBvcBlock cfg.bvci)
      body := fired .bvc (andThen
        ({ s with t1 := .idle }, [.bvc 0 (.bvcBlockAck cfg.bvci)])
        (fPtpChangeState cfg .blocked)) },
    { guard := s.t1.isRunning expiredRuns && s.t1WaitsForBlockAck
        && receives snap.bvc 0 (· == .bvcBlockAck cfg.bvci)
      body := fired .bvc (fPtpChangeState cfg .blocked { s with t1 := .idle }) },
    -- re-transmit BLOCK / UNBLOCK on T1 timeout
    { guard := s.t1.isRunning expiredRuns && !s.t1WaitsForBlockAck
        && s.t1.timedOut
      body := fired .t1 (fPtpSendUnblock cfg s) },
    { guard := s.t1.isRunning expiredRuns && s.t1WaitsForBlockAck
        && s.t1.timedOut
      body := match s.lastBlockCause with
        | none => .error .unbound
        | some cause => fired .t1 (fPtpSendBlock cfg cause s) }]
  ++ asPtpHandleInboundReset cfg snap s
  ++ [{ guard := receives snap.bvc cfg.bvci (fun _ => true)
        body := fired .bvc (s, [.routed]) },
    { guard := receives snap.bvc 0 (fun _ => true)
      body := fired .bvc (s, [.routed]) },
    { guard := match snap.mgmt with
        | some (.blockRequest _) => true
        | _ => false
      body := match snap.mgmt with
        | some (.blockRequest cause) => fired .mgmt (fPtpSendBlock cfg cause s)
        | _ => .error .unbound }]

/-- `as_ptp_allstate` -/
def asPtpAllstate : Alts CellId :=
  [ -- signaling BVC was reset
    { guard := snap.bvc == some .resetInd
      body := fired .bvc (andThen
        (s, if cfg.mgmtConnected then [.mgmtReset 0] else [])
        (fun s => if cfg.sgsnRole then fPtpChangeState cfg .unblocked s
          else andThen (fPtpChangeState cfg .blocked s)
            (fPtpSendReset cfg .omIntervention))) },
    { guard := snap.bvc == some .aspEvent, body := fired .bvc (s, []) },
    { guard := snap.bvc == some .statusInd, body := fired .bvc (s, []) },
    -- catch-all
    { guard := snap.bvc.isSome, body := fired .bvc (s, [.verdictFail]) },
    { guard := match snap.mgmt with
        | some (.resetRequest _) => true
        | _ => false
      body := match snap.mgmt with
        | some (.resetRequest cause) => fired .mgmt
            (andThen (fPtpChangeState cfg .blocked s) (fPtpSendReset cfg cause))
        | _ => .error .unbound }]

/-- The alternatives of one round of the main loop. -/
def bvcAlts : Alts CellId :=
  (match s.ptpBvcState with
    | .blocked => asPtpBlocked cfg expiredRuns snap s
    | .unblocked => asPtpUnblocked cfg expiredRuns snap s)
  ++ asPtpAllstate cfg snap s

end Alternatives

-- ── Runs ─────────────────────────────────────────────────────────────────────

/-- A round of the main loop, or a timer that expires. -/
inductive BvcEvent (CellId : Type) where
  | round (snap : Snapshot CellId)
  | expireT1
  | expireT2

section Runs

variable {CellId : Type} [DecidableEq CellId]
variable (cfg : BvcConfig CellId) (expiredRuns : Bool)

/-- A round in which no alternative is taken waits. -/
def bvcStep (s : Bvc) :
    BvcEvent CellId → Except Fault (Bvc × List (BvcOut CellId))
  | .round snap =>
      match alt (bvcAlts cfg expiredRuns snap s) with
      | none => .ok (s, [])
      | some r => r.map (fun f => (f.bvc, f.out))
  | .expireT1 => .ok ({ s with t1 := s.t1.expire }, [])
  | .expireT2 => .ok ({ s with t2 := s.t2.expire }, [])

/-- A BLOCK or UNBLOCK to the peer. -/
def requestOf : BvcOut CellId → Option (PduBssgp CellId)
  | .bvc _ (.bvcBlock bvci cause) => some (.bvcBlock bvci cause)
  | .bvc _ (.bvcUnblock bvci) => some (.bvcUnblock bvci)
  | _ => none

/-- The BLOCK and UNBLOCK requests among what was sent. -/
def requests (outs : List (BvcOut CellId)) : List (PduBssgp CellId) :=
  outs.filterMap requestOf

/-- The BLOCK or UNBLOCK that was sent last. -/
def lastRequest (outs : List (BvcOut CellId)) : Option (PduBssgp CellId) :=
  (requests outs).getLast?

/-- **THE EXPIRY OF T1 IS HANDLED**: with nothing else to do, the component
    sends the same request again and watches it, or it reports the failure. -/
def T1Handled (s : Bvc) (outs : List (BvcOut CellId)) : Prop :=
  ∃ f, alt (bvcAlts cfg expiredRuns ⟨none, none⟩ s) = some (.ok f)
    ∧ f.waited = .t1
    ∧ ((f.bvc.t1 = .running
        ∧ ∃ pdu, lastRequest outs = some pdu ∧ f.out = [.bvc 0 pdu])
      ∨ .verdictFail ∈ f.out)

-- ── What a round does to T1 ──────────────────────────────────────────────────

/-- The request that T1 watches. -/
def request (s : Bvc) : Option (PduBssgp CellId) :=
  if s.t1WaitsForBlockAck then s.lastBlockCause.map (.bvcBlock cfg.bvci)
  else some (.bvcUnblock cfg.bvci)

/-- T1 and its request are left alone, or T1 is stopped, or a request is sent
    and T1 started. -/
inductive T1Effect (s : Bvc) (f : Fired CellId) : Prop where
  | keeps : f.bvc.t1 = s.t1 → f.bvc.t1WaitsForBlockAck = s.t1WaitsForBlockAck →
      f.bvc.lastBlockCause = s.lastBlockCause → requests f.out = [] →
      T1Effect s f
  | stops : f.bvc.t1 = .idle → requests f.out = [] → T1Effect s f
  | sends (pdu : PduBssgp CellId) : f.bvc.t1 = .running →
      request cfg f.bvc = some pdu → f.out = [.bvc 0 pdu] →
      requestOf (.bvc 0 pdu) = some pdu → T1Effect s f

omit [DecidableEq CellId] in
@[simp] theorem requests_nil : requests ([] : List (BvcOut CellId)) = [] := rfl

omit [DecidableEq CellId] in
@[simp] theorem requests_cons (o : BvcOut CellId) (os : List (BvcOut CellId)) :
    requests (o :: os) = (requestOf o).toList ++ requests os := by
  rw [requests, List.filterMap_cons]
  cases requestOf o with
  | none => rfl
  | some pdu => rfl

omit [DecidableEq CellId] in
@[simp] theorem requests_append (os os' : List (BvcOut CellId)) :
    requests (os ++ os') = requests os ++ requests os' :=
  List.filterMap_append

omit [DecidableEq CellId] in
@[simp] theorem fPtpChangeState_fst (ns : BvcState) (s : Bvc) :
    (fPtpChangeState cfg ns s).1 = { s with ptpBvcState := ns } := by
  rw [fPtpChangeState]
  by_cases h : ns = s.ptpBvcState
  · rw [if_pos h, h]
  · rw [if_neg h]

omit [DecidableEq CellId] in
@[simp] theorem fPtpChangeState_requests (ns : BvcState) (s : Bvc) :
    requests (fPtpChangeState cfg ns s).2 = [] := by
  rw [fPtpChangeState]
  by_cases h : ns = s.ptpBvcState
  · rw [if_pos h]
    rfl
  · rw [if_neg h]
    cases cfg.mgmtConnected with
    | true => rfl
    | false => rfl

omit [DecidableEq CellId] in
/-- Telling the management. -/
@[simp] theorem mgmtReset_requests (bvci : Nat) :
    requests (if cfg.mgmtConnected = true then
      [(.mgmtReset bvci : BvcOut CellId)] else []) = [] := by
  cases cfg.mgmtConnected with
  | true => rfl
  | false => rfl

variable {cfg expiredRuns}
variable {snap : Snapshot CellId} {s : Bvc} {f : Fired CellId}

omit [DecidableEq CellId] in
/-- A statement block that leaves T1 and sends no request. -/
theorem T1Effect.of_state {w : Waited} {r : Bvc × List (BvcOut CellId)}
    (hs : r.1.t1 = s.t1 ∧ r.1.t1WaitsForBlockAck = s.t1WaitsForBlockAck
      ∧ r.1.lastBlockCause = s.lastBlockCause)
    (houts : requests r.2 = []) (hf : fired w r = .ok f) :
    T1Effect cfg s f := by
  rw [← Except.ok.inj hf]
  exact .keeps hs.1 hs.2.1 hs.2.2 houts

/-- An inbound RESET does not touch T1. -/
theorem asPtpHandleInboundReset_t1 :
    ∀ a ∈ asPtpHandleInboundReset cfg snap s, a.body = .ok f →
      T1Effect cfg s f := by
  intro a ha hf
  simp only [asPtpHandleInboundReset, List.mem_cons, List.not_mem_nil,
    or_false] at ha
  rcases ha with rfl | rfl
  · exact .of_state (by simp [andThen]) (by simp [andThen, requestOf]) hf
  · exact .of_state (by simp [andThen]) (by simp [andThen, requestOf]) hf

/-- What the alternatives of a blocked BVC do to T1. -/
theorem asPtpBlocked_t1 :
    ∀ a ∈ asPtpBlocked cfg expiredRuns snap s, a.body = .ok f →
      T1Effect cfg s f := by
  intro a ha hf
  simp only [asPtpBlocked, List.mem_append, List.mem_cons, List.not_mem_nil,
    or_false] at ha
  rcases ha with ((rfl | rfl | rfl | rfl) | ha) | rfl | rfl
  · rw [← Except.ok.inj hf]
    exact .stops (by simp) (by simp)
  · exact .of_state (by simp [andThen]) (by simp [andThen, requestOf]) hf
  · exact .of_state (by simp) (by simp) hf
  · exact .of_state (by simp) (by simp) hf
  · exact asPtpHandleInboundReset_t1 a ha hf
  · cases hc : s.lastResetCause with
    | none => simp [hc] at hf
    | some cause =>
        simp only [hc] at hf
        exact .of_state ⟨rfl, rfl, rfl⟩ rfl hf
  · rw [← Except.ok.inj hf]
    exact .sends _ rfl rfl rfl rfl

/-- What those of an unblocked BVC do to it. -/
theorem asPtpUnblocked_t1 :
    ∀ a ∈ asPtpUnblocked cfg expiredRuns snap s, a.body = .ok f →
      T1Effect cfg s f := by
  intro a ha hf
  simp only [asPtpUnblocked, List.mem_append, List.mem_cons, List.not_mem_nil,
    or_false] at ha
  rcases ha with ((rfl | rfl | rfl | rfl | rfl) | ha) | rfl | rfl | rfl
  · exact .of_state ⟨rfl, rfl, rfl⟩ rfl hf
  · rw [← Except.ok.inj hf]
    exact .stops (by simp [andThen]) (by simp [andThen, requestOf])
  · rw [← Except.ok.inj hf]
    exact .stops (by simp) (by simp)
  · rw [← Except.ok.inj hf]
    exact .sends _ rfl rfl rfl rfl
  · cases hc : s.lastBlockCause with
    | none => simp [hc] at hf
    | some cause =>
        simp only [hc] at hf
        rw [← Except.ok.inj hf]
        exact .sends _ rfl rfl rfl rfl
  · exact asPtpHandleInboundReset_t1 a ha hf
  · exact .of_state ⟨rfl, rfl, rfl⟩ rfl hf
  · exact .of_state ⟨rfl, rfl, rfl⟩ rfl hf
  · split at hf
    · rw [← Except.ok.inj hf]
      exact .sends _ rfl rfl rfl rfl
    · exact nomatch hf

/-- What those of every state do to it. -/
theorem asPtpAllstate_t1 :
    ∀ a ∈ asPtpAllstate cfg snap s, a.body = .ok f → T1Effect cfg s f := by
  intro a ha hf
  simp only [asPtpAllstate, List.mem_cons, List.not_mem_nil, or_false] at ha
  rcases ha with rfl | rfl | rfl | rfl | rfl
  · cases hrole : cfg.sgsnRole with
    | true =>
        refine .of_state ?_ ?_ hf
        · simp [hrole, andThen]
        · simp [hrole, andThen]
    | false =>
        refine .of_state ?_ ?_ hf
        · simp [hrole, andThen, fPtpSendReset]
        · simp [hrole, andThen, fPtpSendReset, requestOf]
  · exact .of_state ⟨rfl, rfl, rfl⟩ rfl hf
  · exact .of_state ⟨rfl, rfl, rfl⟩ rfl hf
  · exact .of_state ⟨rfl, rfl, rfl⟩ rfl hf
  · split at hf
    · refine .of_state ?_ ?_ hf
      · simp [andThen, fPtpSendReset]
      · simp [andThen, fPtpSendReset, requestOf]
    · exact nomatch hf

/-- **WHAT A ROUND DOES TO T1.** -/
theorem bvcAlts_t1 (h : alt (bvcAlts cfg expiredRuns snap s) = some (.ok f)) :
    T1Effect cfg s f := by
  obtain ⟨a, ha, -, hf⟩ := alt_some h
  rw [bvcAlts] at ha
  rcases List.mem_append.mp ha with ha | ha
  · cases hst : s.ptpBvcState with
    | blocked =>
        rw [hst] at ha
        exact asPtpBlocked_t1 a ha hf
    | unblocked =>
        rw [hst] at ha
        exact asPtpUnblocked_t1 a ha hf
  · exact asPtpAllstate_t1 a ha hf

-- ── T1 watches the last request ──────────────────────────────────────────────

omit [DecidableEq CellId] in
/-- The last request is in the last part that has one. -/
theorem lastRequest_append (os os' : List (BvcOut CellId)) :
    lastRequest (os ++ os') = (lastRequest os').or (lastRequest os) := by
  rw [lastRequest, requests_append, List.getLast?_append]
  rfl

/-- While T1 is started, it watches what was sent last. -/
def Watches (cfg : BvcConfig CellId) (s : Bvc)
    (outs : List (BvcOut CellId)) : Prop :=
  s.t1 ≠ .idle → ∃ pdu, request cfg s = some pdu ∧ lastRequest outs = some pdu

omit [DecidableEq CellId] in
/-- **ANY ALTERNATIVE** keeps T1 with the last request. -/
theorem T1Effect.watches {outs : List (BvcOut CellId)}
    (h : T1Effect cfg s f) (hw : Watches cfg s outs) :
    Watches cfg f.bvc (outs ++ f.out) := by
  intro hne
  rw [lastRequest_append]
  cases h with
  | keeps ht1 hflag hcause hout =>
      rw [ht1] at hne
      obtain ⟨pdu, hreq, hlast⟩ := hw hne
      refine ⟨pdu, ?_, ?_⟩
      · rw [request, hflag, hcause]
        exact hreq
      · rw [lastRequest, hout]
        exact hlast
  | stops hidle _ => exact absurd hidle hne
  | sends pdu _ hreq hout hpdu =>
      refine ⟨pdu, hreq, ?_⟩
      rw [hout, lastRequest, requests_cons, hpdu]
      rfl

/-- So does a step. -/
theorem bvcStep_watches {s' : Bvc} {e : BvcEvent CellId}
    {outs o : List (BvcOut CellId)} (hw : Watches cfg s outs)
    (hstep : bvcStep cfg expiredRuns s e = .ok (s', o)) :
    Watches cfg s' (outs ++ o) := by
  cases e with
  | round snap =>
      rw [bvcStep] at hstep
      cases halt : alt (bvcAlts cfg expiredRuns snap s) with
      | none =>
          rw [halt] at hstep
          obtain ⟨rfl, rfl⟩ := Prod.mk.inj (Except.ok.inj hstep)
          rw [List.append_nil]
          exact hw
      | some r =>
          rw [halt] at hstep
          obtain ⟨f, rfl, hf⟩ := map_ok hstep
          obtain ⟨rfl, rfl⟩ := Prod.mk.inj hf
          exact (bvcAlts_t1 halt).watches hw
  | expireT1 =>
      obtain ⟨rfl, rfl⟩ := Prod.mk.inj (Except.ok.inj hstep)
      rw [List.append_nil]
      intro hne
      refine hw (fun hidle => hne ?_)
      show s.t1.expire = .idle
      rw [hidle]
      rfl
  | expireT2 =>
      obtain ⟨rfl, rfl⟩ := Prod.mk.inj (Except.ok.inj hstep)
      rw [List.append_nil]
      exact hw

/-- Where a round can take the timer it waited for. -/
inductive MayWait (expiredRuns : Bool) (s : Bvc) : Waited → Prop where
  | bvc : MayWait expiredRuns s .bvc
  | mgmt : MayWait expiredRuns s .mgmt
  | t1 : s.ptpBvcState = .unblocked → s.t1.isRunning expiredRuns = true →
      MayWait expiredRuns s .t1
  | t2 : s.ptpBvcState = .blocked → s.t2.timedOut = true →
      MayWait expiredRuns s .t2

omit [DecidableEq CellId] in
/-- What fired had waited for it. -/
theorem MayWait.of_fired {w : Waited} {r : Bvc × List (BvcOut CellId)}
    (hw : MayWait expiredRuns s w) (hf : fired w r = .ok f) :
    MayWait expiredRuns s f.waited := by
  rw [← Except.ok.inj hf]
  exact hw

/-- What an inbound RESET can have waited for. -/
theorem asPtpHandleInboundReset_waited :
    ∀ a ∈ asPtpHandleInboundReset cfg snap s, a.body = .ok f →
      MayWait expiredRuns s f.waited := by
  intro a ha hf
  simp only [asPtpHandleInboundReset, List.mem_cons, List.not_mem_nil,
    or_false] at ha
  rcases ha with rfl | rfl
  · exact .of_fired .bvc hf
  · exact .of_fired .bvc hf

/-- **WHO WAITS FOR A TIMER**: T1 is taken in the unblocked state only, and
    while it counts as running; T2 in the blocked state only. -/
theorem bvcAlts_waited
    (h : alt (bvcAlts cfg expiredRuns snap s) = some (.ok f)) :
    MayWait expiredRuns s f.waited := by
  obtain ⟨a, ha, hguard, hf⟩ := alt_some h
  rw [bvcAlts] at ha
  rcases List.mem_append.mp ha with ha | ha
  · cases hst : s.ptpBvcState with
    | blocked =>
        rw [hst] at ha
        simp only [asPtpBlocked, List.mem_append, List.mem_cons,
          List.not_mem_nil, or_false] at ha
        rcases ha with ((rfl | rfl | rfl | rfl) | ha) | rfl | rfl
        · exact .of_fired .bvc hf
        · exact .of_fired .bvc hf
        · exact .of_fired .bvc hf
        · exact .of_fired .bvc hf
        · exact asPtpHandleInboundReset_waited a ha hf
        · cases hc : s.lastResetCause with
          | none => simp [hc] at hf
          | some cause =>
              simp only [hc] at hf
              exact .of_fired (.t2 hst hguard) hf
        · exact .of_fired .mgmt hf
    | unblocked =>
        rw [hst] at ha
        simp only [asPtpUnblocked, List.mem_append, List.mem_cons,
          List.not_mem_nil, or_false] at ha
        rcases ha with ((rfl | rfl | rfl | rfl | rfl) | ha) | rfl | rfl | rfl
        · exact .of_fired .bvc hf
        · exact .of_fired .bvc hf
        · exact .of_fired .bvc hf
        · simp only [Bool.and_eq_true] at hguard
          exact .of_fired (.t1 hst hguard.1.1) hf
        · simp only [Bool.and_eq_true] at hguard
          cases hc : s.lastBlockCause with
          | none => simp [hc] at hf
          | some cause =>
              simp only [hc] at hf
              exact .of_fired (.t1 hst hguard.1.1) hf
        · exact asPtpHandleInboundReset_waited a ha hf
        · exact .of_fired .bvc hf
        · exact .of_fired .bvc hf
        · split at hf
          · exact .of_fired .mgmt hf
          · exact nomatch hf
  · simp only [asPtpAllstate, List.mem_cons, List.not_mem_nil, or_false] at ha
    rcases ha with rfl | rfl | rfl | rfl | rfl
    · exact .of_fired .bvc hf
    · exact .of_fired .bvc hf
    · exact .of_fired .bvc hf
    · exact .of_fired .bvc hf
    · split at hf
      · exact .of_fired .mgmt hf
      · exact nomatch hf

/-- An unblocked BVC sends its request again, if T1 still counts as running. -/
theorem t1_handled {outs : List (BvcOut CellId)} (hw : Watches cfg s outs)
    (hexp : s.t1 = .expired) (hst : s.ptpBvcState = .unblocked) :
    T1Handled cfg true s outs := by
  obtain ⟨pdu, hreq, hlast⟩ := hw (by rw [hexp]; decide)
  cases hflag : s.t1WaitsForBlockAck with
  | false =>
      rw [request, hflag, if_neg Bool.false_ne_true] at hreq
      refine ⟨⟨.t1, (fPtpSendUnblock cfg s).1, (fPtpSendUnblock cfg s).2⟩, ?_,
        rfl, Or.inl ⟨rfl, pdu, hlast, ?_⟩⟩
      · simp [bvcAlts, hst, asPtpUnblocked, receives, hexp, hflag,
          Timer.timedOut, fired]
      · rw [← Option.some.inj hreq]
        rfl
  | true =>
      rw [request, hflag, if_pos rfl] at hreq
      obtain ⟨cause, hcause, hpdu⟩ := Option.map_eq_some_iff.mp hreq
      refine ⟨⟨.t1, (fPtpSendBlock cfg cause s).1,
        (fPtpSendBlock cfg cause s).2⟩, ?_, rfl, Or.inl ⟨rfl, pdu, hlast, ?_⟩⟩
      · simp [bvcAlts, hst, asPtpUnblocked, receives, hexp, hflag, hcause,
          Timer.timedOut, fired]
      · rw [← hpdu]
        rfl

/-- **THE EXPIRY OF T1** is handled in exactly the reachable states in which
    the BVC is unblocked, and only where `running` holds of a timer that has
    expired. -/
theorem t1_handled_iff (cfg : BvcConfig CellId) (expiredRuns : Bool)
    (es : List (BvcEvent CellId)) {s : Bvc}
    {outs : List (List (BvcOut CellId))}
    (hrun : RunGuard.run (bvcStep cfg expiredRuns) Bvc.init es = .ok (s, outs))
    (hexp : s.t1 = .expired) :
    T1Handled cfg expiredRuns s outs.flatten
      ↔ s.ptpBvcState = .unblocked ∧ expiredRuns = true := by
  constructor
  · rintro ⟨f, halt, hw, -⟩
    have hwait := bvcAlts_waited halt
    rw [hw] at hwait
    obtain ⟨hst, hruns⟩ : s.ptpBvcState = .unblocked
        ∧ s.t1.isRunning expiredRuns = true := by
      cases hwait with
      | t1 hst hruns => exact ⟨hst, hruns⟩
    rw [hexp] at hruns
    exact ⟨hst, hruns⟩
  · rintro ⟨hst, rfl⟩
    have hkeep : ∀ (s : Bvc) (h : List (List (BvcOut CellId)))
        (e : BvcEvent CellId) (s' : Bvc) (o : List (BvcOut CellId)),
        Watches cfg s h.flatten → bvcStep cfg true s e = .ok (s', o) →
        Watches cfg s' (h ++ [o]).flatten := by
      intro s h e s' o hw hstep
      rw [List.flatten_append, List.flatten_singleton]
      exact bvcStep_watches hw hstep
    have hinit : Watches cfg Bvc.init ([] : List (List (BvcOut CellId))).flatten :=
      fun hne => absurd rfl hne
    have hwatch := RunGuard.run_reports_inv hkeep es Bvc.init [] s outs hinit hrun
    exact t1_handled hwatch hexp hst

end Runs

/-- A BVC of a BSS. -/
def bssCfg : BvcConfig Nat where
  bvci := 196
  cellId := 20960
  sgsnRole := false
  mgmtConnected := true

/-- The user blocks an unblocked BVC, and T1 expires. -/
def blockUnanswered : List (BvcEvent Nat) :=
  [.round ⟨some (.udInd 0 (.bvcReset 196 .omIntervention none)), none⟩,
    .round ⟨none, some (.blockRequest .omIntervention)⟩, .expireT1]

/-- An unblocked BVC whose BLOCK is not answered takes the expiry of T1. -/
theorem t1_handled_iff_blockUnanswered : ∃ s outs,
    RunGuard.run (bvcStep bssCfg true) Bvc.init blockUnanswered = .ok (s, outs)
      ∧ s.t1 = .expired
      ∧ (T1Handled bssCfg true s outs.flatten
        ↔ s.ptpBvcState = .unblocked ∧ true = true) :=
  ⟨_, _, rfl, rfl, t1_handled_iff bssCfg true blockUnanswered rfl rfl⟩

/-- The user unblocks a BVC, and the UNBLOCK is not answered. -/
def unblockUnanswered : List (BvcEvent Nat) :=
  [.round ⟨none, some .unblockRequest⟩, .expireT1]

/-- T1 has expired, the UNBLOCK it watches has no answer, and no alternative
    takes the expiry. -/
def Stuck (expiredRuns : Bool) : Prop := ∃ s outs,
  RunGuard.run (bvcStep bssCfg expiredRuns) Bvc.init unblockUnanswered
      = .ok (s, outs)
    ∧ s.t1 = .expired ∧ lastRequest outs.flatten = some (.bvcUnblock 196)
    ∧ ¬ T1Handled bssCfg expiredRuns s outs.flatten

/-- **NOBODY WAITS FOR T1** in the state in which UNBLOCK is sent, whatever
    `running` says of it. -/
theorem unblockUnanswered_stuck : Stuck false ∧ Stuck true := by
  constructor
  · refine ⟨_, _, rfl, rfl, rfl, ?_⟩
    rintro ⟨f, halt, -⟩
    exact nomatch halt
  · refine ⟨_, _, rfl, rfl, rfl, ?_⟩
    rintro ⟨f, halt, -⟩
    exact nomatch halt

end OsmoBvc
