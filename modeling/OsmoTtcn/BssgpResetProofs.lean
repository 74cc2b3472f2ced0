import OsmoTtcn.BssgpBvcProofs

/-! # The reset handshake of two BVCs

    A BVC of a BSS and one of an SGSN, connected by two channels that lose
    nothing and keep the order.  Either side may be told to reset at any time.

    A RESET of the peer unblocks a BVC but leaves its T2 running, and there is
    no alternative for a RESET-ACK in the unblocked state: when two RESETs
    cross, the acknowledgement does not stop T2.  `resetHandshake_iff` says
    that this is the only way the handshake goes wrong. -/

namespace OsmoBvc

open OsmoTitan AltStatement

-- ── Two parties ──────────────────────────────────────────────────────────────

/-- The two ends of a BVC. -/
inductive Side where
  | bss | sgsn
  deriving DecidableEq, Repr

/-- The other end. -/
def Side.other : Side → Side
  | .bss => .sgsn
  | .sgsn => .bss

/-- What both sides are configured with. -/
structure Net (CellId : Type) where
  bvci : Nat
  cellId : CellId
  mgmtConnected : Side → Bool

/-- The configuration of the BVC at one end. -/
def Net.cfg {CellId : Type} (net : Net CellId) (side : Side) :
    BvcConfig CellId where
  bvci := net.bvci
  cellId := net.cellId
  sgsnRole := side == .sgsn
  mgmtConnected := net.mgmtConnected side

/-- A BVC, and what its peer has sent it. -/
structure Party (CellId : Type) where
  bvc : Bvc
  inbox : List (BvcIn CellId)
  /-- Observed only: since its last RESET it has not received a RESET-ACK. -/
  awaiting : Bool

/-- Both ends, each with what is on its way to it. -/
abbrev Sys (CellId : Type) : Type := Side → Party CellId

/-- Both are fresh, and nothing is on its way. -/
def Sys.init {CellId : Type} : Sys CellId := fun _ =>
  { bvc := Bvc.init, inbox := [], awaiting := false }

/-- What is at the head of the port to the peer. -/
inductive Heard where
  | nothing
  | peer
  /-- The signalling BVC was reset. -/
  | sigReset
  deriving DecidableEq, Repr

/-- A round of one side, or a timer of it that expires.  Only a BSS starts a
    reset when its signalling BVC was reset. -/
inductive SysEvent where
  | round (side : Side) (arrived : Bool) (request : Option BssgpCause)
  | sigReset (request : Option BssgpCause)
  | expireT1 (side : Side)
  | expireT2 (side : Side)
  deriving DecidableEq, Repr

section System

variable {CellId : Type} [DecidableEq CellId]

/-- A BVC-RESET. -/
def isReset : PduBssgp CellId → Bool
  | .bvcReset .. => true
  | _ => false

/-- A BVC-RESET-ACK that arrives. -/
def isResetAck : Option (BvcIn CellId) → Bool
  | some (.udInd _ (.bvcResetAck ..)) => true
  | _ => false

/-- What an output puts on the channel to the peer. -/
def onChannel : BvcOut CellId → Option (BvcIn CellId)
  | .bvc nsBvci pdu => some (.udInd nsBvci pdu)
  | _ => none

/-- What goes to the other end, of what was sent. -/
def sends (outs : List (BvcOut CellId)) : List (BvcIn CellId) :=
  outs.filterMap onChannel

/-- Whether a BVC-RESET is among it. -/
def sendsReset (outs : List (BvcOut CellId)) : Bool :=
  (sends outs).any (fun
    | .udInd _ pdu => isReset pdu
    | _ => false)

/-- What is at the head of the port. -/
def Heard.head (heard : Heard) (p : Party CellId) : Option (BvcIn CellId) :=
  match heard with
  | .nothing => none
  | .peer => p.inbox.head?
  | .sigReset => some .resetInd

/-- What a round leaves of a party. -/
def Party.after (p : Party CellId) (heard : Heard) (f : Fired CellId) :
    Party CellId where
  bvc := f.bvc
  inbox := if f.waited = .bvc ∧ heard = .peer then p.inbox.tail else p.inbox
  awaiting := sendsReset f.out
    || (p.awaiting && !(f.waited == .bvc && isResetAck (heard.head p)))

variable (net : Net CellId) (expiredRuns : Bool)

/-- One round of one side. -/
def sysRound (sys : Sys CellId) (side : Side) (heard : Heard)
    (request : Option BssgpCause) : Except Fault (Sys CellId × Unit) :=
  match alt (bvcAlts (net.cfg side) expiredRuns
      ⟨heard.head (sys side), request.map .resetRequest⟩ (sys side).bvc) with
  | none => .ok (sys, ())
  | some r => r.map (fun f => (fun z =>
      if z = side then (sys side).after heard f
      else { sys z with inbox := (sys z).inbox ++ sends f.out }, ()))

/-- One step of the two ends, in any order. -/
def sysStep (sys : Sys CellId) : SysEvent → Except Fault (Sys CellId × Unit)
  | .round side arrived request =>
      sysRound net expiredRuns sys side
        (if arrived then .peer else .nothing) request
  | .sigReset request => sysRound net expiredRuns sys .bss .sigReset request
  | .expireT1 side => .ok (Function.update sys side { sys side with
      bvc := { (sys side).bvc with t1 := (sys side).bvc.t1.expire } }, ())
  | .expireT2 side => .ok (Function.update sys side { sys side with
      bvc := { (sys side).bvc with t2 := (sys side).bvc.t2.expire } }, ())

/-- **THE HANDSHAKE IS SAFE** in a state. -/
structure Safe (sys : Sys CellId) : Prop where
  /-- While T2 runs, a RESET is not acknowledged yet. -/
  t2Awaits : ∀ x, (sys x).bvc.t2.isRunning expiredRuns = true →
    (sys x).awaiting = true
  /-- A RESET that was acknowledged is not sent again. -/
  noRetransmit : ∀ x snap f,
    alt (bvcAlts (net.cfg x) expiredRuns snap (sys x).bvc) = some (.ok f) →
    f.waited = .t2 → (sys x).awaiting = true
  /-- At rest, both sides are in the same state. -/
  agree : (∀ x, (sys x).inbox = []) →
    (∀ x, (sys x).bvc.t1.isRunning expiredRuns = false
      ∧ (sys x).bvc.t2.isRunning expiredRuns = false) →
    (sys .bss).bvc.ptpBvcState = (sys .sgsn).bvc.ptpBvcState

/-- A RESET-ACK does not come to an unblocked BVC whose T2 runs. -/
def AckInTime (sys : Sys CellId) : SysEvent → Prop
  | .round side true _ => isResetAck (sys side).inbox.head? = true →
      ¬ ((sys side).bvc.ptpBvcState = .unblocked
        ∧ (sys side).bvc.t2.isRunning expiredRuns = true)
  | _ => True

-- ── What a round does in the handshake ───────────────────────────────────────

/-- The RESET that an entity sends, and the one that it receives. -/
def ownReset (cfg : BvcConfig CellId) (cause : BssgpCause) : PduBssgp CellId :=
  .bvcReset cfg.bvci cause (if cfg.sgsnRole then none else some cfg.cellId)

/-- A RESET as the other end sends it. -/
def peerReset (cfg : BvcConfig CellId) (cause : BssgpCause) : PduBssgp CellId :=
  .bvcReset cfg.bvci cause (if cfg.sgsnRole then some cfg.cellId else none)

/-- A RESET-ACK as this end sends it. -/
def ownAck (cfg : BvcConfig CellId) : PduBssgp CellId :=
  .bvcResetAck cfg.bvci (if cfg.sgsnRole then none else some cfg.cellId)

/-- A RESET-ACK as the other end sends it. -/
def peerAck (cfg : BvcConfig CellId) : PduBssgp CellId :=
  .bvcResetAck cfg.bvci (if cfg.sgsnRole then some cfg.cellId else none)

/-- What a round does, as long as only RESETs and their acknowledgements are
    about. -/
inductive ResetEffect (cfg : BvcConfig CellId) (s : Bvc)
    (head : Option (BvcIn CellId)) (f : Fired CellId) : Prop where
  | acks (c : BssgpCause) : head = some (.udInd 0 (peerReset cfg c)) →
      f.waited = .bvc → f.bvc = { s with ptpBvcState := .unblocked } →
      sends f.out = [.udInd 0 (ownAck cfg)] → ResetEffect cfg s head f
  | acked : head = some (.udInd 0 (peerAck cfg)) → f.waited = .bvc →
      f.bvc = { s with ptpBvcState := .unblocked, t2 := .idle } →
      sends f.out = [] → ResetEffect cfg s head f
  | ignores : head = some (.udInd 0 (peerAck cfg)) →
      s.ptpBvcState = .unblocked ∨ s.t2 = .idle → f.waited = .bvc →
      f.bvc = s → sends f.out = [] → ResetEffect cfg s head f
  | retransmits (c : BssgpCause) : s.ptpBvcState = .blocked →
      s.t2 ≠ .idle → f.waited = .t2 →
      f.bvc = { s with t2 := .running, lastResetCause := some c } →
      sends f.out = [.udInd 0 (ownReset cfg c)] → ResetEffect cfg s head f
  | resets (c : BssgpCause) :
      f.waited = .mgmt ∨ f.waited = .bvc ∧ head = some .resetInd →
      f.bvc = { s with
        ptpBvcState := .blocked, t2 := .running, lastResetCause := some c } →
      sends f.out = [.udInd 0 (ownReset cfg c)] → ResetEffect cfg s head f

omit [DecidableEq CellId] in
@[simp] theorem sends_nil : sends ([] : List (BvcOut CellId)) = [] := rfl

omit [DecidableEq CellId] in
@[simp] theorem sends_cons (o : BvcOut CellId) (os : List (BvcOut CellId)) :
    sends (o :: os) = (onChannel o).toList ++ sends os := by
  rw [sends, List.filterMap_cons]
  cases onChannel o with
  | none => rfl
  | some m => rfl

omit [DecidableEq CellId] in
@[simp] theorem sends_append (os os' : List (BvcOut CellId)) :
    sends (os ++ os') = sends os ++ sends os' :=
  List.filterMap_append

omit [DecidableEq CellId] in
@[simp] theorem fPtpChangeState_sends (cfg : BvcConfig CellId) (ns : BvcState)
    (s : Bvc) : sends (fPtpChangeState cfg ns s).2 = [] := by
  rw [fPtpChangeState]
  by_cases h : ns = s.ptpBvcState
  · rw [if_pos h]
    rfl
  · rw [if_neg h]
    cases cfg.mgmtConnected with
    | true => rfl
    | false => rfl

omit [DecidableEq CellId] in
@[simp] theorem mgmtReset_sends (cfg : BvcConfig CellId) (bvci : Nat) :
    sends (if cfg.mgmtConnected = true then
      [(.mgmtReset bvci : BvcOut CellId)] else []) = [] := by
  cases cfg.mgmtConnected with
  | true => rfl
  | false => rfl

variable {expiredRuns}
variable {cfg : BvcConfig CellId} {s : Bvc} {mgmt : Option MgmtIn}

/-- A RESET of the peer is answered in either state. -/
theorem alt_peerReset (ht1 : s.t1 = .idle) (c : BssgpCause) :
    alt (bvcAlts cfg expiredRuns ⟨some (.udInd 0 (peerReset cfg c)), mgmt⟩ s)
      = some (fired .bvc (andThen (s, (if cfg.mgmtConnected = true
          then [.mgmtReset cfg.bvci] else []) ++ [.bvc 0 (ownAck cfg)])
        (fPtpChangeState cfg .unblocked))) := by
  cases hst : s.ptpBvcState with
  | blocked =>
      cases hrole : cfg.sgsnRole with
      | true =>
          simp [bvcAlts, hst, asPtpBlocked, asPtpHandleInboundReset, receives, ht1,
            peerReset, ownAck, trBvcReset,
            trBvcResetAck, hrole]
      | false =>
          simp [bvcAlts, hst, asPtpBlocked, asPtpHandleInboundReset, receives, ht1,
            peerReset, ownAck, trBvcReset,
            trBvcResetAck, hrole]
  | unblocked =>
      cases hrole : cfg.sgsnRole with
      | true =>
          simp [bvcAlts, hst, asPtpUnblocked, asPtpHandleInboundReset, receives, ht1,
            peerReset, ownAck, trBvcReset,
            trBvcBlock, hrole]
      | false =>
          simp [bvcAlts, hst, asPtpUnblocked, asPtpHandleInboundReset, receives, ht1,
            peerReset, ownAck, trBvcReset,
            trBvcBlock, hrole]

/-- A RESET-ACK is taken in time by a blocked BVC. -/
theorem alt_peerAck_blocked (ht1 : s.t1 = .idle)
    (hst : s.ptpBvcState = .blocked) (hrun : s.t2.isRunning expiredRuns = true) :
    alt (bvcAlts cfg expiredRuns ⟨some (.udInd 0 (peerAck cfg)), mgmt⟩ s)
      = some (fired .bvc
        (fPtpChangeState cfg .unblocked { s with t2 := .idle })) := by
  cases hrole : cfg.sgsnRole with
  | true =>
      simp [bvcAlts, hst, asPtpBlocked, receives, ht1, hrun, peerAck, trBvcResetAck, hrole]
  | false =>
      simp [bvcAlts, hst, asPtpBlocked, receives, ht1, hrun, peerAck, trBvcResetAck, hrole]

/-- No alternative of the unblocked state is for a RESET-ACK. -/
theorem alt_peerAck_unblocked (ht1 : s.t1 = .idle)
    (hst : s.ptpBvcState = .unblocked) :
    alt (bvcAlts cfg expiredRuns ⟨some (.udInd 0 (peerAck cfg)), mgmt⟩ s)
      = some (fired .bvc (s, [.routed])) := by
  simp [bvcAlts, hst, asPtpUnblocked, asPtpHandleInboundReset, receives, ht1,
    peerAck, trBvcReset, trBvcBlock]

/-- A BVC that was never reset takes a RESET-ACK for an error. -/
theorem alt_peerAck_idle (ht1 : s.t1 = .idle) (hst : s.ptpBvcState = .blocked)
    (ht2 : s.t2 = .idle) (hmgmt : mgmt ≠ some .unblockRequest) :
    alt (bvcAlts cfg expiredRuns ⟨some (.udInd 0 (peerAck cfg)), mgmt⟩ s)
      = some (fired .bvc (s, [.verdictFail])) := by
  simp [bvcAlts, hst, asPtpBlocked, asPtpHandleInboundReset, asPtpAllstate,
    receives, ht1, ht2, hmgmt, Timer.timedOut, peerAck, trBvcReset]

/-- What does not come in time, or is not for T2, lets T2 time out. -/
theorem alt_timeout {head : Option (BvcIn CellId)} {c : BssgpCause}
    (ht1 : s.t1 = .idle) (hst : s.ptpBvcState = .blocked)
    (ht2 : s.t2 = .expired) (hcause : s.lastResetCause = some c)
    (hhead : head = none ∨ head = some .resetInd
      ∨ head = some (.udInd 0 (peerAck cfg)) ∧ expiredRuns = false) :
    alt (bvcAlts cfg expiredRuns ⟨head, mgmt⟩ s)
      = some (fired .t2 (fPtpSendReset cfg c s)) := by
  rcases hhead with rfl | rfl | ⟨rfl, rfl⟩
  · simp [bvcAlts, hst, asPtpBlocked, asPtpHandleInboundReset, receives, ht1,
      ht2, hcause, Timer.timedOut]
  · simp [bvcAlts, hst, asPtpBlocked, asPtpHandleInboundReset, receives, ht1,
      ht2, hcause, Timer.timedOut]
  · simp [bvcAlts, hst, asPtpBlocked, asPtpHandleInboundReset, receives, ht1,
      ht2, hcause, Timer.timedOut, peerAck, trBvcReset]

/-- The signalling BVC of a BSS was reset. -/
theorem alt_resetInd (ht1 : s.t1 = .idle) (hrole : cfg.sgsnRole = false)
    (hmgmt : mgmt = none ∨ ∃ c, mgmt = some (.resetRequest c))
    (ht2 : s.ptpBvcState = .blocked → s.t2 ≠ .expired) :
    alt (bvcAlts cfg expiredRuns ⟨some .resetInd, mgmt⟩ s)
      = some (fired .bvc (andThen
        (s, if cfg.mgmtConnected = true then [.mgmtReset 0] else [])
        (fun s => andThen (fPtpChangeState cfg .blocked s)
          (fPtpSendReset cfg .omIntervention)))) := by
  have hno : mgmt ≠ some .unblockRequest := by
    rcases hmgmt with rfl | ⟨c, rfl⟩ <;> simp
  cases hst : s.ptpBvcState with
  | blocked =>
      have htimed := Timer.timedOut_of_ne (ht2 hst)
      simp [bvcAlts, hst, asPtpBlocked, asPtpHandleInboundReset, asPtpAllstate,
        receives, ht1, htimed, hno, hrole]
  | unblocked =>
      rcases hmgmt with rfl | ⟨c, rfl⟩
      · simp [bvcAlts, hst, asPtpUnblocked, asPtpHandleInboundReset,
          asPtpAllstate, receives, ht1, hrole]
      · simp [bvcAlts, hst, asPtpUnblocked, asPtpHandleInboundReset,
          asPtpAllstate, receives, ht1, hrole]

/-- The user asks for a reset. -/
theorem alt_request (ht1 : s.t1 = .idle) (c : BssgpCause)
    (ht2 : s.ptpBvcState = .blocked → s.t2 ≠ .expired) :
    alt (bvcAlts cfg expiredRuns ⟨none, some (.resetRequest c)⟩ s)
      = some (fired .mgmt (andThen (fPtpChangeState cfg .blocked s)
        (fPtpSendReset cfg c))) := by
  cases hst : s.ptpBvcState with
  | blocked =>
      have htimed := Timer.timedOut_of_ne (ht2 hst)
      simp [bvcAlts, hst, asPtpBlocked, asPtpHandleInboundReset, asPtpAllstate,
        receives, ht1, htimed]
  | unblocked =>
      simp [bvcAlts, hst, asPtpUnblocked, asPtpHandleInboundReset,
        asPtpAllstate, receives, ht1]

/-- Without a message and without a timeout no alternative is taken. -/
theorem alt_nothing (ht1 : s.t1 = .idle)
    (ht2 : s.ptpBvcState = .blocked → s.t2 ≠ .expired) :
    alt (bvcAlts cfg expiredRuns ⟨none, none⟩ s) = none := by
  cases hst : s.ptpBvcState with
  | blocked =>
      have htimed := Timer.timedOut_of_ne (ht2 hst)
      simp [bvcAlts, hst, asPtpBlocked, asPtpHandleInboundReset, asPtpAllstate,
        receives, ht1, htimed]
  | unblocked =>
      simp [bvcAlts, hst, asPtpUnblocked, asPtpHandleInboundReset,
        asPtpAllstate, receives, ht1]

/-- What may be at the head of the port to the peer. -/
def ResetHead (cfg : BvcConfig CellId) (head : Option (BvcIn CellId)) : Prop :=
  head = none ∨ (∃ c, head = some (.udInd 0 (peerReset cfg c)))
    ∨ head = some (.udInd 0 (peerAck cfg))
    ∨ head = some .resetInd ∧ cfg.sgsnRole = false

/-- **WHAT A ROUND DOES**: it waits, or has one of the effects. -/
theorem round_effect {head : Option (BvcIn CellId)} (request : Option BssgpCause)
    (ht1 : s.t1 = .idle)
    (hcause : s.t2 ≠ .idle → ∃ c, s.lastResetCause = some c)
    (hhead : ResetHead cfg head) :
    alt (bvcAlts cfg expiredRuns ⟨head, request.map .resetRequest⟩ s) = none
      ∨ ∃ f, alt (bvcAlts cfg expiredRuns
          ⟨head, request.map .resetRequest⟩ s) = some (.ok f)
        ∧ ResetEffect cfg s head f := by
  have hretry : ∀ {c : BssgpCause}, s.ptpBvcState = .blocked → s.t2 = .expired →
      s.lastResetCause = some c →
      (head = none ∨ head = some .resetInd
        ∨ head = some (.udInd 0 (peerAck cfg)) ∧ expiredRuns = false) →
      ∃ f, alt (bvcAlts cfg expiredRuns ⟨head, request.map .resetRequest⟩ s)
        = some (.ok f) ∧ ResetEffect cfg s head f := by
    intro c hst ht2 hc hh
    refine ⟨_, alt_timeout ht1 hst ht2 hc hh, ?_⟩
    exact .retransmits c hst (by rw [ht2]; decide) rfl rfl rfl
  rcases hhead with rfl | ⟨c, rfl⟩ | rfl | ⟨rfl, hrole⟩
  · by_cases hto : s.ptpBvcState = .blocked ∧ s.t2 = .expired
    · obtain ⟨c, hc⟩ := hcause (by rw [hto.2]; decide)
      exact Or.inr (hretry hto.1 hto.2 hc (Or.inl rfl))
    · have ht2 : s.ptpBvcState = .blocked → s.t2 ≠ .expired :=
        fun hst h2 => hto ⟨hst, h2⟩
      cases request with
      | none => exact Or.inl (alt_nothing ht1 ht2)
      | some c =>
          refine Or.inr ⟨_, alt_request ht1 c ht2, .resets c (Or.inl rfl) ?_ ?_⟩
          · simp [andThen, fPtpSendReset]
          · simp [andThen, fPtpSendReset, onChannel, ownReset]
  · refine Or.inr ⟨_, alt_peerReset ht1 c, .acks c rfl rfl ?_ ?_⟩
    · simp [andThen]
    · simp [andThen, onChannel]
  · cases hst : s.ptpBvcState with
    | unblocked =>
        exact Or.inr ⟨_, alt_peerAck_unblocked ht1 hst,
          .ignores rfl (Or.inl hst) rfl rfl rfl⟩
    | blocked =>
        have htaken : s.t2.isRunning expiredRuns = true →
            ∃ f, alt (bvcAlts cfg expiredRuns
              ⟨some (.udInd 0 (peerAck cfg)), request.map .resetRequest⟩ s)
              = some (.ok f)
              ∧ ResetEffect cfg s (some (.udInd 0 (peerAck cfg))) f := by
          intro hrun
          refine ⟨_, alt_peerAck_blocked ht1 hst hrun, .acked rfl rfl ?_ ?_⟩
          · simp
          · simp
        cases ht2 : s.t2 with
        | idle =>
            have hmgmt : request.map MgmtIn.resetRequest ≠ some .unblockRequest := by
              intro h
              obtain ⟨c, -, hc⟩ := Option.map_eq_some_iff.mp h
              cases hc
            exact Or.inr ⟨_, alt_peerAck_idle ht1 hst ht2 hmgmt,
              .ignores rfl (Or.inr ht2) rfl rfl rfl⟩
        | running => exact Or.inr (htaken (by rw [ht2]; rfl))
        | expired =>
            obtain ⟨c, hc⟩ := hcause (by rw [ht2]; decide)
            cases expiredRuns with
            | true => exact Or.inr (htaken (by rw [ht2]; rfl))
            | false => exact Or.inr (hretry hst ht2 hc (Or.inr (Or.inr ⟨rfl, rfl⟩)))
  · by_cases hto : s.ptpBvcState = .blocked ∧ s.t2 = .expired
    · obtain ⟨c, hc⟩ := hcause (by rw [hto.2]; decide)
      exact Or.inr (hretry hto.1 hto.2 hc (Or.inr (Or.inl rfl)))
    · have hmgmt : request.map MgmtIn.resetRequest = none
          ∨ ∃ c, request.map MgmtIn.resetRequest = some (.resetRequest c) := by
        cases request with
        | none => exact Or.inl rfl
        | some c => exact Or.inr ⟨c, rfl⟩
      refine Or.inr ⟨_, alt_resetInd ht1 hrole hmgmt
        (fun hst h2 => hto ⟨hst, h2⟩),
        .resets .omIntervention (Or.inr ⟨rfl, rfl⟩) ?_ ?_⟩
      · simp [andThen, fPtpSendReset]
      · simp [andThen, fPtpSendReset, onChannel, ownReset]

-- ── The invariant ────────────────────────────────────────────────────────────

/-- What holds of a party `p`, beside its peer `q`. -/
structure PartyInv (cfg : BvcConfig CellId) (expiredRuns : Bool)
    (p q : Party CellId) : Prop where
  t1Idle : p.bvc.t1 = .idle
  inbox : ∀ m ∈ p.inbox, (∃ c, m = .udInd 0 (peerReset cfg c))
    ∨ m = .udInd 0 (peerAck cfg)
  cause : p.bvc.t2 ≠ .idle → ∃ c, p.bvc.lastResetCause = some c
  /-- A blocked BVC waits for a RESET-ACK that is on its way. -/
  waits : p.bvc.ptpBvcState = .blocked → p.bvc.t2 ≠ .idle → p.awaiting = true
    ∧ ((∃ c, .udInd 0 (ownReset cfg c) ∈ q.inbox)
      ∨ .udInd 0 (peerAck cfg) ∈ p.inbox)
  /-- An unblocked BVC has not had it yet. -/
  crossed : p.bvc.ptpBvcState = .unblocked →
    p.bvc.t2.isRunning expiredRuns = true → p.awaiting = true
  /-- A BVC that was never reset has sent nothing. -/
  fresh : p.bvc.ptpBvcState = .blocked → p.bvc.t2 = .idle →
    q.inbox = [] ∧ q.bvc.ptpBvcState = .blocked

/-- The invariant of both ends. -/
def SysInv (net : Net CellId) (expiredRuns : Bool) (sys : Sys CellId) : Prop :=
  ∀ x, PartyInv (net.cfg x) expiredRuns (sys x) (sys x.other)

omit [DecidableEq CellId] in
/-- Both ends start with it. -/
theorem sysInv_init (net : Net CellId) (expiredRuns : Bool) :
    SysInv net expiredRuns Sys.init := by
  intro x
  constructor
  · rfl
  · exact fun m hm => nomatch hm
  · exact fun hne => absurd rfl hne
  · exact fun _ hne => absurd rfl hne
  · exact fun hst => nomatch hst
  · exact fun _ _ => ⟨rfl, rfl⟩

omit [DecidableEq CellId] in
/-- What one side sends is what the other one receives. -/
theorem peerReset_other (net : Net CellId) (x : Side) (c : BssgpCause) :
    peerReset (net.cfg x.other) c = ownReset (net.cfg x) c := by
  cases x with
  | bss => rfl
  | sgsn => rfl

omit [DecidableEq CellId] in
/-- What one end sends the other one expects. -/
theorem peerAck_other (net : Net CellId) (x : Side) :
    peerAck (net.cfg x.other) = ownAck (net.cfg x) := by
  cases x with
  | bss => rfl
  | sgsn => rfl

omit [DecidableEq CellId] in
/-- **AT REST BOTH SIDES AGREE**, and nothing is sent for an old RESET. -/
theorem SysInv.agree {net : Net CellId} {sys : Sys CellId}
    (h : SysInv net expiredRuns sys) (hempty : ∀ x, (sys x).inbox = []) :
    (sys .bss).bvc.ptpBvcState = (sys .sgsn).bvc.ptpBvcState := by
  have hidle : ∀ x, (sys x).bvc.ptpBvcState = .blocked →
      (sys x).bvc.t2 = .idle := by
    intro x hst
    by_contra hne
    rcases ((h x).waits hst hne).2 with ⟨c, hc⟩ | hack
    · rw [hempty x.other] at hc
      exact nomatch hc
    · rw [hempty x] at hack
      exact nomatch hack
  cases hb : (sys .bss).bvc.ptpBvcState with
  | blocked => exact (((h .bss).fresh hb (hidle .bss hb)).2).symm
  | unblocked =>
      cases hs : (sys .sgsn).bvc.ptpBvcState with
      | unblocked => rfl
      | blocked =>
          have hblocked := ((h .sgsn).fresh hs (hidle .sgsn hs)).2
          rw [show (Side.sgsn).other = .bss from rfl, hb] at hblocked
          exact nomatch hblocked

-- ── One round keeps it ───────────────────────────────────────────────────────

omit [DecidableEq CellId] in
/-- The peer of a side that takes a round. -/
theorem PartyInv.peer {p p' q : Party CellId} {sent : List (BvcIn CellId)}
    (hq : PartyInv cfg expiredRuns q p)
    (hsent : ∀ m ∈ sent, (∃ c, m = .udInd 0 (peerReset cfg c))
      ∨ m = .udInd 0 (peerAck cfg))
    (hkept : ∀ c, .udInd 0 (ownReset cfg c) ∈ p.inbox →
      .udInd 0 (ownReset cfg c) ∈ p'.inbox ∨ .udInd 0 (peerAck cfg) ∈ sent)
    (hfresh : p.inbox = [] → p.bvc.ptpBvcState = .blocked →
      p'.inbox = [] ∧ p'.bvc.ptpBvcState = .blocked) :
    PartyInv cfg expiredRuns { q with inbox := q.inbox ++ sent } p' where
  t1Idle := hq.t1Idle
  inbox := by
    intro m hm
    rcases List.mem_append.mp hm with hm | hm
    · exact hq.inbox m hm
    · exact hsent m hm
  cause := hq.cause
  waits := by
    intro hst hne
    obtain ⟨haw, hway⟩ := hq.waits hst hne
    refine ⟨haw, ?_⟩
    rcases hway with ⟨c, hc⟩ | hack
    · rcases hkept c hc with hc | hack
      · exact Or.inl ⟨c, hc⟩
      · exact Or.inr (List.mem_append_right _ hack)
    · exact Or.inr (List.mem_append_left _ hack)
  crossed := hq.crossed
  fresh := by
    intro hst hidle
    obtain ⟨hempty, hblocked⟩ := hq.fresh hst hidle
    exact hfresh hempty hblocked

omit [DecidableEq CellId] in
/-- A message of the peer that was taken was the first one. -/
theorem after_inbox_taken {p : Party CellId} {heard : Heard}
    {f : Fired CellId} {n : Nat} {pdu : PduBssgp CellId}
    (hhead : heard.head p = some (.udInd n pdu)) (hw : f.waited = .bvc) :
    p.inbox = .udInd n pdu :: (p.after heard f).inbox := by
  cases heard with
  | nothing => exact nomatch hhead
  | sigReset => exact nomatch hhead
  | peer =>
      have hin : p.inbox.head? = some (.udInd n pdu) := hhead
      show p.inbox = .udInd n pdu ::
        (if f.waited = .bvc ∧ Heard.peer = .peer then p.inbox.tail else p.inbox)
      rw [if_pos ⟨hw, rfl⟩]
      cases hp : p.inbox with
      | nil =>
          rw [hp] at hin
          exact nomatch hin
      | cons m rest =>
          rw [hp] at hin
          rw [Option.some.inj hin]
          rfl

omit [DecidableEq CellId] in
/-- A reset of its own takes nothing from the peer. -/
theorem after_inbox_kept {p q : Party CellId} {heard : Heard} {f : Fired CellId}
    (hp : PartyInv cfg expiredRuns p q)
    (hw : f.waited ≠ .bvc ∨ heard.head p = some .resetInd) :
    (p.after heard f).inbox = p.inbox := by
  refine if_neg ?_
  rintro ⟨hbvc, rfl⟩
  rcases hw with hw | hhead
  · exact hw hbvc
  · have hin : p.inbox.head? = some .resetInd := hhead
    rcases hp.inbox _ (List.mem_of_mem_head? hin) with ⟨c, hc⟩ | hack
    · exact nomatch hc
    · exact nomatch hack

omit [DecidableEq CellId] in
/-- Who has sent a RESET waits for its answer. -/
theorem after_awaiting_reset {p : Party CellId} {heard : Heard}
    {f : Fired CellId} {c : BssgpCause}
    (h : sends f.out = [.udInd 0 (ownReset cfg c)]) :
    (p.after heard f).awaiting = true := by
  show (sendsReset f.out || _) = true
  rw [sendsReset, h]
  rfl

omit [DecidableEq CellId] in
/-- A side that starts a reset, or sends its RESET again. -/
theorem PartyInv.sendsReset {net : Net CellId} {x : Side} {p q : Party CellId}
    {heard : Heard} {f : Fired CellId} {c : BssgpCause}
    (hp : PartyInv (net.cfg x) expiredRuns p q)
    (hq : PartyInv (net.cfg x.other) expiredRuns q p)
    (hw : f.waited ≠ .bvc ∨ heard.head p = some .resetInd)
    (hbvc : f.bvc = { p.bvc with
      ptpBvcState := .blocked, t2 := .running, lastResetCause := some c })
    (hout : sends f.out = [.udInd 0 (ownReset (net.cfg x) c)]) :
    PartyInv (net.cfg x) expiredRuns (p.after heard f)
        { q with inbox := q.inbox ++ sends f.out }
      ∧ PartyInv (net.cfg x.other) expiredRuns
        { q with inbox := q.inbox ++ sends f.out } (p.after heard f) := by
  have hin := after_inbox_kept (f := f) hp hw
  have hst : (p.after heard f).bvc.ptpBvcState = .blocked :=
    congrArg Bvc.ptpBvcState hbvc
  have ht2 : (p.after heard f).bvc.t2 = .running := congrArg Bvc.t2 hbvc
  constructor
  · constructor
    · exact (congrArg Bvc.t1 hbvc).trans hp.t1Idle
    · rw [hin]
      exact hp.inbox
    · exact fun _ => ⟨c, congrArg Bvc.lastResetCause hbvc⟩
    · refine fun _ _ => ⟨after_awaiting_reset hout, Or.inl ⟨c, ?_⟩⟩
      rw [hout]
      exact List.mem_append_right _ (List.mem_singleton.mpr rfl)
    · intro hun
      rw [hst] at hun
      exact nomatch hun
    · intro _ hidle
      rw [ht2] at hidle
      exact nomatch hidle
  · refine hq.peer (fun m hm => ?_) (fun c hc => ?_) (fun hempty _ => ?_)
    · rw [hout] at hm
      rw [List.mem_singleton.mp hm]
      exact Or.inl ⟨c, by rw [peerReset_other]⟩
    · rw [hin]
      exact Or.inl hc
    · exact ⟨hin.trans hempty, hst⟩

omit [DecidableEq CellId] in
/-- A side that answers a RESET. -/
theorem PartyInv.acks {net : Net CellId} {x : Side} {p q : Party CellId}
    {heard : Heard} {f : Fired CellId} {c : BssgpCause}
    (hp : PartyInv (net.cfg x) expiredRuns p q)
    (hq : PartyInv (net.cfg x.other) expiredRuns q p)
    (hhead : heard.head p = some (.udInd 0 (peerReset (net.cfg x) c)))
    (hw : f.waited = .bvc)
    (hbvc : f.bvc = { p.bvc with ptpBvcState := .unblocked })
    (hout : sends f.out = [.udInd 0 (ownAck (net.cfg x))]) :
    PartyInv (net.cfg x) expiredRuns (p.after heard f)
        { q with inbox := q.inbox ++ sends f.out }
      ∧ PartyInv (net.cfg x.other) expiredRuns
        { q with inbox := q.inbox ++ sends f.out } (p.after heard f) := by
  have hin := after_inbox_taken hhead hw
  have hst : (p.after heard f).bvc.ptpBvcState = .unblocked :=
    congrArg Bvc.ptpBvcState hbvc
  have ht2 : (p.after heard f).bvc.t2 = p.bvc.t2 := by
    show f.bvc.t2 = p.bvc.t2
    rw [hbvc]
  have haw : p.awaiting = true → (p.after heard f).awaiting = true := by
    intro h
    show (OsmoBvc.sendsReset f.out || (p.awaiting && !(_ && _))) = true
    rw [h, hhead]
    simp [isResetAck, peerReset]
  constructor
  · constructor
    · exact (congrArg Bvc.t1 hbvc).trans hp.t1Idle
    · intro m hm
      exact hp.inbox m (by rw [hin]; exact List.mem_cons_of_mem _ hm)
    · intro hne
      rw [ht2] at hne
      obtain ⟨c', hc'⟩ := hp.cause hne
      exact ⟨c', (congrArg Bvc.lastResetCause hbvc).trans hc'⟩
    · intro hb
      rw [hst] at hb
      exact nomatch hb
    · intro _ hrun
      rw [ht2] at hrun
      cases hst' : p.bvc.ptpBvcState with
      | unblocked => exact haw (hp.crossed hst' hrun)
      | blocked =>
          refine haw (hp.waits hst' (fun hidle => ?_)).1
          rw [hidle] at hrun
          exact nomatch hrun
    · intro hb
      rw [hst] at hb
      exact nomatch hb
  · refine hq.peer (fun m hm => ?_) (fun c' hc' => ?_) (fun hempty _ => ?_)
    · rw [hout] at hm
      rw [List.mem_singleton.mp hm]
      exact Or.inr (by rw [peerAck_other])
    · rw [hout, peerAck_other]
      exact Or.inr (List.mem_singleton.mpr rfl)
    · rw [hin] at hempty
      exact nomatch hempty

omit [DecidableEq CellId] in
/-- A side that takes a RESET-ACK and sends nothing. -/
theorem PartyInv.takesAck {net : Net CellId} {x : Side} {p q : Party CellId}
    {heard : Heard} {f : Fired CellId}
    (hp : PartyInv (net.cfg x) expiredRuns p q)
    (hq : PartyInv (net.cfg x.other) expiredRuns q p)
    (hhead : heard.head p = some (.udInd 0 (peerAck (net.cfg x))))
    (hw : f.waited = .bvc) (hout : sends f.out = [])
    (ht1 : f.bvc.t1 = p.bvc.t1)
    (hcause : f.bvc.lastResetCause = p.bvc.lastResetCause)
    (ht2 : f.bvc.t2 ≠ .idle → f.bvc.t2 = p.bvc.t2
      ∧ f.bvc.ptpBvcState = .unblocked)
    (hrun : f.bvc.t2.isRunning expiredRuns = false)
    (hfresh : f.bvc.ptpBvcState = .blocked →
      p.bvc.ptpBvcState = .blocked ∧ p.bvc.t2 = .idle) :
    PartyInv (net.cfg x) expiredRuns (p.after heard f)
        { q with inbox := q.inbox ++ sends f.out }
      ∧ PartyInv (net.cfg x.other) expiredRuns
        { q with inbox := q.inbox ++ sends f.out } (p.after heard f) := by
  have hin := after_inbox_taken hhead hw
  constructor
  · constructor
    · exact ht1.trans hp.t1Idle
    · intro m hm
      exact hp.inbox m (by rw [hin]; exact List.mem_cons_of_mem _ hm)
    · intro hne
      obtain ⟨hsame, -⟩ := ht2 hne
      obtain ⟨c, hc⟩ := hp.cause (hsame ▸ hne)
      exact ⟨c, hcause.trans hc⟩
    · intro hb hne
      have hun := (ht2 hne).2
      rw [show f.bvc.ptpBvcState = .blocked from hb] at hun
      exact nomatch hun
    · intro _ hrun'
      rw [show f.bvc.t2.isRunning expiredRuns = true from hrun'] at hrun
      exact nomatch hrun
    · intro hb _
      obtain ⟨hpb, hidle⟩ := hfresh hb
      rw [hout, List.append_nil]
      exact hp.fresh hpb hidle
  · refine hq.peer (fun m hm => ?_) (fun c hc => ?_) (fun hempty _ => ?_)
    · rw [hout] at hm
      exact nomatch hm
    · rw [hin] at hc
      rcases List.mem_cons.mp hc with hc | hc
      · exact nomatch hc
      · exact Or.inl hc
    · rw [hin] at hempty
      exact nomatch hempty

omit [DecidableEq CellId] in
/-- **ONE ROUND** in which no RESET-ACK comes to an unblocked BVC whose T2
    runs. -/
theorem ResetEffect.inv {net : Net CellId} {x : Side} {p q : Party CellId}
    {heard : Heard} {f : Fired CellId}
    (he : ResetEffect (net.cfg x) p.bvc (heard.head p) f)
    (hp : PartyInv (net.cfg x) expiredRuns p q)
    (hq : PartyInv (net.cfg x.other) expiredRuns q p)
    (hintime : isResetAck (heard.head p) = true →
      ¬ (p.bvc.ptpBvcState = .unblocked
        ∧ p.bvc.t2.isRunning expiredRuns = true)) :
    PartyInv (net.cfg x) expiredRuns (p.after heard f)
        { q with inbox := q.inbox ++ sends f.out }
      ∧ PartyInv (net.cfg x.other) expiredRuns
        { q with inbox := q.inbox ++ sends f.out } (p.after heard f) := by
  cases he with
  | acks c hhead hw hbvc hout => exact hp.acks hq hhead hw hbvc hout
  | acked hhead hw hbvc hout =>
      have hidle : f.bvc.t2 = .idle := congrArg Bvc.t2 hbvc
      have hun : f.bvc.ptpBvcState = .unblocked := congrArg Bvc.ptpBvcState hbvc
      refine hp.takesAck hq hhead hw hout (by rw [hbvc]) (by rw [hbvc])
        (fun hne => absurd hidle hne) ?_ ?_
      · rw [hidle]
        rfl
      · intro hb
        rw [hun] at hb
        exact nomatch hb
  | ignores hhead hcase hw hbvc hout =>
      rw [hhead] at hintime
      have hnot := hintime rfl
      have hrun : f.bvc.t2.isRunning expiredRuns = false := by
        rw [hbvc]
        rcases hcase with hun | hidle
        · exact Bool.eq_false_iff.mpr (fun hr => hnot ⟨hun, hr⟩)
        · rw [hidle]
          rfl
      refine hp.takesAck hq hhead hw hout (by rw [hbvc]) (by rw [hbvc]) ?_
        hrun ?_
      · intro hne
        rw [hbvc] at hne ⊢
        rcases hcase with hun | hidle
        · exact ⟨rfl, hun⟩
        · exact absurd hidle hne
      · intro hb
        rw [hbvc] at hb
        rcases hcase with hun | hidle
        · rw [hun] at hb
          exact nomatch hb
        · exact ⟨hb, hidle⟩
  | retransmits c hst _ hw hbvc hout =>
      refine hp.sendsReset hq (Or.inl (by rw [hw]; decide)) ?_ hout
      rw [hbvc, hst]
  | resets c hw hbvc hout =>
      refine hp.sendsReset hq ?_ hbvc hout
      rcases hw with hw | ⟨-, hhead⟩
      · exact Or.inl (by rw [hw]; decide)
      · exact Or.inr hhead

-- ── Every step ───────────────────────────────────────────────────────────────

omit [DecidableEq CellId] in
/-- What is at the head of the port, while an answer is waited for. -/
theorem PartyInv.resetHead {net : Net CellId} {x : Side} {p q : Party CellId}
    (hp : PartyInv (net.cfg x) expiredRuns p q) {heard : Heard}
    (hsig : heard = .sigReset → x = .bss) :
    ResetHead (net.cfg x) (heard.head p) := by
  cases heard with
  | nothing => exact Or.inl rfl
  | sigReset =>
      rw [hsig rfl]
      exact Or.inr (Or.inr (Or.inr ⟨rfl, rfl⟩))
  | peer =>
      show ResetHead _ p.inbox.head?
      cases hin : p.inbox with
      | nil => exact Or.inl rfl
      | cons m rest =>
          rcases hp.inbox m (by rw [hin]; exact List.mem_cons_self) with
            ⟨c, hc⟩ | hack
          · rw [hc]
            exact Or.inr (Or.inl ⟨c, rfl⟩)
          · rw [hack]
            exact Or.inr (Or.inr (Or.inl rfl))

/-- A round returns and keeps the invariant. -/
theorem sysRound_inv {net : Net CellId} {sys : Sys CellId} {x : Side}
    {heard : Heard} (request : Option BssgpCause)
    (h : SysInv net expiredRuns sys) (hsig : heard = .sigReset → x = .bss)
    (hintime : isResetAck (heard.head (sys x)) = true →
      ¬ ((sys x).bvc.ptpBvcState = .unblocked
        ∧ (sys x).bvc.t2.isRunning expiredRuns = true)) :
    ∃ sys' u, sysRound net expiredRuns sys x heard request = .ok (sys', u)
      ∧ SysInv net expiredRuns sys' := by
  have hhead := (h x).resetHead hsig
  rw [sysRound]
  rcases round_effect request (h x).t1Idle (h x).cause hhead with
    halt | ⟨f, halt, heff⟩
  · rw [halt]
    exact ⟨sys, (), rfl, h⟩
  · rw [halt]
    refine ⟨_, _, rfl, ?_⟩
    have hother : PartyInv (net.cfg x.other) expiredRuns (sys x.other) (sys x) := by
      have ho := h x.other
      cases x with
      | bss => exact ho
      | sgsn => exact ho
    obtain ⟨hx, hy⟩ := heff.inv (h x) hother hintime
    intro z
    cases x with
    | bss =>
        cases z with
        | bss => exact hx
        | sgsn => exact hy
    | sgsn =>
        cases z with
        | bss => exact hy
        | sgsn => exact hx

omit [DecidableEq CellId] in
/-- T1 does not run during a reset. -/
theorem PartyInv.expireT1 {p q : Party CellId}
    (h : PartyInv cfg expiredRuns p q) :
    { p with bvc := { p.bvc with t1 := p.bvc.t1.expire } } = p := by
  rw [h.t1Idle]
  show { p with bvc := { p.bvc with t1 := .idle } } = p
  rw [← h.t1Idle]

omit [DecidableEq CellId] in
/-- T2 may expire at any time. -/
theorem PartyInv.expireT2 {p q : Party CellId}
    (h : PartyInv cfg expiredRuns p q) :
    PartyInv cfg expiredRuns
      { p with bvc := { p.bvc with t2 := p.bvc.t2.expire } } q := by
  have hidle : p.bvc.t2.expire = .idle ↔ p.bvc.t2 = .idle := by
    cases p.bvc.t2 <;> simp [Timer.expire]
  constructor
  · exact h.t1Idle
  · exact h.inbox
  · exact fun hne => h.cause (fun hi => hne (hidle.mpr hi))
  · exact fun hst hne => h.waits hst (fun hi => hne (hidle.mpr hi))
  · intro hst hrun
    refine h.crossed hst ?_
    cases ht2 : p.bvc.t2 with
    | idle =>
        rw [show p.bvc.t2.expire = .idle from hidle.mpr ht2] at hrun
        exact nomatch hrun
    | running => rfl
    | expired =>
        have hexp : p.bvc.t2.expire.isRunning expiredRuns = true := hrun
        rw [ht2] at hexp
        exact hexp
  · exact fun hst hi => h.fresh hst (hidle.mp hi)

omit [DecidableEq CellId] in
/-- The peer of a side whose T2 expires sees nothing of it. -/
theorem sysInv_expireT2 {net : Net CellId} {sys : Sys CellId} (x : Side)
    (h : SysInv net expiredRuns sys) :
    SysInv net expiredRuns (Function.update sys x { sys x with
      bvc := { (sys x).bvc with t2 := (sys x).bvc.t2.expire } }) := by
  have hseen : ∀ {c : BvcConfig CellId} {p q : Party CellId},
      PartyInv c expiredRuns q p → PartyInv c expiredRuns q
        { p with bvc := { p.bvc with t2 := p.bvc.t2.expire } } :=
    fun hq => ⟨hq.t1Idle, hq.inbox, hq.cause, hq.waits, hq.crossed, hq.fresh⟩
  intro z
  cases x with
  | bss =>
      cases z with
      | bss => exact (h .bss).expireT2
      | sgsn => exact hseen (h .sgsn)
  | sgsn =>
      cases z with
      | bss => exact hseen (h .bss)
      | sgsn => exact (h .sgsn).expireT2

/-- **ONE STEP** in which a RESET-ACK comes in time. -/
theorem sysStep_inv {net : Net CellId} {sys : Sys CellId} (e : SysEvent)
    (h : SysInv net expiredRuns sys) (hguard : AckInTime expiredRuns sys e) :
    ∃ sys' u, sysStep net expiredRuns sys e = .ok (sys', u)
      ∧ SysInv net expiredRuns sys' := by
  cases e with
  | round x arrived request =>
      cases arrived with
      | true => exact sysRound_inv request h (fun hs => nomatch hs) hguard
      | false =>
          exact sysRound_inv request h (fun hs => nomatch hs)
            (fun hack => nomatch hack)
  | sigReset request =>
      exact sysRound_inv request h (fun _ => rfl) (fun hack => nomatch hack)
  | expireT1 x =>
      refine ⟨_, _, rfl, ?_⟩
      rw [(h x).expireT1, Function.update_eq_self]
      exact h
  | expireT2 x => exact ⟨_, _, rfl, sysInv_expireT2 x h⟩

/-- The invariant says what the specification says of the two ends. -/
theorem SysInv.safe {net : Net CellId} {sys : Sys CellId}
    (h : SysInv net expiredRuns sys) : Safe net expiredRuns sys where
  t2Awaits := by
    intro x hrun
    cases hst : (sys x).bvc.ptpBvcState with
    | unblocked => exact (h x).crossed hst hrun
    | blocked =>
        refine ((h x).waits hst (fun hidle => ?_)).1
        rw [hidle] at hrun
        exact nomatch hrun
  noRetransmit := by
    intro x snap f halt hw
    have hwait := bvcAlts_waited halt
    rw [hw] at hwait
    cases hwait with
    | t2 hst htimed =>
        refine ((h x).waits hst (fun hidle => ?_)).1
        rw [hidle] at htimed
        exact nomatch htimed
  agree := fun hempty _ => h.agree hempty

/-- A RESET-ACK that comes too late leaves T2 running for a RESET that was
    acknowledged. -/
theorem late_unsafe {net : Net CellId} {sys sys' : Sys CellId} {e : SysEvent}
    {u : Unit} (h : SysInv net expiredRuns sys)
    (hlate : ¬ AckInTime expiredRuns sys e)
    (hstep : sysStep net expiredRuns sys e = .ok (sys', u)) :
    ¬ Safe net expiredRuns sys' := by
  intro hsafe
  cases e with
  | sigReset request => exact hlate trivial
  | expireT1 x => exact hlate trivial
  | expireT2 x => exact hlate trivial
  | round x arrived request =>
      cases arrived with
      | false => exact hlate trivial
      | true =>
          obtain ⟨hack, hnot⟩ := Classical.not_imp.mp hlate
          obtain ⟨hst, hrun⟩ := not_not.mp hnot
          have hpeer : (sys x).inbox.head?
              = some (.udInd 0 (peerAck (net.cfg x))) := by
            rcases @PartyInv.resetHead _ _ _ _ _ _ (h x) .peer (fun hs => nomatch hs) with
              hn | ⟨c, hc⟩ | ha | ⟨hs, -⟩
            · rw [show (sys x).inbox.head? = none from hn] at hack
              exact nomatch hack
            · rw [show (sys x).inbox.head? = _ from hc] at hack
              exact nomatch hack
            · exact ha
            · rw [show (sys x).inbox.head? = _ from hs] at hack
              exact nomatch hack
          have hround : sysRound net expiredRuns sys x .peer request
              = .ok (sys', u) := hstep
          rw [sysRound, show Heard.peer.head (sys x) = _ from hpeer,
            alt_peerAck_unblocked (h x).t1Idle hst] at hround
          obtain ⟨f, hf, hsys⟩ := map_ok hround
          rw [← (Prod.mk.inj hsys).1, ← Except.ok.inj hf] at hsafe
          have haw := hsafe.t2Awaits x
          rw [if_pos rfl] at haw
          have haw' := haw hrun
          simp [Party.after, hpeer, Heard.head, isResetAck, peerAck,
            OsmoBvc.sendsReset, onChannel] at haw'

/-- **THE RESET HANDSHAKE**: a run of the two sides is safe in every state iff
    no RESET-ACK comes to an unblocked BVC whose T2 runs. -/
theorem resetHandshake_iff (net : Net CellId) (expiredRuns : Bool)
    (es : List SysEvent) :
    RunGuard.Always (sysStep net expiredRuns) (Safe net expiredRuns) Sys.init es
      ↔ RunGuard.Guarded (sysStep net expiredRuns) (AckInTime expiredRuns)
        Sys.init es :=
  RunGuard.always_iff_guarded (fun _ h => h.safe)
    (fun _ e h hguard => sysStep_inv e h hguard)
    (fun _ _ h hlate _ _ hstep => late_unsafe h hlate hstep) es Sys.init
    (sysInv_init net expiredRuns)

end System

/-- A BVC of two ends without a user. -/
def oneBvc : Net Nat where
  bvci := 196
  cellId := 20960
  mgmtConnected := fun _ => true

/-- Both users ask for a reset, and the RESETs cross. -/
def crossedResets : List SysEvent :=
  [.round .bss false (some .omIntervention),
    .round .sgsn false (some .omIntervention),
    .round .bss true none, .round .sgsn true none, .round .bss true none]

/-- **CROSSED RESETS**: the BSS has its RESET acknowledged, and T2 runs on. -/
theorem crossedResets_unsafe :
    (∃ sys us, RunGuard.run (sysStep oneBvc false) Sys.init crossedResets
        = .ok (sys, us)
      ∧ (sys .bss).bvc.ptpBvcState = .unblocked
      ∧ (sys .bss).bvc.t2 = .running ∧ (sys .bss).awaiting = false)
    ∧ ¬ RunGuard.Always (sysStep oneBvc false) (Safe oneBvc false) Sys.init
      crossedResets := by
  refine ⟨⟨_, _, rfl, rfl, rfl, rfl⟩, ?_⟩
  intro h
  have hsafe := h.run_end rfl
  exact absurd (hsafe.t2Awaits .bss rfl) (by decide)

end OsmoBvc
