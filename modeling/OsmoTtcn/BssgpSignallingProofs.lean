import Mathlib.Data.Option.Basic
import OsmoTtcn.BssgpBvcProofs

/-! # The signalling BVC of the BSSGP emulation

    One component of the emulation handles the RESET of BVCI 0 and hands what
    comes from the peer to the components of the point-to-point BVCs.  What
    comes on a point-to-point BVCI goes to its component; what comes on BVCI 0
    goes by the BVCI that is in the message, or to all.

    In every run a RESET is acknowledged once, all components know the state, an
    unblocked BVC stays unblocked, and no component gets what is for another
    one.  What ends a run is the expiry of T2, if it is noticed at all, because
    the STATUS that is to be sent then has the values of a message that was not
    received, and a request for a BVCI that nobody has. -/

namespace OsmoBssgpSig

open OsmoTitan RunGuard
open OsmoBvc (BssgpCause Timer)

-- ── Data ─────────────────────────────────────────────────────────────────────

/-- `BVC_S_BLOCKED` is not among the states of the signalling BVC. -/
inductive BvcState where
  | waitReset
  | waitNsAliveUnblocked
  | unblocked
  deriving DecidableEq, Repr

/-- The PDUs by the templates that tell them apart; `cellId` says if there is a
    cell identifier, and `other` has the BVCI that `f_BSSGP_BVCI_get` finds. -/
inductive PduBssgp (Msg : Type) where
  | bvcReset (bvci : Nat) (cellId : Bool)
  | bvcResetAck (bvci : Nat) (cellId : Bool)
  | bvcBlock (bvci : Nat)
  | bvcBlockAck (bvci : Nat)
  | bvcUnblock (bvci : Nat)
  | bvcUnblockAck (bvci : Nat)
  /-- `tr_GLOBAL_SIG` -/
  | globalSig (msg : Msg)
  /-- `tr_RIM` -/
  | rim (msg : Msg)
  /-- `tr_BSSGP_FLUSH_LL_ACK(?, ?, ?)`, which has no new BVCI. -/
  | flushLlAck (msg : Msg)
  | other (bvci : Option Nat) (msg : Msg)
  deriving DecidableEq

/-- The PDUs that the alternative for all of BVCI 0 comes to. -/
def fBssgpBvciGet {Msg : Type} : PduBssgp Msg → Option Nat
  | .bvcReset bvci _ => some bvci
  | .bvcResetAck bvci _ => some bvci
  | .bvcBlock bvci => some bvci
  | .bvcBlockAck bvci => some bvci
  | .bvcUnblock bvci => some bvci
  | .bvcUnblockAck bvci => some bvci
  | .globalSig _ => none
  | .rim _ => none
  | .flushLlAck _ => none
  | .other bvci _ => bvci

/-- The request to NS, with the PDU that the `sdu` encodes. -/
structure NsUnitdataRequest (Msg : Type) where
  bvci : Nat
  nsei : Nat
  lsp : Nat
  bssgp : PduBssgp Msg
  deriving DecidableEq

/-- An entry of the table that is bound. -/
structure BvcEntity (Comp : Type) where
  bvci : Nat
  compRef : Comp

/-- The configuration of the emulation and its table of BVCs. -/
structure BssgpConfig (Comp : Type) where
  nsei : Nat
  sgsnRole : Bool
  /-- The entries of `BvcTable`, which has 64. -/
  bvcTable : List (BvcEntity Comp)
  /-- `checkstate("Connected")` of the ports. -/
  mgmtConnected : Bool
  globalConnected : Bool
  rimConnected : Bool

/-- The variables of `BSSGP_CT` that the signalling BVC has. -/
structure BssgpCT where
  signBvcState : BvcState
  t2 : Timer
  deriving DecidableEq, Repr

/-- What the signalling BVC tells a PTP BVC. -/
inductive ToBvc (Msg : Type) where
  | udi (bvci : Nat) (pdu : PduBssgp Msg)
  | statusInd (state : BvcState)
  | resetInd
  | aspEvent
  deriving DecidableEq

/-- What a round sends, and on which port. -/
inductive Output (Comp Msg Conn : Type) where
  /-- `ts_BVC_RESET_ACK(0, omit)` -/
  | bvcResetAck
  /-- `ts_BVC_RESET(cause, 0, omit)` -/
  | bvcReset (cause : BssgpCause)
  /-- `ts_BSSGP_STATUS`, on a BVCI of NS. -/
  | bssgpStatus (nsBvci bvci : Nat) (cause : BssgpCause) (pdu : PduBssgp Msg)
  /-- What comes from above. -/
  | bscp (udr : NsUnitdataRequest Msg)
  | bvc (comp : Comp) (msg : ToBvc Msg)
  | mgmtReset
  | global (pdu : PduBssgp Msg)
  | rim (pdu : PduBssgp Msg)
  | reply (vcConn : Conn) (comp : Comp)
  | verdictFail
  deriving DecidableEq

/-- What a round of the main loop takes, or that T2 expires. -/
inductive Input (Msg Conn : Type) where
  /-- `NsUnitdataIndication` of the configured NSEI. -/
  | udi (bvci : Nat) (pdu : PduBssgp Msg)
  /-- `NsStatusIndication`, with the states as far as they are looked at. -/
  | nsStatus (nsei : Nat) (oldUnblocked newUnblocked firstOrLast : Bool)
  | aspEvent
  | fromBvc (udr : NsUnitdataRequest Msg)
  | fromGlobal (pdu : PduBssgp Msg)
  | fromRim (pdu : PduBssgp Msg)
  | getBvciCt (bvci : Nat) (vcConn : Conn)
  | resetRequest (cause : BssgpCause)
  | t2Timeout
  | t2Expires

/-- What an alternative does. -/
abbrev Round (Comp Msg Conn : Type) : Type := Except Fault (BssgpCT × List (Output Comp Msg Conn))

-- ── Functions ────────────────────────────────────────────────────────────────

section Functions

variable {Comp Msg Conn : Type} (cfg : BssgpConfig Comp) (expiredRuns : Bool) (s : BssgpCT)

/-- The loops over the table that send to every component. -/
def broadcast (msg : ToBvc Msg) : List (Output Comp Msg Conn) :=
  cfg.bvcTable.map fun e => .bvc e.compRef msg

/-- `f_comp_for_bvci` -/
def fCompForBvci (bvci : Nat) : Option Comp :=
  (cfg.bvcTable.find? fun e => e.bvci = bvci).map BvcEntity.compRef

/-- `f_sign_change_state`: every BVC is told, unless nothing changes. -/
def fSignChangeState (newState : BvcState) : BssgpCT × List (Output Comp Msg Conn) :=
  if newState = s.signBvcState then (s, [])
  else ({ s with signBvcState := newState }, broadcast cfg (.statusInd newState))

/-- `f_BnsUdReq` -/
def fBnsUdReq (pdu : PduBssgp Msg) (bvci lsp : Nat) : NsUnitdataRequest Msg :=
  { bvci := bvci, nsei := cfg.nsei, lsp := lsp, bssgp := pdu }

/-- The management is told of a reset, if it is there. -/
def tellMgmt : List (Output Comp Msg Conn) := if cfg.mgmtConnected = true then [.mgmtReset] else []

/-- We are in BVC_S_WAIT_RESET state (only happens in SGSN role). -/
def asSigWaitReset : Input Msg Conn → Option (Round Comp Msg Conn)
  | .udi 0 (.bvcReset 0 false) =>
      let r := fSignChangeState cfg s .unblocked
      some (.ok (r.1, r.2 ++ tellMgmt cfg ++ [.bvcResetAck]))
  | _ => none

/-- What every state does first. -/
def asSigAllstatePre : Input Msg Conn → Option (Round Comp Msg Conn)
  | .udi 0 (.bvcReset 0 false) =>
      some (.ok (s, tellMgmt cfg ++ [.bvcResetAck] ++ broadcast cfg .resetInd))
  | .udi 0 (.bvcBlock 0) => some (.ok (s, [.verdictFail]))
  | .udi 0 (.bvcUnblock 0) => some (.ok (s, [.verdictFail]))
  | .udi 0 (.bvcBlockAck 0) => some (.ok (s, [.verdictFail]))
  | .udi 0 (.bvcUnblockAck 0) => some (.ok (s, [.verdictFail]))
  | .udi 0 (.bvcResetAck 0 false) =>
      if s.t2.isRunning expiredRuns = true then
        let r := fSignChangeState cfg { s with t2 := .idle } .unblocked
        some (.ok (r.1, r.2 ++ broadcast cfg .resetInd))
      else none
  | .t2Timeout =>
      -- the STATUS is made of `udi`, which is not bound here
      if s.t2.isRunning expiredRuns = true ∧ s.t2.timedOut = true then some (.error .unbound)
      else none
  | _ => none

/-- We are in BVC_S_WAIT_NS_ALIVE_UNBLOCKED (only happens in BSS role). -/
def asSigWaitNsAliveUnblocked : Input Msg Conn → Option (Round Comp Msg Conn)
  | .nsStatus nsei false true true =>
      if nsei = cfg.nsei then
        if cfg.sgsnRole = false then
          some (.ok ({ s with t2 := .running }, [.bvcReset .omIntervention]))
        else some (.ok (s, []))
      else none
  | _ => none

/-- To the component of the BVCI, or a STATUS. -/
def dispatch (nsBvci ptpBvci bvci : Nat) (pdu : PduBssgp Msg) : Round Comp Msg Conn :=
  match fCompForBvci cfg ptpBvci with
  | some c => .ok (s, [.bvc c (.udi bvci pdu)])
  | none => .ok (s, [.verdictFail, .bssgpStatus nsBvci bvci .bvciUnknown pdu])

/-- We are in BVC_S_UNBLOCKED state.  The alternatives for PAGING behind the one
    for all of BVCI 0 are never come to. -/
def asSigUnblocked : Input Msg Conn → Option (Round Comp Msg Conn)
  | .udi 0 (.globalSig msg) =>
      some (.ok (s, if cfg.globalConnected = true then [.global (.globalSig msg)] else []))
  | .udi 0 (.rim msg) => some (.ok (s, if cfg.rimConnected = true then [.rim (.rim msg)] else []))
  | .udi 0 (.flushLlAck msg) => some (.ok (s, broadcast cfg (.udi 0 (.flushLlAck msg))))
  | .udi 0 pdu =>
      match fBssgpBvciGet pdu with
      | none => some (.ok (s, broadcast cfg (.udi 0 pdu)))
      | some ptpBvci => some (dispatch cfg s 0 ptpBvci 0 pdu)
  | .udi bvci pdu =>
      if 2 ≤ bvci ∧ bvci ≤ 65535 then some (dispatch cfg s bvci bvci bvci pdu) else none
  | .fromBvc udr =>
      -- the components have no idea about the NSEI
      some (.ok (s, [.bscp { udr with nsei := cfg.nsei }]))
  | .fromGlobal (.globalSig msg) => some (.ok (s, [.bscp (fBnsUdReq cfg (.globalSig msg) 0 0)]))
  | .fromRim (.rim msg) => some (.ok (s, [.bscp (fBnsUdReq cfg (.rim msg) 0 0)]))
  | _ => none

/-- What every state does last.  What the first altstep takes is left out. -/
def asSigAllstatePost : Input Msg Conn → Option (Round Comp Msg Conn)
  | .udi 0 (.bvcBlock bvci) =>
      some (.ok (s, [.verdictFail, .bssgpStatus 0 0 .bvciUnknown (.bvcBlock bvci)]))
  | .udi 0 (.bvcReset bvci true) =>
      some (.ok (s, [.verdictFail, .bssgpStatus 0 bvci .bvciUnknown (.bvcReset bvci true)]))
  | .aspEvent => some (.ok (s, broadcast cfg .aspEvent))
  | .nsStatus nsei _ _ _ => some (.ok (s, if nsei = cfg.nsei then [] else [.verdictFail]))
  | .getBvciCt bvci vcConn =>
      -- entries behind the last one are not bound, and the loop goes over all
      match fCompForBvci cfg bvci with
      | some c => some (.ok (s, [.reply vcConn c]))
      | none => if cfg.bvcTable.length < 64 then some (.error .unbound) else some (.ok (s, []))
  | .udi _ pdu =>
      some (.ok (s, [.verdictFail,
        .bssgpStatus 0 0 .pduNotCompatibleWithProtocolState pdu]))
  | .resetRequest cause => some (.ok ({ s with t2 := .running }, [.bvcReset cause]))
  | _ => none

/-- The altsteps that are tried, in order. -/
def altsteps (i : Input Msg Conn) : Option (Round Comp Msg Conn) :=
  match s.signBvcState with
  | .waitReset => asSigWaitReset cfg s i <|> asSigAllstatePre cfg expiredRuns s i
      <|> asSigAllstatePost cfg s i
  | .waitNsAliveUnblocked => asSigAllstatePre cfg expiredRuns s i
      <|> asSigWaitNsAliveUnblocked cfg s i <|> asSigAllstatePost cfg s i
  | .unblocked => asSigAllstatePre cfg expiredRuns s i <|> asSigUnblocked cfg s i
      <|> asSigAllstatePost cfg s i

/-- A round.  What no alternative takes waits, and is offered again. -/
def step (i : Input Msg Conn) : Round Comp Msg Conn :=
  match i with
  | .t2Expires => .ok ({ s with t2 := s.t2.expire }, [])
  | i => (altsteps cfg expiredRuns s i).getD (.ok (s, []))

/-- `BssgpStart` -/
def bssgpStart : BssgpCT × List (Output Comp Msg Conn) :=
  fSignChangeState cfg { signBvcState := .waitReset, t2 := .idle }
    (if cfg.sgsnRole = true then .waitReset else .waitNsAliveUnblocked)

end Functions

-- ── What a round does ────────────────────────────────────────────────────────

section Rounds

variable {Comp Msg Conn : Type} {cfg : BssgpConfig Comp} {expiredRuns : Bool} {s s' : BssgpCT}
variable {i : Input Msg Conn} {outs : List (Output Comp Msg Conn)}

/-- The state that a component is told. -/
def statusOf : Output Comp Msg Conn → Option (Comp × BvcState)
  | .bvc c (.statusInd state) => some (c, state)
  | _ => none

/-- A BVC-RESET-ACK. -/
def isResetAck : Output Comp Msg Conn → Bool
  | .bvcResetAck => true
  | _ => false

/-- The PDU that a component is handed. -/
def handedOf : Output Comp Msg Conn → Option (Comp × Nat × PduBssgp Msg)
  | .bvc c (.udi bvci pdu) => some (c, bvci, pdu)
  | _ => none

/-- A RESET of the signalling BVC. -/
def isReset : Input Msg Conn → Bool
  | .udi 0 (.bvcReset 0 false) => true
  | _ => false

/-- The state behind a round. -/
def after (expiredRuns : Bool) (s : BssgpCT) : Input Msg Conn → BvcState
  | .udi 0 (.bvcReset 0 false) =>
      if s.signBvcState = .waitReset then .unblocked else s.signBvcState
  | .udi 0 (.bvcResetAck 0 false) =>
      if s.t2.isRunning expiredRuns = true then .unblocked else s.signBvcState
  | _ => s.signBvcState

/-- What all components are told. -/
def news (cfg : BssgpConfig Comp) (s s' : BssgpCT) : List (Comp × BvcState) :=
  if s'.signBvcState = s.signBvcState then []
  else cfg.bvcTable.map fun e => (e.compRef, s'.signBvcState)

@[simp] theorem statusOf_broadcast_status (state : BvcState) :
    (broadcast cfg (.statusInd state) : List (Output Comp Msg Conn)).filterMap statusOf
      = cfg.bvcTable.map fun e => (e.compRef, state) := by
  rw [broadcast, List.filterMap_map]
  exact congrFun List.filterMap_eq_map cfg.bvcTable

/-- Nothing else that is sent to all is a state. -/
theorem statusOf_broadcast {msg : ToBvc Msg}
    (h : ∀ c, statusOf (.bvc c msg : Output Comp Msg Conn) = none) :
    (broadcast cfg msg : List (Output Comp Msg Conn)).filterMap statusOf = [] := by
  rw [broadcast, List.filterMap_map]
  exact List.filterMap_eq_nil_iff.mpr fun e _ => h e.compRef

@[simp] theorem isResetAck_broadcast (msg : ToBvc Msg) :
    (broadcast cfg msg : List (Output Comp Msg Conn)).countP isResetAck = 0 := by
  rw [broadcast, List.countP_map]
  exact List.countP_eq_zero.mpr fun _ _ => Bool.false_ne_true

@[simp] theorem statusOf_tellMgmt :
    (tellMgmt cfg : List (Output Comp Msg Conn)).filterMap statusOf = [] := by
  rw [tellMgmt]
  split <;> rfl

@[simp] theorem isResetAck_tellMgmt :
    (tellMgmt cfg : List (Output Comp Msg Conn)).countP isResetAck = 0 := by
  rw [tellMgmt]
  split <;> rfl

/-- Only a message of the peer is handed on. -/
theorem handedOf_broadcast {msg : ToBvc Msg} {c : Comp} {bvci : Nat} {pdu : PduBssgp Msg}
    (h : Output.bvc c (.udi bvci pdu) ∈ (broadcast cfg msg : List (Output Comp Msg Conn))) :
    msg = .udi bvci pdu := by
  obtain ⟨e, -, heq⟩ := List.mem_map.mp h
  cases heq
  rfl

theorem not_handed_tellMgmt {c : Comp} {bvci : Nat} {pdu : PduBssgp Msg} :
    Output.bvc c (.udi bvci pdu) ∉ (tellMgmt cfg : List (Output Comp Msg Conn)) := by
  rw [tellMgmt]
  split
  · intro h
    cases List.mem_singleton.mp h
  · exact List.not_mem_nil

/-- **A ROUND**: the state behind it, who is told, what is acknowledged, and who
    is handed what. -/
structure Effect (cfg : BssgpConfig Comp) (expiredRuns : Bool) (s : BssgpCT) (i : Input Msg Conn)
    (s' : BssgpCT) (outs : List (Output Comp Msg Conn)) : Prop where
  state : s'.signBvcState = after expiredRuns s i
  told : outs.filterMap statusOf = news cfg s s'
  acks : outs.countP isResetAck = if isReset i = true then 1 else 0
  handed : ∀ c bvci pdu, .bvc c (.udi bvci pdu) ∈ outs →
    bvci = 0 ∨ fCompForBvci cfg bvci = some c

/-- A round without any of it. -/
structure Quiet (cfg : BssgpConfig Comp) (s s' : BssgpCT) (outs : List (Output Comp Msg Conn)) :
    Prop where
  state : s'.signBvcState = s.signBvcState
  told : outs.filterMap statusOf = []
  acks : outs.countP isResetAck = 0
  handed : ∀ c bvci pdu, .bvc c (.udi bvci pdu) ∈ outs →
    bvci = 0 ∨ fCompForBvci cfg bvci = some c

section Change

variable (newState : BvcState)

/-- The state is the new one. -/
theorem fSignChangeState_state :
    (fSignChangeState cfg s newState
      : BssgpCT × List (Output Comp Msg Conn)).1.signBvcState = newState := by
  rw [fSignChangeState]
  by_cases h : newState = s.signBvcState
  · rw [if_pos h]
    exact h.symm
  · rw [if_neg h]

/-- All are told of a state that is new. -/
theorem fSignChangeState_told :
    (fSignChangeState cfg s newState
        : BssgpCT × List (Output Comp Msg Conn)).2.filterMap statusOf
      = if newState = s.signBvcState then []
        else cfg.bvcTable.map fun e => (e.compRef, newState) := by
  rw [fSignChangeState]
  by_cases h : newState = s.signBvcState
  · rw [if_pos h, if_pos h]
    rfl
  · rw [if_neg h, if_neg h]
    exact statusOf_broadcast_status newState

/-- A change of state holds no answer. -/
theorem fSignChangeState_acks :
    (fSignChangeState cfg s newState
      : BssgpCT × List (Output Comp Msg Conn)).2.countP isResetAck = 0 := by
  rw [fSignChangeState]
  split
  · rfl
  · exact isResetAck_broadcast _

theorem not_handed_fSignChangeState {c : Comp} {bvci : Nat} {pdu : PduBssgp Msg} :
    Output.bvc c (.udi bvci pdu)
      ∉ (fSignChangeState cfg s newState : BssgpCT × List (Output Comp Msg Conn)).2 := by
  rw [fSignChangeState]
  split
  · exact List.not_mem_nil
  · intro h
    cases handedOf_broadcast h

end Change

/-- What the alternatives of a waiting BVC do. -/
theorem asSigWaitReset_effect (hs : s.signBvcState = .waitReset)
    (h : asSigWaitReset cfg s i = some (.ok (s', outs))) : Effect cfg expiredRuns s i s' outs := by
  rw [asSigWaitReset.eq_def] at h
  split at h
  · cases h
    refine ⟨?_, ?_, ?_, ?_⟩
    · show (fSignChangeState cfg s .unblocked).1.signBvcState
        = if s.signBvcState = .waitReset then _ else _
      rw [fSignChangeState_state, if_pos hs]
    · rw [news, fSignChangeState_state, List.filterMap_append, List.filterMap_append,
        fSignChangeState_told, statusOf_tellMgmt, List.append_nil]
      exact List.append_nil _
    · rw [List.countP_append, List.countP_append, fSignChangeState_acks, isResetAck_tellMgmt]
      rfl
    · intro c bvci pdu hmem
      rcases List.mem_append.mp hmem with hmem | hmem
      · rcases List.mem_append.mp hmem with hmem | hmem
        · exact absurd hmem (not_handed_fSignChangeState _)
        · exact absurd hmem not_handed_tellMgmt
      · cases List.mem_singleton.mp hmem
  · cases h

/-- To do nothing is quiet. -/
theorem quiet_nil (hstate : s'.signBvcState = s.signBvcState) :
    Quiet cfg s s' ([] : List (Output Comp Msg Conn)) :=
  ⟨hstate, rfl, rfl, fun _ _ _ hmem => absurd hmem List.not_mem_nil⟩

/-- So is one output that is neither a status, nor an answer, nor handed on. -/
theorem quiet_one {o : Output Comp Msg Conn} (hstate : s'.signBvcState = s.signBvcState)
    (hstatus : statusOf o = none) (hack : isResetAck o = false) (hhanded : handedOf o = none) :
    Quiet cfg s s' [o] := by
  refine ⟨hstate, ?_, ?_, fun c bvci pdu hmem => ?_⟩
  · rw [List.filterMap_cons_none hstatus]
    rfl
  · rw [List.countP_cons_of_neg (by rw [hack]; exact Bool.false_ne_true)]
    rfl
  · rw [← List.mem_singleton.mp hmem] at hhanded
    cases hhanded

/-- A verdict only. -/
theorem quiet_verdictFail : Quiet cfg s s [(.verdictFail : Output Comp Msg Conn)] :=
  quiet_one rfl rfl rfl rfl

/-- A round that is none of those that count. -/
theorem Quiet.effect (h : Quiet cfg s s' outs) (hafter : after expiredRuns s i = s.signBvcState)
    (hreset : isReset i = false) : Effect cfg expiredRuns s i s' outs where
  state := h.state.trans hafter.symm
  told := by rw [h.told, news, if_pos h.state]
  acks := by rw [h.acks, hreset]; rfl
  handed := h.handed

/-- What the alternatives before those of the state do. -/
theorem asSigAllstatePre_effect (hs : isReset i = true → s.signBvcState ≠ .waitReset)
    (h : asSigAllstatePre cfg expiredRuns s i = some (.ok (s', outs))) :
    Effect cfg expiredRuns s i s' outs := by
  rw [asSigAllstatePre.eq_def] at h
  split at h
  · -- RESET
    cases h
    refine ⟨?_, ?_, ?_, ?_⟩
    · show s.signBvcState = if s.signBvcState = .waitReset then _ else _
      rw [if_neg (hs rfl)]
    · rw [news, if_pos rfl, List.filterMap_append, List.filterMap_append, statusOf_tellMgmt,
        statusOf_broadcast fun _ => rfl]
      rfl
    · rw [List.countP_append, List.countP_append, isResetAck_tellMgmt, isResetAck_broadcast]
      rfl
    · intro c bvci pdu hmem
      rcases List.mem_append.mp hmem with hmem | hmem
      · rcases List.mem_append.mp hmem with hmem | hmem
        · exact absurd hmem not_handed_tellMgmt
        · cases List.mem_singleton.mp hmem
      · cases handedOf_broadcast hmem
  · cases h
    exact quiet_verdictFail.effect rfl rfl
  · cases h
    exact quiet_verdictFail.effect rfl rfl
  · cases h
    exact quiet_verdictFail.effect rfl rfl
  · cases h
    exact quiet_verdictFail.effect rfl rfl
  · -- RESET-ACK
    by_cases hrun : s.t2.isRunning expiredRuns = true
    · rw [if_pos hrun] at h
      cases h
      refine ⟨?_, ?_, ?_, ?_⟩
      · show (fSignChangeState cfg _ .unblocked).1.signBvcState
          = if s.t2.isRunning expiredRuns = true then _ else _
        rw [fSignChangeState_state, if_pos hrun]
      · rw [news, fSignChangeState_state, List.filterMap_append, fSignChangeState_told,
          statusOf_broadcast fun _ => rfl, List.append_nil]
      · rw [List.countP_append, fSignChangeState_acks, isResetAck_broadcast]
        rfl
      · intro c bvci pdu hmem
        rcases List.mem_append.mp hmem with hmem | hmem
        · exact absurd hmem (not_handed_fSignChangeState _)
        · cases handedOf_broadcast hmem
    · rw [if_neg hrun] at h
      cases h
  · split at h
    · cases h
    · cases h
  · cases h

/-- What the first altstep leaves is none of the rounds that count. -/
theorem asSigAllstatePre_none (h : asSigAllstatePre cfg expiredRuns s i = none) :
    after expiredRuns s i = s.signBvcState ∧ isReset i = false := by
  rw [after.eq_def]
  split
  · cases h
  · rw [asSigAllstatePre] at h
    split at h
    · cases h
    · rename_i hrun
      rw [if_neg hrun]
      exact ⟨rfl, rfl⟩
  · refine ⟨rfl, ?_⟩
    rw [isReset.eq_def]
    split
    · cases h
    · rfl

/-- Waiting for NS is quiet. -/
theorem asSigWaitNsAliveUnblocked_quiet
    (h : asSigWaitNsAliveUnblocked cfg s i = some (.ok (s', outs))) : Quiet cfg s s' outs := by
  rw [asSigWaitNsAliveUnblocked.eq_def] at h
  split at h
  · split at h
    · split at h
      · cases h
        exact quiet_one rfl rfl rfl rfl
      · cases h
        exact quiet_nil rfl
    · cases h
  · cases h

/-- Nothing is handed on that is not for the component. -/
theorem dispatch_quiet {nsBvci ptpBvci bvci : Nat} {pdu : PduBssgp Msg}
    (hbvci : bvci = 0 ∨ bvci = ptpBvci)
    (h : dispatch cfg s nsBvci ptpBvci bvci pdu = .ok (s', outs)) : Quiet cfg s s' outs := by
  rw [dispatch] at h
  split at h
  · rename_i c hc
    cases h
    refine ⟨rfl, rfl, rfl, fun c' bvci' pdu' hmem => ?_⟩
    cases List.mem_singleton.mp hmem
    exact hbvci.imp_right fun heq => by rw [heq]; exact hc
  · cases h
    refine ⟨rfl, rfl, rfl, fun c' bvci' pdu' hmem => ?_⟩
    rcases List.mem_cons.mp hmem with hmem | hmem
    · cases hmem
    · cases List.mem_singleton.mp hmem

/-- What comes on BVCI 0 may go to all. -/
theorem quiet_broadcast (pdu : PduBssgp Msg) :
    Quiet cfg s s (broadcast cfg (.udi 0 pdu) : List (Output Comp Msg Conn)) := by
  refine ⟨rfl, statusOf_broadcast (fun _ => rfl), isResetAck_broadcast _,
    fun c bvci pdu' hmem => ?_⟩
  cases handedOf_broadcast hmem
  exact Or.inl rfl

/-- Blocking and unblocking of PTP BVCs is quiet. -/
theorem asSigUnblocked_quiet (h : asSigUnblocked cfg s i = some (.ok (s', outs))) :
    Quiet cfg s s' outs := by
  rw [asSigUnblocked.eq_def] at h
  split at h
  · cases h
    split
    · exact quiet_one rfl rfl rfl rfl
    · exact quiet_nil rfl
  · cases h
    split
    · exact quiet_one rfl rfl rfl rfl
    · exact quiet_nil rfl
  · cases h
    exact quiet_broadcast _
  · split at h
    · cases h
      exact quiet_broadcast _
    · exact dispatch_quiet (Or.inl rfl) (Option.some.inj h)
  · split at h
    · exact dispatch_quiet (Or.inr rfl) (Option.some.inj h)
    · cases h
  · cases h
    exact quiet_one rfl rfl rfl rfl
  · cases h
    exact quiet_one rfl rfl rfl rfl
  · cases h
    exact quiet_one rfl rfl rfl rfl
  · cases h

/-- So is a STATUS. -/
theorem quiet_status {nsBvci bvci : Nat} {cause : BssgpCause} {pdu : PduBssgp Msg} :
    Quiet cfg s s [(.verdictFail : Output Comp Msg Conn), .bssgpStatus nsBvci bvci cause pdu] := by
  refine ⟨rfl, rfl, rfl, fun c bvci' pdu' hmem => ?_⟩
  rcases List.mem_cons.mp hmem with hmem | hmem
  · cases hmem
  · cases List.mem_singleton.mp hmem

/-- The alternatives behind those of the state are quiet. -/
theorem asSigAllstatePost_quiet (h : asSigAllstatePost cfg s i = some (.ok (s', outs))) :
    Quiet cfg s s' outs := by
  rw [asSigAllstatePost.eq_def] at h
  split at h
  · cases h
    exact quiet_status
  · cases h
    exact quiet_status
  · cases h
    refine ⟨rfl, statusOf_broadcast (fun _ => rfl), isResetAck_broadcast _,
      fun c bvci pdu hmem => ?_⟩
    cases handedOf_broadcast hmem
  · cases h
    split
    · exact quiet_nil rfl
    · exact quiet_verdictFail
  · split at h
    · cases h
      exact quiet_one rfl rfl rfl rfl
    · split at h
      · cases h
      · cases h
        exact quiet_nil rfl
  · cases h
    exact quiet_status
  · cases h
    exact quiet_one rfl rfl rfl rfl
  · cases h

/-- Behind the first altstep nothing counts. -/
theorem later_effect {later : Option (Round Comp Msg Conn)}
    (hquiet : later = some (.ok (s', outs)) → Quiet cfg s s' outs)
    (hs : isReset i = true → s.signBvcState ≠ .waitReset)
    (h : (asSigAllstatePre cfg expiredRuns s i <|> later) = some (.ok (s', outs))) :
    Effect cfg expiredRuns s i s' outs := by
  rcases (Option.orElse_eq_some _ _ _).mp h with h | ⟨hpre, h⟩
  · exact asSigAllstatePre_effect hs h
  · obtain ⟨hafter, hreset⟩ := asSigAllstatePre_none hpre
    exact (hquiet h).effect hafter hreset

/-- **WHAT AN ALTERNATIVE DOES.** -/
theorem altsteps_effect (h : altsteps cfg expiredRuns s i = some (.ok (s', outs))) :
    Effect cfg expiredRuns s i s' outs := by
  rw [altsteps] at h
  cases hs : s.signBvcState with
  | waitReset =>
      rw [hs] at h
      rcases (Option.orElse_eq_some _ _ _).mp h with h | ⟨hwait, h⟩
      · exact asSigWaitReset_effect hs h
      · refine later_effect asSigAllstatePost_quiet (fun hreset => ?_) h
        rw [isReset.eq_def] at hreset
        split at hreset
        · cases hwait
        · cases hreset
  | waitNsAliveUnblocked =>
      rw [hs] at h
      refine later_effect (fun h => ?_) (fun _ heq => ?_) h
      · rcases (Option.orElse_eq_some _ _ _).mp h with h | ⟨-, h⟩
        · exact asSigWaitNsAliveUnblocked_quiet h
        · exact asSigAllstatePost_quiet h
      · rw [hs] at heq
        cases heq
  | unblocked =>
      rw [hs] at h
      refine later_effect (fun h => ?_) (fun _ heq => ?_) h
      · rcases (Option.orElse_eq_some _ _ _).mp h with h | ⟨-, h⟩
        · exact asSigUnblocked_quiet h
        · exact asSigAllstatePost_quiet h
      · rw [hs] at heq
        cases heq

/-- A message that nobody takes is none that counts. -/
theorem altsteps_none (h : altsteps cfg expiredRuns s i = none) :
    after expiredRuns s i = s.signBvcState ∧ isReset i = false := by
  have hpre : asSigAllstatePre cfg expiredRuns s i = none := by
    rw [altsteps] at h
    cases hs : s.signBvcState with
    | waitReset =>
        rw [hs] at h
        exact ((Option.orElse_eq_none _ _).mp ((Option.orElse_eq_none _ _).mp h).2).1
    | waitNsAliveUnblocked =>
        rw [hs] at h
        exact ((Option.orElse_eq_none _ _).mp h).1
    | unblocked =>
        rw [hs] at h
        exact ((Option.orElse_eq_none _ _).mp h).1
  exact asSigAllstatePre_none hpre

/-- **A STEP.** -/
theorem step_effect (h : step cfg expiredRuns s i = .ok (s', outs)) :
    Effect cfg expiredRuns s i s' outs := by
  rw [step.eq_def] at h
  split at h
  · cases h
    exact ⟨rfl, by rw [news, if_pos rfl]; rfl, rfl, fun _ _ _ hmem => absurd hmem List.not_mem_nil⟩
  · cases halt : altsteps cfg expiredRuns s i with
    | none =>
        rw [halt] at h
        cases h
        obtain ⟨hafter, hreset⟩ := altsteps_none halt
        exact (quiet_nil rfl).effect hafter hreset
    | some r =>
        rw [halt] at h
        rw [Option.getD_some] at h
        rw [h] at halt
        exact altsteps_effect halt

/-- The signalling BVC stays as it is, or is unblocked. -/
theorem after_cases :
    after expiredRuns s i = s.signBvcState ∨ after expiredRuns s i = .unblocked := by
  rw [after.eq_def]
  split
  · split
    · exact Or.inr rfl
    · exact Or.inl rfl
  · split
    · exact Or.inr rfl
    · exact Or.inl rfl
  · exact Or.inl rfl

/-- An unblocked BVC is not blocked again. -/
theorem step_unblocked (hs : s.signBvcState = .unblocked)
    (hstep : step cfg expiredRuns s i = .ok (s', outs)) : s'.signBvcState = .unblocked := by
  rw [(step_effect hstep).state]
  rcases (after_cases : after expiredRuns s i = s.signBvcState ∨ _) with h | h
  · exact h.trans hs
  · exact h

-- ── What ends a run ──────────────────────────────────────────────────────────

variable {e : Fault}

/-- No alternative of a waiting BVC ends the run. -/
theorem asSigWaitReset_error : asSigWaitReset cfg s i ≠ some (.error e : Round Comp Msg Conn) := by
  intro h
  rw [asSigWaitReset.eq_def] at h
  split at h
  · cases h
  · cases h

/-- The expiry of T2 may. -/
theorem asSigAllstatePre_error
    (h : asSigAllstatePre cfg expiredRuns s i = some (.error e : Round Comp Msg Conn)) :
    i = .t2Timeout ∧ s.t2.isRunning expiredRuns = true ∧ s.t2.timedOut = true := by
  rw [asSigAllstatePre.eq_def] at h
  split at h
  any_goals cases h
  · split at h
    · cases h
    · cases h
  · split at h
    · rename_i hboth
      exact ⟨rfl, hboth⟩
    · cases h

/-- Waiting for NS does not. -/
theorem asSigWaitNsAliveUnblocked_error :
    asSigWaitNsAliveUnblocked cfg s i ≠ some (.error e : Round Comp Msg Conn) := by
  intro h
  rw [asSigWaitNsAliveUnblocked.eq_def] at h
  split at h
  · split at h
    · split at h
      · cases h
      · cases h
    · cases h
  · cases h

/-- Handing on does not. -/
theorem dispatch_error {nsBvci ptpBvci bvci : Nat} {pdu : PduBssgp Msg} :
    dispatch cfg s nsBvci ptpBvci bvci pdu ≠ (.error e : Round Comp Msg Conn) := by
  intro h
  rw [dispatch] at h
  split at h
  · cases h
  · cases h

/-- An unblocked BVC does not. -/
theorem asSigUnblocked_error : asSigUnblocked cfg s i ≠ some (.error e : Round Comp Msg Conn) := by
  intro h
  rw [asSigUnblocked.eq_def] at h
  split at h
  any_goals cases h
  · split at h
    · cases h
    · exact dispatch_error (Option.some.inj h)
  · split at h
    · exact dispatch_error (Option.some.inj h)
    · cases h

/-- A query for a BVCI that is not in the table, unless the table is full. -/
theorem asSigAllstatePost_error
    (h : asSigAllstatePost cfg s i = some (.error e : Round Comp Msg Conn)) :
    ∃ bvci vcConn, i = .getBvciCt bvci vcConn ∧ fCompForBvci cfg bvci = none
      ∧ cfg.bvcTable.length < 64 := by
  rw [asSigAllstatePost.eq_def] at h
  split at h
  any_goals cases h
  split at h
  · cases h
  · rename_i hnone
    split at h
    · rename_i hlen
      exact ⟨_, _, rfl, hnone, hlen⟩
    · cases h

/-- What a round ends with an error for. -/
def Ends (cfg : BssgpConfig Comp) (expiredRuns : Bool) (s : BssgpCT) (i : Input Msg Conn) : Prop :=
  (i = .t2Timeout ∧ s.t2.isRunning expiredRuns = true ∧ s.t2.timedOut = true)
  ∨ ∃ bvci vcConn, i = .getBvciCt bvci vcConn ∧ fCompForBvci cfg bvci = none
      ∧ cfg.bvcTable.length < 64

/-- **THE ENDS OF A RUN** are those that the specification names. -/
theorem altsteps_error (h : altsteps cfg expiredRuns s i = some (.error e : Round Comp Msg Conn)) :
    Ends cfg expiredRuns s i := by
  rw [altsteps] at h
  cases hs : s.signBvcState with
  | waitReset =>
      rw [hs] at h
      rcases (Option.orElse_eq_some _ _ _).mp h with h | ⟨-, h⟩
      · exact absurd h asSigWaitReset_error
      · rcases (Option.orElse_eq_some _ _ _).mp h with h | ⟨-, h⟩
        · exact Or.inl (asSigAllstatePre_error h)
        · exact Or.inr (asSigAllstatePost_error h)
  | waitNsAliveUnblocked =>
      rw [hs] at h
      rcases (Option.orElse_eq_some _ _ _).mp h with h | ⟨-, h⟩
      · exact Or.inl (asSigAllstatePre_error h)
      · rcases (Option.orElse_eq_some _ _ _).mp h with h | ⟨-, h⟩
        · exact absurd h asSigWaitNsAliveUnblocked_error
        · exact Or.inr (asSigAllstatePost_error h)
  | unblocked =>
      rw [hs] at h
      rcases (Option.orElse_eq_some _ _ _).mp h with h | ⟨-, h⟩
      · exact Or.inl (asSigAllstatePre_error h)
      · rcases (Option.orElse_eq_some _ _ _).mp h with h | ⟨-, h⟩
        · exact absurd h asSigUnblocked_error
        · exact Or.inr (asSigAllstatePost_error h)

/-- **WHAT ENDS A RUN.** -/
theorem step_error_iff :
    (∃ e, step cfg expiredRuns s i = (.error e : Round Comp Msg Conn))
      ↔ Ends cfg expiredRuns s i := by
  constructor
  · rintro ⟨e, h⟩
    rw [step.eq_def] at h
    split at h
    · cases h
    · cases halt : altsteps cfg expiredRuns s i with
      | none =>
          rw [halt] at h
          cases h
      | some r =>
          rw [halt, Option.getD_some] at h
          rw [h] at halt
          exact altsteps_error halt
  · rintro (⟨rfl, hrun, htime⟩ | ⟨bvci, vcConn, rfl, hnone, hlen⟩)
    · have hpre : asSigAllstatePre cfg expiredRuns s (.t2Timeout : Input Msg Conn)
          = some (.error .unbound : Round Comp Msg Conn) := if_pos ⟨hrun, htime⟩
      refine ⟨.unbound, ?_⟩
      show (altsteps cfg expiredRuns s .t2Timeout).getD _ = _
      rw [altsteps, hpre]
      cases s.signBvcState <;> rfl
    · have hpost : asSigAllstatePost cfg s (.getBvciCt bvci vcConn : Input Msg Conn)
          = some (.error .unbound : Round Comp Msg Conn) := by
        show (match fCompForBvci cfg bvci with
          | some c => _
          | none => if cfg.bvcTable.length < 64 then _ else _) = _
        rw [hnone]
        exact if_pos hlen
      refine ⟨.unbound, ?_⟩
      show (altsteps cfg expiredRuns s (.getBvciCt bvci vcConn)).getD _ = _
      rw [altsteps, hpost]
      cases s.signBvcState <;> rfl

end Rounds

-- ── Runs ─────────────────────────────────────────────────────────────────────

section Runs

variable {Comp Msg Conn : Type} [DecidableEq Comp] {cfg : BssgpConfig Comp} {expiredRuns : Bool}
variable {s s' : BssgpCT}

/-- What a component was told last. -/
def lastTold (c : Comp) (outs : List (Output Comp Msg Conn)) : Option BvcState :=
  ((outs.filterMap statusOf).filter fun t => t.1 = c).getLast?.map Prod.snd

/-- What a BVC was told last is in the last part that tells it something. -/
theorem lastTold_append {e : BvcEntity Comp} (he : e ∈ cfg.bvcTable)
    {prev outs : List (Output Comp Msg Conn)} (hnews : outs.filterMap statusOf = news cfg s s') :
    lastTold e.compRef (prev ++ outs)
      = if s'.signBvcState = s.signBvcState then lastTold e.compRef prev
        else some s'.signBvcState := by
  rw [lastTold, List.filterMap_append, List.filter_append, hnews, news]
  by_cases hsame : s'.signBvcState = s.signBvcState
  · rw [if_pos hsame, if_pos hsame, List.filter_nil, List.append_nil, lastTold]
  · rw [if_neg hsame, if_neg hsame]
    generalize hlist : List.filter _ (cfg.bvcTable.map _) = told
    have hmem : (e.compRef, s'.signBvcState) ∈ told := by
      rw [← hlist]
      exact List.mem_filter.mpr ⟨List.mem_map_of_mem he, decide_eq_true rfl⟩
    have hne : told ≠ [] := List.ne_nil_of_mem hmem
    have hall : ∀ t ∈ told, t.2 = s'.signBvcState := by
      intro t ht
      rw [← hlist] at ht
      obtain ⟨e', -, rfl⟩ := List.mem_map.mp (List.mem_filter.mp ht).1
      rfl
    rw [List.getLast?_append_of_ne_nil _ hne, List.getLast?_eq_some_getLast hne, Option.map_some,
      hall _ (List.getLast_mem hne)]

/-- **EVERY RUN**: all are told the state, each RESET is acknowledged, and what
    is handed on a point-to-point BVCI is handed to its component. -/
structure Inv (cfg : BssgpConfig Comp) (s : BssgpCT) (js : List (Input Msg Conn))
    (h : List (List (Output Comp Msg Conn))) : Prop where
  told : ∀ e ∈ cfg.bvcTable, lastTold e.compRef h.flatten
    = if s.signBvcState = .waitReset then none else some s.signBvcState
  acks : h.flatten.countP isResetAck = js.countP isReset
  handed : ∀ c bvci pdu, .bvc c (.udi bvci pdu) ∈ h.flatten →
    bvci = 0 ∨ fCompForBvci cfg bvci = some c

/-- The invariant holds at the start. -/
theorem Inv.start {r : BssgpCT × List (Output Comp Msg Conn)} (hr : bssgpStart cfg = r) :
    Inv cfg r.1 ([] : List (Input Msg Conn)) ([r.2] : List (List (Output Comp Msg Conn))) := by
  subst hr
  refine ⟨fun e he => ?_, ?_, fun c bvci pdu hmem => ?_⟩
  · have hnews : (bssgpStart cfg : BssgpCT × List (Output Comp Msg Conn)).2.filterMap statusOf
        = news cfg { signBvcState := .waitReset, t2 := .idle }
          (bssgpStart cfg : BssgpCT × List (Output Comp Msg Conn)).1 := by
      rw [bssgpStart, news, fSignChangeState_told, fSignChangeState_state]
    rw [List.flatten_singleton, ← List.nil_append (bssgpStart cfg).2]
    exact lastTold_append he hnews
  · rw [List.flatten_singleton, bssgpStart, fSignChangeState_acks]
    rfl
  · rw [List.flatten_singleton] at hmem
    exact absurd hmem (not_handed_fSignChangeState _)

/-- **ONE ROUND** keeps the invariant. -/
theorem Inv.step {js : List (Input Msg Conn)} {h : List (List (Output Comp Msg Conn))}
    {i : Input Msg Conn} {outs : List (Output Comp Msg Conn)} (hI : Inv cfg s js h)
    (hstep : step cfg expiredRuns s i = .ok (s', outs)) : Inv cfg s' (js ++ [i]) (h ++ [outs]) := by
  have heffect := step_effect hstep
  refine ⟨fun e he => ?_, ?_, fun c bvci pdu hmem => ?_⟩
  · rw [List.flatten_append, List.flatten_singleton, lastTold_append he heffect.told]
    by_cases hsame : s'.signBvcState = s.signBvcState
    · rw [if_pos hsame, hsame]
      exact hI.told e he
    · have hunblocked : s'.signBvcState = .unblocked := by
        rw [heffect.state] at hsame ⊢
        exact after_cases.resolve_left hsame
      rw [if_neg hsame, hunblocked]
      rfl
  · rw [List.flatten_append, List.flatten_singleton, List.countP_append, List.countP_append,
      hI.acks, heffect.acks, List.countP_singleton]
  · rw [List.flatten_append, List.flatten_singleton] at hmem
    exact (List.mem_append.mp hmem).elim (hI.handed c bvci pdu) (heffect.handed c bvci pdu)

end Runs

/-- The BSS resets the BVC, and what comes on BVCI 3 is for the second component. -/
example :
    let cfg : BssgpConfig Nat :=
      { nsei := 7, sgsnRole := false, bvcTable := [⟨2, 40⟩, ⟨3, 41⟩],
        mgmtConnected := false, globalConnected := false, rimConnected := false }
    let start : BssgpCT × List (Output Nat Char Nat) := bssgpStart cfg
    let is : List (Input Char Nat) :=
      [.nsStatus 7 false true true, .udi 0 (.bvcResetAck 0 false), .udi 3 (.other none 'a')]
    let told : List (Output Nat Char Nat) :=
      [.bvc 40 (.statusInd .unblocked), .bvc 41 (.statusInd .unblocked),
        .bvc 40 .resetInd, .bvc 41 .resetInd]
    run (step cfg false) start.1 is
      = .ok ({ signBvcState := .unblocked, t2 := .idle },
        [[.bvcReset .omIntervention], told, [.bvc 41 (.udi 3 (.other none 'a'))]]) := by
  rfl

end OsmoBssgpSig
