import OsmoTtcn.NsEmulationProofs
import OsmoTtcn.PendingMessagesProofs

/-! # One NSVC of the NS emulation

    Each NSVC is a component of its own.  It talks NS to its peer, takes
    requests from the NS-VCG and tells it what state it is in: nearly every
    change of `vc_state` goes through `f_change_state`, which sends an
    indication.

    `Acts` says once what any alternative of `f_ScanEvents` can do to an NSVC;
    `Acts.tracks` is what follows for the NS-VCG, which has a copy of the
    state. -/

namespace OsmoNsvc

open OsmoTitan OsmoNs AnnouncedCopy

-- ── PDUs ─────────────────────────────────────────────────────────────────────

/-- `IP4_Element` and `IP6_Element` -/
structure SnsIpElement where
  ipAddress : List UInt8
  udpPort : Nat
  signallingWeight : UInt8
  dataWeight : UInt8
  deriving DecidableEq

/-- What follows the NSEI in a PDU of the sub-network service. -/
inductive SnsBody where
  | size (rstFlag : Bool) (maxNsvcs : UInt16) (numV4 numV6 : Option UInt16)
  | sizeAck (cause : Option UInt8)
  | config (endFlag : Bool) (v4 v6 : Option (List SnsIpElement))
  | configAck (cause : Option UInt8)
  /-- SNS-ADD, SNS-DELETE, SNS-CHANGE-WEIGHT or SNS-ACK -/
  | procedure (nsPduType : UInt8) (content : List UInt8)
  deriving DecidableEq

/-- `PDU_NS`, the PDUs that the templates of an NSVC tell apart. -/
inductive PduNs where
  | block (cause : UInt8) (nsvci : Nsvci)
  | blockAck (nsvci : Nsvci)
  | reset (cause : UInt8) (nsvci : Nsvci) (nsei : Nsei)
  | resetAck (nsvci : Nsvci) (nsei : Nsei)
  /-- `nS_PDU` is not encoded. -/
  | status (cause : UInt8) (pdu : PduNs)
  | unblock
  | unblockAck
  | unitdata (bvci : BssgpBvci) (sdu : List UInt8)
  | alive
  | aliveAck
  | sns (nsei : Nsei) (body : SnsBody)
  /-- A PDU that no template is for. -/
  | other (octets : List UInt8)
  deriving DecidableEq

/-- `NS_CAUSE_OM_INTERVENTION`, sent in every NS-RESET. -/
def nsCauseOmIntervention : UInt8 := 1

/-- The cause of an NS-STATUS, for a PDU that nothing expected. -/
def nsCausePduNotCompatibleWithProtocolState : UInt8 := 10

/-- `match(rf, tr_SNS(nsei))` -/
def trSns (rf : PduNs) (nsei : Nsei) : Bool :=
  match rf with
  | .sns nsei' (.size _ _ numV4 _) => decide (nsei' = nsei) && numV4.isSome
  | .sns nsei' _ => decide (nsei' = nsei)
  | _ => false

/-- `match(rf, tr_SNS(?))` -/
def trSnsAny : PduNs → Bool
  | .sns _ (.size _ _ numV4 _) => numV4.isSome
  | .sns _ _ => true
  | _ => false

-- ── Messages ─────────────────────────────────────────────────────────────────

/-- `NSConfiguration`, as far as an NSVC reads it. -/
structure NSConfiguration where
  nsei : Nsei
  roleSgsn : Bool
  handleSns : Bool
  nsvc : List NSVCConfiguration

/-- `NsUnitdataRequest` with its payload; `bssgp` is given by its encoding. -/
structure NsUdReq extends NsUnitdataRequest where
  sdu : Option (List UInt8)
  bssgp : Option (List UInt8)

/-- `NsUnitdataIndication`, user data on its way up. -/
structure NsUnitdataIndication where
  bvci : BssgpBvci
  nsei : Nsei
  nsvci : Nsvci
  sdu : List UInt8
  deriving DecidableEq

/-- Used by NS-VC to report reception of a SNS PDU to NS-VCG. -/
structure SnsIndication where
  nsvci : Nsvci
  ns : PduNs

/-- Used by NS-VCG to request transmission of a SNS PDU via a NS-VC. -/
structure SnsRequest where
  nsvci : Nsvci
  ns : PduNs

/-- The control requests of the NS-VCG to an NSVC. -/
inductive NsCtrlRequest where
  | startAliveProcedure
  /-- administratively disable NS-VC -/
  | disableReq
  /-- administratively enable NS-VC -/
  | enableReq
  | forceAliveState

/-- What an NSVC receives from the NS-VCG. -/
inductive VcRequest where
  | unitdata (req : NsUdReq)
  | sns (req : SnsRequest)
  | ctrl (req : NsCtrlRequest)

/-- What an NSVC sends to the NS-VCG. -/
inductive VcIndication where
  | status (ind : NsStatusIndication)
  | unitdata (ind : NsUnitdataIndication)
  | sns (ind : SnsIndication)

/-- `NS_Provider_LinkStatus`, what the transport below says of the link. -/
inductive NsProviderLinkStatus where
  | up | down

/-- What an NSVC receives from its provider. -/
inductive NscpMsg where
  | linkStatus (status : NsProviderLinkStatus)
  | pdu (rf : PduNs)

/-- The four timers of an NSVC. -/
inductive NsvcTimer where
  | tnsAlive | tnsTest | tnsBlock | tnsReset
  deriving DecidableEq

/-- What an alternative of `f_ScanEvents` can be taken on. -/
inductive NsvcEvent where
  | nscp (m : NscpMsg)
  | nsSp (m : VcRequest)
  | timeout (t : NsvcTimer)

-- ── The component ────────────────────────────────────────────────────────────

/-- `NSVC_CT` with what it has sent: `nsSp` is what the NS-VCG has not
    received yet. -/
structure NsvcCt where
  gNsvcConfig : NSVCConfiguration
  gConfig : NSConfiguration
  vcState : NsvcState
  running : NsvcTimer → Bool
  nscp : List PduNs
  nsSp : List VcIndication
  /-- `self.stop` -/
  stopped : Bool

/-- `ischosen(cfg.provider.ip)` -/
def ischosenIp (cfg : NSVCConfiguration) : Bool :=
  match cfg.provider with
  | .ip _ => true
  | .fr _ => false

namespace NsvcCt

variable (c : NsvcCt)

/-- The NSVCI of the NSVC, from its own configuration. -/
def nsvci : Nsvci := c.gNsvcConfig.nsvci

/-- The NSEI, from the configuration of the whole emulation. -/
def nsei : Nsei := c.gConfig.nsei

/-- `t.start`, which starts a running timer anew. -/
def start (t : NsvcTimer) : NsvcCt :=
  { c with running := Function.update c.running t true }

/-- `t.stop` -/
def stop (t : NsvcTimer) : NsvcCt :=
  { c with running := Function.update c.running t false }

/-- `NSCP.send(pdu)` -/
def sendPdu (pdu : PduNs) : NsvcCt := { c with nscp := c.nscp ++ [pdu] }

/-- `NS_SP.send(m)` -/
def sendUp (m : VcIndication) : NsvcCt := { c with nsSp := c.nsSp ++ [m] }

/-- `self.stop` -/
def selfStop : NsvcCt := { c with stopped := true }

/-- `f_change_state`: the new state, and an indication that tells the NS-VCG of it. -/
def fChangeState (newState : NsvcState) : NsvcCt :=
  let oldState := c.vcState
  { c with vcState := newState }.sendUp
    (.status { nsei := c.nsei, nsvci := c.nsvci, oldState := oldState
               newState := newState, firstOrLast := false })

/-- `f_sendReset`; `vc_state` is set without an indication. -/
def fSendReset : NsvcCt :=
  { (c.sendPdu (.reset nsCauseOmIntervention c.nsvci c.nsei)).start .tnsReset with
    vcState := .waitReset }

/-- `f_sendAlive` -/
def fSendAlive : NsvcCt := (c.sendPdu .alive).start .tnsAlive

/-- `f_sendUnblock` -/
def fSendUnblock : NsvcCt := (c.sendPdu .unblock).start .tnsBlock

end NsvcCt

/-- The component when it has been through `f_init`. -/
def nsvcStart (initConfig : NSVCConfiguration) (initGConfig : NSConfiguration) :
    NsvcCt :=
  { gNsvcConfig := initConfig
    gConfig := initGConfig
    vcState := .deadBlocked
    running := fun _ => false
    nscp := []
    nsSp := []
    stopped := false : NsvcCt }.fChangeState .deadBlocked

-- ── Altsteps ─────────────────────────────────────────────────────────────────

section Altsteps

variable (c : NsvcCt)

/-- What an alternative does; none if no alternative is for the event. -/
abbrev Taken : Type := Option (Except Fault NsvcCt)

/-- `as_wait_reset`, for an NSVC that has sent an NS-RESET. -/
def asWaitReset : NsvcEvent → Taken
  | .timeout .tnsReset =>
      -- the entire reset procedure shall be repeated
      if c.running .tnsReset then some (.ok (c.stop .tnsReset).fSendReset) else none
  | .nscp (.pdu (.resetAck nsvci nsei)) =>
      if nsvci = c.nsvci ∧ nsei = c.nsei then
        some (.ok ((c.stop .tnsReset).fChangeState .aliveBlocked).fSendAlive.fSendUnblock)
      else none
  | _ => none

/-- `as_alive_blocked` -/
def asAliveBlocked : NsvcEvent → Taken
  | .nscp (.pdu (.block _ nsvci)) =>
      if nsvci = c.nsvci then some (.ok (c.sendPdu (.blockAck c.nsvci))) else none
  | .nscp (.pdu .unblock) =>
      some (.ok (((c.sendPdu .unblockAck).stop .tnsBlock).fChangeState .aliveUnblocked))
  | .nscp (.pdu .unblockAck) =>
      some (.ok ((c.stop .tnsBlock).fChangeState .aliveUnblocked))
  | .nscp (.pdu (.blockAck nsvci)) =>
      -- tolerate a late NS-BLOCK-ACK from peer
      if nsvci = c.nsvci then some (.ok c) else none
  | .timeout .tnsBlock =>
      if c.running .tnsBlock then some (.ok (c.stop .tnsBlock).fSendUnblock) else none
  | _ => none

/-- The octets of a unitdata request, which has the SDU or the decoded PDU. -/
def NsUdReq.payload (req : NsUdReq) : Option (List UInt8) :=
  match req.sdu, req.bssgp with
  | some sdu, none => some sdu
  | none, some enc => some enc
  | _, _ => none

/-- Unitdata in both directions, for the BVCIs that may use this NSVC. -/
def unitdataFor (permits : BssgpBvci → Bool) : NsvcEvent → Taken
  | .nscp (.pdu (.unitdata bvci sdu)) =>
      if permits bvci then
        some (.ok (c.sendUp (.unitdata
          { bvci := bvci, nsei := c.nsei, nsvci := c.nsvci, sdu := sdu })))
      else none
  | .nsSp (.unitdata req) =>
      if req.nsei = c.nsei ∧ permits req.bvci = true then
        req.payload.map (fun sdu => .ok (c.sendPdu (.unitdata req.bvci sdu)))
      else none
  | _ => none

/-- user data transfer; only permitted for some NS-VC -/
def asAliveUnblockedData : NsvcEvent → Taken :=
  unitdataFor c (fun bvci => decide (bvci ≠ 0))

/-- signalling (BVCI=0) transfer; only permitted for some NS-VC -/
def asAliveUnblockedSig : NsvcEvent → Taken :=
  unitdataFor c (fun bvci => decide (bvci = 0))

/-- The first alternatives of `as_alive_unblocked`. -/
def asAliveUnblockedNs : NsvcEvent → Taken
  | .nscp (.pdu .unblock) => some (.ok (c.sendPdu .unblockAck))
  | .nscp (.pdu (.block _ nsvci)) =>
      if nsvci = c.nsvci then
        some (.ok (((c.sendPdu (.blockAck c.nsvci)).stop .tnsBlock).fChangeState
          .aliveBlocked))
      else none
  | .nscp (.pdu (.blockAck nsvci)) =>
      if nsvci = c.nsvci then some (.ok (c.stop .tnsBlock)) else none
  | .nscp (.pdu .unblockAck) => some (.ok c)
  | _ => none

/-- catch any violations of above rule -/
def asAliveUnblockedViolation : NsvcEvent → Taken
  | .nscp (.pdu (.unitdata _ _)) =>
      some (.error (.shutdown "Unexpected Rx NS-UNITDATA on NSVC with data_weight="))
  | .nsSp (.unitdata req) =>
      if req.nsei = c.nsei then
        some (.error (.shutdown "Unexpected Rx TX-UNITDATA on NSVC with data_weight="))
      else none
  | _ => none

/-- `as_alive_unblocked`: its own PDUs, then user data as far as the weights permit. -/
def asAliveUnblocked (e : NsvcEvent) : Taken :=
  (asAliveUnblockedNs c e)
  |>.or (if c.gNsvcConfig.weighs NSVCConfigurationIP.dataWeight then
      asAliveUnblockedData c e else none)
  |>.or (if c.gNsvcConfig.weighs NSVCConfigurationIP.signallingWeight then
      asAliveUnblockedSig c e else none)
  |>.or (if ischosenIp c.gNsvcConfig then
      asAliveUnblockedViolation c e else none)

/-- `as_disabled` -/
def asDisabled : NsvcEvent → Taken
  | .nsSp (.ctrl .enableReq) =>
      if c.gConfig.handleSns then
        some (.ok ((c.fChangeState .aliveUnblocked).fSendAlive.start .tnsTest))
      else some (.ok ((c.fChangeState .deadBlocked).start .tnsTest))
  -- drop any received messages while in this state
  | .nscp _ => some (.ok c)
  | .nsSp _ => some (.ok c)
  | .timeout _ => none

/-- `as_handle_reset`, of an emulation without the sub-network service. -/
def asHandleReset : NsvcEvent → Taken
  | .nscp (.linkStatus .up) =>
      if c.gConfig.roleSgsn then some (.ok c) else some (.ok c.fSendReset)
  | .nscp (.pdu (.reset _ nsvci nsei)) =>
      if nsvci = c.nsvci ∧ nsei = c.nsei then
        some (.ok (((c.fChangeState .aliveBlocked).sendPdu
          (.resetAck c.nsvci c.nsei)).fSendAlive.start .tnsTest))
      else some (.ok c)
  | _ => none

/-- `as_nsvc_sns`, of an emulation with the sub-network service over UDP. -/
def asNsvcSns : NsvcEvent → Taken
  | .nscp (.linkStatus .up) => some (.ok c)
  | .nscp (.pdu rf) =>
      if trSns rf c.nsei then
        some (.ok (c.sendUp (.sns { nsvci := c.nsvci, ns := rf })))
      else if trSnsAny rf then some (.ok c.selfStop) else none
  | .nsSp (.sns sreq) =>
      if sreq.nsvci = c.nsvci then some (.ok (c.sendPdu sreq.ns))
      else some (.ok c.selfStop)
  | .nsSp (.ctrl .forceAliveState) => some (.ok (c.fChangeState .aliveUnblocked))
  | .nsSp (.ctrl .startAliveProcedure) => some (.ok (c.fSendAlive.start .tnsTest))
  | _ => none

/-- The alternatives of `as_allstate` before the two altsteps it calls. -/
def asAllstateOwn : NsvcEvent → Taken
  | .nscp (.linkStatus .down) =>
      some (.ok (((c.stop .tnsTest).stop .tnsAlive).fChangeState .deadBlocked))
  | .nsSp (.ctrl .disableReq) =>
      -- to make NS-VCG remove us from list of active NS-VC
      some (.ok ((((c.fChangeState .deadBlocked).fChangeState .disabled).stop
        .tnsTest).stop .tnsAlive))
  | .timeout .tnsAlive =>
      if c.running .tnsAlive then
        some (.ok (((c.stop .tnsAlive).fChangeState .deadBlocked).start .tnsTest))
      else none
  | .timeout .tnsTest =>
      if c.running .tnsTest then some (.ok (c.stop .tnsTest).fSendAlive) else none
  | .nscp (.pdu .aliveAck) =>
      if c.running .tnsAlive then some (.ok ((c.stop .tnsAlive).start .tnsTest))
      else none
  | .nscp (.pdu .alive) => some (.ok (c.sendPdu .aliveAck))
  | .nscp (.pdu (.block _ _)) => some (.ok c)
  | _ => none

/-- The alternatives of `as_allstate` after the two altsteps. -/
def asAllstateUnknown : NsvcEvent → Taken
  | .nscp (.pdu (.status _ _)) => some (.ok c)
  | .nscp (.pdu rf) =>
      some (.ok (c.sendPdu (.status nsCausePduNotCompatibleWithProtocolState rf)))
  | _ => none

/-- `as_allstate`, in the order in which the source lists its alternatives. -/
def asAllstate (e : NsvcEvent) : Taken :=
  (asAllstateOwn c e)
  |>.or (if c.gConfig.handleSns then none else asHandleReset c e)
  |>.or (if c.gConfig.handleSns && ischosenIp c.gNsvcConfig then
      asNsvcSns c e else none)
  |>.or (asAllstateUnknown c e)

/-- One round of `f_ScanEvents`. -/
def fScanEvents (e : NsvcEvent) : Taken :=
  if c.stopped then none
  else match c.vcState with
    | .waitReset => (asWaitReset c e).or (asAllstate c e)
    | .aliveBlocked => (asAliveBlocked c e).or (asAllstate c e)
    | .aliveUnblocked => (asAliveUnblocked c e).or (asAllstate c e)
    | .disabled => asDisabled c e
    | .deadBlocked => asAllstate c e

end Altsteps

-- ── What an NSVC can do ──────────────────────────────────────────────────────

/-- The status indications among messages to the NS-VCG. -/
def statuses (ms : List VcIndication) : List NsStatusIndication :=
  ms.filterMap (fun m => match m with
    | .status ind => some ind
    | _ => none)

/-- An indication stays one when a message is put before it. -/
theorem statuses_cons_subset {m : VcIndication} {ms : List VcIndication}
    {ind : NsStatusIndication} (h : ind ∈ statuses ms) : ind ∈ statuses (m :: ms) := by
  obtain ⟨m', hm', hind⟩ := List.mem_filterMap.mp h
  exact List.mem_filterMap.mpr ⟨m', List.mem_cons_of_mem m hm', hind⟩

/-- The indications of two lists are those of both, in order. -/
theorem statuses_append (ms ms' : List VcIndication) :
    statuses (ms ++ ms') = statuses ms ++ statuses ms' :=
  List.filterMap_append

/-- A message that is no indication adds none. -/
theorem statuses_sendUp {c : NsvcCt} {m : VcIndication} (hm : statuses [m] = []) :
    statuses (c.sendUp m).nsSp = statuses c.nsSp := by
  show statuses (c.nsSp ++ [m]) = statuses c.nsSp
  rw [statuses_append, hm, List.append_nil]

/-- What one event can lead to, told by how `vc_state` and the messages to the
    NS-VCG change. -/
inductive Acts : NsvcCt → NsvcCt → Prop where
  /-- Timers, PDUs, other indications, or `self.stop`. -/
  | quiet {c c' : NsvcCt} (hcfg : c'.gNsvcConfig = c.gNsvcConfig)
      (hg : c'.gConfig = c.gConfig) (hst : c'.vcState = c.vcState)
      (hsp : statuses c'.nsSp = statuses c.nsSp) : Acts c c'
  | changeState (c : NsvcCt) (newState : NsvcState) (hnew : newState ≠ .waitReset) :
      Acts c (c.fChangeState newState)
  | sendReset (c : NsvcCt) : Acts c c.fSendReset
  | trans {c c' c'' : NsvcCt} : Acts c c' → Acts c' c'' → Acts c c''

namespace Acts

/-- An event may change nothing. -/
theorem refl (c : NsvcCt) : Acts c c := .quiet rfl rfl rfl rfl

/-- Passing data up is quiet. -/
theorem passUp (c : NsvcCt) {m : VcIndication} (hm : statuses [m] = []) :
    Acts c (c.sendUp m) :=
  .quiet rfl rfl rfl (statuses_sendUp hm)

variable {c c' : NsvcCt}

/-- A PDU to the peer adds nothing to what the NSVC did. -/
theorem sendPdu (h : Acts c c') (pdu : PduNs) : Acts c (c'.sendPdu pdu) :=
  h.trans (.quiet rfl rfl rfl rfl)

/-- Starting a timer adds nothing to it. -/
theorem start (h : Acts c c') (t : NsvcTimer) : Acts c (c'.start t) :=
  h.trans (.quiet rfl rfl rfl rfl)

/-- Stopping a timer adds nothing to it. -/
theorem stop (h : Acts c c') (t : NsvcTimer) : Acts c (c'.stop t) :=
  h.trans (.quiet rfl rfl rfl rfl)

/-- Nor does the end of the component. -/
theorem selfStop (h : Acts c c') : Acts c c'.selfStop :=
  h.trans (.quiet rfl rfl rfl rfl)

/-- NS-ALIVE is a PDU and a timer. -/
theorem fSendAlive (h : Acts c c') : Acts c c'.fSendAlive :=
  h.trans (.quiet rfl rfl rfl rfl)

/-- NS-UNBLOCK is a PDU and a timer. -/
theorem fSendUnblock (h : Acts c c') : Acts c c'.fSendUnblock :=
  h.trans (.quiet rfl rfl rfl rfl)

/-- NS-RESET is the one act that hides a state from the NS-VCG. -/
theorem fSendReset (h : Acts c c') : Acts c c'.fSendReset :=
  h.trans (.sendReset c')

/-- A change of state that is announced. -/
theorem fChangeState (h : Acts c c') (newState : NsvcState)
    (hnew : newState ≠ .waitReset) : Acts c (c'.fChangeState newState) :=
  h.trans (.changeState c' newState hnew)

end Acts

/-- Whatever alternative is taken leads to `P`. -/
def Leads (P : NsvcCt → Prop) (t : Taken) : Prop := ∀ c', t = some (.ok c') → P c'

section Leads

variable {P : NsvcCt → Prop} {t t' : Taken}

/-- An alternative that is not taken leads nowhere. -/
theorem leads_none : Leads P none := fun _ h => nomatch h

/-- An error leads nowhere. -/
theorem leads_error (f : Fault) : Leads P (some (.error f)) := fun _ h => nomatch h

/-- An alternative that is taken leads where its state is. -/
theorem leads_some {c' : NsvcCt} (h : P c') : Leads P (some (.ok c')) := by
  intro c'' heq
  rw [← Except.ok.inj (Option.some.inj heq)]
  exact h

/-- The alternatives are tried in order: each has to lead to `P`. -/
theorem Leads.or (h : Leads P t) (h' : Leads P t') : Leads P (t.or t') := by
  cases t with
  | none => exact h'
  | some r => exact h

/-- Both branches have to lead to `P`. -/
theorem Leads.ite {p : Prop} [Decidable p] (h : Leads P t) (h' : Leads P t') :
    Leads P (if p then t else t') := by
  by_cases hp : p
  · rw [if_pos hp]
    exact h
  · rw [if_neg hp]
    exact h'

end Leads

section ActsLemmas

variable (c : NsvcCt)

/-- What `as_wait_reset` can do. -/
theorem asWaitReset_acts (e : NsvcEvent) : Leads (Acts c) (asWaitReset c e) := by
  unfold asWaitReset
  split
  · exact .ite (leads_some ((Acts.refl c).stop _).fSendReset) leads_none
  · exact .ite (leads_some (((Acts.refl c).stop _).fChangeState .aliveBlocked
      nofun).fSendAlive.fSendUnblock) leads_none
  · exact leads_none

/-- What `as_alive_blocked` can do. -/
theorem asAliveBlocked_acts (e : NsvcEvent) : Leads (Acts c) (asAliveBlocked c e) := by
  unfold asAliveBlocked
  split
  · exact .ite (leads_some ((Acts.refl c).sendPdu _)) leads_none
  · exact leads_some ((((Acts.refl c).sendPdu _).stop _).fChangeState .aliveUnblocked
      nofun)
  · exact leads_some (((Acts.refl c).stop _).fChangeState .aliveUnblocked nofun)
  · exact .ite (leads_some (Acts.refl c)) leads_none
  · exact .ite (leads_some ((Acts.refl c).stop _).fSendUnblock) leads_none
  · exact leads_none

/-- User data goes up or is dropped. -/
theorem unitdataFor_acts (permits : BssgpBvci → Bool) (e : NsvcEvent) :
    Leads (Acts c) (unitdataFor c permits e) := by
  unfold unitdataFor
  split
  · exact .ite (leads_some (.passUp c rfl)) leads_none
  · refine .ite ?_ leads_none
    cases NsUdReq.payload _ with
    | none => exact leads_none
    | some sdu => exact leads_some ((Acts.refl c).sendPdu _)
  · exact leads_none

/-- What `as_alive_unblocked` can do. -/
theorem asAliveUnblocked_acts (e : NsvcEvent) : Leads (Acts c) (asAliveUnblocked c e) := by
  refine .or (.or (.or ?_ ?_) ?_) ?_
  · unfold asAliveUnblockedNs
    split
    · exact leads_some ((Acts.refl c).sendPdu _)
    · exact .ite (leads_some ((((Acts.refl c).sendPdu _).stop _).fChangeState
        .aliveBlocked nofun)) leads_none
    · exact .ite (leads_some ((Acts.refl c).stop _)) leads_none
    · exact leads_some (Acts.refl c)
    · exact leads_none
  · exact .ite (unitdataFor_acts c _ e) leads_none
  · exact .ite (unitdataFor_acts c _ e) leads_none
  · refine .ite ?_ leads_none
    unfold asAliveUnblockedViolation
    split
    · exact leads_error _
    · exact .ite (leads_error _) leads_none
    · exact leads_none

/-- What `as_disabled` can do. -/
theorem asDisabled_acts (e : NsvcEvent) : Leads (Acts c) (asDisabled c e) := by
  unfold asDisabled
  split
  · exact .ite
      (leads_some (((Acts.refl c).fChangeState .aliveUnblocked nofun).fSendAlive.start _))
      (leads_some (((Acts.refl c).fChangeState .deadBlocked nofun).start _))
  · exact leads_some (Acts.refl c)
  · exact leads_some (Acts.refl c)
  · exact leads_none

/-- What `as_handle_reset` can do. -/
theorem asHandleReset_acts (e : NsvcEvent) : Leads (Acts c) (asHandleReset c e) := by
  unfold asHandleReset
  split
  · exact .ite (leads_some (Acts.refl c)) (leads_some (Acts.refl c).fSendReset)
  · exact .ite (leads_some ((((Acts.refl c).fChangeState .aliveBlocked nofun).sendPdu
      _).fSendAlive.start _)) (leads_some (Acts.refl c))
  · exact leads_none

/-- What `as_nsvc_sns` can do. -/
theorem asNsvcSns_acts (e : NsvcEvent) : Leads (Acts c) (asNsvcSns c e) := by
  unfold asNsvcSns
  split
  · exact leads_some (Acts.refl c)
  · exact .ite (leads_some (.passUp c rfl))
      (.ite (leads_some (Acts.refl c).selfStop) leads_none)
  · exact .ite (leads_some ((Acts.refl c).sendPdu _)) (leads_some (Acts.refl c).selfStop)
  · exact leads_some ((Acts.refl c).fChangeState .aliveUnblocked nofun)
  · exact leads_some ((Acts.refl c).fSendAlive.start _)
  · exact leads_none

/-- What `as_allstate` can do, one part after the other. -/
theorem asAllstate_acts (e : NsvcEvent) : Leads (Acts c) (asAllstate c e) := by
  refine .or (.or (.or ?_ ?_) ?_) ?_
  · unfold asAllstateOwn
    split
    · exact leads_some ((((Acts.refl c).stop _).stop _).fChangeState .deadBlocked nofun)
    · exact leads_some (((((Acts.refl c).fChangeState .deadBlocked nofun).fChangeState
        .disabled nofun).stop _).stop _)
    · exact .ite (leads_some ((((Acts.refl c).stop _).fChangeState .deadBlocked
        nofun).start _)) leads_none
    · exact .ite (leads_some ((Acts.refl c).stop _).fSendAlive) leads_none
    · exact .ite (leads_some (((Acts.refl c).stop _).start _)) leads_none
    · exact leads_some ((Acts.refl c).sendPdu _)
    · exact leads_some (Acts.refl c)
    · exact leads_none
  · exact .ite leads_none (asHandleReset_acts c e)
  · exact .ite (asNsvcSns_acts c e) leads_none
  · unfold asAllstateUnknown
    split
    · exact leads_some (Acts.refl c)
    · exact leads_some ((Acts.refl c).sendPdu _)
    · exact leads_none

/-- **WHATEVER HAPPENS TO AN NSVC**, it acts. -/
theorem fScanEvents_acts {c c' : NsvcCt} {e : NsvcEvent}
    (h : fScanEvents c e = some (.ok c')) : Acts c c' := by
  have hall : Leads (Acts c) (fScanEvents c e) := by
    rw [fScanEvents]
    refine .ite leads_none ?_
    cases c.vcState with
    | waitReset => exact (asWaitReset_acts c e).or (asAllstate_acts c e)
    | aliveBlocked => exact (asAliveBlocked_acts c e).or (asAllstate_acts c e)
    | aliveUnblocked => exact (asAliveUnblocked_acts c e).or (asAllstate_acts c e)
    | disabled => exact asDisabled_acts c e
    | deadBlocked => exact asAllstate_acts c e
  exact hall c' h

end ActsLemmas

-- ── What the NS-VCG learns ───────────────────────────────────────────────────

/-- The one state that an NSVC takes without an indication. -/
def Unannounced (st : NsvcState) : Prop := st = .waitReset

instance (st : NsvcState) : Decidable (Unannounced st) :=
  inferInstanceAs (Decidable (st = .waitReset))

/-- The states that the NS-VCG has yet to hear of. -/
def NsvcCt.pending (c : NsvcCt) : List NsvcState :=
  (statuses c.nsSp).map NsStatusIndication.newState

/-- The indications that are on their way are this NSVC's. -/
def OwnIndications (c : NsvcCt) : Prop :=
  ∀ ind ∈ statuses c.nsSp, ind.nsei = c.nsei ∧ ind.nsvci = c.nsvci
    ∧ ind.firstOrLast = false

/-- `f_change_state` adds the one indication of its change. -/
theorem statuses_fChangeState (c : NsvcCt) (newState : NsvcState) :
    statuses (c.fChangeState newState).nsSp = statuses c.nsSp ++
      [{ nsei := c.nsei, nsvci := c.nsvci, oldState := c.vcState
         newState := newState, firstOrLast := false }] :=
  statuses_append c.nsSp _

/-- The NS-VCG has one state more to read. -/
theorem pending_fChangeState (c : NsvcCt) (newState : NsvcState) :
    (c.fChangeState newState).pending = c.pending ++ [newState] := by
  rw [NsvcCt.pending, statuses_fChangeState, List.map_append]
  rfl

namespace Acts

variable {c c' : NsvcCt}

/-- Nothing an NSVC does changes its configuration. -/
theorem config (h : Acts c c') :
    c'.gNsvcConfig = c.gNsvcConfig ∧ c'.gConfig = c.gConfig := by
  induction h with
  | quiet hcfg hg hst hsp => exact ⟨hcfg, hg⟩
  | changeState c newState hnew => exact ⟨rfl, rfl⟩
  | sendReset c => exact ⟨rfl, rfl⟩
  | trans h h' ih ih' => exact ⟨ih'.1.trans ih.1, ih'.2.trans ih.2⟩

/-- An NSVC speaks of itself only, whatever it does. -/
theorem ownIndications (h : Acts c c') : OwnIndications c → OwnIndications c' := by
  induction h with
  | quiet hcfg hg hst hsp =>
      intro hown
      rw [OwnIndications, NsvcCt.nsei, NsvcCt.nsvci, hcfg, hg, hsp]
      exact hown
  | changeState c newState hnew =>
      intro hown ind hind
      rw [statuses_fChangeState] at hind
      rcases List.mem_append.mp hind with hold | hlast
      · exact hown ind hold
      · rw [List.mem_singleton.mp hlast]
        exact ⟨rfl, rfl, rfl⟩
  | sendReset c => exact fun hown => hown
  | trans h h' ih ih' => exact fun hown => ih' (ih hown)

/-- **A COPY OF THE STATE** keeps track of it, whatever the NSVC does. -/
theorem tracks (h : Acts c c') {copy : NsvcState} :
    Tracks Unannounced c.vcState copy c.pending →
      Tracks Unannounced c'.vcState copy c'.pending := by
  induction h with
  | quiet hcfg hg hst hsp =>
      intro htracks
      rw [NsvcCt.pending, hst, hsp]
      exact htracks
  | changeState c newState hnew =>
      intro htracks
      rw [pending_fChangeState]
      exact htracks.announce hnew
  | sendReset c => exact fun htracks => htracks.hide rfl
  | trans h h' ih ih' => exact fun htracks => ih' (ih htracks)

end Acts

-- ── Before the sub-network service is up ─────────────────────────────────────

/-- An NSVC over UDP that was not told to be alive. -/
structure NotYetAlive (c : NsvcCt) : Prop where
  sns : c.gConfig.handleSns = true
  ip : ischosenIp c.gNsvcConfig = true
  state : c.vcState = .deadBlocked
  noAlive : c.running .tnsAlive = false
  noTest : c.running .tnsTest = false
  pending : ∀ st ∈ c.pending, st = .deadBlocked

namespace NotYetAlive

variable {c : NsvcCt}

/-- A PDU to the peer starts no timer. -/
theorem sendPdu (h : NotYetAlive c) (pdu : PduNs) : NotYetAlive (c.sendPdu pdu) :=
  ⟨h.sns, h.ip, h.state, h.noAlive, h.noTest, h.pending⟩

/-- The end of the component starts none. -/
theorem selfStop (h : NotYetAlive c) : NotYetAlive c.selfStop :=
  ⟨h.sns, h.ip, h.state, h.noAlive, h.noTest, h.pending⟩

/-- Stopping a timer starts none. -/
theorem stop (h : NotYetAlive c) (t : NsvcTimer) : NotYetAlive (c.stop t) := by
  refine ⟨h.sns, h.ip, h.state, ?_, ?_, h.pending⟩
  · show Function.update c.running t false .tnsAlive = false
    rw [Function.update_apply, h.noAlive, ite_self]
  · show Function.update c.running t false .tnsTest = false
    rw [Function.update_apply, h.noTest, ite_self]

/-- Passing data up leaves the NSVC where it is. -/
theorem passUp (h : NotYetAlive c) {m : VcIndication} (hm : statuses [m] = []) :
    NotYetAlive (c.sendUp m) := by
  refine ⟨h.sns, h.ip, h.state, h.noAlive, h.noTest, ?_⟩
  rw [NsvcCt.pending, statuses_sendUp hm]
  exact h.pending

/-- It may announce again that it is dead and blocked. -/
theorem dead (h : NotYetAlive c) : NotYetAlive (c.fChangeState .deadBlocked) := by
  refine ⟨h.sns, h.ip, rfl, h.noAlive, h.noTest, fun st hst => ?_⟩
  rw [pending_fChangeState] at hst
  rcases List.mem_append.mp hst with hold | hlast
  · exact h.pending st hold
  · exact List.mem_singleton.mp hlast

/-- **NOTHING BUT A CONTROL REQUEST** brings it out of this state. -/
theorem allstate (h : NotYetAlive c) {e : NsvcEvent} (he : ∀ r, e ≠ .nsSp (.ctrl r)) :
    Leads NotYetAlive (asAllstate c e) := by
  refine .or (.or (.or ?_ ?_) ?_) ?_
  · unfold asAllstateOwn
    split
    · exact leads_some (((h.stop _).stop _).dead)
    · exact absurd rfl (he _)
    · rw [h.noAlive]
      exact leads_none
    · rw [h.noTest]
      exact leads_none
    · rw [h.noAlive]
      exact leads_none
    · exact leads_some (h.sendPdu _)
    · exact leads_some h
    · exact leads_none
  · rw [if_pos h.sns]
    exact leads_none
  · refine .ite ?_ leads_none
    unfold asNsvcSns
    split
    · exact leads_some h
    · exact .ite (leads_some (h.passUp rfl)) (.ite (leads_some h.selfStop) leads_none)
    · exact .ite (leads_some (h.sendPdu _)) (leads_some h.selfStop)
    · exact absurd rfl (he _)
    · exact absurd rfl (he _)
    · exact leads_none
  · unfold asAllstateUnknown
    split
    · exact leads_some h
    · exact leads_some (h.sendPdu _)
    · exact leads_none

/-- **IT STAYS DEAD AND BLOCKED** until the NS-VCG says otherwise. -/
theorem scanEvents (h : NotYetAlive c) {c' : NsvcCt} {e : NsvcEvent}
    (he : ∀ r, e ≠ .nsSp (.ctrl r)) (hstep : fScanEvents c e = some (.ok c')) :
    NotYetAlive c' := by
  rw [fScanEvents, h.state] at hstep
  exact Leads.ite leads_none (h.allstate he) c' hstep

end NotYetAlive

-- ── The start ────────────────────────────────────────────────────────────────

/-- A fresh NSVC has announced nothing of another one. -/
theorem nsvcStart_ownIndications (cfg : NSVCConfiguration) (g : NSConfiguration) :
    OwnIndications (nsvcStart cfg g) := by
  intro ind hind
  rw [List.mem_singleton.mp hind]
  exact ⟨rfl, rfl, rfl⟩

/-- A fresh NSVC is `DEAD_BLOCKED`, as the NS-VCG has it. -/
theorem nsvcStart_tracks (cfg : NSVCConfiguration) (g : NSConfiguration) :
    Tracks Unannounced (nsvcStart cfg g).vcState .deadBlocked
      (nsvcStart cfg g).pending :=
  (tracks_refl nofun).announce nofun

/-- A fresh NSVC over UDP with the sub-network service is not alive yet. -/
theorem nsvcStart_notYetAlive {cfg : NSVCConfiguration} {g : NSConfiguration}
    (hsns : g.handleSns = true) (hip : ischosenIp cfg = true) :
    NotYetAlive (nsvcStart cfg g) :=
  ⟨hsns, hip, rfl, rfl, rfl, fun _ hst => List.mem_singleton.mp hst⟩

end OsmoNsvc
