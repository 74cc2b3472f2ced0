import OsmoTtcn.NsvcProofs
import OsmoTtcn.RunGuardProofs

/-! # The NS-VCG and its NSVCs

    The NS-VCG component has a copy of the state of each of its NSVCs.  It
    learns of a change from an indication, which it passes to the user, marked
    if it is for the first NSVC that is unblocked or for the last that is
    blocked.  The NSVCs run on their own, and any time may pass until an
    indication is received.

    `f_sendReset` changes the state of an NSVC without an indication, a table
    may have an NSVCI more than once, and what is counted for the mark is not
    always what changes.  `ns_agreement` says exactly in which states the copies
    are right and on which indications the mark is. -/

namespace OsmoNsVcg

open OsmoTitan OsmoNs OsmoNsvc AnnouncedCopy RunGuard

-- ── The entity ───────────────────────────────────────────────────────────────

/-- Which `alt` the NS-VCG component is in. -/
inductive Phase where
  /-- the loop of `NSStart` -/
  | common
  /-- expect SIZE-ACK -/
  | sizeAck
  /-- expect a SNS-CONFIG-ACK for the outbound SNS-CONFIG -/
  | outConfigAck (vc : Nat)
  /-- expect a SNS-CONFIG-ACK in response to a SNS-CONFIG of the SGSN -/
  | inConfigAck (nsvci : Nsvci) (vc : Nat)
  /-- `self.stop` -/
  | stopped
  deriving DecidableEq

/-- The NS-VCG component with its NSVC components, which are numbered.
    `requests` is what an NSVC has not received yet. -/
structure NsVcg where
  gConfig : NSConfiguration
  ct : NsCt Nat
  phase : Phase
  vcs : List NsvcCt
  requests : Nat → List VcRequest

/-- What the NS-VCG sends to the user. -/
inductive NsSpMsg where
  | status (ind : NsStatusIndication)
  | unitdata (ind : NsUnitdataIndication)

/-- What the user controls. -/
inductive NsCtrl where
  | disableVc (nsvci : Nsvci)
  | enableVc (nsvci : Nsvci)

/-- One thing that happens; `vc` is the NSVC that it happens to. -/
inductive NsEvent where
  /-- A PDU or a link status comes from the provider. -/
  | nscp (vc : Nat) (m : NscpMsg)
  | timeout (vc : Nat) (t : NsvcTimer)
  /-- An NSVC looks at the next message of the NS-VCG. -/
  | request (vc : Nat)
  /-- The NS-VCG looks at the next message of an NSVC. -/
  | indication (vc : Nat)
  | nsCtrl (req : NsCtrl)
  | nsSp (req : NsUdReq)

/-- A request for one NSVC. -/
def NsVcg.sendTo (s : NsVcg) (vc : Nat) (m : VcRequest) : NsVcg :=
  { s with requests := Function.update s.requests vc (s.requests vc ++ [m]) }

/-- `f_broadcast_ns_ctrl` -/
def fBroadcastNsCtrl (s : NsVcg) (req : NsCtrlRequest) : NsVcg :=
  s.ct.nsvcs.foldl (fun s te => s.sendTo te.vcConn (.ctrl req)) s

-- ── The start ────────────────────────────────────────────────────────────────

/-- `f_nsvc_add` together with the component that it starts. -/
def addNsvc (s : NsVcg) (nsvcCfg : NSVCConfiguration) : NsVcg :=
  { s with
    ct := (fNsvcAdd s.ct nsvcCfg s.vcs.length s.ct.ipEndpoints.length).1
    vcs := s.vcs ++ [nsvcStart nsvcCfg s.gConfig] }

/-- The IP configuration of the first NSVC. -/
def firstIp (g : NSConfiguration) : Except Fault NSVCConfigurationIP :=
  match g.nsvc[0]? with
  | none => .error .badIndex
  | some cfg => match cfg.provider with
    | .ip ip => .ok ip
    | .fr _ => .error (.ttcnError "Using non-selected field ip in a value of union type.")

/-- `NSVC.send` without an address. -/
def sendToOnly (s : NsVcg) (m : VcRequest) : Except Fault NsVcg :=
  if s.vcs.length = 1 then .ok (s.sendTo 0 m)
  else .error (.ttcnError "Port NSVC has more than one active connections. Message can be sent on it only with explicit addressing.")

/-- The NSVCI of the NSVC that the sub-network service starts on. -/
def snsNsvci (g : NSConfiguration) : Nsvci := (g.nsvc[0]?.map NSVCConfiguration.nsvci).getD 0

/-- `f_sns_outbound_size_config` up to its first `alt`. -/
def fSnsOutboundSizeConfig (s : NsVcg) : Except Fault NsVcg :=
  (firstIp s.gConfig).bind (fun ip =>
    let size := if ip.addressFamily = .inet then SnsBody.size true 1 (some 1) none
      else SnsBody.size true 1 none (some 1)
    (sendToOnly s (.sns { nsvci := snsNsvci s.gConfig, ns := .sns s.gConfig.nsei size })).map
      (fun s => { s with phase := .sizeAck }))

/-- The component before it has any NSVC. -/
def noNsvcs (initConfig : NSConfiguration) : NsVcg where
  gConfig := initConfig
  ct := NsCt.init initConfig.nsei
  phase := .common
  vcs := []
  requests := fun _ => []

/-- `NSStart` up to its loop. -/
def nsStart (initConfig : NSConfiguration) : Except Fault NsVcg :=
  let s := initConfig.nsvc.foldl addNsvc (noNsvcs initConfig)
  if initConfig.handleSns = true ∧ initConfig.roleSgsn = false then
    fSnsOutboundSizeConfig s
  else .ok s

-- ── What is received from an NSVC ────────────────────────────────────────────

/-- What an alternative does; none if no alternative is for the message. -/
abbrev Received : Type := Option (Except Fault (NsVcg × List NsSpMsg))

section Alternatives

-- `f_inet_addr` and `f_inet6_addr`
variable (inetAddr : AddressFamily → String → List UInt8)

/-- The endpoints of one family; an empty list is left out. -/
def snsIpElems (s : NsVcg) (af : AddressFamily) : Option (List SnsIpElement) :=
  let elems := (s.ct.ipEndpoints.filter (fun ipep => decide (ipep.addressFamily = af))).map
    (fun ipep => { ipAddress := inetAddr af ipep.localIp
                   udpPort := ipep.localUdpPort
                   signallingWeight := ipep.signallingWeight
                   dataWeight := ipep.dataWeight : SnsIpElement })
  if elems = [] then none else some elems

/-- `ts_SNS_CONFIG` with the elements of `gen_sns_ip_elems`. -/
def ownSnsConfig (s : NsVcg) : PduNs :=
  .sns s.gConfig.nsei (.config true (snsIpElems inetAddr s .inet) (snsIpElems inetAddr s .inet6))

/-- `as_ns_common_status` as an alternative. -/
def asNsCommonStatusAlt (s : NsVcg) (rx : NsStatusIndication) : Received :=
  some ((asNsCommonStatus s.ct rx).map (fun r => ({ s with ct := r.1 }, [.status r.2])))

/-- The first `alt` of `f_sns_outbound_size_config`. -/
def expectSizeAck (s : NsVcg) (vc : Nat) : VcIndication → Received
  | .sns sind => match sind.ns with
    | .sns nsei (.sizeAck none) =>
        if nsei = s.gConfig.nsei then
          some (.ok ({ s.sendTo vc (.sns { nsvci := snsNsvci s.gConfig
                                           ns := ownSnsConfig inetAddr s }) with
            phase := .outConfigAck vc }, []))
        else none
    | _ => none
  | .status _ => some (.ok (s, []))
  | .unitdata _ => none

/-- An `alt` that expects a SNS-CONFIG-ACK of the entity. -/
def expectConfigAck (s : NsVcg) (success : NsVcg) : PduNs → Received
  | .sns nsei (.configAck none) =>
      if nsei = s.gConfig.nsei then some (.ok (success, [])) else none
  | .sns nsei (.configAck (some _)) =>
      -- unexpected SNS-CONFIG-NACK
      if nsei = s.gConfig.nsei then some (.ok ({ s with phase := .stopped }, [])) else none
  | _ => none

/-- The second `alt` of `f_sns_outbound_size_config`; `vc'` has the SIZE-ACK
    been from. -/
def expectOutConfigAck (s : NsVcg) (vc' vc : Nat) : VcIndication → Received
  | .status rx => asNsCommonStatusAlt s rx
  | .sns sind =>
      if vc = vc' then expectConfigAck s { s with phase := .common } sind.ns else none
  | .unitdata _ => none

/-- The `alt` in `as_vcg_sns_sgsn`. -/
def expectInConfigAck (s : NsVcg) (nsvci : Nsvci) (vc' vc : Nat) : VcIndication → Received
  | .status rx => asNsCommonStatusAlt s rx
  | .sns sind =>
      if vc = vc' ∧ sind.nsvci = nsvci then
        expectConfigAck s
          (fBroadcastNsCtrl { s with phase := .common } .startAliveProcedure) sind.ns
      else none
  | .unitdata _ => none

/-- `{tr_SNS_IPv4(remote_ip, remote_udp_port)}` -/
def onlyRemote (ip : NSVCConfigurationIP) (elems : List SnsIpElement) : Bool :=
  match elems with
  | [e] => decide (e.ipAddress = inetAddr .inet ip.remoteIp ∧ e.udpPort = ip.remoteUdpPort)
  | _ => false

/-- The alternatives for SNS-CONFIG, which both sides have.  The first one needs
    the address of the first NSVC. -/
def snsConfig (s : NsVcg) (acknowledged : NsVcg) (ns : PduNs) : Received :=
  match firstIp s.gConfig with
  | .error f => some (.error f)
  | .ok ip => match ns with
    | .sns nsei (.config endFlag (some elems) none) =>
        if nsei = s.gConfig.nsei ∧ endFlag = true ∧ onlyRemote inetAddr ip elems = true then
          some (.ok (acknowledged, []))
        else if nsei = s.gConfig.nsei ∧ endFlag = false then some (.ok (s, []))
        else -- unexpected content, or an unexpected NSEI
          some (.ok ({ s with phase := .stopped }, []))
    | _ => none

/-- `ts_SNS_CONFIG_ACK(g_config.nsei, omit)` and the broadcast after it. -/
def acknowledgeConfig (s : NsVcg) (vc : Nat) (sind : SnsIndication) : NsVcg :=
  fBroadcastNsCtrl (s.sendTo vc (.sns
    { nsvci := sind.nsvci, ns := .sns s.gConfig.nsei (.configAck none) })) .forceAliveState

/-- `as_vcg_sns_pcu` -/
def asVcgSnsPcu (s : NsVcg) (vc : Nat) (sind : SnsIndication) : Received :=
  snsConfig inetAddr s
    (fBroadcastNsCtrl (acknowledgeConfig s vc sind) .startAliveProcedure) sind.ns

/-- `as_vcg_sns_sgsn` -/
def asVcgSnsSgsn (s : NsVcg) (vc : Nat) (sind : SnsIndication) : Received :=
  match sind.ns with
  | .sns nsei (.size _ _ (some _) _) =>
      -- blindly acknowledge whatever the PCU sends
      if nsei = s.gConfig.nsei then
        some (.ok (s.sendTo vc (.sns
          { nsvci := sind.nsvci, ns := .sns s.gConfig.nsei (.sizeAck none) }), []))
      else none
  | ns => snsConfig inetAddr s
      { (acknowledgeConfig s vc sind).sendTo vc (.sns
          { nsvci := sind.nsvci, ns := ownSnsConfig inetAddr s }) with
        phase := .inConfigAck sind.nsvci vc } ns

/-- The alternatives of `as_ns_common` for messages of NSVCs. -/
def asNsCommon (s : NsVcg) (vc : Nat) : VcIndication → Received
  | .status rx => asNsCommonStatusAlt s rx
  | .unitdata rx =>
      if rx.nsei = s.gConfig.nsei then some (.ok (s, [.unitdata rx]))
      else some (.error (.shutdown "Received UnitDataInd for invalid NSEI: "))
  | .sns sind =>
      if s.gConfig.handleSns then
        if s.gConfig.roleSgsn then asVcgSnsSgsn inetAddr s vc sind
        else asVcgSnsPcu inetAddr s vc sind
      else none

/-- What the NS-VCG does with an indication, by where it is. -/
def receive (s : NsVcg) (vc : Nat) (m : VcIndication) : Received :=
  match s.phase with
  | .common => asNsCommon inetAddr s vc m
  | .sizeAck => expectSizeAck inetAddr s vc m
  | .outConfigAck vc' => expectOutConfigAck s vc' vc m
  | .inConfigAck nsvci vc' => expectInConfigAck s nsvci vc' vc m
  | .stopped => none

-- ── Steps ────────────────────────────────────────────────────────────────────

/-- An NSVC looks at an event, with `rest` the requests that are left when it
    is taken.  What no alternative is for stays where it is. -/
def vcScans (s : NsVcg) (vc : Nat) (c : NsvcCt) (e : NsvcEvent) (rest : List VcRequest) :
    Except Fault (NsVcg × List NsSpMsg) :=
  match fScanEvents c e with
  | none => .ok (s, [])
  | some r => r.map (fun c' => ({ s with
      vcs := s.vcs.set vc c'
      requests := Function.update s.requests vc rest }, []))

/-- `f_nsvc_find` -/
def fNsvcFindConn (s : NsVcg) (nsvci : Nsvci) : Except Fault Nat :=
  match (fNsvcFindIdx s.ct nsvci).map (fun i => (s.ct.nsvcs.get i).vcConn) with
  | none => .error .badIndex
  | some vcConn => .ok vcConn

/-- The alternatives of `as_ns_common` for NS_CTRL. -/
def nsCtrlRequest (s : NsVcg) : NsCtrl → Except Fault NsVcg
  | .disableVc nsvci => (fNsvcFindConn s nsvci).map (fun vc => s.sendTo vc (.ctrl .disableReq))
  | .enableVc nsvci => (fNsvcFindConn s nsvci).map (fun vc => s.sendTo vc (.ctrl .enableReq))

/-- One step of the NS-VCG and its NSVCs. -/
def nsStep (s : NsVcg) : NsEvent → Except Fault (NsVcg × List NsSpMsg)
  | .nscp vc m => match s.vcs[vc]? with
    | none => .ok (s, [])
    | some c => vcScans s vc c (.nscp m) (s.requests vc)
  | .timeout vc t => match s.vcs[vc]? with
    | none => .ok (s, [])
    | some c => vcScans s vc c (.timeout t) (s.requests vc)
  | .request vc => match s.vcs[vc]?, s.requests vc with
    | some c, m :: rest => vcScans s vc c (.nsSp m) rest
    | _, _ => .ok (s, [])
  | .indication vc => match s.vcs[vc]? with
    | none => .ok (s, [])
    | some c => match c.nsSp with
      | [] => .ok (s, [])
      | m :: rest =>
          match receive inetAddr { s with vcs := s.vcs.set vc { c with nsSp := rest } } vc m with
          | none => .ok (s, [])
          | some r => r
  | .nsCtrl req =>
      if s.phase = .common then (nsCtrlRequest s req).map (fun s' => (s', [])) else .ok (s, [])
  | .nsSp req =>
      -- every alternative has the template `?` for the SDU
      if s.phase = .common ∧ req.sdu.isSome = true then
        (asNsCommonUdReq s.ct req.toNsUnitdataRequest).map
          (fun vc => (s.sendTo vc (.unitdata req), []))
      else .ok (s, [])

end Alternatives

-- ── What the copies are worth ────────────────────────────────────────────────

/-- No other NSVC of the configuration has the NSVCI of the `k`-th. -/
def Sole (cfgs : List NSVCConfiguration) (k : Nat) : Prop :=
  ∀ (j : Nat) cfg cfg', cfgs[j]? = some cfg → cfgs[k]? = some cfg' →
    cfg.nsvci = cfg'.nsvci → j = k

/-- An NSVC before the `k`-th has its NSVCI. -/
def Later (cfgs : List NSVCConfiguration) (k : Nat) : Prop :=
  ∃ (j : Nat) (cfg cfg' : NSVCConfiguration), j < k ∧ cfgs[j]? = some cfg
    ∧ cfgs[k]? = some cfg' ∧ cfg.nsvci = cfg'.nsvci

/-- The `k`-th NSVC is the first of the configuration that has the NSVCI. -/
def FirstOf (cfgs : List NSVCConfiguration) (nsvci : Nsvci) (k : Nat) : Prop :=
  (∃ cfg, cfgs[k]? = some cfg ∧ cfg.nsvci = nsvci)
    ∧ ∀ j, j < k → ∀ cfg, cfgs[j]? = some cfg → cfg.nsvci ≠ nsvci

/-- Every status indication has been delivered. -/
def Settled (s : NsVcg) : Prop :=
  ∀ (k : Nat) c, s.vcs[k]? = some c → statuses c.nsSp = []

/-- The recorded state of each NSVC is its own. -/
def Agrees (s : NsVcg) : Prop :=
  ∀ (k : Nat) te c, s.ct.nsvcs[k]? = some te → s.vcs[k]? = some c → te.state = c.vcState

/-- The number of NSVCs that are unblocked as far as the NS-VCG knows. -/
def unblockedCount (ct : NsCt Nat) : Nat := fCountNsvcsInState ct .aliveUnblocked

/-- The number goes from 0 to 1 or from 1 to 0. -/
def Edge (ct ct' : NsCt Nat) : Prop :=
  (unblockedCount ct = 0 ∧ unblockedCount ct' = 1)
    ∨ (unblockedCount ct = 1 ∧ unblockedCount ct' = 0)

/-- The state that is recorded for an NSVCI. -/
def recorded (ct : NsCt Nat) (nsvci : Nsvci) : Option NsvcState :=
  (fNsvcFindIdx ct nsvci).map (fun i => (ct.nsvcs.get i).state)

/-- The NS-VCG passes status indications to the user. -/
def listens : Phase → Bool
  | .sizeAck => false
  | .stopped => false
  | _ => true

/-- The status indication in a message, if it is passed to the user. -/
def heard (p : Phase) : VcIndication → Option NsStatusIndication
  | .status rx => if listens p then some rx else none
  | _ => none

/-- The status indication that an event passes to the user. -/
def told (s : NsVcg) : NsEvent → Option NsStatusIndication
  | .indication vc => (s.vcs[vc]?.bind (fun c => c.nsSp.head?)).bind (heard s.phase)
  | _ => none

section Statements

variable (inetAddr : AddressFamily → String → List UInt8)

/-- What the user gets is marked iff it is for an edge. -/
def FlagRight (s : NsVcg) (e : NsEvent) : Prop :=
  ∀ s' o tx, nsStep inetAddr s e = .ok (s', o) → NsSpMsg.status tx ∈ o →
    (tx.firstOrLast = true ↔ Edge s.ct s'.ct)

/-- The mark of `as_ns_common_status` is right for an indication: not for one
    that leaves no NSVC unblocked where none was, nor for one that blocks the
    last in another way than by `NSVC_S_DEAD_BLOCKED`. -/
def MarksRight (ct : NsCt Nat) (rx : NsStatusIndication) : Prop :=
  match rx.newState with
  | .aliveUnblocked => True
  | .deadBlocked => unblockedCount ct ≠ 0
  | _ => ¬ (recorded ct rx.nsvci = some .aliveUnblocked ∧ unblockedCount ct = 1)

/-- Whatever is passed to the user is marked right. -/
def MarksTold (s : NsVcg) (e : NsEvent) : Prop :=
  ∀ rx, told s e = some rx → MarksRight s.ct rx

/-- What the user is told of an NSVCI is recorded for the first NSVC that has it,
    and for no other. -/
def RecordedFirst (s : NsVcg) (e : NsEvent) : Prop :=
  ∀ s' o rx, nsStep inetAddr s e = .ok (s', o) → told s e = some rx →
    ∃ k te, FirstOf s.gConfig.nsvc rx.nsvci k ∧ s.ct.nsvcs[k]? = some te
      ∧ s'.ct.nsvcs = s.ct.nsvcs.set k { te with state := rx.newState }

/-- **EXACTLY WHEN THEY AGREE**: with everything delivered, the recorded state
    of an NSVC is right iff the NSVC is not in `NSVC_S_WAIT_RESET`; where an
    NSVCI occurs again, iff the NSVC is dead and blocked, since every indication
    of an NSVCI goes to the first that has it.  The mark of an indication is
    right iff `MarksTold`. -/
structure AgreesWhen (s : NsVcg) (e : NsEvent) : Prop where
  sole : Settled s → ∀ (k : Nat) te c, s.ct.nsvcs[k]? = some te → s.vcs[k]? = some c →
    Sole s.gConfig.nsvc k → (te.state = c.vcState ↔ c.vcState ≠ .waitReset)
  later : Settled s → ∀ (k : Nat) te c, s.ct.nsvcs[k]? = some te → s.vcs[k]? = some c →
    Later s.gConfig.nsvc k → (te.state = c.vcState ↔ c.vcState = .deadBlocked)
  first : RecordedFirst inetAddr s e
  flag : FlagRight inetAddr s e ↔ MarksTold s e

end Statements

-- ── The copies ───────────────────────────────────────────────────────────────

/-- Of a list with one element replaced. -/
theorem getElem?_set_cases {τ : Type} {l : List τ} {a b : τ} {i j : Nat}
    (h : (l.set i a)[j]? = some b) : (j = i ∧ b = a) ∨ (j ≠ i ∧ l[j]? = some b) := by
  by_cases hij : i = j
  · have hlt := (List.getElem?_eq_some_iff.mp h).1
    rw [List.length_set, ← hij] at hlt
    rw [← hij, List.getElem?_set_self hlt] at h
    exact Or.inl ⟨hij.symm, (Option.some.inj h).symm⟩
  · rw [List.getElem?_set_ne hij] at h
    exact Or.inr ⟨fun heq => hij heq.symm, h⟩

/-- The NSVCs are those of the configuration, and each copy tracks its NSVC. -/
structure Copies (g : NSConfiguration) (ct : NsCt Nat) (vcs : List NsvcCt) : Prop where
  nsei : ct.nsei = g.nsei
  tableLen : ct.nsvcs.length = g.nsvc.length
  vcsLen : vcs.length = g.nsvc.length
  cfgs : ∀ (k : Nat) te, ct.nsvcs[k]? = some te → g.nsvc[k]? = some te.cfg
  vcCfgs : ∀ (k : Nat) c, vcs[k]? = some c →
    g.nsvc[k]? = some c.gNsvcConfig ∧ c.gConfig = g
  own : ∀ (k : Nat) c, vcs[k]? = some c → OwnIndications c
  tracks : ∀ (k : Nat) te c, ct.nsvcs[k]? = some te → vcs[k]? = some c →
    Sole g.nsvc k → Tracks Unannounced c.vcState te.state c.pending
  later : ∀ (k : Nat) te, ct.nsvcs[k]? = some te → Later g.nsvc k →
    te.state = .deadBlocked

namespace Copies

variable {g : NSConfiguration} {ct : NsCt Nat} {vcs : List NsvcCt}

/-- One NSVC and the states of the table change. -/
theorem replace (h : Copies g ct vcs) {ct' : NsCt Nat} {k : Nat} {c c' : NsvcCt}
    (hk : vcs[k]? = some c) (hnsei : ct'.nsei = ct.nsei)
    (htable : ct'.nsvcs.map NsvcTableEntry.cfg = ct.nsvcs.map NsvcTableEntry.cfg)
    (hcfg : c'.gNsvcConfig = c.gNsvcConfig ∧ c'.gConfig = c.gConfig)
    (hown : OwnIndications c')
    (htracks : ∀ (j : Nat) te d, ct'.nsvcs[j]? = some te →
      (vcs.set k c')[j]? = some d → Sole g.nsvc j →
      Tracks Unannounced d.vcState te.state d.pending)
    (hlater : ∀ (j : Nat) te, ct'.nsvcs[j]? = some te → Later g.nsvc j →
      te.state = .deadBlocked) :
    Copies g ct' (vcs.set k c') := by
  refine ⟨hnsei.trans h.nsei, ?_, ?_, ?_, ?_, ?_, htracks, hlater⟩
  · have hlen := congrArg List.length htable
    rw [List.length_map, List.length_map] at hlen
    exact hlen.trans h.tableLen
  · rw [List.length_set]
    exact h.vcsLen
  · intro j te hte
    have hmap : (ct.nsvcs.map NsvcTableEntry.cfg)[j]? = some te.cfg := by
      rw [← htable, List.getElem?_map, hte]
      rfl
    rw [List.getElem?_map] at hmap
    obtain ⟨te', hte', hsame⟩ := Option.map_eq_some_iff.mp hmap
    rw [← hsame]
    exact h.cfgs j te' hte'
  · intro j d hd
    rcases getElem?_set_cases hd with ⟨rfl, rfl⟩ | ⟨-, hd⟩
    · rw [hcfg.1, hcfg.2]
      exact h.vcCfgs j c hk
    · exact h.vcCfgs j d hd
  · intro j d hd
    rcases getElem?_set_cases hd with ⟨-, rfl⟩ | ⟨-, hd⟩
    · exact hown
    · exact h.own j d hd

/-- **AN NSVC ACTS.** -/
theorem act (h : Copies g ct vcs) {k : Nat} {c c' : NsvcCt} (hk : vcs[k]? = some c)
    (ha : Acts c c') : Copies g ct (vcs.set k c') := by
  refine h.replace hk rfl rfl ha.config (ha.ownIndications (h.own k c hk)) ?_ h.later
  intro j te d hte hd hsole
  rcases getElem?_set_cases hd with ⟨rfl, rfl⟩ | ⟨-, hd⟩
  · exact ha.tracks (h.tracks j te c hte hk hsole)
  · exact h.tracks j te d hte hd hsole

/-- The entry of an NSVC. -/
theorem entry (h : Copies g ct vcs) {k : Nat} {c : NsvcCt} (hk : vcs[k]? = some c) :
    ∃ te, ct.nsvcs[k]? = some te ∧ te.cfg = c.gNsvcConfig := by
  have hlt : k < ct.nsvcs.length := by
    have := (List.getElem?_eq_some_iff.mp hk).1
    rw [h.tableLen, ← h.vcsLen]
    exact this
  refine ⟨ct.nsvcs[k], List.getElem?_eq_getElem hlt, ?_⟩
  have hcfg := h.cfgs k _ (List.getElem?_eq_getElem hlt)
  rw [(h.vcCfgs k c hk).1] at hcfg
  exact (Option.some.inj hcfg).symm

/-- The first entry with the NSVCI of an NSVC. -/
theorem find (h : Copies g ct vcs) {k : Nat} {c : NsvcCt} (hk : vcs[k]? = some c) :
    ∃ i, fNsvcFindIdx ct c.nsvci = some i := by
  obtain ⟨te, hte, hcfg⟩ := h.entry hk
  cases hfind : fNsvcFindIdx ct c.nsvci with
  | some i => exact ⟨i, rfl⟩
  | none =>
      have hno := List.findFinIdx?_eq_none_iff.mp hfind te (List.mem_of_getElem? hte)
      rw [hcfg] at hno
      exact absurd (decide_eq_true rfl) hno

/-- A state is written where its NSVCI is found. -/
theorem fNsvcUpdateState_found {nsvci : Nsvci} {i : Fin ct.nsvcs.length}
    (hfind : fNsvcFindIdx ct nsvci = some i) (state : NsvcState) :
    (fNsvcUpdateState ct nsvci state).nsvcs
        = ct.nsvcs.set i { ct.nsvcs.get i with state := state }
      ∧ (fNsvcUpdateState ct nsvci state).nsei = ct.nsei := by
  rw [fNsvcUpdateState_eq, hfind]
  exact ⟨rfl, rfl⟩

/-- A new state leaves the configurations alone. -/
theorem map_cfg_set (l : List (NsvcTableEntry Nat)) (i : Fin l.length) (state : NsvcState) :
    (l.set i { l.get i with state := state }).map NsvcTableEntry.cfg
      = l.map NsvcTableEntry.cfg := by
  rw [List.map_set]
  refine List.ext_getElem? (fun j => ?_)
  by_cases hij : i.val = j
  · rw [← hij, List.getElem?_set_self (by rw [List.length_map]; exact i.isLt),
      List.getElem?_map, List.getElem?_eq_getElem i.isLt]
    rfl
  · rw [List.getElem?_set_ne hij]

/-- The entry that is found is the first NSVC with the NSVCI. -/
theorem find_first (h : Copies g ct vcs) {nsvci : Nsvci} {i : Fin ct.nsvcs.length}
    (hfind : fNsvcFindIdx ct nsvci = some i) : FirstOf g.nsvc nsvci i := by
  obtain ⟨hsame, hfirst⟩ := List.findFinIdx?_eq_some_iff.mp hfind
  refine ⟨⟨_, h.cfgs i _ (List.getElem?_eq_getElem i.isLt), of_decide_eq_true hsame⟩, ?_⟩
  intro j hj cfg hcfg heq
  have hjlt : j < ct.nsvcs.length := Nat.lt_trans hj i.isLt
  have hjcfg := h.cfgs j _ (List.getElem?_eq_getElem hjlt)
  rw [hcfg] at hjcfg
  refine absurd (decide_eq_true ?_) (hfirst ⟨j, hjlt⟩ hj)
  exact (congrArg NSVCConfiguration.nsvci (Option.some.inj hjcfg)).symm.trans heq

/-- What is left of an NSVC's indications are its own. -/
theorem own_rest {c : NsvcCt} {rx : NsStatusIndication} {rest : List VcIndication}
    (hown : OwnIndications c) (hsp : c.nsSp = .status rx :: rest) :
    OwnIndications { c with nsSp := rest } := by
  intro ind hind
  refine hown ind ?_
  rw [hsp]
  exact List.mem_cons_of_mem rx hind

/-- The next indication is the first one that is pending. -/
theorem pending_cons {c : NsvcCt} {rx : NsStatusIndication} {rest : List VcIndication}
    (hsp : c.nsSp = .status rx :: rest) :
    c.pending = rx.newState :: { c with nsSp := rest : NsvcCt }.pending := by
  rw [NsvcCt.pending, hsp]
  rfl

/-- **THE NS-VCG RECEIVES** a status indication. -/
theorem deliver (h : Copies g ct vcs) {k : Nat} {c : NsvcCt} {rx : NsStatusIndication}
    {rest : List VcIndication} (hk : vcs[k]? = some c) (hsp : c.nsSp = .status rx :: rest) :
    Copies g (fNsvcUpdateState ct rx.nsvci rx.newState)
      (vcs.set k { c with nsSp := rest }) := by
  have hrx : rx ∈ statuses c.nsSp := by
    rw [hsp]
    exact List.mem_cons_self
  have hnsvci : rx.nsvci = c.nsvci := (h.own k c hk rx hrx).2.1
  obtain ⟨i, hi⟩ := h.find hk
  rw [← hnsvci] at hi
  obtain ⟨htable, hnsei⟩ := fNsvcUpdateState_found hi rx.newState
  -- the entry that is found has the NSVCI, and is the first that has it
  obtain ⟨hsame, -⟩ := List.findFinIdx?_eq_some_iff.mp hi
  have hget : ct.nsvcs[i.val]? = some (ct.nsvcs.get i) :=
    List.getElem?_eq_getElem i.isLt
  have hicfg := h.cfgs i _ hget
  have hkcfg := (h.vcCfgs k c hk).1
  have hik : (ct.nsvcs.get i).cfg.nsvci = c.gNsvcConfig.nsvci :=
    (of_decide_eq_true hsame).trans hnsvci
  refine h.replace hk hnsei (by rw [htable, map_cfg_set]) ⟨rfl, rfl⟩
    (own_rest (h.own k c hk) hsp) ?_ ?_
  · intro j te d hte hd hsole
    rw [htable] at hte
    rcases getElem?_set_cases hd with ⟨rfl, rfl⟩ | ⟨hjk, hd⟩
    · have hij : i.val = j := hsole i _ _ hicfg hkcfg hik
      rcases getElem?_set_cases hte with ⟨-, rfl⟩ | ⟨hne, -⟩
      · have htracks := h.tracks i _ c hget (hij ▸ hk) (hij ▸ hsole)
        rw [pending_cons hsp] at htracks
        exact htracks.deliver
      · exact absurd hij.symm hne
    · rcases getElem?_set_cases hte with ⟨rfl, -⟩ | ⟨-, hte⟩
      · exact absurd (hsole k _ _ hkcfg hicfg hik.symm).symm hjk
      · exact h.tracks j te d hte hd hsole
  · intro j te hte hlater
    rw [htable] at hte
    rcases getElem?_set_cases hte with ⟨rfl, -⟩ | ⟨-, hte⟩
    · obtain ⟨j, cfg, cfg', hlt, hj, hi', hnsvcis⟩ := hlater
      rw [hicfg] at hi'
      refine absurd ?_ ((h.find_first hi).2 j hlt cfg hj)
      rw [hnsvcis, ← Option.some.inj hi']
      exact of_decide_eq_true hsame
    · exact h.later j te hte hlater

/-- **THE NS-VCG DROPS** a status indication that has no news. -/
theorem drop (h : Copies g ct vcs) {k : Nat} {c : NsvcCt} {rx : NsStatusIndication}
    {rest : List VcIndication} (hk : vcs[k]? = some c) (hsp : c.nsSp = .status rx :: rest)
    (hnews : ∀ te ∈ ct.nsvcs, rx.newState = te.state) :
    Copies g ct (vcs.set k { c with nsSp := rest }) := by
  refine h.replace hk rfl rfl ⟨rfl, rfl⟩ (own_rest (h.own k c hk) hsp) ?_ h.later
  intro j te d hte hd hsole
  rcases getElem?_set_cases hd with ⟨rfl, rfl⟩ | ⟨-, hd⟩
  · have htracks := h.tracks j te c hte hk hsole
    rw [pending_cons hsp] at htracks
    exact htracks.drop (hnews te (List.mem_of_getElem? hte))
  · exact h.tracks j te d hte hd hsole

/-- **NOTHING IS ON ITS WAY**: what each copy is worth. -/
theorem settled (h : Copies g ct vcs) {k : Nat} {te : NsvcTableEntry Nat} {c : NsvcCt}
    (hte : ct.nsvcs[k]? = some te) (hk : vcs[k]? = some c) (hnone : statuses c.nsSp = [])
    (hsole : Sole g.nsvc k) : te.state = c.vcState ↔ c.vcState ≠ .waitReset := by
  have htracks := h.tracks k te c hte hk hsole
  rw [NsvcCt.pending, hnone] at htracks
  exact htracks.settled

end Copies

-- ── The mark ─────────────────────────────────────────────────────────────────

/-- The entry of an NSVCI is among those that are counted. -/
theorem unblockedCount_pos {ct : NsCt Nat} {i : Fin ct.nsvcs.length}
    (halive : (ct.nsvcs.get i).state = .aliveUnblocked) : 0 < unblockedCount ct :=
  List.countP_pos_iff.mpr ⟨_, List.get_mem _ i, decide_eq_true halive⟩

/-- An update takes the old state of the entry from the count and adds the new
    one. -/
theorem unblockedCount_update {ct : NsCt Nat} {nsvci : Nsvci} {i : Fin ct.nsvcs.length}
    (hfind : fNsvcFindIdx ct nsvci = some i) (state : NsvcState) :
    unblockedCount (fNsvcUpdateState ct nsvci state)
        + (if (ct.nsvcs.get i).state = .aliveUnblocked then 1 else 0)
      = unblockedCount ct + (if state = .aliveUnblocked then 1 else 0) := by
  have hpos : (if (ct.nsvcs.get i).state = .aliveUnblocked then 1 else 0)
      ≤ unblockedCount ct := by
    by_cases halive : (ct.nsvcs.get i).state = .aliveUnblocked
    · rw [if_pos halive]
      exact unblockedCount_pos halive
    · rw [if_neg halive]
      exact Nat.zero_le _
  have hset := List.countP_set (p := fun te : NsvcTableEntry Nat =>
    decide (te.state = .aliveUnblocked)) (a := { ct.nsvcs.get i with state := state }) i.isLt
  rw [unblockedCount, fCountNsvcsInState, (Copies.fNsvcUpdateState_found hfind state).1, hset]
  simp only [decide_eq_true_eq]
  show _ - (if (ct.nsvcs.get i).state = .aliveUnblocked then 1 else 0) + _ + _ = _
  rw [unblockedCount, fCountNsvcsInState] at hpos ⊢
  omega

/-- None is unblocked if none is counted. -/
theorem noneUnblocked_iff {ct : NsCt Nat} :
    (∀ te ∈ ct.nsvcs, te.state ≠ .aliveUnblocked) ↔ unblockedCount ct = 0 :=
  fCountNsvcsInState_zero.symm

/-- **WHEN THE MARK IS RIGHT**, for an indication that is not marked yet. -/
theorem mark_iff {ct ct' : NsCt Nat} {rx tx : NsStatusIndication}
    {i : Fin ct.nsvcs.length} (hfind : fNsvcFindIdx ct rx.nsvci = some i)
    (hunmarked : rx.firstOrLast = false) (hok : asNsCommonStatus ct rx = .ok (ct', tx)) :
    (tx.firstOrLast = true ↔ Edge ct ct') ↔ MarksRight ct rx := by
  obtain ⟨hct', hmark⟩ := asNsCommonStatus_ok hok
  have hcount := unblockedCount_update hfind rx.newState
  have hct'' : ct' = fNsvcUpdateState ct rx.nsvci rx.newState := hct'
  rw [← hct''] at hcount
  rw [hmark, noneUnblocked_iff, noneUnblocked_iff, hunmarked, Edge, MarksRight, recorded, hfind]
  simp only [Option.map_some, Option.some.injEq]
  by_cases halive : (ct.nsvcs.get i).state = .aliveUnblocked
  · have hpos := unblockedCount_pos halive
    rw [if_pos halive] at hcount
    cases hnew : rx.newState with
    | aliveUnblocked =>
        rw [hnew, if_pos rfl] at hcount
        simp only [Bool.false_eq_true, reduceCtorEq, true_and, false_and, false_or, or_false,
          iff_true]
        omega
    | deadBlocked =>
        rw [hnew, if_neg nofun] at hcount
        simp only [Bool.false_eq_true, reduceCtorEq, true_and, false_and, false_or]
        constructor <;> intro h <;> omega
    | disabled | waitReset | aliveBlocked =>
        rw [hnew, if_neg nofun] at hcount
        simp only [Bool.false_eq_true, reduceCtorEq, false_and, or_false, halive, true_and,
          false_iff]
        omega
  · rw [if_neg halive] at hcount
    cases hnew : rx.newState with
    | aliveUnblocked =>
        rw [hnew, if_pos rfl] at hcount
        simp only [Bool.false_eq_true, reduceCtorEq, true_and, false_and, false_or, or_false,
          iff_true]
        omega
    | deadBlocked =>
        rw [hnew, if_neg nofun] at hcount
        simp only [Bool.false_eq_true, reduceCtorEq, true_and, false_and, false_or]
        constructor <;> intro h <;> omega
    | disabled | waitReset | aliveBlocked =>
        rw [hnew, if_neg nofun] at hcount
        simp only [Bool.false_eq_true, reduceCtorEq, false_and, or_false, halive,
          not_false_eq_true, false_iff, iff_true]
        omega

-- ── What the NS-VCG does with a message ──────────────────────────────────────

/-- Requests and the phase may change, but no SIZE-ACK is expected anew. -/
structure Frame (s s' : NsVcg) : Prop where
  gConfig : s'.gConfig = s.gConfig
  ct : s'.ct = s.ct
  vcs : s'.vcs = s.vcs
  phase : s'.phase = .sizeAck → s.phase = .sizeAck

namespace Frame

variable {s s' s'' : NsVcg}

/-- Nothing changes. -/
theorem refl (s : NsVcg) : Frame s s := ⟨rfl, rfl, rfl, fun h => h⟩

/-- Two changes make one. -/
theorem trans (h : Frame s s') (h' : Frame s' s'') : Frame s s'' :=
  ⟨h'.gConfig.trans h.gConfig, h'.ct.trans h.ct, h'.vcs.trans h.vcs,
    fun hp => h.phase (h'.phase hp)⟩

/-- A request changes nothing that counts. -/
theorem sendTo (h : Frame s s') (vc : Nat) (m : VcRequest) : Frame s (s'.sendTo vc m) :=
  h.trans ⟨rfl, rfl, rfl, fun hp => hp⟩

/-- Nor does another phase, unless it waits for a size. -/
theorem setPhase (h : Frame s s') (p : Phase) (hp : p ≠ .sizeAck) :
    Frame s { s' with phase := p } :=
  h.trans ⟨rfl, rfl, rfl, fun heq => absurd heq hp⟩

/-- Nor does a broadcast. -/
theorem broadcast (h : Frame s s') (req : NsCtrlRequest) :
    Frame s (fBroadcastNsCtrl s' req) := by
  have hloop : ∀ (l : List (NsvcTableEntry Nat)) (s' : NsVcg), Frame s s' →
      Frame s (l.foldl (fun s te => s.sendTo te.vcConn (.ctrl req)) s') := by
    intro l
    induction l with
    | nil => exact fun _ h => h
    | cons te l ih => exact fun s' h => ih _ (h.sendTo te.vcConn (.ctrl req))
  exact hloop s'.ct.nsvcs s' h

end Frame

/-- What receiving a message comes to. -/
structure Hears (s : NsVcg) (m : VcIndication) (r : NsVcg × List NsSpMsg) : Prop where
  gConfig : r.1.gConfig = s.gConfig
  vcs : r.1.vcs = s.vcs
  ct : r.1.ct = (heard s.phase m).elim s.ct
    (fun rx => fNsvcUpdateState s.ct rx.nsvci rx.newState)
  phase : r.1.phase = .sizeAck → s.phase = .sizeAck ∧ r.1.requests = s.requests
  status : ∀ tx, NsSpMsg.status tx ∈ r.2 →
    ∃ rx, heard s.phase m = some rx ∧ asNsCommonStatus s.ct rx = .ok (r.1.ct, tx)

/-- Whatever alternative is taken gives `P`. -/
def Yields (P : NsVcg × List NsSpMsg → Prop) (t : Received) : Prop :=
  ∀ r, t = some (.ok r) → P r

section Yields

variable {P : NsVcg × List NsSpMsg → Prop} {t t' : Received}

/-- An alternative that is not taken yields nothing. -/
theorem yields_none : Yields P none := fun _ h => nomatch h

/-- An error yields nothing. -/
theorem yields_error (f : Fault) : Yields P (some (.error f)) := fun _ h => nomatch h

/-- An alternative that is taken yields its result. -/
theorem yields_some {r : NsVcg × List NsSpMsg} (h : P r) : Yields P (some (.ok r)) := by
  intro r' heq
  rw [← Except.ok.inj (Option.some.inj heq)]
  exact h

/-- Both branches have to yield it. -/
theorem Yields.ite {p : Prop} [Decidable p] (h : Yields P t) (h' : Yields P t') :
    Yields P (if p then t else t') := by
  by_cases hp : p
  · rw [if_pos hp]
    exact h
  · rw [if_neg hp]
    exact h'

end Yields

section Receiving

variable {s s' : NsVcg} {m : VcIndication}

/-- What changes nothing that counts has heard nothing. -/
theorem hears_of_frame (hframe : Frame s s') (hphase : s.phase ≠ .sizeAck)
    (hm : heard s.phase m = none) (o : List NsSpMsg) (ho : ∀ tx, NsSpMsg.status tx ∉ o) :
    Hears s m (s', o) := by
  refine ⟨hframe.gConfig, hframe.vcs, ?_, fun hp => absurd (hframe.phase hp) hphase,
    fun tx htx => absurd htx (ho tx)⟩
  rw [hm]
  exact hframe.ct

/-- A status is heard. -/
theorem asNsCommonStatusAlt_hears {rx : NsStatusIndication} (hlistens : listens s.phase = true) :
    Yields (Hears s (.status rx)) (asNsCommonStatusAlt s rx) := by
  intro r hr
  obtain ⟨⟨ct', tx⟩, hok, rfl⟩ := map_ok (Option.some.inj hr)
  have hheard : heard s.phase (.status rx) = some rx := if_pos hlistens
  refine ⟨rfl, rfl, ?_, fun hp => ?_, fun tx' htx' => ⟨rx, hheard, ?_⟩⟩
  · rw [hheard]
    exact (asNsCommonStatus_ok hok).1
  · have hp' : s.phase = .sizeAck := hp
    rw [hp'] at hlistens
    exact nomatch hlistens
  · rw [NsSpMsg.status.inj (List.mem_singleton.mp htx')]
    exact hok

/-- Waiting for an acknowledgement hears nothing. -/
theorem expectConfigAck_hears (hphase : s.phase ≠ .sizeAck) (hsuccess : Frame s s')
    (hm : heard s.phase m = none) (ns : PduNs) :
    Yields (Hears s m) (expectConfigAck s s' ns) := by
  unfold expectConfigAck
  split
  · exact .ite (yields_some (hears_of_frame hsuccess hphase hm [] nofun)) yields_none
  · exact .ite (yields_some (hears_of_frame ((Frame.refl s).setPhase .stopped nofun) hphase hm
      [] nofun)) yields_none
  · exact yields_none

variable (inetAddr : AddressFamily → String → List UInt8)

/-- Nor does sending a configuration. -/
theorem snsConfig_hears (hphase : s.phase ≠ .sizeAck) (hack : Frame s s')
    (hm : heard s.phase m = none) (ns : PduNs) :
    Yields (Hears s m) (snsConfig inetAddr s s' ns) := by
  unfold snsConfig
  split
  · exact yields_error _
  · split
    · exact .ite (yields_some (hears_of_frame hack hphase hm [] nofun))
        (.ite (yields_some (hears_of_frame (.refl s) hphase hm [] nofun))
          (yields_some (hears_of_frame ((Frame.refl s).setPhase .stopped nofun) hphase hm
            [] nofun)))
    · exact yields_none

/-- Acknowledging changes nothing that counts. -/
theorem acknowledgeConfig_frame (vc : Nat) (sind : SnsIndication) :
    Frame s (acknowledgeConfig s vc sind) :=
  ((Frame.refl s).sendTo vc _).broadcast _

/-- The SGSN hears nothing of the sub-network service. -/
theorem asVcgSnsSgsn_hears (hphase : s.phase ≠ .sizeAck) (vc : Nat) (sind : SnsIndication) :
    Yields (Hears s (.sns sind)) (asVcgSnsSgsn inetAddr s vc sind) := by
  unfold asVcgSnsSgsn
  split
  · exact .ite (yields_some (hears_of_frame ((Frame.refl s).sendTo vc _) hphase rfl [] nofun))
      yields_none
  · refine snsConfig_hears inetAddr hphase ?_ rfl _
    exact ((acknowledgeConfig_frame vc sind).sendTo vc _).setPhase (.inConfigAck _ vc) nofun

/-- What the common alternatives hear. -/
theorem asNsCommon_hears (hphase : s.phase = .common) (vc : Nat) :
    Yields (Hears s m) (asNsCommon inetAddr s vc m) := by
  have hne : s.phase ≠ .sizeAck := by
    rw [hphase]
    nofun
  cases m with
  | status rx =>
      exact asNsCommonStatusAlt_hears (by rw [hphase]; rfl)
  | unitdata rx =>
      refine .ite (yields_some (hears_of_frame (.refl s) hne rfl _ ?_)) (yields_error _)
      exact fun tx htx => nomatch List.mem_singleton.mp htx
  | sns sind =>
      refine .ite (.ite (asVcgSnsSgsn_hears inetAddr hne vc sind) ?_) yields_none
      exact snsConfig_hears inetAddr hne ((acknowledgeConfig_frame vc sind).broadcast _) rfl _

/-- What the NS-VCG hears while it waits for a size. -/
theorem expectSizeAck_hears (hphase : s.phase = .sizeAck) (vc : Nat) :
    Yields (Hears s m) (expectSizeAck inetAddr s vc m) := by
  cases m with
  | status rx =>
      refine yields_some ⟨rfl, rfl, ?_, fun hp => ⟨hp, rfl⟩, fun tx htx => nomatch htx⟩
      rw [hphase]
      rfl
  | unitdata rx => exact yields_none
  | sns sind =>
      simp only [expectSizeAck]
      split
      · refine .ite (yields_some ?_) yields_none
        exact ⟨rfl, rfl, rfl, (fun hp => nomatch hp), nofun⟩
      · exact yields_none

/-- **WHAT RECEIVING A MESSAGE COMES TO**, in every phase. -/
theorem receive_hears (vc : Nat) : Yields (Hears s m) (receive inetAddr s vc m) := by
  unfold receive
  split
  case h_1 hphase => exact asNsCommon_hears inetAddr hphase vc
  case h_2 hphase => exact expectSizeAck_hears inetAddr hphase vc
  case h_3 vc' hphase =>
    have hne : s.phase ≠ .sizeAck := by
      rw [hphase]
      nofun
    cases m with
    | status rx => exact asNsCommonStatusAlt_hears (by rw [hphase]; rfl)
    | unitdata rx => exact yields_none
    | sns sind =>
        exact .ite (expectConfigAck_hears hne ((Frame.refl s).setPhase .common nofun) rfl _)
          yields_none
  case h_4 nsvci vc' hphase =>
    have hne : s.phase ≠ .sizeAck := by
      rw [hphase]
      nofun
    cases m with
    | status rx => exact asNsCommonStatusAlt_hears (by rw [hphase]; rfl)
    | unitdata rx => exact yields_none
    | sns sind =>
        refine .ite (expectConfigAck_hears hne ?_ rfl _) yields_none
        exact ((Frame.refl s).setPhase .common nofun).broadcast _
  case h_5 => exact yields_none

end Receiving

-- ── One step ─────────────────────────────────────────────────────────────────

/-- While the SIZE-ACK is expected, no NSVC has been told to be alive. -/
structure Idle (s : NsVcg) : Prop where
  vcs : ∀ (k : Nat) c, s.vcs[k]? = some c → NotYetAlive c
  requests : ∀ vc r, VcRequest.ctrl r ∉ s.requests vc
  table : ∀ te ∈ s.ct.nsvcs, te.state = .deadBlocked

/-- The NS-VCG has true copies, and is idle while it waits for a size. -/
structure VcgOk (s : NsVcg) : Prop where
  copies : Copies s.gConfig s.ct s.vcs
  idle : s.phase = .sizeAck → Idle s

namespace VcgOk

variable {s s' : NsVcg}

/-- Only requests and the phase change. -/
theorem frame (h : VcgOk s) (hframe : Frame s s') (hphase : s.phase ≠ .sizeAck) :
    VcgOk s' := by
  refine ⟨?_, fun hp => absurd (hframe.phase hp) hphase⟩
  rw [hframe.gConfig, hframe.ct, hframe.vcs]
  exact h.copies

/-- An NSVC looks at an event. -/
theorem scans (h : VcgOk s) {vc : Nat} {c : NsvcCt} {e : NsvcEvent}
    {rest : List VcRequest} {o : List NsSpMsg} (hk : s.vcs[vc]? = some c)
    (hrest : ∀ m ∈ rest, m ∈ s.requests vc)
    (he : ∀ r, e = .nsSp (.ctrl r) → .ctrl r ∈ s.requests vc)
    (hstep : vcScans s vc c e rest = .ok (s', o)) : VcgOk s' := by
  rw [vcScans] at hstep
  cases hscan : fScanEvents c e with
  | none =>
      rw [hscan] at hstep
      rw [← (Prod.mk.inj (Except.ok.inj hstep)).1]
      exact h
  | some r =>
      rw [hscan] at hstep
      obtain ⟨c', rfl, heq⟩ := map_ok hstep
      rw [← (Prod.mk.inj heq).1]
      refine ⟨h.copies.act hk (fScanEvents_acts hscan), fun hp => ⟨?_, ?_, (h.idle hp).table⟩⟩
      · intro j d hd
        rcases getElem?_set_cases hd with ⟨-, rfl⟩ | ⟨-, hd⟩
        · exact ((h.idle hp).vcs vc c hk).scanEvents
            (fun r heq => (h.idle hp).requests vc r (he r heq)) hscan
        · exact (h.idle hp).vcs j d hd
      · intro vc' r hr
        by_cases hvc : vc' = vc
        · have hr' : VcRequest.ctrl r ∈ rest := by
            rw [hvc] at hr
            exact (Function.update_self vc rest s.requests) ▸ hr
          exact (h.idle hp).requests vc r (hrest _ hr')
        · have hr' : VcRequest.ctrl r ∈ s.requests vc' :=
            (Function.update_of_ne hvc rest s.requests) ▸ hr
          exact (h.idle hp).requests vc' r hr'

/-- Nothing is received once it has stopped. -/
theorem receive_stopped (inetAddr : AddressFamily → String → List UInt8) (s : NsVcg)
    (vc : Nat) (m : VcIndication) (hp : s.phase = .stopped) :
    receive inetAddr s vc m = none := by
  rw [receive, hp]

/-- A message that is taken, in any phase but the last, updates the copy, or has
    no news. -/
theorem taken (h : VcgOk s) {vc : Nat} {c : NsvcCt} {m : VcIndication}
    {rest : List VcIndication} (hk : s.vcs[vc]? = some c) (hsp : c.nsSp = m :: rest)
    (hp : s.phase ≠ .stopped) :
    Copies s.gConfig ((heard s.phase m).elim s.ct
        (fun rx => fNsvcUpdateState s.ct rx.nsvci rx.newState))
      (s.vcs.set vc { c with nsSp := rest }) := by
  cases m with
  | status rx =>
      by_cases hlistens : listens s.phase = true
      · rw [heard, if_pos hlistens]
        exact h.copies.deliver hk hsp
      · rw [heard, if_neg hlistens]
        have hsize : s.phase = .sizeAck := by
          cases hphase : s.phase with
          | sizeAck => rfl
          | stopped => exact absurd hphase hp
          | common | outConfigAck | inConfigAck =>
              rw [hphase] at hlistens
              exact absurd rfl hlistens
        refine h.copies.drop hk hsp (fun te hte => ?_)
        rw [(h.idle hsize).table te hte]
        refine ((h.idle hsize).vcs vc c hk).pending rx.newState ?_
        rw [Copies.pending_cons hsp]
        exact List.mem_cons_self
  | unitdata rx | sns rx =>
      refine h.copies.act hk (.quiet rfl rfl rfl ?_)
      rw [hsp]
      rfl

/-- The NS-VCG looks at a message. -/
theorem hears {inetAddr : AddressFamily → String → List UInt8} (h : VcgOk s) {vc : Nat}
    {c : NsvcCt} {m : VcIndication} {rest : List VcIndication} {o : List NsSpMsg}
    (hk : s.vcs[vc]? = some c) (hsp : c.nsSp = m :: rest)
    (hstep : receive inetAddr { s with vcs := s.vcs.set vc { c with nsSp := rest } } vc m
      = some (.ok (s', o))) : VcgOk s' := by
  have hrunning : s.phase ≠ .stopped := by
    intro hp
    exact nomatch hstep.symm.trans (receive_stopped inetAddr _ vc m hp)
  have hhears := receive_hears inetAddr vc _ hstep
  refine ⟨?_, fun hp => ?_⟩
  · rw [hhears.gConfig, hhears.vcs, hhears.ct]
    exact h.taken hk hsp hrunning
  · obtain ⟨hsize, hrequests⟩ := hhears.phase hp
    have hidle := h.idle hsize
    have hct : s'.ct = s.ct := by
      rw [hhears.ct, hsize]
      cases m with
      | status rx | unitdata rx | sns rx => rfl
    refine ⟨fun j d hd => ?_, fun vc' r => ?_, ?_⟩
    · rw [hhears.vcs] at hd
      rcases getElem?_set_cases hd with ⟨-, rfl⟩ | ⟨-, hd⟩
      · have hc := hidle.vcs vc c hk
        refine ⟨hc.sns, hc.ip, hc.state, hc.noAlive, hc.noTest, fun st hst => ?_⟩
        refine hc.pending st ?_
        rw [NsvcCt.pending, hsp]
        exact List.mem_map.mpr ((List.mem_map.mp hst).imp
          (fun ind hind => ⟨statuses_cons_subset hind.1, hind.2⟩))
      · exact hidle.vcs j d hd
    · rw [hrequests]
      exact hidle.requests vc' r
    · rw [hct]
      exact hidle.table

end VcgOk

/-- What one event can lead to. -/
inductive StepCases (inetAddr : AddressFamily → String → List UInt8) (s : NsVcg)
    (e : NsEvent) (s' : NsVcg) (o : List NsSpMsg) : Prop where
  | stays (hs : s' = s) (ho : o = [])
  | scans (vc : Nat) (c : NsvcCt) (ev : NsvcEvent) (rest : List VcRequest)
      (hk : s.vcs[vc]? = some c) (hrest : ∀ m ∈ rest, m ∈ s.requests vc)
      (hev : ∀ r, ev = .nsSp (.ctrl r) → .ctrl r ∈ s.requests vc)
      (hstep : vcScans s vc c ev rest = .ok (s', o))
  | hears (vc : Nat) (c : NsvcCt) (m : VcIndication) (rest : List VcIndication)
      (he : e = .indication vc) (hk : s.vcs[vc]? = some c) (hsp : c.nsSp = m :: rest)
      (hstep : receive inetAddr { s with vcs := s.vcs.set vc { c with nsSp := rest } } vc m
        = some (.ok (s', o)))
  | requests (hframe : Frame s s') (hphase : s.phase = .common) (ho : o = [])

section Steps

variable {inetAddr : AddressFamily → String → List UInt8} {s s' : NsVcg} {e : NsEvent}
variable {o : List NsSpMsg}

/-- A step that does nothing. -/
theorem stepCases_stays
    (h : (Except.ok (s, []) : Except Fault (NsVcg × List NsSpMsg)) = .ok (s', o)) :
    StepCases inetAddr s e s' o :=
  .stays (Prod.mk.inj (Except.ok.inj h)).1.symm (Prod.mk.inj (Except.ok.inj h)).2.symm

/-- **ONE STEP**, taken apart. -/
theorem nsStep_cases (h : nsStep inetAddr s e = .ok (s', o)) :
    StepCases inetAddr s e s' o := by
  cases e with
  | nscp vc m =>
      rw [nsStep] at h
      cases hk : s.vcs[vc]? with
      | none =>
          rw [hk] at h
          exact stepCases_stays h
      | some c =>
          rw [hk] at h
          exact .scans vc c (.nscp m) _ hk (fun _ hm => hm) nofun h
  | timeout vc t =>
      rw [nsStep] at h
      cases hk : s.vcs[vc]? with
      | none =>
          rw [hk] at h
          exact stepCases_stays h
      | some c =>
          rw [hk] at h
          exact .scans vc c (.timeout t) _ hk (fun _ hm => hm) nofun h
  | request vc =>
      rw [nsStep] at h
      cases hk : s.vcs[vc]? with
      | none =>
          rw [hk] at h
          exact stepCases_stays h
      | some c =>
          cases hreq : s.requests vc with
          | nil =>
              rw [hk, hreq] at h
              exact stepCases_stays h
          | cons m rest =>
              rw [hk, hreq] at h
              refine .scans vc c (.nsSp m) rest hk ?_ ?_ h
              · intro m' hm'
                rw [hreq]
                exact List.mem_cons_of_mem m hm'
              · intro r hr
                rw [hreq, NsvcEvent.nsSp.inj hr]
                exact List.mem_cons_self
  | indication vc =>
      rw [nsStep] at h
      cases hk : s.vcs[vc]? with
      | none =>
          rw [hk] at h
          exact stepCases_stays h
      | some c =>
          cases hsp : c.nsSp with
          | nil =>
              simp only [hk, hsp] at h
              exact stepCases_stays h
          | cons m rest =>
              simp only [hk, hsp] at h
              cases hr : receive inetAddr
                  { s with vcs := s.vcs.set vc { c with nsSp := rest } } vc m with
              | none =>
                  rw [hr] at h
                  exact stepCases_stays h
              | some r =>
                  rw [hr] at h
                  have h' : r = .ok (s', o) := h
                  exact .hears vc c m rest rfl hk hsp (hr.trans (congrArg some h'))
  | nsCtrl req =>
      rw [nsStep] at h
      by_cases hp : s.phase = .common
      · rw [if_pos hp] at h
        obtain ⟨s1, hreq, heq⟩ := map_ok h
        obtain ⟨rfl, rfl⟩ := Prod.mk.inj heq
        cases req with
        | disableVc nsvci | enableVc nsvci =>
            obtain ⟨vc, -, rfl⟩ := map_ok hreq
            exact .requests ((Frame.refl s).sendTo vc _) hp rfl
      · rw [if_neg hp] at h
        exact stepCases_stays h
  | nsSp req =>
      rw [nsStep] at h
      by_cases hp : s.phase = .common ∧ req.sdu.isSome = true
      · rw [if_pos hp] at h
        obtain ⟨vc, -, heq⟩ := map_ok h
        obtain ⟨rfl, rfl⟩ := Prod.mk.inj heq
        exact .requests ((Frame.refl s).sendTo vc _) hp.1 rfl
      · rw [if_neg hp] at h
        exact stepCases_stays h

/-- **ONE STEP KEEPS IT ALL.** -/
theorem VcgOk.step (h : VcgOk s) (hstep : nsStep inetAddr s e = .ok (s', o)) : VcgOk s' := by
  cases nsStep_cases hstep with
  | stays hs ho =>
      rw [hs]
      exact h
  | scans vc c ev rest hk hrest hev hscan => exact h.scans hk hrest hev hscan
  | hears vc c m rest he hk hsp hreceive => exact h.hears hk hsp hreceive
  | requests hframe hphase ho =>
      refine h.frame hframe ?_
      rw [hphase]
      nofun

-- ── The marks ────────────────────────────────────────────────────────────────

/-- What an NSVC does the user does not see. -/
theorem vcScans_silent {vc : Nat} {c : NsvcCt} {ev : NsvcEvent} {rest : List VcRequest}
    (h : vcScans s vc c ev rest = .ok (s', o)) : o = [] := by
  rw [vcScans] at h
  cases hscan : fScanEvents c ev with
  | none =>
      rw [hscan] at h
      exact (Prod.mk.inj (Except.ok.inj h)).2.symm
  | some r =>
      rw [hscan] at h
      obtain ⟨c', -, heq⟩ := map_ok h
      exact (Prod.mk.inj heq).2.symm

/-- What an NSVC has told is what was first in its queue. -/
theorem told_indication {vc : Nat} {c : NsvcCt} {m : VcIndication} {rest : List VcIndication}
    (hk : s.vcs[vc]? = some c) (hsp : c.nsSp = m :: rest) :
    told s (.indication vc) = heard s.phase m := by
  rw [told, hk, Option.bind_some, hsp]
  rfl

/-- The user is told what `as_ns_common_status` makes of an indication, and
    nothing else. -/
theorem nsStep_status {tx : NsStatusIndication} (hstep : nsStep inetAddr s e = .ok (s', o))
    (htx : NsSpMsg.status tx ∈ o) :
    ∃ rx, told s e = some rx ∧ asNsCommonStatus s.ct rx = .ok (s'.ct, tx) := by
  cases nsStep_cases hstep with
  | stays hs ho =>
      rw [ho] at htx
      exact nomatch htx
  | scans vc c ev rest hk hrest hev hscan =>
      rw [vcScans_silent hscan] at htx
      exact nomatch htx
  | hears vc c m rest he hk hsp hreceive =>
      obtain ⟨rx, hrx, hok⟩ := (receive_hears inetAddr vc _ hreceive).status tx htx
      refine ⟨rx, ?_, hok⟩
      rw [he, told_indication hk hsp]
      exact hrx
  | requests hframe hphase ho =>
      rw [ho] at htx
      exact nomatch htx

/-- An event that tells is for a status indication at the head of a queue. -/
theorem told_eq_some {rx : NsStatusIndication} (h : told s e = some rx) :
    ∃ vc c rest, e = .indication vc ∧ s.vcs[vc]? = some c
      ∧ c.nsSp = .status rx :: rest ∧ listens s.phase = true := by
  cases e with
  | indication vc =>
      obtain ⟨m, hm, hheard⟩ := Option.bind_eq_some_iff.mp h
      obtain ⟨c, hk, hhead⟩ := Option.bind_eq_some_iff.mp hm
      obtain ⟨rest, hsp⟩ := List.head?_eq_some_iff.mp hhead
      cases m with
      | status rx' =>
          rw [heard] at hheard
          by_cases hlistens : listens s.phase = true
          · rw [if_pos hlistens] at hheard
            rw [Option.some.inj hheard] at hsp
            exact ⟨vc, c, rest, rfl, hk, hsp, hlistens⟩
          · rw [if_neg hlistens] at hheard
            exact nomatch hheard
      | unitdata ind => exact nomatch hheard
      | sns ind => exact nomatch hheard
  | nscp vc m => exact nomatch h
  | timeout vc t => exact nomatch h
  | request vc => exact nomatch h
  | nsCtrl req => exact nomatch h
  | nsSp req => exact nomatch h

/-- A status is received wherever one is listened to. -/
theorem receive_status (vc : Nat) (rx : NsStatusIndication) (hlistens : listens s.phase = true) :
    receive inetAddr s vc (.status rx) = asNsCommonStatusAlt s rx := by
  rw [receive]
  cases hphase : s.phase with
  | sizeAck | stopped =>
      rw [hphase] at hlistens
      exact nomatch hlistens
  | common | outConfigAck vc' | inConfigAck nsvci vc' => rfl

/-- **WHERE IT IS RECORDED**: at the first NSVC that has the NSVCI. -/
theorem recordedFirst (h : VcgOk s) : RecordedFirst inetAddr s e := by
  intro s' o rx hstep htold
  obtain ⟨vc, c, rest, rfl, hk, hsp, hlistens⟩ := told_eq_some htold
  have hreceive : receive inetAddr { s with vcs := s.vcs.set vc { c with nsSp := rest } } vc
      (.status rx) = asNsCommonStatusAlt _ rx := receive_status vc rx hlistens
  rw [nsStep] at hstep
  simp only [hk, hsp] at hstep
  rw [hreceive, asNsCommonStatusAlt] at hstep
  obtain ⟨⟨ct', tx⟩, hok, heq⟩ := map_ok hstep
  have hct : s'.ct = fNsvcUpdateState s.ct rx.nsvci rx.newState := by
    rw [← (Prod.mk.inj heq).1]
    exact (asNsCommonStatus_ok hok).1
  have hrx : rx ∈ statuses c.nsSp := by
    rw [hsp]
    exact List.mem_cons_self
  obtain ⟨i, hi⟩ := h.copies.find hk
  rw [← (h.copies.own vc c hk rx hrx).2.1] at hi
  refine ⟨i, s.ct.nsvcs.get i, h.copies.find_first hi, List.getElem?_eq_getElem i.isLt, ?_⟩
  rw [hct]
  exact (Copies.fNsvcUpdateState_found hi rx.newState).1

/-- A status of the right NSE is always taken. -/
theorem asNsCommonStatus_total {ct : NsCt Nat} {rx : NsStatusIndication}
    (hnsei : rx.nsei = ct.nsei) : ∃ r, asNsCommonStatus ct rx = .ok r := by
  rw [asNsCommonStatus, if_neg (not_not.mpr hnsei)]
  cases rx.newState with
  | aliveUnblocked | deadBlocked => exact ⟨_, (apply_ite Except.ok _ _ _).symm⟩
  | disabled | waitReset | aliveBlocked => exact ⟨_, rfl⟩

/-- **THE MARK OF A STEP** is right iff what is told is marked right. -/
theorem flagRight_iff (h : VcgOk s) : FlagRight inetAddr s e ↔ MarksTold s e := by
  have hmark : ∀ rx ct' tx, told s e = some rx → asNsCommonStatus s.ct rx = .ok (ct', tx) →
      ((tx.firstOrLast = true ↔ Edge s.ct ct') ↔ MarksRight s.ct rx) := by
    intro rx ct' tx htold hok
    obtain ⟨vc, c, rest, -, hk, hsp, -⟩ := told_eq_some htold
    have hrx : rx ∈ statuses c.nsSp := by
      rw [hsp]
      exact List.mem_cons_self
    obtain ⟨-, hnsvci, hunmarked⟩ := h.copies.own vc c hk rx hrx
    obtain ⟨i, hi⟩ := h.copies.find hk
    rw [← hnsvci] at hi
    exact mark_iff hi hunmarked hok
  constructor
  · intro hflag rx htold
    obtain ⟨vc, c, rest, rfl, hk, hsp, hlistens⟩ := told_eq_some htold
    have hrx : rx ∈ statuses c.nsSp := by
      rw [hsp]
      exact List.mem_cons_self
    have hnsei : rx.nsei = s.ct.nsei := by
      rw [(h.copies.own vc c hk rx hrx).1, h.copies.nsei, NsvcCt.nsei,
        (h.copies.vcCfgs vc c hk).2]
    obtain ⟨⟨ct', tx⟩, hok⟩ := asNsCommonStatus_total hnsei
    refine (hmark rx ct' tx htold hok).mp ?_
    refine hflag { s with vcs := s.vcs.set vc { c with nsSp := rest }, ct := ct' }
      [.status tx] tx ?_ (List.mem_singleton.mpr rfl)
    have hreceive : receive inetAddr { s with vcs := s.vcs.set vc { c with nsSp := rest } } vc
        (.status rx) = asNsCommonStatusAlt _ rx := receive_status vc rx hlistens
    rw [nsStep]
    simp only [hk, hsp]
    rw [hreceive, asNsCommonStatusAlt]
    show (asNsCommonStatus s.ct rx).map _ = _
    rw [hok]
    rfl
  · intro htold s' o tx hstep htx
    obtain ⟨rx, hrx, hok⟩ := nsStep_status hstep htx
    exact (hmark rx s'.ct tx hrx hok).mpr (htold rx hrx)

end Steps

-- ── The start ────────────────────────────────────────────────────────────────

/-- The entity when the NSVCs `cfgs` have been added. -/
structure Added (g : NSConfiguration) (cfgs : List NSVCConfiguration) (s : NsVcg) : Prop where
  gConfig : s.gConfig = g
  phase : s.phase = .common
  requests : ∀ vc, s.requests vc = []
  nsei : s.ct.nsei = g.nsei
  table : s.ct.nsvcs.map NsvcTableEntry.cfg = cfgs
  dead : ∀ te ∈ s.ct.nsvcs, te.state = .deadBlocked
  vcs : s.vcs = cfgs.map (fun cfg => nsvcStart cfg g)

/-- A new NSVC leaves the NSEI alone. -/
theorem fNsvcAdd_nsei (ct : NsCt Nat) (cfg : NSVCConfiguration) (vcConn created : Nat) :
    (fNsvcAdd ct cfg vcConn created).1.nsei = ct.nsei := by
  rw [fNsvcAdd]
  cases cfg.provider with
  | fr fr => rfl
  | ip ip =>
      simp only [fIpepFindOrCreate]
      cases fIpepFind ct ip.addressFamily ip.localUdpPort ip.localIp with
      | none => rfl
      | some ipep => rfl

/-- One NSVC more was added. -/
theorem Added.snoc {g : NSConfiguration} {cfgs : List NSVCConfiguration} {s : NsVcg}
    (h : Added g cfgs s) (cfg : NSVCConfiguration) : Added g (cfgs ++ [cfg]) (addNsvc s cfg) := by
  have htable := (fNsvcAdd_eq s.ct cfg s.vcs.length s.ct.ipEndpoints.length).1
  refine ⟨h.gConfig, h.phase, h.requests, (fNsvcAdd_nsei _ _ _ _).trans h.nsei, ?_, ?_, ?_⟩
  · show List.map _ (fNsvcAdd s.ct cfg _ _).1.nsvcs = _
    rw [htable, List.map_append, h.table]
    rfl
  · intro te hte
    have hte' : te ∈ (fNsvcAdd s.ct cfg s.vcs.length s.ct.ipEndpoints.length).1.nsvcs := hte
    rw [htable] at hte'
    rcases List.mem_append.mp hte' with hold | hnew
    · exact h.dead te hold
    · rw [List.mem_singleton.mp hnew]
  · show s.vcs ++ [nsvcStart cfg s.gConfig] = _
    rw [h.vcs, h.gConfig, List.map_append]
    rfl

/-- All of the configuration were added. -/
theorem added_foldl {g : NSConfiguration} : ∀ (l cfgs : List NSVCConfiguration) (s : NsVcg),
    Added g cfgs s → Added g (cfgs ++ l) (l.foldl addNsvc s) := by
  intro l
  induction l with
  | nil =>
      intro cfgs s h
      rw [List.append_nil]
      exact h
  | cons cfg l ih =>
      intro cfgs s h
      have h' := ih (cfgs ++ [cfg]) (addNsvc s cfg) (h.snoc cfg)
      rw [List.append_assoc] at h'
      exact h'

/-- With all NSVCs added, and before anything else, each copy tracks its
    NSVC. -/
theorem Added.copies {g : NSConfiguration} {s : NsVcg} (h : Added g g.nsvc s) :
    Copies s.gConfig s.ct s.vcs := by
  have hvc : ∀ (k : Nat) c, s.vcs[k]? = some c →
      ∃ cfg, g.nsvc[k]? = some cfg ∧ nsvcStart cfg g = c := by
    intro k c hk
    rw [h.vcs, List.getElem?_map] at hk
    exact Option.map_eq_some_iff.mp hk
  rw [h.gConfig]
  refine ⟨h.nsei, ?_, ?_, ?_, ?_, ?_, ?_, ?_⟩
  · rw [← h.table, List.length_map]
  · rw [h.vcs, List.length_map]
  · intro k te hte
    rw [← h.table, List.getElem?_map, hte]
    rfl
  · intro k c hk
    obtain ⟨cfg, hcfg, rfl⟩ := hvc k c hk
    exact ⟨hcfg, rfl⟩
  · intro k c hk
    obtain ⟨cfg, hcfg, rfl⟩ := hvc k c hk
    exact nsvcStart_ownIndications cfg g
  · intro k te c hte hk _
    obtain ⟨cfg, hcfg, rfl⟩ := hvc k c hk
    rw [h.dead te (List.mem_of_getElem? hte)]
    exact nsvcStart_tracks cfg g
  · intro k te hte _
    exact h.dead te (List.mem_of_getElem? hte)

/-- The first NSVC of the configuration is one over UDP. -/
theorem firstIp_ok {g : NSConfiguration} {ip : NSVCConfigurationIP} (h : firstIp g = .ok ip) :
    ∃ cfg, g.nsvc[0]? = some cfg ∧ ischosenIp cfg = true := by
  rw [firstIp] at h
  cases hcfg : g.nsvc[0]? with
  | none =>
      rw [hcfg] at h
      exact nomatch h
  | some cfg =>
      rw [hcfg] at h
      refine ⟨cfg, rfl, ?_⟩
      cases hp : cfg.provider with
      | ip ip => rw [ischosenIp, hp]
      | fr fr =>
          simp only [hp] at h
          exact nomatch h

/-- **THE START**, with or without the sub-network service. -/
theorem nsStart_ok {g : NSConfiguration} {s : NsVcg} (h : nsStart g = .ok s) : VcgOk s := by
  have hnone : Added g [] (noNsvcs g) := ⟨rfl, rfl, fun _ => rfl, rfl, rfl, nofun, rfl⟩
  have hadded : Added g g.nsvc (g.nsvc.foldl addNsvc (noNsvcs g)) :=
    added_foldl g.nsvc [] (noNsvcs g) hnone
  rw [nsStart] at h
  by_cases hsns : g.handleSns = true ∧ g.roleSgsn = false
  · rw [if_pos hsns, fSnsOutboundSizeConfig] at h
    obtain ⟨ip, hip, h⟩ := bind_ok h
    rw [hadded.gConfig] at hip
    obtain ⟨cfg, hcfg, hchosen⟩ := firstIp_ok hip
    obtain ⟨s1, hs1, rfl⟩ := map_ok h
    rw [sendToOnly] at hs1
    by_cases hone : (g.nsvc.foldl addNsvc (noNsvcs g)).vcs.length = 1
    · rw [if_pos hone] at hs1
      rw [← Except.ok.inj hs1]
      refine ⟨hadded.copies, fun _ => ⟨?_, ?_, hadded.dead⟩⟩
      · -- there is one NSVC, the first
        intro k c hk
        have hk' : (g.nsvc.map (fun cfg => nsvcStart cfg g))[k]? = some c := hadded.vcs ▸ hk
        have hlt := (List.getElem?_eq_some_iff.mp hk').1
        rw [← hadded.vcs, hone] at hlt
        have hzero : k = 0 := by omega
        rw [hzero, List.getElem?_map, hcfg] at hk'
        rw [← Option.some.inj hk']
        exact nsvcStart_notYetAlive hsns.1 hchosen
      · intro vc r hr
        have hr' : VcRequest.ctrl r ∈ Function.update
            (g.nsvc.foldl addNsvc (noNsvcs g)).requests 0 _ vc := hr
        by_cases hvc : vc = 0
        · rw [hvc, Function.update_self, hadded.requests] at hr'
          exact nomatch List.mem_singleton.mp hr'
        · rw [Function.update_of_ne hvc, hadded.requests] at hr'
          exact nomatch hr'
    · rw [if_neg hone] at hs1
      exact nomatch hs1
  · rw [if_neg hsns] at h
    rw [← Except.ok.inj h]
    refine ⟨hadded.copies, fun hp => ?_⟩
    rw [hadded.phase] at hp
    exact nomatch hp

-- ── Runs ─────────────────────────────────────────────────────────────────────

/-- The invariant says when the copies agree. -/
theorem VcgOk.agreesWhen {inetAddr : AddressFamily → String → List UInt8} {s : NsVcg}
    (h : VcgOk s) (e : NsEvent) : AgreesWhen inetAddr s e := by
  refine ⟨?_, ?_, recordedFirst h, flagRight_iff h⟩
  · intro hsettled k te c hte hk hsole
    exact h.copies.settled hte hk (hsettled k c hk) hsole
  · intro _ k te c hte _ hlater
    rw [h.copies.later k te hte hlater]
    exact eq_comm

/-- **AGREEMENT**: in every state of every run of every configuration, and for
    every next event. -/
theorem ns_agreement (inetAddr : AddressFamily → String → List UInt8) (g : NSConfiguration)
    (s0 : NsVcg) (h : nsStart g = .ok s0) (es : List NsEvent) :
    Guarded (nsStep inetAddr) (AgreesWhen inetAddr) s0 es :=
  guarded_of_inv (fun _ e hok => hok.agreesWhen e)
    (fun _ _ _ _ hok hstep => hok.step hstep) es s0 (nsStart_ok h)

/-- One NSVC over Frame Relay, for the BSS side. -/
def bssConfig : NSConfiguration where
  nsei := 2342
  roleSgsn := false
  handleSns := false
  nsvc := [{ provider := .fr { netdev := "hdlc1", dlci := 16 }, nsvci := 1 }]

/-- The NSVC and the component before anything happens. -/
def bssStarted : NsVcg :=
  addNsvc (noNsvcs bssConfig) { provider := .fr { netdev := "hdlc1", dlci := 16 }, nsvci := 1 }

/-- The first indication is delivered, then the link comes up. -/
def linkComesUp : List NsEvent := [.indication 0, .nscp 0 (.linkStatus .up), .timeout 0 .tnsTest]

/-- A link that comes up. -/
theorem ns_agreement_linkComesUp :
    Guarded (nsStep (fun _ _ => [])) (AgreesWhen (fun _ _ => [])) bssStarted linkComesUp :=
  ns_agreement (fun _ _ => []) bssConfig bssStarted rfl linkComesUp

/-- The link comes up and nobody is told: with nothing on its way the NSVC
    waits for the NS-RESET-ACK, and is recorded as dead and blocked.  And the
    indication before that is marked, without any NSVC unblocked before or
    after. -/
theorem linkUp_notTold :
    ¬ Guarded (nsStep (fun _ _ => [])) (fun s _ => Settled s → Agrees s) bssStarted linkComesUp
      ∧ ¬ Guarded (nsStep (fun _ _ => [])) (FlagRight (fun _ _ => [])) bssStarted
          linkComesUp := by
  constructor
  · rintro ⟨-, -, hagrees, -⟩
    have hsettled : ∀ (k : Nat) c, [{ nsvcStart { provider := .fr { netdev := "hdlc1", dlci := 16 }
                                                  nsvci := 1 } bssConfig with
        nsSp := [] }.fSendReset][k]? = some c → statuses c.nsSp = [] := by
      intro k c hk
      rw [List.mem_singleton.mp (List.mem_of_getElem? hk)]
      rfl
    exact nomatch hagrees hsettled 0 _ _ rfl rfl
  · rintro ⟨hflag, -⟩
    rcases (hflag _ _ _ rfl (List.mem_singleton.mpr rfl)).mp rfl with ⟨-, h⟩ | ⟨h, -⟩
    · exact nomatch h
    · exact nomatch h

end OsmoNsVcg
