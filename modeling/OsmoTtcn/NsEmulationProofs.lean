import OsmoTtcn.IndexListProofs
import OsmoTtcn.TitanProofs

/-! # Load sharing of the NS emulation

    An NS-VCG has a table of NSVCs and, for signalling and for data, the list of
    those it may use: the ones that are unblocked and have a weight.  A unitdata
    request goes to one of the list.  The lists are not computed from the table;
    they follow the state changes of the NSVCs one at a time.

    `nsvc_bookkeeping` proves that after any additions and any state updates
    the lists are what they are for: every NSVC that is available is in them
    once, and no other is. -/

namespace OsmoNs

open OsmoTitan IndexList

-- ── Lists of integers ────────────────────────────────────────────────────────

/-- The position of `x` in `r`, -1 otherwise. -/
def roIntegerGetFirstPos (r : List Int) (x : Int) : Int :=
  match r.idxOf? x with
  | some j => j
  | none => -1

/-- `ro_integer_contains` -/
def roIntegerContains (r : List Int) (x : Int) : Bool :=
  decide (roIntegerGetFirstPos r x ≠ -1)

/-- `ro_integer_add_unique` -/
def roIntegerAddUnique (roi : List Int) (newEntry : Int) : List Int :=
  if roIntegerContains roi newEntry then roi else roi ++ [newEntry]

/-- `ro_integer_del` -/
def roIntegerDel (roi : List Int) (delEntry : Int) : List Int :=
  roi.foldl (fun tmp x => if x ≠ delEntry then tmp ++ [x] else tmp) []

/-- A number is contained if it is there. -/
theorem roIntegerContains_iff {r : List Int} {x : Int} :
    roIntegerContains r x = true ↔ x ∈ r := by
  rw [roIntegerContains, decide_eq_true_iff, roIntegerGetFirstPos]
  cases hpos : r.idxOf? x with
  | none =>
      have hno : x ∉ r := List.idxOf?_eq_none_iff.mp hpos
      exact ⟨fun h => absurd rfl h, fun h => absurd h hno⟩
  | some j =>
      have hyes : x ∈ r := by
        by_contra hno
        rw [List.idxOf?_eq_none_iff.mpr hno] at hpos
        exact nomatch hpos
      exact ⟨fun _ => hyes, fun _ => by simp only; omega⟩

/-- Adding a number is adding it once. -/
theorem roIntegerAddUnique_eq (r : List Int) (x : Int) :
    roIntegerAddUnique r x = addUnique r x := by
  rw [roIntegerAddUnique, addUnique]
  by_cases hx : x ∈ r
  · rw [if_pos (roIntegerContains_iff.mpr hx), if_pos hx]
  · rw [if_neg (fun h => hx (roIntegerContains_iff.mp h)), if_neg hx]

/-- Deleting a number is leaving it out. -/
theorem roIntegerDel_eq (r : List Int) (x : Int) : roIntegerDel r x = del r x := by
  have hloop : ∀ (r tmp : List Int),
      r.foldl (fun tmp y => if y ≠ x then tmp ++ [y] else tmp) tmp
        = tmp ++ del r x := by
    intro r
    induction r with
    | nil => intro tmp; exact (List.append_nil tmp).symm
    | cons y r ih =>
        intro tmp
        rw [List.foldl_cons, ih]
        by_cases hy : y ≠ x
        · rw [if_pos hy, del_cons_of_ne hy, List.append_assoc]
          rfl
        · rw [if_neg hy, not_not.mp hy, del_cons_self]
  exact hloop r []

-- ── The component ────────────────────────────────────────────────────────────

/-- `Nsvci` -/
abbrev Nsvci : Type := UInt16
abbrev Nsei : Type := UInt16
abbrev BssgpBvci : Type := UInt16

/-- `NsvcState` -/
inductive NsvcState where
  | disabled | deadBlocked | waitReset | aliveBlocked | aliveUnblocked
  deriving DecidableEq

/-- `AddressFamily` -/
inductive AddressFamily where
  | unspec | inet | inet6
  deriving DecidableEq

/-- `NSVCConfigurationIP` -/
structure NSVCConfigurationIP where
  addressFamily : AddressFamily
  localUdpPort : Nat
  localIp : String
  remoteUdpPort : Nat
  remoteIp : String
  dataWeight : UInt8
  signallingWeight : UInt8

/-- `NSVCConfigurationFR` -/
structure NSVCConfigurationFR where
  netdev : String
  dlci : Int

/-- `NSVCConfigurationP` -/
inductive NSVCConfigurationP where
  | ip (cfg : NSVCConfigurationIP)
  | fr (cfg : NSVCConfigurationFR)

/-- `NSVCConfiguration` -/
structure NSVCConfiguration where
  provider : NSVCConfigurationP
  nsvci : Nsvci

/-- An entry of the table of NSVCs. -/
structure NsvcTableEntry (Comp : Type) where
  cfg : NSVCConfiguration
  vcConn : Comp
  state : NsvcState

/-- An entry of the table of IP endpoints. -/
structure IpEndpointTableEntry (Comp : Type) where
  addressFamily : AddressFamily
  localUdpPort : Nat
  localIp : String
  dataWeight : UInt8
  signallingWeight : UInt8
  providerCt : Comp

/-- `NS_CT` -/
structure NsCt (Comp : Type) where
  nsei : Nsei
  ipEndpoints : List (IpEndpointTableEntry Comp)
  nsvcs : List (NsvcTableEntry Comp)
  /-- Indexes to `nsvcs` of currently unblocked NSVCs. -/
  unblockedNsvcsSig : List Int
  unblockedNsvcsData : List Int

/-- The NS-VCG at the start. -/
def NsCt.init {Comp : Type} (nsei : Nsei) : NsCt Comp :=
  { nsei := nsei, ipEndpoints := [], nsvcs := [], unblockedNsvcsSig := []
    unblockedNsvcsData := [] }

section Functions

variable {Comp : Type} (s : NsCt Comp)

/-- `f_ipep_find` -/
def fIpepFind (af : AddressFamily) (localUdpPort : Nat) (localIp : String) :
    Option (IpEndpointTableEntry Comp) :=
  s.ipEndpoints.find? (fun ipep => decide (ipep.addressFamily = af
    ∧ ipep.localUdpPort = localUdpPort ∧ ipep.localIp = localIp))

/-- The provider component of the local part; `created` is the reference of the
    new one, if there has to be one. -/
def fIpepFindOrCreate (cfg : NSVCConfigurationIP) (created : Comp) :
    NsCt Comp × Comp :=
  match fIpepFind s cfg.addressFamily cfg.localUdpPort cfg.localIp with
  | some ipep => (s, ipep.providerCt)
  | none =>
      ({ s with ipEndpoints := s.ipEndpoints ++ [
          { addressFamily := cfg.addressFamily
            localUdpPort := cfg.localUdpPort
            localIp := cfg.localIp
            dataWeight := cfg.dataWeight
            signallingWeight := cfg.signallingWeight
            providerCt := created }] }, created)

/-- Add one NSVC: its component, the entry and, for IP, the association with
    the provider component. -/
def fNsvcAdd (cfg : NSVCConfiguration) (vcConn created : Comp) :
    NsCt Comp × Option (Comp × NSVCConfigurationIP × Comp) :=
  let te := { cfg := cfg, vcConn := vcConn, state := NsvcState.deadBlocked }
  match cfg.provider with
  | .ip ip =>
      let r := fIpepFindOrCreate s ip created
      ({ r.1 with nsvcs := r.1.nsvcs ++ [te] }, some (r.2, ip, vcConn))
  | .fr _ => ({ s with nsvcs := s.nsvcs ++ [te] }, none)

/-- `f_nsvc_find_idx` -/
def fNsvcFindIdx (nsvci : Nsvci) : Option (Fin s.nsvcs.length) :=
  s.nsvcs.findFinIdx? (fun te => decide (te.cfg.nsvci = nsvci))

/-- `not ischosen(cfg.provider.ip) or cfg.provider.ip.weight > 0` -/
def NSVCConfiguration.weighs (weight : NSVCConfigurationIP → UInt8)
    (cfg : NSVCConfiguration) : Bool :=
  match cfg.provider with
  | .ip ip => decide (weight ip > 0)
  | .fr _ => true

/-- `f_nsvc_update_state` -/
def fNsvcUpdateState (nsvci : Nsvci) (state : NsvcState) : NsCt Comp :=
  match fNsvcFindIdx s nsvci with
  | none => s
  | some i =>
      let te := s.nsvcs.get i
      let s' :=
        if te.state ≠ .aliveUnblocked ∧ state = .aliveUnblocked then
          -- add index to list of unblocked NSVCs
          { s with
            unblockedNsvcsSig :=
              if te.cfg.weighs NSVCConfigurationIP.signallingWeight then
                roIntegerAddUnique s.unblockedNsvcsSig i.val
              else s.unblockedNsvcsSig
            unblockedNsvcsData :=
              if te.cfg.weighs NSVCConfigurationIP.dataWeight then
                roIntegerAddUnique s.unblockedNsvcsData i.val
              else s.unblockedNsvcsData }
        else if te.state = .aliveUnblocked ∧ state ≠ .aliveUnblocked then
          -- remove index from list of unblocked NSVCs
          { s with
            unblockedNsvcsSig := roIntegerDel s.unblockedNsvcsSig i.val
            unblockedNsvcsData := roIntegerDel s.unblockedNsvcsData i.val }
        else s
      { s' with nsvcs := s'.nsvcs.set i { te with state := state } }

/-- `f_count_nsvcs_in_state` -/
def fCountNsvcsInState (state : NsvcState) : Nat :=
  s.nsvcs.countP (fun te => decide (te.state = state))

/-- `NsStatusIndication` -/
structure NsStatusIndication where
  nsei : Nsei
  nsvci : Nsvci
  oldState : NsvcState
  newState : NsvcState
  firstOrLast : Bool

/-- The new state, and what goes to the user. -/
def asNsCommonStatus (rx : NsStatusIndication) :
    Except Fault (NsCt Comp × NsStatusIndication) :=
  if rx.nsei ≠ s.nsei then
    .error (.shutdown "Received NsStatusInd for invalid NSEI: ")
  else
    let s' := fNsvcUpdateState s rx.nsvci rx.newState
    match rx.newState with
    | .aliveUnblocked =>
        -- check if this one is the first to be unblocked
        if fCountNsvcsInState s .aliveUnblocked = 0 then
          .ok (s', { rx with firstOrLast := true })
        else .ok (s', rx)
    | .deadBlocked =>
        -- check if this one is the last to be blocked
        if fCountNsvcsInState s' .aliveUnblocked = 0 then
          .ok (s', { rx with firstOrLast := true })
        else .ok (s', rx)
    | _ => .ok (s', rx)

/-- `NsUnitdataRequest`, by what the choice of an NSVC reads. -/
structure NsUnitdataRequest where
  bvci : BssgpBvci
  nsei : Nsei
  lsp : Int

/-- The list that a request is distributed over; BVCI 0 is signalling. -/
def unblockedFor (bvci : BssgpBvci) : List Int :=
  if bvci = 0 then s.unblockedNsvcsSig else s.unblockedNsvcsData

/-- Load distribution function: the NSVC that a request goes to. -/
def asNsCommonUdReq (rx : NsUnitdataRequest) : Except Fault Comp :=
  if rx.nsei ≠ s.nsei then
    .error (.shutdown "Received NsUnitdataReq for invalid NSEI: ")
  else
    let unblocked := unblockedFor s rx.bvci
    if unblocked.length = 0 then
      .error (.ttcnError "The right operand of mod operator is zero.")
    else
      match unblocked[(rx.lsp % unblocked.length).toNat]? with
      | none => .error .badIndex
      | some nsvcIdx =>
          if nsvcIdx < 0 then .error .badIndex
          else match s.nsvcs[nsvcIdx.toNat]? with
            | none => .error .badIndex
            | some te => .ok te.vcConn

end Functions

-- ── What the lists are for ───────────────────────────────────────────────────

/-- The NSVCs that were configured, and the last state of each. -/
structure Vcg where
  configured : List NSVCConfiguration
  stateOf : Nsvci → NsvcState

/-- No NSVC was added. -/
def Vcg.init : Vcg := { configured := [], stateOf := fun _ => .deadBlocked }

/-- An NSVC that is added, or that has changed its state. -/
inductive Op (Comp : Type) where
  | add (cfg : NSVCConfiguration) (vcConn created : Comp)
  | updateState (nsvci : Nsvci) (state : NsvcState)

/-- The NSVCI of an NSVC that is added. -/
def Op.added {Comp : Type} : Op Comp → Option Nsvci
  | .add cfg _ _ => some cfg.nsvci
  | .updateState _ _ => none

/-- One operation of the NS-VCG. -/
def nsvcStep {Comp : Type} (s : NsCt Comp) : Op Comp → NsCt Comp
  | .add cfg vcConn created => (fNsvcAdd s cfg vcConn created).1
  | .updateState nsvci state => fNsvcUpdateState s nsvci state

/-- An NSVC is dead and blocked when it is added. -/
def vcgStep {Comp : Type} (g : Vcg) : Op Comp → Vcg
  | .add cfg _ _ =>
      { configured := g.configured ++ [cfg]
        stateOf := Function.update g.stateOf cfg.nsvci .deadBlocked }
  | .updateState nsvci state =>
      { g with stateOf := Function.update g.stateOf nsvci state }

/-- Frame Relay, or UDP with a weight that is not zero. -/
def Eligible (weight : NSVCConfigurationIP → UInt8) (cfg : NSVCConfiguration) :
    Prop :=
  (∃ fr, cfg.provider = .fr fr) ∨ ∃ ip, cfg.provider = .ip ip ∧ weight ip ≠ 0

/-- The NSVC with the index is unblocked and may carry the load. -/
def Available (weight : NSVCConfigurationIP → UInt8) (g : Vcg) (i : Nat) : Prop :=
  ∃ cfg, g.configured[i]? = some cfg ∧ g.stateOf cfg.nsvci = .aliveUnblocked
    ∧ Eligible weight cfg

/-- The list has the indices of the NSVCs that are available, each once. -/
def Lists (weight : NSVCConfigurationIP → UInt8) (g : Vcg) (r : List Int) : Prop :=
  r.Nodup ∧ ∀ x : Int, x ∈ r ↔ ∃ i : Nat, x = i ∧ Available weight g i

/-- The weight that counts for a request: BVCI 0 is signalling. -/
def weightOf (bvci : BssgpBvci) : NSVCConfigurationIP → UInt8 :=
  if bvci = 0 then NSVCConfigurationIP.signallingWeight
  else NSVCConfigurationIP.dataWeight

/-- **LOAD SHARING**: the lists are exact; a request goes to an NSVC that is
    available, if there is one, and every one that is available is reached by
    some request. -/
structure SharesLoad {Comp : Type} (s : NsCt Comp) (g : Vcg) : Prop where
  sig : Lists NSVCConfigurationIP.signallingWeight g s.unblockedNsvcsSig
  data : Lists NSVCConfigurationIP.dataWeight g s.unblockedNsvcsData
  selects : ∀ rx vcConn, asNsCommonUdReq s rx = .ok vcConn →
    ∃ i te, s.nsvcs[i]? = some te ∧ te.vcConn = vcConn
      ∧ Available (weightOf rx.bvci) g i
  serves : ∀ bvci i lsp, Available (weightOf bvci) g i →
    ∃ vcConn, asNsCommonUdReq s { bvci := bvci, nsei := s.nsei, lsp := lsp }
      = .ok vcConn
  reaches : ∀ bvci i, Available (weightOf bvci) g i →
    ∃ te lsp, s.nsvcs[i]? = some te
      ∧ asNsCommonUdReq s { bvci := bvci, nsei := s.nsei, lsp := lsp }
        = .ok te.vcConn

-- ── The invariant ────────────────────────────────────────────────────────────

section Invariant

variable {Comp : Type}

/-- An entry whose index belongs in the list. -/
def Unblocked (weight : NSVCConfigurationIP → UInt8) (te : NsvcTableEntry Comp) :
    Prop :=
  te.state = .aliveUnblocked ∧ Eligible weight te.cfg

/-- The table has the configured NSVCs with their states, and each list has the
    indices of the unblocked ones. -/
structure VcgInv (s : NsCt Comp) (g : Vcg) : Prop where
  configured : s.nsvcs.map NsvcTableEntry.cfg = g.configured
  states : ∀ (i : Nat) te, s.nsvcs[i]? = some te →
    te.state = g.stateOf te.cfg.nsvci
  unique : ∀ (i j : Nat) te te', s.nsvcs[i]? = some te → s.nsvcs[j]? = some te' →
    te.cfg.nsvci = te'.cfg.nsvci → i = j
  sig : Indexes (Unblocked NSVCConfigurationIP.signallingWeight) s.nsvcs
    s.unblockedNsvcsSig
  data : Indexes (Unblocked NSVCConfigurationIP.dataWeight) s.nsvcs
    s.unblockedNsvcsData

/-- The NS-VCG starts without NSVCs. -/
theorem vcgInv_init (nsei : Nsei) : VcgInv (NsCt.init nsei : NsCt Comp) Vcg.init where
  configured := rfl
  states := fun _ _ hte => nomatch hte
  unique := fun _ _ _ _ hte => nomatch hte
  sig := indexes_nil
  data := indexes_nil

/-- A weight that is not zero makes an NSVC eligible. -/
theorem weighs_iff {weight : NSVCConfigurationIP → UInt8} {cfg : NSVCConfiguration} :
    cfg.weighs weight = true ↔ Eligible weight cfg := by
  rw [NSVCConfiguration.weighs, Eligible]
  cases hp : cfg.provider with
  | fr fr => simp
  | ip ip => simp [UInt8.pos_iff_ne_zero]

/-- What an update does to one of the lists. -/
def relist (weight : NSVCConfigurationIP → UInt8) (te : NsvcTableEntry Comp)
    (state : NsvcState) (i : Int) (r : List Int) : List Int :=
  if te.state ≠ .aliveUnblocked ∧ state = .aliveUnblocked then
    if te.cfg.weighs weight then addUnique r i else r
  else if te.state = .aliveUnblocked ∧ state ≠ .aliveUnblocked then del r i
  else r

/-- **ONE LIST FOLLOWS ITS TABLE** through any change of state. -/
theorem relist_indexes {weight : NSVCConfigurationIP → UInt8}
    {l : List (NsvcTableEntry Comp)} {r : List Int} {i : Nat}
    {te : NsvcTableEntry Comp} (h : Indexes (Unblocked weight) l r)
    (hi : l[i]? = some te) (state : NsvcState) :
    Indexes (Unblocked weight) (l.set i { te with state := state })
      (relist weight te state i r) := by
  have hlt : i < l.length := (List.getElem?_eq_some_iff.mp hi).1
  rw [relist]
  by_cases hold : te.state = .aliveUnblocked
  · by_cases hnew : state = .aliveUnblocked
    · rw [if_neg (fun hc => hc.1 hold), if_neg (fun hc => hc.2 hnew)]
      refine h.set_same hi ?_
      rw [Unblocked, Unblocked, hold, hnew]
    · rw [if_neg (fun hc => hnew hc.2), if_pos ⟨hold, hnew⟩]
      exact h.set_del hlt (fun hp => hnew hp.1)
  · by_cases hnew : state = .aliveUnblocked
    · rw [if_pos ⟨hold, hnew⟩]
      by_cases helig : te.cfg.weighs weight = true
      · rw [if_pos helig]
        exact h.set_add hlt ⟨hnew, weighs_iff.mp helig⟩
      · -- neither before nor now in the list, for its weight
        rw [if_neg helig]
        refine h.set_same hi ?_
        exact ⟨fun hp => absurd (weighs_iff.mpr hp.2) helig,
          fun hp => absurd hp.1 hold⟩
    · rw [if_neg (fun hc => hnew hc.2), if_neg (fun hc => hold hc.1)]
      refine h.set_same hi ?_
      exact ⟨fun hp => absurd hp.1 hnew, fun hp => absurd hp.1 hold⟩

/-- What an update does to the component. -/
theorem fNsvcUpdateState_eq (s : NsCt Comp) (nsvci : Nsvci) (state : NsvcState) :
    fNsvcUpdateState s nsvci state = match fNsvcFindIdx s nsvci with
      | none => s
      | some i => { s with
        nsvcs := s.nsvcs.set i { s.nsvcs.get i with state := state }
        unblockedNsvcsSig := relist NSVCConfigurationIP.signallingWeight
          (s.nsvcs.get i) state i.val s.unblockedNsvcsSig
        unblockedNsvcsData := relist NSVCConfigurationIP.dataWeight
          (s.nsvcs.get i) state i.val s.unblockedNsvcsData } := by
  rw [fNsvcUpdateState]
  cases fNsvcFindIdx s nsvci with
  | none => rfl
  | some i =>
      simp only [relist, roIntegerAddUnique_eq, roIntegerDel_eq]
      by_cases hadd : (s.nsvcs.get i).state ≠ .aliveUnblocked
          ∧ state = .aliveUnblocked
      · rw [if_pos hadd, if_pos hadd, if_pos hadd]
      · rw [if_neg hadd, if_neg hadd, if_neg hadd]
        by_cases hdel : (s.nsvcs.get i).state = .aliveUnblocked
            ∧ state ≠ .aliveUnblocked
        · rw [if_pos hdel, if_pos hdel, if_pos hdel]
        · rw [if_neg hdel, if_neg hdel, if_neg hdel]

-- ── Every operation keeps it ─────────────────────────────────────────────────

/-- A new NSVC is the last of the table. -/
theorem fNsvcAdd_eq (s : NsCt Comp) (cfg : NSVCConfiguration) (vcConn created : Comp) :
    (fNsvcAdd s cfg vcConn created).1.nsvcs
        = s.nsvcs ++ [{ cfg := cfg, vcConn := vcConn, state := .deadBlocked }]
      ∧ (fNsvcAdd s cfg vcConn created).1.unblockedNsvcsSig = s.unblockedNsvcsSig
      ∧ (fNsvcAdd s cfg vcConn created).1.unblockedNsvcsData
        = s.unblockedNsvcsData := by
  rw [fNsvcAdd]
  cases cfg.provider with
  | fr fr => exact ⟨rfl, rfl, rfl⟩
  | ip ip =>
      simp only [fIpepFindOrCreate]
      cases fIpepFind s ip.addressFamily ip.localUdpPort ip.localIp with
      | none => exact ⟨rfl, rfl, rfl⟩
      | some ipep => exact ⟨rfl, rfl, rfl⟩

/-- An entry of a longer table is one from before, or the new one. -/
theorem getElem?_snoc {τ : Type} {l : List τ} {e e' : τ} {i : Nat}
    (h : (l ++ [e])[i]? = some e') : l[i]? = some e' ∨ (i = l.length ∧ e' = e) := by
  rcases Nat.lt_or_ge i l.length with hi | hi
  · rw [List.getElem?_append_left hi] at h
    exact Or.inl h
  · have hlt := (List.getElem?_eq_some_iff.mp h).1
    rw [List.length_append, List.length_singleton] at hlt
    have heq : i = l.length := by omega
    rw [heq, List.getElem?_concat_length] at h
    exact Or.inr ⟨heq, (Option.some.inj h).symm⟩

/-- An NSVC with a new NSVCI is added. -/
theorem VcgInv.add {s : NsCt Comp} {g : Vcg} (h : VcgInv s g)
    {cfg : NSVCConfiguration} (vcConn created : Comp)
    (hnew : ∀ c ∈ g.configured, c.nsvci ≠ cfg.nsvci) :
    VcgInv (nsvcStep s (.add cfg vcConn created))
      (vcgStep g (.add cfg vcConn created)) := by
  obtain ⟨htable, hsig, hdata⟩ := fNsvcAdd_eq s cfg vcConn created
  have hother : ∀ (i : Nat) te, s.nsvcs[i]? = some te → te.cfg.nsvci ≠ cfg.nsvci := by
    intro i te hte
    refine hnew te.cfg ?_
    rw [← h.configured]
    exact List.mem_map_of_mem (List.mem_of_getElem? hte)
  have hdead : ∀ weight, ¬ Unblocked weight
      ({ cfg := cfg, vcConn := vcConn, state := .deadBlocked } : NsvcTableEntry Comp) :=
    fun weight hp => nomatch hp.1
  constructor
  · show List.map _ (fNsvcAdd s cfg vcConn created).1.nsvcs = _
    rw [htable, List.map_append, h.configured]
    rfl
  · intro i te hte
    rw [nsvcStep, htable] at hte
    show te.state = Function.update g.stateOf cfg.nsvci _ te.cfg.nsvci
    rcases getElem?_snoc hte with hold | ⟨-, rfl⟩
    · rw [Function.update_of_ne (hother i te hold)]
      exact h.states i te hold
    · rw [Function.update_self]
  · intro i j te te' hi hj hsame
    rw [nsvcStep, htable] at hi hj
    rcases getElem?_snoc hi with hi | ⟨hilen, rfl⟩
    · rcases getElem?_snoc hj with hj | ⟨-, rfl⟩
      · exact h.unique i j te te' hi hj hsame
      · exact absurd hsame (hother i te hi)
    · rcases getElem?_snoc hj with hj | ⟨hjlen, -⟩
      · exact absurd hsame.symm (hother j te' hj)
      · rw [hilen, hjlen]
  · rw [nsvcStep, htable, hsig]
    exact h.sig.push (hdead _)
  · rw [nsvcStep, htable, hdata]
    exact h.data.push (hdead _)

/-- The state of one NSVC changes, or of none. -/
theorem VcgInv.updateState {s : NsCt Comp} {g : Vcg} (h : VcgInv s g)
    (nsvci : Nsvci) (state : NsvcState) :
    VcgInv (nsvcStep s (.updateState nsvci state : Op Comp))
      (vcgStep g (.updateState nsvci state : Op Comp)) := by
  rw [nsvcStep, fNsvcUpdateState_eq]
  cases hfind : fNsvcFindIdx s nsvci with
  | none =>
      refine ⟨h.configured, fun i te hte => ?_, h.unique, h.sig, h.data⟩
      have hne : te.cfg.nsvci ≠ nsvci := fun heq =>
        List.findFinIdx?_eq_none_iff.mp hfind te (List.mem_of_getElem? hte)
          (decide_eq_true heq)
      show te.state = Function.update g.stateOf nsvci state te.cfg.nsvci
      rw [Function.update_of_ne hne]
      exact h.states i te hte
  | some i =>
      have hget : s.nsvcs[i.val]? = some (s.nsvcs.get i) :=
        List.getElem?_eq_getElem i.isLt
      have hnsvci : (s.nsvcs.get i).cfg.nsvci = nsvci :=
        of_decide_eq_true (List.findFinIdx?_eq_some_iff.mp hfind).1
      -- the entry keeps its configuration
      have hcfg : ∀ (j : Nat) te, (s.nsvcs.set i
          { s.nsvcs.get i with state := state })[j]? = some te →
          ∃ te0, s.nsvcs[j]? = some te0 ∧ te.cfg = te0.cfg
            ∧ (j = i ∧ te.state = state ∨ j ≠ i ∧ te = te0) := by
        intro j te hte
        by_cases hij : i.val = j
        · rw [← hij, List.getElem?_set_self i.isLt] at hte
          rw [← hij, ← Option.some.inj hte]
          exact ⟨s.nsvcs.get i, hget, rfl, Or.inl ⟨rfl, rfl⟩⟩
        · rw [List.getElem?_set_ne hij] at hte
          exact ⟨te, hte, rfl, Or.inr ⟨fun heq => hij heq.symm, rfl⟩⟩
      constructor
      · show List.map _ (s.nsvcs.set i _) = g.configured
        rw [← h.configured]
        refine List.ext_getElem? (fun j => ?_)
        rw [List.getElem?_map, List.getElem?_map]
        by_cases hij : i.val = j
        · rw [← hij, List.getElem?_set_self i.isLt, hget]
          rfl
        · rw [List.getElem?_set_ne hij]
      · intro j te hte
        obtain ⟨te0, hte0, hc, hcase⟩ := hcfg j te hte
        show te.state = Function.update g.stateOf nsvci state te.cfg.nsvci
        rcases hcase with ⟨hj, hst⟩ | ⟨hj, rfl⟩
        · rw [hj, hget] at hte0
          rw [hc, ← Option.some.inj hte0, hnsvci, Function.update_self, hst]
        · have hne : te.cfg.nsvci ≠ nsvci := by
            intro heq
            exact hj (h.unique j i te _ hte0 hget (heq.trans hnsvci.symm))
          rw [Function.update_of_ne hne]
          exact h.states j te hte0
      · intro j j' te te' hj hj' hsame
        obtain ⟨te0, hte0, hc, -⟩ := hcfg j te hj
        obtain ⟨te0', hte0', hc', -⟩ := hcfg j' te' hj'
        rw [hc, hc'] at hsame
        exact h.unique j j' te0 te0' hte0 hte0' hsame
      · exact relist_indexes h.sig hget state
      · exact relist_indexes h.data hget state

-- ── Status indications ───────────────────────────────────────────────────────

/-- None is counted if none is in the state. -/
theorem fCountNsvcsInState_zero {s : NsCt Comp} {state : NsvcState} :
    fCountNsvcsInState s state = 0 ↔ ∀ te ∈ s.nsvcs, te.state ≠ state := by
  rw [fCountNsvcsInState, List.countP_eq_zero]
  constructor
  · exact fun h te hte heq => h te hte (decide_eq_true heq)
  · exact fun h te hte heq => h te hte (of_decide_eq_true heq)

/-- **FIRST AND LAST**: an indication updates the state, and the user is told
    when no NSVC was unblocked before it, or none is after it. -/
theorem asNsCommonStatus_ok {s s' : NsCt Comp} {rx tx : NsStatusIndication}
    (h : asNsCommonStatus s rx = .ok (s', tx)) :
    s' = nsvcStep s (.updateState rx.nsvci rx.newState : Op Comp)
      ∧ (tx.firstOrLast = true ↔ rx.firstOrLast = true
        ∨ (rx.newState = .aliveUnblocked
          ∧ ∀ te ∈ s.nsvcs, te.state ≠ .aliveUnblocked)
        ∨ (rx.newState = .deadBlocked
          ∧ ∀ te ∈ s'.nsvcs, te.state ≠ .aliveUnblocked)) := by
  rw [asNsCommonStatus] at h
  by_cases hnsei : rx.nsei ≠ s.nsei
  · rw [if_pos hnsei] at h
    exact nomatch h
  · rw [if_neg hnsei] at h
    cases hst : rx.newState with
    | aliveUnblocked =>
        simp only [hst] at h
        by_cases hzero : fCountNsvcsInState s .aliveUnblocked = 0
        · rw [if_pos hzero] at h
          obtain ⟨rfl, rfl⟩ := Prod.mk.inj (Except.ok.inj h)
          refine ⟨rfl, fun _ => ?_, fun _ => rfl⟩
          exact Or.inr (Or.inl ⟨rfl, fCountNsvcsInState_zero.mp hzero⟩)
        · rw [if_neg hzero] at h
          obtain ⟨rfl, rfl⟩ := Prod.mk.inj (Except.ok.inj h)
          refine ⟨rfl, Or.inl, ?_⟩
          rintro (hrx | ⟨-, hnone⟩ | ⟨hdead, -⟩)
          · exact hrx
          · exact absurd (fCountNsvcsInState_zero.mpr hnone) hzero
          · exact nomatch hdead
    | deadBlocked =>
        simp only [hst] at h
        by_cases hzero : fCountNsvcsInState
            (fNsvcUpdateState s rx.nsvci .deadBlocked) .aliveUnblocked = 0
        · rw [if_pos hzero] at h
          obtain ⟨rfl, rfl⟩ := Prod.mk.inj (Except.ok.inj h)
          refine ⟨rfl, fun _ => ?_, fun _ => rfl⟩
          exact Or.inr (Or.inr ⟨rfl, fCountNsvcsInState_zero.mp hzero⟩)
        · rw [if_neg hzero] at h
          obtain ⟨rfl, rfl⟩ := Prod.mk.inj (Except.ok.inj h)
          refine ⟨rfl, Or.inl, ?_⟩
          rintro (hrx | ⟨halive, -⟩ | ⟨-, hnone⟩)
          · exact hrx
          · exact nomatch halive
          · exact absurd (fCountNsvcsInState_zero.mpr hnone) hzero
    | disabled | waitReset | aliveBlocked =>
        simp only [hst] at h
        obtain ⟨rfl, rfl⟩ := Prod.mk.inj (Except.ok.inj h)
        refine ⟨rfl, Or.inl, ?_⟩
        rintro (hrx | ⟨halive, -⟩ | ⟨hdead, -⟩)
        · exact hrx
        · exact nomatch halive
        · exact nomatch hdead

-- ── Runs ─────────────────────────────────────────────────────────────────────

/-- The NSVCIs of the table and those that are still to be added are all
    different. -/
def Distinct (g : Vcg) (ops : List (Op Comp)) : Prop :=
  (g.configured.map NSVCConfiguration.nsvci ++ ops.filterMap Op.added).Nodup

/-- What is to come is distinct from what was added. -/
theorem Distinct.head {g : Vcg} {op : Op Comp} {ops : List (Op Comp)}
    (h : Distinct g (op :: ops)) : Distinct (vcgStep g op) ops := by
  cases op with
  | add cfg vcConn created =>
      rw [Distinct] at h ⊢
      show ((g.configured ++ [cfg]).map _ ++ _).Nodup
      rw [List.map_append, List.append_assoc]
      exact h
  | updateState nsvci state => exact h

/-- **ONE OPERATION** keeps the invariant. -/
theorem VcgInv.step {s : NsCt Comp} {g : Vcg} {op : Op Comp} {ops : List (Op Comp)}
    (h : VcgInv s g) (hdistinct : Distinct g (op :: ops)) :
    VcgInv (nsvcStep s op) (vcgStep g op) := by
  cases op with
  | add cfg vcConn created =>
      refine h.add vcConn created (fun c hc heq => ?_)
      refine (List.nodup_append.mp hdistinct).2.2 c.nsvci (List.mem_map_of_mem hc)
        cfg.nsvci ?_ heq
      exact List.mem_cons_self
  | updateState nsvci state => exact h.updateState nsvci state

/-- **THE INVARIANT HOLDS AFTER ANY RUN.** -/
theorem vcgInv_run : ∀ (ops : List (Op Comp)) (s : NsCt Comp) (g : Vcg),
    VcgInv s g → Distinct g ops →
    VcgInv (ops.foldl nsvcStep s) (ops.foldl vcgStep g) := by
  intro ops
  induction ops with
  | nil => intro s g h _; exact h
  | cons op ops ih =>
      intro s g h hdistinct
      exact ih _ _ (h.step hdistinct) hdistinct.head

-- ── The invariant gives the load sharing ─────────────────────────────────────

/-- An index belongs in a list iff its NSVC is available. -/
theorem VcgInv.at_iff {s : NsCt Comp} {g : Vcg} (h : VcgInv s g)
    {weight : NSVCConfigurationIP → UInt8} {i : Nat} :
    (∃ te, s.nsvcs[i]? = some te ∧ Unblocked weight te) ↔ Available weight g i := by
  have hcfg : g.configured[i]? = (s.nsvcs[i]?).map NsvcTableEntry.cfg := by
    rw [← h.configured, List.getElem?_map]
  rw [Available, hcfg]
  constructor
  · rintro ⟨te, hte, hst, helig⟩
    rw [hte]
    exact ⟨te.cfg, rfl, (h.states i te hte).symm.trans hst, helig⟩
  · rintro ⟨cfg, hc, hst, helig⟩
    obtain ⟨te, hte, rfl⟩ := Option.map_eq_some_iff.mp hc
    exact ⟨te, hte, (h.states i te hte).trans hst, helig⟩

/-- A list holds the NSVCs that are unblocked and eligible. -/
theorem VcgInv.lists {s : NsCt Comp} {g : Vcg} (h : VcgInv s g)
    {weight : NSVCConfigurationIP → UInt8} {r : List Int}
    (hr : Indexes (Unblocked weight) s.nsvcs r) : Lists weight g r := by
  refine ⟨hr.nodup, fun x => (hr.mem x).trans ?_⟩
  constructor
  · rintro ⟨i, hx, hte⟩
    exact ⟨i, hx, h.at_iff.mp hte⟩
  · rintro ⟨i, hx, hav⟩
    exact ⟨i, hx, h.at_iff.mpr hav⟩

/-- So does the list for a BVCI. -/
theorem VcgInv.listFor {s : NsCt Comp} {g : Vcg} (h : VcgInv s g) (bvci : BssgpBvci) :
    Lists (weightOf bvci) g (unblockedFor s bvci) := by
  rw [weightOf, unblockedFor]
  by_cases hb : bvci = 0
  · rw [if_pos hb, if_pos hb]
    exact h.lists h.sig
  · rw [if_neg hb, if_neg hb]
    exact h.lists h.data

/-- What the choice is: an element of the list by its position, and the NSVC
    with that index. -/
theorem udReq_ok_iff {s : NsCt Comp} {rx : NsUnitdataRequest} {vcConn : Comp} :
    asNsCommonUdReq s rx = .ok vcConn ↔ rx.nsei = s.nsei
      ∧ ∃ (i : Nat) (te : NsvcTableEntry Comp),
        (unblockedFor s rx.bvci)[(rx.lsp % (unblockedFor s rx.bvci).length).toNat]?
          = some (i : Int)
        ∧ s.nsvcs[i]? = some te ∧ te.vcConn = vcConn := by
  simp only [asNsCommonUdReq]
  by_cases hnsei : rx.nsei = s.nsei
  · rw [if_neg (not_not.mpr hnsei)]
    cases hidx : (unblockedFor s rx.bvci)[(rx.lsp
        % (unblockedFor s rx.bvci).length).toNat]? with
    | none =>
        constructor
        · intro h
          split at h
          · exact nomatch h
          · exact nomatch h
        · rintro ⟨-, i, te, hi, -⟩
          exact nomatch hi
    | some nsvcIdx =>
        have hne : ¬ (unblockedFor s rx.bvci).length = 0 := by
          have hlt := (List.getElem?_eq_some_iff.mp hidx).1
          omega
        rw [if_neg hne]
        simp only [hnsei, true_and, Option.some.injEq]
        by_cases hneg : nsvcIdx < 0
        · rw [if_pos hneg]
          constructor
          · exact fun h => nomatch h
          · rintro ⟨i, te, rfl, -⟩
            omega
        · obtain ⟨i, rfl⟩ := Int.eq_ofNat_of_zero_le (Int.not_lt.mp hneg)
          rw [if_neg hneg, Int.toNat_natCast]
          cases hte : s.nsvcs[i]? with
          | none =>
              constructor
              · exact fun h => nomatch h
              · rintro ⟨j, te, hj, hte', -⟩
                rw [← Int.ofNat.inj hj, hte] at hte'
                exact nomatch hte'
          | some te =>
              constructor
              · exact fun h => ⟨i, te, rfl, hte, Except.ok.inj h⟩
              · rintro ⟨j, te', hj, hte', rfl⟩
                rw [← Int.ofNat.inj hj, hte] at hte'
                rw [Option.some.inj hte']
  · rw [if_pos hnsei]
    constructor
    · exact fun h => nomatch h
    · exact fun h => absurd h.1 hnsei

/-- A list without elements has no position; any other has one for every
    request. -/
theorem mod_position {r : List Int} (hr : r ≠ []) (lsp : Int) :
    ∃ x, r[(lsp % r.length).toNat]? = some x ∧ x ∈ r := by
  have hpos : 0 < r.length := List.length_pos_iff.mpr hr
  have hlt : (lsp % r.length).toNat < r.length := by
    have h0 := Int.emod_nonneg lsp (b := r.length) (by omega)
    have h1 := Int.emod_lt_of_pos lsp (b := r.length) (by omega)
    omega
  exact ⟨r[(lsp % r.length).toNat], List.getElem?_eq_getElem hlt,
    List.getElem_mem hlt⟩

/-- **BOOKKEEPING**: after any additions of different NSVCs and any state
    updates the lists are exact, and so is the choice. -/
theorem nsvc_bookkeeping (nsei : Nsei) (ops : List (Op Comp))
    (hdistinct : (ops.filterMap Op.added).Nodup) :
    SharesLoad (ops.foldl nsvcStep (NsCt.init nsei)) (ops.foldl vcgStep Vcg.init) := by
  have h := vcgInv_run ops (NsCt.init nsei) Vcg.init (vcgInv_init nsei) hdistinct
  refine ⟨h.lists h.sig, h.lists h.data, ?_, ?_, ?_⟩
  · intro rx vcConn hok
    obtain ⟨-, i, te, hidx, hte, hvc⟩ := udReq_ok_iff.mp hok
    obtain ⟨j, hj, hav⟩ := ((h.listFor rx.bvci).2 i).mp (List.mem_of_getElem? hidx)
    rw [← Int.ofNat.inj hj] at hav
    exact ⟨i, te, hte, hvc, hav⟩
  · intro bvci i lsp hav
    have hmem := ((h.listFor bvci).2 i).mpr ⟨i, rfl, hav⟩
    obtain ⟨x, hx, hxmem⟩ := mod_position (List.ne_nil_of_mem hmem) lsp
    obtain ⟨j, rfl, havj⟩ := ((h.listFor bvci).2 x).mp hxmem
    obtain ⟨te, hte, -⟩ := h.at_iff.mpr havj
    exact ⟨te.vcConn, udReq_ok_iff.mpr ⟨rfl, j, te, hx, hte, rfl⟩⟩
  · intro bvci i hav
    have hmem := ((h.listFor bvci).2 i).mpr ⟨i, rfl, hav⟩
    obtain ⟨te, hte, -⟩ := h.at_iff.mpr hav
    obtain ⟨j, hj⟩ := List.mem_iff_getElem?.mp hmem
    have hlt := (List.getElem?_eq_some_iff.mp hj).1
    refine ⟨te, j, hte, udReq_ok_iff.mpr ⟨rfl, i, te, ?_, hte, rfl⟩⟩
    show (unblockedFor _ bvci)[((j : Int) % (unblockedFor _ bvci).length).toNat]? = _
    rw [Int.emod_eq_of_lt (by omega) (by omega), Int.toNat_natCast]
    exact hj

end Invariant

/-- Two NSVCs, the second without a signalling weight, that come and go. -/
def comeAndGo : List (Op Nat) :=
  [.add { provider := .fr { netdev := "hdlc1", dlci := 16 }, nsvci := 1 } 10 0,
    .updateState 1 .aliveUnblocked,
    .add { provider := .ip { addressFamily := .inet, localUdpPort := 23000
                             localIp := "127.0.0.1", remoteUdpPort := 21000
                             remoteIp := "127.0.0.2", dataWeight := 1
                             signallingWeight := 0 }, nsvci := 2 } 20 5,
    .updateState 2 .aliveUnblocked, .updateState 2 .aliveUnblocked,
    .updateState 1 .deadBlocked, .updateState 1 .aliveBlocked]

/-- NSVCs that come up and go down again. -/
theorem nsvc_bookkeeping_comeAndGo :
    SharesLoad (comeAndGo.foldl nsvcStep (NsCt.init 100))
      (comeAndGo.foldl vcgStep Vcg.init) :=
  nsvc_bookkeeping 100 comeAndGo (by decide)

example : (comeAndGo.foldl nsvcStep (NsCt.init 100)).unblockedNsvcsSig = []
    ∧ (comeAndGo.foldl nsvcStep (NsCt.init 100)).unblockedNsvcsData = [1] :=
  ⟨rfl, rfl⟩

end OsmoNs
