import OsmoTtcn.KeyedListProofs
import OsmoTtcn.S1apFunctionsProofs
import OsmoTtcn.SpecRunProofs
import OsmoTtcn.TitanProofs

/-! # The UE multiplexer of the S1GW tests

    `S1GW_UEMux` passes the S1AP PDUs of one connection on to the components of
    the UEs.  A component subscribes for an MME UE id, for an eNB UE id or for
    both, and a PDU goes to the component that holds the MME UE id found in it,
    or else to the one that holds the eNB UE id.

    `ue_mux` is about every run: no two entries of the list have the same
    component or the same id, PDUs go where the ids found in them say, and who
    unsubscribes takes nothing from the others.  `rabSetupRsp_unrouted` is a PDU
    with two ids that are both held, and in which none is found. -/

namespace OsmoUeMux

open OsmoTitan OsmoS1ap KeyedList SpecRun

/-- The direction of a PDU. -/
inductive S1apPduDir where
  | fromMme | fromEnb
  deriving DecidableEq, Repr

/-- `S1AP_dPDU` -/
structure S1apDPdu where
  dir : S1apPduDir
  pdu : S1apPdu
  deriving DecidableEq

/-- `UE_ConnData` -/
structure UeConnData (Comp : Type) where
  vcConn : Comp
  mmeUeId : Option MmeUeS1apId
  enbUeId : Option EnbUeS1apId
  deriving DecidableEq

/-- `UEMux_CT` -/
structure UeMuxCT (Comp : Type) where
  gUemuxList : List (UeConnData Comp)

/-- The alternatives of `main` but for the E-RAB and context procedures, which
    only read the list. -/
inductive Input (Comp : Type) where
  /-- A PDU from the S1GW, of the MME or the eNB behind it. -/
  | s1gw (dpdu : S1apDPdu)
  /-- A PDU of a UE component. -/
  | ue (vcConn : Comp) (dpdu : S1apDPdu)
  | subscribeForMmeUeId (vcConn : Comp) (mmeUeId : MmeUeS1apId)
  | subscribeForEnbUeId (vcConn : Comp) (enbUeId : EnbUeS1apId)
  | unsubscribe (vcConn : Comp)

/-- What a component is answered. -/
inductive Reply where
  | subscribeForMmeUeId (mmeUeId : MmeUeS1apId)
  | subscribeForEnbUeId (enbUeId : EnbUeS1apId)
  | unsubscribe
  deriving DecidableEq

/-- What a round of `main` sends, and on which port. -/
inductive Output (Comp : Type) where
  | s1gw (dpdu : S1apDPdu)
  | ue (vcConn : Comp) (dpdu : S1apDPdu)
  | reply (vcConn : Comp) (r : Reply)
  deriving DecidableEq

section Functions

variable {Comp : Type} (list : List (UeConnData Comp))

-- the searches have no index where the source has -1

/-- `f_UEMux_find_ue_by_mme_ue_id` -/
def fUeMuxFindUeByMmeUeId (mmeUeId : MmeUeS1apId) : Option Nat :=
  list.findIdx? (fun r => decide (r.mmeUeId = some mmeUeId))

/-- `f_UEMux_find_ue_by_enb_ue_id` -/
def fUeMuxFindUeByEnbUeId (enbUeId : EnbUeS1apId) : Option Nat :=
  list.findIdx? (fun r => decide (r.enbUeId = some enbUeId))

/-- `f_UEMux_find_ue_for_pdu` -/
def fUeMuxFindUeForPdu (pdu : S1apPdu) : Option Nat :=
  ((fS1apGetMmeUeS1apId pdu).bind (fUeMuxFindUeByMmeUeId list)).or
    ((fS1apGetEnbUeS1apId pdu).bind (fUeMuxFindUeByEnbUeId list))

/-- A PDU that cannot be routed is logged. -/
def fUeMuxRoutePdu (dpdu : S1apDPdu) : List (Output Comp) :=
  ((fUeMuxFindUeForPdu list dpdu.pdu).bind (fun idx => list[idx]?)).elim []
    (fun r => [.ue r.vcConn dpdu])

variable [DecidableEq Comp]

/-- `f_UEMux_find_ue_by_vc_conn` -/
def fUeMuxFindUeByVcConn (vcConn : Comp) : Option Nat :=
  list.findIdx? (fun r => decide (r.vcConn = vcConn))

/-- The list with the component, and its index. -/
def fUeMuxUeAdd (vcConn : Comp) : List (UeConnData Comp) × Nat :=
  match fUeMuxFindUeByVcConn list vcConn with
  | some idx => (list, idx)
  | none => (list ++ [⟨vcConn, none, none⟩], list.length)

/-- `f_UEMux_subscribe_for_mme_ue_id` -/
def fUeMuxSubscribeForMmeUeId (vcConn : Comp) (mmeUeId : MmeUeS1apId) :
    Except Fault (List (UeConnData Comp)) :=
  if (fUeMuxFindUeByMmeUeId list mmeUeId).isSome then
    .error (.shutdown "MME-UE-ID is already used")
  else .ok ((fUeMuxUeAdd list vcConn).1.modify (fUeMuxUeAdd list vcConn).2
    (fun r => { r with mmeUeId := some mmeUeId }))

/-- `f_UEMux_subscribe_for_enb_ue_id` -/
def fUeMuxSubscribeForEnbUeId (vcConn : Comp) (enbUeId : EnbUeS1apId) :
    Except Fault (List (UeConnData Comp)) :=
  if (fUeMuxFindUeByEnbUeId list enbUeId).isSome then
    .error (.shutdown "ENB-UE-ID is already used")
  else .ok ((fUeMuxUeAdd list vcConn).1.modify (fUeMuxUeAdd list vcConn).2
    (fun r => { r with enbUeId := some enbUeId }))

/-- `f_UEMux_unsubscribe` -/
def fUeMuxUnsubscribe (vcConn : Comp) : Except Fault (List (UeConnData Comp)) :=
  let ueList := list.filter (fun r => decide (r.vcConn ≠ vcConn))
  if ueList.length = list.length then .error (.shutdown "UE is not known")
  else .ok ueList

end Functions

/-- One round of `main`. -/
def mainStep {Comp : Type} [DecidableEq Comp] (s : UeMuxCT Comp) :
    Input Comp → Except Fault (UeMuxCT Comp × List (Output Comp))
  | .s1gw dpdu => .ok (s, fUeMuxRoutePdu s.gUemuxList dpdu)
  | .ue _ dpdu => .ok (s, [.s1gw dpdu])
  | .subscribeForMmeUeId vcConn mmeUeId =>
      (fUeMuxSubscribeForMmeUeId s.gUemuxList vcConn mmeUeId).map (fun list =>
        (⟨list⟩, [.reply vcConn (.subscribeForMmeUeId mmeUeId)]))
  | .subscribeForEnbUeId vcConn enbUeId =>
      (fUeMuxSubscribeForEnbUeId s.gUemuxList vcConn enbUeId).map (fun list =>
        (⟨list⟩, [.reply vcConn (.subscribeForEnbUeId enbUeId)]))
  | .unsubscribe vcConn =>
      (fUeMuxUnsubscribe s.gUemuxList vcConn).map (fun list =>
        (⟨list⟩, [.reply vcConn .unsubscribe]))

/-- No component has subscribed. -/
def ueMuxInit {Comp : Type} : UeMuxCT Comp := { gUemuxList := [] }

-- ── What the list is for ─────────────────────────────────────────────────────

/-- The ids that a component has subscribed for. -/
structure Ids where
  mme : Option MmeUeS1apId
  enb : Option EnbUeS1apId

/-- The registered components, with their ids. -/
abbrev Registered (Comp : Type) : Type := Comp → Option Ids

section Spec

variable {Comp : Type}

/-- The component has subscribed for the MME id. -/
def HoldsMme (g : Registered Comp) (vcConn : Comp) (mmeUeId : MmeUeS1apId) : Prop :=
  ∃ ids, g vcConn = some ids ∧ ids.mme = some mmeUeId

/-- The component has subscribed for the eNB id. -/
def HoldsEnb (g : Registered Comp) (vcConn : Comp) (enbUeId : EnbUeS1apId) : Prop :=
  ∃ ids, g vcConn = some ids ∧ ids.enb = some enbUeId

/-- No component holds the MME UE id of the PDU, if it is one of the messages in
    which it has a place. -/
def NoMmeHolder (g : Registered Comp) (pdu : S1apPdu) : Prop :=
  ∀ mmeUeId, MmeIdAt pdu mmeUeId → ∀ c, ¬ HoldsMme g c mmeUeId

/-- No component holds the eNB UE id of the PDU. -/
def NoEnbHolder (g : Registered Comp) (pdu : S1apPdu) : Prop :=
  ∀ enbUeId, EnbIdAt pdu enbUeId → ∀ c, ¬ HoldsEnb g c enbUeId

/-- The ids of a component that may not be registered. -/
def idsOf (g : Registered Comp) (vcConn : Comp) : Ids :=
  (g vcConn).getD ⟨none, none⟩

variable [DecidableEq Comp]

/-- **ROUTING BY UE IDS**: what may happen on each input. -/
inductive MuxAllowed : Registered Comp → Input Comp → Registered Comp →
    List (Output Comp) → Prop
  | toMmeHolder {g : Registered Comp} {dpdu c mmeUeId}
      (hid : MmeIdAt dpdu.pdu mmeUeId) (hc : HoldsMme g c mmeUeId) :
      MuxAllowed g (.s1gw dpdu) g [.ue c dpdu]
  | toEnbHolder {g : Registered Comp} {dpdu c enbUeId}
      (hno : NoMmeHolder g dpdu.pdu)
      (hid : EnbIdAt dpdu.pdu enbUeId) (hc : HoldsEnb g c enbUeId) :
      MuxAllowed g (.s1gw dpdu) g [.ue c dpdu]
  | toNobody {g : Registered Comp} {dpdu} (hmme : NoMmeHolder g dpdu.pdu)
      (henb : NoEnbHolder g dpdu.pdu) : MuxAllowed g (.s1gw dpdu) g []
  | toS1gw {g : Registered Comp} {c dpdu} : MuxAllowed g (.ue c dpdu) g [.s1gw dpdu]
  | subscribeMme {g : Registered Comp} {c mmeUeId}
      (hfree : ∀ c', ¬ HoldsMme g c' mmeUeId) :
      MuxAllowed g (.subscribeForMmeUeId c mmeUeId)
        (Function.update g c (some { idsOf g c with mme := some mmeUeId }))
        [.reply c (.subscribeForMmeUeId mmeUeId)]
  | subscribeEnb {g : Registered Comp} {c enbUeId}
      (hfree : ∀ c', ¬ HoldsEnb g c' enbUeId) :
      MuxAllowed g (.subscribeForEnbUeId c enbUeId)
        (Function.update g c (some { idsOf g c with enb := some enbUeId }))
        [.reply c (.subscribeForEnbUeId enbUeId)]
  | unsubscribe {g : Registered Comp} {c} (hreg : g c ≠ none) :
      MuxAllowed g (.unsubscribe c) (Function.update g c none) [.reply c .unsubscribe]

omit [DecidableEq Comp] in
/-- Where the test may end: with a subscription for an id that is in use, or when
    a component unsubscribes that is not registered. -/
def MuxStops (g : Registered Comp) : Input Comp → Prop
  | .subscribeForMmeUeId _ mmeUeId => ∃ c, HoldsMme g c mmeUeId
  | .subscribeForEnbUeId _ enbUeId => ∃ c, HoldsEnb g c enbUeId
  | .unsubscribe c => g c = none
  | _ => False

/-- One entry for every registered component, with its ids; no id is in two
    entries; and who unsubscribes takes no PDU from another component. -/
structure Muxes (s : UeMuxCT Comp) (g : Registered Comp) : Prop where
  comps : Represents (fun r => some r.vcConn) (fun r => Ids.mk r.mmeUeId r.enbUeId)
    s.gUemuxList g
  mme : Unique UeConnData.mmeUeId s.gUemuxList
  enb : Unique UeConnData.enbUeId s.gUemuxList
  others : ∀ c c' dpdu s' os, c' ≠ c → mainStep s (.unsubscribe c) = .ok (s', os) →
    mainStep s (.s1gw dpdu) = .ok (s, [.ue c' dpdu]) →
    mainStep s' (.s1gw dpdu) = .ok (s', [.ue c' dpdu])

end Spec

-- ── Routing ──────────────────────────────────────────────────────────────────

section Invariant

variable {Comp : Type}

/-- The list is the map of the registered components, and no id is in two
    entries. -/
structure MuxInv (list : List (UeConnData Comp)) (g : Registered Comp) : Prop where
  comps : Represents (fun r => some r.vcConn) (fun r => Ids.mk r.mmeUeId r.enbUeId)
    list g
  mme : Unique UeConnData.mmeUeId list
  enb : Unique UeConnData.enbUeId list

variable {list : List (UeConnData Comp)} {g : Registered Comp}

/-- Who holds an MME id has it in the list. -/
theorem MuxInv.holdsMme (h : MuxInv list g) {c : Comp} {mmeUeId : MmeUeS1apId} :
    HoldsMme g c mmeUeId ↔ ∃ r ∈ list, r.vcConn = c ∧ r.mmeUeId = some mmeUeId := by
  constructor
  · rintro ⟨ids, hg, hm⟩
    obtain ⟨r, hr, hc, rfl⟩ := (h.comps.holds c ids).mp hg
    exact ⟨r, hr, Option.some.inj hc, hm⟩
  · rintro ⟨r, hr, rfl, hm⟩
    exact ⟨_, h.comps.get hr rfl, hm⟩

/-- Who holds an eNB id has it in the list. -/
theorem MuxInv.holdsEnb (h : MuxInv list g) {c : Comp} {enbUeId : EnbUeS1apId} :
    HoldsEnb g c enbUeId ↔ ∃ r ∈ list, r.vcConn = c ∧ r.enbUeId = some enbUeId := by
  constructor
  · rintro ⟨ids, hg, he⟩
    obtain ⟨r, hr, hc, rfl⟩ := (h.comps.holds c ids).mp hg
    exact ⟨r, hr, Option.some.inj hc, he⟩
  · rintro ⟨r, hr, rfl, he⟩
    exact ⟨_, h.comps.get hr rfl, he⟩

/-- The first entry with an MME id is its holder. -/
theorem findMme_get (mmeUeId : MmeUeS1apId) :
    (fUeMuxFindUeByMmeUeId list mmeUeId).bind (fun idx => list[idx]?)
      = holder UeConnData.mmeUeId list mmeUeId := by
  rw [fUeMuxFindUeByMmeUeId, findIdx_get, holder]

/-- The first entry with an eNB id is its holder. -/
theorem findEnb_get (enbUeId : EnbUeS1apId) :
    (fUeMuxFindUeByEnbUeId list enbUeId).bind (fun idx => list[idx]?)
      = holder UeConnData.enbUeId list enbUeId := by
  rw [fUeMuxFindUeByEnbUeId, findIdx_get, holder]

theorem findMme_none {mmeUeId : MmeUeS1apId} :
    fUeMuxFindUeByMmeUeId list mmeUeId = none
      ↔ ∀ r ∈ list, r.mmeUeId ≠ some mmeUeId := by
  rw [fUeMuxFindUeByMmeUeId, List.findIdx?_eq_none_iff]
  simp

theorem findEnb_none {enbUeId : EnbUeS1apId} :
    fUeMuxFindUeByEnbUeId list enbUeId = none
      ↔ ∀ r ∈ list, r.enbUeId ≠ some enbUeId := by
  rw [fUeMuxFindUeByEnbUeId, List.findIdx?_eq_none_iff]
  simp

/-- An MME id is looked up in vain if nobody holds it. -/
theorem MuxInv.noMme (h : MuxInv list g) {mmeUeId : MmeUeS1apId} :
    (∀ c, ¬ HoldsMme g c mmeUeId) ↔ fUeMuxFindUeByMmeUeId list mmeUeId = none := by
  rw [findMme_none]
  constructor
  · intro hno r hr hm
    exact hno r.vcConn (h.holdsMme.mpr ⟨r, hr, rfl, hm⟩)
  · intro hno c hc
    obtain ⟨r, hr, -, hm⟩ := h.holdsMme.mp hc
    exact hno r hr hm

theorem MuxInv.noEnb (h : MuxInv list g) {enbUeId : EnbUeS1apId} :
    (∀ c, ¬ HoldsEnb g c enbUeId) ↔ fUeMuxFindUeByEnbUeId list enbUeId = none := by
  rw [findEnb_none]
  constructor
  · intro hno r hr he
    exact hno r.vcConn (h.holdsEnb.mpr ⟨r, hr, rfl, he⟩)
  · intro hno c hc
    obtain ⟨r, hr, -, he⟩ := h.holdsEnb.mp hc
    exact hno r hr he

/-- Without a holder of its MME UE id a PDU is routed by its eNB UE id. -/
theorem MuxInv.find_noMme (h : MuxInv list g) {pdu : S1apPdu}
    (hno : NoMmeHolder g pdu) : fUeMuxFindUeForPdu list pdu
      = (fS1apGetEnbUeS1apId pdu).bind (fUeMuxFindUeByEnbUeId list) := by
  rw [fUeMuxFindUeForPdu]
  cases hid : fS1apGetMmeUeS1apId pdu with
  | none => rfl
  | some mmeUeId =>
      show (fUeMuxFindUeByMmeUeId list mmeUeId).or _ = _
      rw [h.noMme.mp (hno mmeUeId (fS1apGetMmeUeS1apId_iff.mp hid))]
      rfl

/-- **A PDU GOES TO THE HOLDER** of its MME id. -/
theorem MuxInv.route_mme (h : MuxInv list g) {dpdu : S1apDPdu} {c : Comp}
    {mmeUeId : MmeUeS1apId} (hid : MmeIdAt dpdu.pdu mmeUeId)
    (hc : HoldsMme g c mmeUeId) : fUeMuxRoutePdu list dpdu = [.ue c dpdu] := by
  obtain ⟨r, hr, rfl, hm⟩ := h.holdsMme.mp hc
  have hget := (findMme_get mmeUeId).trans (h.mme.holder_iff.mpr ⟨hr, hm⟩)
  obtain ⟨idx, hidx, hr'⟩ := Option.bind_eq_some_iff.mp hget
  have hfind : fUeMuxFindUeForPdu list dpdu.pdu = some idx := by
    rw [fUeMuxFindUeForPdu, fS1apGetMmeUeS1apId_iff.mpr hid]
    show (fUeMuxFindUeByMmeUeId list mmeUeId).or _ = _
    rw [hidx]
    rfl
  rw [fUeMuxRoutePdu, hfind]
  show list[idx]?.elim _ _ = _
  rw [hr']
  rfl

/-- Else it goes to the holder of its eNB id. -/
theorem MuxInv.route_enb (h : MuxInv list g) {dpdu : S1apDPdu} {c : Comp}
    {enbUeId : EnbUeS1apId} (hno : NoMmeHolder g dpdu.pdu)
    (hid : EnbIdAt dpdu.pdu enbUeId) (hc : HoldsEnb g c enbUeId) :
    fUeMuxRoutePdu list dpdu = [.ue c dpdu] := by
  obtain ⟨r, hr, rfl, he⟩ := h.holdsEnb.mp hc
  have hget := (findEnb_get enbUeId).trans (h.enb.holder_iff.mpr ⟨hr, he⟩)
  rw [fUeMuxRoutePdu, h.find_noMme hno, fS1apGetEnbUeS1apId_iff.mpr hid]
  show Option.elim ((fUeMuxFindUeByEnbUeId list enbUeId).bind _) _ _ = _
  rw [hget]
  rfl

/-- Else it goes to nobody. -/
theorem MuxInv.route_nobody (h : MuxInv list g) {dpdu : S1apDPdu}
    (hmme : NoMmeHolder g dpdu.pdu) (henb : NoEnbHolder g dpdu.pdu) :
    fUeMuxRoutePdu list dpdu = [] := by
  rw [fUeMuxRoutePdu, h.find_noMme hmme]
  cases hid : fS1apGetEnbUeS1apId dpdu.pdu with
  | none => rfl
  | some enbUeId =>
      show Option.elim ((fUeMuxFindUeByEnbUeId list enbUeId).bind _) _ _ = _
      rw [h.noEnb.mp (henb enbUeId (fS1apGetEnbUeS1apId_iff.mp hid))]
      rfl

/-- **THE THREE WAYS OF A PDU**. -/
theorem holders_cases (g : Registered Comp) (pdu : S1apPdu) :
    (∃ c mmeUeId, MmeIdAt pdu mmeUeId ∧ HoldsMme g c mmeUeId)
      ∨ (NoMmeHolder g pdu ∧ ∃ c enbUeId, EnbIdAt pdu enbUeId ∧ HoldsEnb g c enbUeId)
      ∨ (NoMmeHolder g pdu ∧ NoEnbHolder g pdu) := by
  by_cases hmme : NoMmeHolder g pdu
  · by_cases henb : NoEnbHolder g pdu
    · exact Or.inr (Or.inr ⟨hmme, henb⟩)
    · rw [NoEnbHolder] at henb
      push Not at henb
      obtain ⟨enbUeId, hid, c, hc⟩ := henb
      exact Or.inr (Or.inl ⟨hmme, c, enbUeId, hid, hc⟩)
  · rw [NoMmeHolder] at hmme
    push Not at hmme
    obtain ⟨mmeUeId, hid, c, hc⟩ := hmme
    exact Or.inl ⟨c, mmeUeId, hid, hc⟩

-- ── Subscriptions ────────────────────────────────────────────────────────────

variable [DecidableEq Comp]

theorem vcConn_test (c : Comp) :
    (fun r : UeConnData Comp => decide (r.vcConn = c))
      = fun r => decide (some r.vcConn = some c) := by
  funext r
  exact decide_eq_decide.mpr Option.some_inj.symm

/-- **A COMPONENT IS ADDED OR FOUND**, and its entry changed. -/
theorem MuxInv.ueAdd_modify (h : MuxInv list g) (c : Comp)
    (f : UeConnData Comp → UeConnData Comp) :
    (g c = none ∧ (fUeMuxUeAdd list c).1.modify (fUeMuxUeAdd list c).2 f
        = list ++ [f ⟨c, none, none⟩])
      ∨ (g c ≠ none ∧ (fUeMuxUeAdd list c).1.modify (fUeMuxUeAdd list c).2 f
        = list.map (fun r => if decide (some r.vcConn = some c) = true then f r else r)) := by
  rw [fUeMuxUeAdd, fUeMuxFindUeByVcConn, vcConn_test]
  cases hidx : list.findIdx? (fun r => decide (some r.vcConn = some c)) with
  | none =>
      refine Or.inl ⟨h.comps.get_none.mpr ?_, modify_append_length list _ f⟩
      intro r hr hk
      have hfalse := List.findIdx?_eq_none_iff.mp hidx r hr
      rw [decide_eq_true hk] at hfalse
      exact nomatch hfalse
  | some idx =>
      refine Or.inr ⟨?_, modify_findIdx (h.comps.unique.atMostOne c) hidx⟩
      intro hnone
      have hget := findIdx_get (l := list) (fun r => decide (some r.vcConn = some c))
      rw [hidx] at hget
      have hlt := (List.findIdx?_eq_some_iff_findIdx_eq.mp hidx).1
      have hsome : list.find? (fun r => decide (some r.vcConn = some c)) = some list[idx] := by
        rw [← hget]
        exact List.getElem?_eq_getElem hlt
      obtain ⟨hr, hk⟩ := h.comps.unique.holder_iff.mp hsome
      exact h.comps.get_none.mp hnone _ hr hk

/-- A component gets an id: the map of the components. -/
theorem MuxInv.subscribe_comps (h : MuxInv list g) (c : Comp)
    {f : UeConnData Comp → UeConnData Comp} {u : Ids → Ids}
    (hcomp : ∀ r, (f r).vcConn = r.vcConn)
    (hids : ∀ r, Ids.mk (f r).mmeUeId (f r).enbUeId = u (Ids.mk r.mmeUeId r.enbUeId)) :
    Represents (fun r => some r.vcConn) (fun r => Ids.mk r.mmeUeId r.enbUeId)
      ((fUeMuxUeAdd list c).1.modify (fUeMuxUeAdd list c).2 f)
      (Function.update g c (some (u (idsOf g c)))) := by
  obtain ⟨hnone, heq⟩ | ⟨hsome, heq⟩ := h.ueAdd_modify c f
  · rw [heq, idsOf, hnone]
    have hkey : some (f ⟨c, none, none⟩).vcConn = some c := congrArg some (hcomp _)
    have hval := hids ⟨c, none, none⟩
    have happend := h.comps.append hkey hnone
    rw [hval] at happend
    exact happend
  · obtain ⟨ids, hg⟩ := Option.ne_none_iff_exists'.mp hsome
    rw [heq, idsOf, hg]
    have hset := h.comps.map_set (k := c) (fun r => congrArg some (hcomp r)) hids
    rw [hg] at hset
    exact hset

/-- A component gets an id that no entry has. -/
theorem MuxInv.subscribe_set {κ : Type} [DecidableEq κ]
    {key : UeConnData Comp → Option κ} {k : κ} (h : MuxInv list g)
    (hkey : Unique key list) (c : Comp) {f : UeConnData Comp → UeConnData Comp}
    (hset : ∀ r, key (f r) = some k) (hfree : ∀ r ∈ list, key r ≠ some k) :
    Unique key ((fUeMuxUeAdd list c).1.modify (fUeMuxUeAdd list c).2 f) := by
  obtain ⟨-, heq⟩ | ⟨-, heq⟩ := h.ueAdd_modify c f
  · rw [heq]
    refine hkey.append (fun k' hk' => ?_)
    rw [hset] at hk'
    rw [← Option.some.inj hk']
    exact hfree
  · rw [heq]
    refine hkey.map_set (h.comps.unique.atMostOne c) (fun r hr => ?_) (fun r hr => ?_)
      hfree
    · rw [if_pos hr]
      exact hset r
    · rw [hr, if_neg Bool.false_ne_true]

/-- The other id of every component stays as it is. -/
theorem MuxInv.subscribe_keep {κ : Type} {key : UeConnData Comp → Option κ}
    (h : MuxInv list g) (hkey : Unique key list) (c : Comp)
    {f : UeConnData Comp → UeConnData Comp} (hkeep : ∀ r, key (f r) = key r)
    (hnew : key ⟨c, none, none⟩ = none) :
    Unique key ((fUeMuxUeAdd list c).1.modify (fUeMuxUeAdd list c).2 f) := by
  obtain ⟨-, heq⟩ | ⟨-, heq⟩ := h.ueAdd_modify c f
  · rw [heq]
    refine hkey.append (fun k' hk' => ?_)
    rw [hkeep, hnew] at hk'
    exact nomatch hk'
  · rw [heq]
    refine hkey.map_same (fun r => ?_)
    split
    · exact hkeep r
    · rfl

/-- A component leaves the list. -/
theorem MuxInv.leave (h : MuxInv list g) (c : Comp) :
    MuxInv (list.filter (fun r => decide (r.vcConn ≠ c))) (Function.update g c none) where
  comps := h.comps.filter c (fun r _ => by simp)
  mme := h.mme.filter _
  enb := h.enb.filter _

theorem MuxInv.leave_length (h : MuxInv list g) (c : Comp) :
    (list.filter (fun r => decide (r.vcConn ≠ c))).length = list.length ↔ g c = none :=
  h.comps.filter_length (fun r _ => by simp)

theorem HoldsMme.leave {c c' : Comp} {mmeUeId : MmeUeS1apId}
    (h : HoldsMme g c' mmeUeId) (hne : c' ≠ c) :
    HoldsMme (Function.update g c none) c' mmeUeId := by
  obtain ⟨ids, hg, hm⟩ := h
  exact ⟨ids, (Function.update_of_ne hne none g).trans hg, hm⟩

theorem HoldsEnb.leave {c c' : Comp} {enbUeId : EnbUeS1apId}
    (h : HoldsEnb g c' enbUeId) (hne : c' ≠ c) :
    HoldsEnb (Function.update g c none) c' enbUeId := by
  obtain ⟨ids, hg, he⟩ := h
  exact ⟨ids, (Function.update_of_ne hne none g).trans hg, he⟩

theorem NoMmeHolder.leave {pdu : S1apPdu} (h : NoMmeHolder g pdu) (c : Comp) :
    NoMmeHolder (Function.update g c none) pdu := by
  rintro mmeUeId hid c' ⟨ids, hg, hm⟩
  by_cases hcc : c' = c
  · rw [hcc, Function.update_self] at hg
    exact nomatch hg
  · rw [Function.update_of_ne hcc] at hg
    exact h mmeUeId hid c' ⟨ids, hg, hm⟩

/-- **THE OTHERS KEEP THEIR PDUS**: what went to another component before still
    goes to it when a component has left. -/
theorem MuxInv.others (h : MuxInv list g) {c c' : Comp} {dpdu : S1apDPdu}
    (hne : c' ≠ c) (hroute : fUeMuxRoutePdu list dpdu = [.ue c' dpdu]) :
    fUeMuxRoutePdu (list.filter (fun r => decide (r.vcConn ≠ c))) dpdu
      = [.ue c' dpdu] := by
  have hleft := h.leave c
  have hsame : ∀ d, fUeMuxRoutePdu list dpdu = [.ue d dpdu] → d = c' := by
    intro d hd
    rw [hroute] at hd
    exact (Output.ue.inj (List.cons.inj hd).1).1.symm
  rcases holders_cases g dpdu.pdu with ⟨d, mmeUeId, hid, hd⟩ |
    ⟨hno, d, enbUeId, hid, hd⟩ | ⟨hmme, henb⟩
  · rw [hsame d (h.route_mme hid hd)] at hd
    exact hleft.route_mme hid (hd.leave hne)
  · rw [hsame d (h.route_enb hno hid hd)] at hd
    exact hleft.route_enb (hno.leave c) hid (hd.leave hne)
  · rw [h.route_nobody hmme henb] at hroute
    exact nomatch hroute

-- ── Every input keeps it ─────────────────────────────────────────────────────

/-- Who unsubscribes leaves the list. -/
theorem MuxInv.unsubscribe_ok {c : Comp} {list' : List (UeConnData Comp)}
    (h : fUeMuxUnsubscribe list c = .ok list') :
    list' = list.filter (fun r => decide (r.vcConn ≠ c)) := by
  rw [fUeMuxUnsubscribe] at h
  split at h
  · exact nomatch h
  · exact (Except.ok.inj h).symm

variable {s : UeMuxCT Comp}

/-- The invariant says what the specification says of the list. -/
theorem MuxInv.holds (h : MuxInv s.gUemuxList g) : Muxes s g where
  comps := h.comps
  mme := h.mme
  enb := h.enb
  others := by
    intro c c' dpdu s' os hne hunsub hroute
    obtain ⟨list', hlist, heq⟩ := map_ok hunsub
    have hs' : s' = ⟨list'⟩ := (congrArg Prod.fst heq).symm
    have hroute' := (Prod.mk.inj (Except.ok.inj hroute)).2
    rw [hs', MuxInv.unsubscribe_ok hlist]
    exact congrArg (fun os => Except.ok (_, os)) (h.others hne hroute')

/-- **ONE INPUT**. -/
theorem mainStep_follows {input : Input Comp} (h : MuxInv s.gUemuxList g) :
    StepFollows mainStep MuxAllowed MuxStops (fun s g => MuxInv s.gUemuxList g) s g
      input := by
  cases input with
  | s1gw dpdu =>
      have hok : ∀ os, fUeMuxRoutePdu s.gUemuxList dpdu = os →
          mainStep s (.s1gw dpdu) = .ok (s, os) :=
        fun os hos => congrArg (fun os => Except.ok (s, os)) hos
      rcases holders_cases g dpdu.pdu with ⟨c, mmeUeId, hid, hc⟩ |
        ⟨hno, c, enbUeId, hid, hc⟩ | ⟨hmme, henb⟩
      · exact stepFollows_ok (hok _ (h.route_mme hid hc))
          (MuxAllowed.toMmeHolder hid hc) h
      · exact stepFollows_ok (hok _ (h.route_enb hno hid hc))
          (MuxAllowed.toEnbHolder hno hid hc) h
      · exact stepFollows_ok (hok _ (h.route_nobody hmme henb))
          (MuxAllowed.toNobody hmme henb) h
  | ue c dpdu => exact stepFollows_ok rfl MuxAllowed.toS1gw h
  | subscribeForMmeUeId c mmeUeId =>
      cases hf : fUeMuxFindUeByMmeUeId s.gUemuxList mmeUeId with
      | some idx =>
          have herr : mainStep s (.subscribeForMmeUeId c mmeUeId)
              = .error (.shutdown "MME-UE-ID is already used") := by
            rw [mainStep, fUeMuxSubscribeForMmeUeId, hf]
            rfl
          refine stepFollows_error herr ?_
          by_contra hno
          have hnone := h.noMme.mp (fun c' hc' => hno ⟨c', hc'⟩)
          rw [hf] at hnone
          exact nomatch hnone
      | none =>
          have hok : mainStep s (.subscribeForMmeUeId c mmeUeId) = .ok
              (⟨(fUeMuxUeAdd s.gUemuxList c).1.modify (fUeMuxUeAdd s.gUemuxList c).2
                (fun r => { r with mmeUeId := some mmeUeId })⟩,
              [.reply c (.subscribeForMmeUeId mmeUeId)]) := by
            rw [mainStep, fUeMuxSubscribeForMmeUeId, hf]
            rfl
          refine stepFollows_ok hok (MuxAllowed.subscribeMme (h.noMme.mpr hf))
            ⟨?_, ?_, ?_⟩
          · exact h.subscribe_comps c (u := fun ids => { ids with mme := some mmeUeId })
              (fun _ => rfl) (fun _ => rfl)
          · exact h.subscribe_set h.mme c (fun _ => rfl) (findMme_none.mp hf)
          · exact h.subscribe_keep h.enb c (fun _ => rfl) rfl
  | subscribeForEnbUeId c enbUeId =>
      cases hf : fUeMuxFindUeByEnbUeId s.gUemuxList enbUeId with
      | some idx =>
          have herr : mainStep s (.subscribeForEnbUeId c enbUeId)
              = .error (.shutdown "ENB-UE-ID is already used") := by
            rw [mainStep, fUeMuxSubscribeForEnbUeId, hf]
            rfl
          refine stepFollows_error herr ?_
          by_contra hno
          have hnone := h.noEnb.mp (fun c' hc' => hno ⟨c', hc'⟩)
          rw [hf] at hnone
          exact nomatch hnone
      | none =>
          have hok : mainStep s (.subscribeForEnbUeId c enbUeId) = .ok
              (⟨(fUeMuxUeAdd s.gUemuxList c).1.modify (fUeMuxUeAdd s.gUemuxList c).2
                (fun r => { r with enbUeId := some enbUeId })⟩,
              [.reply c (.subscribeForEnbUeId enbUeId)]) := by
            rw [mainStep, fUeMuxSubscribeForEnbUeId, hf]
            rfl
          refine stepFollows_ok hok (MuxAllowed.subscribeEnb (h.noEnb.mpr hf))
            ⟨?_, ?_, ?_⟩
          · exact h.subscribe_comps c (u := fun ids => { ids with enb := some enbUeId })
              (fun _ => rfl) (fun _ => rfl)
          · exact h.subscribe_keep h.mme c (fun _ => rfl) rfl
          · exact h.subscribe_set h.enb c (fun _ => rfl) (findEnb_none.mp hf)
  | unsubscribe c =>
      by_cases hreg : g c = none
      · have herr : mainStep s (.unsubscribe c) = .error (.shutdown "UE is not known") := by
          rw [mainStep, fUeMuxUnsubscribe, if_pos ((h.leave_length c).mpr hreg)]
          rfl
        exact stepFollows_error herr hreg
      · have hok : mainStep s (.unsubscribe c) = .ok
            (⟨s.gUemuxList.filter (fun r => decide (r.vcConn ≠ c))⟩,
              [.reply c .unsubscribe]) := by
          rw [mainStep, fUeMuxUnsubscribe,
            if_neg (fun hlen => hreg ((h.leave_length c).mp hlen))]
          rfl
        exact stepFollows_ok hok (MuxAllowed.unsubscribe hreg) (h.leave c)

omit [DecidableEq Comp] in
/-- At the start nobody has subscribed. -/
theorem muxInv_init : MuxInv (ueMuxInit : UeMuxCT Comp).gUemuxList (fun _ => none) where
  comps := represents_nil
  mme := unique_nil
  enb := unique_nil

/-- **THE UE MULTIPLEXER**: every run goes as the specification says. -/
theorem ue_mux (inputs : List (Input Comp)) :
    Follows mainStep MuxAllowed MuxStops Muxes ueMuxInit (fun _ => none) inputs :=
  (follows_of_step (fun _ _ _ h => mainStep_follows h) inputs muxInv_init).imp
    (fun _ _ h => h.holds)

end Invariant

/-- An E-RAB SETUP RESPONSE with both ids. -/
def rabSetupRsp : S1apPdu :=
  { outcome := .successfulOutcome, procedureCode := idERABSetup, criticality := .reject
    protocolIEs := [⟨.ignore, .mmeUeS1apId 5⟩, ⟨.ignore, .enbUeS1apId 6⟩] }

/-- **IDS THAT ARE NOT FOUND**: the component holds both ids of the PDU, which
    still goes to nobody. -/
theorem rabSetupRsp_unrouted :
    RunGuard.run mainStep (ueMuxInit : UeMuxCT Nat)
        [.subscribeForMmeUeId 10 5, .subscribeForEnbUeId 10 6,
          .s1gw ⟨.fromEnb, rabSetupRsp⟩]
      = .ok (⟨[⟨10, some 5, some 6⟩]⟩, [[.reply 10 (.subscribeForMmeUeId 5)],
        [.reply 10 (.subscribeForEnbUeId 6)], []])
      ∧ CarriesMme rabSetupRsp 5 ∧ CarriesEnb rabSetupRsp 6 := by
  refine ⟨rfl, ⟨_, List.mem_cons_self, Or.inl rfl⟩,
    ⟨⟨.ignore, .enbUeS1apId 6⟩, ?_, Or.inl rfl⟩⟩
  exact List.mem_cons_of_mem _ List.mem_cons_self

end OsmoUeMux
