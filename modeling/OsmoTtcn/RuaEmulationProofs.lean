import OsmoTtcn.SlotMapProofs
import OsmoTtcn.SpecRunProofs
import OsmoTtcn.TitanProofs

/-! # Connections of the RUA emulation

    `RUA_Emulation` maps the clients to RUA contexts.  A context begins with a
    Connect of the peer, for which a call-back creates the client, or with a
    RUA_Conn_Req of a client, for which a context id is drawn; it ends with a
    Disconnect of either side.

    Deleting a connection clears the context id of its slot and leaves the
    component, by which a client is known.  So the next RUA_Conn_Req of a
    client that was disconnected is taken for a message on an existing
    connection: the context id is -1, which is no bit string.  For a client
    with a live context the same branch uses a domain that was never set.
    `rua_lifecycle` proves the life cycle right of every run in which a
    RUA_Conn_Req only comes from a client that no slot has, and a Connect of
    the peer brings a new context id and a client without a context. -/

namespace OsmoRua

open OsmoTitan SlotTable SlotMap SpecRun

/-- `CN_DomainIndicator` -/
inductive CNDomainIndicator where
  | csDomain
  | psDomain
  deriving DecidableEq, Repr

/-- `RUA_Context_ID`, of 24 bits. -/
abbrev ContextId : Type := BitVec 24

/-- `bit2int` -/
def bit2int (b : ContextId) : Int := b.toNat

/-- `int2bit(n, 24)` -/
def int2bit (n : Int) : Except Fault ContextId :=
  if 0 ≤ n ∧ n < 16777216 then .ok (BitVec.ofNat 24 n.toNat) else .error .outOfRange

/-- A RUA PDU; `P` is a RANAP message and `C` a cause. -/
inductive RuaPdu (C P : Type) where
  | connectionlessTransfer (ranap : P)
  | connect (domain : CNDomainIndicator) (contextId : ContextId) (ranap : P)
  | directTransfer (domain : CNDomainIndicator) (contextId : ContextId) (ranap : P)
  | disconnect (domain : CNDomainIndicator) (contextId : ContextId) (cause : C)
      (ranap : Option P)
  deriving DecidableEq

/-- Represents a single RANAP connection over RUA. -/
structure ConnectionData (Comp : Type) where
  /-- `none`: the null reference. -/
  compRef : Option Comp
  /-- `none`: unbound. -/
  domain : Option CNDomainIndicator
  contextId : Int

/-- `ConnectionTable` -/
abbrev ConnectionTable (Comp : Type) : Type := Fin 16 → ConnectionData Comp

/-- `f_conn_table_init` -/
def connTableInit {Comp : Type} : ConnectionTable Comp := fun _ =>
  { compRef := none, domain := none, contextId := -1 }

/-- What comes in: a PDU of the peer, or a message of a client.  A Connect
    comes with the component that `create_cb` returns for it, a unit-data PDU
    with the answer of `unitdata_cb`, a Disconnect with the state of the port
    to the clients, and a RUA_Conn_Req with the context ids that are drawn. -/
inductive Input (Comp C P : Type) where
  | rxConnectionlessTransfer (ranap : P) (resp : Option P)
  | rxConnect (domain : CNDomainIndicator) (contextId : ContextId) (ranap : P)
      (vcConn : Comp)
  | rxDirectTransfer (domain : CNDomainIndicator) (contextId : ContextId) (ranap : P)
  | rxDisconnect (domain : CNDomainIndicator) (contextId : ContextId) (cause : C)
      (ranap : Option P) (connected : Bool)
  | clientRanap (client : Comp) (ranap : P)
  | clientDiscReq (client : Comp) (cause : C) (ranap : Option P)
  | clientConnReq (client : Comp) (psDomain : Bool) (ranap : P)
      (draws : List ContextId)

/-- What is sent. -/
inductive Output (Comp C P : Type) where
  | rua (pdu : RuaPdu C P)
  | ranap (client : Comp) (ranap : P)
  | discInd (client : Comp) (cause : C)
  deriving DecidableEq

-- ── The functions of the table ───────────────────────────────────────────────

section Functions

variable {Comp C P : Type} [DecidableEq Comp] (t : ConnectionTable Comp)

/-- The entry of a context. -/
def findContextId (contextId : Int) : Option (Fin 16) :=
  find t (fun c => decide (c.contextId = contextId))

/-- The entry of a component. -/
def findComp (client : Comp) : Option (Fin 16) :=
  find t (fun c => decide (c.compRef = some client))

/-- `f_context_id_known` -/
def fContextIdKnown (contextId : ContextId) : Bool :=
  (findContextId t (bit2int contextId)).isSome

/-- `f_comp_known` -/
def fCompKnown (client : Comp) : Bool := (findComp t client).isSome

/-- resolve ConnectionTable index component reference -/
def fIdxByComp (client : Comp) : Except Fault (Fin 16) :=
  orShutdown (findComp t client) "RAN Connection table not found by component "

/-- resolve connection ID by component reference -/
def fContextIdByComp (client : Comp) : Except Fault ContextId :=
  (fIdxByComp t client).bind (fun i => int2bit (t i).contextId)

/-- The first of the ids drawn that no connection has. -/
def fGenContextId : List ContextId → Except Fault ContextId
  | [] => .error .outOfFuel
  | contextId :: draws =>
      if fContextIdKnown t contextId then fGenContextId draws else .ok contextId

/-- `f_conn_table_add` -/
def fConnTableAdd (compRef : Comp) (domain : CNDomainIndicator)
    (contextId : ContextId) : Except Fault (ConnectionTable Comp) :=
  (orShutdown (findContextId t (-1)) "RUA Connection table full!").map
    (fun i => Function.update t i
      { compRef := some compRef, domain := some domain
        contextId := bit2int contextId })

/-- The component is left as it is. -/
def fConnTableDel (contextId : ContextId) : Except Fault (ConnectionTable Comp) :=
  (orShutdown (findContextId t (bit2int contextId))
    "RUA Connection table attempt to delete non-existant ").map
    (fun i => Function.update t i { t i with contextId := -1 })

/-- resolve component reference by connection ID; the null reference is no
    component to send to. -/
def fCompByContextId (contextId : ContextId) : Except Fault Comp :=
  (orShutdown (findContextId t (bit2int contextId))
    "RUA Connection table not found by RUA Context ID ").bind
    (fun i => bound (t i).compRef)

/-- Context id and domain of the slot of a client. -/
def fContextOf (client : Comp) : Except Fault (ContextId × CNDomainIndicator) :=
  (fIdxByComp t client).bind (fun i =>
    (int2bit (t i).contextId).bind (fun contextId =>
      (bound (t i).domain).map (fun domain => (contextId, domain))))

/-- `as_main_rua` -/
def asMainRua : Input Comp C P →
    Except Fault (ConnectionTable Comp × List (Output Comp C P))
  | .rxConnectionlessTransfer _ resp =>
      .ok (t, (resp.map (fun r => .rua (.connectionlessTransfer r))).toList)
  | .rxConnect domain contextId ranap vcConn =>
      (fConnTableAdd t vcConn domain contextId).map
        (fun t' => (t', [.ranap vcConn ranap]))
  | .rxDirectTransfer _ contextId ranap =>
      (fCompByContextId t contextId).map (fun vcConn => (t, [.ranap vcConn ranap]))
  | .rxDisconnect _ contextId cause ranap connected =>
      (fCompByContextId t contextId).bind (fun vcConn =>
        (fConnTableDel t contextId).map (fun t' => (t',
          (ranap.map (fun r => .ranap vcConn r)).toList
            ++ if connected then [.discInd vcConn cause] else [])))
  | .clientRanap client ranap =>
      (fContextOf t client).map
        (fun c => (t, [.rua (.directTransfer c.2 c.1 ranap)]))
  | .clientDiscReq client cause ranap =>
      (fContextOf t client).bind (fun c =>
        (fConnTableDel t c.1).map
          (fun t' => (t', [.rua (.disconnect c.2 c.1 cause ranap)])))
  | .clientConnReq client psDomain ranap draws =>
      if fCompKnown t client = false then
        -- unknown client, create new connection
        (fGenContextId t draws).bind (fun contextId =>
          (fConnTableAdd t client (if psDomain then .psDomain else .csDomain)
            contextId).map (fun t' => (t', [.rua (.connect
              (if psDomain then .psDomain else .csDomain) contextId ranap)])))
      else
        -- known client: domain_ind is not set in this branch
        (fContextIdByComp t client).bind (fun _ => .error .unbound)

end Functions

-- ── What the table is for ────────────────────────────────────────────────────

/-- A live context. -/
structure Context (Comp : Type) where
  client : Comp
  domain : CNDomainIndicator
  deriving DecidableEq

/-- The live contexts by their id. -/
abbrev Contexts (Comp : Type) : Type := ContextId → Option (Context Comp)

section Spec

variable {Comp C P : Type} [DecidableEq Comp]

/-- The client has no live context. -/
def Contexts.Unknown (g : Contexts Comp) (client : Comp) : Prop :=
  ∀ c x, g c = some x → x.client ≠ client

/-- **THE LIFE CYCLE**: what may happen on each input.  A client without a live
    context gets a new one by RUA_Conn_Req; whatever is sent for a client with
    one carries its id and its domain. -/
inductive RuaAllowed : Contexts Comp → Input Comp C P → Contexts Comp →
    List (Output Comp C P) → Prop
  | unitdata (g ranap) (resp : Option P) :
      RuaAllowed g (.rxConnectionlessTransfer ranap resp) g
        (resp.map (fun r => .rua (.connectionlessTransfer r))).toList
  | connect {g domain c ranap vcConn} (hnew : g c = none)
      (hunknown : g.Unknown vcConn) :
      RuaAllowed g (.rxConnect domain c ranap vcConn)
        (Function.update g c (some ⟨vcConn, domain⟩)) [.ranap vcConn ranap]
  | directTransfer {g : Contexts Comp} {domain c ranap} {x : Context Comp}
      (hlive : g c = some x) :
      RuaAllowed g (.rxDirectTransfer domain c ranap) g [.ranap x.client ranap]
  | disconnect {g : Contexts Comp} {domain c cause connected} {x : Context Comp}
      {ranap : Option P} (hlive : g c = some x) :
      RuaAllowed g (.rxDisconnect domain c cause ranap connected)
        (Function.update g c none)
        ((ranap.map (fun r => .ranap x.client r)).toList
          ++ if connected then [.discInd x.client cause] else [])
  | clientRanap {g : Contexts Comp} {c ranap} {x : Context Comp}
      (hlive : g c = some x) :
      RuaAllowed g (.clientRanap x.client ranap) g
        [.rua (.directTransfer x.domain c ranap)]
  | clientDiscReq {g : Contexts Comp} {c cause ranap} {x : Context Comp}
      (hlive : g c = some x) :
      RuaAllowed g (.clientDiscReq x.client cause ranap) (Function.update g c none)
        [.rua (.disconnect x.domain c cause ranap)]
  | clientConnReq {g : Contexts Comp} {client psDomain ranap c}
      {draws : List ContextId} (hunknown : g.Unknown client) (hdrawn : c ∈ draws)
      (hfresh : g c = none) :
      RuaAllowed g (.clientConnReq client psDomain ranap draws)
        (Function.update g c
          (some ⟨client, if psDomain then .psDomain else .csDomain⟩))
        [.rua (.connect (if psDomain then .psDomain else .csDomain) c ranap)]
  | knownConnReq {g : Contexts Comp} {psDomain ranap draws c} {x : Context Comp}
      (hlive : g c = some x) :
      RuaAllowed g (.clientConnReq x.client psDomain ranap draws) g
        [.rua (.directTransfer x.domain c ranap)]

/-- Where the test may end: with a message for a context that there is not, a
    message of a client that has none, or a new context when all 16 are live or
    no new id is drawn. -/
def RuaStops (g : Contexts Comp) : Input Comp C P → Prop
  | .rxConnectionlessTransfer _ _ => False
  | .rxConnect _ _ _ _ => Full 16 g
  | .rxDirectTransfer _ c _ => g c = none
  | .rxDisconnect _ c _ _ _ => g c = none
  | .clientRanap client _ => g.Unknown client
  | .clientDiscReq client _ _ => g.Unknown client
  | .clientConnReq client _ _ draws =>
      g.Unknown client ∧ (Full 16 g ∨ ∀ c ∈ draws, g c ≠ none)

/-- Every live context is in one slot, and every client has at most one. -/
structure Lifecycle (t : ConnectionTable Comp) (g : Contexts Comp) : Prop where
  live : ∀ c x, g c = some x ↔ ∃ i, (t i).contextId = bit2int c
    ∧ (t i).compRef = some x.client ∧ (t i).domain = some x.domain
  distinct : ∀ i j, (t i).contextId ≠ -1 →
    (t i).contextId = (t j).contextId → i = j
  oneContext : ∀ c d x y, g c = some x → g d = some y → x.client = y.client → c = d

/-- What an input has to meet: the peer connects with a new context id and a
    client without a live context, and a client that asks for a connection is
    in no slot, not even in one that is free again. -/
def RuaGuard (t : ConnectionTable Comp) : Input Comp C P → Prop
  | .rxConnect _ c _ vcConn => ∀ i, (t i).contextId ≠ bit2int c
      ∧ ((t i).contextId ≠ -1 → (t i).compRef ≠ some vcConn)
  | .clientConnReq client _ _ _ => ∀ i, (t i).compRef ≠ some client
  | _ => True

end Spec

-- ── The invariant ────────────────────────────────────────────────────────────

/-- No context has the id that marks a free entry. -/
theorem bit2int_ne (c : ContextId) : bit2int c ≠ -1 := by
  rw [bit2int]
  omega

/-- Two ids of one number are the same. -/
theorem bit2int_inj {c d : ContextId} (h : bit2int c = bit2int d) : c = d :=
  BitVec.eq_of_toNat_eq (Int.ofNat.inj h)

/-- An id comes back from its number. -/
theorem int2bit_bit2int (c : ContextId) : int2bit (bit2int c) = .ok c := by
  have hlt := c.isLt
  rw [int2bit, bit2int, if_pos ⟨by omega, by omega⟩, Int.toNat_natCast,
    BitVec.ofNat_toNat, BitVec.setWidth_eq]

theorem int2bit_neg : int2bit (-1) = .error .outOfRange := rfl

section Invariant

variable {Comp C P : Type}

/-- The context in a slot. -/
def entry (s : ConnectionData Comp) : Option (ContextId × Context Comp) :=
  if s.contextId = -1 then none
  else s.compRef.bind (fun client => s.domain.map
    (fun domain => (BitVec.ofInt 24 s.contextId, ⟨client, domain⟩)))

/-- The slot has the context. -/
structure Has (s : ConnectionData Comp) (c : ContextId) (x : Context Comp) :
    Prop where
  contextId : s.contextId = bit2int c
  compRef : s.compRef = some x.client
  domain : s.domain = some x.domain

/-- The table holds the contexts, one slot each; a slot is free or has a
    context; and no slot in front of the one of a client names this client. -/
structure TableInv (t : ConnectionTable Comp) (g : Contexts Comp) : Prop where
  rep : Represents entry t g
  wf : ∀ i, (t i).contextId = -1 ∨ ∃ c x, Has (t i) c x
  one : ∀ c d x y, g c = some x → g d = some y → x.client = y.client → c = d
  front : ∀ i j client, (t i).contextId ≠ -1 → (t i).compRef = some client →
    j < i → (t j).compRef ≠ some client

theorem entry_free {s : ConnectionData Comp} (h : s.contextId = -1) :
    entry s = none :=
  if_pos h

theorem Has.entry {s : ConnectionData Comp} {c : ContextId} {x : Context Comp}
    (h : Has s c x) : entry s = some (c, x) := by
  have hne : s.contextId ≠ -1 := by
    rw [h.contextId]
    exact bit2int_ne c
  rw [OsmoRua.entry, if_neg hne, h.compRef, h.domain, h.contextId]
  show some (BitVec.ofInt 24 (c.toNat : Int), _) = _
  rw [BitVec.ofInt_natCast, BitVec.ofNat_toNat, BitVec.setWidth_eq]

variable {t t' : ConnectionTable Comp} {g : Contexts Comp} {i : Fin 16}
variable {c : ContextId} {x : Context Comp}

/-- A slot in use has a context, a live one. -/
theorem TableInv.inUse (h : TableInv t g) (hi : (t i).contextId ≠ -1) :
    ∃ c x, Has (t i) c x ∧ g c = some x := by
  rcases h.wf i with hfree | ⟨c, x, hhas⟩
  · exact absurd hfree hi
  · exact ⟨c, x, hhas, h.rep.get hhas.entry⟩

theorem TableInv.entry_iff (h : TableInv t g) :
    entry (t i) = some (c, x) ↔ Has (t i) c x := by
  refine ⟨fun he => ?_, Has.entry⟩
  rcases h.wf i with hfree | ⟨d, y, hhas⟩
  · rw [entry_free hfree] at he
    exact nomatch he
  · rw [hhas.entry] at he
    obtain ⟨rfl, rfl⟩ := Prod.mk.inj (Option.some.inj he)
    exact hhas

theorem TableInv.accepts (h : TableInv t g) (c : ContextId) (i : Fin 16) :
    decide ((t i).contextId = bit2int c) = true
      ↔ ∃ x, entry (t i) = some (c, x) := by
  rw [decide_eq_true_iff]
  constructor
  · intro hc
    have hne : (t i).contextId ≠ -1 := by
      rw [hc]
      exact bit2int_ne c
    obtain ⟨d, x, hhas, -⟩ := h.inUse hne
    rw [hhas.contextId] at hc
    rw [← bit2int_inj hc]
    exact ⟨x, hhas.entry⟩
  · rintro ⟨x, he⟩
    exact (h.entry_iff.mp he).contextId

/-- **THE SEARCH FOR A CONTEXT ID** finds the slot of the live context. -/
theorem TableInv.findContextId (h : TableInv t g) (hg : g c = some x) :
    ∃ i, findContextId t (bit2int c) = some i ∧ Has (t i) c x := by
  obtain ⟨i, hf, hi⟩ := h.rep.find_of_get
    (p := fun s => decide (s.contextId = bit2int c)) (h.accepts c) hg
  exact ⟨i, hf, h.entry_iff.mp hi⟩

/-- A context is looked up in vain if nobody has it. -/
theorem TableInv.findContextId_none (h : TableInv t g) :
    OsmoRua.findContextId t (bit2int c) = none ↔ g c = none := by
  have hnone := h.rep.find_none (p := fun s => decide (s.contextId = bit2int c))
    (h.accepts c)
  exact hnone

/-- The invariant says what the specification says of the table. -/
theorem TableInv.lifecycle (h : TableInv t g) : Lifecycle t g where
  live := by
    intro c x
    rw [h.rep.holds]
    constructor
    · rintro ⟨i, hi⟩
      have hhas := h.entry_iff.mp hi
      exact ⟨i, hhas.contextId, hhas.compRef, hhas.domain⟩
    · rintro ⟨i, hc, hcomp, hdom⟩
      exact ⟨i, (Has.mk hc hcomp hdom).entry⟩
  distinct := by
    intro i j hi hij
    obtain ⟨c, x, hhas, -⟩ := h.inUse hi
    have hj : (t j).contextId = bit2int c := hij.symm.trans hhas.contextId
    obtain ⟨y, hy⟩ := (h.accepts c j).mp (decide_eq_true hj)
    exact (h.rep.same hhas.entry hy).1
  oneContext := h.one

theorem tableInv_init : TableInv (connTableInit : ConnectionTable Comp)
    (fun _ => none) where
  rep := represents_empty (fun _ => entry_free rfl)
  wf := fun _ => Or.inl rfl
  one := fun _ _ _ _ hg => nomatch hg
  front := fun _ _ _ hne => absurd rfl hne

/-- The table is full where no slot is free. -/
theorem TableInv.full (h : TableInv t g)
    (hnone : OsmoRua.findContextId t (-1) = none) : Full 16 g := by
  refine h.rep.full (fun i he => ?_)
  have hne : (t i).contextId ≠ -1 :=
    of_decide_eq_false (find_eq_none.mp hnone i)
  obtain ⟨c, x, hhas, -⟩ := h.inUse hne
  rw [hhas.entry] at he
  exact nomatch he

-- ── What the functions do with it ────────────────────────────────────────────

variable [DecidableEq Comp]

omit [DecidableEq Comp] in
/-- **A NEW CONTEXT** of a client without one takes the first free slot: behind
    it there may be slots that were this client's, in front of it none. -/
theorem TableInv.add {client : Comp} (h : TableInv t g)
    (domain : CNDomainIndicator) (hnew : g c = none) (hunknown : g.Unknown client) :
    (∃ t', fConnTableAdd t client domain c = .ok t'
        ∧ TableInv t' (Function.update g c (some ⟨client, domain⟩)))
      ∨ (∃ e, fConnTableAdd t client domain c = .error e) ∧ Full 16 g := by
  rw [fConnTableAdd]
  cases hf : OsmoRua.findContextId t (-1) with
  | none => exact Or.inr ⟨⟨_, rfl⟩, h.full hf⟩
  | some i =>
      obtain ⟨hi, hfirst⟩ := find_eq_some.mp hf
      have hfree : (t i).contextId = -1 := of_decide_eq_true hi
      have hlive : ∀ j, (t j).contextId ≠ -1 → (t j).compRef ≠ some client := by
        intro j hj hcomp
        obtain ⟨d, y, hhas, hg⟩ := h.inUse hj
        exact hunknown d y hg (Option.some.inj (hhas.compRef.symm.trans hcomp))
      refine Or.inl ⟨Function.update t i ⟨some client, some domain, bit2int c⟩, rfl,
        ?_⟩
      have hhas : Has (⟨some client, some domain, bit2int c⟩ : ConnectionData Comp)
          c ⟨client, domain⟩ := ⟨rfl, rfl, rfl⟩
      constructor
      · exact h.rep.add (entry_free hfree) hnew hhas.entry
      · intro j
        by_cases hj : j = i
        · rw [hj, Function.update_self]
          exact Or.inr ⟨c, _, hhas⟩
        · rw [Function.update_of_ne hj]
          exact h.wf j
      · intro a b y z ha hb hyz
        by_cases hac : a = c
        · by_cases hbc : b = c
          · rw [hac, hbc]
          · rw [hac, Function.update_self] at ha
            rw [Function.update_of_ne hbc] at hb
            rw [← Option.some.inj ha] at hyz
            exact absurd hyz.symm (hunknown b z hb)
        · rw [Function.update_of_ne hac] at ha
          by_cases hbc : b = c
          · rw [hbc, Function.update_self] at hb
            rw [← Option.some.inj hb] at hyz
            exact absurd hyz (hunknown a y ha)
          · rw [Function.update_of_ne hbc] at hb
            exact h.one a b y z ha hb hyz
      · intro a b cl hne hcomp hlt
        by_cases hb : b = i
        · have ha : a ≠ i := fun heq => Fin.ne_of_gt hlt (heq.trans hb.symm)
          rw [Function.update_of_ne ha] at hne hcomp
          rw [hb, Function.update_self]
          intro heq
          rw [← heq] at hcomp
          exact hlive a hne hcomp
        · rw [Function.update_of_ne hb]
          by_cases ha : a = i
          · rw [ha, Function.update_self] at hcomp
            rw [ha] at hlt
            rw [← hcomp]
            exact hlive b (of_decide_eq_false (hfirst b hlt))
          · rw [Function.update_of_ne ha] at hne hcomp
            exact h.front a b cl hne hcomp hlt

omit [DecidableEq Comp] in
/-- **A CONTEXT ENDS**: its slot is free again, and keeps the component. -/
theorem TableInv.del (h : TableInv t g) (hg : g c = some x) :
    ∃ t', fConnTableDel t c = .ok t' ∧ TableInv t' (Function.update g c none) := by
  obtain ⟨i, hf, hhas⟩ := h.findContextId hg
  refine ⟨Function.update t i { t i with contextId := -1 },
    by rw [fConnTableDel, hf]; rfl, ?_⟩
  constructor
  · exact h.rep.del hhas.entry (entry_free rfl)
  · intro j
    by_cases hj : j = i
    · rw [hj, Function.update_self]
      exact Or.inl rfl
    · rw [Function.update_of_ne hj]
      exact h.wf j
  · intro a b y z ha hb hyz
    have hac : a ≠ c := by
      rintro rfl
      rw [Function.update_self] at ha
      exact nomatch ha
    have hbc : b ≠ c := by
      rintro rfl
      rw [Function.update_self] at hb
      exact nomatch hb
    rw [Function.update_of_ne hac] at ha
    rw [Function.update_of_ne hbc] at hb
    exact h.one a b y z ha hb hyz
  · intro a b cl hne hcomp hlt
    have hai : a ≠ i := by
      rintro rfl
      rw [Function.update_self] at hne
      exact hne rfl
    rw [Function.update_of_ne hai] at hne hcomp
    by_cases hbi : b = i
    · rw [hbi, Function.update_self]
      exact h.front a i cl hne hcomp (hbi ▸ hlt)
    · rw [Function.update_of_ne hbi]
      exact h.front a b cl hne hcomp hlt

omit [DecidableEq Comp] in
/-- The client of a context is found. -/
theorem TableInv.compByContextId (h : TableInv t g) (hg : g c = some x) :
    fCompByContextId t c = .ok x.client := by
  obtain ⟨i, hf, hhas⟩ := h.findContextId hg
  rw [fCompByContextId, hf]
  show bound (t i).compRef = _
  rw [hhas.compRef]
  rfl

omit [DecidableEq Comp] in
theorem TableInv.compByContextId_none (h : TableInv t g) (hg : g c = none) :
    ∃ e, fCompByContextId t c = .error e :=
  ⟨_, by rw [fCompByContextId, h.findContextId_none.mpr hg]; rfl⟩

/-- **THE SEARCH FOR A CLIENT** with a live context finds its slot. -/
theorem TableInv.contextOf (h : TableInv t g) (hg : g c = some x) :
    fContextOf t x.client = .ok (c, x.domain) := by
  obtain ⟨i, hi⟩ := (h.rep.holds c x).mp hg
  have hhas := h.entry_iff.mp hi
  have hne : (t i).contextId ≠ -1 := by
    rw [hhas.contextId]
    exact bit2int_ne c
  have hf : findComp t x.client = some i := find_eq_some.mpr
    ⟨decide_eq_true hhas.compRef, fun j hj => decide_eq_false
      (h.front i j x.client hne hhas.compRef hj)⟩
  rw [fContextOf, fIdxByComp, hf]
  show (int2bit (t i).contextId).bind _ = _
  rw [hhas.contextId, int2bit_bit2int]
  show (bound (t i).domain).map _ = _
  rw [hhas.domain]
  rfl

/-- A client without a live context is in no slot, or in a free one. -/
theorem TableInv.contextOf_none {client : Comp} (h : TableInv t g)
    (hunknown : g.Unknown client) : ∃ e, fContextOf t client = .error e := by
  rw [fContextOf, fIdxByComp]
  cases hf : findComp t client with
  | none => exact ⟨_, rfl⟩
  | some i =>
      have hcomp : (t i).compRef = some client :=
        of_decide_eq_true (find_eq_some.mp hf).1
      have hfree : (t i).contextId = -1 := by
        by_contra hne
        obtain ⟨c, x, hhas, hg⟩ := h.inUse hne
        exact hunknown c x hg (Option.some.inj (hhas.compRef.symm.trans hcomp))
      refine ⟨.outOfRange, ?_⟩
      show (int2bit (t i).contextId).bind _ = _
      rw [hfree, int2bit_neg]
      rfl

omit [DecidableEq Comp] in
/-- **A NEW ID** is one that nobody has, if one was drawn. -/
theorem TableInv.genContextId (h : TableInv t g) : ∀ draws : List ContextId,
    (∃ c, fGenContextId t draws = .ok c ∧ c ∈ draws ∧ g c = none)
      ∨ (∃ e, fGenContextId t draws = .error e) ∧ ∀ c ∈ draws, g c ≠ none := by
  intro draws
  induction draws with
  | nil => exact Or.inr ⟨⟨_, rfl⟩, fun c hc => nomatch hc⟩
  | cons d draws ih =>
      rw [fGenContextId]
      cases hd : OsmoRua.findContextId t (bit2int d) with
      | none =>
          have hknown : fContextIdKnown t d = false := by rw [fContextIdKnown, hd]; rfl
          rw [hknown]
          exact Or.inl ⟨d, rfl, List.mem_cons_self, h.findContextId_none.mp hd⟩
      | some i =>
          have hknown : fContextIdKnown t d = true := by rw [fContextIdKnown, hd]; rfl
          rw [if_pos hknown]
          rcases ih with ⟨c, hc, hmem, hg⟩ | ⟨he, hall⟩
          · exact Or.inl ⟨c, hc, List.mem_cons_of_mem _ hmem, hg⟩
          · refine Or.inr ⟨he, fun c hc => ?_⟩
            rcases List.mem_cons.mp hc with rfl | hc
            · intro hg
              rw [h.findContextId_none.mpr hg] at hd
              exact nomatch hd
            · exact hall c hc

omit [DecidableEq Comp] in
/-- A client has a context or none. -/
theorem unknown_or (g : Contexts Comp) (client : Comp) :
    g.Unknown client ∨ ∃ c x, g c = some x ∧ x.client = client := by
  by_cases hk : ∃ c x, g c = some x ∧ x.client = client
  · exact Or.inr hk
  · exact Or.inl (fun c x hg hx => hk ⟨c, x, hg, hx⟩)

/-- A RUA_Conn_Req of a client that no slot has. -/
theorem TableInv.connReq {client : Comp} {psDomain : Bool} {ranap : P}
    {draws : List ContextId} (h : TableInv t g)
    (hguard : ∀ i, (t i).compRef ≠ some client) :
    StepFollows (asMainRua (C := C)) RuaAllowed RuaStops TableInv t g
      (.clientConnReq client psDomain ranap draws) := by
  have hunknown : g.Unknown client := by
    intro c x hg hx
    obtain ⟨i, hi⟩ := (h.rep.holds c x).mp hg
    have hcomp := (h.entry_iff.mp hi).compRef
    rw [hx] at hcomp
    exact hguard i hcomp
  have hknown : fCompKnown t client = false := by
    have hnone : findComp t client = none :=
      find_eq_none.mpr (fun i => decide_eq_false (hguard i))
    rw [fCompKnown, hnone]
    rfl
  have hstep : asMainRua (C := C) t (.clientConnReq client psDomain ranap draws)
      = (fGenContextId t draws).bind _ := if_pos hknown
  rcases h.genContextId draws with ⟨c, hc, hmem, hnew⟩ | ⟨⟨e, he⟩, hall⟩
  · rw [hc] at hstep
    rcases h.add (if psDomain then .psDomain else .csDomain) hnew hunknown
      with ⟨t', hadd, hinv⟩ | ⟨⟨e, he⟩, hfull⟩
    · refine stepFollows_ok (o := [.rua (.connect (if psDomain then .psDomain
        else .csDomain) c ranap)]) (hstep.trans ?_)
        (RuaAllowed.clientConnReq hunknown hmem hnew) hinv
      show (fConnTableAdd t client _ c).map _ = _
      rw [hadd]
      rfl
    · refine stepFollows_error (e := e) (hstep.trans ?_) ⟨hunknown, Or.inl hfull⟩
      show (fConnTableAdd t client _ c).map _ = _
      rw [he]
      rfl
  · rw [he] at hstep
    exact stepFollows_error hstep ⟨hunknown, Or.inr hall⟩

/-- **ONE INPUT** that meets the guard. -/
theorem ruaStep_follows {input : Input Comp C P} (h : TableInv t g)
    (hguard : RuaGuard t input) :
    StepFollows asMainRua RuaAllowed RuaStops TableInv t g input := by
  cases input with
  | rxConnectionlessTransfer ranap resp =>
      exact stepFollows_ok rfl (RuaAllowed.unitdata g ranap resp) h
  | rxConnect domain c ranap vcConn =>
      have hnew : g c = none := by
        refine Option.eq_none_iff_forall_ne_some.mpr (fun x hg => ?_)
        obtain ⟨i, hi⟩ := (h.rep.holds c x).mp hg
        exact (hguard i).1 (h.entry_iff.mp hi).contextId
      have hunknown : g.Unknown vcConn := by
        intro d x hg hx
        obtain ⟨i, hi⟩ := (h.rep.holds d x).mp hg
        have hhas := h.entry_iff.mp hi
        have hne : (t i).contextId ≠ -1 := by
          rw [hhas.contextId]
          exact bit2int_ne d
        have hcomp := hhas.compRef
        rw [hx] at hcomp
        exact (hguard i).2 hne hcomp
      rcases h.add domain hnew hunknown
        with ⟨t', hadd, hinv⟩ | ⟨⟨e, he⟩, hfull⟩
      · exact stepFollows_ok (by rw [asMainRua, hadd]; rfl)
          (RuaAllowed.connect hnew hunknown) hinv
      · exact stepFollows_error (by rw [asMainRua, he]; rfl) hfull
  | rxDirectTransfer domain c ranap =>
      cases hg : g c with
      | none =>
          obtain ⟨e, he⟩ := h.compByContextId_none hg
          exact stepFollows_error (by rw [asMainRua, he]; rfl) hg
      | some x =>
          exact stepFollows_ok (by rw [asMainRua, h.compByContextId hg]; rfl)
            (RuaAllowed.directTransfer hg) h
  | rxDisconnect domain c cause ranap connected =>
      cases hg : g c with
      | none =>
          obtain ⟨e, he⟩ := h.compByContextId_none hg
          exact stepFollows_error (by rw [asMainRua, he]; rfl) hg
      | some x =>
          obtain ⟨t', hdel, hinv⟩ := h.del hg
          refine stepFollows_ok ?_ (RuaAllowed.disconnect hg) hinv
          rw [asMainRua, h.compByContextId hg]
          show (fConnTableDel t c).map _ = _
          rw [hdel]
          rfl
  | clientRanap client ranap =>
      rcases unknown_or g client with hunknown | ⟨c, x, hg, rfl⟩
      · obtain ⟨e, he⟩ := h.contextOf_none hunknown
        exact stepFollows_error (by rw [asMainRua, he]; rfl) hunknown
      · exact stepFollows_ok (by rw [asMainRua, h.contextOf hg]; rfl)
          (RuaAllowed.clientRanap hg) h
  | clientDiscReq client cause ranap =>
      rcases unknown_or g client with hunknown | ⟨c, x, hg, rfl⟩
      · obtain ⟨e, he⟩ := h.contextOf_none hunknown
        exact stepFollows_error (by rw [asMainRua, he]; rfl) hunknown
      · obtain ⟨t', hdel, hinv⟩ := h.del hg
        refine stepFollows_ok ?_ (RuaAllowed.clientDiscReq hg) hinv
        rw [asMainRua, h.contextOf hg]
        show (fConnTableDel t c).map _ = _
        rw [hdel]
        rfl
  | clientConnReq client psDomain ranap draws => exact h.connReq hguard

/-- **RUA LIFE CYCLE**: a run whose inputs meet the guard goes as the life
    cycle says. -/
theorem rua_lifecycle (inputs : List (Input Comp C P))
    (hguard : RunGuard.Guarded asMainRua RuaGuard
      (connTableInit : ConnectionTable Comp) inputs) :
    Follows asMainRua RuaAllowed RuaStops Lifecycle
      (connTableInit : ConnectionTable Comp) (fun _ => none) inputs :=
  (follows_of_guarded (fun _ _ _ h hG => ruaStep_follows h hG) inputs _ _
    tableInv_init hguard).imp (fun _ _ h => h.lifecycle)

instance (t : ConnectionTable Comp) : (input : Input Comp C P) →
    Decidable (RuaGuard t input)
  | .rxConnectionlessTransfer _ _ => .isTrue trivial
  | .rxConnect _ c _ vcConn => inferInstanceAs (Decidable
      (∀ i, (t i).contextId ≠ bit2int c
        ∧ ((t i).contextId ≠ -1 → (t i).compRef ≠ some vcConn)))
  | .rxDirectTransfer _ _ _ => .isTrue trivial
  | .rxDisconnect _ _ _ _ _ => .isTrue trivial
  | .clientRanap _ _ => .isTrue trivial
  | .clientDiscReq _ _ _ => .isTrue trivial
  | .clientConnReq client _ _ _ => inferInstanceAs (Decidable
      (∀ i, (t i).compRef ≠ some client))

omit [DecidableEq Comp] in
/-- Where every slot is free, no context is live. -/
theorem Lifecycle.empty (h : Lifecycle t g) (hfree : ∀ i, (t i).contextId = -1) :
    ∀ c, g c = none := by
  intro c
  refine Option.eq_none_iff_forall_ne_some.mpr (fun x hg => ?_)
  obtain ⟨i, hi, -⟩ := (h.live c x).mp hg
  exact bit2int_ne c (hi.symm.trans (hfree i))

end Invariant

/-- The peer disconnects a client, whose slot is taken by another one before it
    connects again. -/
def takeTurns : List (Input Nat Nat Nat) :=
  [.clientConnReq 10 true 1 [5], .rxDirectTransfer .psDomain 5 2,
    .clientRanap 10 3, .rxDisconnect .psDomain 5 0 none true,
    .clientConnReq 20 false 4 [5], .clientConnReq 10 false 5 [5, 9],
    .clientDiscReq 20 0 (some 6), .rxConnect .psDomain 7 1 30]

/-- Two clients that come and go in turns. -/
theorem rua_lifecycle_takeTurns : Follows asMainRua RuaAllowed RuaStops Lifecycle
    connTableInit (fun _ => none) takeTurns :=
  rua_lifecycle takeTurns (by decide)

/-- A client connects, disconnects and connects again. -/
def reconnect : List (Input Nat Nat Nat) :=
  [.clientConnReq 10 true 1 [5], .clientDiscReq 10 0 none,
    .clientConnReq 10 true 2 [9]]

/-- **THE CLIENT IS STILL KNOWN**: its second RUA_Conn_Req ends the test. -/
theorem reconnect_stops :
    RunGuard.run asMainRua connTableInit reconnect = .error .outOfRange
      ∧ ¬ Follows asMainRua RuaAllowed RuaStops Lifecycle connTableInit
        (fun _ => none) reconnect := by
  refine ⟨rfl, fun h => ?_⟩
  obtain ⟨-, g1, -, -, g2, -, hlife, hstop⟩ := h
  have hnone : ∀ c, g2 c = none := hlife.empty (by decide)
  rcases hstop.2 with hfull | hdrawn
  · exact not_full_of_none hnone (by decide) hfull
  · exact hdrawn 9 List.mem_cons_self (hnone 9)

end OsmoRua
