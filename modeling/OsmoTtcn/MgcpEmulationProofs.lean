import OsmoTtcn.KeyedSlotsProofs
import OsmoTtcn.SpecRunProofs
import OsmoTtcn.TitanProofs

/-! # Endpoints of the MGCP emulation

    `MGCP_Emulation` maps MGCP endpoints to the components that handle them.  A
    component acquires an endpoint by a CRCX that names it, or, when a CRCX asks
    for any endpoint, by the answer that names the one it gets; until then the
    transaction id of the CRCX is pending.  An endpoint can be moved to another
    component, and deleted.

    The answer to a pending CRCX is entered without a look whether its endpoint
    is listed already, and a CRCX is pending twice when it comes twice.
    `mgcp_endpoints` proves the table right of every run in which neither
    happens. -/

namespace OsmoMgcp

open OsmoTitan SlotTable SlotMap KeyedSlots SpecRun

/-- `charstring`, as a list of characters. -/
abbrev Charstring : Type := List Char

/-- `MgcpVerb` -/
inductive MgcpVerb where
  | epcf | crcx | mdcx | dlcx | rqnt | ntfy | auep | aucx | rsip
  deriving DecidableEq, Repr

/-- `MgcpInfoCode`, the letters of the parameter lines. -/
inductive MgcpInfoCode where
  | b | c | i | n | x | l | m | r | s | d | o | p | e | z | q | t | rc | lc | a | es
  | rm | rd | pl | md | xOsmoCp | xOsmoIgn | xOsmux
  deriving DecidableEq, Repr

/-- `MgcpTransId`, the text of a transaction id. -/
abbrev MgcpTransId : Type := Charstring

/-- `MgcpEndpoint`, a name with a domain. -/
abbrev MgcpEndpoint : Type := Charstring

/-- `MgcpCommandLine`, less the protocol version. -/
structure MgcpCommandLine where
  verb : MgcpVerb
  transId : MgcpTransId
  ep : MgcpEndpoint
  deriving DecidableEq

/-- `MgcpParameter` -/
structure MgcpParameter where
  code : MgcpInfoCode
  val : Option Charstring
  deriving DecidableEq

/-- `MgcpCommand`, less the SDP body. -/
structure MgcpCommand where
  line : MgcpCommandLine
  params : Option (List MgcpParameter)
  deriving DecidableEq

/-- `MgcpResponseLine`, less the comment. -/
structure MgcpResponseLine where
  code : Charstring
  transId : MgcpTransId
  deriving DecidableEq

/-- `MgcpResponse`, less the SDP body. -/
structure MgcpResponse where
  line : MgcpResponseLine
  params : Option (List MgcpParameter)
  deriving DecidableEq

/-- `MgcpMessage` -/
inductive MgcpMessage where
  | command (cmd : MgcpCommand)
  | response (resp : MgcpResponse)
  deriving DecidableEq

/-- pattern "\*@*" or "rtpbridge/\*@*" -/
def tMgcpEpWildcard (ep : MgcpEndpoint) : Bool :=
  ['*', '@'].isPrefixOf ep
    || ['r', 't', 'p', 'b', 'r', 'i', 'd', 'g', 'e', '/', '*', '@'].isPrefixOf ep

/-- The value of the first parameter with the code, which may be omitted. -/
def fMgcpFindParamEntry (pars : List MgcpParameter) (code : MgcpInfoCode) :
    Option (Option Charstring) :=
  (pars.find? (fun p => p.code == code)).map MgcpParameter.val

/-- `f_mgcp_ep` -/
def fMgcpEp : MgcpMessage → Except Fault MgcpEndpoint
  | .command cmd => .ok cmd.line.ep
  | .response resp =>
      (bound resp.params).bind (fun pars =>
        (orShutdown (fMgcpFindParamEntry pars .z)
          "No SpecificEndpointName in MGCP response").bind bound)

/-- represents a single MGCP Endpoint -/
structure EndpointData (Comp : Type) where
  /-- `none`: the null reference. -/
  compRef : Option Comp
  endpoint : Option MgcpEndpoint

/-- `MgcpEndpointTable` -/
abbrev EndpointTable (Comp : Type) : Type := Fin 16 → EndpointData Comp

/-- `ExpectCriteria`, what a CRCX has to match; none for an omitted field. -/
structure ExpectCriteria where
  /-- The hex string as text. -/
  connid : Option Charstring
  endpoint : Option MgcpEndpoint
  transid : Option MgcpTransId
  deriving DecidableEq

/-- `ExpectData`, an expectation and the component that it is for. -/
structure ExpectData (Comp : Type) where
  crit : Option ExpectCriteria
  vcConn : Option Comp

/-- `MgcpExpectTable` -/
abbrev ExpectTable (Comp : Type) : Type := Fin 8 → ExpectData Comp

/-- `MGCP_Emulation_CT` -/
structure MgcpEmulationCT (Comp : Type) where
  mgcpEndpointTable : EndpointTable Comp
  /-- pending CRCX with their transaction ID -/
  mgcpPendingTrans : List MgcpTransId
  mgcpExpectTable : ExpectTable Comp

/-- `MGCPOps` -/
structure MgcpOps (Comp : Type) where
  createCb : ExpectTable Comp → MgcpCommand → Except Fault (ExpectTable Comp × Comp)
  unitdataCb : MgcpMessage → Option MgcpMessage

/-- What comes in.  A message of the peer comes with what `checkstate` and
    `running` say of the component it is for. -/
inductive Input (Comp : Type) where
  | client (client : Comp) (resp : MgcpResponse)
  | mgcp (msg : MgcpMessage) (available : Comp → Bool)
  | register (crit : ExpectCriteria) (client : Comp)
  | deleteEp (ep : MgcpEndpoint) (client : Comp)
  | changeConnhdlr (ep : MgcpEndpoint) (client : Comp)

/-- What the emulation sends, to the peer or to one of its clients. -/
inductive Output (Comp : Type) where
  | mgcp (msg : MgcpMessage)
  | client (client : Comp) (cmd : MgcpCommand)
  deriving DecidableEq

section Functions

variable {Comp : Type} [DecidableEq Comp] (t : EndpointTable Comp)

-- ── The endpoint table ───────────────────────────────────────────────────────

/-- The entry of an endpoint. -/
def findEp (ep : MgcpEndpoint) : Option (Fin 16) :=
  find t (fun e => decide (e.endpoint = some ep))

/-- `f_ep_known` -/
def fEpKnown (ep : MgcpEndpoint) : Bool := (findEp t ep).isSome

/-- `f_comp_by_ep` -/
def fCompByEp (ep : MgcpEndpoint) : Except Fault Comp :=
  (orShutdown (findEp t ep) "MGCP Endpoint Table not found by Endpoint").bind
    (fun i => bound (t i).compRef)

/-- `f_ep_table_add` -/
def fEpTableAdd (compRef : Comp) (ep : MgcpEndpoint) :
    Except Fault (EndpointTable Comp) :=
  (orShutdown (find t (fun e => e.endpoint.isNone)) "MGCP Endpoint Table full!").map
    (fun i => Function.update t i { compRef := some compRef, endpoint := some ep })

/-- `f_ep_table_del` -/
def fEpTableDel (compRef : Comp) (ep : MgcpEndpoint) :
    Except Fault (EndpointTable Comp) :=
  (orShutdown (find t (fun e =>
      decide (e.compRef = some compRef ∧ e.endpoint = some ep)))
    "MGCP Endpoint Table: Couldn't find to-be-deleted entry!").map
    (fun i => Function.update t i { compRef := none, endpoint := none })

/-- `f_ep_table_change_connhdlr` -/
def fEpTableChangeConnhdlr (compRef : Comp) (ep : MgcpEndpoint) :
    Except Fault (EndpointTable Comp) :=
  (orShutdown (findEp t ep)
    "MGCP Endpoint Table: Couldn't find entry to move to ").map
    (fun i => Function.update t i { t i with compRef := some compRef })

/-- Check if the given transaction ID is a pending CRCX. If yes, return true and
    remove the first one. -/
def fTransIdWasPending (pending : List MgcpTransId) (transId : MgcpTransId) :
    Bool × List MgcpTransId :=
  if transId ∈ pending then (true, pending.erase transId) else (false, pending)

-- ── Expectations ─────────────────────────────────────────────────────────────

/-- `match(cmd, f_get_mgcp_by_crit(crit))` -/
def matchesCrit (crit : ExpectCriteria) (cmd : MgcpCommand) : Bool :=
  (crit.connid.all (fun c =>
      (cmd.params.getD []).any (fun p => p.code == .i && p.val == some c)))
    && crit.endpoint.all (fun ep => cmd.line.ep == ep)
    && crit.transid.all (fun tid => cmd.line.transId == tid)

/-- Function that can be used as create_cb and will use the expect table -/
def expectedCreateCallback (e : ExpectTable Comp) (cmd : MgcpCommand) :
    Except Fault (ExpectTable Comp × Comp) :=
  (orShutdown (find e (fun x => x.crit.any (fun crit => matchesCrit crit cmd)))
    "Couldn't find Expect for CRCX").bind (fun i =>
      (bound (e i).vcConn).map (fun ret =>
        -- Release this entry
        (Function.update e i { crit := none, vcConn := none }, ret)))

/-- `f_create_expect` -/
def fCreateExpect (e : ExpectTable Comp) (crit : ExpectCriteria) (hdlr : Comp) :
    Except Fault (ExpectTable Comp) :=
  -- Check an entry like this is not already present
  if (find e (fun x => decide (x.crit = some crit))).isSome then
    .error (.shutdown "Crit already present")
  else
    (orShutdown (find e (fun x => x.crit.isNone)) "No space left in MgcpExpectTable").map
      (fun i => Function.update e i { crit := some crit, vcConn := some hdlr })

/-- `MGCP_DummyUnitdataCallback` -/
def dummyUnitdataCallback (_ : MgcpMessage) : Option MgcpMessage := none

-- ── The main loop ────────────────────────────────────────────────────────────

/-- A message for a component that cannot be reached is discarded. -/
def fForwardToClient (cmd : MgcpCommand) (vcConn : Comp) (available : Comp → Bool) :
    List (Output Comp) :=
  if available vcConn then [.client vcConn cmd] else []

variable (ops : MgcpOps Comp) (s : MgcpEmulationCT Comp)

/-- MGCP from client -/
def rxClient (client : Comp) (resp : MgcpResponse) :
    Except Fault (MgcpEmulationCT Comp × List (Output Comp)) :=
  if (fTransIdWasPending s.mgcpPendingTrans resp.line.transId).1 then
    (fMgcpEp (.response resp)).bind (fun ep =>
      (fEpTableAdd s.mgcpEndpointTable client ep).map (fun t' =>
        ({ s with
            mgcpEndpointTable := t'
            mgcpPendingTrans :=
              (fTransIdWasPending s.mgcpPendingTrans resp.line.transId).2 },
          [.mgcp (.response resp)])))
  else .ok (s, [.mgcp (.response resp)])

/-- A command of the peer: to the owner of its endpoint, else to the expectations. -/
def rxCommand (cmd : MgcpCommand) (available : Comp → Bool) :
    Except Fault (MgcpEmulationCT Comp × List (Output Comp)) :=
  if fEpKnown s.mgcpEndpointTable cmd.line.ep then
    (fCompByEp s.mgcpEndpointTable cmd.line.ep).map (fun vcConn =>
      (s, fForwardToClient cmd vcConn available))
  else if cmd.line.verb = .crcx then
    (ops.createCb s.mgcpExpectTable cmd).bind (fun r =>
      if tMgcpEpWildcard cmd.line.ep then
        -- add this transaction to list of pending transactions
        .ok ({ s with
                mgcpPendingTrans := s.mgcpPendingTrans ++ [cmd.line.transId]
                mgcpExpectTable := r.1 },
          fForwardToClient cmd r.2 available)
      else
        -- non-wildcard EP, use directly
        (fEpTableAdd s.mgcpEndpointTable r.2 cmd.line.ep).map (fun t' =>
          ({ s with mgcpEndpointTable := t', mgcpExpectTable := r.1 },
            fForwardToClient cmd r.2 available)))
  else
    -- connectionless MGCP, i.e. messages without ConnectionId
    .ok (s, ((ops.unitdataCb (.command cmd)).map .mgcp).toList)

/-- One round of `f_main`. -/
def mainStep : Input Comp → Except Fault (MgcpEmulationCT Comp × List (Output Comp))
  | .client client resp => rxClient s client resp
  | .mgcp (.command cmd) available => rxCommand ops s cmd available
  | .mgcp (.response _) _ => .error (.shutdown "Received unexpected MGCP response: ")
  | .register crit client =>
      (fCreateExpect s.mgcpExpectTable crit client).map (fun e' =>
        ({ s with mgcpExpectTable := e' }, []))
  | .deleteEp ep client =>
      (fEpTableDel s.mgcpEndpointTable client ep).map (fun t' =>
        ({ s with mgcpEndpointTable := t' }, []))
  | .changeConnhdlr ep client =>
      (fEpTableChangeConnhdlr s.mgcpEndpointTable client ep).map (fun t' =>
        ({ s with mgcpEndpointTable := t' }, []))

end Functions

/-- The component after its tables are initialised. -/
def mgcpInit {Comp : Type} : MgcpEmulationCT Comp :=
  { mgcpEndpointTable := fun _ => { compRef := none, endpoint := none }
    mgcpPendingTrans := []
    mgcpExpectTable := fun _ => { crit := none, vcConn := none } }

-- ── What the table is for ────────────────────────────────────────────────────

/-- Who acquired an endpoint last, which transactions are pending, and who
    expects a CRCX. -/
structure Endpoints (Comp : Type) where
  owner : MgcpEndpoint → Option Comp
  pending : MgcpTransId → Prop
  expects : ExpectTable Comp

/-- Nobody owns an endpoint and nothing is expected. -/
def noEndpoints {Comp : Type} : Endpoints Comp :=
  { owner := fun _ => none, pending := fun _ => False
    expects := fun _ => { crit := none, vcConn := none } }

section Spec

variable {Comp : Type} [DecidableEq Comp]

omit [DecidableEq Comp] in
/-- The first parameter Z of a response is the endpoint. -/
def NamesEp (resp : MgcpResponse) (ep : MgcpEndpoint) : Prop :=
  ∃ before after, resp.params = some (before ++ ⟨.z, some ep⟩ :: after)
    ∧ ∀ p ∈ before, p.code ≠ .z

/-- **ENDPOINTS AND THEIR OWNERS**: what may happen on each input.  A command
    goes to the owner of its endpoint if it can be reached, the answer to a pending transaction
    makes its sender the owner of the endpoint it names, and the transaction is
    pending no more. -/
inductive EndpointsAllowed (ops : MgcpOps Comp) : Endpoints Comp → Input Comp →
    Endpoints Comp → List (Output Comp) → Prop
  | answer {g : Endpoints Comp} {client resp ep} (hpending : g.pending resp.line.transId)
      (hep : NamesEp resp ep) :
      EndpointsAllowed ops g (.client client resp)
        { g with
          owner := Function.update g.owner ep (some client)
          pending := fun tid => tid ≠ resp.line.transId ∧ g.pending tid }
        [.mgcp (.response resp)]
  | response {g : Endpoints Comp} {client resp}
      (hpending : ¬ g.pending resp.line.transId) :
      EndpointsAllowed ops g (.client client resp) g [.mgcp (.response resp)]
  | deliver {g : Endpoints Comp} {cmd available client}
      (howner : g.owner cmd.line.ep = some client) :
      EndpointsAllowed ops g (.mgcp (.command cmd) available) g
        (if available client then [.client client cmd] else [])
  | crcx {g : Endpoints Comp} {cmd available client} {e : ExpectTable Comp}
      (hnew : g.owner cmd.line.ep = none) (hverb : cmd.line.verb = .crcx)
      (hep : tMgcpEpWildcard cmd.line.ep = false)
      (hcb : ops.createCb g.expects cmd = .ok (e, client)) :
      EndpointsAllowed ops g (.mgcp (.command cmd) available)
        { g with
          owner := Function.update g.owner cmd.line.ep (some client)
          expects := e }
        (if available client then [.client client cmd] else [])
  | wildcard {g : Endpoints Comp} {cmd available client} {e : ExpectTable Comp}
      (hnew : g.owner cmd.line.ep = none) (hverb : cmd.line.verb = .crcx)
      (hep : tMgcpEpWildcard cmd.line.ep = true)
      (hcb : ops.createCb g.expects cmd = .ok (e, client)) :
      EndpointsAllowed ops g (.mgcp (.command cmd) available)
        { g with
          pending := fun tid => tid = cmd.line.transId ∨ g.pending tid
          expects := e }
        (if available client then [.client client cmd] else [])
  | unitdata {g : Endpoints Comp} {cmd available}
      (hnew : g.owner cmd.line.ep = none) (hverb : cmd.line.verb ≠ .crcx) :
      EndpointsAllowed ops g (.mgcp (.command cmd) available) g
        ((ops.unitdataCb (.command cmd)).map .mgcp).toList
  | register {g : Endpoints Comp} {crit client} {e : ExpectTable Comp}
      (he : fCreateExpect g.expects crit client = .ok e) :
      EndpointsAllowed ops g (.register crit client) { g with expects := e } []
  | deleteEp {g : Endpoints Comp} {ep client} (howner : g.owner ep = some client) :
      EndpointsAllowed ops g (.deleteEp ep client)
        { g with owner := Function.update g.owner ep none } []
  | change {g : Endpoints Comp} {ep client old} (howner : g.owner ep = some old) :
      EndpointsAllowed ops g (.changeConnhdlr ep client)
        { g with owner := Function.update g.owner ep (some client) } []

/-- Where the test may end: with an answer that names no endpoint, a new
    endpoint when all 16 slots are taken, a CRCX that the call-back refuses, a
    response from the peer, an expectation that is refused, or an endpoint to be
    deleted by another than its owner, or to be moved without having one. -/
def EndpointsStop (ops : MgcpOps Comp) (g : Endpoints Comp) : Input Comp → Prop
  | .client _ resp => g.pending resp.line.transId
      ∧ ((∀ ep, ¬ NamesEp resp ep) ∨ Full 16 g.owner)
  | .mgcp (.command cmd) _ => g.owner cmd.line.ep = none ∧ cmd.line.verb = .crcx
      ∧ ((∃ e, ops.createCb g.expects cmd = .error e) ∨ Full 16 g.owner)
  | .mgcp (.response _) _ => True
  | .register crit client => ∃ e, fCreateExpect g.expects crit client = .error e
  | .deleteEp ep client => g.owner ep ≠ some client
  | .changeConnhdlr ep _ => g.owner ep = none

/-- Every endpoint with an owner is in one slot, and every pending transaction
    is listed once. -/
structure EndpointsLive (s : MgcpEmulationCT Comp) (g : Endpoints Comp) : Prop where
  live : ∀ ep client, g.owner ep = some client ↔ ∃ i,
    (s.mgcpEndpointTable i).endpoint = some ep
      ∧ (s.mgcpEndpointTable i).compRef = some client
  distinct : ∀ i j ep, (s.mgcpEndpointTable i).endpoint = some ep →
    (s.mgcpEndpointTable j).endpoint = some ep → i = j
  once : s.mgcpPendingTrans.Nodup
  pending : ∀ tid, tid ∈ s.mgcpPendingTrans ↔ g.pending tid
  expects : s.mgcpExpectTable = g.expects

/-- The endpoint that the response names is listed. -/
def namesListed (t : EndpointTable Comp) (resp : MgcpResponse) : Bool :=
  match fMgcpEp (.response resp) with
  | .ok ep => fEpKnown t ep
  | .error _ => false

/-- What an input has to meet: the answer to a pending transaction names an
    endpoint that is not listed, and a CRCX for any endpoint brings a
    transaction id that is not pending. -/
def EndpointsGuard (s : MgcpEmulationCT Comp) : Input Comp → Prop
  | .client _ resp => resp.line.transId ∈ s.mgcpPendingTrans →
      namesListed s.mgcpEndpointTable resp = false
  | .mgcp (.command cmd) _ => tMgcpEpWildcard cmd.line.ep = true →
      cmd.line.verb = .crcx → fEpKnown s.mgcpEndpointTable cmd.line.ep = false →
      cmd.line.transId ∉ s.mgcpPendingTrans
  | _ => True

instance (s : MgcpEmulationCT Comp) : (input : Input Comp) →
    Decidable (EndpointsGuard s input)
  | .client _ resp => inferInstanceAs (Decidable
      (resp.line.transId ∈ s.mgcpPendingTrans →
        namesListed s.mgcpEndpointTable resp = false))
  | .mgcp (.command cmd) _ => inferInstanceAs (Decidable
      (tMgcpEpWildcard cmd.line.ep = true → cmd.line.verb = .crcx →
        fEpKnown s.mgcpEndpointTable cmd.line.ep = false →
        cmd.line.transId ∉ s.mgcpPendingTrans))
  | .mgcp (.response _) _ => .isTrue trivial
  | .register _ _ => .isTrue trivial
  | .deleteEp _ _ => .isTrue trivial
  | .changeConnhdlr _ _ => .isTrue trivial

end Spec

-- ── The invariant ────────────────────────────────────────────────────────────

section Invariant

variable {Comp : Type}

/-- **WHAT A RESPONSE NAMES** is what the search for Z finds. -/
theorem fMgcpEp_response {resp : MgcpResponse} {ep : MgcpEndpoint} :
    fMgcpEp (.response resp) = .ok ep ↔ NamesEp resp ep := by
  rw [fMgcpEp, NamesEp]
  cases hparams : resp.params with
  | none =>
      constructor
      · intro h
        cases h
      · rintro ⟨before, after, h, -⟩
        cases h
  | some pars =>
      show (orShutdown (fMgcpFindParamEntry pars .z) _).bind bound = .ok ep ↔ _
      constructor
      · intro h
        obtain ⟨val, hval, hbound⟩ := bind_ok h
        rw [orShutdown_eq_ok] at hval
        obtain ⟨p, hfind, rfl⟩ := Option.map_eq_some_iff.mp hval
        obtain ⟨hz, before, after, rfl, hbefore⟩ := List.find?_eq_some_iff_append.mp hfind
        obtain ⟨code, val⟩ := p
        obtain rfl : code = .z := eq_of_beq hz
        obtain rfl : val = some ep := bound_ok hbound
        refine ⟨before, after, rfl, fun q hq hcode => ?_⟩
        have hnot := hbefore q hq
        rw [hcode] at hnot
        exact absurd hnot (by decide)
      · rintro ⟨before, after, h, hbefore⟩
        obtain rfl := Option.some.inj h
        have hfind : fMgcpFindParamEntry (before ++ ⟨.z, some ep⟩ :: after) .z
            = some (some ep) := by
          refine Option.map_eq_some_iff.mpr ⟨⟨.z, some ep⟩, ?_, rfl⟩
          refine List.find?_eq_some_iff_append.mpr ⟨rfl, before, after, rfl, fun q hq => ?_⟩
          rw [Bool.not_eq_true', beq_eq_false_iff_ne]
          exact hbefore q hq
        rw [hfind]
        rfl

/-- The endpoint in a slot. -/
def entry (x : EndpointData Comp) : Option (MgcpEndpoint × Comp) :=
  x.endpoint.bind (fun ep => x.compRef.map (fun client => (ep, client)))

/-- The table holds the endpoints, one slot each, and a slot in use has an
    owner. -/
structure TableInv (t : EndpointTable Comp) (owner : MgcpEndpoint → Option Comp) :
    Prop where
  rep : Represents entry t owner
  wf : ∀ i, (t i).endpoint ≠ none → ∃ client, (t i).compRef = some client

/-- An entry counts once it has an endpoint and a component. -/
theorem entry_iff {x : EndpointData Comp} {ep : MgcpEndpoint} {client : Comp} :
    entry x = some (ep, client)
      ↔ x.endpoint = some ep ∧ x.compRef = some client :=
  ⟨held_some, fun ⟨hep, hcl⟩ => held_eq hep hcl⟩

variable {t t' : EndpointTable Comp} {owner : MgcpEndpoint → Option Comp}
variable {i : Fin 16} {ep : MgcpEndpoint} {client : Comp}

/-- The endpoint is the key of a slot. -/
theorem tableInv_iff : TableInv t owner
    ↔ Keeps EndpointData.endpoint EndpointData.compRef t owner := by
  constructor
  · intro h
    refine ⟨h.rep, fun i hep => ?_⟩
    obtain ⟨client, hcl⟩ := h.wf i hep
    rw [hcl]
    exact Option.some_ne_none client
  · intro h
    exact ⟨h.rep, fun i hep => Option.ne_none_iff_exists'.mp (h.whole i hep)⟩

/-- **THE SEARCH FOR AN ENDPOINT** finds its slot. -/
theorem TableInv.findEp (h : TableInv t owner) (hown : owner ep = some client) :
    ∃ i, findEp t ep = some i ∧ (t i).endpoint = some ep ∧ (t i).compRef = some client :=
  (tableInv_iff.mp h).find_some hown

/-- An endpoint is looked up in vain if nobody owns it. -/
theorem TableInv.findEp_none (h : TableInv t owner) :
    OsmoMgcp.findEp t ep = none ↔ owner ep = none :=
  (tableInv_iff.mp h).find_none ep

/-- `f_ep_known` says whether the endpoint has an owner. -/
theorem TableInv.known (h : TableInv t owner) :
    fEpKnown t ep = (owner ep).isSome := by
  rw [fEpKnown, OsmoMgcp.findEp]
  exact (tableInv_iff.mp h).isSome_find ep

/-- `f_comp_by_ep` finds the owner. -/
theorem TableInv.compByEp (h : TableInv t owner) (hown : owner ep = some client) :
    fCompByEp t ep = .ok client := by
  obtain ⟨i, hf, -, hcl⟩ := h.findEp hown
  rw [fCompByEp, hf]
  show bound (t i).compRef = _
  rw [hcl]
  rfl

/-- A new endpoint takes a free slot, if there is one. -/
theorem TableInv.add (client : Comp) (h : TableInv t owner) (hnew : owner ep = none) :
    (∃ t', fEpTableAdd t client ep = .ok t'
        ∧ TableInv t' (Function.update owner ep (some client)))
      ∨ (∃ e, fEpTableAdd t client ep = .error e) ∧ Full 16 owner := by
  rw [fEpTableAdd]
  rcases (tableInv_iff.mp h).add hnew client with ⟨i, hf, hadd⟩ | ⟨hf, hfull⟩
  · rw [hf]
    exact Or.inl ⟨_, rfl, tableInv_iff.mpr (hadd ⟨some client, some ep⟩ rfl rfl)⟩
  · rw [hf]
    exact Or.inr ⟨⟨_, rfl⟩, hfull⟩

/-- The search of a deletion asks for the owner as well. -/
theorem TableInv.findDel [DecidableEq Comp] (h : TableInv t owner) :
    (owner ep = some client → ∃ i, find t (fun e =>
        decide (e.compRef = some client ∧ e.endpoint = some ep)) = some i
        ∧ (t i).endpoint = some ep ∧ (t i).compRef = some client)
      ∧ (owner ep ≠ some client → find t (fun e =>
        decide (e.compRef = some client ∧ e.endpoint = some ep)) = none) := by
  constructor
  · intro hown
    obtain ⟨i, -, hep, hcl⟩ := h.findEp hown
    refine ⟨i, find_of_unique (decide_eq_true ⟨hcl, hep⟩) (fun j hj => ?_), hep, hcl⟩
    obtain ⟨hcl', hep'⟩ := of_decide_eq_true hj
    exact (h.rep.same (entry_iff.mpr ⟨hep', hcl'⟩) (entry_iff.mpr ⟨hep, hcl⟩)).1
  · intro hown
    refine find_eq_none.mpr (fun i => decide_eq_false (fun hi => hown ?_))
    exact h.rep.get (entry_iff.mpr ⟨hi.2, hi.1⟩)

/-- After a deletion the endpoint has no owner. -/
theorem TableInv.del [DecidableEq Comp] (h : TableInv t owner)
    (hown : owner ep = some client) : ∃ t', fEpTableDel t client ep = .ok t'
      ∧ TableInv t' (Function.update owner ep none) := by
  obtain ⟨i, hf, hep, hcl⟩ := h.findDel.1 hown
  refine ⟨Function.update t i ⟨none, none⟩, by rw [fEpTableDel, hf]; rfl, ?_⟩
  exact tableInv_iff.mpr ((tableInv_iff.mp h).del hep hcl rfl)

/-- **AN ENDPOINT IS MOVED** within its slot. -/
theorem TableInv.change {old : Comp} (client : Comp) (h : TableInv t owner)
    (hown : owner ep = some old) : ∃ t', fEpTableChangeConnhdlr t client ep = .ok t'
      ∧ TableInv t' (Function.update owner ep (some client)) := by
  obtain ⟨i, hf, hep, hcl⟩ := h.findEp hown
  refine ⟨Function.update t i { t i with compRef := some client },
    by rw [fEpTableChangeConnhdlr, hf]; rfl, ?_⟩
  exact tableInv_iff.mpr ((tableInv_iff.mp h).set hep hcl hep rfl)

/-- The table holds the endpoints, and the list has the pending transactions,
    each once. -/
structure EndpointsInv (s : MgcpEmulationCT Comp) (g : Endpoints Comp) : Prop where
  table : TableInv s.mgcpEndpointTable g.owner
  once : s.mgcpPendingTrans.Nodup
  pending : ∀ tid, tid ∈ s.mgcpPendingTrans ↔ g.pending tid
  expects : s.mgcpExpectTable = g.expects

variable {s : MgcpEmulationCT Comp} {g : Endpoints Comp}

/-- The emulation starts with empty tables. -/
theorem endpointsInv_init :
    EndpointsInv (mgcpInit : MgcpEmulationCT Comp) noEndpoints where
  table := ⟨represents_empty (fun _ => rfl), fun _ hne => absurd rfl hne⟩
  once := List.nodup_nil
  pending := fun _ => List.mem_nil_iff _
  expects := rfl

/-- The invariant says what the specification says of the tables. -/
theorem EndpointsInv.live (h : EndpointsInv s g) : EndpointsLive s g where
  live := by
    intro ep client
    rw [h.table.rep.holds]
    exact exists_congr (fun i => entry_iff)
  distinct := by
    intro i j ep hi hj
    obtain ⟨cl, hcl⟩ := h.table.wf i (by rw [hi]; exact Option.some_ne_none _)
    obtain ⟨cl', hcl'⟩ := h.table.wf j (by rw [hj]; exact Option.some_ne_none _)
    exact (h.table.rep.same (entry_iff.mpr ⟨hi, hcl⟩) (entry_iff.mpr ⟨hj, hcl'⟩)).1
  once := h.once
  pending := h.pending
  expects := h.expects

/-- **A TRANSACTION IS CONSUMED**: it was listed once, and is not listed any
    more. -/
theorem EndpointsInv.consume (h : EndpointsInv s g) (transId : MgcpTransId) :
    (s.mgcpPendingTrans.erase transId).Nodup
      ∧ ∀ tid, tid ∈ s.mgcpPendingTrans.erase transId
        ↔ tid ≠ transId ∧ g.pending tid := by
  refine ⟨h.once.erase transId, fun tid => ?_⟩
  rw [h.once.mem_erase_iff, h.pending]

-- ── Every input keeps it ─────────────────────────────────────────────────────

variable [DecidableEq Comp] {ops : MgcpOps Comp}

/-- A response of a client. -/
theorem EndpointsInv.rxClient {resp : MgcpResponse} (h : EndpointsInv s g)
    (hguard : EndpointsGuard s (.client client resp)) :
    StepFollows (mainStep ops) (EndpointsAllowed ops) (EndpointsStop ops)
      EndpointsInv s g (.client client resp) := by
  by_cases hmem : resp.line.transId ∈ s.mgcpPendingTrans
  · have hwas : fTransIdWasPending s.mgcpPendingTrans resp.line.transId
        = (true, s.mgcpPendingTrans.erase resp.line.transId) := if_pos hmem
    have hstep : mainStep ops s (.client client resp)
        = (fMgcpEp (.response resp)).bind _ := if_pos (by rw [hwas])
    have hpending := (h.pending _).mp hmem
    cases hep : fMgcpEp (.response resp) with
    | error e =>
        rw [hep] at hstep
        refine stepFollows_error hstep ⟨hpending, Or.inl fun ep hnames => ?_⟩
        rw [fMgcpEp_response.mpr hnames] at hep
        cases hep
    | ok ep =>
        rw [hep] at hstep
        have hlisted := hguard hmem
        rw [namesListed, hep] at hlisted
        have hlisted' : fEpKnown s.mgcpEndpointTable ep = false := hlisted
        have hnew : g.owner ep = none := by
          rw [h.table.known] at hlisted'
          exact Option.isNone_iff_eq_none.mp (Option.isSome_eq_false_iff.mp hlisted')
        rcases h.table.add client hnew with ⟨t', hadd, hinv⟩ | ⟨⟨e, he⟩, hfull⟩
        · have hok : mainStep ops s (.client client resp)
              = .ok ({ s with
                  mgcpEndpointTable := t'
                  mgcpPendingTrans := s.mgcpPendingTrans.erase resp.line.transId },
                [.mgcp (.response resp)]) := by
            refine hstep.trans ?_
            show (fEpTableAdd s.mgcpEndpointTable client ep).map _ = _
            rw [hadd, hwas]
            rfl
          obtain ⟨honce, hmem'⟩ := h.consume resp.line.transId
          exact stepFollows_ok hok (EndpointsAllowed.answer hpending (fMgcpEp_response.mp hep))
            ⟨hinv, honce, hmem', h.expects⟩
        · refine stepFollows_error (e := e) (hstep.trans ?_) ⟨hpending, Or.inr hfull⟩
          show (fEpTableAdd s.mgcpEndpointTable client ep).map _ = _
          rw [he]
          rfl
  · have hwas : fTransIdWasPending s.mgcpPendingTrans resp.line.transId
        = (false, s.mgcpPendingTrans) := if_neg hmem
    refine stepFollows_ok (if_neg ?_)
      (EndpointsAllowed.response (fun hp => hmem ((h.pending _).mpr hp))) h
    rw [hwas]
    exact Bool.false_ne_true

/-- A CRCX for an endpoint that has no owner. -/
theorem EndpointsInv.rxCrcx {cmd : MgcpCommand} {available : Comp → Bool}
    (h : EndpointsInv s g) (hguard : EndpointsGuard s (.mgcp (.command cmd) available))
    (hown : g.owner cmd.line.ep = none) (hverb : cmd.line.verb = .crcx) :
    StepFollows (mainStep ops) (EndpointsAllowed ops) (EndpointsStop ops)
      EndpointsInv s g (.mgcp (.command cmd) available) := by
  have hknown : fEpKnown s.mgcpEndpointTable cmd.line.ep = false := by
    rw [h.table.known, hown]
    rfl
  have hstep : mainStep ops s (.mgcp (.command cmd) available)
      = (ops.createCb s.mgcpExpectTable cmd).bind _ :=
    (if_neg (by rw [hknown]; exact Bool.false_ne_true)).trans (if_pos hverb)
  cases hcb : ops.createCb s.mgcpExpectTable cmd with
  | error e =>
      rw [hcb] at hstep
      rw [h.expects] at hcb
      exact stepFollows_error hstep ⟨hown, hverb, Or.inl ⟨e, hcb⟩⟩
  | ok r =>
      obtain ⟨e', client⟩ := r
      rw [hcb] at hstep
      rw [h.expects] at hcb
      cases hwild : tMgcpEpWildcard cmd.line.ep with
      | true =>
          have hfresh := hguard hwild hverb hknown
          refine stepFollows_ok (hstep.trans (if_pos hwild))
            (EndpointsAllowed.wildcard hown hverb hwild hcb)
            ⟨h.table, ?_, fun tid => ?_, rfl⟩
          · exact List.nodup_append.mpr ⟨h.once, List.nodup_singleton _,
              fun a ha b hb hab => hfresh (List.mem_singleton.mp hb ▸ hab ▸ ha)⟩
          · rw [List.mem_append, List.mem_singleton, h.pending]
            exact or_comm
      | false =>
          have hstep' := hstep.trans (if_neg (by rw [hwild]; exact Bool.false_ne_true))
          rcases h.table.add client hown with ⟨t', hadd, hinv⟩ | ⟨⟨e, he⟩, hfull⟩
          · have hok : mainStep ops s (.mgcp (.command cmd) available)
                = .ok ({ s with mgcpEndpointTable := t', mgcpExpectTable := e' },
                  fForwardToClient cmd client available) := by
              refine hstep'.trans ?_
              show (fEpTableAdd s.mgcpEndpointTable client cmd.line.ep).map _ = _
              rw [hadd]
              rfl
            exact stepFollows_ok hok (EndpointsAllowed.crcx hown hverb hwild hcb)
              ⟨hinv, h.once, h.pending, rfl⟩
          · refine stepFollows_error (e := e) (hstep'.trans ?_)
              ⟨hown, hverb, Or.inr hfull⟩
            show (fEpTableAdd s.mgcpEndpointTable client cmd.line.ep).map _ = _
            rw [he]
            rfl

/-- A command of the peer. -/
theorem EndpointsInv.rxCommand {cmd : MgcpCommand} {available : Comp → Bool}
    (h : EndpointsInv s g) (hguard : EndpointsGuard s (.mgcp (.command cmd) available)) :
    StepFollows (mainStep ops) (EndpointsAllowed ops) (EndpointsStop ops)
      EndpointsInv s g (.mgcp (.command cmd) available) := by
  cases hown : g.owner cmd.line.ep with
  | some client =>
      have hknown : fEpKnown s.mgcpEndpointTable cmd.line.ep = true := by
        rw [h.table.known, hown]
        rfl
      refine stepFollows_ok ((if_pos hknown).trans ?_)
        (EndpointsAllowed.deliver hown) h
      rw [h.table.compByEp hown]
      rfl
  | none =>
      by_cases hverb : cmd.line.verb = .crcx
      · exact h.rxCrcx hguard hown hverb
      · have hknown : fEpKnown s.mgcpEndpointTable cmd.line.ep = false := by
          rw [h.table.known, hown]
          rfl
        exact stepFollows_ok
          ((if_neg (by rw [hknown]; exact Bool.false_ne_true)).trans (if_neg hverb))
          (EndpointsAllowed.unitdata hown hverb) h

/-- **ONE INPUT** that meets the guard. -/
theorem mainStep_follows {input : Input Comp} (h : EndpointsInv s g)
    (hguard : EndpointsGuard s input) :
    StepFollows (mainStep ops) (EndpointsAllowed ops) (EndpointsStop ops)
      EndpointsInv s g input := by
  cases input with
  | client client resp => exact h.rxClient hguard
  | mgcp msg available =>
      cases msg with
      | command cmd => exact h.rxCommand hguard
      | response resp => exact stepFollows_error rfl trivial
  | register crit client =>
      cases he : fCreateExpect s.mgcpExpectTable crit client with
      | error e =>
          have herr : mainStep ops s (.register crit client) = .error e := by
            rw [mainStep, he]
            rfl
          rw [h.expects] at he
          exact stepFollows_error herr ⟨e, he⟩
      | ok e' =>
          have hok : mainStep ops s (.register crit client)
              = .ok ({ s with mgcpExpectTable := e' }, []) := by
            rw [mainStep, he]
            rfl
          rw [h.expects] at he
          exact stepFollows_ok hok (EndpointsAllowed.register he)
            ⟨h.table, h.once, h.pending, rfl⟩
  | deleteEp ep client =>
      by_cases hown : g.owner ep = some client
      · obtain ⟨t', hdel, hinv⟩ := h.table.del hown
        have hok : mainStep ops s (.deleteEp ep client)
            = .ok ({ s with mgcpEndpointTable := t' }, []) := by
          rw [mainStep, hdel]
          rfl
        exact stepFollows_ok hok (EndpointsAllowed.deleteEp hown)
          ⟨hinv, h.once, h.pending, h.expects⟩
      · refine stepFollows_error (e := .shutdown
          "MGCP Endpoint Table: Couldn't find to-be-deleted entry!") ?_ hown
        rw [mainStep, fEpTableDel, h.table.findDel.2 hown]
        rfl
  | changeConnhdlr ep client =>
      cases hown : g.owner ep with
      | none =>
          refine stepFollows_error (e := .shutdown
            "MGCP Endpoint Table: Couldn't find entry to move to ") ?_ hown
          rw [mainStep, fEpTableChangeConnhdlr, h.table.findEp_none.mpr hown]
          rfl
      | some old =>
          obtain ⟨t', hchange, hinv⟩ := h.table.change client hown
          have hok : mainStep ops s (.changeConnhdlr ep client)
              = .ok ({ s with mgcpEndpointTable := t' }, []) := by
            rw [mainStep, hchange]
            rfl
          exact stepFollows_ok hok (EndpointsAllowed.change hown)
            ⟨hinv, h.once, h.pending, h.expects⟩

/-- **MGCP ENDPOINTS**: a run whose inputs meet the guard treats endpoints and
    pending transactions as the specification says. -/
theorem mgcp_endpoints (ops : MgcpOps Comp) (inputs : List (Input Comp))
    (hguard : RunGuard.Guarded (mainStep ops) EndpointsGuard mgcpInit inputs) :
    Follows (mainStep ops) (EndpointsAllowed ops) (EndpointsStop ops) EndpointsLive
      mgcpInit noEndpoints inputs :=
  (follows_of_guarded (fun _ _ _ h hG => mainStep_follows h hG) inputs _ _
    endpointsInv_init hguard).imp (fun _ _ h => h.live)

end Invariant

/-- The expectation table decides who gets a CRCX. -/
def expectOps : MgcpOps Nat :=
  { createCb := expectedCreateCallback, unitdataCb := dummyUnitdataCallback }

/-- An expectation that any command matches. -/
def anyCrit : ExpectCriteria := { connid := none, endpoint := none, transid := none }

/-- The endpoints "1@m" and "*@m". -/
def ep1 : MgcpEndpoint := ['1', '@', 'm']
def epAny : MgcpEndpoint := ['*', '@', 'm']

/-- A command of the peer. -/
def command (verb : MgcpVerb) (transId : Char) (ep : MgcpEndpoint) : Input Nat :=
  .mgcp (.command { line := { verb := verb, transId := [transId], ep := ep }
                    params := none }) (fun _ => true)

/-- The answer to a CRCX, with the endpoint. -/
def answer (transId : Char) (ep : MgcpEndpoint) : MgcpResponse :=
  { line := { code := ['2', '0', '0'], transId := [transId] }
    params := some [{ code := .z, val := some ep }] }

/-- An endpoint is acquired by an answer, moved, deleted and acquired again. -/
def acquire : List (Input Nat) :=
  [.register anyCrit 10, command .crcx '5' epAny, .client 10 (answer '5' ep1),
    command .mdcx '6' ep1, .changeConnhdlr ep1 20, command .mdcx '7' ep1,
    .deleteEp ep1 20, .register anyCrit 30, command .crcx '8' ep1,
    .client 30 (answer '8' ep1)]

/-- An endpoint that changes hands, and whose commands follow it. -/
theorem mgcp_endpoints_acquire : Follows (mainStep expectOps)
    (EndpointsAllowed expectOps) (EndpointsStop expectOps) EndpointsLive mgcpInit
    noEndpoints acquire :=
  mgcp_endpoints expectOps acquire (by decide)

/-- Two components answer with the same endpoint, one after the other. -/
def answerTwice : List (Input Nat) :=
  [.register anyCrit 10, command .crcx '5' epAny, .client 10 (answer '5' ep1),
    .register anyCrit 20, command .crcx '6' epAny, .client 20 (answer '6' ep1)]

/-- **THE OLD ENTRY IS FOUND FIRST**: the commands still go to the component
    that had the endpoint before. -/
theorem answerTwice_unreached :
    (∃ s os, RunGuard.run (mainStep expectOps) mgcpInit answerTwice = .ok (s, os)
        ∧ fCompByEp s.mgcpEndpointTable ep1 = .ok 10
        ∧ (s.mgcpEndpointTable 0).endpoint = some ep1
        ∧ (s.mgcpEndpointTable 1).endpoint = some ep1)
      ∧ ¬ Follows (mainStep expectOps) (EndpointsAllowed expectOps)
        (EndpointsStop expectOps) EndpointsLive mgcpInit noEndpoints answerTwice := by
  refine ⟨⟨_, _, rfl, rfl, rfl, rfl⟩, fun h => ?_⟩
  obtain ⟨-, g1, -, -, g2, -, -, g3, -, -, g4, -, -, g5, -, -, g6, -, hlive⟩ := h
  exact absurd (hlive.distinct 0 1 ep1 rfl rfl) (by decide)

end OsmoMgcp
