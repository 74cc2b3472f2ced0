import OsmoTtcn.KeyedSlotsProofs
import OsmoTtcn.SlotPoolProofs
import OsmoTtcn.SpecRunProofs
import OsmoTtcn.TitanProofs

/-! # The call table of the SIP emulation

    `SIP_Emulation` maps Call-IDs to the components that handle the dialogs.  A
    dialog that the peer begins goes to the component that expects it.

    `f_call_table_del` has no caller: the entry of a dialog stays when the dialog
    has ended, and the 17th dialog of a run finds no entry, although the others
    are over (`seventeenth_refused`).  `sip_calls` proves the emulation right of
    every run whose dialogs have at most 16 Call-IDs. -/

namespace OsmoSip

open OsmoTitan SlotTable SlotMap SlotPool KeyedSlots SpecRun RunGuard

-- ── Data ─────────────────────────────────────────────────────────────────────

/-- `charstring`, as a list of characters. -/
abbrev Charstring := List Char

/-- `Method`, by the methods that the emulation tells apart. -/
inductive Method where
  | ack | bye | cancel | invite | options | register
  /-- Any other method. -/
  | other
  deriving DecidableEq, Repr

/-- `UserInfo` -/
structure UserInfo where
  userOrTelephoneSubscriber : Charstring
  password : Option Charstring
  deriving DecidableEq, Repr

/-- `HostPort` -/
structure HostPort where
  host : Option Charstring
  portField : Option Int
  deriving DecidableEq, Repr

/-- The lists of parameters are only compared. -/
structure SipUrl (Params : Type) where
  scheme : Charstring
  userInfo : Option UserInfo
  hostPort : HostPort
  urlParameters : Option Params
  headers : Option Params
  deriving DecidableEq

/-- `Addr_Union` -/
inductive AddrUnion (Params : Type) where
  | nameAddr (displayName : Option Charstring) (addrSpec : SipUrl Params)
  | addrSpecUnion (url : SipUrl Params)

/-- `CSeq` -/
structure CSeq where
  seqNumber : Nat
  method : Charstring
  deriving DecidableEq, Repr

/-- `PDU_SIP_Request`, by what the emulation reads. -/
structure PduSipRequest (Params : Type) where
  method : Method
  /-- `none`: the header field is missing. -/
  callId : Option Charstring
  toField : Option (AddrUnion Params)
  cSeq : CSeq
  expires : Option Charstring
  messageBody : Option Charstring

/-- `PDU_SIP_Response`, by what the emulation reads. -/
structure PduSipResponse where
  statusCode : Nat
  callId : Option Charstring
  cSeq : CSeq
  messageBody : Option Charstring
  deriving DecidableEq, Repr

/-- represents a single SIP Call -/
structure CallData (Comp : Type) where
  /-- `none`: the null reference. -/
  compRef : Option Comp
  callId : Charstring
  deriving DecidableEq

/-- data about an expected future incoming connection -/
structure ExpectData (Comp Params : Type) where
  sipTo : Option (SipUrl Params)
  vcConn : Option Comp

/-- The two tables of `SIP_Emulation_CT`. -/
structure State (Comp Params : Type) where
  sipCallTable : Fin 16 → CallData Comp
  sipExpectTable : Fin 16 → ExpectData Comp Params

/-- `f_expect_table_init`, `f_call_table_init` -/
def tablesInit {Comp Params : Type} : State Comp Params where
  sipCallTable := fun _ => { compRef := none, callId := [] }
  sipExpectTable := fun _ => { sipTo := none, vcConn := none }

/-- What a round of `main` can start with. -/
inductive Input (Comp Params : Type) where
  | sipRequest (req : PduSipRequest Params)
  | sipResponse (resp : PduSipResponse)
  | clientRequest (vcConn : Comp) (req : PduSipRequest Params)
  | clientResponse (vcConn : Comp) (resp : PduSipResponse)
  | clientClose (vcConn : Comp)
  | register (sipTo : SipUrl Params) (vcHdlr sender : Comp)

/-- What a round of `main` sends, and on which port. -/
inductive Output (Comp Params : Type) where
  | toClient (vcConn : Comp) (req : PduSipRequest Params)
  | toClientResponse (vcConn : Comp) (resp : PduSipResponse)
  | toSip (req : PduSipRequest Params)
  | toSipResponse (resp : PduSipResponse)
  | toSipClose
  | reply (sender : Comp)

-- ── Functions ────────────────────────────────────────────────────────────────

section Functions

variable {Comp Params : Type}

/-- A header field that may be missing. -/
def field {α : Type} (value : Option α) : Except Fault α :=
  match value with
  | some a => .ok a
  | none => .error (.ttcnError "Using the value of an optional field containing omit.")

/-- The entry of a Call-ID. -/
def findCallId (s : State Comp Params) (callId : Charstring) : Option (Fin 16) :=
  find s.sipCallTable (fun c => decide (c.callId = callId))

/-- `f_call_id_known` -/
def fCallIdKnown (s : State Comp Params) (callId : Charstring) : Bool :=
  (findCallId s callId).isSome

/-- resolve component reference by connection ID -/
def fCompByCallId (s : State Comp Params) (callId : Charstring) :
    Except Fault (Option Comp) :=
  (orShutdown (findCallId s callId) "SIP Call table not found by SIP Call ID ").map
    (fun i => (s.sipCallTable i).compRef)

/-- `f_call_table_add` -/
def fCallTableAdd (s : State Comp Params) (compRef : Option Comp) (callId : Charstring) :
    Except Fault (State Comp Params) :=
  (orShutdown (findCallId s []) "SIP Call table full").map
    (fun i => { s with
      sipCallTable := Function.update s.sipCallTable i { compRef := compRef, callId := callId } })

/-- Nothing calls it. -/
def fCallTableDel (s : State Comp Params) (callId : Charstring) :
    Except Fault (State Comp Params) :=
  (orShutdown (findCallId s callId) "SIP Call table attempt to delete non-existant ").map
    (fun i => { s with
      sipCallTable := Function.update s.sipCallTable i { compRef := none, callId := [] } })

/-- An omitted value stands for any. -/
def anyOr {α : Type} [DecidableEq α] (exp value : Option α) : Bool :=
  exp.all (fun a => decide (value = some a))

/-- if the port number is 5060, it may be omitted -/
def portMatches (exp value : Option Int) : Bool :=
  exp.all (fun n => decide (value = some n) || (decide (n = 5060) && value.isNone))

/-- `match(sip_to, t_exp)` -/
def urlMatches [DecidableEq Params] (exp sipTo : SipUrl Params) : Bool :=
  decide (sipTo.scheme = exp.scheme) && decide (sipTo.userInfo = exp.userInfo)
    && anyOr exp.hostPort.host sipTo.hostPort.host
    && portMatches exp.hostPort.portField sipTo.hostPort.portField
    && anyOr exp.urlParameters sipTo.urlParameters && anyOr exp.headers sipTo.headers

/-- `msgHeader.toField.addressField.nameAddr.addrSpec` -/
def toUrl (req : PduSipRequest Params) : Except Fault (SipUrl Params) :=
  (field req.toField).bind fun addr =>
    match addr with
    | .nameAddr _ addrSpec => .ok addrSpec
    | .addrSpecUnion _ => .error (.ttcnError
        "Using non-selected field nameAddr in a value of union type @SIPmsg_Types.Addr_Union.")

/-- `create_cb` of `SipOps`: it may use the tables, and returns a component. -/
abbrev SipCreateCallback (Comp Params : Type) : Type :=
  State Comp Params → PduSipRequest Params → Except Fault (State Comp Params × Option Comp)

/-- CreateCallback that can be used as create_cb and will use the expect table -/
def expectedCreateCallback [DecidableEq Params] : SipCreateCallback Comp Params := fun s req =>
  if req.method ≠ .invite ∧ req.method ≠ .register then
    .error (.shutdown "SIP ExpectedCreateCallback needs REGISTER/INVITE")
  else
    (toUrl req).bind fun sipTo =>
    (orShutdown (find s.sipExpectTable (fun e => e.sipTo.any (fun exp => urlMatches exp sipTo)))
      "Couldn't find SipExpect for incoming call ").map fun i =>
        ({ s with
          sipExpectTable :=
            Function.update s.sipExpectTable i { sipTo := none, vcConn := none } },
        (s.sipExpectTable i).vcConn)

/-- server/emulation side function to create expect -/
def fCreateExpect (s : State Comp Params) (sipTo : SipUrl Params) (hdlr : Comp) :
    Except Fault (State Comp Params) :=
  (orShutdown (find s.sipExpectTable (fun e => e.sipTo.isNone))
    "No space left in SipExpectTable").map
    (fun i => { s with
      sipExpectTable := Function.update s.sipExpectTable i
        { sipTo := some sipTo, vcConn := some hdlr } })

/-- REGISTER and INVITE may begin a dialog. -/
def PduSipRequest.begins (req : PduSipRequest Params) : Bool :=
  decide (req.method = .register) || decide (req.method = .invite)

/-- SIP REGISTER or SIP INVITE was received on SIP socket/port.  The null
    reference is no component to send to. -/
def onBegin (createCb : SipCreateCallback Comp Params) (s : State Comp Params)
    (req : PduSipRequest Params) :
    Except Fault (State Comp Params × List (Output Comp Params)) :=
  (field req.callId).bind fun callId =>
    if fCallIdKnown s callId then
      (fCompByCallId s callId).bind fun compRef =>
      (bound compRef).map fun vcConn => (s, [.toClient vcConn req])
    else
      (createCb s req).bind fun r =>
      (fCallTableAdd r.1 r.2 callId).bind fun s' =>
      (bound r.2).map fun vcConn => (s', [.toClient vcConn req])

/-- other SIP request was received on SIP socket/port -/
def onRequest (s : State Comp Params) (req : PduSipRequest Params) :
    Except Fault (State Comp Params × List (Output Comp Params)) :=
  (field req.callId).bind fun callId =>
    if fCallIdKnown s callId then
      (fCompByCallId s callId).bind fun compRef =>
      (bound compRef).map fun vcConn => (s, [.toClient vcConn req])
    else .error (.shutdown "SIP Request for unknown call ")

/-- SIP response was received on SIP socket/port -/
def onResponse (s : State Comp Params) (resp : PduSipResponse) :
    Except Fault (State Comp Params × List (Output Comp Params)) :=
  (field resp.callId).bind fun callId =>
    if fCallIdKnown s callId then
      (fCompByCallId s callId).bind fun compRef =>
      (bound compRef).map fun vcConn => (s, [.toClientResponse vcConn resp])
    else .error (.shutdown "SIP Response for unknown call ")

/-- a ConnHdlr is sending us a SIP REGISTER or a SIP INVITE: Forward to SIP
    port -/
def onClientBegin (s : State Comp Params) (vcConn : Comp) (req : PduSipRequest Params) :
    Except Fault (State Comp Params × List (Output Comp Params)) :=
  (field req.callId).bind fun callId =>
    if fCallIdKnown s callId then
      (fCompByCallId s callId).map fun _ => (s, [.toSip req])
    else (fCallTableAdd s (some vcConn) callId).map fun s' => (s', [.toSip req])

/-- One round of `main`. -/
def mainStep (createCb : SipCreateCallback Comp Params) (s : State Comp Params) :
    Input Comp Params → Except Fault (State Comp Params × List (Output Comp Params))
  | .sipRequest req => if req.begins then onBegin createCb s req else onRequest s req
  | .sipResponse resp => onResponse s resp
  | .clientRequest vcConn req =>
      if req.begins then onClientBegin s vcConn req else .ok (s, [.toSip req])
  | .clientResponse _ resp => .ok (s, [.toSipResponse resp])
  | .clientClose _ => .ok (s, [.toSipClose])
  | .register sipTo vcHdlr sender =>
      (fCreateExpect s sipTo vcHdlr).map fun s' => (s', [.reply sender])

end Functions

-- ── What the tables are for ──────────────────────────────────────────────────

/-- Who owns a Call-ID, and who expects a dialog. -/
structure Calls (Comp Params : Type) where
  owner : Charstring → Option Comp
  expects : Pool 16 (SipUrl Params × Comp)

section Spec

variable {Comp Params : Type} [DecidableEq Params]

/-- No dialog is in progress and none is expected. -/
def noCalls : Calls Comp Params := ⟨fun _ => none, fun _ => none⟩

omit [DecidableEq Params] in
/-- A REGISTER or an INVITE, which may begin a dialog. -/
def PduSipRequest.MayBegin (req : PduSipRequest Params) : Prop :=
  req.method = .register ∨ req.method = .invite

omit [DecidableEq Params] in
instance (req : PduSipRequest Params) : Decidable req.MayBegin :=
  inferInstanceAs (Decidable (_ ∨ _))

omit [DecidableEq Params] in
/-- The address in the To field, which has a name before it or at least angle
    brackets. -/
def PduSipRequest.IsTo (req : PduSipRequest Params) (sipTo : SipUrl Params) : Prop :=
  ∃ displayName, req.toField = some (.nameAddr displayName sipTo)

omit [DecidableEq Params] in
/-- An address that is expected: the same scheme and user, and what is given of
    the host, the port, the parameters and the headers; port 5060 may be left
    out. -/
structure ForAddress (exp sipTo : SipUrl Params) : Prop where
  scheme : sipTo.scheme = exp.scheme
  userInfo : sipTo.userInfo = exp.userInfo
  host : exp.hostPort.host = none ∨ sipTo.hostPort.host = exp.hostPort.host
  port : exp.hostPort.portField = none ∨ sipTo.hostPort.portField = exp.hostPort.portField
    ∨ exp.hostPort.portField = some 5060 ∧ sipTo.hostPort.portField = none
  urlParameters : exp.urlParameters = none ∨ sipTo.urlParameters = exp.urlParameters
  headers : exp.headers = none ∨ sipTo.headers = exp.headers

theorem anyOr_iff {α : Type} [DecidableEq α] {exp value : Option α} :
    anyOr exp value = true ↔ exp = none ∨ value = exp := by
  cases exp with
  | none => simp [anyOr]
  | some a => simp [anyOr]

theorem portMatches_iff {exp value : Option Int} :
    portMatches exp value = true
      ↔ exp = none ∨ value = exp ∨ exp = some 5060 ∧ value = none := by
  cases exp with
  | none => simp [portMatches]
  | some n => simp [portMatches]

/-- **THE ADDRESS MATCHES** exactly where it is an expected one. -/
theorem urlMatches_iff {exp sipTo : SipUrl Params} :
    urlMatches exp sipTo = true ↔ ForAddress exp sipTo := by
  rw [urlMatches]
  simp only [Bool.and_eq_true, decide_eq_true_eq, anyOr_iff, portMatches_iff]
  constructor
  · rintro ⟨⟨⟨⟨⟨hscheme, huser⟩, hhost⟩, hport⟩, hparams⟩, hheaders⟩
    exact ⟨hscheme, huser, hhost, hport, hparams, hheaders⟩
  · rintro ⟨hscheme, huser, hhost, hport, hparams, hheaders⟩
    exact ⟨⟨⟨⟨⟨hscheme, huser⟩, hhost⟩, hport⟩, hparams⟩, hheaders⟩

instance (exp sipTo : SipUrl Params) : Decidable (ForAddress exp sipTo) :=
  decidable_of_iff _ urlMatches_iff

/-- The expectation is for the address. -/
def forUrl (sipTo : SipUrl Params) (e : SipUrl Params × Comp) : Bool :=
  decide (ForAddress e.1 sipTo)

/-- **THE CALLS**: what may happen on each input. -/
inductive SipAllowed (g : Calls Comp Params) :
    Input Comp Params → Calls Comp Params → List (Output Comp Params) → Prop
  | request {req callId vcConn} (hid : req.callId = some callId)
      (howner : g.owner callId = some vcConn) :
      SipAllowed g (.sipRequest req) g [.toClient vcConn req]
  | response {resp callId vcConn} (hid : resp.callId = some callId)
      (howner : g.owner callId = some vcConn) :
      SipAllowed g (.sipResponse resp) g [.toClientResponse vcConn resp]
  | expected {req callId sipTo k exp vcConn} (hbegins : req.MayBegin)
      (hid : req.callId = some callId) (howner : g.owner callId = none)
      (hto : req.IsTo sipTo)
      (hfirst : FirstFit g.expects (forUrl sipTo) k (exp, vcConn)) :
      SipAllowed g (.sipRequest req)
        ⟨Function.update g.owner callId (some vcConn), Function.update g.expects k none⟩
        [.toClient vcConn req]
  | begun {vcConn req callId} (hbegins : req.MayBegin)
      (hid : req.callId = some callId) (howner : g.owner callId = none) :
      SipAllowed g (.clientRequest vcConn req)
        { g with owner := Function.update g.owner callId (some vcConn) } [.toSip req]
  | clientRequest {vcConn req} (hwas : ¬ req.MayBegin
        ∨ ∃ callId, req.callId = some callId ∧ g.owner callId ≠ none) :
      SipAllowed g (.clientRequest vcConn req) g [.toSip req]
  | clientResponse (vcConn resp) :
      SipAllowed g (.clientResponse vcConn resp) g [.toSipResponse resp]
  | clientClose (vcConn) : SipAllowed g (.clientClose vcConn) g [.toSipClose]
  | register {sipTo vcHdlr sender k} (hfree : FirstFree g.expects k) :
      SipAllowed g (.register sipTo vcHdlr sender)
        { g with expects := Function.update g.expects k (some (sipTo, vcHdlr)) }
        [.reply sender]

/-- Where the test may end: a message has no Call-ID or is for no call, nobody
    expects the address, or 16 dialogs are expected already.  That the call
    table is full is no reason. -/
def SipStops (g : Calls Comp Params) : Input Comp Params → Prop
  | .sipRequest req => ∀ callId, req.callId = some callId → g.owner callId = none
      ∧ (req.MayBegin → ∀ sipTo, req.IsTo sipTo → NoFit g.expects (forUrl sipTo))
  | .sipResponse resp => ∀ callId, resp.callId = some callId → g.owner callId = none
  | .clientRequest _ req => req.MayBegin ∧ req.callId = none
  | .register _ _ _ => Crowded g.expects
  | .clientResponse _ _ | .clientClose _ => False

/-- **NOTHING IS LOST**: whoever owns a Call-ID keeps it, and an expectation
    stays until the one new dialog that it is for. -/
def Lasting (g : Calls Comp Params) (i : Input Comp Params) (g' : Calls Comp Params)
    (os : List (Output Comp Params)) : Prop :=
  (∀ callId vcConn, g.owner callId = some vcConn → g'.owner callId = some vcConn)
    ∧ ∀ k exp vcConn, g.expects k = some (exp, vcConn) →
      g'.expects k = some (exp, vcConn)
        ∨ ∃ req callId sipTo, i = .sipRequest req ∧ req.MayBegin
          ∧ req.callId = some callId ∧ g.owner callId = none ∧ req.IsTo sipTo
          ∧ ForAddress exp sipTo ∧ os = [.toClient vcConn req]

omit [DecidableEq Params] in
/-- The Call-ID of a request that may begin a dialog, from either side. -/
def Input.beginsWith : Input Comp Params → Option Charstring
  | .sipRequest req | .clientRequest _ req => if req.MayBegin then req.callId else none
  | .sipResponse _ | .clientResponse _ _ | .clientClose _ | .register _ _ _ => none

omit [DecidableEq Params] in
theorem begins_iff {req : PduSipRequest Params} : req.begins = true ↔ req.MayBegin := by
  rw [PduSipRequest.begins, Bool.or_eq_true, decide_eq_true_iff, decide_eq_true_iff,
    PduSipRequest.MayBegin]

omit [DecidableEq Params] in
/-- The address that is read is the one in the To field. -/
theorem toUrl_iff {req : PduSipRequest Params} {sipTo : SipUrl Params} :
    toUrl req = .ok sipTo ↔ req.IsTo sipTo := by
  rw [toUrl, PduSipRequest.IsTo]
  cases req.toField with
  | none => exact iff_of_false nofun (fun ⟨_, h⟩ => nomatch h)
  | some addr =>
      cases addr with
      | nameAddr displayName addrSpec =>
          constructor
          · intro h
            rw [← Except.ok.inj h]
            exact ⟨displayName, rfl⟩
          · rintro ⟨name, h⟩
            rw [(AddrUnion.nameAddr.inj (Option.some.inj h)).2]
            rfl
      | addrSpecUnion url => exact iff_of_false nofun (fun ⟨_, h⟩ => nomatch Option.some.inj h)

end Spec

-- ── Dialogs in progress ──────────────────────────────────────────────────────

section Progress

variable {Comp Params : Type}

/-- The dialogs in progress, and the requests on their way that end one. -/
structure Progress where
  dialogs : List Charstring
  ending : List (Charstring × CSeq)
  deriving DecidableEq

/-- A BYE, or a REGISTER that expires at once. -/
def PduSipRequest.ends (req : PduSipRequest Params) : Bool :=
  decide (req.method = .bye) || (decide (req.method = .register)
    && decide (req.expires = some ['0']))

/- Membership in a list of Call-IDs is decided with their equality. -/
local instance lawfulCharstring : LawfulBEq Charstring := inferInstance

/-- What a request does to the dialogs in progress. -/
def Progress.request (p : Progress) (req : PduSipRequest Params) : Progress :=
  match req.callId with
  | none => p
  | some callId =>
      { dialogs := if req.begins ∧ callId ∉ p.dialogs then callId :: p.dialogs else p.dialogs
        ending := if req.ends then (callId, req.cSeq) :: p.ending else p.ending }

/-- A final response to a request that ends a dialog. -/
def Progress.response (p : Progress) (resp : PduSipResponse) : Progress :=
  match resp.callId with
  | none => p
  | some callId =>
      if 200 ≤ resp.statusCode ∧ (callId, resp.cSeq) ∈ p.ending then
        { dialogs := p.dialogs.filter (fun c => decide (c ≠ callId))
          ending := p.ending.filter (fun e => decide (e.1 ≠ callId)) }
      else p

/-- What an input does to them. -/
def Progress.note (p : Progress) : Input Comp Params → Progress
  | .sipRequest req | .clientRequest _ req => p.request req
  | .sipResponse resp | .clientResponse _ resp => p.response resp
  | .clientClose _ | .register _ _ _ => p

/-- What is in progress after a run. -/
def inProgress (is : List (Input Comp Params)) : Progress := is.foldl Progress.note ⟨[], []⟩

end Progress

-- ── The tables ───────────────────────────────────────────────────────────────

section Tables

variable {Comp Params : Type} {s : State Comp Params} {g : Calls Comp Params}
variable {callId : Charstring}

/-- The Call-ID of an entry; the empty one stands for a free slot. -/
def keyOf (c : CallData Comp) : Option Charstring :=
  if c.callId = [] then none else some c.callId

/-- What a slot says of an expectation. -/
def ExpectIs (e : ExpectData Comp Params) : Option (SipUrl Params × Comp) → Prop
  | none => e.sipTo = none
  | some x => e.sipTo = some x.1 ∧ e.vcConn = some x.2

/-- The two tables say who owns a Call-ID and who expects a dialog; a free slot
    has the null reference. -/
structure Routes (s : State Comp Params) (g : Calls Comp Params) : Prop where
  calls : Keeps keyOf CallData.compRef s.sipCallTable g.owner
  idle : ∀ i, (s.sipCallTable i).callId = [] → (s.sipCallTable i).compRef = none
  expects : Shadows ExpectIs s.sipExpectTable g.expects

theorem routes_init : Routes (tablesInit : State Comp Params) noCalls where
  calls := keeps_empty (fun _ => if_pos rfl)
  idle := fun _ _ => rfl
  expects := fun _ => rfl

theorem findCallId_key (hne : callId ≠ []) (s : State Comp Params) :
    findCallId s callId = find s.sipCallTable (fun c => decide (keyOf c = some callId)) :=
  find_keyUnless hne s.sipCallTable

theorem findCallId_free (s : State Comp Params) :
    findCallId s [] = find s.sipCallTable (fun c => (keyOf c).isNone) :=
  find_keyUnless_none s.sipCallTable

/-- The empty Call-ID has no owner. -/
theorem Routes.owner_nil (h : Routes s g) : g.owner [] = none := by
  refine h.calls.rep.get_none.mpr (fun i c he => ?_)
  have hk := (held_some he).1
  rw [keyOf] at hk
  by_cases hc : (s.sipCallTable i).callId = []
  · rw [if_pos hc] at hk
    exact nomatch hk
  · rw [if_neg hc] at hk
    exact hc (Option.some.inj hk)

/-- **A CALL-ID WITH AN OWNER** is known, and resolved to the owner. -/
theorem Routes.known (h : Routes s g) {c : Comp} (howner : g.owner callId = some c) :
    fCallIdKnown s callId = true ∧ fCompByCallId s callId = .ok (some c) := by
  have hne : callId ≠ [] := by
    rintro rfl
    rw [h.owner_nil] at howner
    exact nomatch howner
  obtain ⟨i, hf, -, hc⟩ := h.calls.find_some howner
  rw [fCallIdKnown, fCompByCallId, findCallId_key hne, hf]
  refine ⟨rfl, ?_⟩
  dsimp only [orShutdown, Except.map]
  rw [hc]

theorem Routes.unknown (h : Routes s g) (hne : callId ≠ []) (howner : g.owner callId = none) :
    fCallIdKnown s callId = false := by
  rw [fCallIdKnown, findCallId_key hne, (h.calls.find_none callId).mpr howner]
  rfl

/-- A message for a Call-ID without an owner goes nowhere. -/
theorem Routes.nowhere (h : Routes s g) (howner : g.owner callId = none)
    (hknown : fCallIdKnown s callId = true) : fCompByCallId s callId = .ok none := by
  by_cases hne : callId = []
  · subst hne
    obtain ⟨i, hi⟩ := Option.isSome_iff_exists.mp hknown
    have hacc := find_accepts hi
    rw [fCompByCallId, hi]
    dsimp only [orShutdown, Except.map]
    rw [h.idle i (of_decide_eq_true hacc)]
  · rw [h.unknown hne howner] at hknown
    exact nomatch hknown

/-- **A NEW DIALOG** takes a free slot, if there is one. -/
theorem Routes.add (h : Routes s g) (hne : callId ≠ []) (howner : g.owner callId = none)
    (hroom : findCallId s [] ≠ none) (c : Comp) :
    ∃ s', fCallTableAdd s (some c) callId = .ok s'
      ∧ Routes s' { g with owner := Function.update g.owner callId (some c) } := by
  rw [findCallId_free] at hroom
  rcases h.calls.add howner c with ⟨i, hf, hadd⟩ | ⟨hf, -⟩
  · rw [fCallTableAdd, findCallId_free, hf]
    refine ⟨_, rfl, ⟨hadd { compRef := some c, callId := callId } (if_neg hne) rfl, ?_,
      h.expects⟩⟩
    intro j hj
    by_cases hji : j = i
    · dsimp only at hj
      rw [hji, Function.update_self] at hj
      exact absurd hj hne
    · dsimp only at hj ⊢
      rw [Function.update_of_ne hji] at hj ⊢
      exact h.idle j hj
  · exact absurd hf hroom

theorem expectIs_isNone (e : ExpectData Comp Params) (o : Option (SipUrl Params × Comp))
    (h : ExpectIs e o) : e.sipTo.isNone = o.isNone := by
  cases o with
  | none => exact Option.isNone_iff_eq_none.mpr h
  | some x => rw [h.1]; rfl

/-- **A NEW EXPECTATION** takes the first free slot. -/
theorem Routes.expect (h : Routes s g) (sipTo : SipUrl Params) (c : Comp) :
    (∃ k s', fCreateExpect s sipTo c = .ok s' ∧ FirstFree g.expects k
        ∧ Routes s' { g with expects := Function.update g.expects k (some (sipTo, c)) })
      ∨ (∃ e, fCreateExpect s sipTo c = .error e) ∧ Crowded g.expects := by
  rw [fCreateExpect, h.expects.find expectIs_isNone]
  cases hf : find g.expects (fun o => o.isNone) with
  | none => exact Or.inr ⟨⟨_, rfl⟩, find_free_none.mp hf⟩
  | some k =>
      exact Or.inl ⟨k, _, rfl, find_free_iff.mp hf,
        ⟨h.calls, h.idle, h.expects.update ⟨rfl, rfl⟩⟩⟩

variable [DecidableEq Params]

theorem expectIs_forUrl (sipTo : SipUrl Params) (e : ExpectData Comp Params)
    (o : Option (SipUrl Params × Comp)) (h : ExpectIs e o) :
    e.sipTo.any (fun exp => urlMatches exp sipTo) = o.any (forUrl sipTo) := by
  cases o with
  | none =>
      rw [ExpectIs] at h
      rw [h]
      rfl
  | some x =>
      rw [h.1]
      exact Bool.eq_iff_iff.mpr (urlMatches_iff.trans decide_eq_true_iff.symm)

/-- **AN EXPECTATION IS TAKEN**: the first that is for the address. -/
theorem Routes.take (h : Routes s g) {req : PduSipRequest Params} {sipTo : SipUrl Params}
    (hbegins : req.begins = true) (hto : toUrl req = .ok sipTo) :
    (∃ k exp c s', expectedCreateCallback s req = .ok (s', some c)
        ∧ FirstFit g.expects (forUrl sipTo) k (exp, c)
        ∧ s'.sipCallTable = s.sipCallTable
        ∧ Routes s' { g with expects := Function.update g.expects k none })
      ∨ (∃ e, expectedCreateCallback s req = .error e)
        ∧ NoFit g.expects (forUrl sipTo) := by
  have hmethod : ¬ (req.method ≠ .invite ∧ req.method ≠ .register) := by
    rintro ⟨hinvite, hregister⟩
    rw [PduSipRequest.begins, decide_eq_false hinvite, decide_eq_false hregister] at hbegins
    exact nomatch hbegins
  rw [expectedCreateCallback, if_neg hmethod, hto]
  dsimp only [Except.bind]
  rw [h.expects.find (expectIs_forUrl sipTo)]
  cases hf : find g.expects (fun o => o.any (forUrl sipTo)) with
  | none => exact Or.inr ⟨⟨_, rfl⟩, find_fit_none.mp hf⟩
  | some k =>
      obtain ⟨⟨exp, c⟩, hfit⟩ := find_fit hf
      have hslot : ExpectIs (s.sipExpectTable k) (some (exp, c)) := hfit.1 ▸ h.expects k
      refine Or.inl ⟨k, exp, c, { s with
        sipExpectTable := Function.update s.sipExpectTable k { sipTo := none, vcConn := none } },
        ?_, hfit, rfl, ⟨h.calls, h.idle, h.expects.update rfl⟩⟩
      dsimp only [orShutdown, Except.map]
      rw [hslot.2]

end Tables

-- ── Rounds ───────────────────────────────────────────────────────────────────

section Rounds

variable {Comp Params : Type} [DecidableEq Params] {s : State Comp Params}
variable {g : Calls Comp Params} {req : PduSipRequest Params} {resp : PduSipResponse}

/-- What a dialog begins with has a Call-ID that is known or finds a free
    slot. -/
def Guard (s : State Comp Params) (i : Input Comp Params) : Prop :=
  ∀ callId, i.beginsWith = some callId →
    callId ≠ [] ∧ (fCallIdKnown s callId = true ∨ findCallId s [] ≠ none)

omit [DecidableEq Params] in
/-- **FOR THE OWNER OF ITS CALL-ID**: a message of the peer goes there, or nobody
    owns the Call-ID. -/
theorem Routes.toOwner (h : Routes s g) {oid : Option Charstring}
    {out : Comp → Output Comp Params} {unknown : Fault}
    {r : Except Fault (State Comp Params × List (Output Comp Params))}
    (hr : r = (field oid).bind fun callId =>
      if fCallIdKnown s callId then
        (fCompByCallId s callId).bind fun compRef =>
        (bound compRef).map fun vcConn => (s, [out vcConn])
      else .error unknown) :
    (∃ callId c, oid = some callId ∧ g.owner callId = some c ∧ r = .ok (s, [out c]))
      ∨ ∃ e, r = .error e ∧ ∀ callId, oid = some callId → g.owner callId = none := by
  rw [hr]
  cases oid with
  | none => exact Or.inr ⟨_, rfl, fun callId hsome => nomatch hsome⟩
  | some callId =>
      dsimp only [field, Except.bind]
      cases howner : g.owner callId with
      | some c =>
          obtain ⟨hknown, hcomp⟩ := h.known howner
          rw [if_pos hknown, hcomp]
          exact Or.inl ⟨callId, c, rfl, howner, rfl⟩
      | none =>
          have hnobody : ∀ callId', some callId = some callId' → g.owner callId' = none := by
            intro callId' hsome
            rw [← Option.some.inj hsome]
            exact howner
          cases hknown : fCallIdKnown s callId with
          | false => exact Or.inr ⟨_, if_neg Bool.false_ne_true, hnobody⟩
          | true =>
              rw [if_pos rfl, h.nowhere howner hknown]
              exact Or.inr ⟨_, rfl, hnobody⟩

/-- **REGISTER OR INVITE OF THE PEER**. -/
theorem onBegin_cases (h : Routes s g) (hbegins : req.begins = true)
    (hguard : Guard s (.sipRequest req)) :
    (∃ e, onBegin expectedCreateCallback s req = .error e
        ∧ SipStops g (.sipRequest req))
      ∨ ∃ s' os g', onBegin expectedCreateCallback s req = .ok (s', os)
        ∧ SipAllowed g (.sipRequest req) g' os ∧ Routes s' g' := by
  rw [onBegin]
  cases hid : req.callId with
  | none =>
      refine Or.inl ⟨_, rfl, fun callId hsome => ?_⟩
      rw [hid] at hsome
      exact nomatch hsome
  | some callId =>
      dsimp only [field, Except.bind]
      cases howner : g.owner callId with
      | some c =>
          obtain ⟨hknown, hcomp⟩ := h.known howner
          rw [if_pos hknown, hcomp]
          exact Or.inr ⟨_, _, _, rfl, .request hid howner, h⟩
      | none =>
          obtain ⟨hne, hroom⟩ := hguard callId (by
            rw [Input.beginsWith, if_pos (begins_iff.mp hbegins), hid])
          have hunknown := h.unknown hne howner
          have hno : ¬ (fCallIdKnown s callId = true) := by
            rw [hunknown]
            exact nofun
          have hfree : findCallId s [] ≠ none := hroom.resolve_left hno
          have hmay := begins_iff.mp hbegins
          have hstops : (∀ sipTo, req.IsTo sipTo → NoFit g.expects (forUrl sipTo)) →
              SipStops g (.sipRequest req) := by
            intro hwhy callId' hsome
            rw [hid] at hsome
            rw [← Option.some.inj hsome]
            exact ⟨howner, fun _ => hwhy⟩
          rw [if_neg hno]
          cases hto : toUrl req with
          | error e =>
              have hcb : ∃ e', expectedCreateCallback s req = .error e' := by
                rw [expectedCreateCallback, hto]
                by_cases hmethod : req.method ≠ .invite ∧ req.method ≠ .register
                · exact ⟨_, if_pos hmethod⟩
                · exact ⟨_, if_neg hmethod⟩
              obtain ⟨e', hcb⟩ := hcb
              rw [hcb]
              refine Or.inl ⟨e', rfl, hstops (fun sipTo hok => ?_)⟩
              exact nomatch hto.symm.trans (toUrl_iff.mpr hok)
          | ok sipTo =>
              rcases h.take hbegins hto with
                ⟨k, exp, c, s', hcb, hfit, hsame, h'⟩ | ⟨⟨e, hcb⟩, hnone⟩
              · have hfree' : findCallId s' [] ≠ none := by
                  rw [findCallId, hsame]
                  exact hfree
                obtain ⟨s'', hadd, h''⟩ := h'.add hne howner hfree' c
                rw [hcb]
                dsimp only
                rw [hadd]
                exact Or.inr ⟨_, _, _, rfl,
                  .expected hmay hid howner (toUrl_iff.mp hto) hfit, h''⟩
              · rw [hcb]
                refine Or.inl ⟨e, rfl, hstops (fun sipTo' hok => ?_)⟩
                rw [← Except.ok.inj (hto.symm.trans (toUrl_iff.mpr hok))]
                exact hnone

/-- **ANY OTHER REQUEST OF THE PEER**. -/
theorem onRequest_cases (h : Routes s g) (hbegins : req.begins = false) :
    (∃ e, onRequest s req = .error e ∧ SipStops g (.sipRequest req))
      ∨ ∃ s' os g', onRequest s req = .ok (s', os)
        ∧ SipAllowed g (.sipRequest req) g' os ∧ Routes s' g' := by
  rcases h.toOwner (r := onRequest s req) rfl with
    ⟨callId, c, hid, howner, hok⟩ | ⟨e, herr, hnobody⟩
  · exact Or.inr ⟨_, _, _, hok, .request hid howner, h⟩
  · refine Or.inl ⟨e, herr, fun callId hid => ⟨hnobody callId hid, fun hmay => ?_⟩⟩
    exact nomatch hbegins.symm.trans (begins_iff.mpr hmay)

/-- **A RESPONSE OF THE PEER**. -/
theorem onResponse_cases (h : Routes s g) :
    (∃ e, onResponse s resp = .error e ∧ SipStops g (.sipResponse resp))
      ∨ ∃ s' os g', onResponse s resp = .ok (s', os)
        ∧ SipAllowed g (.sipResponse resp) g' os ∧ Routes s' g' := by
  rcases h.toOwner (r := onResponse s resp) rfl with
    ⟨callId, c, hid, howner, hok⟩ | ⟨e, herr, hnobody⟩
  · exact Or.inr ⟨_, _, _, hok, .response hid howner, h⟩
  · exact Or.inl ⟨e, herr, hnobody⟩

/-- **REGISTER OR INVITE OF A CLIENT**. -/
theorem onClientBegin_cases (h : Routes s g) (vcConn : Comp) (hbegins : req.begins = true)
    (hguard : Guard s (.clientRequest vcConn req)) :
    (∃ e, onClientBegin s vcConn req = .error e
        ∧ SipStops g (.clientRequest vcConn req))
      ∨ ∃ s' os g', onClientBegin s vcConn req = .ok (s', os)
        ∧ SipAllowed g (.clientRequest vcConn req) g' os ∧ Routes s' g' := by
  rw [onClientBegin]
  cases hid : req.callId with
  | none => exact Or.inl ⟨_, rfl, begins_iff.mp hbegins, hid⟩
  | some callId =>
      dsimp only [field, Except.bind]
      cases howner : g.owner callId with
      | some c =>
          obtain ⟨hknown, hcomp⟩ := h.known howner
          have hwas : g.owner callId ≠ none := by
            rw [howner]
            exact Option.some_ne_none c
          rw [if_pos hknown, hcomp]
          exact Or.inr ⟨_, _, _, rfl, .clientRequest (Or.inr ⟨callId, hid, hwas⟩), h⟩
      | none =>
          obtain ⟨hne, hroom⟩ := hguard callId (by
            rw [Input.beginsWith, if_pos (begins_iff.mp hbegins), hid])
          have hno : ¬ (fCallIdKnown s callId = true) := by
            rw [h.unknown hne howner]
            exact nofun
          obtain ⟨s', hadd, h'⟩ := h.add hne howner (hroom.resolve_left hno) vcConn
          rw [if_neg hno, hadd]
          exact Or.inr ⟨_, _, _, rfl, .begun (begins_iff.mp hbegins) hid howner, h'⟩

/-- **ONE ROUND** that meets the condition. -/
theorem mainStep_cases (i : Input Comp Params) (h : Routes s g) (hguard : Guard s i) :
    (∃ e, mainStep expectedCreateCallback s i = .error e ∧ SipStops g i)
      ∨ ∃ s' os g', mainStep expectedCreateCallback s i = .ok (s', os)
        ∧ SipAllowed g i g' os ∧ Routes s' g' := by
  rw [mainStep.eq_def]
  cases i with
  | sipRequest req =>
      dsimp only
      cases hbegins : req.begins with
      | true => exact onBegin_cases h hbegins hguard
      | false => exact onRequest_cases h hbegins
  | sipResponse resp => exact onResponse_cases h
  | clientRequest vcConn req =>
      dsimp only
      cases hbegins : req.begins with
      | true => exact onClientBegin_cases h vcConn hbegins hguard
      | false =>
          have hnot : ¬ req.MayBegin := fun hmay =>
            nomatch hbegins.symm.trans (begins_iff.mpr hmay)
          exact Or.inr ⟨_, _, _, rfl, .clientRequest (Or.inl hnot), h⟩
  | clientResponse vcConn resp => exact Or.inr ⟨_, _, _, rfl, .clientResponse vcConn resp, h⟩
  | clientClose vcConn => exact Or.inr ⟨_, _, _, rfl, .clientClose vcConn, h⟩
  | register sipTo vcHdlr sender =>
      dsimp only
      rcases h.expect sipTo vcHdlr with ⟨k, s', hadd, hfree, h'⟩ | ⟨⟨e, hadd⟩, hall⟩
      · rw [hadd]
        exact Or.inr ⟨_, _, _, rfl, .register hfree, h'⟩
      · rw [hadd]
        exact Or.inl ⟨e, rfl, hall⟩

/-- **WHAT IS ALLOWED LOSES NOTHING**. -/
theorem SipAllowed.lasting {i : Input Comp Params} {g' : Calls Comp Params}
    {os : List (Output Comp Params)} (h : SipAllowed g i g' os) : Lasting g i g' os := by
  -- A Call-ID that gets an owner had none.
  have hkeep : ∀ {callId callId' : Charstring} {c c' : Comp}, g.owner callId = none →
      g.owner callId' = some c' →
      Function.update g.owner callId (some c) callId' = some c' := by
    intro callId callId' c c' hnone hsome
    have hne : callId' ≠ callId := by
      rintro rfl
      rw [hnone] at hsome
      exact nomatch hsome
    rw [Function.update_of_ne hne]
    exact hsome
  cases h with
  | request hid howner => exact ⟨fun _ _ ho => ho, fun _ _ _ he => Or.inl he⟩
  | response hid howner => exact ⟨fun _ _ ho => ho, fun _ _ _ he => Or.inl he⟩
  | clientRequest hwas => exact ⟨fun _ _ ho => ho, fun _ _ _ he => Or.inl he⟩
  | clientResponse vcConn resp => exact ⟨fun _ _ ho => ho, fun _ _ _ he => Or.inl he⟩
  | clientClose vcConn => exact ⟨fun _ _ ho => ho, fun _ _ _ he => Or.inl he⟩
  | begun hbegins hid howner =>
      exact ⟨fun _ _ ho => hkeep howner ho, fun _ _ _ he => Or.inl he⟩
  | @expected req callId sipTo k exp vcConn hbegins hid howner hto hfirst =>
      refine ⟨fun _ _ ho => hkeep howner ho, fun k' exp' vcConn' he => ?_⟩
      by_cases hk : k' = k
      · rw [hk, hfirst.1] at he
        obtain ⟨rfl, rfl⟩ := Prod.mk.inj (Option.some.inj he)
        exact Or.inr ⟨req, callId, sipTo, rfl, hbegins, hid, howner, hto,
          of_decide_eq_true hfirst.2.1, rfl⟩
      · refine Or.inl ?_
        dsimp only
        rw [Function.update_of_ne hk]
        exact he
  | @register sipTo vcHdlr sender k hfree =>
      refine ⟨fun _ _ ho => ho, fun k' exp' vcConn' he => Or.inl ?_⟩
      have hne : k' ≠ k := by
        rintro rfl
        rw [hfree.1] at he
        exact nomatch he
      dsimp only
      rw [Function.update_of_ne hne]
      exact he

end Rounds

-- ── Runs ─────────────────────────────────────────────────────────────────────

section Runs

variable {Comp Params : Type} [DecidableEq Params] {s : State Comp Params}
variable {g : Calls Comp Params}

/-- A Call-ID gets an owner by a request that begins with it. -/
theorem SipAllowed.owner_of {i : Input Comp Params} {g' : Calls Comp Params}
    {os : List (Output Comp Params)} (h : SipAllowed g i g' os) {callId : Charstring}
    (hnew : g'.owner callId ≠ none) :
    g.owner callId ≠ none ∨ i.beginsWith = some callId := by
  cases h with
  | request hid howner => exact Or.inl hnew
  | response hid howner => exact Or.inl hnew
  | clientRequest hwas => exact Or.inl hnew
  | clientResponse vcConn resp => exact Or.inl hnew
  | clientClose vcConn => exact Or.inl hnew
  | register hfree => exact Or.inl hnew
  | @begun vcConn req callId' hbegins hid howner =>
      by_cases hc : callId = callId'
      · exact Or.inr (by rw [Input.beginsWith, if_pos hbegins, hid, hc])
      · dsimp only at hnew
        rw [Function.update_of_ne hc] at hnew
        exact Or.inl hnew
  | @expected req callId' sipTo k exp vcConn hbegins hid howner hto hfirst =>
      by_cases hc : callId = callId'
      · exact Or.inr (by rw [Input.beginsWith, if_pos hbegins, hid, hc])
      · dsimp only at hnew
        rw [Function.update_of_ne hc] at hnew
        exact Or.inl hnew

omit [DecidableEq Params] in
/-- **SIXTEEN CALL-IDS FIT**: where all owned ones are among 16, another one of
    these is owned itself or finds a free slot. -/
theorem Routes.room (h : Routes s g) {ids : List Charstring} (hlen : ids.length ≤ 16)
    (howned : ∀ callId, g.owner callId ≠ none → callId ∈ ids) {callId : Charstring}
    (hmem : callId ∈ ids) : fCallIdKnown s callId = true ∨ findCallId s [] ≠ none := by
  by_cases hroom : findCallId s [] = none
  · refine Or.inl ?_
    have hfull : ∀ i, held keyOf CallData.compRef (s.sipCallTable i) ≠ none := by
      intro i he
      rw [findCallId_free] at hroom
      have hused := find_eq_none.mp hroom i
      rw [h.calls.free he] at hused
      exact nomatch hused
    obtain ⟨ks, hnodup, hks, hall⟩ := h.calls.rep.full hfull
    -- 16 different Call-IDs among at most 16 are all of them.
    have hsub : ks ⊆ ids := fun k hk => howned k (hall k hk)
    have hperm : ks.Perm ids := (List.subperm_of_subset hnodup hsub).perm_of_length_le
      (hks ▸ hlen)
    obtain ⟨c, hc⟩ := Option.ne_none_iff_exists'.mp (hall callId (hperm.mem_iff.mpr hmem))
    exact (h.known hc).1
  · exact Or.inr hroom

omit [DecidableEq Params] in
/-- What begins with a Call-ID begins with one of these. -/
def OneOf (ids : List Charstring) (_ : State Comp Params) (i : Input Comp Params) : Prop :=
  ∀ callId, i.beginsWith = some callId → callId ∈ ids

/-- **THE CALL TABLE**: a run whose dialogs, up to its end, have at most 16
    Call-IDs, none of them empty, goes as the calls allow, up to a stop that they
    allow; nothing is lost on the way; and in every state the tables are the
    calls, with at most one entry for a Call-ID. -/
theorem sip_calls (ids : List Charstring) (hlen : ids.length ≤ 16) (hne : [] ∉ ids)
    (is : List (Input Comp Params))
    (hguard : Guarded (mainStep expectedCreateCallback) (OneOf ids) tablesInit is) :
    Follows (mainStep expectedCreateCallback)
      (fun g i g' os => SipAllowed g i g' os ∧ Lasting g i g' os) SipStops
      (fun s g => Routes s g
        ∧ KeyUnique (key (held keyOf CallData.compRef)) s.sipCallTable)
      tablesInit noCalls is := by
  have hstart : Routes (tablesInit : State Comp Params) noCalls
      ∧ ∀ callId, (noCalls : Calls Comp Params).owner callId ≠ none → callId ∈ ids :=
    ⟨routes_init, fun _ hnone => absurd rfl hnone⟩
  refine (follows_of_guarded
    (R := fun s g => Routes s g ∧ ∀ callId, g.owner callId ≠ none → callId ∈ ids)
    ?_ is _ _ hstart hguard).imp (fun s g h => ⟨h.1, h.1.calls.rep.unique⟩)
  rintro s g i ⟨h, howned⟩ hi
  have hfits : Guard s i := by
    intro callId hbegins
    have hmem := hi callId hbegins
    exact ⟨fun heq => hne (heq ▸ hmem), h.room hlen howned hmem⟩
  refine stepFollows_of ?_
  rcases mainStep_cases i h hfits with hstops | ⟨s', os, g', hstep, hallowed, h'⟩
  · exact Or.inl hstops
  · refine Or.inr ⟨s', os, g', hstep, ⟨hallowed, hallowed.lasting⟩, h', ?_⟩
    intro callId hnew
    rcases hallowed.owner_of hnew with hold | hbegins
    · exact howned callId hold
    · exact hi callId hbegins

end Runs

/-- A request of a dialog. -/
def dialogRequest (method : Method) (callId : Charstring) (expires : Option Charstring) :
    PduSipRequest Unit where
  method := method
  callId := some callId
  toField := some (.nameAddr none ⟨['s', 'i', 'p'], none, ⟨none, none⟩, none, none⟩)
  cSeq := ⟨1, []⟩
  expires := expires
  messageBody := none

/-- Component 7 registers at the peer and de-registers, which is answered. -/
def registration (callId : Charstring) : List (Input Nat Unit) :=
  [.clientRequest 7 (dialogRequest .register callId none),
   .clientRequest 7 (dialogRequest .register callId (some ['0'])),
   .sipResponse ⟨200, some callId, ⟨1, []⟩, none⟩]

/-- Component 8 expects a dialog, which the peer begins and ends. -/
def expectedCall : List (Input Nat Unit) :=
  [.register ⟨['s', 'i', 'p'], none, ⟨none, none⟩, none, none⟩ 8 8,
   .sipRequest (dialogRequest .invite ['a'] none),
   .sipRequest (dialogRequest .bye ['a'] none),
   .clientResponse 8 ⟨200, some ['a'], ⟨1, []⟩, none⟩]

/-- `OneOf` as a test of the list. -/
theorem oneOf_iff {ids : List Charstring} {s : State Nat Unit} {i : Input Nat Unit} :
    i.beginsWith.all (fun callId => ids.any (fun id => decide (id = callId))) = true
      ↔ OneOf ids s i := by
  rw [OneOf, Option.all_eq_true]
  refine forall₂_congr fun callId _ => ?_
  rw [List.any_eq_true]
  constructor
  · rintro ⟨id, hid, heq⟩
    rw [← of_decide_eq_true heq]
    exact hid
  · exact fun hmem => ⟨callId, hmem, decide_eq_true rfl⟩

instance (ids : List Charstring) (s : State Nat Unit) (i : Input Nat Unit) :
    Decidable (OneOf ids s i) :=
  decidable_of_iff _ oneOf_iff

/-- Two dialogs, one that the peer begins and one that a component does. -/
theorem sip_calls_twoDialogs :
    ([['a'], ['b']] : List Charstring).length ≤ 16 ∧ [] ∉ ([['a'], ['b']] : List Charstring)
      ∧ Guarded (mainStep expectedCreateCallback) (OneOf [['a'], ['b']]) tablesInit
        (expectedCall ++ registration ['b'])
      ∧ Follows (mainStep expectedCreateCallback)
        (fun g i g' os => SipAllowed g i g' os ∧ Lasting g i g' os) SipStops
        (fun s g => Routes s g
          ∧ KeyUnique (key (held keyOf CallData.compRef)) s.sipCallTable)
        tablesInit noCalls (expectedCall ++ registration ['b']) :=
  have hguard : Guarded (mainStep expectedCreateCallback) (OneOf [['a'], ['b']])
      (tablesInit : State Nat Unit) (expectedCall ++ registration ['b']) := by decide +kernel
  ⟨by decide, by decide, hguard,
    sip_calls [['a'], ['b']] (by decide) (by decide) _ hguard⟩

/-- The Call-IDs of 16 registrations, one after the other. -/
def sixteenIds : List Charstring := (List.range 16).map (fun n => [Char.ofNat (97 + n)])

/-- Sixteen registrations, each ended before the next. -/
def sixteenRegistrations : List (Input Nat Unit) := sixteenIds.flatMap registration

/-- **THE 17TH DIALOG**: never is more than one in progress, and still it is
    refused. -/
theorem seventeenth_refused :
    (∀ is ∈ (sixteenRegistrations ++ registration ['z']).inits,
        (inProgress is).dialogs.length ≤ 1)
      ∧ ¬ Follows (mainStep expectedCreateCallback)
        (fun g i g' os => SipAllowed g i g' os ∧ Lasting g i g' os) SipStops
        (fun s g => Routes s g
          ∧ KeyUnique (key (held keyOf CallData.compRef)) s.sipCallTable)
        tablesInit noCalls (sixteenRegistrations
          ++ [.clientRequest 7 (dialogRequest .register ['z'] none)]) := by
  constructor
  · decide +kernel
  · intro hfollows
    have hok : (run (mainStep expectedCreateCallback) (tablesInit : State Nat Unit)
        sixteenRegistrations).isOk = true := by decide +kernel
    cases hrun : run (mainStep expectedCreateCallback) (tablesInit : State Nat Unit)
        sixteenRegistrations with
    | error e =>
        rw [hrun] at hok
        exact nomatch hok
    | ok r =>
        have hstop : ((run (mainStep expectedCreateCallback) (tablesInit : State Nat Unit)
            sixteenRegistrations).bind (fun r => mainStep expectedCreateCallback r.1
              (.clientRequest 7 (dialogRequest .register ['z'] none)))).isOk = false := by
          decide +kernel
        rw [hrun] at hstop
        cases hstep : mainStep expectedCreateCallback r.1
            (.clientRequest 7 (dialogRequest .register ['z'] none)) with
        | ok r' =>
            dsimp only [Except.bind] at hstop
            rw [hstep] at hstop
            exact nomatch hstop
        | error e =>
            obtain ⟨g, -, hid⟩ := hfollows.stops hrun hstep
            exact nomatch hid

end OsmoSip
