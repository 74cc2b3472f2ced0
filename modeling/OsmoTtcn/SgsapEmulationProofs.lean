import OsmoTtcn.DnsHelpersProofs
import OsmoTtcn.KeyedSlotsProofs
import OsmoTtcn.SlotLogProofs
import OsmoTtcn.SpecRunProofs

/-! # Subscribers of the SGsAP emulation

    `SGsAP_Emulation` hands the messages about an IMSI to the component that
    handles it.  The first message about an IMSI finds the component in the table
    of expectations and enters it in the association table, from which nothing is
    ever taken out.

    `sgsap_same` says that the two tables are what they are for: a list of who
    handles whom, in the order of the first messages, and a map of expectations.
    `sgsap_owner` is what a test relies on: all messages about an IMSI go to one
    component, which has asked for them, and what a component sends goes out
    under the IMSI that it got a message about first. -/

namespace OsmoSgsap

open OsmoTitan SlotTable SlotMap SlotLog KeyedSlots RunGuard SameRun

/-- `hexstring`, digit by digit. -/
abbrev Hexstring : Type := List (Fin 16)

/-- `octetstring` -/
abbrev Octetstring : Type := List UInt8

/-- The messages with an IMSI, but for the two with unit data. -/
inductive ImsiMessage where
  | alertAck | alertReject | alertRequest | epsDetachAck | epsDetachIndication
  | imsiDetachAck | imsiDetachIndication | locationUpdateAccept | locationUpdateReject
  | locationUpdateRequest | mmInformationRequest | pagingReject | pagingRequest
  | serviceRequest | status | tmsiReallocationComplete | ueActivityIndication
  | ueUnreachable | releaseRequest | serviceAbortRequest | moCsfbIndication
  deriving DecidableEq, Repr

/-- `PDU_SGsAP`, with the other information elements of a message in one piece. -/
inductive PduSGsAP where
  | downlinkUnitdata (imsi : Hexstring) (nasMessageContainer : Octetstring)
  | uplinkUnitdata (imsi : Hexstring) (nasMessageContainer : Octetstring)
  | imsiMessage (kind : ImsiMessage) (imsi : Option Hexstring) (rest : Octetstring)
  | resetIndication (mmeName vlrName : Option Octetstring)
  | resetAck (mmeName vlrName : Option Octetstring)
  /-- A message without an IMSI that is no reset. -/
  | other (rest : Octetstring)
  deriving DecidableEq, Repr

/-- `f_SGsAP_get_imsi` -/
def fSGsAPGetImsi : PduSGsAP → Option Hexstring
  | .downlinkUnitdata imsi _ => some imsi
  | .uplinkUnitdata imsi _ => some imsi
  | .imsiMessage _ imsi _ => imsi
  | .resetIndication _ _ => none
  | .resetAck _ _ => none
  | .other _ => none

/-- represents a single SGsAP Association -/
structure AssociationData (Comp : Type) where
  /-- `none`: the null reference. -/
  compRef : Option Comp
  imsi : Option Hexstring

/-- `ExpectData` -/
structure ExpectData (Comp : Type) where
  imsi : Option Hexstring
  vcConn : Option Comp

/-- `SGsAPAssociationTable` -/
abbrev AssociationTable (Comp : Type) : Type := Fin 16 → AssociationData Comp

/-- `SGsAPExpectTable` -/
abbrev ExpectTable (Comp : Type) : Type := Fin 8 → ExpectData Comp

/-- The reset whose answer `f_sgsap_xceive` waits for. -/
inductive Reset where
  | mme (mmeName : OsmoDns.Charstring)
  | vlr (vlrName : OsmoDns.Charstring)
  deriving DecidableEq, Repr

/-- `SGsAP_Emulation_CT` -/
structure SGsAPEmulationCT (Comp : Type) where
  sgsapAssociationTable : AssociationTable Comp
  sgsapExpectTable : ExpectTable Comp
  gSelfConnId : Int
  /-- server only -/
  gLastConnId : Int
  waiting : Option Reset

/-- What comes from the socket.  What no alternative takes is left out. -/
inductive FromSut where
  | recvFrom (connId : Int) (msg : PduSGsAP)
  | sctpAssocChange
  | sctpPeerAddrChange
  | sctpShutDownEvent
  | connOpened (connId : Int)
  | connClosed (connId : Int)
  deriving DecidableEq, Repr

/-- What the emulation takes, in the order in which it takes it.  `Mo` and `Mt`
    are the messages of layer 3 that a component exchanges. -/
inductive Input (Comp Mo Mt : Type) where
  | unit (msg : PduSGsAP)
  | client (vcConn : Comp) (msg : PduSGsAP)
  | clientMo (vcConn : Comp) (l3 : Mo)
  | clientMt (vcConn : Comp) (l3 : Mt)
  | sut (ev : FromSut)
  | register (imsi : Hexstring) (hdlr : Comp)
  | resetMme (mmeName : OsmoDns.Charstring)
  | resetVlr (vlrName : OsmoDns.Charstring)

/-- What a component is handed. -/
inductive ToClient (Mo Mt : Type) where
  | pdu (msg : PduSGsAP)
  | mo (l3 : Mo)
  | mt (l3 : Mt)

/-- What one round of `main` sends, and on which port. -/
inductive Output (Comp Mo Mt : Type) where
  | sut (connId : Int) (msg : PduSGsAP)
  | client (vcConn : Comp) (msg : ToClient Mo Mt)
  /-- `up_down`, true for up -/
  | event (up : Bool)
  | registered (imsi : Hexstring) (hdlr : Comp)
  | resetMmeDone (mmeName vlrName : OsmoDns.Charstring)
  | resetVlrDone (vlrName mmeName : OsmoDns.Charstring)

/-- The parameters of `main`, the codecs of layer 3, and what the test has
    connected. -/
structure Env (Mo Mt : Type) where
  /-- `g_pars.remote_sctp_port == -1` -/
  isServer : Bool
  unitdataCb : PduSGsAP → Option PduSGsAP
  /-- `SGsAP_UNIT.checkstate("Connected")` -/
  unitConnected : Bool
  /-- How many components are connected to `SGsAP_PROC`. -/
  procConnections : Nat
  encMo : Mo → Except Fault Octetstring
  encMt : Mt → Except Fault Octetstring
  decMo : Octetstring → Except Fault Mo
  decMt : Octetstring → Except Fault Mt

/-- Why the emulation goes on no more. -/
inductive End where
  | fault (e : Fault)
  /-- `self.stop`, behind the event that the connection is down if somebody
      listens -/
  | stopped (told : Bool)
  /-- Nothing takes the message while a reset waits for its answer: the timer of
      `f_sgsap_xceive` is never started. -/
  | waits
  deriving DecidableEq, Repr

/-- What stops with a fault. -/
def faulty {A : Type} : Except Fault A → Except End A
  | .ok a => .ok a
  | .error e => .error (.fault e)

section Functions

variable {Comp Mo Mt : Type} [DecidableEq Comp]

-- ── The association table ────────────────────────────────────────────────────

variable (t : AssociationTable Comp)

/-- The entry of an IMSI. -/
def findImsi (imsi : Hexstring) : Option (Fin 16) :=
  find t fun a => decide (a.imsi = some imsi)

/-- The entry of a component. -/
def findComp (client : Comp) : Option (Fin 16) :=
  find t fun a => decide (a.compRef = some client)

/-- `f_imsi_known` -/
def fImsiKnown (imsi : Hexstring) : Bool := (findImsi t imsi).isSome

/-- `f_comp_by_imsi` -/
def fCompByImsi (imsi : Hexstring) : Except Fault Comp :=
  (orShutdown (findImsi t imsi) "SGsAP Association Table not found by IMSI").bind fun i =>
    bound (t i).compRef

/-- `f_imsi_by_comp` -/
def fImsiByComp (client : Comp) : Except Fault Hexstring :=
  (orShutdown (findComp t client) "SGsAP Association Table not found by component ").bind
    fun i => bound (t i).imsi

/-- `f_imsi_table_add` -/
def fImsiTableAdd (compRef : Comp) (imsi : Hexstring) : Except Fault (AssociationTable Comp) :=
  (orShutdown (find t fun a => a.imsi.isNone) "SGsAP Association Table full!").map fun i =>
    Function.update t i { compRef := some compRef, imsi := some imsi }

/-- `f_imsi_table_init` -/
def fImsiTableInit : AssociationTable Comp := fun _ => { compRef := none, imsi := none }

-- ── Expectations ─────────────────────────────────────────────────────────────

variable (x : ExpectTable Comp)

/-- Function that can be used as create_cb and will use the expect table -/
def expectedCreateCallback (imsi : Hexstring) : Except Fault (ExpectTable Comp × Comp) :=
  (orShutdown (find x fun d => decide (d.imsi = some imsi)) "Couldn't find Expect for ").bind
    fun i => (bound (x i).vcConn).map fun vcConn =>
      -- Release this entry
      (Function.update x i { imsi := none, vcConn := none }, vcConn)

/-- `f_create_expect` -/
def fCreateExpect (imsi : Hexstring) (hdlr : Comp) : Except Fault (ExpectTable Comp) :=
  if (find x fun d => decide (d.imsi = some imsi)).isSome then
    .error (.shutdown "IMSI already present")
  else
    (orShutdown (find x fun d => d.imsi.isNone) "No space left in SgsapExpectTable").map fun i =>
      Function.update x i { imsi := some imsi, vcConn := some hdlr }

/-- `f_expect_table_init` -/
def fExpectTableInit : ExpectTable Comp := fun _ => { imsi := none, vcConn := none }

-- ── The main loop ────────────────────────────────────────────────────────────

variable (env : Env Mo Mt) (s : SGsAPEmulationCT Comp)

/-- Resolve TCP/IP connection identifier depending on server/client mode -/
def fSgsapConnId : Except Fault Int :=
  let connId := if env.isServer then s.gLastConnId else s.gSelfConnId
  if connId = -1 then .error (.shutdown "Connection is not established") else .ok connId

/-- What goes to the socket. -/
def sendSut (msg : PduSGsAP) : Except Fault (SGsAPEmulationCT Comp × List (Output Comp Mo Mt)) :=
  (fSgsapConnId env s).map fun connId => (s, [.sut connId msg])

/-- The event for the unit port, if anybody listens there. -/
def fSendEvent (up : Bool) : List (Output Comp Mo Mt) :=
  if env.unitConnected then [.event up] else []

/-- A message from the socket, once its connection is the right one. -/
def rxMsg : PduSGsAP → Except Fault (SGsAPEmulationCT Comp × List (Output Comp Mo Mt))
  | .downlinkUnitdata imsi l3Enc =>
      (fCompByImsi s.sgsapAssociationTable imsi).bind fun vcConn =>
      (env.decMt l3Enc).map fun l3 => (s, [.client vcConn (.mt l3)])
  | .uplinkUnitdata imsi l3Enc =>
      (env.decMo l3Enc).bind fun l3 =>
      (fCompByImsi s.sgsapAssociationTable imsi).map fun vcConn =>
        (s, [.client vcConn (.mo l3)])
  | msg =>
      match fSGsAPGetImsi msg with
      | some imsi =>
          if fImsiKnown s.sgsapAssociationTable imsi then
            (fCompByImsi s.sgsapAssociationTable imsi).map fun vcConn =>
              (s, [.client vcConn (.pdu msg)])
          else
            (expectedCreateCallback s.sgsapExpectTable imsi).bind fun r =>
            (fImsiTableAdd s.sgsapAssociationTable r.2 imsi).map fun t' =>
              ({ s with sgsapAssociationTable := t', sgsapExpectTable := r.1 },
                [.client r.2 (.pdu msg)])
      | none =>
          -- message contained no IMSI; is not IMSI-oriented
          match env.unitdataCb msg with
          | some resp => sendSut env s resp
          | none => .ok (s, [])

/-- A connection or the association goes down. -/
def rxDown : Except End (SGsAPEmulationCT Comp × List (Output Comp Mo Mt)) :=
  if env.isServer then .ok ({ s with gSelfConnId := -1 }, fSendEvent env false)
  else .error (.stopped env.unitConnected)

/-- What comes from the peer, outside of a reset. -/
def rxSut : FromSut → Except End (SGsAPEmulationCT Comp × List (Output Comp Mo Mt))
  | .recvFrom connId msg =>
      faulty ((fSgsapConnId env s).bind fun own =>
        if connId = own then rxMsg env s msg
        else .error (.shutdown "Received message from unexpected conn_id!"))
  | .sctpAssocChange => .ok (s, [])
  | .sctpPeerAddrChange => .ok (s, [])
  | .sctpShutDownEvent => rxDown env s
  | .connOpened connId =>
      if env.isServer then .ok ({ s with gLastConnId := connId }, fSendEvent env true)
      else .error (.fault (.shutdown "Unexpected event receiver in client mode"))
  | .connClosed _ => rxDown env s

/-- A reply without an address, for which there must be one component. -/
def reply (out : Output Comp Mo Mt) : Except Fault (List (Output Comp Mo Mt)) :=
  if env.procConnections = 1 then .ok [out]
  else .error (.ttcnError "Port SGsAP_PROC has no or more than one active connections.")

/-- The name in the answer to a reset: that of the other side. -/
def answerName (reset : Reset) : PduSGsAP → Except Fault OsmoDns.Charstring
  | .resetAck mmeName vlrName =>
      (bound (match reset with
        | .mme _ => vlrName
        | .vlr _ => mmeName)).bind OsmoDns.fDecDnsHostname
  | _ => .error .unbound

/-- What a reset tells its user in the end. -/
def resetDone (name : OsmoDns.Charstring) : Reset → Output Comp Mo Mt
  | .mme mmeName => .resetMmeDone mmeName name
  | .vlr vlrName => .resetVlrDone vlrName name

/-- What is made of the answer to a reset. -/
def finishReset (msg : PduSGsAP) (reset : Reset) :
    Except Fault (SGsAPEmulationCT Comp × List (Output Comp Mo Mt)) :=
  (answerName reset msg).bind fun name =>
  (reply env (resetDone name reset)).map fun out => ({ s with waiting := none }, out)

/-- What `f_sgsap_xceive` takes while it waits for the answer. -/
def xceive (reset : Reset) : Input Comp Mo Mt →
    Except End (SGsAPEmulationCT Comp × List (Output Comp Mo Mt))
  | .sut (.recvFrom _ msg) => faulty (finishReset env s msg reset)
  | .sut .sctpAssocChange => .ok (s, [])
  | .sut .sctpPeerAddrChange => .ok (s, [])
  | _ => .error .waits

/-- The message of a reset. -/
def resetPdu : Reset → Except Fault PduSGsAP
  | .mme mmeName => (OsmoDns.fEncDnsHostname mmeName).map fun enc =>
      .resetIndication (some enc) none
  | .vlr vlrName => (OsmoDns.fEncDnsHostname vlrName).map fun enc =>
      .resetIndication none (some enc)

/-- A reset is sent, and its answer waited for. -/
def startReset (reset : Reset) :
    Except Fault (SGsAPEmulationCT Comp × List (Output Comp Mo Mt)) :=
  (resetPdu reset).bind fun msg => sendSut env { s with waiting := some reset } msg

/-- One round of the loop of `main`, with `ExpectedCreateCallback` as the
    create_cb. -/
def mainStep (i : Input Comp Mo Mt) :
    Except End (SGsAPEmulationCT Comp × List (Output Comp Mo Mt)) :=
  match s.waiting with
  | some reset => xceive env s reset i
  | none =>
      match i with
      | .unit msg => faulty (sendSut env s msg)
      | .client _ msg => faulty (sendSut env s msg)
      | .clientMo vcConn l3 => faulty ((env.encMo l3).bind fun l3Enc =>
          (fImsiByComp s.sgsapAssociationTable vcConn).bind fun imsi =>
            sendSut env s (.uplinkUnitdata imsi l3Enc))
      | .clientMt vcConn l3 => faulty ((env.encMt l3).bind fun l3Enc =>
          (fImsiByComp s.sgsapAssociationTable vcConn).bind fun imsi =>
            sendSut env s (.downlinkUnitdata imsi l3Enc))
      | .sut ev => rxSut env s ev
      | .register imsi hdlr => faulty ((fCreateExpect s.sgsapExpectTable imsi hdlr).map fun x' =>
          ({ s with sgsapExpectTable := x' }, [.registered imsi hdlr]))
      | .resetMme mmeName => faulty (startReset env s (.mme mmeName))
      | .resetVlr vlrName => faulty (startReset env s (.vlr vlrName))

end Functions

/-- The component when the socket is there. -/
def mainInit {Comp : Type} (connId : Int) : SGsAPEmulationCT Comp where
  sgsapAssociationTable := fImsiTableInit
  sgsapExpectTable := fExpectTableInit
  gSelfConnId := connId
  gLastConnId := -1
  waiting := none

-- ── What the emulation is for ────────────────────────────────────────────────

/-- Who handles whom, in the order of the first messages, and who is expected. -/
structure Net (Comp : Type) where
  links : List (Hexstring × Comp)
  expects : Hexstring → Option Comp
  /-- Where messages go out: −1 for nowhere. -/
  conn : Int
  waiting : Option Reset

/-- Why the net goes on no more. -/
inductive NetEnd where
  | fails
  | stopped (told : Bool)
  | waits
  deriving DecidableEq, Repr

/-- How a round ends, less the text of the fault. -/
def End.kind : End → NetEnd
  | .fault _ => .fails
  | .stopped told => .stopped told
  | .waits => .waits

section Net

variable {Comp Mo Mt : Type} [DecidableEq Comp] (env : Env Mo Mt) (g : Net Comp)

/-- Who handles the IMSI. -/
def Net.handler (imsi : Hexstring) : Option Comp :=
  (g.links.find? fun l => decide (l.1 = imsi)).map Prod.snd

/-- The first IMSI that a component handles. -/
def Net.first (client : Comp) : Option Hexstring :=
  (g.links.find? fun l => decide (l.2 = client)).map Prod.fst

/-- The next state, or the end where there is none. -/
def orFails {A : Type} : Option A → Except NetEnd A
  | some a => .ok a
  | none => .error .fails

/-- A message goes out. -/
def Net.send (msg : PduSGsAP) : Option (Net Comp × List (Output Comp Mo Mt)) :=
  if g.conn = -1 then none else some (g, [.sut g.conn msg])

/-- A message about an IMSI: its handler gets it.  Without one, whoever expects
    the IMSI handles it from now on. -/
def Net.deliver (imsi : Hexstring) (msg : PduSGsAP) :
    Option (Net Comp × List (Output Comp Mo Mt)) :=
  match g.handler imsi with
  | some client => some (g, [.client client (.pdu msg)])
  | none =>
      if g.links.length < 16 then
        (g.expects imsi).map fun client =>
          ({ g with
              links := g.links ++ [(imsi, client)]
              expects := Function.update g.expects imsi none },
            [.client client (.pdu msg)])
      else none

/-- A message from the connection in use. -/
def Net.take : PduSGsAP → Option (Net Comp × List (Output Comp Mo Mt))
  | .downlinkUnitdata imsi l3Enc =>
      (g.handler imsi).bind fun client =>
      (env.decMt l3Enc).toOption.map fun l3 => (g, [.client client (.mt l3)])
  | .uplinkUnitdata imsi l3Enc =>
      (g.handler imsi).bind fun client =>
      (env.decMo l3Enc).toOption.map fun l3 => (g, [.client client (.mo l3)])
  | msg =>
      match fSGsAPGetImsi msg with
      | some imsi => g.deliver imsi msg
      | none => some (g, ((env.unitdataCb msg).map fun resp => .sut g.conn resp).toList)

/-- While a reset waits, nothing but its answer goes on. -/
def Net.answer (reset : Reset) : Input Comp Mo Mt →
    Except NetEnd (Net Comp × List (Output Comp Mo Mt))
  | .sut (.recvFrom _ msg) =>
      if env.procConnections = 1 then
        orFails ((answerName reset msg).toOption.map fun name =>
          ({ g with waiting := none }, [resetDone name reset]))
      else .error .fails
  | .sut .sctpAssocChange => .ok (g, [])
  | .sut .sctpPeerAddrChange => .ok (g, [])
  | _ => .error .waits

/-- A client ends with its connection, a server goes on. -/
def Net.down : Except NetEnd (Net Comp × List (Output Comp Mo Mt)) :=
  if env.isServer then .ok (g, fSendEvent env false) else .error (.stopped env.unitConnected)

/-- A reset goes out. -/
def Net.reset (reset : Reset) : Option (Net Comp × List (Output Comp Mo Mt)) :=
  (resetPdu reset).toOption.bind fun msg => Net.send { g with waiting := some reset } msg

open Classical in
/-- One expectation more: never two for an IMSI, and no more than 8. -/
noncomputable def Net.expect (imsi : Hexstring) (hdlr : Comp) :
    Option (Net Comp × List (Output Comp Mo Mt)) :=
  if g.expects imsi = none ∧ ¬ Full 8 g.expects then
    some ({ g with expects := Function.update g.expects imsi (some hdlr) },
      [.registered imsi hdlr])
  else none

/-- **ONE ROUND OF THE NET**, which knows links and no tables. -/
noncomputable def netStep (i : Input Comp Mo Mt) :
    Except NetEnd (Net Comp × List (Output Comp Mo Mt)) :=
  match g.waiting with
  | some reset => g.answer env reset i
  | none =>
      match i with
      | .unit msg => orFails (g.send msg)
      | .client _ msg => orFails (g.send msg)
      | .clientMo vcConn l3 => orFails ((env.encMo l3).toOption.bind fun l3Enc =>
          (g.first vcConn).bind fun imsi => g.send (.uplinkUnitdata imsi l3Enc))
      | .clientMt vcConn l3 => orFails ((env.encMt l3).toOption.bind fun l3Enc =>
          (g.first vcConn).bind fun imsi => g.send (.downlinkUnitdata imsi l3Enc))
      | .sut (.recvFrom connId msg) =>
          if connId = g.conn ∧ g.conn ≠ -1 then orFails (g.take env msg) else .error .fails
      | .sut .sctpAssocChange => .ok (g, [])
      | .sut .sctpPeerAddrChange => .ok (g, [])
      | .sut .sctpShutDownEvent => g.down env
      | .sut (.connOpened connId) =>
          if env.isServer then .ok ({ g with conn := connId }, fSendEvent env true)
          else .error .fails
      | .sut (.connClosed _) => g.down env
      | .register imsi hdlr => orFails (g.expect imsi hdlr)
      | .resetMme mmeName => orFails (g.reset (.mme mmeName))
      | .resetVlr vlrName => orFails (g.reset (.vlr vlrName))

end Net

/-- Nobody handles or expects anybody. -/
def netInit {Comp : Type} (isServer : Bool) (connId : Int) : Net Comp where
  links := []
  expects := fun _ => none
  conn := if isServer then -1 else connId
  waiting := none

-- ── The tables ───────────────────────────────────────────────────────────────

section Tables

variable {Comp : Type}

/-- What an association takes of a slot. -/
def assocSlot : Option (Hexstring × Comp) → AssociationData Comp
  | some l => { compRef := some l.2, imsi := some l.1 }
  | none => { compRef := none, imsi := none }

variable {t : AssociationTable Comp} {l : List (Hexstring × Comp)}
variable {x : ExpectTable Comp} {m : Hexstring → Option Comp}

/-- An entry has the IMSI of its link. -/
theorem imsi_accepts (imsi : Hexstring) (o : Option (Hexstring × Comp)) :
    decide ((assocSlot o).imsi = some imsi) = o.any fun l => decide (l.1 = imsi) := by
  cases o with
  | none => rfl
  | some l => simp [assocSlot]

/-- An entry has the component of its link. -/
theorem comp_accepts [DecidableEq Comp] (client : Comp) (o : Option (Hexstring × Comp)) :
    decide ((assocSlot o).compRef = some client) = o.any fun l => decide (l.2 = client) := by
  cases o with
  | none => rfl
  | some l => simp [assocSlot]

/-- An entry is free if no link is there. -/
theorem free_accepts (o : Option (Hexstring × Comp)) :
    (assocSlot o).imsi.isNone = o.isNone := by
  cases o with
  | none => rfl
  | some l => rfl

/-- The table finds the first link of an IMSI. -/
theorem fCompByImsi_both (h : Logs assocSlot t l) (imsi : Hexstring) :
    Both Eq (fCompByImsi t imsi) ((l.find? fun l => decide (l.1 = imsi)).map Prod.snd) := by
  rw [fCompByImsi, findImsi]
  cases hf : l.find? fun l => decide (l.1 = imsi) with
  | none =>
      rw [h.find_none (p := fun a : AssociationData Comp => decide (a.imsi = some imsi))
        (imsi_accepts imsi) hf]
      exact .none _
  | some e =>
      obtain ⟨i, hfind, hi⟩ :=
        h.find_some (p := fun a : AssociationData Comp => decide (a.imsi = some imsi))
          (imsi_accepts imsi) hf
      rw [hfind]
      show Both Eq (bound (t i).compRef) (some e.2)
      rw [hi]
      exact .ok rfl

/-- The table finds the first link of a component. -/
theorem fImsiByComp_both [DecidableEq Comp] (h : Logs assocSlot t l) (client : Comp) :
    Both Eq (fImsiByComp t client)
      ((l.find? fun l => decide (l.2 = client)).map Prod.fst) := by
  rw [fImsiByComp, findComp]
  cases hf : l.find? fun l => decide (l.2 = client) with
  | none =>
      rw [h.find_none (p := fun a : AssociationData Comp => decide (a.compRef = some client))
        (comp_accepts client) hf]
      exact .none _
  | some e =>
      obtain ⟨i, hfind, hi⟩ :=
        h.find_some (p := fun a : AssociationData Comp => decide (a.compRef = some client))
          (comp_accepts client) hf
      rw [hfind]
      show Both Eq (bound (t i).imsi) (some e.1)
      rw [hi]
      exact .ok rfl

/-- An IMSI is known if it has a link. -/
theorem fImsiKnown_eq (h : Logs assocSlot t l) (imsi : Hexstring) :
    fImsiKnown t imsi = ((l.find? fun l => decide (l.1 = imsi)).map Prod.snd).isSome := by
  rw [fImsiKnown, findImsi]
  cases hf : l.find? fun l => decide (l.1 = imsi) with
  | none =>
      rw [h.find_none (p := fun a : AssociationData Comp => decide (a.imsi = some imsi))
        (imsi_accepts imsi) hf]
      rfl
  | some e =>
      obtain ⟨i, hfind, -⟩ :=
        h.find_some (p := fun a : AssociationData Comp => decide (a.imsi = some imsi))
          (imsi_accepts imsi) hf
      rw [hfind]
      rfl

/-- A link more, while there are fewer than sixteen. -/
theorem fImsiTableAdd_both (h : Logs assocSlot t l) (client : Comp) (imsi : Hexstring) :
    Both (fun t' l' => Logs assocSlot t' l') (fImsiTableAdd t client imsi)
      (if l.length < 16 then some (l ++ [(imsi, client)]) else none) := by
  rw [fImsiTableAdd]
  rcases h.add (p := fun a => a.imsi.isNone) free_accepts (imsi, client)
    with ⟨i, hfind, hlogs⟩ | ⟨hfind, hfull⟩
  · have hlen := hlogs.fits
    rw [List.length_append, List.length_singleton] at hlen
    rw [hfind, if_pos (by omega)]
    exact .ok hlogs
  · rw [hfind, if_neg (by omega)]
    exact .none _

/-- An expectation that is met is taken away. -/
theorem expectedCreateCallback_both (h : Keeps ExpectData.imsi ExpectData.vcConn x m)
    (imsi : Hexstring) :
    Both (fun r client => r.2 = client
        ∧ Keeps ExpectData.imsi ExpectData.vcConn r.1 (Function.update m imsi none))
      (expectedCreateCallback x imsi) (m imsi) := by
  rw [expectedCreateCallback]
  cases hm : m imsi with
  | none =>
      rw [(h.find_none imsi).mpr hm]
      exact .none _
  | some client =>
      obtain ⟨i, hfind, hk, hv⟩ := h.find_some hm
      rw [hfind]
      show Both _ ((bound (x i).vcConn).map _) _
      rw [hv]
      exact .ok ⟨rfl, h.del hk hv rfl⟩

open Classical in
/-- An expectation more, if there is none of the IMSI. -/
theorem fCreateExpect_both (h : Keeps ExpectData.imsi ExpectData.vcConn x m)
    (imsi : Hexstring) (hdlr : Comp) :
    Both (fun x' m' => Keeps ExpectData.imsi ExpectData.vcConn x' m')
      (fCreateExpect x imsi hdlr)
      (if m imsi = none ∧ ¬ Full 8 m then some (Function.update m imsi (some hdlr)) else none) := by
  rw [fCreateExpect, h.isSome_find]
  cases hm : m imsi with
  | some client =>
      rw [if_pos Option.isSome_some, if_neg fun hno => absurd hno.1 (Option.some_ne_none _)]
      exact .none _
  | none =>
      rw [if_neg (by simp)]
      rcases h.add hm hdlr with ⟨i, hfind, hkeeps⟩ | ⟨hfind, hfull⟩
      · rw [hfind, if_pos ⟨rfl, h.not_full hfind⟩]
        exact .ok (hkeeps _ rfl rfl)
      · rw [hfind, if_neg fun hno => hno.2 hfull]
        exact .none _

end Tables

-- ── The emulation does what the net does ─────────────────────────────────────

section Steps

variable {Comp Mo Mt : Type} [DecidableEq Comp] {env : Env Mo Mt}
variable {s : SGsAPEmulationCT Comp} {g : Net Comp}

/-- The tables hold what the net has. -/
structure Rel (env : Env Mo Mt) (s : SGsAPEmulationCT Comp) (g : Net Comp) : Prop where
  links : Logs assocSlot s.sgsapAssociationTable g.links
  expects : Keeps ExpectData.imsi ExpectData.vcConn s.sgsapExpectTable g.expects
  conn : (if env.isServer then s.gLastConnId else s.gSelfConnId) = g.conn
  waiting : s.waiting = g.waiting

/-- One step of both. -/
abbrev Steps (env : Env Mo Mt) (x : Except Fault (SGsAPEmulationCT Comp × List (Output Comp Mo Mt)))
    (y : Option (Net Comp × List (Output Comp Mo Mt))) : Prop :=
  Both (fun r r' => Rel env r.1 r'.1 ∧ r.2 = r'.2) x y

/-- One round of both. -/
abbrev Rounds (env : Env Mo Mt) (x : Except End (SGsAPEmulationCT Comp × List (Output Comp Mo Mt)))
    (y : Except NetEnd (Net Comp × List (Output Comp Mo Mt))) : Prop :=
  Same (Rel env) (fun e d => e.kind = d) x y

omit [DecidableEq Comp] in
/-- Steps that agree make rounds that agree. -/
theorem Steps.rounds {x : Except Fault (SGsAPEmulationCT Comp × List (Output Comp Mo Mt))}
    {y : Option (Net Comp × List (Output Comp Mo Mt))} (h : Steps env x y) :
    Rounds env (faulty x) (orFails y) := by
  cases h with
  | none e => exact .error rfl
  | @ok r r' hQ =>
      obtain ⟨s', o⟩ := r
      obtain ⟨g', o'⟩ := r'
      obtain ⟨hR, heq⟩ := hQ
      have heq : o = o' := heq
      rw [heq]
      exact .ok hR o'

omit [DecidableEq Comp] in
/-- Both have the same connection to the peer. -/
theorem fSgsapConnId_both (h : Rel env s g) :
    Both Eq (fSgsapConnId env s) (if g.conn = -1 then none else some g.conn) := by
  rw [fSgsapConnId, h.conn]
  by_cases hconn : g.conn = -1
  · rw [if_pos hconn, if_pos hconn]
    exact .none _
  · rw [if_neg hconn, if_neg hconn]
    exact .ok rfl

omit [DecidableEq Comp] in
/-- Both send the same to the peer. -/
theorem sendSut_steps (h : Rel env s g) (msg : PduSGsAP) :
    Steps env (sendSut env s msg) (g.send msg) := by
  have hsend : (g.send msg : Option (Net Comp × List (Output Comp Mo Mt)))
      = (if g.conn = -1 then none else some g.conn).map fun connId => (g, [.sut connId msg]) := by
    rw [Net.send]
    by_cases hconn : g.conn = -1
    · rw [if_pos hconn, if_pos hconn]
      rfl
    · rw [if_neg hconn, if_neg hconn]
      rfl
  rw [sendSut, hsend]
  refine (fSgsapConnId_both h).map fun connId connId' heq => ⟨h, ?_⟩
  rw [heq]

omit [DecidableEq Comp] in
/-- A message about an IMSI. -/
theorem deliver_steps (h : Rel env s g) (imsi : Hexstring) (msg : PduSGsAP) :
    Steps env
      (if fImsiKnown s.sgsapAssociationTable imsi then
        (fCompByImsi s.sgsapAssociationTable imsi).map fun vcConn =>
          (s, [.client vcConn (.pdu msg)])
      else
        (expectedCreateCallback s.sgsapExpectTable imsi).bind fun r =>
        (fImsiTableAdd s.sgsapAssociationTable r.2 imsi).map fun t' =>
          ({ s with sgsapAssociationTable := t', sgsapExpectTable := r.1 },
            [.client r.2 (.pdu msg)]))
      (g.deliver imsi msg) := by
  have hcomp := fCompByImsi_both h.links imsi
  rw [fImsiKnown_eq h.links, Net.deliver, Net.handler]
  cases hhandler : (g.links.find? fun l => decide (l.1 = imsi)).map Prod.snd with
  | some client =>
      rw [hhandler] at hcomp
      obtain ⟨client', hok, rfl⟩ := hcomp.of_some
      rw [if_pos Option.isSome_some, hok]
      exact .ok ⟨h, rfl⟩
  | none =>
      rw [if_neg (by simp)]
      have hexpect := expectedCreateCallback_both h.expects imsi
      show Steps env _ (if g.links.length < 16 then _ else _)
      cases hm : g.expects imsi with
      | none =>
          rw [hm] at hexpect
          obtain ⟨e, herr⟩ := hexpect.of_none
          rw [herr, Option.map_none, ite_self]
          exact .none e
      | some client =>
          rw [hm] at hexpect
          obtain ⟨⟨x', client'⟩, hok, hclient, hkeeps⟩ := hexpect.of_some
          have hclient : client' = client := hclient
          subst hclient
          have hadd := fImsiTableAdd_both h.links client' imsi
          rw [hok]
          show Steps env ((fImsiTableAdd s.sgsapAssociationTable client' imsi).map _) _
          by_cases hlen : g.links.length < 16
          · rw [if_pos hlen] at hadd
            obtain ⟨t', hok', hlogs⟩ := hadd.of_some
            rw [hok', if_pos hlen]
            exact .ok ⟨⟨hlogs, hkeeps, h.conn, h.waiting⟩, rfl⟩
          · rw [if_neg hlen] at hadd
            obtain ⟨e, herr⟩ := hadd.of_none
            rw [herr, if_neg hlen]
            exact .none e

omit [DecidableEq Comp] in
/-- A message without an IMSI. -/
theorem unitdata_steps (h : Rel env s g) (hconn : g.conn ≠ -1) (msg : PduSGsAP) :
    Steps env
      (match env.unitdataCb msg with
        | some resp => sendSut env s resp
        | none => .ok (s, []))
      (some (g, ((env.unitdataCb msg).map fun resp => .sut g.conn resp).toList)) := by
  cases env.unitdataCb msg with
  | none => exact .ok ⟨h, rfl⟩
  | some resp =>
      have hsend := sendSut_steps h resp
      rw [Net.send, if_neg hconn] at hsend
      exact hsend

omit [DecidableEq Comp] in
/-- A message from the connection in use. -/
theorem rxMsg_steps (h : Rel env s g) (hconn : g.conn ≠ -1) (msg : PduSGsAP) :
    Steps env (rxMsg env s msg) (g.take env msg) := by
  cases msg with
  | downlinkUnitdata imsi l3Enc =>
      refine (fCompByImsi_both h.links imsi).bind fun client client' heq => ?_
      refine (both_toOption _).map fun l3 l3' heq' => ⟨h, ?_⟩
      rw [heq, heq']
  | uplinkUnitdata imsi l3Enc =>
      have hcomp := fCompByImsi_both h.links imsi
      rw [rxMsg, Net.take, Net.handler]
      cases hdec : env.decMo l3Enc with
      | error e =>
          show Steps env (.error e) (Option.bind _ fun _ => none)
          rw [Option.bind_fun_none]
          exact .none e
      | ok l3 =>
          have hmap : ((g.links.find? fun l => decide (l.1 = imsi)).map Prod.snd).bind
                (fun client => (Except.ok l3 : Except Fault Mo).toOption.map fun l3 =>
                  (g, ([.client client (.mo l3)] : List (Output Comp Mo Mt))))
              = ((g.links.find? fun l => decide (l.1 = imsi)).map Prod.snd).map
                fun client => (g, [.client client (.mo l3)]) := by
            cases (g.links.find? fun l => decide (l.1 = imsi)).map Prod.snd with
            | none => rfl
            | some client => rfl
          rw [hmap]
          refine hcomp.map fun client client' heq => ⟨h, ?_⟩
          rw [heq]
  | imsiMessage kind imsi rest =>
      cases imsi with
      | some imsi => exact deliver_steps h imsi _
      | none => exact unitdata_steps h hconn _
  | resetIndication mmeName vlrName => exact unitdata_steps h hconn _
  | resetAck mmeName vlrName => exact unitdata_steps h hconn _
  | other rest => exact unitdata_steps h hconn _

omit [DecidableEq Comp] in
/-- Both end a reset in the same way. -/
theorem finishReset_rounds (h : Rel env s g) (reset : Reset) (msg : PduSGsAP) :
    Rounds env (faulty (finishReset env s msg reset))
      (if env.procConnections = 1 then
        orFails ((answerName reset msg).toOption.map fun name =>
          ({ g with waiting := none }, [resetDone name reset]))
      else .error .fails) := by
  rw [finishReset]
  cases answerName reset msg with
  | error e =>
      show Rounds env (.error (.fault e)) (if _ then .error .fails else _)
      rw [ite_self]
      exact .error rfl
  | ok name =>
      show Rounds env (faulty ((reply env (resetDone name reset)).map _)) _
      rw [reply]
      by_cases hproc : env.procConnections = 1
      · rw [if_pos hproc, if_pos hproc]
        exact .ok ⟨h.links, h.expects, h.conn, rfl⟩ _
      · rw [if_neg hproc, if_neg hproc]
        exact .error rfl

omit [DecidableEq Comp] in
/-- Both take the end of the connection in the same way. -/
theorem rxDown_rounds (h : Rel env s g) : Rounds env (rxDown env s) (g.down env) := by
  rw [rxDown, Net.down]
  by_cases hserver : env.isServer = true
  · rw [if_pos hserver, if_pos hserver]
    refine .ok ⟨h.links, h.expects, ?_, h.waiting⟩ _
    have hconn := h.conn
    rw [if_pos hserver] at hconn ⊢
    exact hconn
  · rw [if_neg hserver, if_neg hserver]
    exact .error rfl

omit [DecidableEq Comp] in
/-- Both start a reset in the same way. -/
theorem startReset_steps (h : Rel env s g) (reset : Reset) :
    Steps env (startReset env s reset) (g.reset reset) := by
  refine (both_toOption _).bind fun msg msg' heq => ?_
  rw [heq]
  have hwait : Rel env { s with waiting := some reset } { g with waiting := some reset } :=
    ⟨h.links, h.expects, h.conn, rfl⟩
  exact sendSut_steps hwait msg'

omit [DecidableEq Comp] in
/-- Both take an expectation in the same way. -/
theorem register_steps (h : Rel env s g) (imsi : Hexstring) (hdlr : Comp) :
    Steps env
      ((fCreateExpect s.sgsapExpectTable imsi hdlr).map fun x' =>
        ({ s with sgsapExpectTable := x' }, [.registered imsi hdlr]))
      (g.expect imsi hdlr) := by
  have hcreate := fCreateExpect_both h.expects imsi hdlr
  rw [Net.expect]
  by_cases hroom : g.expects imsi = none ∧ ¬ Full 8 g.expects
  · rw [if_pos hroom] at hcreate ⊢
    obtain ⟨x', hok, hkeeps⟩ := hcreate.of_some
    rw [hok]
    exact .ok ⟨⟨h.links, hkeeps, h.conn, h.waiting⟩, rfl⟩
  · rw [if_neg hroom] at hcreate ⊢
    obtain ⟨e, herr⟩ := hcreate.of_none
    rw [herr]
    exact .none e

omit [DecidableEq Comp] in
/-- While a reset waits. -/
theorem xceive_rounds (h : Rel env s g) (reset : Reset) (i : Input Comp Mo Mt) :
    Rounds env (xceive env s reset i) (g.answer env reset i) := by
  cases i with
  | sut ev =>
      cases ev with
      | recvFrom connId msg => exact finishReset_rounds h reset msg
      | sctpAssocChange => exact .ok h _
      | sctpPeerAddrChange => exact .ok h _
      | sctpShutDownEvent => exact .error rfl
      | connOpened connId => exact .error rfl
      | connClosed connId => exact .error rfl
  | unit msg => exact .error rfl
  | client vcConn msg => exact .error rfl
  | clientMo vcConn l3 => exact .error rfl
  | clientMt vcConn l3 => exact .error rfl
  | register imsi hdlr => exact .error rfl
  | resetMme mmeName => exact .error rfl
  | resetVlr vlrName => exact .error rfl

omit [DecidableEq Comp] in
/-- A message from the socket has to come from the connection in use. -/
theorem recvFrom_rounds (h : Rel env s g) (connId : Int) (msg : PduSGsAP) :
    Rounds env (rxSut env s (.recvFrom connId msg))
      (if connId = g.conn ∧ g.conn ≠ -1 then orFails (g.take env msg) else .error .fails) := by
  have hown := fSgsapConnId_both h
  rw [rxSut]
  by_cases hconn : g.conn = -1
  · rw [if_pos hconn] at hown
    obtain ⟨e, herr⟩ := hown.of_none
    rw [herr, if_neg fun hno => hno.2 hconn]
    exact .error rfl
  · rw [if_neg hconn] at hown
    obtain ⟨own, hok, rfl⟩ := hown.of_some
    rw [hok]
    show Rounds env (faulty (if _ then _ else _)) _
    by_cases heq : connId = g.conn
    · rw [if_pos heq, if_pos ⟨heq, hconn⟩]
      exact (rxMsg_steps h hconn msg).rounds
    · rw [if_neg heq, if_neg fun hno => heq hno.1]
      exact .error rfl

/-- Both take what comes from the peer in the same way. -/
theorem rxSut_rounds (h : Rel env s g) (hwaiting : g.waiting = none) (ev : FromSut) :
    Rounds env (rxSut env s ev) (netStep env g (.sut ev : Input Comp Mo Mt)) := by
  cases ev with
  | recvFrom connId msg =>
      simp only [netStep, hwaiting]
      exact recvFrom_rounds h connId msg
  | sctpAssocChange =>
      simp only [netStep, hwaiting]
      exact .ok h _
  | sctpPeerAddrChange =>
      simp only [netStep, hwaiting]
      exact .ok h _
  | sctpShutDownEvent =>
      simp only [netStep, hwaiting]
      exact rxDown_rounds h
  | connOpened connId =>
      simp only [netStep, hwaiting]
      rw [rxSut, ← hwaiting]
      by_cases hserver : env.isServer = true
      · rw [if_pos hserver, if_pos hserver]
        exact .ok ⟨h.links, h.expects, if_pos hserver, h.waiting⟩ _
      · rw [if_neg hserver, if_neg hserver]
        exact .error rfl
  | connClosed connId =>
      simp only [netStep, hwaiting]
      exact rxDown_rounds h

/-- While a reset waits for its answer nothing else is taken. -/
theorem mainStep_waiting {reset : Reset} (h : s.waiting = some reset) (i : Input Comp Mo Mt) :
    mainStep env s i = xceive env s reset i := by
  simp only [mainStep, h]

/-- So it is in the net. -/
theorem netStep_waiting {reset : Reset} (h : g.waiting = some reset) (i : Input Comp Mo Mt) :
    netStep env g i = g.answer env reset i := by
  simp only [netStep, h]

/-- **ONE ROUND**: the emulation does what the net does. -/
theorem mainStep_rounds (h : Rel env s g) (i : Input Comp Mo Mt) :
    Rounds env (mainStep env s i) (netStep env g i) := by
  cases hnet : g.waiting with
  | some reset =>
      rw [mainStep_waiting (h.waiting.trans hnet), netStep_waiting hnet]
      exact xceive_rounds h reset i
  | none =>
      have hemu : s.waiting = none := h.waiting.trans hnet
      cases i with
      | sut ev =>
          simp only [mainStep, hemu]
          exact rxSut_rounds h hnet ev
      | unit msg =>
          simp only [mainStep, netStep, hemu, hnet]
          exact (sendSut_steps h msg).rounds
      | client vcConn msg =>
          simp only [mainStep, netStep, hemu, hnet]
          exact (sendSut_steps h msg).rounds
      | clientMo vcConn l3 =>
          simp only [mainStep, netStep, hemu, hnet]
          refine Steps.rounds ((both_toOption _).bind fun enc enc' heq => ?_)
          refine (fImsiByComp_both h.links vcConn).bind fun imsi imsi' heq' => ?_
          rw [heq, heq']
          exact sendSut_steps h _
      | clientMt vcConn l3 =>
          simp only [mainStep, netStep, hemu, hnet]
          refine Steps.rounds ((both_toOption _).bind fun enc enc' heq => ?_)
          refine (fImsiByComp_both h.links vcConn).bind fun imsi imsi' heq' => ?_
          rw [heq, heq']
          exact sendSut_steps h _
      | register imsi hdlr =>
          simp only [mainStep, netStep, hemu, hnet]
          rw [← hemu]
          exact (register_steps h imsi hdlr).rounds
      | resetMme mmeName =>
          simp only [mainStep, netStep, hemu, hnet]
          exact (startReset_steps h _).rounds
      | resetVlr vlrName =>
          simp only [mainStep, netStep, hemu, hnet]
          exact (startReset_steps h _).rounds

omit [DecidableEq Comp] in
/-- Both start without links, with the same connection. -/
theorem rel_init (env : Env Mo Mt) (connId : Int) :
    Rel env (mainInit connId : SGsAPEmulationCT Comp) (netInit env.isServer connId) where
  links := logs_empty fun _ => rfl
  expects := keeps_empty fun _ => rfl
  conn := rfl
  waiting := rfl

/-- **THE TABLES ARE WHAT THEY ARE FOR**: in every run, whatever comes and in
    whatever order, the emulation does what the net does, and ends when and as the
    net ends. -/
theorem sgsap_same (env : Env Mo Mt) (connId : Int) (is : List (Input Comp Mo Mt)) :
    Same (Rel env) (fun e d => e.kind = d) (run (mainStep env) (mainInit connId) is)
      (run (netStep env) (netInit env.isServer connId) is) :=
  run_same (fun _ _ i h => mainStep_rounds h i) is _ _ (rel_init env connId)

end Steps

-- ── Who gets what ────────────────────────────────────────────────────────────

section Owners

variable {Comp Mo Mt : Type} [DecidableEq Comp] {env : Env Mo Mt}

/-- What is taken, with what comes of it. -/
abbrev Event (Comp Mo Mt : Type) : Type := Input Comp Mo Mt × List (Output Comp Mo Mt)

/-- The IMSI that a message from the socket is about, and who is handed it. -/
def delivery : Event Comp Mo Mt → Option (Hexstring × Comp)
  | (.sut (.recvFrom _ msg), [.client client _]) =>
      (fSGsAPGetImsi msg).map fun imsi => (imsi, client)
  | _ => none

/-- Which messages of the peer went to which component. -/
def deliveries (h : List (Event Comp Mo Mt)) : List (Hexstring × Comp) := h.filterMap delivery

/-- What a client is handed of a message: its layer 3 message, or all of it. -/
def handed (env : Env Mo Mt) : PduSGsAP → Option (ToClient Mo Mt)
  | .downlinkUnitdata _ l3Enc => (env.decMt l3Enc).toOption.map .mt
  | .uplinkUnitdata _ l3Enc => (env.decMo l3Enc).toOption.map .mo
  | msg => some (.pdu msg)

/-- The message that was taken is handed to the client, and nothing else is done. -/
def Hands (env : Env Mo Mt) (e : Event Comp Mo Mt) (client : Comp) : Prop :=
  ∃ connId msg m, handed env msg = some m
    ∧ e = (.sut (.recvFrom connId msg), [.client client m])

/-- The IMSI that the input is about. -/
def about : Input Comp Mo Mt → Option Hexstring
  | .sut (.recvFrom _ msg) => fSGsAPGetImsi msg
  | _ => none

/-- What one round of the net does to who handles whom. -/
inductive Handling (env : Env Mo Mt) (g : Net Comp) (e : Event Comp Mo Mt) :
    Net Comp → Prop where
  /-- The input is about no IMSI. -/
  | other {g' : Net Comp} (hlinks : g'.links = g.links)
      (hexpects : ∀ imsi client, g'.expects imsi = some client →
        g.expects imsi = some client ∨ e.1 = .register imsi client)
      (hdel : delivery e = none) (habout : about e.1 = none) : Handling env g e g'
  /-- It is handed to the one who handles the IMSI. -/
  | known {imsi : Hexstring} {client : Comp} (hhandler : g.handler imsi = some client)
      (hdel : delivery e = some (imsi, client)) (hands : Hands env e client) : Handling env g e g
  /-- It is handed to the one who expects the IMSI. -/
  | new {g' : Net Comp} {imsi : Hexstring} {client : Comp} (hhandler : g.handler imsi = none)
      (hexpect : g.expects imsi = some client) (hdel : delivery e = some (imsi, client))
      (hands : Hands env e client) (hlinks : g'.links = g.links ++ [(imsi, client)])
      (hexpects : g'.expects = Function.update g.expects imsi none) : Handling env g e g'

variable {g g' : Net Comp} {i : Input Comp Mo Mt} {o : List (Output Comp Mo Mt)}

omit [DecidableEq Comp] in
/-- What did not fail gave a value. -/
theorem orFails_ok {A : Type} {x : Option A} {a : A} (h : orFails x = .ok a) : x = some a := by
  cases x with
  | none => cases h
  | some b => rw [Except.ok.inj h]

omit [DecidableEq Comp] in
/-- What is handed over is about the IMSI of the input. -/
theorem about_of_delivery {imsi imsi' : Hexstring} {client : Comp}
    (hdel : delivery (i, o) = some (imsi, client)) (habout : about i = some imsi') :
    imsi = imsi' := by
  cases i with
  | sut ev =>
      cases ev with
      | recvFrom connId msg =>
          have habout : fSGsAPGetImsi msg = some imsi' := habout
          rw [delivery.eq_def] at hdel
          split at hdel
          · rename_i heq
            obtain ⟨hin, -⟩ := Prod.mk.inj heq
            cases hin
            rw [habout] at hdel
            exact (Prod.mk.inj (Option.some.inj hdel)).1.symm
          · cases hdel
      | sctpAssocChange => cases habout
      | sctpPeerAddrChange => cases habout
      | sctpShutDownEvent => cases habout
      | connOpened connId => cases habout
      | connClosed connId => cases habout
  | unit msg => cases habout
  | client vcConn msg => cases habout
  | clientMo vcConn l3 => cases habout
  | clientMt vcConn l3 => cases habout
  | register imsi hdlr => cases habout
  | resetMme mmeName => cases habout
  | resetVlr vlrName => cases habout

omit [DecidableEq Comp] in
/-- What leaves the net as it is. -/
theorem Handling.same (hdel : delivery (i, o) = none) (habout : about i = none) :
    Handling env g (i, o) g :=
  .other rfl (fun _ _ h => Or.inl h) hdel habout

omit [DecidableEq Comp] in
/-- Sending changes nothing in the net. -/
theorem send_ok {msg : PduSGsAP} (h : g.send msg = some (g', o)) :
    g' = g ∧ o = [.sut g.conn msg] := by
  rw [Net.send] at h
  by_cases hconn : g.conn = -1
  · rw [if_pos hconn] at h
    cases h
  · rw [if_neg hconn] at h
    obtain ⟨rfl, rfl⟩ := Prod.mk.inj (Option.some.inj h)
    exact ⟨rfl, rfl⟩

omit [DecidableEq Comp] in
/-- A message about an IMSI is handled by its component. -/
theorem deliver_handling {imsi : Hexstring} {msg : PduSGsAP} {connId : Int}
    (habout : fSGsAPGetImsi msg = some imsi) (hmsg : handed env msg = some (.pdu msg))
    (h : g.deliver imsi msg = some (g', o)) :
    Handling env g (.sut (.recvFrom connId msg), o) g' := by
  rw [Net.deliver] at h
  cases hhandler : g.handler imsi with
  | some client =>
      rw [hhandler] at h
      obtain ⟨rfl, rfl⟩ := Prod.mk.inj (Option.some.inj h)
      exact .known hhandler (by rw [delivery, habout]; rfl) ⟨connId, msg, _, hmsg, rfl⟩
  | none =>
      rw [hhandler] at h
      by_cases hlen : g.links.length < 16
      · have h : (g.expects imsi).map _ = some (g', o) := (if_pos hlen).symm.trans h
        obtain ⟨client, hexpect, heq⟩ := Option.map_eq_some_iff.mp h
        obtain ⟨rfl, rfl⟩ := Prod.mk.inj heq
        exact .new hhandler hexpect (by rw [delivery, habout]; rfl) ⟨connId, msg, _, hmsg, rfl⟩
          rfl rfl
      · have h : none = some (g', o) := (if_neg hlen).symm.trans h
        cases h

omit [DecidableEq Comp] in
/-- A message of the peer is handled. -/
theorem take_handling {msg : PduSGsAP} {connId : Int} (h : g.take env msg = some (g', o)) :
    Handling env g (.sut (.recvFrom connId msg), o) g' := by
  have hunit : fSGsAPGetImsi msg = none →
      some (g, ((env.unitdataCb msg).map fun resp => .sut g.conn resp).toList) = some (g', o) →
        Handling env g (.sut (.recvFrom connId msg), o) g' := by
    intro habout heq
    obtain ⟨rfl, rfl⟩ := Prod.mk.inj (Option.some.inj heq)
    refine .same ?_ habout
    cases env.unitdataCb msg with
    | none => rfl
    | some resp => rfl
  cases msg with
  | downlinkUnitdata imsi l3Enc =>
      obtain ⟨client, hhandler, hrest⟩ := Option.bind_eq_some_iff.mp h
      obtain ⟨l3, hdec, heq⟩ := Option.map_eq_some_iff.mp hrest
      obtain ⟨rfl, rfl⟩ := Prod.mk.inj heq
      exact .known hhandler rfl ⟨connId, _, .mt l3, by rw [handed, hdec]; rfl, rfl⟩
  | uplinkUnitdata imsi l3Enc =>
      obtain ⟨client, hhandler, hrest⟩ := Option.bind_eq_some_iff.mp h
      obtain ⟨l3, hdec, heq⟩ := Option.map_eq_some_iff.mp hrest
      obtain ⟨rfl, rfl⟩ := Prod.mk.inj heq
      exact .known hhandler rfl ⟨connId, _, .mo l3, by rw [handed, hdec]; rfl, rfl⟩
  | imsiMessage kind imsi rest =>
      cases imsi with
      | some imsi => exact deliver_handling rfl rfl h
      | none => exact hunit rfl h
  | resetIndication mmeName vlrName => exact hunit rfl h
  | resetAck mmeName vlrName => exact hunit rfl h
  | other rest => exact hunit rfl h

omit [DecidableEq Comp] in
/-- So is one that comes during a reset. -/
theorem answer_handling {reset : Reset} (h : g.answer env reset i = .ok (g', o)) :
    Handling env g (i, o) g' := by
  cases i with
  | sut ev =>
      cases ev with
      | recvFrom connId msg =>
          rw [Net.answer] at h
          by_cases hproc : env.procConnections = 1
          · rw [if_pos hproc] at h
            obtain ⟨name, hname, heq⟩ := Option.map_eq_some_iff.mp (orFails_ok h)
            obtain ⟨rfl, rfl⟩ := Prod.mk.inj heq
            refine .other rfl (fun _ _ h => Or.inl h) ?_ ?_
            · cases reset with
              | mme mmeName => rfl
              | vlr vlrName => rfl
            · -- an answer is about no IMSI
              cases msg with
              | resetAck mmeName vlrName => rfl
              | downlinkUnitdata imsi l3Enc => cases hname
              | uplinkUnitdata imsi l3Enc => cases hname
              | imsiMessage kind imsi rest => cases hname
              | resetIndication mmeName vlrName => cases hname
              | other rest => cases hname
          · rw [if_neg hproc] at h
            cases h
      | sctpAssocChange =>
          obtain ⟨rfl, rfl⟩ := Prod.mk.inj (Except.ok.inj h)
          exact .same rfl rfl
      | sctpPeerAddrChange =>
          obtain ⟨rfl, rfl⟩ := Prod.mk.inj (Except.ok.inj h)
          exact .same rfl rfl
      | sctpShutDownEvent => cases h
      | connOpened connId => cases h
      | connClosed connId => cases h
  | unit msg => cases h
  | client vcConn msg => cases h
  | clientMo vcConn l3 => cases h
  | clientMt vcConn l3 => cases h
  | register imsi hdlr => cases h
  | resetMme mmeName => cases h
  | resetVlr vlrName => cases h

omit [DecidableEq Comp] in
/-- So is the end of the connection. -/
theorem down_handling {ev : FromSut}
    (hev : ev = .sctpShutDownEvent ∨ ∃ connId, ev = .connClosed connId)
    (h : g.down env = .ok (g', o)) : Handling env g (.sut ev, o) g' := by
  rw [Net.down] at h
  by_cases hserver : env.isServer = true
  · rw [if_pos hserver] at h
    obtain ⟨rfl, rfl⟩ := Prod.mk.inj (Except.ok.inj h)
    rcases hev with rfl | ⟨connId, rfl⟩
    · exact .same rfl rfl
    · exact .same rfl rfl
  · rw [if_neg hserver] at h
    cases h

/-- So is whatever comes from the peer. -/
theorem sut_handling {ev : FromSut} (hwaiting : g.waiting = none)
    (h : netStep env g (.sut ev) = .ok (g', o)) :
    Handling env g ((.sut ev : Input Comp Mo Mt), o) g' := by
  simp only [netStep, hwaiting] at h
  cases ev with
  | recvFrom connId msg =>
      by_cases hconn : connId = g.conn ∧ g.conn ≠ -1
      · have h : orFails (g.take env msg) = .ok (g', o) := (if_pos hconn).symm.trans h
        exact take_handling (orFails_ok h)
      · have h : Except.error NetEnd.fails = Except.ok (g', o) := (if_neg hconn).symm.trans h
        cases h
  | sctpAssocChange =>
      obtain ⟨rfl, rfl⟩ := Prod.mk.inj (Except.ok.inj h)
      exact .same rfl rfl
  | sctpPeerAddrChange =>
      obtain ⟨rfl, rfl⟩ := Prod.mk.inj (Except.ok.inj h)
      exact .same rfl rfl
  | sctpShutDownEvent => exact down_handling (Or.inl rfl) h
  | connOpened connId =>
      rw [← hwaiting] at h
      by_cases hserver : env.isServer = true
      · have h : Except.ok (_, _) = Except.ok (g', o) := (if_pos hserver).symm.trans h
        obtain ⟨rfl, rfl⟩ := Prod.mk.inj (Except.ok.inj h)
        exact .other rfl (fun _ _ h => Or.inl h) rfl rfl
      · have h : Except.error NetEnd.fails = Except.ok (g', o) := (if_neg hserver).symm.trans h
        cases h
  | connClosed connId => exact down_handling (Or.inr ⟨connId, rfl⟩) h

omit [DecidableEq Comp] in
/-- An expectation is handled by being noted. -/
theorem register_handling {imsi : Hexstring} {hdlr : Comp}
    (h : g.expect imsi hdlr = some (g', o)) :
    Handling env g ((.register imsi hdlr : Input Comp Mo Mt), o) g' := by
  rw [Net.expect] at h
  by_cases hroom : g.expects imsi = none ∧ ¬ Full 8 g.expects
  · rw [if_pos hroom] at h
    obtain ⟨rfl, rfl⟩ := Prod.mk.inj (Option.some.inj h)
    refine .other rfl (fun imsi' client hexpect => ?_) rfl rfl
    by_cases heq : imsi' = imsi
    · rw [heq] at hexpect ⊢
      have hexpect : Function.update g.expects imsi (some hdlr) imsi = some client := hexpect
      rw [Function.update_self] at hexpect
      rw [Option.some.inj hexpect]
      exact Or.inr rfl
    · have hexpect : Function.update g.expects imsi (some hdlr) imsi' = some client := hexpect
      rw [Function.update_of_ne heq] at hexpect
      exact Or.inl hexpect
  · rw [if_neg hroom] at h
    cases h

omit [DecidableEq Comp] in
/-- A reset is handled without a delivery. -/
theorem reset_handling {reset : Reset} (h : g.reset reset = some (g', o))
    (hdel : delivery (i, o) = none) (habout : about i = none) : Handling env g (i, o) g' := by
  obtain ⟨msg, -, hsend⟩ := Option.bind_eq_some_iff.mp h
  obtain ⟨rfl, rfl⟩ := send_ok hsend
  exact .other rfl (fun _ _ h => Or.inl h) hdel habout

/-- **ONE ROUND OF THE NET**: who handles whom stays as it is, but for an IMSI that
    is new. -/
theorem netStep_handling (h : netStep env g i = .ok (g', o)) : Handling env g (i, o) g' := by
  cases hwaiting : g.waiting with
  | some reset =>
      rw [netStep_waiting hwaiting] at h
      exact answer_handling h
  | none =>
      cases i with
      | sut ev => exact sut_handling hwaiting h
      | unit msg =>
          simp only [netStep, hwaiting] at h
          rw [(send_ok (orFails_ok h)).1]
          exact .same rfl rfl
      | client vcConn msg =>
          simp only [netStep, hwaiting] at h
          rw [(send_ok (orFails_ok h)).1]
          exact .same rfl rfl
      | clientMo vcConn l3 =>
          simp only [netStep, hwaiting] at h
          obtain ⟨enc, -, hrest⟩ := Option.bind_eq_some_iff.mp (orFails_ok h)
          obtain ⟨imsi, -, hsend⟩ := Option.bind_eq_some_iff.mp hrest
          rw [(send_ok hsend).1]
          exact .same rfl rfl
      | clientMt vcConn l3 =>
          simp only [netStep, hwaiting] at h
          obtain ⟨enc, -, hrest⟩ := Option.bind_eq_some_iff.mp (orFails_ok h)
          obtain ⟨imsi, -, hsend⟩ := Option.bind_eq_some_iff.mp hrest
          rw [(send_ok hsend).1]
          exact .same rfl rfl
      | register imsi hdlr =>
          simp only [netStep, hwaiting] at h
          exact register_handling (orFails_ok h)
      | resetMme mmeName =>
          simp only [netStep, hwaiting] at h
          exact reset_handling (orFails_ok h) rfl rfl
      | resetVlr vlrName =>
          simp only [netStep, hwaiting] at h
          exact reset_handling (orFails_ok h) rfl rfl

/-- What the net has, by what was taken and what came of it. -/
structure Owned (env : Env Mo Mt) (g : Net Comp) (js : List (Input Comp Mo Mt))
    (h : List (List (Output Comp Mo Mt))) : Prop where
  length : js.length = h.length
  byImsi : ∀ imsi, g.links.find? (fun l => decide (l.1 = imsi))
    = (deliveries (js.zip h)).find? fun l => decide (l.1 = imsi)
  byComp : ∀ client, g.links.find? (fun l => decide (l.2 = client))
    = (deliveries (js.zip h)).find? fun l => decide (l.2 = client)
  handled : ∀ p ∈ deliveries (js.zip h), g.handler p.1 = some p.2
  asked : ∀ p ∈ g.links, .register p.1 p.2 ∈ js
  expected : ∀ imsi client, g.expects imsi = some client → .register imsi client ∈ js
  taken : ∀ e ∈ js.zip h, ∀ imsi, about e.1 = some imsi →
    ∃ client, delivery e = some (imsi, client) ∧ Hands env e client

/-- At first nobody owns an IMSI. -/
theorem owned_init (isServer : Bool) (connId : Int) :
    Owned env (netInit isServer connId : Net Comp) ([] : List (Input Comp Mo Mt)) [] where
  length := rfl
  byImsi := fun _ => rfl
  byComp := fun _ => rfl
  handled := fun _ hp => absurd hp List.not_mem_nil
  asked := fun _ hp => absurd hp List.not_mem_nil
  expected := fun _ _ h => by cases h
  taken := fun _ he => absurd he List.not_mem_nil

omit [DecidableEq Comp] in
/-- The handler of an IMSI has a link to it. -/
theorem handler_mem {imsi : Hexstring} {client : Comp} (h : g.handler imsi = some client) :
    (imsi, client) ∈ g.links := by
  obtain ⟨l, hfind, rfl⟩ := Option.map_eq_some_iff.mp h
  have himsi : l.1 = imsi := by simpa using List.find?_some hfind
  rw [← himsi]
  exact List.mem_of_find?_eq_some hfind

/-- A search that comes to an end before what is added. -/
theorem find_append_of_mem {A : Type} {q : A → Bool} {l : List A} {a : A} (ha : a ∈ l)
    (hq : q a = true) (l' : List A) : (l ++ l').find? q = l.find? q := by
  rw [List.find?_append]
  cases hfind : l.find? q with
  | none => exact absurd hq (List.find?_eq_none.mp hfind a ha)
  | some b => rfl

/-- A search that what is added does not matter to. -/
theorem find_append_of_refused {A : Type} {q : A → Bool} {a : A} (hq : q a = false)
    (l : List A) : (l ++ [a]).find? q = l.find? q := by
  rw [List.find?_append, List.find?_singleton, hq, if_neg Bool.false_ne_true, Option.or_none]

/-- What one list finds the other one has. -/
theorem mem_of_find_eq {A : Type} {q : A → Bool} {l l' : List A} {a : A}
    (heq : l.find? q = l'.find? q) (ha : a ∈ l) (hq : q a = true) : ∃ b ∈ l', q b = true := by
  cases hfind : l'.find? q with
  | none =>
      rw [hfind] at heq
      exact absurd hq (List.find?_eq_none.mp heq a ha)
  | some b => exact ⟨b, List.mem_of_find?_eq_some hfind, List.find?_some hfind⟩

variable {js : List (Input Comp Mo Mt)} {h : List (List (Output Comp Mo Mt))}

omit [DecidableEq Comp] in
/-- One round more adds at most one delivery. -/
theorem deliveries_snoc (hlen : js.length = h.length) (i : Input Comp Mo Mt)
    (o : List (Output Comp Mo Mt)) : deliveries ((js ++ [i]).zip (h ++ [o]))
      = deliveries (js.zip h) ++ (delivery (i, o)).toList := by
  rw [List.zip_append hlen, deliveries, deliveries, List.filterMap_append]
  rfl

/-- Behind one that handles its IMSI already, who is first stays so. -/
theorem Owned.known (hown : Owned env g js h) {imsi : Hexstring} {client : Comp}
    (hhandler : g.handler imsi = some client) :
    (∀ imsi', ((deliveries (js.zip h)) ++ [(imsi, client)]).find? (fun l => decide (l.1 = imsi'))
        = (deliveries (js.zip h)).find? fun l => decide (l.1 = imsi'))
      ∧ ∀ client', ((deliveries (js.zip h)) ++ [(imsi, client)]).find?
          (fun l => decide (l.2 = client'))
        = (deliveries (js.zip h)).find? fun l => decide (l.2 = client') := by
  have hmem := handler_mem hhandler
  constructor
  · intro imsi'
    by_cases heq : imsi = imsi'
    · obtain ⟨b, hb, hq⟩ := mem_of_find_eq (hown.byImsi imsi') hmem (decide_eq_true heq)
      exact find_append_of_mem hb hq _
    · exact find_append_of_refused (q := fun l : Hexstring × Comp => decide (l.1 = imsi'))
        (decide_eq_false heq) _
  · intro client'
    by_cases heq : client = client'
    · obtain ⟨b, hb, hq⟩ := mem_of_find_eq (hown.byComp client') hmem (decide_eq_true heq)
      exact find_append_of_mem hb hq _
    · exact find_append_of_refused (q := fun l : Hexstring × Comp => decide (l.2 = client'))
        (decide_eq_false heq) _

/-- **ONE ROUND** keeps what the net has in step with what was taken. -/
theorem Owned.step (hown : Owned env g js h) (hstep : netStep env g i = .ok (g', o)) :
    Owned env g' (js ++ [i]) (h ++ [o]) := by
  have hlen : (js ++ [i]).length = (h ++ [o]).length := by
    rw [List.length_append, List.length_append, hown.length]
    rfl
  have hdeliv := deliveries_snoc hown.length i o
  have htaken : (∀ imsi, about i = some imsi →
        ∃ client, delivery (i, o) = some (imsi, client) ∧ Hands env (i, o) client) →
      ∀ e ∈ (js ++ [i]).zip (h ++ [o]), ∀ imsi, about e.1 = some imsi →
        ∃ client, delivery e = some (imsi, client) ∧ Hands env e client := by
    intro hlast e he
    rw [List.zip_append hown.length] at he
    rcases List.mem_append.mp he with he | he
    · exact hown.taken e he
    · obtain rfl : e = (i, o) := List.mem_singleton.mp he
      exact hlast
  cases netStep_handling hstep with
  | other hlinks hexpects hdel habout =>
      rw [hdel] at hdeliv
      have hdeliv : deliveries ((js ++ [i]).zip (h ++ [o])) = deliveries (js.zip h) :=
        hdeliv.trans (List.append_nil _)
      refine ⟨hlen, ?_, ?_, ?_, ?_, ?_, htaken fun imsi himsi => ?_⟩
      · rw [hdeliv, hlinks]
        exact hown.byImsi
      · rw [hdeliv, hlinks]
        exact hown.byComp
      · rw [hdeliv]
        intro p hp
        rw [Net.handler, hlinks]
        exact hown.handled p hp
      · rw [hlinks]
        exact fun p hp => List.mem_append_left _ (hown.asked p hp)
      · intro imsi client hexpect
        rcases hexpects imsi client hexpect with hold | hnew
        · exact List.mem_append_left _ (hown.expected imsi client hold)
        · exact List.mem_append_right _ (List.mem_singleton.mpr hnew.symm)
      · have habout : about i = none := habout
        rw [habout] at himsi
        cases himsi
  | @known imsi client hhandler hdel hands =>
      rw [hdel] at hdeliv
      have hdeliv : deliveries ((js ++ [i]).zip (h ++ [o]))
          = deliveries (js.zip h) ++ [(imsi, client)] := hdeliv
      obtain ⟨hfirst, hcomp⟩ := hown.known hhandler
      refine ⟨hlen, fun imsi' => ?_, fun client' => ?_, fun p hp => ?_,
        fun p hp => List.mem_append_left _ (hown.asked p hp),
        fun imsi' client' hexpect => List.mem_append_left _ (hown.expected imsi' client' hexpect),
        htaken fun imsi' himsi => ?_⟩
      · rw [hdeliv, hfirst, hown.byImsi]
      · rw [hdeliv, hcomp, hown.byComp]
      · rw [hdeliv] at hp
        rcases List.mem_append.mp hp with hp | hp
        · exact hown.handled p hp
        · rw [List.mem_singleton.mp hp]
          exact hhandler
      · exact ⟨client, hdel.trans (congrArg some (Prod.ext (about_of_delivery hdel himsi) rfl)),
          hands⟩
  | @new _ imsi client hhandler hexpect hdel hands hlinks hexpects =>
      rw [hdel] at hdeliv
      have hdeliv : deliveries ((js ++ [i]).zip (h ++ [o]))
          = deliveries (js.zip h) ++ [(imsi, client)] := hdeliv
      refine ⟨hlen, fun imsi' => ?_, fun client' => ?_, fun p hp => ?_, fun p hp => ?_,
        fun imsi' client' hexpect' => ?_, htaken fun imsi' himsi => ?_⟩
      · rw [hdeliv, hlinks, List.find?_append, List.find?_append, hown.byImsi]
      · rw [hdeliv, hlinks, List.find?_append, List.find?_append, hown.byComp]
      · rw [hdeliv] at hp
        rw [Net.handler, hlinks, List.find?_append]
        rcases List.mem_append.mp hp with hp | hp
        · obtain ⟨l, hfind, hl⟩ := Option.map_eq_some_iff.mp (hown.handled p hp)
          rw [hfind]
          exact congrArg some hl
        · rw [List.mem_singleton.mp hp, Option.map_eq_none_iff.mp hhandler, List.find?_singleton,
            if_pos (decide_eq_true rfl)]
          rfl
      · rw [hlinks] at hp
        rcases List.mem_append.mp hp with hp | hp
        · exact List.mem_append_left _ (hown.asked p hp)
        · rw [List.mem_singleton.mp hp]
          exact List.mem_append_left _ (hown.expected imsi client hexpect)
      · rw [hexpects] at hexpect'
        by_cases heq : imsi' = imsi
        · rw [heq, Function.update_self] at hexpect'
          cases hexpect'
        · rw [Function.update_of_ne heq] at hexpect'
          exact List.mem_append_left _ (hown.expected imsi' client' hexpect')
      · exact ⟨client, hdel.trans (congrArg some (Prod.ext (about_of_delivery hdel himsi) rfl)),
          hands⟩

/-- What the net has behind a run. -/
theorem owned_run {isServer : Bool} {connId : Int} {is : List (Input Comp Mo Mt)}
    {os : List (List (Output Comp Mo Mt))}
    (hrun : run (netStep env) (netInit isServer connId) is = .ok (g, os)) : Owned env g is os :=
  run_record_inv (I := fun g js h => Owned env g js h)
    (fun _ _ _ _ _ _ hown hstep => hown.step hstep) is _ [] [] _ _ (owned_init isServer connId) hrun

/-- What a component sends in layer 3 goes out under its first IMSI. -/
theorem uplink_first {s s' : SGsAPEmulationCT Comp} (hR : Rel env s g)
    (hown : Owned env g js h) {client : Comp} {x : Except Fault Octetstring}
    {wrap : Hexstring → Octetstring → PduSGsAP}
    (hstep : faulty (x.bind fun l3Enc => (fImsiByComp s.sgsapAssociationTable client).bind
      fun imsi => sendSut env s (wrap imsi l3Enc)) = .ok (s', o)) :
    ∃ imsi l3Enc conn, (deliveries (js.zip h)).find? (fun l => decide (l.2 = client))
        = some (imsi, client)
      ∧ x = .ok l3Enc ∧ o = [.sut conn (wrap imsi l3Enc)] := by
  cases x with
  | error e => cases hstep
  | ok l3Enc =>
      have hcomp := fImsiByComp_both hR.links client
      rw [hown.byComp client] at hcomp
      cases hfind : (deliveries (js.zip h)).find? fun l => decide (l.2 = client) with
      | none =>
          rw [hfind] at hcomp
          obtain ⟨e, herr⟩ := hcomp.of_none
          have hstep : faulty ((fImsiByComp s.sgsapAssociationTable client).bind
            fun imsi => sendSut env s (wrap imsi l3Enc)) = .ok (s', o) := hstep
          rw [herr] at hstep
          cases hstep
      | some p =>
          rw [hfind] at hcomp
          obtain ⟨imsi, hok, himsi⟩ := hcomp.of_some
          have hstep : faulty ((fImsiByComp s.sgsapAssociationTable client).bind
            fun imsi => sendSut env s (wrap imsi l3Enc)) = .ok (s', o) := hstep
          rw [hok] at hstep
          have hstep : faulty ((fSgsapConnId env s).map fun connId =>
            (s, [Output.sut connId (wrap imsi l3Enc)])) = .ok (s', o) := hstep
          cases hconn : fSgsapConnId env s with
          | error e =>
              rw [hconn] at hstep
              cases hstep
          | ok conn =>
              rw [hconn] at hstep
              have hclient : p.2 = client := by simpa using List.find?_some hfind
              refine ⟨imsi, l3Enc, conn, congrArg some (Prod.ext himsi.symm hclient), rfl, ?_⟩
              exact (Prod.mk.inj (Except.ok.inj hstep)).2.symm

/-- **EACH IMSI HAS ITS COMPONENT**: in every run that comes through, whatever
    comes and in whatever order, every message about an IMSI is handed over, its
    layer 3 message decoded or as it came, and nothing else is done for it; all
    those about one IMSI are handed to one component, which has registered for it;
    and what a component then sends in layer 3 goes out under the IMSI that the
    first message it was handed is about. -/
theorem sgsap_owner {connId : Int} {is : List (Input Comp Mo Mt)}
    {os : List (List (Output Comp Mo Mt))} {s : SGsAPEmulationCT Comp}
    (hrun : run (mainStep env) (mainInit connId) is = .ok (s, os)) :
    (∀ e ∈ is.zip os, ∀ imsi, about e.1 = some imsi →
      ∃ client, delivery e = some (imsi, client) ∧ Hands env e client)
    ∧ (∀ p ∈ deliveries (is.zip os), .register p.1 p.2 ∈ is
      ∧ ∀ q ∈ deliveries (is.zip os), q.1 = p.1 → q.2 = p.2)
    ∧ ∀ client s' o, (∀ l3, mainStep env s (.clientMo client l3) = .ok (s', o) →
        ∃ imsi l3Enc conn, (deliveries (is.zip os)).find? (fun l => decide (l.2 = client))
            = some (imsi, client)
          ∧ env.encMo l3 = .ok l3Enc ∧ o = [.sut conn (.uplinkUnitdata imsi l3Enc)])
      ∧ ∀ l3, mainStep env s (.clientMt client l3) = .ok (s', o) →
        ∃ imsi l3Enc conn, (deliveries (is.zip os)).find? (fun l => decide (l.2 = client))
            = some (imsi, client)
          ∧ env.encMt l3 = .ok l3Enc ∧ o = [.sut conn (.downlinkUnitdata imsi l3Enc)] := by
  have hsame := run_same (fun _ _ i h => mainStep_rounds h i) is _ _ (rel_init env connId)
  rw [hrun] at hsame
  obtain ⟨g, hnet, hR⟩ := hsame.of_ok
  have hown : Owned env g is os := owned_run hnet
  refine ⟨hown.taken, fun p hp => ⟨?_, fun q hq heq => ?_⟩, fun client s' o => ⟨?_, ?_⟩⟩
  · exact hown.asked p (handler_mem (hown.handled p hp))
  · have hhandler := hown.handled q hq
    rw [heq, hown.handled p hp] at hhandler
    exact (Option.some.inj hhandler).symm
  · intro l3 hstep
    cases hwaiting : s.waiting with
    | some reset =>
        rw [mainStep_waiting hwaiting] at hstep
        cases hstep
    | none =>
        simp only [mainStep, hwaiting] at hstep
        exact uplink_first hR hown hstep
  · intro l3 hstep
    cases hwaiting : s.waiting with
    | some reset =>
        rw [mainStep_waiting hwaiting] at hstep
        cases hstep
    | none =>
        simp only [mainStep, hwaiting] at hstep
        exact uplink_first hR hown hstep

end Owners

-- ── A subscriber is paged ────────────────────────────────────────────────────

/-- A client whose layer 3 is octets. -/
def plainEnv : Env Octetstring Octetstring where
  isServer := false
  unitdataCb := fun _ => none
  unitConnected := false
  procConnections := 1
  encMo := .ok
  encMt := .ok
  decMo := .ok
  decMt := .ok

/-- A component registers, and its subscriber is paged and gets data. -/
def paging : List (Input Nat Octetstring Octetstring) :=
  [.register [1, 2] 7,
    .sut (.recvFrom 5 (.imsiMessage .pagingRequest (some [1, 2]) [])),
    .sut (.recvFrom 5 (.downlinkUnitdata [1, 2] [8]))]

/-- A subscriber who is paged twice, by way of one component. -/
theorem sgsap_owner_paging : ∃ s os, run (mainStep plainEnv) (mainInit 5) paging = .ok (s, os)
    ∧ deliveries (paging.zip os) = [([1, 2], 7), ([1, 2], 7)]
    ∧ ∀ p ∈ deliveries (paging.zip os), .register p.1 p.2 ∈ paging := by
  have hrun : run (mainStep plainEnv) (mainInit 5) paging = .ok (_, _) := rfl
  exact ⟨_, _, hrun, rfl, fun p hp => ((sgsap_owner hrun).2.1 p hp).1⟩

end OsmoSgsap
