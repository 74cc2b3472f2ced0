import OsmoTtcn.SlotMapProofs
import OsmoTtcn.SpecRunProofs
import OsmoTtcn.TitanProofs

/-! # Sequence numbers of the SMPP emulation

    `SMPP_Emulation_CT` binds to its peer and then passes requests of its
    clients down and the responses back, by the sequence number under which it
    sent the request.

    `f_tx_smpp` stamps `g_seq` on whatever it sends and raises it: on requests,
    where this is right, and on its own responses, which then carry a number of
    the emulation and not that of the request.  The bind phase of a transmitter
    or a receiver waits for the number after that of its bind, and that of a
    transceiver takes any.  `smpp_numbers` proves the numbers right of every run
    in which the peer's numbers happen to agree. -/

namespace OsmoSmpp

open OsmoTitan SlotTable SlotMap SpecRun RunGuard

-- ── Data ─────────────────────────────────────────────────────────────────────

/-- `charstring`, as a list of characters. -/
abbrev Charstring := List Char

/-- The commands, by their `c_SMPP_command_id_*`. -/
inductive CommandId where
  | bindTransmitter
  | bindTransmitterResp
  | bindReceiver
  | bindReceiverResp
  | bindTransceiver
  | bindTransceiverResp
  | enquireLink
  | enquireLinkResp
  | alertNotification
  | submitSm
  | submitSmResp
  | replaceSm
  | replaceSmResp
  | cancelSm
  | cancelSmResp
  | submitMulti
  | submitMultiResp
  | deliverSm
  | deliverSmResp
  | other (id : Nat)
  deriving DecidableEq, Repr

/-- `ESME_ROK` -/
def esmeRok : Nat := 0

/-- The bind parameters; only `system_id` is looked at by itself. -/
structure SmppBind where
  systemId : Charstring
  rest : List UInt8
  deriving DecidableEq, Repr

/-- The body of a PDU, by the alternatives that the emulation tells apart. -/
inductive SmppBody where
  | bind (bind : SmppBind)
  | bindResp (systemId : Charstring)
  | enquireLink
  | enquireLinkResp
  | alertNotif (sourceAddrTon sourceAddrNpi : Nat) (sourceAddr : Charstring)
      (rest : List UInt8)
  | deliverSm (destAddrTon destAddrNpi : Nat) (destinationAddr : Charstring)
      (rest : List UInt8)
  | other (octets : List UInt8)
  deriving DecidableEq, Repr

/-- `SMPP_PDU` -/
structure SmppPdu where
  commandId : CommandId
  commandStatus : Nat
  seqNum : Nat
  body : SmppBody
  deriving DecidableEq, Repr

/-- `EsmeMode` -/
inductive EsmeMode where
  | transmitter
  | receiver
  | transceiver
  deriving DecidableEq, Repr

/-- `EsmePars` -/
structure EsmePars where
  mode : EsmeMode
  bind : SmppBind
  esmeRole : Bool
  deriving DecidableEq, Repr

/-- `TransactionData` -/
structure TransactionData (Comp : Type) where
  tid : Option Nat
  vcConn : Option Comp

/-- `ExpectData` -/
structure ExpectData (Comp : Type) where
  dstTon : Option Nat
  dstNpi : Option Nat
  dstAddr : Charstring
  vcConn : Option Comp

/-- `TransactionTable` -/
abbrev TransactionTable (Comp : Type) : Type := Fin 32 → TransactionData Comp

/-- `ExpectTable` -/
abbrev ExpectTable (Comp : Type) : Type := Fin 32 → ExpectData Comp

/-- What `f_mainloop` waits for: the end of `f_rx_smpp`, or the next round. -/
inductive Phase where
  | bind
  | main
  deriving DecidableEq, Repr

/-- The variables of the emulation, and how far its bind is. -/
structure State (Comp : Type) where
  gSeq : Nat := 1
  phase : Phase := .bind
  transactionTable : TransactionTable Comp
  expectTable : ExpectTable Comp

/-- What the alternatives look at.  An input that none of them takes stays in
    its queue, and nothing happens. -/
inductive Input (Comp : Type) where
  | rx (connId : Nat) (pdu : SmppPdu)
  /-- Anything else from the port to the peer. -/
  | rxOther
  | waitTimeout
  | client (vcConn : Comp) (pdu : SmppPdu)
  | register (dstAddr : Charstring) (hdlr : Comp)

/-- What a round sends, and on which port. -/
inductive Output (Comp : Type) where
  | smpp (pdu : SmppPdu)
  | client (vcConn : Comp) (pdu : SmppPdu)
  | reply (hdlr : Comp)
  deriving DecidableEq

-- ── Templates ────────────────────────────────────────────────────────────────

/-- The bind request of a mode. -/
def bindId : EsmeMode → CommandId
  | .transmitter => .bindTransmitter
  | .receiver => .bindReceiver
  | .transceiver => .bindTransceiver

/-- The bind response of a mode. -/
def bindRespId : EsmeMode → CommandId
  | .transmitter => .bindTransmitterResp
  | .receiver => .bindReceiverResp
  | .transceiver => .bindTransceiverResp

/-- `ts_SMPP_BIND_TX`, `ts_SMPP_BIND_RX`, `ts_SMPP_BIND_TRX` -/
def tsSmppBind (mode : EsmeMode) (bind : SmppBind) : SmppPdu :=
  ⟨bindId mode, esmeRok, 0, .bind bind⟩

/-- `ts_SMPP_BIND_TX_resp`, `ts_SMPP_BIND_RX_resp`, `ts_SMPP_BIND_TRX_resp` -/
def tsSmppBindResp (mode : EsmeMode) (systemId : Charstring) : SmppPdu :=
  ⟨bindRespId mode, esmeRok, 0, .bindResp systemId⟩

/-- `ts_SMPP_ENQ_LINK_resp`; its number is set later. -/
def tsSmppEnqLinkResp : SmppPdu := ⟨.enquireLinkResp, esmeRok, 0, .enquireLinkResp⟩

/-- Requests from ESME -> SMSC -/
def smppEsmeReq : List CommandId := [.submitSm, .replaceSm, .cancelSm, .submitMulti]

/-- Responses from ESME -> SMSC -/
def smppEsmeResp : List CommandId :=
  [.submitSmResp, .replaceSmResp, .cancelSmResp, .submitMultiResp]

/-- Responses from SMSC -> ESME -/
def smppSmscResp : List CommandId := [.deliverSmResp]

/-- `tr_SMPP(id, ESME_ROK)` -/
def isRok (id : CommandId) (pdu : SmppPdu) : Prop :=
  pdu.commandId = id ∧ pdu.commandStatus = esmeRok

instance (id : CommandId) (pdu : SmppPdu) : Decidable (isRok id pdu) :=
  inferInstanceAs (Decidable (_ ∧ _))

-- ── Functions ────────────────────────────────────────────────────────────────

section Functions

variable {Comp : Type}

/-- The entry of a transaction. -/
def findTid (t : TransactionTable Comp) (tid : Nat) : Option (Fin 32) :=
  find t (fun d => decide (d.tid = some tid))

/-- `f_trans_id_known` -/
def fTransIdKnown (t : TransactionTable Comp) (tid : Nat) : Bool := (findTid t tid).isSome

/-- `f_comp_by_trans_id` -/
def fCompByTransId (t : TransactionTable Comp) (tid : Nat) :
    Except Fault (Option Comp) :=
  (orShutdown (findTid t tid) "No componten for SMPP TID ").map (fun i => (t i).vcConn)

/-- `f_trans_table_add` -/
def fTransTableAdd (t : TransactionTable Comp) (vcConn : Comp) (transId : Nat) :
    Except Fault (TransactionTable Comp) :=
  (orShutdown (find t (fun d => decide (d.vcConn = none))) "SMPP Trans table full!").map
    (fun i => Function.update t i { tid := some transId, vcConn := some vcConn })

/-- `f_trans_table_del` -/
def fTransTableDel (t : TransactionTable Comp) (transId : Nat) :
    Except Fault (TransactionTable Comp) :=
  (orShutdown (findTid t transId) "SMPP Trans table attempt to delete non-existant ").map
    (fun i => Function.update t i { tid := none, vcConn := none })

/-- `f_create_expect` -/
def fCreateExpect (t : ExpectTable Comp) (destNumber : Charstring) (hdlr : Comp) :
    Except Fault (ExpectTable Comp) :=
  (orShutdown
    ((find t (fun e => decide (e.dstAddr = destNumber))).or
      (find t (fun e => decide (e.vcConn = none))))
    "No space left in SmppExpectTable").map
    (fun i => Function.update t i
      { dstTon := none, dstNpi := none, dstAddr := destNumber, vcConn := some hdlr })

/-- The component, or the null reference. -/
def fExpLookup (t : ExpectTable Comp) (ton npi : Nat) (dst : Charstring) : Option Comp :=
  (find t (fun e => e.vcConn.isSome && decide (e.dstAddr = dst)
    && e.dstTon.all (fun x => x == ton) && e.dstNpi.all (fun x => x == npi))).bind
    (fun i => (t i).vcConn)

/-- The RAW encoder has 32 bits for the number. -/
def fTxSmpp (s : State Comp) (pdu : SmppPdu) : Except Fault (State Comp × SmppPdu) :=
  if s.gSeq < 4294967296 then
    .ok ({ s with gSeq := s.gSeq + 1 }, { pdu with seqNum := s.gSeq })
  else .error .rawOverflow

/-- The end of a test whose peer sends something else. -/
def unexpectedSmpp : Fault := .shutdown "Unexpected SMPP from peer"

/-- The null reference is no component to send to. -/
def toClient (s : State Comp) (vcConn : Option Comp) (pdu : SmppPdu) :
    Except Fault (State Comp × List (Output Comp)) :=
  (bound vcConn).map (fun vcConn => (s, [.client vcConn pdu]))

/-- `as_smpp`, for a PDU of the connection. -/
def asSmpp (s : State Comp) (pdu : SmppPdu) :
    Except Fault (State Comp × List (Output Comp)) :=
  if isRok .enquireLink pdu then
    (fTxSmpp s tsSmppEnqLinkResp).map (fun r => (r.1, [.smpp r.2]))
  else if isRok .alertNotification pdu then
    match pdu.body with
    | .alertNotif ton npi addr _ => toClient s (fExpLookup s.expectTable ton npi addr) pdu
    | .bind _ | .bindResp _ | .enquireLink | .enquireLinkResp | .deliverSm _ _ _ _
    | .other _ => .error .unbound
  else .error unexpectedSmpp

variable (pars : EsmePars)

/-- What `f_rx_smpp` waits for in the bind phase. -/
def bindTemplate (s : State Comp) (pdu : SmppPdu) : Prop :=
  if pars.esmeRole then
    isRok (bindRespId pars.mode) pdu
      ∧ (pars.mode = .transceiver ∨ pdu.seqNum = s.gSeq)
  else isRok (bindId pars.mode) pdu ∧ pdu.body = .bind pars.bind

instance (s : State Comp) (pdu : SmppPdu) : Decidable (bindTemplate pars s pdu) := by
  unfold bindTemplate
  exact inferInstance

/-- What follows `f_rx_smpp` in the bind phase. -/
def bindDone (s : State Comp) : Except Fault (State Comp × List (Output Comp)) :=
  if pars.esmeRole then .ok ({ s with phase := .main }, [])
  else (fTxSmpp s (tsSmppBindResp pars.mode pars.bind.systemId)).map
    (fun r => ({ r.1 with phase := .main }, [.smpp r.2]))

/-- A PDU in the bind phase.  A branch of the default altstep ends the `alt` of
    `f_rx_smpp` as its own branch does. -/
def rxBind (s : State Comp) (pdu : SmppPdu) :
    Except Fault (State Comp × List (Output Comp)) :=
  if bindTemplate pars s pdu then bindDone pars s
  else (asSmpp s pdu).bind (fun r =>
    (bindDone pars r.1).map (fun r' => (r'.1, r.2 ++ r'.2)))

/-- SMSC -> CLIENT: response, map by seq_nr -/
def rxResp (s : State Comp) (pdu : SmppPdu) :
    Except Fault (State Comp × List (Output Comp)) :=
  if fTransIdKnown s.transactionTable pdu.seqNum then
    (fCompByTransId s.transactionTable pdu.seqNum).bind (fun vcConn =>
      (bound vcConn).bind (fun vcConn =>
        (fTransTableDel s.transactionTable pdu.seqNum).map (fun t =>
          ({ s with transactionTable := t }, [.client vcConn pdu]))))
  else .ok (s, [])

/-- A PDU of the peer, once the bind is done. -/
def rxMain (s : State Comp) (pdu : SmppPdu) :
    Except Fault (State Comp × List (Output Comp)) :=
  if pars.esmeRole = true ∧ pdu.commandId ∈ smppEsmeResp then rxResp s pdu
  else if pars.esmeRole = true ∧ isRok .deliverSm pdu then
    match pdu.body with
    | .deliverSm ton npi addr _ => toClient s (fExpLookup s.expectTable ton npi addr) pdu
    | .bind _ | .bindResp _ | .enquireLink | .enquireLinkResp | .alertNotif _ _ _ _
    | .other _ => .error .unbound
  else asSmpp s pdu

/-- A message of a client. -/
def rxClient (s : State Comp) (vcConn : Comp) (pdu : SmppPdu) :
    Except Fault (State Comp × List (Output Comp)) :=
  if pdu.commandId ∈ smppEsmeReq then
    (fTransTableAdd s.transactionTable vcConn s.gSeq).bind (fun t =>
      (fTxSmpp { s with transactionTable := t } pdu).map (fun r => (r.1, [.smpp r.2])))
  else if pdu.commandId ∈ smppSmscResp then .ok (s, [.smpp pdu])
  else .ok (s, [])

/-- One step of `f_mainloop`, on the connection `g_smpp_conn_id`. -/
def mainloop (gSmppConnId : Nat) (s : State Comp) :
    Input Comp → Except Fault (State Comp × List (Output Comp))
  | .rx connId pdu =>
      if connId = gSmppConnId then
        match s.phase with
        | .bind => rxBind pars s pdu
        | .main => rxMain pars s pdu
      else .error unexpectedSmpp
  | .rxOther => .error unexpectedSmpp
  | .waitTimeout =>
      match s.phase with
      | .bind => .error (.shutdown "Timeout waiting for ")
      | .main => .ok (s, [])
  | .client vcConn pdu =>
      if s.phase = .main ∧ pars.esmeRole = true then rxClient s vcConn pdu else .ok (s, [])
  | .register dstAddr hdlr =>
      match s.phase with
      | .bind => .ok (s, [])
      | .main => (fCreateExpect s.expectTable dstAddr hdlr).map (fun t =>
          ({ s with expectTable := t }, [.reply hdlr]))

/-- `f_trans_table_init`, `f_expect_table_init` -/
def tablesInit : State Comp where
  transactionTable := fun _ => { tid := none, vcConn := none }
  expectTable := fun _ => { dstTon := none, dstNpi := none, dstAddr := [], vcConn := none }

/-- The beginning of `f_mainloop`, up to `f_rx_smpp`. -/
def mainloopStart : Except Fault (State Comp × List (Output Comp)) :=
  if pars.esmeRole then
    (fTxSmpp tablesInit (tsSmppBind pars.mode pars.bind)).map (fun r => (r.1, [.smpp r.2]))
  else .ok (tablesInit, [])

end Functions

-- ── What the numbers are for ─────────────────────────────────────────────────

/-- What a session knows about its requests. -/
structure Ledger (Comp : Type) where
  /-- The bind phase is over. -/
  isBound : Bool
  /-- The numbers of all requests sent, newest first. -/
  requests : List Nat
  /-- The client requests without a response, by number. -/
  outstanding : Nat → Option Comp

section Spec

variable {Comp : Type}

/-- The ledger once `f_mainloop` has begun. -/
def Ledger.start (pars : EsmePars) : Ledger Comp where
  isBound := false
  requests := if pars.esmeRole then [1] else []
  outstanding := fun _ => none

variable (pars : EsmePars) (gSmppConnId : Nat)

/-- The bind request of an ESME, with the first number of the session. -/
def bindRequest : List (Output Comp) :=
  if pars.esmeRole then [.smpp { tsSmppBind pars.mode pars.bind with seqNum := 1 }] else []

/-- What ends the bind phase: the response to the bind request, or as an SMSC
    the bind request of the ESME. -/
def Binds (g : Ledger Comp) (pdu : SmppPdu) : Prop :=
  if pars.esmeRole then
    isRok (bindRespId pars.mode) pdu ∧ g.requests.head? = some pdu.seqNum
  else isRok (bindId pars.mode) pdu ∧ pdu.body = .bind pars.bind

/-- The response that the emulation itself owes for a bind request. -/
def bindAnswer (pdu : SmppPdu) : List (Output Comp) :=
  if pars.esmeRole then []
  else [.smpp { tsSmppBindResp pars.mode pars.bind.systemId with seqNum := pdu.seqNum }]

/-- **THE NUMBERS**: what may happen on each input. -/
inductive SmppAllowed (g : Ledger Comp) :
    Input Comp → Ledger Comp → List (Output Comp) → Prop
  | binds {pdu} (hphase : g.isBound = false) (hbinds : Binds pars g pdu) :
      SmppAllowed g (.rx gSmppConnId pdu) { g with isBound := true } (bindAnswer pars pdu)
  | enquireLink {pdu} (henquire : isRok .enquireLink pdu) :
      SmppAllowed g (.rx gSmppConnId pdu) g
        [.smpp { tsSmppEnqLinkResp with seqNum := pdu.seqNum }]
  | indication {pdu vcConn}
      (hind : isRok .alertNotification pdu ∨ isRok .deliverSm pdu) :
      SmppAllowed g (.rx gSmppConnId pdu) g [.client vcConn pdu]
  | response {pdu vcConn} (hresp : pdu.commandId ∈ smppEsmeResp)
      (hlive : g.outstanding pdu.seqNum = some vcConn) :
      SmppAllowed g (.rx gSmppConnId pdu)
        { g with outstanding := Function.update g.outstanding pdu.seqNum none }
        [.client vcConn pdu]
  | unknownResponse {pdu} (hresp : pdu.commandId ∈ smppEsmeResp)
      (hnone : g.outstanding pdu.seqNum = none) :
      SmppAllowed g (.rx gSmppConnId pdu) g []
  | request {vcConn pdu n} (hreq : pdu.commandId ∈ smppEsmeReq)
      (hnew : n ∉ g.requests) :
      SmppAllowed g (.client vcConn pdu)
        { g with
          requests := n :: g.requests
          outstanding := Function.update g.outstanding n (some vcConn) }
        [.smpp { pdu with seqNum := n }]
  | clientResponse {vcConn pdu} (hresp : pdu.commandId ∈ smppSmscResp) :
      SmppAllowed g (.client vcConn pdu) g [.smpp pdu]
  | register {dstAddr hdlr} : SmppAllowed g (.register dstAddr hdlr) g [.reply hdlr]
  | notYet {i} (hphase : g.isBound = false)
      (hi : (∃ vcConn pdu, i = .client vcConn pdu) ∨ ∃ dstAddr hdlr, i = .register dstAddr hdlr) :
      SmppAllowed g i g []
  | notTaken {vcConn pdu} (hno : pars.esmeRole = false
      ∨ (pdu.commandId ∉ smppEsmeReq ∧ pdu.commandId ∉ smppSmscResp)) :
      SmppAllowed g (.client vcConn pdu) g []
  | noTimer (hphase : g.isBound = true) : SmppAllowed g .waitTimeout g []

/-- Where the test may end: with what the peer may not send in this phase, an
    indication that nobody expects, a timeout of the bind phase, or a table that
    is full. -/
def SmppStops (g : Ledger Comp) : Input Comp → Prop
  | .rx connId pdu => connId = gSmppConnId → ¬ isRok .enquireLink pdu
      ∧ (g.isBound = false → ¬ Binds pars g pdu)
      ∧ (g.isBound = true → pars.esmeRole = true → pdu.commandId ∉ smppEsmeResp)
  | .rxOther => True
  | .waitTimeout => g.isBound = false
  | .client _ pdu => g.isBound = true ∧ pdu.commandId ∈ smppEsmeReq
      ∧ Full 32 g.outstanding
  | .register _ _ => g.isBound = true

/-- The number is the next of the emulation and fits its field. -/
def NextNumber (s : State Comp) (pdu : SmppPdu) : Prop :=
  pdu.seqNum = s.gSeq ∧ s.gSeq < 4294967296

instance (s : State Comp) (pdu : SmppPdu) : Decidable (NextNumber s pdu) :=
  inferInstanceAs (Decidable (_ ∧ _))

/-- In the bind phase, no ENQUIRE-LINK; and the number of the response, or of
    the request of an ESME, is one about which the code is right. -/
def BindOk (s : State Comp) (pdu : SmppPdu) : Prop :=
  ¬ isRok .enquireLink pdu ∧
    if pars.esmeRole then
      isRok (bindRespId pars.mode) pdu →
        if pars.mode = .transceiver then pdu.seqNum + 1 = s.gSeq
        else pdu.seqNum + 1 ≠ s.gSeq ∧ pdu.seqNum ≠ s.gSeq
    else isRok (bindId pars.mode) pdu → pdu.body = .bind pars.bind → NextNumber s pdu

/-- The condition on one input. -/
def Guard (s : State Comp) : Input Comp → Prop
  | .rx connId pdu => connId = gSmppConnId →
      match s.phase with
      | .bind => BindOk pars s pdu
      | .main => isRok .enquireLink pdu → NextNumber s pdu
  | .client _ pdu => s.phase = .main → pars.esmeRole = true →
      pdu.commandId ∈ smppEsmeReq → s.gSeq < 4294967296
  | .rxOther | .waitTimeout | .register _ _ => True

instance (s : State Comp) (pdu : SmppPdu) : Decidable (BindOk pars s pdu) := by
  unfold BindOk
  exact inferInstance

instance decGuard (s : State Comp) : ∀ i, Decidable (Guard pars gSmppConnId s i)
  | .rx connId pdu => by
      unfold Guard
      cases s.phase with
      | bind => exact inferInstanceAs (Decidable (connId = gSmppConnId → BindOk pars s pdu))
      | main => exact inferInstanceAs (Decidable
          (connId = gSmppConnId → isRok .enquireLink pdu → NextNumber s pdu))
  | .client _ pdu => inferInstanceAs (Decidable (s.phase = .main → pars.esmeRole = true →
      pdu.commandId ∈ smppEsmeReq → s.gSeq < 4294967296))
  | .rxOther | .waitTimeout | .register _ _ => isTrue trivial

end Spec

-- ── The invariant ────────────────────────────────────────────────────────────

section Invariant

variable {Comp : Type}

/-- The transaction in a slot. -/
def entry (d : TransactionData Comp) : Option (Nat × Comp) :=
  d.tid.bind (fun tid => d.vcConn.map (fun c => (tid, c)))

/-- Every slot has a number and a component, or neither; the requests have
    numbers of their own, all before the next one. -/
structure Session (pars : EsmePars) (s : State Comp) (g : Ledger Comp) : Prop where
  phase : s.phase = .main ↔ g.isBound = true
  rep : Represents entry s.transactionTable g.outstanding
  whole : ∀ i, (s.transactionTable i).tid = none ↔ (s.transactionTable i).vcConn = none
  nodup : g.requests.Nodup
  below : ∀ n ∈ g.requests, n < s.gSeq
  listed : ∀ n c, g.outstanding n = some c → n ∈ g.requests
  bindSent : s.phase = .bind → pars.esmeRole = true → g.requests.head? = some (s.gSeq - 1)
  positive : 0 < s.gSeq
  quiet : s.phase = .bind → ∀ i, (s.expectTable i).vcConn = none

variable {pars : EsmePars} {s s' : State Comp} {g : Ledger Comp} {n : Nat} {c : Comp}

theorem entry_some {d : TransactionData Comp} (h : entry d = some (n, c)) :
    d.tid = some n ∧ d.vcConn = some c := by
  obtain ⟨tid, htid, hmap⟩ := Option.bind_eq_some_iff.mp h
  obtain ⟨c', hc, heq⟩ := Option.map_eq_some_iff.mp hmap
  obtain ⟨rfl, rfl⟩ := Prod.mk.inj heq
  exact ⟨htid, hc⟩

theorem entry_of {d : TransactionData Comp} (htid : d.tid = some n)
    (hc : d.vcConn = some c) : entry d = some (n, c) := by
  rw [entry, htid, hc]
  rfl

theorem entry_none {d : TransactionData Comp} (h : d.vcConn = none) : entry d = none := by
  rw [entry, h]
  cases d.tid with
  | none => rfl
  | some tid => rfl

theorem Session.free (h : Session pars s g) {i : Fin 32}
    (he : entry (s.transactionTable i) = none) : (s.transactionTable i).vcConn = none := by
  cases hc : (s.transactionTable i).vcConn with
  | none => rfl
  | some c =>
      have htid : (s.transactionTable i).tid ≠ none := by
        intro hnone
        rw [(h.whole i).mp hnone] at hc
        exact nomatch hc
      obtain ⟨tid, htid⟩ := Option.ne_none_iff_exists'.mp htid
      rw [entry_of htid hc] at he
      exact nomatch he

theorem Session.accepts (h : Session pars s g) (n : Nat) (i : Fin 32) :
    decide ((s.transactionTable i).tid = some n) = true
      ↔ ∃ c, entry (s.transactionTable i) = some (n, c) := by
  refine accepts_iff (p := fun d : TransactionData Comp => decide (d.tid = some n)) ?_ ?_ i
  · intro j hj
    rw [(h.whole j).mpr (h.free hj)]
    rfl
  · intro j k c hj
    rw [decide_eq_true_iff, (entry_some hj).1, Option.some_inj]

theorem Session.find_none (h : Session pars s g) :
    findTid s.transactionTable n = none ↔ g.outstanding n = none := by
  have hnone := h.rep.find_none (p := fun d => decide (d.tid = some n)) (h.accepts n)
  rw [findTid]
  exact hnone

theorem Session.find_some (h : Session pars s g) (hg : g.outstanding n = some c) :
    ∃ i, findTid s.transactionTable n = some i
      ∧ entry (s.transactionTable i) = some (n, c) := by
  have hsome := h.rep.find_of_get (p := fun d => decide (d.tid = some n)) (h.accepts n) hg
  rw [findTid]
  exact hsome

/-- The next number is a new one. -/
theorem Session.fresh (h : Session pars s g) : s.gSeq ∉ g.requests := by
  intro hmem
  exact Nat.lt_irrefl _ (h.below _ hmem)

theorem Session.fresh_outstanding (h : Session pars s g) : g.outstanding s.gSeq = none := by
  cases hg : g.outstanding s.gSeq with
  | none => rfl
  | some c => exact absurd (h.listed _ c hg) h.fresh

/-- The main phase is not the bind phase. -/
theorem not_bind (hphase : s.phase = .main) : s.phase ≠ .bind := by
  rw [hphase]
  exact nofun

/-- Only the expectations change. -/
theorem Session.expect (h : Session pars s g) (hphase : s.phase = .main)
    (t : ExpectTable Comp) : Session pars { s with expectTable := t } g :=
  ⟨h.phase, h.rep, h.whole, h.nodup, h.below, h.listed, h.bindSent, h.positive,
    fun hbind => absurd hbind (not_bind hphase)⟩

/-- A number is used in the main phase. -/
theorem Session.count (h : Session pars s g) (hphase : s.phase = .main) :
    Session pars { s with gSeq := s.gSeq + 1 } g where
  phase := h.phase
  rep := h.rep
  whole := h.whole
  nodup := h.nodup
  below := fun n hn => Nat.lt_succ_of_lt (h.below n hn)
  listed := h.listed
  bindSent := fun hbind => absurd hbind (not_bind hphase)
  positive := Nat.succ_pos _
  quiet := fun hbind => absurd hbind (not_bind hphase)

/-- The bind phase is over, and a number may have been used. -/
theorem Session.bound (h : Session pars s g) {m : Nat} (hm : s.gSeq ≤ m) :
    Session pars { s with gSeq := m, phase := .main } { g with isBound := true } where
  phase := ⟨fun _ => rfl, fun _ => rfl⟩
  rep := h.rep
  whole := h.whole
  nodup := h.nodup
  below := fun n hn => Nat.lt_of_lt_of_le (h.below n hn) hm
  listed := h.listed
  bindSent := nofun
  positive := Nat.lt_of_lt_of_le h.positive hm
  quiet := nofun

/-- A slot with a number and a component, or with neither. -/
theorem whole_update {t : TransactionTable Comp} {i : Fin 32} {d : TransactionData Comp}
    (h : ∀ j, (t j).tid = none ↔ (t j).vcConn = none) (hd : d.tid = none ↔ d.vcConn = none)
    (j : Fin 32) : (Function.update t i d j).tid = none
      ↔ (Function.update t i d j).vcConn = none := by
  by_cases hj : j = i
  · rw [hj, Function.update_self]
    exact hd
  · rw [Function.update_of_ne hj]
    exact h j

/-- **A REQUEST** is entered under the next number. -/
theorem Session.request (h : Session pars s g) (hphase : s.phase = .main) (c : Comp) :
    (∃ t, fTransTableAdd s.transactionTable c s.gSeq = .ok t
        ∧ Session pars { s with transactionTable := t, gSeq := s.gSeq + 1 }
          { g with
            requests := s.gSeq :: g.requests
            outstanding := Function.update g.outstanding s.gSeq (some c) })
      ∨ (∃ e, fTransTableAdd s.transactionTable c s.gSeq = .error e)
        ∧ Full 32 g.outstanding := by
  rw [fTransTableAdd]
  cases hf : find s.transactionTable (fun d => decide (d.vcConn = none)) with
  | none =>
      refine Or.inr ⟨⟨_, rfl⟩, h.rep.full (fun i he => ?_)⟩
      exact of_decide_eq_false (find_eq_none.mp hf i) (h.free he)
  | some i =>
      have hacc := find_accepts hf
      have hfree : (s.transactionTable i).vcConn = none := of_decide_eq_true hacc
      refine Or.inl ⟨_, rfl, ?_⟩
      constructor
      · exact h.phase
      · exact h.rep.add (entry_none hfree) h.fresh_outstanding (entry_of rfl rfl)
      · exact whole_update h.whole ⟨nofun, nofun⟩
      · exact List.nodup_cons.mpr ⟨h.fresh, h.nodup⟩
      · intro n hn
        rcases List.mem_cons.mp hn with rfl | hn
        · exact Nat.lt_succ_self _
        · exact Nat.lt_succ_of_lt (h.below n hn)
      · intro n c' hn
        by_cases hne : n = s.gSeq
        · exact List.mem_cons.mpr (Or.inl hne)
        · dsimp only at hn
          rw [Function.update_of_ne hne] at hn
          exact List.mem_cons_of_mem _ (h.listed n c' hn)
      · exact fun hbind => absurd hbind (not_bind hphase)
      · exact Nat.succ_pos _
      · exact fun hbind => absurd hbind (not_bind hphase)

/-- **A RESPONSE** finds the client of its request and frees the entry. -/
theorem Session.response (h : Session pars s g) (hg : g.outstanding n = some c) :
    fTransIdKnown s.transactionTable n = true
      ∧ fCompByTransId s.transactionTable n = .ok (some c)
      ∧ ∃ t, fTransTableDel s.transactionTable n = .ok t
        ∧ Session pars { s with transactionTable := t }
          { g with outstanding := Function.update g.outstanding n none } := by
  obtain ⟨i, hf, hi⟩ := h.find_some hg
  refine ⟨by rw [fTransIdKnown, hf]; rfl, ?_, ?_⟩
  · rw [fCompByTransId, hf]
    dsimp only [orShutdown, Except.map]
    rw [(entry_some hi).2]
  · refine ⟨Function.update s.transactionTable i { tid := none, vcConn := none },
      by rw [fTransTableDel, hf]; rfl, ?_⟩
    constructor
    · exact h.phase
    · exact h.rep.del hi (entry_none rfl)
    · exact whole_update h.whole ⟨fun _ => rfl, fun _ => rfl⟩
    · exact h.nodup
    · exact h.below
    · intro m c' hm
      by_cases hne : m = n
      · rw [hne] at hm
        dsimp only at hm
        rw [Function.update_self] at hm
        exact nomatch hm
      · dsimp only at hm
        rw [Function.update_of_ne hne] at hm
        exact h.listed m c' hm
    · exact h.bindSent
    · exact h.positive
    · exact h.quiet

end Invariant

-- ── Steps ────────────────────────────────────────────────────────────────────

section Steps

variable {Comp : Type} {pars : EsmePars} {k : Nat}
variable {s : State Comp} {g : Ledger Comp} {pdu : SmppPdu}

theorem fTxSmpp_ok (h : s.gSeq < 4294967296) (pdu : SmppPdu) :
    fTxSmpp s pdu = .ok ({ s with gSeq := s.gSeq + 1 }, { pdu with seqNum := s.gSeq }) :=
  if_pos h

/-- What goes up is an indication, or it has no taker. -/
theorem toClient_cases (h : Session pars s g)
    (hind : isRok .alertNotification pdu ∨ isRok .deliverSm pdu) (vcConn : Option Comp) :
    (∃ e, toClient s vcConn pdu = .error e) ∨ ∃ o, toClient s vcConn pdu = .ok (s, o)
      ∧ SmppAllowed pars k g (.rx k pdu) g o ∧ Session pars s g := by
  cases vcConn with
  | none => exact Or.inl ⟨_, rfl⟩
  | some c => exact Or.inr ⟨_, rfl, .indication hind, h⟩

/-- **THE DEFAULT ALTSTEP** in the main phase. -/
theorem asSmpp_cases (h : Session pars s g) (hphase : s.phase = .main)
    (hguard : isRok .enquireLink pdu → NextNumber s pdu) :
    (∃ e, asSmpp s pdu = .error e ∧ ¬ isRok .enquireLink pdu)
      ∨ ∃ s' o, asSmpp s pdu = .ok (s', o)
        ∧ SmppAllowed pars k g (.rx k pdu) g o ∧ Session pars s' g := by
  rw [asSmpp]
  by_cases henquire : isRok .enquireLink pdu
  · obtain ⟨hseq, hlt⟩ := hguard henquire
    rw [if_pos henquire, fTxSmpp_ok hlt, ← hseq]
    refine Or.inr ⟨_, _, rfl, .enquireLink henquire, ?_⟩
    exact hseq ▸ h.count hphase
  · rw [if_neg henquire]
    by_cases halert : isRok .alertNotification pdu
    · rw [if_pos halert]
      cases hbody : pdu.body with
      | alertNotif ton npi addr rest =>
          dsimp only
          rcases toClient_cases (k := k) h (Or.inl halert)
            (fExpLookup s.expectTable ton npi addr) with ⟨e, he⟩ | ⟨o, ho, hallowed, hs⟩
          · exact Or.inl ⟨e, he, henquire⟩
          · exact Or.inr ⟨s, o, ho, hallowed, hs⟩
      | bind b => exact Or.inl ⟨_, rfl, henquire⟩
      | bindResp systemId => exact Or.inl ⟨_, rfl, henquire⟩
      | enquireLink => exact Or.inl ⟨_, rfl, henquire⟩
      | enquireLinkResp => exact Or.inl ⟨_, rfl, henquire⟩
      | deliverSm ton npi addr rest => exact Or.inl ⟨_, rfl, henquire⟩
      | other octets => exact Or.inl ⟨_, rfl, henquire⟩
    · rw [if_neg halert]
      exact Or.inl ⟨_, rfl, henquire⟩

/-- In the bind phase nobody is expected, so nothing but an ENQUIRE-LINK comes
    through the default altstep. -/
theorem asSmpp_bind (h : Session pars s g) (hphase : s.phase = .bind)
    (henquire : ¬ isRok .enquireLink pdu) : ∃ e, asSmpp s pdu = .error e := by
  have hnone : ∀ ton npi addr, fExpLookup s.expectTable ton npi addr = none := by
    intro ton npi addr
    rw [fExpLookup]
    cases hf : find s.expectTable (fun e => e.vcConn.isSome && decide (e.dstAddr = addr)
        && e.dstTon.all (fun x => x == ton) && e.dstNpi.all (fun x => x == npi)) with
    | none => rfl
    | some i => exact h.quiet hphase i
  rw [asSmpp, if_neg henquire]
  by_cases halert : isRok .alertNotification pdu
  · rw [if_pos halert]
    cases hbody : pdu.body with
    | alertNotif ton npi addr rest =>
        dsimp only
        rw [hnone]
        exact ⟨_, rfl⟩
    | bind b => exact ⟨_, rfl⟩
    | bindResp systemId => exact ⟨_, rfl⟩
    | enquireLink => exact ⟨_, rfl⟩
    | enquireLinkResp => exact ⟨_, rfl⟩
    | deliverSm ton npi addr rest => exact ⟨_, rfl⟩
    | other octets => exact ⟨_, rfl⟩
  · rw [if_neg halert]
    exact ⟨_, rfl⟩

/-- How an input may be followed. -/
def Followed (pars : EsmePars) (k : Nat) (g : Ledger Comp) (i : Input Comp)
    (r : Except Fault (State Comp × List (Output Comp))) : Prop :=
  (∃ e, r = .error e ∧ SmppStops pars k g i)
    ∨ ∃ s' o g', r = .ok (s', o) ∧ SmppAllowed pars k g i g' o ∧ Session pars s' g'

/-- **THE BIND PHASE** ends with the response to the bind request, or with the
    request of the ESME. -/
theorem rxBind_followed (h : Session pars s g) (hphase : s.phase = .bind)
    (hguard : BindOk pars s pdu) :
    Followed pars k g (.rx k pdu) (rxBind pars s pdu) := by
  obtain ⟨henquire, hok⟩ := hguard
  have hunbound : g.isBound = false := by
    refine Bool.eq_false_iff.mpr (fun hbound => ?_)
    have hmain := h.phase.mpr hbound
    rw [hphase] at hmain
    exact nomatch hmain
  have hpos := h.positive
  have hstops : ¬ Binds pars g pdu → SmppStops pars k g (.rx k pdu) := by
    intro hno _
    refine ⟨henquire, fun _ => hno, fun hbound => ?_⟩
    rw [hunbound] at hbound
    exact nomatch hbound
  rw [rxBind]
  cases hrole : pars.esmeRole with
  | true =>
      have hhead := h.bindSent hphase hrole
      rw [hrole, if_pos rfl] at hok
      by_cases htemplate : bindTemplate pars s pdu
      · have ht : isRok (bindRespId pars.mode) pdu
            ∧ (pars.mode = .transceiver ∨ pdu.seqNum = s.gSeq) := by
          unfold bindTemplate at htemplate
          rw [hrole, if_pos rfl] at htemplate
          exact htemplate
        have hnum := hok ht.1
        have hmode : pars.mode = .transceiver := by
          rcases ht.2 with hmode | hseq
          · exact hmode
          · by_contra hne
            rw [if_neg hne] at hnum
            exact hnum.2 hseq
        rw [if_pos hmode] at hnum
        have hbinds : Binds pars g pdu := by
          rw [Binds, hrole, if_pos rfl, hhead]
          refine ⟨ht.1, congrArg some ?_⟩
          omega
        rw [if_pos htemplate, bindDone, hrole, if_pos rfl]
        refine Or.inr ⟨_, _, _, rfl, ?_, h.bound (Nat.le_refl _)⟩
        have hallowed : SmppAllowed pars k g (.rx k pdu) { g with isBound := true }
            (bindAnswer pars pdu) := .binds hunbound hbinds
        rw [bindAnswer, hrole, if_pos rfl] at hallowed
        exact hallowed
      · have hno : ¬ Binds pars g pdu := by
          rw [Binds, hrole, if_pos rfl, hhead]
          rintro ⟨hresp, hseq⟩
          have hseq' : s.gSeq - 1 = pdu.seqNum := Option.some.inj hseq
          have hnum := hok hresp
          by_cases hmode : pars.mode = .transceiver
          · refine htemplate ?_
            unfold bindTemplate
            rw [hrole, if_pos rfl]
            exact ⟨hresp, Or.inl hmode⟩
          · rw [if_neg hmode] at hnum
            exact hnum.1 (by omega)
        obtain ⟨e, he⟩ := asSmpp_bind h hphase henquire
        rw [if_neg htemplate, he]
        exact Or.inl ⟨e, rfl, hstops hno⟩
  | false =>
      have hno : ¬ (false = true) := nofun
      rw [hrole, if_neg hno] at hok
      have hsame : bindTemplate pars s pdu ↔ Binds pars g pdu := by
        unfold bindTemplate
        rw [Binds, hrole, if_neg hno, if_neg hno]
      by_cases htemplate : bindTemplate pars s pdu
      · have hbinds := hsame.mp htemplate
        have hbinds' := hbinds
        rw [Binds, hrole, if_neg hno] at hbinds'
        obtain ⟨hseq, hlt⟩ := hok hbinds'.1 hbinds'.2
        rw [if_pos htemplate, bindDone, hrole, if_neg hno, fTxSmpp_ok hlt]
        refine Or.inr ⟨_, _, _, rfl, ?_, h.bound (Nat.le_succ _)⟩
        have hallowed : SmppAllowed pars k g (.rx k pdu) { g with isBound := true }
            (bindAnswer pars pdu) := .binds hunbound hbinds
        rw [bindAnswer, hrole, if_neg hno, hseq] at hallowed
        exact hallowed
      · obtain ⟨e, he⟩ := asSmpp_bind h hphase henquire
        rw [if_neg htemplate, he]
        exact Or.inl ⟨e, rfl, hstops (fun hbinds => htemplate (hsame.mpr hbinds))⟩

/-- **A RESPONSE OF THE PEER** goes to the client of the request, once. -/
theorem rxResp_followed (h : Session pars s g)
    (hresp : pdu.commandId ∈ smppEsmeResp) :
    Followed pars k g (.rx k pdu) (rxResp s pdu) := by
  rw [rxResp]
  cases hg : g.outstanding pdu.seqNum with
  | some c =>
      obtain ⟨hknown, hcomp, t, hdel, hs⟩ := h.response hg
      rw [if_pos hknown, hcomp]
      dsimp only [Except.bind, OsmoTitan.bound]
      rw [hdel]
      exact Or.inr ⟨_, _, _, rfl, .response hresp hg, hs⟩
  | none =>
      have hunknown : fTransIdKnown s.transactionTable pdu.seqNum ≠ true := by
        rw [fTransIdKnown, h.find_none.mpr hg]
        exact nofun
      rw [if_neg hunknown]
      exact Or.inr ⟨_, _, _, rfl, .unknownResponse hresp hg, h⟩

/-- **A PDU IN THE MAIN PHASE.** -/
theorem rxMain_followed (h : Session pars s g) (hphase : s.phase = .main)
    (hguard : isRok .enquireLink pdu → NextNumber s pdu) :
    Followed pars k g (.rx k pdu) (rxMain pars s pdu) := by
  have hbound : g.isBound = true := h.phase.mp hphase
  have hstops : ¬ isRok .enquireLink pdu → pdu.commandId ∉ smppEsmeResp
      ∨ pars.esmeRole = false → SmppStops pars k g (.rx k pdu) := by
    intro henquire hno _
    refine ⟨henquire, fun hnot => ?_, fun _ hrole => ?_⟩
    · rw [hbound] at hnot
      exact nomatch hnot
    · rcases hno with hno | hno
      · exact hno
      · rw [hrole] at hno
        exact nomatch hno
  rw [rxMain]
  by_cases hresp : pars.esmeRole = true ∧ pdu.commandId ∈ smppEsmeResp
  · rw [if_pos hresp]
    exact rxResp_followed h hresp.2
  · have hno : pdu.commandId ∉ smppEsmeResp ∨ pars.esmeRole = false := by
      by_cases hmem : pdu.commandId ∈ smppEsmeResp
      · exact Or.inr (Bool.eq_false_iff.mpr (fun hrole => hresp ⟨hrole, hmem⟩))
      · exact Or.inl hmem
    rw [if_neg hresp]
    by_cases hdeliver : pars.esmeRole = true ∧ isRok .deliverSm pdu
    · have henquire : ¬ isRok .enquireLink pdu := by
        rintro ⟨hid, -⟩
        rw [hdeliver.2.1] at hid
        exact nomatch hid
      have hs := hstops henquire hno
      rw [if_pos hdeliver]
      cases hbody : pdu.body with
      | deliverSm ton npi addr rest =>
          dsimp only
          rcases toClient_cases (k := k) h (Or.inr hdeliver.2)
            (fExpLookup s.expectTable ton npi addr) with ⟨e, he⟩ | ⟨o, ho, hallowed, hinv⟩
          · exact Or.inl ⟨e, he, hs⟩
          · exact Or.inr ⟨s, o, g, ho, hallowed, hinv⟩
      | bind b => exact Or.inl ⟨_, rfl, hs⟩
      | bindResp systemId => exact Or.inl ⟨_, rfl, hs⟩
      | enquireLink => exact Or.inl ⟨_, rfl, hs⟩
      | enquireLinkResp => exact Or.inl ⟨_, rfl, hs⟩
      | alertNotif ton npi addr rest => exact Or.inl ⟨_, rfl, hs⟩
      | other octets => exact Or.inl ⟨_, rfl, hs⟩
    · rw [if_neg hdeliver]
      rcases asSmpp_cases (k := k) h hphase hguard with
        ⟨e, he, henquire⟩ | ⟨s', o, ho, hallowed, hinv⟩
      · exact Or.inl ⟨e, he, hstops henquire hno⟩
      · exact Or.inr ⟨s', o, g, ho, hallowed, hinv⟩

/-- **A MESSAGE OF A CLIENT** in the main phase. -/
theorem rxClient_followed (h : Session pars s g) (hphase : s.phase = .main)
    (hguard : pdu.commandId ∈ smppEsmeReq → s.gSeq < 4294967296) (c : Comp) :
    Followed pars k g (.client c pdu) (rxClient s c pdu) := by
  rw [rxClient]
  by_cases hreq : pdu.commandId ∈ smppEsmeReq
  · rw [if_pos hreq]
    rcases h.request hphase c with ⟨t, hadd, hs⟩ | ⟨⟨e, hadd⟩, hfull⟩
    · rw [hadd]
      dsimp only [Except.bind]
      rw [fTxSmpp_ok (s := { s with transactionTable := t }) (hguard hreq)]
      exact Or.inr ⟨_, _, _, rfl, .request hreq h.fresh, hs⟩
    · rw [hadd]
      exact Or.inl ⟨e, rfl, h.phase.mp hphase, hreq, hfull⟩
  · rw [if_neg hreq]
    by_cases hresp : pdu.commandId ∈ smppSmscResp
    · rw [if_pos hresp]
      exact Or.inr ⟨_, _, _, rfl, .clientResponse hresp, h⟩
    · rw [if_neg hresp]
      exact Or.inr ⟨_, _, _, rfl, .notTaken (Or.inr ⟨hreq, hresp⟩), h⟩

/-- **ONE STEP** that meets the condition. -/
theorem mainloop_followed (i : Input Comp) (h : Session pars s g)
    (hguard : Guard pars k s i) : Followed pars k g i (mainloop pars k s i) := by
  have hbind : s.phase = .bind → g.isBound = false := by
    intro hphase
    refine Bool.eq_false_iff.mpr (fun hbound => ?_)
    rw [h.phase.mpr hbound] at hphase
    exact nomatch hphase
  cases i with
  | rx connId pdu =>
      rw [mainloop]
      by_cases hconn : connId = k
      · subst hconn
        have hok := hguard rfl
        rw [if_pos rfl]
        cases hphase : s.phase with
        | bind =>
            rw [hphase] at hok
            exact rxBind_followed h hphase hok
        | main =>
            rw [hphase] at hok
            exact rxMain_followed h hphase hok
      · rw [if_neg hconn]
        exact Or.inl ⟨_, rfl, fun heq => absurd heq hconn⟩
  | rxOther => exact Or.inl ⟨_, rfl, trivial⟩
  | waitTimeout =>
      rw [mainloop]
      cases hphase : s.phase with
      | bind => exact Or.inl ⟨_, rfl, hbind hphase⟩
      | main => exact Or.inr ⟨_, _, _, rfl, .noTimer (h.phase.mp hphase), h⟩
  | client c pdu =>
      rw [mainloop]
      by_cases hmain : s.phase = .main ∧ pars.esmeRole = true
      · rw [if_pos hmain]
        exact rxClient_followed h hmain.1 (hguard hmain.1 hmain.2) c
      · rw [if_neg hmain]
        cases hphase : s.phase with
        | bind =>
            exact Or.inr ⟨_, _, _, rfl, .notYet (hbind hphase) (Or.inl ⟨c, pdu, rfl⟩), h⟩
        | main =>
            have hrole : pars.esmeRole = false :=
              Bool.eq_false_iff.mpr (fun hrole => hmain ⟨hphase, hrole⟩)
            exact Or.inr ⟨_, _, _, rfl, .notTaken (Or.inl hrole), h⟩
  | register dstAddr hdlr =>
      rw [mainloop]
      cases hphase : s.phase with
      | bind =>
          exact Or.inr ⟨_, _, _, rfl,
            .notYet (hbind hphase) (Or.inr ⟨dstAddr, hdlr, rfl⟩), h⟩
      | main =>
          dsimp only
          cases hadd : fCreateExpect s.expectTable dstAddr hdlr with
          | error e => exact Or.inl ⟨e, rfl, h.phase.mp hphase⟩
          | ok t =>
              have hs := h.expect hphase t
              rw [hphase] at hs
              exact Or.inr ⟨_, _, _, rfl, .register, hs⟩

end Steps

-- ── Runs ─────────────────────────────────────────────────────────────────────

section Runs

variable {Comp : Type}

/-- `f_mainloop` begins a session; an ESME has sent its bind request. -/
theorem session_start (pars : EsmePars) : ∃ (s : State Comp) (os : List (Output Comp)),
    mainloopStart pars = .ok (s, os) ∧ Session pars s (Ledger.start pars)
      ∧ os = bindRequest pars := by
  have hrep : Represents entry (tablesInit : State Comp).transactionTable
      (fun _ => none) := represents_empty (fun _ => rfl)
  cases hrole : pars.esmeRole with
  | true =>
      refine ⟨{ (tablesInit : State Comp) with gSeq := 2 }, bindRequest pars,
        by rw [mainloopStart, bindRequest, hrole]; rfl, ?_, rfl⟩
      rw [Ledger.start, hrole]
      refine ⟨⟨nofun, nofun⟩, hrep, fun _ => ⟨fun _ => rfl, fun _ => rfl⟩,
        List.nodup_singleton 1, ?_, fun _ _ hn => (nomatch hn), fun _ _ => rfl,
        Nat.succ_pos 1, fun _ _ => rfl⟩
      intro n hn
      rw [List.mem_singleton.mp hn]
      exact Nat.lt_succ_self 1
  | false =>
      refine ⟨tablesInit, bindRequest pars,
        by rw [mainloopStart, bindRequest, hrole]; rfl, ?_, rfl⟩
      rw [Ledger.start, hrole]
      exact ⟨⟨nofun, nofun⟩, hrep, fun _ => ⟨fun _ => rfl, fun _ => rfl⟩,
        List.nodup_nil, fun n hn => (nomatch hn), fun _ _ hn => (nomatch hn),
        fun _ hesme => absurd (hrole.symm.trans hesme) nofun, Nat.succ_pos 0,
        fun _ _ => rfl⟩

/-- **THE NUMBERS OF A SESSION**: an ESME begins with its bind request, which has
    number 1.  A run whose steps meet the condition goes on as the numbers say, up
    to a stop that they allow, and in every state no two requests sent have the
    same one. -/
theorem smpp_numbers (pars : EsmePars) (k : Nat) (s : State Comp) (os : List (Output Comp))
    (hstart : mainloopStart pars = .ok (s, os)) (is : List (Input Comp))
    (hguard : Guarded (mainloop pars k) (Guard pars k) s is) :
    os = bindRequest pars
      ∧ Follows (mainloop pars k) (SmppAllowed pars k) (SmppStops pars k)
        (fun _ g => g.requests.Nodup) s (Ledger.start pars) is := by
  obtain ⟨s', os', hstart', hsession, hbind⟩ := (session_start pars :
    ∃ (s : State Comp) (os : List (Output Comp)), _)
  rw [hstart] at hstart'
  obtain ⟨rfl, rfl⟩ := Prod.mk.inj (Except.ok.inj hstart')
  refine ⟨hbind, (follows_of_guarded (R := Session pars) ?_ is s (Ledger.start pars) hsession
    hguard).imp (fun s g h => h.nodup)⟩
  intro s g i h hg
  refine stepFollows_of ?_
  exact mainloop_followed i h hg

end Runs

/-- An ESME in a mode, and where it waits for the response to its bind request. -/
def esme (mode : EsmeMode) : EsmePars := ⟨mode, ⟨['t', 'e', 's', 't'], []⟩, true⟩

/-- The state after the bind. -/
def boundState : State Nat := { (tablesInit : State Nat) with gSeq := 2 }

/-- A response to the bind request, a request of client 7, an ENQUIRE-LINK that
    happens to have the next number, and the response to the request. -/
def transceiverSession : List (Input Nat) :=
  [.rx 4 ⟨.bindTransceiverResp, esmeRok, 1, .bindResp []⟩,
   .client 7 ⟨.submitSm, esmeRok, 0, .other [1]⟩,
   .rx 4 ⟨.enquireLink, esmeRok, 3, .enquireLink⟩,
   .rx 4 ⟨.submitSmResp, esmeRok, 2, .other [2]⟩]

/-- The bind request of such an ESME. -/
def transceiverBind : List (Output Nat) :=
  [.smpp { tsSmppBind .transceiver ⟨['t', 'e', 's', 't'], []⟩ with seqNum := 1 }]

theorem smpp_numbers_transceiverSession :
    mainloopStart (esme .transceiver) = .ok (boundState, transceiverBind)
      ∧ Guarded (mainloop (esme .transceiver) 4) (Guard (esme .transceiver) 4) boundState
        transceiverSession
      ∧ transceiverBind = bindRequest (esme .transceiver)
      ∧ Follows (mainloop (esme .transceiver) 4) (SmppAllowed (esme .transceiver) 4)
        (SmppStops (esme .transceiver) 4) (fun _ g => g.requests.Nodup) boundState
        (Ledger.start (esme .transceiver)) transceiverSession :=
  have hguard : Guarded (mainloop (esme .transceiver) 4) (Guard (esme .transceiver) 4)
      boundState transceiverSession := by decide +kernel
  ⟨rfl, hguard, smpp_numbers (esme .transceiver) 4 boundState transceiverBind rfl
    transceiverSession hguard⟩

/-- The response to the bind request of a transmitter, with its number. -/
def bindRespOne : SmppPdu := ⟨.bindTransmitterResp, esmeRok, 1, .bindResp []⟩

/-- An ENQUIRE-LINK of the peer, with number 77. -/
def enquire77 : SmppPdu := ⟨.enquireLink, esmeRok, 77, .enquireLink⟩

theorem bindResp_refused_enquire_misnumbered :
    (¬ Follows (mainloop (esme .transmitter) 4) (SmppAllowed (esme .transmitter) 4)
      (SmppStops (esme .transmitter) 4) (fun _ g => g.requests.Nodup) boundState
      (Ledger.start (esme .transmitter)) [.rx 4 bindRespOne])
    ∧ ¬ Follows (mainloop (esme .transceiver) 4) (SmppAllowed (esme .transceiver) 4)
      (SmppStops (esme .transceiver) 4) (fun _ g => g.requests.Nodup)
      { boundState with phase := .main }
      { (Ledger.start (esme .transceiver)) with isBound := true } [.rx 4 enquire77] := by
  constructor
  · have hstep : mainloop (esme .transmitter) 4 boundState (.rx 4 bindRespOne)
        = .error unexpectedSmpp := rfl
    refine not_follows_error hstep (fun hstops => ?_)
    exact (hstops rfl).2.1 rfl ⟨⟨rfl, rfl⟩, rfl⟩
  · have hstep : mainloop (esme .transceiver) 4 { boundState with phase := .main }
        (.rx 4 enquire77) = .ok ({ boundState with phase := .main, gSeq := 3 },
          [.smpp { tsSmppEnqLinkResp with seqNum := 2 }]) := rfl
    have hout : ∀ (g g' : Ledger Nat) o, g.isBound = true →
        SmppAllowed (esme .transceiver) 4 g (.rx 4 enquire77) g' o →
        o ≠ [.smpp { tsSmppEnqLinkResp with seqNum := 2 }] := by
      intro g g' o hbound hallowed heq
      cases hallowed with
      | binds hphase hbinds =>
          rw [hbound] at hphase
          exact nomatch hphase
      | enquireLink henquire => exact nomatch heq
      | indication hind => exact nomatch heq
      | response hresp hlive => exact nomatch heq
      | unknownResponse hresp hnone => exact nomatch heq
      | notYet hphase hi =>
          rw [hbound] at hphase
          exact nomatch hphase
    exact not_follows_cons hstep (fun g' hallowed => absurd rfl (hout _ g' _ rfl hallowed))

end OsmoSmpp
