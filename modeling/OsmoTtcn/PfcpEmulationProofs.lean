import OsmoTtcn.IndexListProofs
import OsmoTtcn.KeyedListProofs
import OsmoTtcn.SpecRunProofs
import OsmoTtcn.TitanProofs

/-! # Routing of the PFCP emulation

    `PFCP_Emulation` stands between one peer and any number of clients.  What a
    client sends is remembered by its sequence number, so that the response
    comes back to it; what the peer sends on its own goes to who subscribed for
    its SEID, or else to all who subscribed for broadcast.

    A response of a client is remembered as well, under a number that the peer
    chose, and what the peer sends is looked up by its number whether it is a
    response or not.  `pfcp_routing` proves the routing right of every run in
    which the two kinds of numbers do not meet. -/

namespace OsmoPfcp

open OsmoTitan IndexList KeyedList SpecRun

-- ── PDUs ─────────────────────────────────────────────────────────────────────

/-- `Recovery_Time_Stamp` -/
structure RecoveryTimeStamp where
  elementIdentifier : Nat
  lengthIndicator : Nat
  timeValue : Nat
  deriving DecidableEq

/-- The alternatives that a template of `PFCP_Templates` names, and the others.
    The IEs of all but the heartbeat are passed on unread. -/
inductive MessageBody (Ies : Type) where
  | heartbeatRequest (recoveryTimeStamp : RecoveryTimeStamp)
  | heartbeatResponse (recoveryTimeStamp : RecoveryTimeStamp)
  | pfcpAssociationSetupRequest (ies : Ies)
  | pfcpAssociationSetupResponse (ies : Ies)
  | pfcpAssociationReleaseRequest (ies : Ies)
  | pfcpAssociationReleaseResponse (ies : Ies)
  | pfcpSessionEstablishmentRequest (ies : Ies)
  | pfcpSessionEstablishmentResponse (ies : Ies)
  | pfcpSessionModificationRequest (ies : Ies)
  | pfcpSessionModificationResponse (ies : Ies)
  | pfcpSessionDeletionRequest (ies : Ies)
  | pfcpSessionDeletionResponse (ies : Ies)
  | otherRequest (ies : Ies)
  | otherResponse (ies : Ies)
  deriving DecidableEq

/-- `PDU_PFCP` -/
structure PduPfcp (Ies : Type) where
  sFlag : Bool
  mp : Bool
  spare : BitVec 3
  version : Nat
  messageType : Nat
  lengthIndicator : Nat
  seid : Option (BitVec 64)
  sequenceNumber : Nat
  spare2 : BitVec 4
  mpOrSpare : BitVec 4
  messageBody : MessageBody Ies
  deriving DecidableEq

/-- `PFCP_Peer` -/
structure PfcpPeer where
  connId : Int
  remoteName : List Char
  remotePort : Nat
  deriving DecidableEq

/-- `PFCP_Unitdata` -/
structure PfcpUnitdata (Ies : Type) where
  peer : PfcpPeer
  pdu : PduPfcp Ies
  deriving DecidableEq

section Pdus

variable {Ies : Type}

/-- Which messages are responses. -/
def MessageBody.isResponse : MessageBody Ies → Bool
  | .heartbeatResponse _ | .pfcpAssociationSetupResponse _
  | .pfcpAssociationReleaseResponse _ | .pfcpSessionEstablishmentResponse _
  | .pfcpSessionModificationResponse _ | .pfcpSessionDeletionResponse _
  | .otherResponse _ => true
  | _ => false

/-- Whether a template `tr_PFCP_Heartbeat_Req` matches. -/
def trPfcpHeartbeatReq (pdu : PduPfcp Ies) : Bool :=
  decide (pdu.version = 1) && match pdu.messageBody with
    | .heartbeatRequest ts => decide (ts.elementIdentifier = 96)
    | _ => false

/-- `ts_PFCP_Heartbeat_Resp` -/
def tsPfcpHeartbeatResp (recoveryTimeStamp : Nat) : PduPfcp Ies :=
  { sFlag := false, mp := false, spare := 0, version := 1, messageType := 0
    lengthIndicator := 0, seid := none, sequenceNumber := 0, spare2 := 0
    mpOrSpare := 0, messageBody := .heartbeatResponse ⟨96, 0, recoveryTimeStamp⟩ }

end Pdus

-- ── The component ────────────────────────────────────────────────────────────

/-- `PFCPEM_conn` -/
structure PfcpemConn (Comp : Type) where
  vcConn : Comp
  seid : Option (BitVec 64)
  seqnr : Option Nat
  deriving DecidableEq

/-- What `f_init` sets and nothing changes. -/
structure Fixed where
  answerHeartbeatReq : Bool
  pfcpRemoteIp : List Char
  pfcpRemotePort : Nat
  gPfcpConnId : Int
  gRecoveryTimestamp : Nat

/-- `PFCP_Emulation_CT` -/
structure PfcpEmulationCT (Comp : Type) where
  gConnsBcast : List (PfcpemConn Comp)
  gConnsSeqnr : List (PfcpemConn Comp)
  gConnsSeid : List (PfcpemConn Comp)
  gNextSequenceNrState : Nat

/-- What a round of `main` can start with. -/
inductive Input (Comp Ies : Type) where
  | pfcp (ud : PfcpUnitdata Ies)
  | client (vcConn : Comp) (pdu : PduPfcp Ies)
  | subscribeBcast (vcConn : Comp)
  | unsubscribeBcast (vcConn : Comp)
  | subscribeSeid (vcConn : Comp) (seid : BitVec 64)
  | unsubscribeSeid (vcConn : Comp) (seid : BitVec 64)
  | getRecoveryTimestamp (vcConn : Comp)

/-- The replies of `PFCPEM_PROC_PT`. -/
inductive Reply where
  | subscribeBcast (success : Bool)
  | unsubscribeBcast (success : Bool)
  | subscribeSeid (seid : BitVec 64) (success : Bool)
  | unsubscribeSeid (seid : BitVec 64) (success : Bool)
  | getRecoveryTimestamp (rts : Nat)
  deriving DecidableEq

/-- What a round of `main` sends, and on which port. -/
inductive Output (Comp Ies : Type) where
  | pfcp (ud : PfcpUnitdata Ies)
  | client (vcConn : Comp) (pdu : PduPfcp Ies)
  | reply (vcConn : Comp) (r : Reply)
  deriving DecidableEq

section Functions

variable {Comp Ies : Type}

/-- The new counter, which is also the number. -/
def fPfcpemNextSequenceNr (gNextSequenceNrState : Nat) : Nat :=
  if 16777215 < gNextSequenceNrState + 1 then 1 else gNextSequenceNrState + 1

/-- `f_PFCPEM_conn_by_seqnr` -/
def fPfcpemConnBySeqnr (conns : List (PfcpemConn Comp)) (seqnr : Nat) : Option Comp :=
  (conns.find? (fun c => decide (c.seqnr = some seqnr))).map PfcpemConn.vcConn

/-- `f_PFCPEM_conn_by_seid` -/
def fPfcpemConnBySeid (conns : List (PfcpemConn Comp)) (seid : BitVec 64) :
    Option Comp :=
  (conns.find? (fun c => decide (c.seid = some seid))).map PfcpemConn.vcConn

/-- A connection is added, unless one of the list claims the same. -/
def connsAdd (conns : List (PfcpemConn Comp)) (claims : PfcpemConn Comp → Bool)
    (conn : PfcpemConn Comp) : List (PfcpemConn Comp) × Bool :=
  if conns.any claims then (conns, false) else (conns ++ [conn], true)

/-- The list without the connections that claim it, if there are any. -/
def connsDel (conns : List (PfcpemConn Comp)) (claims : PfcpemConn Comp → Bool) :
    List (PfcpemConn Comp) × Bool :=
  if (conns.filter (fun c => !claims c)).length = conns.length then (conns, false)
  else (conns.filter (fun c => !claims c), true)

/-- `f_PFCPEM_conns_bcast_add` -/
def fPfcpemConnsBcastAdd [DecidableEq Comp] (conns : List (PfcpemConn Comp))
    (vcConn : Comp) : List (PfcpemConn Comp) × Bool :=
  connsAdd conns (fun c => decide (c.vcConn = vcConn)) ⟨vcConn, none, none⟩

/-- `f_PFCPEM_conns_bcast_del` -/
def fPfcpemConnsBcastDel [DecidableEq Comp] (conns : List (PfcpemConn Comp))
    (vcConn : Comp) : List (PfcpemConn Comp) × Bool :=
  connsDel conns (fun c => decide (c.vcConn = vcConn))

/-- `f_PFCPEM_conns_seqnr_add` -/
def fPfcpemConnsSeqnrAdd (conns : List (PfcpemConn Comp)) (vcConn : Comp)
    (seqnr : Nat) : List (PfcpemConn Comp) × Bool :=
  connsAdd conns (fun c => decide (c.seqnr = some seqnr)) ⟨vcConn, none, some seqnr⟩

/-- `f_PFCPEM_conns_seqnr_del` -/
def fPfcpemConnsSeqnrDel (conns : List (PfcpemConn Comp)) (seqnr : Nat) :
    List (PfcpemConn Comp) × Bool :=
  connsDel conns (fun c => decide (c.seqnr = some seqnr))

/-- `f_PFCPEM_conns_seid_add` -/
def fPfcpemConnsSeidAdd (conns : List (PfcpemConn Comp)) (vcConn : Comp)
    (seid : BitVec 64) : List (PfcpemConn Comp) × Bool :=
  connsAdd conns (fun c => decide (c.seid = some seid)) ⟨vcConn, some seid, none⟩

/-- `f_PFCPEM_conns_seid_del` -/
def fPfcpemConnsSeidDel (conns : List (PfcpemConn Comp)) (seid : BitVec 64) :
    List (PfcpemConn Comp) × Bool :=
  connsDel conns (fun c => decide (c.seid = some seid))

variable (fixed : Fixed) (s : PfcpEmulationCT Comp)

/-- Who gets a PDU of the peer, and the list of numbers after that. -/
def fPfcpemConnForPdu (pdu : PduPfcp Ies) :
    Except Fault (Option Comp × List (PfcpemConn Comp)) :=
  match fPfcpemConnBySeqnr s.gConnsSeqnr pdu.sequenceNumber with
  | some vcConn =>
      .ok (some vcConn, (fPfcpemConnsSeqnrDel s.gConnsSeqnr pdu.sequenceNumber).1)
  | none =>
      -- if there is a SEID, we can look it up
      if pdu.sFlag then
        (bound pdu.seid).map (fun seid =>
          (fPfcpemConnBySeid s.gConnsSeid seid, s.gConnsSeqnr))
      else .ok (none, s.gConnsSeqnr)

/-- The heartbeat request that is answered here. -/
def answered (pdu : PduPfcp Ies) : Bool :=
  fixed.answerHeartbeatReq && trPfcpHeartbeatReq pdu

/-- A heartbeat is answered with its own number. -/
def heartbeatAnswer (pdu : PduPfcp Ies) : PduPfcp Ies :=
  { tsPfcpHeartbeatResp fixed.gRecoveryTimestamp with
    sequenceNumber := pdu.sequenceNumber }

/-- Both alternatives for the port `PFCP`. -/
def rxPfcp (ud : PfcpUnitdata Ies) :
    Except Fault (PfcpEmulationCT Comp × List (Output Comp Ies)) :=
  if answered fixed ud.pdu then
    .ok (s, [.pfcp { ud with pdu := heartbeatAnswer fixed ud.pdu }])
  else
    (fPfcpemConnForPdu s ud.pdu).map (fun r =>
      ({ s with gConnsSeqnr := r.2 },
        match r.1 with
        | some vcConn => [.client vcConn ud.pdu]
        | none => s.gConnsBcast.map (fun c => .client c.vcConn ud.pdu)))

/-- The number of a PDU of a client, and the counter after it. -/
def clientNumber (pdu : PduPfcp Ies) : Nat × Nat :=
  if pdu.sequenceNumber = 0 then
    (fPfcpemNextSequenceNr s.gNextSequenceNrState,
      fPfcpemNextSequenceNr s.gNextSequenceNrState)
  else (pdu.sequenceNumber, s.gNextSequenceNrState)

/-- The PDU as it goes to the peer. -/
def toPeer (pdu : PduPfcp Ies) (seqnr : Nat) : Output Comp Ies :=
  .pfcp { peer := ⟨fixed.gPfcpConnId, fixed.pfcpRemoteIp, fixed.pfcpRemotePort⟩
          pdu := { pdu with sequenceNumber := seqnr } }

/-- The alternative for the port `CLIENT`. -/
def rxClient (vcConn : Comp) (pdu : PduPfcp Ies) :
    PfcpEmulationCT Comp × List (Output Comp Ies) :=
  let number := clientNumber s pdu
  -- route the response back to this vc_conn; nobody looks at the result
  ({ s with
      gNextSequenceNrState := number.2
      gConnsSeqnr := (fPfcpemConnsSeqnrAdd s.gConnsSeqnr vcConn number.1).1 },
    [toPeer fixed pdu number.1])

end Functions

/-- One round of `main`. -/
def mainStep {Comp Ies : Type} [DecidableEq Comp] (fixed : Fixed)
    (s : PfcpEmulationCT Comp) : Input Comp Ies →
    Except Fault (PfcpEmulationCT Comp × List (Output Comp Ies))
  | .pfcp ud => rxPfcp fixed s ud
  | .client vcConn pdu => .ok (rxClient fixed s vcConn pdu)
  | .subscribeBcast vcConn =>
      let r := fPfcpemConnsBcastAdd s.gConnsBcast vcConn
      .ok ({ s with gConnsBcast := r.1 }, [.reply vcConn (.subscribeBcast r.2)])
  | .unsubscribeBcast vcConn =>
      let r := fPfcpemConnsBcastDel s.gConnsBcast vcConn
      .ok ({ s with gConnsBcast := r.1 }, [.reply vcConn (.unsubscribeBcast r.2)])
  | .subscribeSeid vcConn seid =>
      let r := fPfcpemConnsSeidAdd s.gConnsSeid vcConn seid
      .ok ({ s with gConnsSeid := r.1 }, [.reply vcConn (.subscribeSeid seid r.2)])
  | .unsubscribeSeid vcConn seid =>
      let r := fPfcpemConnsSeidDel s.gConnsSeid seid
      .ok ({ s with gConnsSeid := r.1 }, [.reply vcConn (.unsubscribeSeid seid r.2)])
  | .getRecoveryTimestamp vcConn =>
      .ok (s, [.reply vcConn (.getRecoveryTimestamp fixed.gRecoveryTimestamp)])


/-- The component after `f_init`, with the number that is drawn. -/
def pfcpInit {Comp : Type} (drawn : Fin 1000) : PfcpEmulationCT Comp :=
  { gConnsBcast := [], gConnsSeqnr := [], gConnsSeid := []
    gNextSequenceNrState := (1 + drawn) * 10000 }

-- ── What the emulation is for ────────────────────────────────────────────────

/-- The requests that wait for their response, by number, and who subscribed. -/
structure Routing (Comp : Type) where
  outstanding : Nat → Option Comp
  seid : BitVec 64 → Option Comp
  bcast : List Comp

/-- Nothing is outstanding and nobody has subscribed. -/
def noRouting {Comp : Type} : Routing Comp :=
  { outstanding := fun _ => none, seid := fun _ => none, bcast := [] }

section Spec

variable {Comp Ies : Type}

/-- Who gets a PDU that is no response to a request: the client that subscribed
    for its SEID, or else all that subscribed for broadcast. -/
def Routing.destinations (g : Routing Comp) (pdu : PduPfcp Ies) : List Comp :=
  match if pdu.sFlag then pdu.seid.bind g.seid else none with
  | some vcConn => [vcConn]
  | none => g.bcast

/-- A number for a PDU of a client: its own, or a new one for the number 0. -/
def Numbered (pdu : PduPfcp Ies) (n : Nat) : Prop :=
  (pdu.sequenceNumber ≠ 0 ∧ n = pdu.sequenceNumber)
    ∨ (pdu.sequenceNumber = 0 ∧ 0 < n ∧ n ≤ 16777215)

variable [DecidableEq Comp] (fixed : Fixed)

/-- **REQUESTS AND RESPONSES OF BOTH SIDES**: what may happen on each input.
    Only a request of a client is remembered, and only a response of the peer is
    looked up by its number, once.  What goes to the peer is the PDU of the
    client under the number that is remembered. -/
inductive RoutingAllowed : Routing Comp → Input Comp Ies → Routing Comp →
    List (Output Comp Ies) → Prop
  | heartbeat {g ud} (hans : answered fixed ud.pdu = true) :
      RoutingAllowed g (.pfcp ud) g
        [.pfcp ⟨ud.peer, { tsPfcpHeartbeatResp fixed.gRecoveryTimestamp with
          sequenceNumber := ud.pdu.sequenceNumber }⟩]
  | response {g ud vcConn} (hans : answered fixed ud.pdu = false)
      (hresp : ud.pdu.messageBody.isResponse = true)
      (hout : g.outstanding ud.pdu.sequenceNumber = some vcConn) :
      RoutingAllowed g (.pfcp ud)
        { g with
          outstanding := Function.update g.outstanding ud.pdu.sequenceNumber none }
        [.client vcConn ud.pdu]
  | routed {g ud} (hans : answered fixed ud.pdu = false)
      (hnone : ud.pdu.messageBody.isResponse = true →
        g.outstanding ud.pdu.sequenceNumber = none) :
      RoutingAllowed g (.pfcp ud) g
        ((g.destinations ud.pdu).map (fun vcConn => .client vcConn ud.pdu))
  | request {g vcConn pdu n} (hreq : pdu.messageBody.isResponse = false)
      (hnum : Numbered pdu n)
      (hfree : g.outstanding n = none ∨ g.outstanding n = some vcConn) :
      RoutingAllowed g (.client vcConn pdu)
        { g with outstanding := Function.update g.outstanding n (some vcConn) }
        [.pfcp ⟨⟨fixed.gPfcpConnId, fixed.pfcpRemoteIp, fixed.pfcpRemotePort⟩,
          { pdu with sequenceNumber := n }⟩]
  | answer {g vcConn pdu n} (hresp : pdu.messageBody.isResponse = true)
      (hnum : Numbered pdu n) :
      RoutingAllowed g (.client vcConn pdu) g
        [.pfcp ⟨⟨fixed.gPfcpConnId, fixed.pfcpRemoteIp, fixed.pfcpRemotePort⟩,
          { pdu with sequenceNumber := n }⟩]
  | subscribeBcast {g vcConn} :
      RoutingAllowed g (.subscribeBcast vcConn)
        { g with bcast := addUnique g.bcast vcConn }
        [.reply vcConn (.subscribeBcast (decide (vcConn ∉ g.bcast)))]
  | unsubscribeBcast {g vcConn} :
      RoutingAllowed g (.unsubscribeBcast vcConn)
        { g with bcast := del g.bcast vcConn }
        [.reply vcConn (.unsubscribeBcast (decide (vcConn ∈ g.bcast)))]
  | subscribeSeid {g vcConn seid} (hfree : g.seid seid = none) :
      RoutingAllowed g (.subscribeSeid vcConn seid)
        { g with seid := Function.update g.seid seid (some vcConn) }
        [.reply vcConn (.subscribeSeid seid true)]
  | claimedSeid {g vcConn seid} (htaken : g.seid seid ≠ none) :
      RoutingAllowed g (.subscribeSeid vcConn seid) g
        [.reply vcConn (.subscribeSeid seid false)]
  | unsubscribeSeid {g vcConn seid} :
      RoutingAllowed g (.unsubscribeSeid vcConn seid)
        { g with seid := Function.update g.seid seid none }
        [.reply vcConn (.unsubscribeSeid seid (g.seid seid).isSome)]
  | timestamp {g vcConn} :
      RoutingAllowed g (.getRecoveryTimestamp vcConn) g
        [.reply vcConn (.getRecoveryTimestamp fixed.gRecoveryTimestamp)]

omit [DecidableEq Comp] in
/-- Where the test may end: with a PDU of the peer, not answered by number, that
    says it has a SEID and has none. -/
def RoutingStops (g : Routing Comp) : Input Comp Ies → Prop
  | .pfcp ud => answered fixed ud.pdu = false
      ∧ (ud.pdu.messageBody.isResponse = true →
        g.outstanding ud.pdu.sequenceNumber = none)
      ∧ ud.pdu.sFlag = true ∧ ud.pdu.seid = none
  | _ => False

omit [DecidableEq Comp] in
/-- The list of numbers has one entry for every request that waits for its
    response and no other, and the lists of subscribers have the subscribers. -/
structure Routes (s : PfcpEmulationCT Comp) (g : Routing Comp) : Prop where
  seqnr : Represents PfcpemConn.seqnr PfcpemConn.vcConn s.gConnsSeqnr g.outstanding
  seid : Represents PfcpemConn.seid PfcpemConn.vcConn s.gConnsSeid g.seid
  bcast : s.gConnsBcast.map PfcpemConn.vcConn = g.bcast
  nodup : g.bcast.Nodup

/-- What an input has to meet: a request of the peer bears no number of the
    list, a request of a client no number of another client, and a response of a
    client a number that is in the list already. -/
def RoutingGuard (s : PfcpEmulationCT Comp) : Input Comp Ies → Prop
  | .pfcp ud => answered fixed ud.pdu = true
      ∨ ud.pdu.messageBody.isResponse = true
      ∨ fPfcpemConnBySeqnr s.gConnsSeqnr ud.pdu.sequenceNumber = none
  | .client vcConn pdu =>
      if pdu.messageBody.isResponse = true then
        fPfcpemConnBySeqnr s.gConnsSeqnr (clientNumber s pdu).1 ≠ none
      else fPfcpemConnBySeqnr s.gConnsSeqnr (clientNumber s pdu).1 = none
        ∨ fPfcpemConnBySeqnr s.gConnsSeqnr (clientNumber s pdu).1 = some vcConn
  | _ => True

instance (s : PfcpEmulationCT Comp) : (input : Input Comp Ies) →
    Decidable (RoutingGuard fixed s input)
  | .pfcp ud => inferInstanceAs (Decidable (answered fixed ud.pdu = true
      ∨ ud.pdu.messageBody.isResponse = true
      ∨ fPfcpemConnBySeqnr s.gConnsSeqnr ud.pdu.sequenceNumber = none))
  | .client vcConn pdu => inferInstanceAs (Decidable
      (if pdu.messageBody.isResponse = true then
        fPfcpemConnBySeqnr s.gConnsSeqnr (clientNumber s pdu).1 ≠ none
      else fPfcpemConnBySeqnr s.gConnsSeqnr (clientNumber s pdu).1 = none
        ∨ fPfcpemConnBySeqnr s.gConnsSeqnr (clientNumber s pdu).1 = some vcConn))
  | .subscribeBcast _ | .unsubscribeBcast _ | .subscribeSeid _ _
  | .unsubscribeSeid _ _ | .getRecoveryTimestamp _ => .isTrue trivial

end Spec

-- ── The lists of connections ─────────────────────────────────────────────────

section Lists

variable {Comp κ : Type} {conns : List (PfcpemConn Comp)} {conn : PfcpemConn Comp}
variable {claims : PfcpemConn Comp → Bool}

/-- What nobody claims is added. -/
theorem connsAdd_free (h : ∀ c ∈ conns, claims c = false) :
    connsAdd conns claims conn = (conns ++ [conn], true) := by
  have hnone : conns.any claims = false := List.any_eq_false.mpr (by simpa using h)
  rw [connsAdd, hnone]
  rfl

/-- What somebody claims is not. -/
theorem connsAdd_claimed {c : PfcpemConn Comp} (hc : c ∈ conns)
    (h : claims c = true) : connsAdd conns claims conn = (conns, false) :=
  if_pos (List.any_eq_true.mpr ⟨c, hc, h⟩)

/-- Nothing is lost where nothing is found. -/
theorem connsDel_fst : (connsDel conns claims).1 = conns.filter (fun c => !claims c) := by
  rw [connsDel]
  by_cases h : (conns.filter (fun c => !claims c)).length = conns.length
  · rw [if_pos h]
    exact (List.filter_eq_self.mpr (List.length_filter_eq_length_iff.mp h)).symm
  · rw [if_neg h]

/-- Deleting tells whether something was there. -/
theorem connsDel_snd : (connsDel conns claims).2 = conns.any claims := by
  rw [connsDel]
  by_cases h : (conns.filter (fun c => !claims c)).length = conns.length
  · rw [if_pos h]
    have hall := List.length_filter_eq_length_iff.mp h
    exact (List.any_eq_false.mpr (by simpa using hall)).symm
  · rw [if_neg h]
    symm
    by_contra hany
    have hall := List.any_eq_false.mp (Bool.eq_false_iff.mpr hany)
    exact h (List.length_filter_eq_length_iff.mpr (by simpa using hall))

variable [DecidableEq κ] {key : PfcpemConn Comp → Option κ} {g : κ → Option Comp}
variable {k : κ}

/-- A claim of a key that is free. -/
theorem represents_connsAdd (conn : PfcpemConn Comp)
    (h : Represents key PfcpemConn.vcConn conns g)
    (hg : g k = none) (hk : key conn = some k) :
    connsAdd conns (fun c => decide (key c = some k)) conn = (conns ++ [conn], true)
      ∧ Represents key PfcpemConn.vcConn (conns ++ [conn])
        (Function.update g k (some conn.vcConn)) := by
  have hfree := h.get_none.mp hg
  exact ⟨connsAdd_free (fun c hc => decide_eq_false (hfree c hc)), h.append hk hg⟩

/-- A claim of a key that is taken. -/
theorem represents_connsAdd_taken (h : Represents key PfcpemConn.vcConn conns g)
    (hg : g k ≠ none) :
    connsAdd conns (fun c => decide (key c = some k)) conn = (conns, false) := by
  obtain ⟨v, hv⟩ := Option.ne_none_iff_exists'.mp hg
  obtain ⟨c, hc, hkey, -⟩ := (h.holds k v).mp hv
  exact connsAdd_claimed hc (decide_eq_true hkey)

/-- A key is given back. -/
theorem represents_connsDel (h : Represents key PfcpemConn.vcConn conns g) :
    Represents key PfcpemConn.vcConn
        (connsDel conns (fun c => decide (key c = some k))).1 (Function.update g k none)
      ∧ (connsDel conns (fun c => decide (key c = some k))).2 = (g k).isSome := by
  constructor
  · rw [connsDel_fst]
    exact h.filter k (fun r _ => by simp)
  · rw [connsDel_snd]
    cases hg : g k with
    | none =>
        have hfree := h.get_none.mp hg
        exact List.any_eq_false.mpr (fun c hc hdec => hfree c hc (of_decide_eq_true hdec))
    | some v =>
        obtain ⟨c, hc, hkey, -⟩ := (h.holds k v).mp hg
        exact List.any_eq_true.mpr ⟨c, hc, decide_eq_true hkey⟩

end Lists

-- ── Every input keeps them ───────────────────────────────────────────────────

/-- A number that is given is the one of the PDU, or a new one. -/
theorem numbered_clientNumber {Comp Ies : Type} (s : PfcpEmulationCT Comp)
    (pdu : PduPfcp Ies) : Numbered pdu (clientNumber s pdu).1 := by
  rw [clientNumber]
  by_cases hzero : pdu.sequenceNumber = 0
  · rw [if_pos hzero]
    refine Or.inr ⟨hzero, ?_⟩
    rw [fPfcpemNextSequenceNr]
    split <;> omega
  · rw [if_neg hzero]
    exact Or.inl ⟨hzero, rfl⟩

section Steps

variable {Comp Ies : Type} [DecidableEq Comp] {fixed : Fixed}
variable {s : PfcpEmulationCT Comp} {g : Routing Comp}

omit [DecidableEq Comp] in
/-- Who has sent a request is found by its number. -/
theorem Routes.connBySeqnr (h : Routes s g) (n : Nat) :
    fPfcpemConnBySeqnr s.gConnsSeqnr n = g.outstanding n :=
  h.seqnr.holder n

omit [DecidableEq Comp] in
/-- Who has subscribed to a SEID is found by it. -/
theorem Routes.connBySeid (h : Routes s g) (seid : BitVec 64) :
    fPfcpemConnBySeid s.gConnsSeid seid = g.seid seid :=
  h.seid.holder seid

omit [DecidableEq Comp] in
/-- Who has subscribed to broadcasts is in the list. -/
theorem Routes.mem_bcast (h : Routes s g) (vcConn : Comp) :
    vcConn ∈ g.bcast ↔ ∃ c ∈ s.gConnsBcast, c.vcConn = vcConn := by
  rw [← h.bcast, List.mem_map]

/-- A PDU of the peer that is looked up by its number and found. -/
theorem Routes.rxFound {ud : PfcpUnitdata Ies} {vcConn : Comp} (h : Routes s g)
    (hans : answered fixed ud.pdu = false)
    (hresp : ud.pdu.messageBody.isResponse = true)
    (hout : g.outstanding ud.pdu.sequenceNumber = some vcConn) :
    StepFollows (mainStep fixed) (RoutingAllowed fixed)
      (RoutingStops fixed) Routes s g (.pfcp ud) := by
  have hfor : fPfcpemConnForPdu s ud.pdu = .ok (some vcConn,
      (fPfcpemConnsSeqnrDel s.gConnsSeqnr ud.pdu.sequenceNumber).1) := by
    rw [fPfcpemConnForPdu, h.connBySeqnr, hout]
  have hok : mainStep fixed s (.pfcp ud) = .ok
      ({ s with gConnsSeqnr :=
          (fPfcpemConnsSeqnrDel s.gConnsSeqnr ud.pdu.sequenceNumber).1 },
        [.client vcConn ud.pdu]) := by
    rw [mainStep, rxPfcp, hans, hfor]
    rfl
  have hdel := (represents_connsDel (k := ud.pdu.sequenceNumber) h.seqnr).1
  exact stepFollows_ok hok (RoutingAllowed.response hans hresp hout)
    ⟨hdel, h.seid, h.bcast, h.nodup⟩

/-- A PDU of the peer whose number is nobody's. -/
theorem Routes.rxRouted {ud : PfcpUnitdata Ies} (h : Routes s g)
    (hans : answered fixed ud.pdu = false)
    (hout : g.outstanding ud.pdu.sequenceNumber = none) :
    StepFollows (mainStep fixed) (RoutingAllowed fixed)
      (RoutingStops fixed) Routes s g (.pfcp ud) := by
  have hnone : ud.pdu.messageBody.isResponse = true →
      g.outstanding ud.pdu.sequenceNumber = none := fun _ => hout
  have hfor : fPfcpemConnForPdu s ud.pdu = if ud.pdu.sFlag then
      (bound ud.pdu.seid).map (fun seid => (g.seid seid, s.gConnsSeqnr))
      else .ok (none, s.gConnsSeqnr) := by
    rw [fPfcpemConnForPdu, h.connBySeqnr, hout]
    simp only [h.connBySeid]
  have hstep : mainStep fixed s (.pfcp ud) = (fPfcpemConnForPdu s ud.pdu).map (fun r =>
      ({ s with gConnsSeqnr := r.2 }, match r.1 with
        | some vcConn => [.client vcConn ud.pdu]
        | none => s.gConnsBcast.map (fun c => .client c.vcConn ud.pdu))) := by
    rw [mainStep, rxPfcp, hans]
    rfl
  -- the two ways to a destination end in the same list
  have hdest : ∀ found : Option Comp,
      found = (if ud.pdu.sFlag then ud.pdu.seid.bind g.seid else none) →
      (match found with
        | some vcConn => [Output.client vcConn ud.pdu]
        | none => s.gConnsBcast.map (fun c => .client c.vcConn ud.pdu))
      = (g.destinations ud.pdu).map (fun vcConn => .client vcConn ud.pdu) := by
    intro found hfound
    rw [Routing.destinations, ← hfound]
    cases found with
    | some vcConn => rfl
    | none =>
        show s.gConnsBcast.map _ = g.bcast.map _
        rw [← h.bcast, List.map_map]
        rfl
  have hdone : ∀ found : Option Comp,
      found = (if ud.pdu.sFlag then ud.pdu.seid.bind g.seid else none) →
      fPfcpemConnForPdu s ud.pdu = .ok (found, s.gConnsSeqnr) →
      StepFollows (mainStep fixed) (RoutingAllowed fixed)
        (RoutingStops fixed) Routes s g (.pfcp ud) := by
    intro found hfound hconn
    rw [hconn] at hstep
    have hok : mainStep fixed s (.pfcp ud) = .ok (s,
        (g.destinations ud.pdu).map (fun vcConn => .client vcConn ud.pdu)) := by
      rw [hstep, ← hdest found hfound]
      rfl
    exact stepFollows_ok hok (RoutingAllowed.routed hans hnone) h
  cases hflag : ud.pdu.sFlag with
  | false =>
      rw [hflag] at hfor
      exact hdone none (by rw [hflag]; rfl) hfor
  | true =>
      rw [hflag] at hfor
      cases hseid : ud.pdu.seid with
      | some seid =>
          rw [hseid] at hfor
          exact hdone (g.seid seid) (by rw [hflag, hseid]; rfl) hfor
      | none =>
          rw [hseid] at hfor
          have herr : mainStep fixed s (.pfcp ud) = .error .unbound := by
            rw [hstep, hfor]
            rfl
          exact stepFollows_error herr ⟨hans, hnone, hflag, hseid⟩

/-- A PDU of a client. -/
theorem Routes.rxClient {vcConn : Comp} {pdu : PduPfcp Ies} (h : Routes s g)
    (hguard : RoutingGuard fixed s (.client vcConn pdu)) :
    StepFollows (mainStep fixed) (RoutingAllowed fixed)
      (RoutingStops fixed) Routes s g (.client vcConn pdu) := by
  have hnum := numbered_clientNumber s pdu
  rw [RoutingGuard] at hguard
  simp only [h.connBySeqnr] at hguard
  have hok : mainStep fixed s (.client vcConn pdu) = .ok ({ s with
      gNextSequenceNrState := (clientNumber s pdu).2
      gConnsSeqnr := (fPfcpemConnsSeqnrAdd s.gConnsSeqnr vcConn
        (clientNumber s pdu).1).1 }, [toPeer fixed pdu (clientNumber s pdu).1]) := rfl
  generalize (clientNumber s pdu).1 = n at hnum hguard hok
  have htaken : g.outstanding n ≠ none →
      (fPfcpemConnsSeqnrAdd s.gConnsSeqnr vcConn n).1 = s.gConnsSeqnr :=
    fun hn => congrArg Prod.fst (represents_connsAdd_taken h.seqnr hn)
  cases hresp : pdu.messageBody.isResponse with
  | true =>
      rw [hresp, if_pos rfl] at hguard
      rw [htaken hguard] at hok
      exact stepFollows_ok hok (RoutingAllowed.answer hresp hnum)
        ⟨h.seqnr, h.seid, h.bcast, h.nodup⟩
  | false =>
      rw [hresp, if_neg Bool.false_ne_true] at hguard
      refine stepFollows_ok hok (RoutingAllowed.request hresp hnum hguard)
        ⟨?_, h.seid, h.bcast, h.nodup⟩
      rcases hguard with hfree | hown
      · obtain ⟨hadd, hrep⟩ := represents_connsAdd ⟨vcConn, none, some n⟩
          h.seqnr hfree rfl
        rw [fPfcpemConnsSeqnrAdd, hadd]
        exact hrep
      · have hsame : Function.update g.outstanding n (some vcConn) = g.outstanding := by
          rw [← hown]
          exact Function.update_eq_self n g.outstanding
        have hne : g.outstanding n ≠ none := by
          rw [hown]
          exact Option.some_ne_none vcConn
        rw [htaken hne]
        show Represents _ _ _ (Function.update g.outstanding n (some vcConn))
        rw [hsame]
        exact h.seqnr

/-- A subscription to broadcasts, or one that is there already. -/
theorem Routes.subscribeBcast {vcConn : Comp} (h : Routes s g) :
    StepFollows (mainStep fixed) (RoutingAllowed fixed) (RoutingStops fixed) Routes s g
      (.subscribeBcast vcConn : Input Comp Ies) := by
  by_cases hin : vcConn ∈ g.bcast
  · obtain ⟨c, hc, hcc⟩ := (h.mem_bcast vcConn).mp hin
    have hadd : fPfcpemConnsBcastAdd s.gConnsBcast vcConn = (s.gConnsBcast, false) :=
      connsAdd_claimed hc (decide_eq_true hcc)
    have hok : mainStep fixed s (.subscribeBcast vcConn : Input Comp Ies)
        = .ok (s, [.reply vcConn (.subscribeBcast (decide (vcConn ∉ g.bcast)))]) := by
      rw [mainStep, hadd, decide_eq_false (not_not_intro hin)]
    refine stepFollows_ok hok RoutingAllowed.subscribeBcast
      ⟨h.seqnr, h.seid, ?_, nodup_addUnique h.nodup⟩
    rw [h.bcast, addUnique, if_pos hin]
  · have hfree : ∀ c ∈ s.gConnsBcast, decide (c.vcConn = vcConn) = false :=
      fun c hc => decide_eq_false
        (fun hcc => hin ((h.mem_bcast vcConn).mpr ⟨c, hc, hcc⟩))
    have hadd : fPfcpemConnsBcastAdd s.gConnsBcast vcConn
        = (s.gConnsBcast ++ [⟨vcConn, none, none⟩], true) := connsAdd_free hfree
    have hok : mainStep fixed s (.subscribeBcast vcConn : Input Comp Ies)
        = .ok ({ s with gConnsBcast := s.gConnsBcast ++ [⟨vcConn, none, none⟩] },
          [.reply vcConn (.subscribeBcast (decide (vcConn ∉ g.bcast)))]) := by
      rw [mainStep, hadd, decide_eq_true hin]
    refine stepFollows_ok hok RoutingAllowed.subscribeBcast
      ⟨h.seqnr, h.seid, ?_, nodup_addUnique h.nodup⟩
    show (s.gConnsBcast ++ [_]).map PfcpemConn.vcConn = _
    rw [List.map_append, h.bcast, addUnique, if_neg hin]
    rfl

/-- A subscription to broadcasts is given up, if there was one. -/
theorem Routes.unsubscribeBcast {vcConn : Comp} (h : Routes s g) :
    StepFollows (mainStep fixed) (RoutingAllowed fixed) (RoutingStops fixed) Routes s g
      (.unsubscribeBcast vcConn : Input Comp Ies) := by
  have hsnd : (fPfcpemConnsBcastDel s.gConnsBcast vcConn).2
      = decide (vcConn ∈ g.bcast) := by
    rw [fPfcpemConnsBcastDel, connsDel_snd, Bool.eq_iff_iff, List.any_eq_true,
      decide_eq_true_iff, h.mem_bcast]
    exact exists_congr (fun c => and_congr_right' decide_eq_true_iff)
  have hok : mainStep fixed s (.unsubscribeBcast vcConn : Input Comp Ies)
      = .ok ({ s with gConnsBcast := (fPfcpemConnsBcastDel s.gConnsBcast vcConn).1 },
        [.reply vcConn (.unsubscribeBcast (decide (vcConn ∈ g.bcast)))]) := by
    rw [mainStep, hsnd]
  refine stepFollows_ok hok RoutingAllowed.unsubscribeBcast
    ⟨h.seqnr, h.seid, ?_, nodup_del h.nodup⟩
  show List.map _ (fPfcpemConnsBcastDel s.gConnsBcast vcConn).1 = _
  rw [fPfcpemConnsBcastDel, connsDel_fst, ← h.bcast, del, List.filter_map]
  congr 1
  exact List.filter_congr (fun c _ => by simp)

/-- A SEID is claimed, unless somebody holds it. -/
theorem Routes.subscribeSeid {vcConn : Comp} {seid : BitVec 64} (h : Routes s g) :
    StepFollows (mainStep fixed) (RoutingAllowed fixed) (RoutingStops fixed) Routes s g
      (.subscribeSeid vcConn seid : Input Comp Ies) := by
  cases hg : g.seid seid with
  | none =>
      obtain ⟨hadd, hrep⟩ := represents_connsAdd ⟨vcConn, some seid, none⟩
        h.seid hg rfl
      have hok : mainStep fixed s (.subscribeSeid vcConn seid : Input Comp Ies)
          = .ok
            ({ s with gConnsSeid := s.gConnsSeid ++ [⟨vcConn, some seid, none⟩] },
            [.reply vcConn (.subscribeSeid seid true)]) := by
        rw [mainStep, fPfcpemConnsSeidAdd, hadd]
      exact stepFollows_ok hok (RoutingAllowed.subscribeSeid hg)
        ⟨h.seqnr, hrep, h.bcast, h.nodup⟩
  | some holder =>
      have htaken : g.seid seid ≠ none := by
        rw [hg]
        exact Option.some_ne_none holder
      have hok : mainStep fixed s (.subscribeSeid vcConn seid : Input Comp Ies)
          = .ok (s, [.reply vcConn (.subscribeSeid seid false)]) := by
        rw [mainStep, fPfcpemConnsSeidAdd, represents_connsAdd_taken h.seid htaken]
      exact stepFollows_ok hok (RoutingAllowed.claimedSeid htaken) h

/-- A SEID is given up, whoever holds it. -/
theorem Routes.unsubscribeSeid {vcConn : Comp} {seid : BitVec 64} (h : Routes s g) :
    StepFollows (mainStep fixed) (RoutingAllowed fixed) (RoutingStops fixed) Routes s g
      (.unsubscribeSeid vcConn seid : Input Comp Ies) := by
  obtain ⟨hrep, hsnd⟩ := represents_connsDel (k := seid) h.seid
  have hok : mainStep fixed s (.unsubscribeSeid vcConn seid : Input Comp Ies)
      = .ok ({ s with gConnsSeid := (fPfcpemConnsSeidDel s.gConnsSeid seid).1 },
        [.reply vcConn (.unsubscribeSeid seid (g.seid seid).isSome)]) := by
    rw [mainStep, ← hsnd]
    rfl
  exact stepFollows_ok hok RoutingAllowed.unsubscribeSeid
    ⟨h.seqnr, hrep, h.bcast, h.nodup⟩

/-- **ONE INPUT** that meets the guard. -/
theorem mainStep_follows {input : Input Comp Ies} (h : Routes s g)
    (hguard : RoutingGuard fixed s input) :
    StepFollows (mainStep fixed) (RoutingAllowed fixed)
      (RoutingStops fixed) Routes s g input := by
  cases input with
  | pfcp ud =>
      cases hans : answered fixed ud.pdu with
      | true =>
          have hok : mainStep fixed s (.pfcp ud)
              = .ok (s, [.pfcp ⟨ud.peer, heartbeatAnswer fixed ud.pdu⟩]) := by
            rw [mainStep, rxPfcp, hans]
            rfl
          exact stepFollows_ok hok (RoutingAllowed.heartbeat hans) h
      | false =>
          cases hout : g.outstanding ud.pdu.sequenceNumber with
          | none => exact h.rxRouted hans hout
          | some vcConn =>
              rcases hguard with htrue | hresp | hnone
              · rw [hans] at htrue
                exact absurd htrue Bool.false_ne_true
              · exact h.rxFound hans hresp hout
              · rw [h.connBySeqnr, hout] at hnone
                exact absurd hnone (Option.some_ne_none vcConn)
  | client vcConn pdu => exact h.rxClient hguard
  | subscribeBcast vcConn => exact h.subscribeBcast
  | unsubscribeBcast vcConn => exact h.unsubscribeBcast
  | subscribeSeid vcConn seid => exact h.subscribeSeid
  | unsubscribeSeid vcConn seid => exact h.unsubscribeSeid
  | getRecoveryTimestamp vcConn =>
      exact stepFollows_ok rfl RoutingAllowed.timestamp h

omit [DecidableEq Comp] in
/-- The emulation starts without connections. -/
theorem routes_init (drawn : Fin 1000) :
    Routes (pfcpInit drawn : PfcpEmulationCT Comp) noRouting where
  seqnr := represents_nil
  seid := represents_nil
  bcast := rfl
  nodup := List.nodup_nil

/-- **PFCP ROUTING**: a run whose inputs meet the guard goes as the
    specification says. -/
theorem pfcp_routing (fixed : Fixed) (drawn : Fin 1000) (inputs : List (Input Comp Ies))
    (hguard : RunGuard.Guarded (mainStep fixed) (RoutingGuard fixed)
      (pfcpInit drawn) inputs) :
    Follows (mainStep fixed) (RoutingAllowed fixed) (RoutingStops fixed)
      Routes (pfcpInit drawn) noRouting inputs :=
  follows_of_guarded (fun _ _ _ h hG => mainStep_follows h hG) inputs _ _
    (routes_init drawn) hguard

end Steps

/-- The emulation of a CPF that answers heartbeats. -/
def exampleFixed : Fixed :=
  { answerHeartbeatReq := true, pfcpRemoteIp := "127.0.0.2".toList
    pfcpRemotePort := 8805, gPfcpConnId := 1, gRecoveryTimestamp := 1234 }

/-- A PDU with a number and perhaps a SEID. -/
def pduWith (seqnr : Nat) (seid : Option (BitVec 64)) (body : MessageBody Unit) :
    PduPfcp Unit :=
  { sFlag := seid.isSome, mp := false, spare := 0, version := 1, messageType := 0
    lengthIndicator := 0, seid := seid, sequenceNumber := seqnr, spare2 := 0
    mpOrSpare := 0, messageBody := body }

/-- A PDU of the peer. -/
def fromPeer (pdu : PduPfcp Unit) : Input Nat Unit :=
  .pfcp ⟨⟨1, "127.0.0.2".toList, 8805⟩, pdu⟩

/-- An association, a session, and what the peer sends on its own. -/
def associate : List (Input Nat Unit) :=
  [.subscribeBcast 10, .subscribeSeid 20 7,
    .client 10 (pduWith 0 none (.pfcpAssociationSetupRequest ())),
    fromPeer (pduWith 3 none (.heartbeatRequest ⟨96, 4, 5⟩)),
    fromPeer (pduWith 10001 none (.pfcpAssociationSetupResponse ())),
    .client 20 (pduWith 5 none (.pfcpSessionEstablishmentRequest ())),
    fromPeer (pduWith 6 (some 7) (.otherRequest ())),
    fromPeer (pduWith 5 (some 7) (.pfcpSessionEstablishmentResponse ())),
    .unsubscribeBcast 10, .unsubscribeSeid 20 7]

/-- An association, a session and their end. -/
theorem pfcp_routing_associate : Follows (mainStep exampleFixed)
    (RoutingAllowed exampleFixed) (RoutingStops exampleFixed) Routes (pfcpInit 0)
    noRouting associate :=
  pfcp_routing exampleFixed 0 associate (by decide)

/-- A client answers a request of the peer; the next request of the peer with
    that number is for the session of another client. -/
def answerFirst : List (Input Nat Unit) :=
  [.subscribeSeid 20 7,
    .client 10 (pduWith 5 none (.pfcpSessionEstablishmentResponse ())),
    fromPeer (pduWith 5 (some 7) (.pfcpSessionDeletionRequest ()))]

/-- **THE NUMBER OF AN ANSWER** captures a request of the peer: it goes to the
    client that answered, not to the one that subscribed for its SEID. -/
theorem answerFirst_captured :
    (∃ s, RunGuard.run (mainStep exampleFixed) (pfcpInit 0) answerFirst = .ok (s,
        [[.reply 20 (.subscribeSeid 7 true)],
          [toPeer exampleFixed
            (pduWith 5 none (.pfcpSessionEstablishmentResponse ())) 5],
          [.client 10 (pduWith 5 (some 7) (.pfcpSessionDeletionRequest ()))]]))
      ∧ ¬ Follows (mainStep exampleFixed) (RoutingAllowed exampleFixed)
        (RoutingStops exampleFixed) Routes (pfcpInit 0) noRouting answerFirst := by
  refine ⟨⟨_, rfl⟩, fun h => ?_⟩
  obtain ⟨-, g1, hsub, -, g2, hans, hrest⟩ := h
  have hroutes := hrest.1
  cases hsub with
  | subscribeSeid _ =>
      cases hans with
      | request hreq _ _ => exact absurd hreq (by decide)
      | answer _ _ =>
          have hentry := hroutes.seqnr.get (List.mem_singleton.mpr rfl) rfl
          exact nomatch hentry

end OsmoPfcp
