import OsmoTtcn.RunGuardProofs
import OsmoTtcn.TitanProofs

/-! # The connection identifier of the IPA emulation

    `IPA_Emulation_CT` keeps two identifiers: that of its own socket, and that
    of the client that connected last.  In server mode everything that comes
    from above goes to the second, through `f_ipa_conn_id`.

    A client that closes its connection resets the first.  `ipa_conn_id_iff`
    says in which runs of a server every identifier used is that of an open
    connection: those in which nothing is sent after the newest connection was
    closed by its client. -/

namespace OsmoIpaEm

open OsmoTitan RunGuard

-- ── Data ─────────────────────────────────────────────────────────────────────

/-- `IPL4asp_Types.ConnectionId`, where -1 stands for no connection. -/
abbrev ConnectionId := Int

/-- `IpaMode`, less the modes that nothing here uses. -/
inductive IpaMode where
  | client
  | server
  deriving DecidableEq, Repr

/-- `IpaInitBehavior`: what a server says first. -/
inductive IpaInitBehavior where
  | sendIpaIdGet
  | sendIpaIdAck
  deriving DecidableEq, Repr

/-- `IpaStreamId` -/
inductive IpaStreamId where
  | rslTrx (trx : Fin 4)
  | mgcpOld
  | sccp
  | ccm
  | oml
  | osmo
  | other (sid : Nat)
  deriving DecidableEq, Repr

/-- `IpaExtStreamId` -/
inductive IpaExtStreamId where
  | ctrl
  | mgcp
  | gsup
  | rspro
  | osmoPcu
  | tcapRouting
  | other (sid : Nat)
  deriving DecidableEq, Repr

/-- A CCM message, as far as it decides what is answered. -/
inductive PduIpaCcm where
  | ping
  | pong
  | idAck
  | idGet
  /-- An identity response, and whether it has the fields that were requested. -/
  | idResp (complete : Bool)
  | other
  deriving DecidableEq, Repr

/-- `ASP_IPA_Event`, by its type. -/
inductive AspIpaEvent where
  | down (connId : ConnectionId)
  | up (connId : ConnectionId)
  | idResp (connId : ConnectionId)
  | idAck (connId : ConnectionId)
  deriving DecidableEq, Repr

/-- `ASP_IPA_Unitdata`, as a user hands it in. -/
structure AspIpaUnitdata where
  streamId : IpaStreamId
  streamIdExt : Option IpaExtStreamId
  payload : List UInt8
  deriving DecidableEq, Repr

/-- `IPA_Send`, as it goes to the socket. -/
structure IpaSend where
  connId : ConnectionId
  streamId : IpaStreamId
  streamIdExt : Option IpaExtStreamId
  msg : List UInt8
  deriving DecidableEq, Repr

/-- What a user sends, with its PDU encoded. -/
inductive Down where
  | sccp (data : List UInt8)
  | mgcp (payload : List UInt8)
  | ctrl (payload : List UInt8)
  | gsup (payload : List UInt8)
  | rspro (payload : List UInt8)
  | osmoPcu (payload : List UInt8)
  | tcapRouting (payload : List UInt8)
  /-- RSL may name its connection itself. -/
  | rsl (connId : Option ConnectionId) (streamId : IpaStreamId) (payload : List UInt8)
  | oml (payload : List UInt8)
  | sp (ud : AspIpaUnitdata)
  deriving DecidableEq, Repr

/-- The variables of the component. -/
structure State where
  mpIpaMgcpUsesOsmoExt : Bool := true
  gSelfConnId : ConnectionId := -1
  gLastConnId : ConnectionId := -1
  gMode : IpaMode
  gCcmEnabled : Bool
  /-- `f_connect` sets it, `f_bind` does not. -/
  gIsBscMgw : Bool := false
  gInitBehavior : IpaInitBehavior := .sendIpaIdGet
  gServerStopOnIpaEvDown : Bool := true
  /-- The component executed `self.stop`. -/
  stopped : Bool := false
  deriving DecidableEq, Repr

/-- The identifiers that the port gives are not negative. -/
inductive Input where
  | connOpened (connId : Nat)
  | connClosed (connId : Nat)
  | errorSocket (connId : Nat)
  | ccm (connId : Nat) (msg : PduIpaCcm)
  | down (msg : Down)
  | disconnect
  | chgCcmEnabled (enabled : Bool)
  deriving DecidableEq, Repr

/-- What one round of the main loop does. -/
inductive Output where
  | event (ev : AspIpaEvent)
  | ccm (connId : ConnectionId) (msg : PduIpaCcm)
  | send (msg : IpaSend)
  | close (connId : ConnectionId)
  /-- With CCM disabled, a CCM message goes to `IPA_SP_PORT` as it is. -/
  | spCcm (connId : ConnectionId) (msg : PduIpaCcm)
  | reply
  deriving DecidableEq, Repr

-- ── Functions ────────────────────────────────────────────────────────────────

/-- The end of a test that sends without a connection. -/
def notEstablished : Fault := .shutdown "Connection is not established"

/-- Resolve TCP/IP connection identifier depending on g_mode -/
def fIpaConnId (s : State) : Except Fault ConnectionId :=
  let connId := match s.gMode with
    | .client => s.gSelfConnId
    | .server => s.gLastConnId
  if connId = -1 then .error notEstablished else .ok connId

/-- `f_close`; a server forgets its last connection only here. -/
def fClose (s : State) : State × List Output :=
  match s.gMode with
  | .client => ({ s with gSelfConnId := -1 }, [.close s.gSelfConnId])
  | .server => ({ s with gLastConnId := -1 }, [.close s.gLastConnId])

/-- `f_mgcp_to_ud` -/
def fMgcpToUd (s : State) (payload : List UInt8) : AspIpaUnitdata :=
  if s.mpIpaMgcpUsesOsmoExt then ⟨.mgcpOld, none, payload⟩
  else ⟨.osmo, some .mgcp, payload⟩

/-- `f_from_asp` -/
def fFromAsp (connId : ConnectionId) (ud : AspIpaUnitdata) : IpaSend :=
  ⟨connId, ud.streamId, ud.streamIdExt, ud.payload⟩

/-- `f_from_rsl`: a connection that the user names comes first. -/
def fFromRsl (connId : ConnectionId) (rslConnId : Option ConnectionId)
    (streamId : IpaStreamId) (payload : List UInt8) : IpaSend :=
  ⟨rslConnId.getD connId, streamId, none, payload⟩

/-- What goes down for a message from above. -/
def toIpa (s : State) (connId : ConnectionId) : Down → IpaSend
  | .sccp data => ⟨connId, .sccp, none, data⟩
  | .mgcp payload => fFromAsp connId (fMgcpToUd s payload)
  | .ctrl payload => fFromAsp connId ⟨.osmo, some .ctrl, payload⟩
  | .gsup payload => fFromAsp connId ⟨.osmo, some .gsup, payload⟩
  | .rspro payload => fFromAsp connId ⟨.osmo, some .rspro, payload⟩
  | .osmoPcu payload => fFromAsp connId ⟨.osmo, some .osmoPcu, payload⟩
  | .tcapRouting payload => fFromAsp connId ⟨.osmo, some .tcapRouting, payload⟩
  | .rsl rslConnId streamId payload => fFromRsl connId rslConnId streamId payload
  | .oml payload => ⟨connId, .oml, none, payload⟩
  | .sp ud => fFromAsp connId ud

/-- `f_ccm_rx_client` -/
def fCcmRxClient (s : State) : PduIpaCcm → List Output
  | .ping => [.ccm s.gSelfConnId .pong]
  | .idAck => [.event (.idAck s.gSelfConnId)]
  | .idGet => [.ccm s.gSelfConnId (.idResp true)]
  | .pong | .idResp _ | .other => []

/-- `f_ccm_rx_server` -/
def fCcmRxServer (connId : ConnectionId) : PduIpaCcm → List Output
  | .ping => [.ccm connId .pong]
  | .idAck => [.event (.idAck connId)]
  | .idResp complete =>
      if complete then [.event (.idResp connId), .ccm connId .idAck] else []
  | .pong | .idGet | .other => []

/-- A connection is opened: it is the last one from now on. -/
def onConnOpened (s : State) (connId : ConnectionId) : State × List Output :=
  ({ s with gLastConnId := connId },
    .event (.up connId) ::
      if s.gMode = .server ∧ s.gCcmEnabled = true then
        match s.gInitBehavior with
        | .sendIpaIdGet => [.ccm connId .idGet]
        | .sendIpaIdAck => [.ccm connId .idAck]
      else [])

/-- Whichever connection it is, it is the identifier of the component's own
    socket that is reset. -/
def onConnClosed (s : State) (connId : ConnectionId) : State × List Output :=
  ({ s with
      gSelfConnId := -1
      stopped := decide (s.gMode ≠ .server) || s.gServerStopOnIpaEvDown },
    [.event (.down connId)])

/-- An error on the socket ends the component. -/
def onErrorSocket (s : State) (connId : ConnectionId) : State × List Output :=
  ({ s with gSelfConnId := -1, stopped := true }, [.event (.down connId)])

/-- One round of `ScanEvents`. -/
def scanEvents (s : State) : Input → Except Fault (State × List Output)
  | .connOpened connId => .ok (onConnOpened s connId)
  | .connClosed connId => .ok (onConnClosed s connId)
  | .errorSocket connId => .ok (onErrorSocket s connId)
  | .ccm connId msg =>
      .ok (s, if s.gCcmEnabled then
        match s.gMode with
        | .client => fCcmRxClient s msg
        | .server => fCcmRxServer connId msg
      else [.spCcm connId msg])
  | .down msg => (fIpaConnId s).map (fun connId => (s, [.send (toIpa s connId msg)]))
  | .disconnect => .ok ((fClose s).1, (fClose s).2 ++ [.reply])
  | .chgCcmEnabled enabled => .ok ({ s with gCcmEnabled := enabled }, [.reply])

/-- `main_server` up to `ScanEvents`, on the connection that `f_bind` got. -/
def mainServer (listened : Nat) (ccmEnabled : Bool)
    (initBehavior : IpaInitBehavior) (serverStopOnIpaEvDown : Bool) : State where
  gSelfConnId := listened
  gMode := .server
  gCcmEnabled := ccmEnabled
  gInitBehavior := initBehavior
  gServerStopOnIpaEvDown := serverStopOnIpaEvDown

-- ── Connections ──────────────────────────────────────────────────────────────

/-- The connections of a server, from the events alone. -/
structure Conns where
  /-- Those that are open. -/
  opened : List Nat := []
  /-- The one opened last, unless the component disconnected it. -/
  newest : Option Nat := none
  deriving DecidableEq, Repr

/-- The connections after one more input. -/
def Conns.after (c : Conns) : Input → Conns
  | .connOpened connId => ⟨connId :: c.opened, some connId⟩
  | .connClosed connId => { c with opened := c.opened.filter (fun o => o != connId) }
  | .disconnect => ⟨c.opened.filter (fun o => some o != c.newest), none⟩
  | .errorSocket _ | .ccm _ _ | .down _ | .chgCcmEnabled _ => c

/-- The component beside its connections.  A component that stopped does
    nothing. -/
def step (x : State × Conns) (i : Input) :
    Except Fault ((State × Conns) × List Output) :=
  if x.1.stopped then .ok (x, [])
  else (scanEvents x.1 i).map (fun r => ((r.1, x.2.after i), r.2))

/-- **THE CLAIM ON ONE SEND**: an identifier that `f_ipa_conn_id` returns is that
    of an open connection, and with none open it reports that none is. -/
def IdRight (x : State × Conns) : Input → Prop
  | .down _ => x.1.stopped = false →
      (∀ id, fIpaConnId x.1 = .ok id → ∃ connId ∈ x.2.opened, id = (connId : Int))
      ∧ (x.2.opened = [] → fIpaConnId x.1 = .error notEstablished)
  | _ => True

/-- On a send, the newest connection is still open. -/
def NewestOpen (x : State × Conns) : Input → Prop
  | .down _ => x.1.stopped = false → ∀ id ∈ x.2.newest, id ∈ x.2.opened
  | _ => True

instance decNewestOpen (x : State × Conns) : ∀ i, Decidable (NewestOpen x i)
  | .down _ => inferInstanceAs (Decidable
      (x.1.stopped = false → ∀ id ∈ x.2.newest, id ∈ x.2.opened))
  | .connOpened _ | .connClosed _ | .errorSocket _ | .ccm _ _ | .disconnect
  | .chgCcmEnabled _ => isTrue trivial

-- ── The newest connection ────────────────────────────────────────────────────

/-- A server has the identifier of its newest connection. -/
structure Tracks (x : State × Conns) : Prop where
  mode : x.1.gMode = .server
  last : x.1.gLastConnId = match x.2.newest with
    | some connId => (connId : Int)
    | none => -1

/-- A server has no connection when it starts. -/
theorem tracks_mainServer (listened : Nat) (ccm : Bool) (init : IpaInitBehavior)
    (stop : Bool) : Tracks (mainServer listened ccm init stop, {}) where
  mode := rfl
  last := rfl

variable {s : State} {c : Conns}

/-- A server sends on the connection that was opened last, open or not. -/
theorem fIpaConnId_server (h : Tracks (s, c)) : fIpaConnId s = match c.newest with
    | some connId => .ok (connId : Int)
    | none => .error notEstablished := by
  obtain ⟨hmode, hlast⟩ := h
  dsimp only at hmode hlast
  rw [fIpaConnId, hmode]
  dsimp only
  cases hnew : c.newest with
  | none =>
      rw [hnew] at hlast
      exact if_pos hlast
  | some connId =>
      rw [hnew] at hlast
      have hlast' : s.gLastConnId = (connId : Int) := hlast
      have hne : s.gLastConnId ≠ -1 := by
        rw [hlast']
        show (connId : Int) ≠ -1
        omega
      rw [if_neg hne, hlast']

/-- **ONE SEND**: the identifier is right iff the newest connection is open. -/
theorem idRight_iff (i : Input) (h : Tracks (s, c)) :
    IdRight (s, c) i ↔ NewestOpen (s, c) i := by
  cases i with
  | down msg =>
      refine imp_congr_right (fun _ => ?_)
      dsimp only
      rw [fIpaConnId_server h]
      cases hnew : c.newest with
      | none =>
          constructor
          · intro _ connId hmem
            exact nomatch hmem
          · intro _
            exact ⟨fun id hid => (nomatch hid), fun _ => rfl⟩
      | some connId =>
          constructor
          · rintro ⟨hid, -⟩ connId' hmem
            rw [← Option.some.inj hmem]
            obtain ⟨n, hn, heq⟩ := hid connId rfl
            exact (Int.ofNat.inj heq) ▸ hn
          · intro hmem
            refine ⟨fun id hid => ?_, fun hnone => ?_⟩
            · exact ⟨connId, hmem connId rfl, (Except.ok.inj hid).symm⟩
            · have hopen := hmem connId rfl
              rw [hnone] at hopen
              exact nomatch hopen
  | connOpened connId => exact Iff.rfl
  | connClosed connId => exact Iff.rfl
  | errorSocket connId => exact Iff.rfl
  | ccm connId msg => exact Iff.rfl
  | disconnect => exact Iff.rfl
  | chgCcmEnabled enabled => exact Iff.rfl

/-- **ONE ROUND** keeps track of the newest connection. -/
theorem scanEvents_tracks (h : Tracks (s, c)) {i : Input} {s' : State}
    {os : List Output} (hs : scanEvents s i = .ok (s', os)) :
    Tracks (s', c.after i) := by
  cases i with
  | connOpened connId =>
      obtain ⟨rfl, -⟩ := Prod.mk.inj (Except.ok.inj hs)
      exact ⟨h.mode, rfl⟩
  | connClosed connId =>
      obtain ⟨rfl, -⟩ := Prod.mk.inj (Except.ok.inj hs)
      exact ⟨h.mode, h.last⟩
  | errorSocket connId =>
      obtain ⟨rfl, -⟩ := Prod.mk.inj (Except.ok.inj hs)
      exact ⟨h.mode, h.last⟩
  | ccm connId msg =>
      obtain ⟨rfl, -⟩ := Prod.mk.inj (Except.ok.inj hs)
      exact h
  | down msg =>
      obtain ⟨connId, -, heq⟩ := map_ok hs
      obtain ⟨rfl, -⟩ := Prod.mk.inj heq
      exact h
  | disconnect =>
      obtain ⟨rfl, -⟩ := Prod.mk.inj (Except.ok.inj hs)
      have hmode : s.gMode = .server := h.mode
      rw [fClose, hmode]
      exact ⟨rfl, rfl⟩
  | chgCcmEnabled enabled =>
      obtain ⟨rfl, -⟩ := Prod.mk.inj (Except.ok.inj hs)
      exact ⟨h.mode, h.last⟩

/-- **ONE INPUT** keeps the last connection in step with the history. -/
theorem step_tracks (x : State × Conns) (i : Input) (x' : State × Conns)
    (os : List Output) (h : Tracks x) (hs : step x i = .ok (x', os)) : Tracks x' := by
  rw [step] at hs
  cases hstop : x.1.stopped with
  | true =>
      rw [hstop] at hs
      rw [← (Prod.mk.inj (Except.ok.inj hs)).1]
      exact h
  | false =>
      rw [hstop] at hs
      obtain ⟨⟨s', os'⟩, hscan, heq⟩ := map_ok hs
      obtain ⟨rfl, -⟩ := Prod.mk.inj heq
      exact scanEvents_tracks h hscan

-- ── Runs ─────────────────────────────────────────────────────────────────────

/-- **THE CONNECTION IDENTIFIER**: in a run of a server every send is right
    about its connection iff on every send the connection opened last, if it was
    not disconnected by the component, was not closed either. -/
theorem ipa_conn_id_iff (listened : Nat) (ccm : Bool) (init : IpaInitBehavior)
    (stop : Bool) (is : List Input) :
    Guarded step IdRight (mainServer listened ccm init stop, {}) is
      ↔ Guarded step NewestOpen (mainServer listened ccm init stop, {}) is :=
  guarded_congr_of_inv (fun x i h => idRight_iff (s := x.1) (c := x.2) i h)
    step_tracks is _ (tracks_mainServer listened ccm init stop)

/-- A client connects and closes its connection again; then the user sends. -/
def sendAfterClose : List Input :=
  [.connOpened 1, .connClosed 1, .down (.ctrl [71, 69, 84])]

/-- A server that sends after a close sends on the closed connection. -/
theorem sendAfterClose_closed :
    ¬ Guarded step IdRight (mainServer 0 true .sendIpaIdGet false, {})
      sendAfterClose := by
  rintro ⟨-, -, hsend, -⟩
  obtain ⟨connId, hopen, -⟩ := (hsend rfl).1 1 rfl
  exact nomatch hopen

end OsmoIpaEm
