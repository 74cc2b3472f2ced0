import OsmoTtcn.IpaEmulationProofs

/-! # Two IPA emulations on one connection

    A client and a server of `IPA_Emulation.ttcnpp` that talk to each other:
    `main_client` and `main_server`, the identity handshake with what its
    messages contain, and the demultiplexer that `ScanEvents` is on the way up.
    What is in flight is kept in order, as TCP does it.

    `ipa_link` says what the users of both see, in whatever order things
    happen.  The codecs are not part of this development; a message in flight is
    what they encode, and which payloads a decoder reads is a parameter.  MGCP is
    not symmetric: the client reads commands and the server reads responses. -/

namespace OsmoIpaLink

open OsmoTitan OsmoIpaEm RunGuard

-- ── CCM ──────────────────────────────────────────────────────────────────────

/-- `IpaCcmIdTag` -/
inductive IpaCcmIdTag where
  | serNr
  | unitName
  | location1
  | location2
  | equipVers
  | swVersion
  | ipAddr
  | macAddr
  | unitId
  | osmoRand
  deriving DecidableEq, Repr

/-- The fields are character strings. -/
structure IpaCcmParameters where
  ser_nr : Option (List UInt8)
  name : Option (List UInt8)
  location1 : Option (List UInt8)
  location2 : Option (List UInt8)
  equip_version : Option (List UInt8)
  sw_version : Option (List UInt8)
  ip_addr : Option (List UInt8)
  mac_addr : Option (List UInt8)
  unit_id : Option (List UInt8)
  osmo_rand : Option (List UInt8)

/-- The field for a tag. -/
def IpaCcmParameters.foo (p : IpaCcmParameters) : IpaCcmIdTag → Option (List UInt8)
  | .serNr => p.ser_nr
  | .unitName => p.name
  | .location1 => p.location1
  | .location2 => p.location2
  | .equipVers => p.equip_version
  | .swVersion => p.sw_version
  | .ipAddr => p.ip_addr
  | .macAddr => p.mac_addr
  | .unitId => p.unit_id
  | .osmoRand => p.osmo_rand

/-- `IpaCcmRespPart`, without the length. -/
structure IpaCcmRespPart where
  tag : IpaCcmIdTag
  data : List UInt8
  deriving DecidableEq, Repr

/-- `PDU_IPA_CCM` -/
inductive Ccm where
  | ping
  | pong
  | idGet (get : Option (List IpaCcmIdTag))
  | idResp (resp : List IpaCcmRespPart)
  | idAck
  deriving DecidableEq, Repr

/-- `ts_IPA_ID_GET` -/
def tsIpaIdGet : Ccm := .idGet (some [.unitName, .unitId])

/-- The response has the two parts that were requested.  It is a `set of`, in
    which the order does not count. -/
def trIpaIdResp (resp : List IpaCcmRespPart) : Bool :=
  resp.map (·.tag) = [.unitName, .unitId] ∨ resp.map (·.tag) = [.unitId, .unitName]

/-- `t_IdRespPart` -/
def tIdRespPart (tag : IpaCcmIdTag) (payload : List UInt8) : IpaCcmRespPart :=
  ⟨tag, payload ++ [0]⟩

/-- `f_ccm_make_id_resp`; a parameter that is omitted is no character string. -/
def fCcmMakeIdResp (p : IpaCcmParameters) : Option (List IpaCcmIdTag) → Except Fault Ccm
  | none => .ok (.idResp [])
  | some tags =>
      (tags.mapM fun tag => match p.foo tag with
        | some foo => Except.ok (tIdRespPart tag foo)
        | none => Except.error Fault.unbound).map .idResp

-- ── Up ───────────────────────────────────────────────────────────────────────

/-- What the users see, with the PDUs encoded. -/
inductive Up where
  | event (ev : AspIpaEvent)
  /-- `ASP_IPA_EVENT_ID_RESP` -/
  | idResp (connId : ConnectionId) (resp : List IpaCcmRespPart)
  | spCcm (msg : Ccm)
  | sp (ud : AspIpaUnitdata)
  | sccp (data : List UInt8)
  | mgcpCommand (payload : List UInt8)
  | mgcpResponse (payload : List UInt8)
  | rsl (connId : ConnectionId) (streamId : IpaStreamId) (payload : List UInt8)
  | oml (payload : List UInt8)
  | ctrl (payload : List UInt8)
  | gsup (payload : List UInt8)
  | rspro (payload : List UInt8)
  | osmoPcu (payload : List UInt8)
  | tcapRouting (payload : List UInt8)
  deriving DecidableEq, Repr

/-- The decoders for user data: whether they read a payload, or their error. -/
structure Decoders where
  decMgcpCommand : List UInt8 → Except Fault Unit
  decMgcpResponse : List UInt8 → Except Fault Unit
  decCtrlMessage : List UInt8 → Except Fault Unit
  decGsupPdu : List UInt8 → Except Fault Unit
  decRsproPdu : List UInt8 → Except Fault Unit
  decPcuifMessage : List UInt8 → Except Fault Unit
  decTcapRouting : List UInt8 → Except Fault Unit
  decRslMessage : List UInt8 → Except Fault Unit
  decOmlPdu : List UInt8 → Except Fault Unit

/-- In flight: that the connection is open, a CCM message, or user data. -/
inductive Seg where
  | opened
  | ccm (msg : Ccm)
  | ud (ud : AspIpaUnitdata)
  deriving DecidableEq, Repr

section ToUser

variable (dec : Decoders) (isBscMgw : Bool)

/-- `f_mgcp_to_user` -/
def fMgcpToUser (msg : List UInt8) : Except Fault Up :=
  if isBscMgw then (dec.decMgcpCommand msg).map (fun _ => .mgcpCommand msg)
  else (dec.decMgcpResponse msg).map (fun _ => .mgcpResponse msg)

/-- The port for user data, by its stream. -/
def toUser (connId : ConnectionId) (ud : AspIpaUnitdata) : Except Fault Up :=
  match ud.streamId with
  | .sccp => .ok (.sccp ud.payload)
  | .mgcpOld => fMgcpToUser dec isBscMgw ud.payload
  | .rslTrx trx =>
      (dec.decRslMessage ud.payload).map (fun _ => .rsl connId (.rslTrx trx) ud.payload)
  | .oml => (dec.decOmlPdu ud.payload).map (fun _ => .oml ud.payload)
  | .osmo =>
      match ud.streamIdExt with
      | some .mgcp => fMgcpToUser dec isBscMgw ud.payload
      | some .ctrl => (dec.decCtrlMessage ud.payload).map (fun _ => .ctrl ud.payload)
      | some .gsup => (dec.decGsupPdu ud.payload).map (fun _ => .gsup ud.payload)
      | some .rspro => (dec.decRsproPdu ud.payload).map (fun _ => .rspro ud.payload)
      | some .osmoPcu => (dec.decPcuifMessage ud.payload).map (fun _ => .osmoPcu ud.payload)
      | some .tcapRouting =>
          (dec.decTcapRouting ud.payload).map (fun _ => .tcapRouting ud.payload)
      | _ => .ok (.sp ud)
  | .ccm | .other _ => .ok (.sp ud)

end ToUser

/-- `f_ccm_rx_client`: what is sent, and what the users see. -/
def ccmRxClient (p : IpaCcmParameters) (s : State) : Ccm → Except Fault (List Seg × List Up)
  | .ping => .ok ([.ccm .pong], [])
  | .idAck => .ok ([], [.event (.idAck s.gSelfConnId)])
  | .idGet get => (fCcmMakeIdResp p get).map (fun resp => ([.ccm resp], []))
  | .pong | .idResp _ => .ok ([], [])

/-- `f_ccm_rx_server` -/
def ccmRxServer (connId : ConnectionId) : Ccm → List Seg × List Up
  | .ping => ([.ccm .pong], [])
  | .idAck => ([], [.event (.idAck connId)])
  | .idResp resp =>
      if trIpaIdResp resp then ([.ccm .idAck], [.idResp connId resp]) else ([], [])
  | .pong | .idGet _ => ([], [])

/-- One round of `ScanEvents` for what comes over the connection. -/
def rx (p : IpaCcmParameters) (dec : Decoders) (connId : Nat) (s : State) :
    Seg → Except Fault (State × List Seg × List Up)
  | .opened =>
      .ok ((onConnOpened s connId).1,
        if s.gMode = .server ∧ s.gCcmEnabled = true then
          match s.gInitBehavior with
          | .sendIpaIdGet => [.ccm tsIpaIdGet]
          | .sendIpaIdAck => [.ccm .idAck]
        else [],
        [.event (.up connId)])
  | .ccm msg =>
      if s.gCcmEnabled then
        match s.gMode with
        | .client => (ccmRxClient p s msg).map (fun r => (s, r))
        | .server => .ok (s, ccmRxServer connId msg)
      else .ok (s, [], [.spCcm msg])
  | .ud ud => (toUser dec s.gIsBscMgw connId ud).map (fun up => (s, [], [up]))

-- ── The connection ───────────────────────────────────────────────────────────

/-- The state of `main_client`, and what it sends, before `ScanEvents`. -/
def mainClient (connected : Nat) (ccmEnabled : Bool) : State × List Seg :=
  ({ gSelfConnId := connected, gMode := .client, gCcmEnabled := ccmEnabled
     gIsBscMgw := true },
    if ccmEnabled then [.ccm .idAck] else [])

/-- A client and a server, with what is in flight between them. -/
structure Link where
  client : State
  server : State
  toServer : List Seg
  toClient : List Seg

/-- What a user sends: a command or a response of MGCP, or what `Down` says. -/
inductive UserMsg where
  | mgcpCommand (payload : List UInt8)
  | mgcpResponse (payload : List UInt8)
  | other (msg : Down)
  deriving DecidableEq

/-- Both ways the payload goes down the same way. -/
def UserMsg.down : UserMsg → Down
  | .mgcpCommand payload => .mgcp payload
  | .mgcpResponse payload => .mgcp payload
  | .other msg => msg

/-- A user leaves the stream of CCM to the emulation, and the connection too. -/
def Plain : Down → Prop
  | .rsl rslConnId streamId _ => rslConnId = none ∧ streamId ≠ .ccm
  | .sp ud => ud.streamId ≠ .ccm
  | _ => True

/-- What reads a payload of MGCP on the side of the connection that is given: the
    client is the gateway of a BSC and gets commands. -/
def decMgcp (dec : Decoders) : IpaMode → List UInt8 → Except Fault Unit
  | .client => dec.decMgcpCommand
  | .server => dec.decMgcpResponse

/-- The payload of user data on a stream is one that is read on that side. -/
def DecodesUd (dec : Decoders) (side : IpaMode) (ud : AspIpaUnitdata) : Prop :=
  (ud.streamId = .mgcpOld → decMgcp dec side ud.payload = .ok ())
    ∧ ((∃ trx, ud.streamId = .rslTrx trx) → dec.decRslMessage ud.payload = .ok ())
    ∧ (ud.streamId = .oml → dec.decOmlPdu ud.payload = .ok ())
    ∧ (ud.streamId = .osmo →
      (ud.streamIdExt = some .mgcp → decMgcp dec side ud.payload = .ok ())
      ∧ (ud.streamIdExt = some .ctrl → dec.decCtrlMessage ud.payload = .ok ())
      ∧ (ud.streamIdExt = some .gsup → dec.decGsupPdu ud.payload = .ok ())
      ∧ (ud.streamIdExt = some .rspro → dec.decRsproPdu ud.payload = .ok ())
      ∧ (ud.streamIdExt = some .osmoPcu → dec.decPcuifMessage ud.payload = .ok ())
      ∧ (ud.streamIdExt = some .tcapRouting → dec.decTcapRouting ud.payload = .ok ()))

/-- A message that can be read on that side: MGCP goes as commands to the client
    and as responses to the server, and the decoder there reads the payload. -/
def Readable (dec : Decoders) (side : IpaMode) : UserMsg → Prop
  | .mgcpCommand payload => side = .client ∧ dec.decMgcpCommand payload = .ok ()
  | .mgcpResponse payload => side = .server ∧ dec.decMgcpResponse payload = .ok ()
  | .other (.sccp _) => True
  -- a user of the port of MGCP sends one of the two
  | .other (.mgcp _) => False
  | .other (.ctrl payload) => dec.decCtrlMessage payload = .ok ()
  | .other (.gsup payload) => dec.decGsupPdu payload = .ok ()
  | .other (.rspro payload) => dec.decRsproPdu payload = .ok ()
  | .other (.osmoPcu payload) => dec.decPcuifMessage payload = .ok ()
  | .other (.tcapRouting payload) => dec.decTcapRouting payload = .ok ()
  | .other (.rsl _ streamId payload) => DecodesUd dec side ⟨streamId, none, payload⟩
  | .other (.oml payload) => dec.decOmlPdu payload = .ok ()
  | .other (.sp ud) => DecodesUd dec side ud

/-- What a user sends to one side of this connection. -/
abbrev Sent (dec : Decoders) (side : IpaMode) :=
  { msg : UserMsg // Plain msg.down ∧ Readable dec side msg }

/-- What can happen on a link, in any order. -/
inductive Ev (dec : Decoders) where
  | clientSends (msg : Sent dec .server)
  | serverSends (msg : Sent dec .client)
  /-- The server reads what is first in flight to it. -/
  | toServer
  | toClient
  deriving DecidableEq

/-- What is on the connection of a message. -/
def wire (m : IpaSend) : Seg := .ud ⟨m.streamId, m.streamIdExt, m.msg⟩

/-- What the users of the two see. -/
structure Seen where
  client : List Up := []
  server : List Up := []

/-- `cid` is the connection at the client, `sid` at the server. -/
def step (p : IpaCcmParameters) (dec : Decoders) (cid sid : Nat) (l : Link) :
    Ev dec → Except Fault (Link × Seen)
  | .clientSends msg => (fIpaConnId l.client).map fun connId =>
      ({ l with toServer := l.toServer ++ [wire (toIpa l.client connId msg.1.down)] }, {})
  | .serverSends msg => (fIpaConnId l.server).map fun connId =>
      ({ l with toClient := l.toClient ++ [wire (toIpa l.server connId msg.1.down)] }, {})
  | .toServer =>
      match l.toServer with
      | [] => .ok (l, {})
      | seg :: rest => (rx p dec sid l.server seg).map fun (s, tx, up) =>
          ({ l with server := s, toServer := rest, toClient := l.toClient ++ tx },
            { server := up })
  | .toClient =>
      match l.toClient with
      | [] => .ok (l, {})
      | seg :: rest => (rx p dec cid l.client seg).map fun (s, tx, up) =>
          ({ l with client := s, toClient := rest, toServer := l.toServer ++ tx },
            { client := up })

/-- The client has connected, and the server will read that it has. -/
def start (cid listened : Nat) (init : IpaInitBehavior) (stop : Bool) : Link where
  client := (mainClient cid true).1
  server := mainServer listened true init stop
  toServer := .opened :: (mainClient cid true).2
  toClient := []

-- ── User data ────────────────────────────────────────────────────────────────

section Data

variable {dec : Decoders} {side : IpaMode} {connId : ConnectionId} {ud : AspIpaUnitdata}

/-- What the users of that side get of MGCP. -/
def mgcpUp : IpaMode → List UInt8 → Up
  | .client => .mgcpCommand
  | .server => .mgcpResponse

/-- What the users of that side see of user data, by its stream. -/
def portOf (side : IpaMode) (connId : ConnectionId) (ud : AspIpaUnitdata) : Up :=
  match ud.streamId with
  | .sccp => .sccp ud.payload
  | .mgcpOld => mgcpUp side ud.payload
  | .rslTrx trx => .rsl connId (.rslTrx trx) ud.payload
  | .oml => .oml ud.payload
  | .osmo =>
      match ud.streamIdExt with
      | some .mgcp => mgcpUp side ud.payload
      | some .ctrl => .ctrl ud.payload
      | some .gsup => .gsup ud.payload
      | some .rspro => .rspro ud.payload
      | some .osmoPcu => .osmoPcu ud.payload
      | some .tcapRouting => .tcapRouting ud.payload
      | _ => .sp ud
  | .ccm | .other _ => .sp ud

/-- What the users of that side see of a message. -/
def arrives (side : IpaMode) (connId : ConnectionId) : UserMsg → Up
  | .mgcpCommand payload => .mgcpCommand payload
  | .mgcpResponse payload => .mgcpResponse payload
  | .other (.sccp data) => .sccp data
  | .other (.mgcp payload) => mgcpUp side payload
  | .other (.ctrl payload) => .ctrl payload
  | .other (.gsup payload) => .gsup payload
  | .other (.rspro payload) => .rspro payload
  | .other (.osmoPcu payload) => .osmoPcu payload
  | .other (.tcapRouting payload) => .tcapRouting payload
  | .other (.rsl _ streamId payload) => portOf side connId ⟨streamId, none, payload⟩
  | .other (.oml payload) => .oml payload
  | .other (.sp ud) => portOf side connId ud

/-- `g_is_bsc_mgw` of that side -/
def isBscMgw : IpaMode → Bool
  | .client => true
  | .server => false

/-- What the decoder accepts goes up as the message of that side. -/
theorem fMgcpToUser_ok {payload : List UInt8} (h : decMgcp dec side payload = .ok ()) :
    fMgcpToUser dec (isBscMgw side) payload = .ok (mgcpUp side payload) := by
  cases side with
  | client =>
      have hdec : dec.decMgcpCommand payload = .ok () := h
      rw [fMgcpToUser, isBscMgw, if_pos rfl, hdec]
      rfl
  | server =>
      have hdec : dec.decMgcpResponse payload = .ok () := h
      rw [fMgcpToUser, isBscMgw, if_neg Bool.false_ne_true, hdec]
      rfl

/-- User data that decodes is seen at the port of its stream. -/
theorem toUser_ok (h : DecodesUd dec side ud) :
    toUser dec (isBscMgw side) connId ud = .ok (portOf side connId ud) := by
  obtain ⟨streamId, streamIdExt, payload⟩ := ud
  obtain ⟨hmgcp, hrsl, homl, hosmo⟩ := h
  cases streamId with
  | sccp => rfl
  | ccm => rfl
  | other id => rfl
  | mgcpOld => exact fMgcpToUser_ok (hmgcp rfl)
  | rslTrx trx => simp [toUser, portOf, hrsl ⟨trx, rfl⟩, Except.map]
  | oml => simp [toUser, portOf, homl rfl, Except.map]
  | osmo =>
      obtain ⟨hext, hctrl, hgsup, hrspro, hpcu, htcap⟩ := hosmo rfl
      cases streamIdExt with
      | none => rfl
      | some ext =>
          cases ext with
          | mgcp => exact fMgcpToUser_ok (hext rfl)
          | ctrl => simp [toUser, portOf, hctrl rfl, Except.map]
          | gsup => simp [toUser, portOf, hgsup rfl, Except.map]
          | rspro => simp [toUser, portOf, hrspro rfl, Except.map]
          | osmoPcu => simp [toUser, portOf, hpcu rfl, Except.map]
          | tcapRouting => simp [toUser, portOf, htcap rfl, Except.map]
          | _ => rfl

/-- A message that is readable is seen at the port that its port corresponds to.
    MGCP is sent on either of two streams, and both are read. -/
theorem toUser_toIpa (s : State) (sentOn : ConnectionId) {msg : UserMsg}
    (h : Readable dec side msg) : toUser dec (isBscMgw side) connId
      ⟨(toIpa s sentOn msg.down).streamId, (toIpa s sentOn msg.down).streamIdExt,
        (toIpa s sentOn msg.down).msg⟩ = .ok (arrives side connId msg) := by
  have hmgcp : ∀ payload, decMgcp dec side payload = .ok () →
      toUser dec (isBscMgw side) connId ⟨(toIpa s sentOn (.mgcp payload)).streamId,
        (toIpa s sentOn (.mgcp payload)).streamIdExt, (toIpa s sentOn (.mgcp payload)).msg⟩
        = .ok (mgcpUp side payload) := by
    intro payload hdec
    rw [toIpa, fMgcpToUd]
    by_cases hext : s.mpIpaMgcpUsesOsmoExt = true
    · rw [if_pos hext]
      exact fMgcpToUser_ok hdec
    · rw [if_neg hext]
      exact fMgcpToUser_ok hdec
  cases msg with
  | mgcpCommand payload =>
      obtain ⟨rfl, hdec⟩ := h
      exact hmgcp payload hdec
  | mgcpResponse payload =>
      obtain ⟨rfl, hdec⟩ := h
      exact hmgcp payload hdec
  | other msg =>
      cases msg with
      | sccp data => rfl
      | mgcp payload => exact absurd h not_false
      | ctrl payload => simp [toUser, UserMsg.down, toIpa, fFromAsp, arrives, Except.map,
          show dec.decCtrlMessage payload = .ok () from h]
      | gsup payload => simp [toUser, UserMsg.down, toIpa, fFromAsp, arrives, Except.map,
          show dec.decGsupPdu payload = .ok () from h]
      | rspro payload => simp [toUser, UserMsg.down, toIpa, fFromAsp, arrives, Except.map,
          show dec.decRsproPdu payload = .ok () from h]
      | osmoPcu payload => simp [toUser, UserMsg.down, toIpa, fFromAsp, arrives, Except.map,
          show dec.decPcuifMessage payload = .ok () from h]
      | tcapRouting payload => simp [toUser, UserMsg.down, toIpa, fFromAsp, arrives, Except.map,
          show dec.decTcapRouting payload = .ok () from h]
      | oml payload => simp [toUser, UserMsg.down, toIpa, arrives, Except.map,
          show dec.decOmlPdu payload = .ok () from h]
      | rsl rslConnId streamId payload => exact toUser_ok h
      | sp ud => exact toUser_ok h

/-- The user sees the handshake, and not data. -/
def Up.isEvent : Up → Bool
  | .event _ | .idResp _ _ | .spCcm _ => true
  | _ => false

/-- What goes up to a user is no event. -/
theorem toUser_not_isEvent {b : Bool} {up : Up} (h : toUser dec b connId ud = .ok up) :
    up.isEvent = false := by
  rw [toUser] at h
  repeat' split at h
  all_goals first
    | (obtain ⟨_, _, rfl⟩ := map_ok h; rfl)
    | (rw [← Except.ok.inj h]; rfl)
    | skip
  all_goals
    rw [fMgcpToUser] at h
    split at h
    all_goals
      obtain ⟨_, _, rfl⟩ := map_ok h
      rfl

end Data

/-- What is seen on that side of a message that is in flight, when it is user
    data. -/
def Seg.data (dec : Decoders) (side : IpaMode) (connId : ConnectionId) : Seg → Option Up
  | .ud sent => (toUser dec (isBscMgw side) connId sent).toOption
  | .opened | .ccm _ => none

/-- A segment that is not a user's. -/
def Seg.isCtl : Seg → Bool
  | .ud _ => false
  | .opened | .ccm _ => true

-- ── The handshake ────────────────────────────────────────────────────────────

/-- What the client says about itself. -/
def identity (name unit : List UInt8) : List IpaCcmRespPart :=
  [tIdRespPart .unitName name, tIdRespPart .unitId unit]

/-- The request that the server sends can be answered. -/
theorem fCcmMakeIdResp_get {p : IpaCcmParameters} {name unit : List UInt8}
    (hname : p.name = some name) (hunit : p.unit_id = some unit) :
    fCcmMakeIdResp p (some [.unitName, .unitId]) = .ok (.idResp (identity name unit)) := by
  simp [fCcmMakeIdResp, IpaCcmParameters.foo, hname, hunit, identity, pure, Except.pure, bind,
    Except.bind, Except.map]

/-- How far the handshake is: what of it is in flight to the server and to the
    client, and what of it the users of the server and of the client have seen.
    The client says that it acknowledges as soon as it is connected. -/
inductive Phase (cid sid : ConnectionId) (resp : List IpaCcmRespPart) :
    IpaInitBehavior → List Seg → List Seg → List Up → List Up → Prop where
  | connected (init) : Phase cid sid resp init [.opened, .ccm .idAck] [] [] []
  | asked : Phase cid sid resp .sendIpaIdGet [.ccm .idAck] [.ccm tsIpaIdGet]
      [.event (.up sid)] []
  | askedAcked : Phase cid sid resp .sendIpaIdGet [] [.ccm tsIpaIdGet]
      [.event (.up sid), .event (.idAck sid)] []
  | answered : Phase cid sid resp .sendIpaIdGet [.ccm .idAck, .ccm (.idResp resp)] []
      [.event (.up sid)] []
  | answeredAcked : Phase cid sid resp .sendIpaIdGet [.ccm (.idResp resp)] []
      [.event (.up sid), .event (.idAck sid)] []
  | known : Phase cid sid resp .sendIpaIdGet [] [.ccm .idAck]
      [.event (.up sid), .event (.idAck sid), .idResp sid resp] []
  | knownDone : Phase cid sid resp .sendIpaIdGet [] []
      [.event (.up sid), .event (.idAck sid), .idResp sid resp] [.event (.idAck cid)]
  | acked : Phase cid sid resp .sendIpaIdAck [.ccm .idAck] [.ccm .idAck]
      [.event (.up sid)] []
  | ackedServer : Phase cid sid resp .sendIpaIdAck [] [.ccm .idAck]
      [.event (.up sid), .event (.idAck sid)] []
  | ackedClient : Phase cid sid resp .sendIpaIdAck [.ccm .idAck] []
      [.event (.up sid)] [.event (.idAck cid)]
  | ackedDone : Phase cid sid resp .sendIpaIdAck [] []
      [.event (.up sid), .event (.idAck sid)] [.event (.idAck cid)]

/-- What the users of the server see of a handshake that is complete. -/
def serverEvents (sid : ConnectionId) (resp : List IpaCcmRespPart) : IpaInitBehavior → List Up
  | .sendIpaIdGet => [.event (.up sid), .event (.idAck sid), .idResp sid resp]
  | .sendIpaIdAck => [.event (.up sid), .event (.idAck sid)]

variable {cid sid : Nat} {resp : List IpaCcmRespPart} {init : IpaInitBehavior}
variable {a b : List Seg} {es ec : List Up} {dec : Decoders}

/-- What the server has seen is the beginning of what it will see. -/
theorem Phase.server_prefix (h : Phase cid sid resp init a b es ec) :
    es <+: serverEvents sid resp init := by
  cases h with
  | connected => exact List.nil_prefix
  | _ => simp [serverEvents]

/-- So it is for the client. -/
theorem Phase.client_prefix (h : Phase cid sid resp init a b es ec) :
    ec <+: [.event (.idAck cid)] := by
  cases h <;> simp

/-- With nothing in flight the handshake is complete. -/
theorem Phase.complete (h : Phase cid sid resp init [] [] es ec) :
    es = serverEvents sid resp init ∧ ec = [.event (.idAck cid)] := by
  cases h with
  | knownDone => exact ⟨rfl, rfl⟩
  | ackedDone => exact ⟨rfl, rfl⟩

/-- The server, as far as the handshake needs it. -/
structure Serves (init : IpaInitBehavior) (s : State) : Prop where
  mode : s.gMode = .server
  mgw : s.gIsBscMgw = isBscMgw .server
  ccm : s.gCcmEnabled = true
  init : s.gInitBehavior = init

/-- The first message of a server. -/
def firstCcm : IpaInitBehavior → Ccm
  | .sendIpaIdGet => tsIpaIdGet
  | .sendIpaIdAck => .idAck

/-- The server answers the connection with its first message. -/
theorem rx_opened (p : IpaCcmParameters) {s : State} (hs : Serves init s) :
    rx p dec sid s .opened
      = .ok ((onConnOpened s sid).1, [.ccm (firstCcm init)], [.event (.up sid)]) := by
  rw [rx, if_pos ⟨hs.mode, hs.ccm⟩, hs.init]
  cases init with
  | sendIpaIdGet => rfl
  | sendIpaIdAck => rfl

/-- The server answers a message of the handshake. -/
theorem rx_server (p : IpaCcmParameters) {s : State} (hs : Serves init s) (msg : Ccm) :
    rx p dec sid s (.ccm msg) = .ok (s, ccmRxServer sid msg) := by
  rw [rx, if_pos hs.ccm, hs.mode]

/-- The client answers a message of the handshake. -/
theorem rx_client (p : IpaCcmParameters) (msg : Ccm) :
    rx p dec cid (mainClient cid true).1 (.ccm msg)
      = (ccmRxClient p (mainClient cid true).1 msg).map (fun r => ((mainClient cid true).1, r)) :=
  rfl

/-- The server reads a message of the handshake. -/
theorem Phase.at_server {p : IpaCcmParameters} {name unit : List UInt8} {s : State}
    {seg : Seg} (hs : Serves init s)
    (h : Phase cid sid (identity name unit) init (seg :: a) b es ec) :
    ∃ (s' : State) (msgs : List Ccm) (up : List Up),
      rx p dec sid s seg = .ok (s', msgs.map Seg.ccm, up) ∧ Serves init s' ∧
      s'.gLastConnId = (if seg = .opened then (sid : Int) else s.gLastConnId) ∧
      (∀ u ∈ up, u.isEvent = true) ∧
      Phase cid sid (identity name unit) init a (b ++ msgs.map Seg.ccm) (es ++ up) ec := by
  cases h with
  | connected =>
      refine ⟨_, [firstCcm init], _, rx_opened p hs, ⟨hs.mode, hs.mgw, hs.ccm, hs.init⟩,
        rfl, ?_, ?_⟩
      · simp [Up.isEvent]
      · cases init with
        | sendIpaIdGet => exact .asked
        | sendIpaIdAck => exact .acked
  | asked => exact ⟨s, [], _, rx_server p hs _, hs, rfl, by simp [Up.isEvent], .askedAcked⟩
  | answered => exact ⟨s, [], _, rx_server p hs _, hs, rfl, by simp [Up.isEvent], .answeredAcked⟩
  | answeredAcked =>
      exact ⟨s, [.idAck], _, rx_server p hs _, hs, rfl, by simp [Up.isEvent], .known⟩
  | acked => exact ⟨s, [], _, rx_server p hs _, hs, rfl, by simp [Up.isEvent], .ackedServer⟩
  | ackedClient => exact ⟨s, [], _, rx_server p hs _, hs, rfl, by simp [Up.isEvent], .ackedDone⟩

/-- The client reads a message of the handshake. -/
theorem Phase.at_client {p : IpaCcmParameters} {name unit : List UInt8}
    (hname : p.name = some name) (hunit : p.unit_id = some unit) {seg : Seg}
    (h : Phase cid sid (identity name unit) init a (seg :: b) es ec) :
    ∃ (msgs : List Ccm) (up : List Up), rx p dec cid (mainClient cid true).1 seg
        = .ok ((mainClient cid true).1, msgs.map Seg.ccm, up) ∧
      (∀ u ∈ up, u.isEvent = true) ∧
      Phase cid sid (identity name unit) init (a ++ msgs.map Seg.ccm) b es (ec ++ up) := by
  have hget : rx p dec cid (mainClient cid true).1 (.ccm tsIpaIdGet)
      = .ok ((mainClient cid true).1, [.ccm (.idResp (identity name unit))], []) := by
    rw [tsIpaIdGet, rx_client, ccmRxClient, fCcmMakeIdResp_get hname hunit]
    rfl
  cases h with
  | asked => exact ⟨[.idResp (identity name unit)], [], hget, by simp, .answered⟩
  | askedAcked => exact ⟨[.idResp (identity name unit)], [], hget, by simp, .answeredAcked⟩
  | known => exact ⟨[], _, rfl, by simp [Up.isEvent], .knownDone⟩
  | acked => exact ⟨[], _, rfl, by simp [Up.isEvent], .ackedClient⟩
  | ackedServer => exact ⟨[], _, rfl, by simp [Up.isEvent], .ackedDone⟩

-- ── Runs ─────────────────────────────────────────────────────────────────────

/-- What the client's user sends. -/
def Ev.ofClient : Ev dec → Option UserMsg
  | .clientSends msg => some msg.1
  | _ => none

/-- What the server's user sends. -/
def Ev.ofServer : Ev dec → Option UserMsg
  | .serverSends msg => some msg.1
  | _ => none

/-- The events among what went up. -/
def events (us : List Up) : List Up := us.filter Up.isEvent

/-- The messages among what went up. -/
def data (us : List Up) : List Up := us.filter (fun u => !u.isEvent)

/-- Of events all are events. -/
theorem events_of_events {us : List Up} (h : ∀ u ∈ us, u.isEvent = true) : events us = us :=
  List.filter_eq_self.mpr h

/-- Of events none is a message. -/
theorem data_of_events {us : List Up} (h : ∀ u ∈ us, u.isEvent = true) : data us = [] := by
  refine List.filter_eq_nil_iff.mpr fun u hu => ?_
  rw [h u hu]
  decide

@[simp] theorem events_append (us vs : List Up) : events (us ++ vs) = events us ++ events vs :=
  List.filter_append ..

@[simp] theorem data_append (us vs : List Up) : data (us ++ vs) = data us ++ data vs :=
  List.filter_append ..

/-- A message is no event. -/
theorem events_toUser {isMgw : Bool} {connId : ConnectionId} {ud : AspIpaUnitdata} {up : Up}
    (h : toUser dec isMgw connId ud = .ok up) : events [up] = [] := by
  simp [events, toUser_not_isEvent h]

/-- A message is a message. -/
theorem data_toUser {isMgw : Bool} {connId : ConnectionId} {ud : AspIpaUnitdata} {up : Up}
    (h : toUser dec isMgw connId ud = .ok up) : data [up] = [up] := by
  simp [data, toUser_not_isEvent h]

/-- All user data that is in flight to that side is read there. -/
def Decodes (dec : Decoders) (side : IpaMode) (connId : ConnectionId) (segs : List Seg) : Prop :=
  ∀ sent, Seg.ud sent ∈ segs → ∃ up, toUser dec (isBscMgw side) connId sent = .ok up

/-- What is first in flight is decoded, and so is the rest. -/
theorem Decodes.tail {side : IpaMode} {connId : ConnectionId} {seg : Seg} {segs : List Seg}
    (h : Decodes dec side connId (seg :: segs)) : Decodes dec side connId segs :=
  fun sent hmem => h sent (List.mem_cons_of_mem seg hmem)

/-- Messages of the handshake are no user data. -/
theorem Decodes.append_ccm {side : IpaMode} {connId : ConnectionId} {segs : List Seg}
    (h : Decodes dec side connId segs) (msgs : List Ccm) :
    Decodes dec side connId (segs ++ msgs.map Seg.ccm) := by
  intro sent hmem
  rcases List.mem_append.mp hmem with hmem | hmem
  · exact h sent hmem
  · obtain ⟨msg, -, hmsg⟩ := List.mem_map.mp hmem
    exact nomatch hmsg

/-- What is sent is readable. -/
theorem Decodes.send {side : IpaMode} {connId sentOn : ConnectionId} {segs : List Seg}
    (h : Decodes dec side connId segs) (s : State) (msg : Sent dec side) :
    Decodes dec side connId (segs ++ [wire (toIpa s sentOn msg.1.down)]) := by
  intro sent hmem
  rcases List.mem_append.mp hmem with hmem | hmem
  · exact h sent hmem
  · rw [wire] at hmem
    rw [Seg.ud.inj (List.mem_singleton.mp hmem)]
    exact ⟨_, toUser_toIpa s sentOn msg.2.2⟩

/-- What is seen of a message that is sent. -/
theorem data_wire {side : IpaMode} {connId : ConnectionId} (s : State) (sentOn : ConnectionId)
    (msg : Sent dec side) : Seg.data dec side connId (wire (toIpa s sentOn msg.1.down))
      = some (arrives side connId msg.1) := by
  rw [wire, Seg.data, toUser_toIpa s sentOn msg.2.2]
  rfl

/-- What is seen and what is in flight is what was sent; and the handshake is
    somewhere. -/
structure Inv (dec : Decoders) (cid sid : Nat) (resp : List IpaCcmRespPart)
    (init : IpaInitBehavior) (l : Link)
    (is : List (Ev dec)) (os : List Seen) : Prop where
  client : l.client = (mainClient cid true).1
  server : Serves init l.server
  /-- The first that the server reads is that the connection is open. -/
  unread : (.toServer : Ev dec) ∉ is → l.server.gLastConnId = -1
    ∧ ∃ rest, l.toServer = .opened :: rest
  read : (.toServer : Ev dec) ∈ is → l.server.gLastConnId = (sid : Int)
  toServer : data (os.flatMap (·.server)) ++ l.toServer.filterMap (Seg.data dec .server sid)
    = (is.filterMap Ev.ofClient).map (arrives .server sid)
  toClient : data (os.flatMap (·.client)) ++ l.toClient.filterMap (Seg.data dec .client cid)
    = (is.filterMap Ev.ofServer).map (arrives .client cid)
  decServer : Decodes dec .server sid l.toServer
  decClient : Decodes dec .client cid l.toClient
  phase : Phase cid sid resp init (l.toServer.filter Seg.isCtl) (l.toClient.filter Seg.isCtl)
    (events (os.flatMap (·.server))) (events (os.flatMap (·.client)))

/-- At the start the connection is in flight, and nothing was seen. -/
theorem inv_start (cid sid listened : Nat) (resp : List IpaCcmRespPart) (init : IpaInitBehavior)
    (stop : Bool) : Inv dec cid sid resp init (start cid listened init stop) [] [] where
  client := rfl
  server := ⟨rfl, rfl, rfl, rfl⟩
  unread := fun _ => ⟨rfl, _, rfl⟩
  read := fun h => absurd h List.not_mem_nil
  toServer := rfl
  toClient := rfl
  decServer := by
    intro sent hmem
    simp [start, mainClient] at hmem
  decClient := fun sent hmem => absurd hmem List.not_mem_nil
  phase := .connected init

@[simp] theorem filterMap_ccm (side : IpaMode) (connId : ConnectionId) (msgs : List Ccm) :
    msgs.filterMap (fun msg => Seg.data dec side connId (Seg.ccm msg)) = [] := by
  induction msgs with
  | nil => rfl
  | cons msg msgs ih => exact ih

/-- What is in flight is of the handshake or user data. -/
theorem Seg.ctl_or_ud (dec : Decoders) (side : IpaMode) (connId : ConnectionId) (seg : Seg) :
    (seg.isCtl = true ∧ seg.data dec side connId = none) ∨
      (seg.isCtl ≠ true ∧ ∃ sent, seg = .ud sent) := by
  cases seg with
  | opened => exact Or.inl ⟨rfl, rfl⟩
  | ccm msg => exact Or.inl ⟨rfl, rfl⟩
  | ud sent => exact Or.inr ⟨Bool.false_ne_true, sent, rfl⟩

@[simp] theorem filter_ccm (msgs : List Ccm) :
    (msgs.map Seg.ccm).filter Seg.isCtl = msgs.map Seg.ccm :=
  List.filter_eq_self.mpr fun x hx => by
    obtain ⟨msg, -, rfl⟩ := List.mem_map.mp hx
    rfl

/-- The server reads. -/
theorem inv_toServer {p : IpaCcmParameters} {name unit : List UInt8} {l l' : Link}
    {is : List (Ev dec)} {os : List Seen} {o : Seen}
    (hI : Inv dec cid sid (identity name unit) init l is os)
    (h : step p dec cid sid l .toServer = .ok (l', o)) :
    Inv dec cid sid (identity name unit) init l' (is ++ [.toServer]) (os ++ [o]) := by
  obtain ⟨client, server, toServer, toClient⟩ := l
  obtain ⟨hclient, hserver, hunread, hread, htoServer, htoClient, hdecServer, hdecClient,
    hphase⟩ := hI
  dsimp only at hclient hserver hunread hread htoServer htoClient hdecServer hdecClient hphase
  cases toServer with
  | nil =>
      obtain ⟨rfl, rfl⟩ := Prod.mk.inj (Except.ok.inj h)
      have hmem : (.toServer : Ev dec) ∈ is := by
        by_contra hnot
        obtain ⟨-, rest, hrest⟩ := hunread hnot
        cases hrest
      constructor
      · exact hclient
      · exact hserver
      · exact fun hnot => absurd (List.mem_append_left _ hmem) hnot
      · exact fun _ => hread hmem
      · simpa [List.filterMap_cons, Ev.ofClient] using htoServer
      · simpa [List.filterMap_cons, Ev.ofServer] using htoClient
      · exact hdecServer
      · exact hdecClient
      · simpa using hphase
  | cons seg rest =>
      obtain ⟨⟨s, tx, up⟩, hrx, heq⟩ := map_ok h
      obtain ⟨rfl, rfl⟩ := Prod.mk.inj heq
      rcases seg.ctl_or_ud dec .server sid with ⟨hctl, hdata⟩ | ⟨hctl, sent, rfl⟩
      · -- the handshake goes on
        rw [List.filter_cons_of_pos hctl] at hphase
        obtain ⟨s', msgs, up', hrx', hserver', hlast, hup, hphase'⟩ :=
          hphase.at_server (p := p) hserver
        rw [hrx'] at hrx
        obtain ⟨rfl, rfl, rfl⟩ : s' = s ∧ msgs.map Seg.ccm = tx ∧ up' = up := by
          simpa using hrx
        rw [List.filterMap_cons_none hdata] at htoServer
        constructor
        · exact hclient
        · exact hserver'
        · exact fun hnot => absurd (List.mem_append_right _ List.mem_cons_self) hnot
        · intro _
          rw [hlast]
          by_cases hmem : (.toServer : Ev dec) ∈ is
          · rw [hread hmem, ite_self]
          · obtain ⟨-, rest', hrest'⟩ := hunread hmem
            rw [if_pos (List.cons.inj hrest').1]
        · simpa [List.filterMap_cons, Ev.ofClient, data_of_events hup] using htoServer
        · simpa [List.filterMap_cons, Ev.ofServer] using htoClient
        · exact hdecServer.tail
        · exact hdecClient.append_ccm msgs
        · simpa [events_of_events hup] using hphase'
      · -- user data goes up
        obtain ⟨seen, hseen⟩ := hdecServer sent List.mem_cons_self
        rw [rx, hserver.mgw, hseen] at hrx
        obtain ⟨rfl, rfl, rfl⟩ : server = s ∧ [] = tx ∧ [seen] = up := by
          simpa [Except.map] using hrx
        rw [List.filter_cons_of_neg hctl] at hphase
        have hmem : (.toServer : Ev dec) ∈ is := by
          by_contra hnot
          obtain ⟨-, rest', hrest'⟩ := hunread hnot
          cases hrest'
        have hdata : Seg.data dec .server sid (.ud sent) = some seen := by
          rw [Seg.data, hseen]
          rfl
        rw [List.filterMap_cons_some hdata] at htoServer
        constructor
        · exact hclient
        · exact hserver
        · exact fun hnot => absurd (List.mem_append_left _ hmem) hnot
        · exact fun _ => hread hmem
        · simpa [List.filterMap_cons, Ev.ofClient, data_toUser hseen] using htoServer
        · simpa [List.filterMap_cons, Ev.ofServer] using htoClient
        · exact hdecServer.tail
        · simpa using hdecClient
        · simpa [events_toUser hseen] using hphase

/-- The client reads. -/
theorem inv_toClient {p : IpaCcmParameters} {name unit : List UInt8} (hname : p.name = some name)
    (hunit : p.unit_id = some unit) {l l' : Link} {is : List (Ev dec)} {os : List Seen} {o : Seen}
    (hI : Inv dec cid sid (identity name unit) init l is os)
    (h : step p dec cid sid l .toClient = .ok (l', o)) :
    Inv dec cid sid (identity name unit) init l' (is ++ [.toClient]) (os ++ [o]) := by
  obtain ⟨client, server, toServer, toClient⟩ := l
  obtain ⟨hclient, hserver, hunread, hread, htoServer, htoClient, hdecServer, hdecClient,
    hphase⟩ := hI
  dsimp only at hclient hserver hunread hread htoServer htoClient hdecServer hdecClient hphase
  subst hclient
  cases toClient with
  | nil =>
      obtain ⟨rfl, rfl⟩ := Prod.mk.inj (Except.ok.inj h)
      constructor
      · rfl
      · exact hserver
      · exact fun hnot => hunread (fun h => hnot (List.mem_append_left _ h))
      · exact fun hmem => hread (by simpa using hmem)
      · simpa [List.filterMap_cons, Ev.ofClient] using htoServer
      · simpa [List.filterMap_cons, Ev.ofServer] using htoClient
      · exact hdecServer
      · exact hdecClient
      · simpa using hphase
  | cons seg rest =>
      obtain ⟨⟨s, tx, up⟩, hrx, heq⟩ := map_ok h
      obtain ⟨rfl, rfl⟩ := Prod.mk.inj heq
      rcases seg.ctl_or_ud dec .client cid with ⟨hctl, hdata⟩ | ⟨hctl, sent, rfl⟩
      · -- the handshake goes on
        rw [List.filter_cons_of_pos hctl] at hphase
        obtain ⟨msgs, up', hrx', hup, hphase'⟩ := hphase.at_client (p := p) hname hunit
        rw [hrx'] at hrx
        obtain ⟨rfl, rfl, rfl⟩ :
            (mainClient cid true).1 = s ∧ msgs.map Seg.ccm = tx ∧ up' = up := by
          simpa using hrx
        rw [List.filterMap_cons_none hdata] at htoClient
        constructor
        · rfl
        · exact hserver
        · intro hnot
          obtain ⟨hlast, rest', hrest'⟩ :=
            hunread (fun h => hnot (List.mem_append_left _ h))
          exact ⟨hlast, rest' ++ _, by rw [hrest']; rfl⟩
        · exact fun hmem => hread (by simpa using hmem)
        · simpa [List.filterMap_cons, Ev.ofClient] using htoServer
        · simpa [List.filterMap_cons, Ev.ofServer, data_of_events hup] using htoClient
        · exact hdecServer.append_ccm msgs
        · exact hdecClient.tail
        · simpa [events_of_events hup] using hphase'
      · -- user data goes up
        obtain ⟨seen, hseen⟩ := hdecClient sent List.mem_cons_self
        rw [rx, show (mainClient cid true).1.gIsBscMgw = isBscMgw .client from rfl, hseen] at hrx
        obtain ⟨rfl, rfl, rfl⟩ :
            (mainClient cid true).1 = s ∧ [] = tx ∧ [seen] = up := by
          simpa [Except.map] using hrx
        rw [List.filter_cons_of_neg hctl] at hphase
        have hdata : Seg.data dec .client cid (.ud sent) = some seen := by
          rw [Seg.data, hseen]
          rfl
        rw [List.filterMap_cons_some hdata] at htoClient
        constructor
        · rfl
        · exact hserver
        · intro hnot
          obtain ⟨hlast, rest', hrest'⟩ :=
            hunread (fun h => hnot (List.mem_append_left _ h))
          exact ⟨hlast, rest', by rw [hrest', List.append_nil]⟩
        · exact fun hmem => hread (by simpa using hmem)
        · simpa [List.filterMap_cons, Ev.ofClient] using htoServer
        · simpa [List.filterMap_cons, Ev.ofServer, data_toUser hseen] using htoClient
        · simpa using hdecServer
        · exact hdecClient.tail
        · simpa [events_toUser hseen] using hphase

/-- **ONE STEP** keeps both. -/
theorem inv_step {p : IpaCcmParameters} {name unit : List UInt8} (hname : p.name = some name)
    (hunit : p.unit_id = some unit) {l l' : Link} {is : List (Ev dec)} {os : List Seen} {i : Ev dec}
    {o : Seen} (hI : Inv dec cid sid (identity name unit) init l is os)
    (h : step p dec cid sid l i = .ok (l', o)) :
    Inv dec cid sid (identity name unit) init l' (is ++ [i]) (os ++ [o]) := by
  cases i with
  | clientSends msg =>
      obtain ⟨connId, -, heq⟩ := map_ok h
      obtain ⟨rfl, rfl⟩ := Prod.mk.inj heq
      constructor
      · exact hI.client
      · exact hI.server
      · intro hnot
        obtain ⟨hlast, rest, hrest⟩ := hI.unread (fun h => hnot (List.mem_append_left _ h))
        exact ⟨hlast, rest ++ [_], by rw [hrest]; rfl⟩
      · exact fun hmem => hI.read (by simpa using hmem)
      · simp [List.filterMap_append, data_wire, Ev.ofClient, ← hI.toServer]
      · simpa [List.filterMap_cons, Ev.ofServer] using hI.toClient
      · exact hI.decServer.send l.client msg
      · exact hI.decClient
      · simpa [wire, Seg.isCtl] using hI.phase
  | serverSends msg =>
      obtain ⟨connId, -, heq⟩ := map_ok h
      obtain ⟨rfl, rfl⟩ := Prod.mk.inj heq
      constructor
      · exact hI.client
      · exact hI.server
      · exact fun hnot => hI.unread (fun h => hnot (List.mem_append_left _ h))
      · exact fun hmem => hI.read (by simpa using hmem)
      · simpa [List.filterMap_cons, Ev.ofClient] using hI.toServer
      · simp [List.filterMap_append, data_wire, Ev.ofServer, ← hI.toClient]
      · exact hI.decServer
      · exact hI.decClient.send l.server msg
      · simpa [wire, Seg.isCtl] using hI.phase
  | toServer => exact inv_toServer hI h
  | toClient => exact inv_toClient hname hunit hI h

/-- A step fails only when a user of the server does not wait. -/
theorem step_ok_iff {p : IpaCcmParameters} {name unit : List UInt8} (hname : p.name = some name)
    (hunit : p.unit_id = some unit) {l : Link} {is : List (Ev dec)} {os : List Seen} {i : Ev dec}
    (hI : Inv dec cid sid (identity name unit) init l is os) :
    (∃ r, step p dec cid sid l i = .ok r) ↔ (i.ofServer.isSome → (.toServer : Ev dec) ∈ is) := by
  cases i with
  | clientSends msg =>
      refine iff_of_true ?_ (fun h => by cases h)
      have hconn : fIpaConnId l.client = .ok (cid : Int) := by
        have hne : ¬ ((cid : Int) = -1) := by omega
        rw [hI.client]
        show (if (cid : Int) = -1 then Except.error notEstablished else Except.ok (cid : Int)) = _
        rw [if_neg hne]
      exact ⟨_, by rw [step, hconn]; rfl⟩
  | serverSends msg =>
      have hconn : fIpaConnId l.server
          = if l.server.gLastConnId = -1 then .error notEstablished
            else .ok l.server.gLastConnId := by
        rw [fIpaConnId, hI.server.mode]
      by_cases hmem : (.toServer : Ev dec) ∈ is
      · refine iff_of_true ?_ (fun _ => hmem)
        have hne : ¬ ((sid : Int) = -1) := by omega
        rw [hI.read hmem, if_neg hne] at hconn
        exact ⟨_, by rw [step, hconn]; rfl⟩
      · refine iff_of_false ?_ (fun h => hmem (h rfl))
        rw [if_pos (hI.unread hmem).1] at hconn
        rintro ⟨r, hr⟩
        rw [step, hconn] at hr
        cases hr
  | toServer =>
      refine iff_of_true ?_ (fun h => by cases h)
      cases hseg : l.toServer with
      | nil => exact ⟨_, by rw [step, hseg]⟩
      | cons seg rest =>
          rcases seg.ctl_or_ud dec .server sid with ⟨hctl, -⟩ | ⟨-, sent, rfl⟩
          · have hphase := hI.phase
            rw [hseg, List.filter_cons_of_pos hctl] at hphase
            obtain ⟨s', msgs, up, hrx, -⟩ := hphase.at_server (p := p) hI.server
            exact ⟨_, by rw [step, hseg]; dsimp only; rw [hrx]; rfl⟩
          · obtain ⟨seen, hseen⟩ := hI.decServer sent (hseg ▸ List.mem_cons_self)
            exact ⟨_, by rw [step, hseg]; dsimp only; rw [rx, hI.server.mgw, hseen]; rfl⟩
  | toClient =>
      refine iff_of_true ?_ (fun h => by cases h)
      cases hseg : l.toClient with
      | nil => exact ⟨_, by rw [step, hseg]⟩
      | cons seg rest =>
          rcases seg.ctl_or_ud dec .client cid with ⟨hctl, -⟩ | ⟨-, sent, rfl⟩
          · have hphase := hI.phase
            rw [hseg, List.filter_cons_of_pos hctl] at hphase
            obtain ⟨msgs, up, hrx, -⟩ := hphase.at_client (p := p) hname hunit
            exact ⟨_, by rw [step, hseg]; dsimp only; rw [hI.client, hrx]; rfl⟩
          · obtain ⟨seen, hseen⟩ := hI.decClient sent (hseg ▸ List.mem_cons_self)
            have hrx : rx p dec cid l.client (.ud sent) = .ok (l.client, [], [seen]) := by
              rw [hI.client, rx, show (mainClient cid true).1.gIsBscMgw = isBscMgw .client from rfl,
                hseen]
              rfl
            exact ⟨_, by rw [step, hseg]; dsimp only; rw [hrx]; rfl⟩

/-- What the users of both have seen after a run. -/
structure LinkSeen (cid sid : Nat) (resp : List IpaCcmRespPart) (init : IpaInitBehavior)
    (is : List (Ev dec)) (l : Link) (os : List Seen) : Prop where
  toServer : data (os.flatMap (·.server)) <+: (is.filterMap Ev.ofClient).map (arrives .server sid)
  toClient : data (os.flatMap (·.client)) <+: (is.filterMap Ev.ofServer).map (arrives .client cid)
  server : events (os.flatMap (·.server)) <+: serverEvents sid resp init
  client : events (os.flatMap (·.client)) <+: [.event (.idAck cid)]
  /-- With nothing in flight any more, everything was seen. -/
  complete : l.toServer = [] → l.toClient = [] →
    data (os.flatMap (·.server)) = (is.filterMap Ev.ofClient).map (arrives .server sid) ∧
    data (os.flatMap (·.client)) = (is.filterMap Ev.ofServer).map (arrives .client cid) ∧
    events (os.flatMap (·.server)) = serverEvents sid resp init ∧
    events (os.flatMap (·.client)) = [.event (.idAck cid)]

/-- The invariant says what was seen. -/
theorem Inv.seen {l : Link} {is : List (Ev dec)} {os : List Seen}
    (h : Inv dec cid sid resp init l is os) :
    LinkSeen cid sid resp init is l os where
  toServer := ⟨_, h.toServer⟩
  toClient := ⟨_, h.toClient⟩
  server := h.phase.server_prefix
  client := h.phase.client_prefix
  complete := by
    intro hserver hclient
    have htoServer := h.toServer
    have htoClient := h.toClient
    have hphase := h.phase
    rw [hserver, List.filterMap_nil, List.append_nil] at htoServer
    rw [hclient, List.filterMap_nil, List.append_nil] at htoClient
    rw [hserver, hclient] at hphase
    exact ⟨htoServer, htoClient, hphase.complete⟩

/-- **TWO EMULATIONS ON ONE CONNECTION.**  Users send what the other side reads:
    of MGCP, those of the server commands and those of the client responses.  A
    run comes through exactly when no user of the server sends before the server
    has read that a client is connected.  Then, in whatever order users send and
    the two read, every user sees what the users at the same port on the other
    side sent, in order and nothing twice; the handshake goes through its steps
    in order; and when nothing is in flight any more, everything that was sent
    was seen, and both sides know of each other. -/
theorem ipa_link (p : IpaCcmParameters) (dec : Decoders) (cid sid listened : Nat)
    (init : IpaInitBehavior) (stop : Bool) {name unit : List UInt8}
    (hname : p.name = some name) (hunit : p.unit_id = some unit) (is : List (Ev dec)) :
    ((∃ r, run (step p dec cid sid) (start cid listened init stop) is = .ok r) ↔
      ∀ is₁ i is₂, is = is₁ ++ i :: is₂ → i.ofServer.isSome →
        (.toServer : Ev dec) ∈ is₁) ∧
    ∀ l os, run (step p dec cid sid) (start cid listened init stop) is = .ok (l, os) →
      LinkSeen cid sid (identity name unit) init is l os := by
  have hstart : Inv dec cid sid (identity name unit) init (start cid listened init stop) [] [] :=
    inv_start cid sid listened (identity name unit) init stop
  constructor
  · exact run_ok_iff (P := fun js i => i.ofServer.isSome → (.toServer : Ev dec) ∈ js)
      (fun _ _ _ _ _ _ hI hs => inv_step hname hunit hI hs)
      (fun _ _ _ _ hI => step_ok_iff hname hunit hI) is _ [] [] hstart
  · intro l os h
    have hI := run_record_inv (fun _ _ _ _ _ _ hI hs => inv_step hname hunit hI hs)
      is _ [] [] l os hstart h
    rw [List.nil_append, List.nil_append] at hI
    exact hI.seen

/-- `c_IPA_default_ccm_pars` -/
def cIpaDefaultCcmPars : IpaCcmParameters where
  ser_nr := some []
  name := some [109, 97, 104, 108, 122, 101, 105, 116]
  location1 := some []
  location2 := some []
  equip_version := some []
  sw_version := some []
  ip_addr := some []
  mac_addr := some []
  unit_id := some [48, 47, 49, 47, 50]
  osmo_rand := some []

/-- Decoders that look at the first octet: a response of MGCP begins with a digit
    of its code, a command with a letter of its verb. -/
def firstOctet : Decoders :=
  let reads (accepts : UInt8 → Bool) (payload : List UInt8) : Except Fault Unit :=
    if payload.head?.any accepts then .ok () else .error .rawIncomplete
  { decMgcpCommand := reads (fun octet => 65 ≤ octet ∧ octet ≤ 90)
    decMgcpResponse := reads (fun octet => 48 ≤ octet ∧ octet ≤ 57)
    decCtrlMessage := reads (fun octet => 65 ≤ octet ∧ octet ≤ 90)
    decGsupPdu := reads (fun _ => true)
    decRsproPdu := reads (fun _ => true)
    decPcuifMessage := reads (fun _ => true)
    decTcapRouting := reads (fun _ => true)
    decRslMessage := reads (fun _ => true)
    decOmlPdu := reads (fun _ => true) }

/-- `200 1 OK` of the client -/
def mgcpOk : Sent firstOctet .server :=
  ⟨.mgcpResponse [50, 48, 48, 32, 49, 32, 79, 75], trivial, rfl, rfl⟩

/-- `RSIP 1 *` of the server -/
def mgcpRsip : Sent firstOctet .client :=
  ⟨.mgcpCommand [82, 83, 73, 80, 32, 49, 32, 42], trivial, rfl, rfl⟩

/-- A handshake with MGCP in its midst, to its end. -/
def handshake : List (Ev firstOctet) :=
  [.clientSends mgcpOk, .toServer, .serverSends mgcpRsip, .toServer, .toClient, .toServer,
    .toClient, .toServer, .toClient]

/-- A handshake, with messages of both users in between. -/
theorem ipa_link_handshake : ∃ l os,
    run (step cIpaDefaultCcmPars firstOctet 1 2) (start 1 0 .sendIpaIdGet true) handshake
      = .ok (l, os) ∧
    l.toServer = [] ∧ l.toClient = [] ∧
    LinkSeen 1 2 (identity [109, 97, 104, 108, 122, 101, 105, 116] [48, 47, 49, 47, 50])
      .sendIpaIdGet handshake l os :=
  ⟨_, _, rfl, rfl, rfl,
    (ipa_link cIpaDefaultCcmPars firstOctet 1 2 0 .sendIpaIdGet true rfl rfl handshake).2 _ _
      rfl⟩

end OsmoIpaLink
