import OsmoTtcn.IuupEmulationProofs

/-! # The transmit stream of the RTP emulation

    `RTP_Emulation_CT` sends a packet when its timer expires, loops back what it
    receives, and answers control PDUs of IuUP.  Every packet has the number and
    the time stamp that the component keeps, and both are raised after it.

    The number is raised without a wrap and does not fit its 16 bits after
    65535, the time stamp does not fit its 32 bits, and what the time stamp is
    raised by is a quotient by a quotient.  `rtp_stream` proves the stream right
    of every run that stays below, with a duration that the two divisions are
    exact enough for. -/

namespace OsmoRtp

open OsmoTitan OsmoIuup OsmoIuupEm RunGuard SpecRun

-- ── Data ─────────────────────────────────────────────────────────────────────

/-- `RtpemConfigPayload` -/
structure RtpemConfigPayload where
  payloadType : Fin 128
  fixedPayload : Option (List UInt8)
  deriving DecidableEq, Repr

/-- `RtpemConfig` -/
structure RtpemConfig where
  txSamplerateHz : Int
  txDurationMs : Int
  txSsrc : BitVec 32
  txPayloads : List RtpemConfigPayload
  rxPayloads : List RtpemConfigPayload
  iuupMode : Bool
  iuupCfg : IuupConfig
  deriving DecidableEq, Repr

/-- `c_RtpemDefaultCfg` -/
def cRtpemDefaultCfg : RtpemConfig where
  txSamplerateHz := 8000
  txDurationMs := 20
  txSsrc := 0xdeadbeef
  txPayloads := [⟨0, some [1, 2, 3, 4]⟩]
  rxPayloads := [⟨0, some [1, 2, 3, 4]⟩]
  iuupMode := false
  iuupCfg := amrConfig true

/-- `RtpemStats` -/
structure RtpemStats where
  /-- number of packets transmitted -/
  numPktsTx : Nat := 0
  /-- number of RTP payload bytes transmitted -/
  bytesPayloadTx : Nat := 0
  /-- number of packets received -/
  numPktsRx : Nat := 0
  /-- number of RTP payload bytes received -/
  bytesPayloadRx : Nat := 0
  /-- number of packets received out-of-sequence -/
  numPktsRxErrSeq : Nat := 0
  /-- number of packets received wrong timestamp -/
  numPktsRxErrTs : Nat := 0
  /-- number of packets received wrong payload type -/
  numPktsRxErrPt : Nat := 0
  /-- number of packets received during Rx disable -/
  numPktsRxErrDisabled : Nat := 0
  /-- number of packets received with mismatching payload -/
  numPktsRxErrPayload : Nat := 0
  deriving DecidableEq, Repr

/-- `PDU_RTP`.  The number that the emulation computes is a plain one: only the
    RAW encoder checks that it fits. -/
structure PduRtp where
  version : Fin 4
  paddingInd : Bool
  extensionInd : Bool
  csrcCount : Fin 16
  markerBit : Bool
  payloadType : Fin 128
  sequenceNumber : Nat
  timeStamp : BitVec 32
  ssrcId : BitVec 32
  csrcs : Option (List (BitVec 32))
  extHeader : Option (List UInt8)
  data : List UInt8
  deriving DecidableEq, Repr

/-- `RtpemMode` -/
inductive RtpemMode where
  | none
  | txOnly
  | rxOnly
  | bidir
  | loopback
  deriving DecidableEq, Repr

/-- The variables of the component and of `f_main`. -/
structure State where
  gRtpConnId : Int := -1
  gRtcpConnId : Int := -1
  /-- `connId` of the two receive templates, `?` until the first bind. -/
  trRtpConnId : Option Int := none
  trRtcpConnId : Option Int := none
  gCfg : RtpemConfig := cRtpemDefaultCfg
  gStatsRtp : RtpemStats := {}
  gStatsRtcp : RtpemStats := {}
  gLoopback : Bool := false
  gRxEnabled : Bool := false
  /-- Set to true after connect() -/
  gTxConnected : Bool := false
  gTxNextSeq : Nat := 0
  gTxNextTs : Int := 0
  gIuupEnt : IuupEntity := tIuupEntity cRtpemDefaultCfg.iuupCfg
  gConnRefuseExpect : Bool := false
  gConnRefuseReceived : Bool := false
  /-- `T_transmit` was started and neither stopped nor taken since. -/
  tTransmit : Bool := false
  deriving DecidableEq, Repr

/-- What a round of `f_main` can start with. -/
inductive Input where
  /-- `RTPEM_bind`, with the connections that `f_IPL4_listen` gives. -/
  | bind (localPort : Nat) (rtp rtcp : Option Int)
  /-- `RTPEM_connect`, with the connections that `f_IPL4_connect` gives. -/
  | connect (remotePort : Nat) (rtp rtcp : Option Int)
  | mode (mode : RtpemMode)
  | configure (cfg : RtpemConfig)
  | statsGet (rtcp : Bool)
  | connRefuseExpect (expect : Bool)
  | connRefuseReceived
  /-- A packet on a connection, and whether `DATA` is connected. -/
  | rtp (connId : Int) (rtp : PduRtp) (dataConnected : Bool)
  | rtcp (connId : Int) (rtcp : List UInt8) (dataConnected : Bool)
  | timeout
  | connRefused
  | unexpectedRtp
  | unexpectedRtcp
  deriving DecidableEq, Repr

/-- What a round of `f_main` sends, and on which port. -/
inductive Output where
  | send (rtp : PduRtp)
  | reply
  | replyStats (stats : RtpemStats)
  | replyReceived (received : Bool)
  | data (rtp : PduRtp)
  | dataRtcp (rtcp : List UInt8)
  deriving DecidableEq, Repr

/-- Why a round ends the component. -/
inductive Halt where
  /-- A number or a time stamp cannot be computed, or does not fit. -/
  | numbering (e : Fault)
  | other (e : Fault)
  deriving DecidableEq, Repr

-- ── Arithmetic of TTCN-3 ─────────────────────────────────────────────────────

/-- `/` -/
def ttcnDiv (a b : Int) : Except Fault Int :=
  if b = 0 then .error (.ttcnError "Integer division by zero.") else .ok (a.tdiv b)

/-- `mod` of numbers that are not negative. -/
def ttcnMod (a b : Nat) : Except Fault Nat :=
  if b = 0 then .error (.ttcnError "The right operand of mod operator is zero.")
  else .ok (a % b)

/-- `int2bit(n, 32)` -/
def int2bit32 (n : Int) : Except Fault (BitVec 32) :=
  if 0 ≤ n ∧ n < 4294967296 then .ok (BitVec.ofInt 32 n) else .error .outOfRange

-- ── Transmission ─────────────────────────────────────────────────────────────

/-- `ts_RTP`, without CSRCs. -/
def tsRtp (ssrc : BitVec 32) (pt : Fin 128) (seq : Nat) (ts : BitVec 32)
    (payload : List UInt8) (marker : Bool) : PduRtp where
  version := 2
  paddingInd := false
  extensionInd := false
  csrcCount := 0
  markerBit := marker
  payloadType := pt
  sequenceNumber := seq
  timeStamp := ts
  ssrcId := ssrc
  csrcs := none
  extHeader := none
  data := payload

/-- The RAW encoder on the field that may not fit: the number has 16 bits. -/
def encodes (rtp : PduRtp) : Except Fault Unit :=
  if 65536 ≤ rtp.sequenceNumber then .error .rawOverflow else .ok ()

/-- `g_cfg.tx_samplerate_hz / (1000 / g_cfg.tx_duration_ms)` -/
def tsIncrement (cfg : RtpemConfig) : Except Fault Int :=
  (ttcnDiv 1000 cfg.txDurationMs).bind (ttcnDiv cfg.txSamplerateHz)

/-- `f_tx_rtp`, once there is something to transmit. -/
def sendRtp (s : State) (payload : List UInt8) (pt : Fin 128) (marker : Bool) :
    Except Fault (State × PduRtp) :=
  (int2bit32 s.gTxNextTs).bind fun ts =>
  (encodes (tsRtp s.gCfg.txSsrc pt s.gTxNextSeq ts payload marker)).bind fun _ =>
  (tsIncrement s.gCfg).map fun inc =>
    ({ s with gTxNextSeq := s.gTxNextSeq + 1, gTxNextTs := s.gTxNextTs + inc },
      tsRtp s.gCfg.txSsrc pt s.gTxNextSeq ts payload marker)

section Rounds

variable (codec : BodyCodec IuupBody)

/-- `f_IuUP_Em_tx_encap` in the mode of IuUP; without anything to transmit,
    waiting for INIT-ACK, there is no payload. -/
def txEncap (s : State) (payload : List UInt8) :
    Except Fault (State × Option (List UInt8)) :=
  if s.gCfg.iuupMode then
    (fIuupEmTxEncap codec s.gIuupEnt payload).map fun r =>
      ({ s with gIuupEnt := r.1 }, if r.2.length = 0 then none else some r.2)
  else .ok (s, some payload)

/-- `f_tx_rtp`: nothing is sent while IuUP has something to say first. -/
def fTxRtp (s : State) (payload : List UInt8) (pt : Fin 128) (marker : Bool) :
    Except Halt (State × List Output) :=
  match txEncap codec s payload with
  | .error e => .error (.other e)
  | .ok (s, none) => .ok (s, [])
  | .ok (s, some payload) =>
      match sendRtp s payload pt marker with
      | .error e => .error (.numbering e)
      | .ok (s, rtp) => .ok (s, [.send rtp])

/-- `f_tx_rtp(''O, g_cfg.tx_payloads[0].payload_type)` -/
def txPending (s : State) : Except Halt (State × List Output) :=
  match s.gCfg.txPayloads with
  | [] => .error (.other .badIndex)
  | p :: _ => fTxRtp codec s [] p.payloadType false

-- ── Main loop ────────────────────────────────────────────────────────────────

/-- A packet on this connection matches the receive template. -/
def matchesConn (tr : Option Int) (connId : Int) : Bool := tr.all (fun c => c == connId)

/-- `RTPEM_bind`; an odd port is passed over. -/
def onBind (s : State) (localPort : Nat) (rtp rtcp : Option Int) :
    Except Halt (State × List Output) :=
  if localPort % 2 = 1 then .ok (s, [])
  else
    match rtp, rtcp with
    | some rtpId, some rtcpId =>
        .ok ({ s with
          gTxConnected := false
          gRtpConnId := rtpId
          trRtpConnId := some rtpId
          gRtcpConnId := rtcpId
          trRtcpConnId := some rtcpId }, [.reply])
    | _, _ => .error (.other (.shutdown
        "Could not listen on RTP socket, check your configuration"))

/-- A pending PDU of IuUP is one that was delayed due to not being connected. -/
def onConnect (s : State) (remotePort : Nat) (rtp rtcp : Option Int) :
    Except Halt (State × List Output) :=
  if remotePort % 2 = 1 then .ok (s, [])
  else if rtp.isNone || rtcp.isNone then
    .error (.other (.shutdown "Could not connect to RTP socket, check your configuration"))
  else if s.gIuupEnt.pendingTxPdu.isSome then
    (txPending codec { s with gTxConnected := true }).map fun r => (r.1, r.2 ++ [.reply])
  else .ok ({ s with gTxConnected := true }, [.reply])

/-- What `RTP.clear` drops is never received. -/
def onMode (s : State) : RtpemMode → State
  | .none => { s with tTransmit := false, gRxEnabled := false, gLoopback := false }
  | .txOnly => { s with tTransmit := true, gRxEnabled := false, gLoopback := false }
  | .rxOnly => { s with tTransmit := false, gRxEnabled := true, gLoopback := false }
  | .bidir => { s with tTransmit := true, gRxEnabled := true, gLoopback := false }
  | .loopback => { s with tTransmit := false, gRxEnabled := true, gLoopback := true }

/-- A packet that came while reception was disabled. -/
def countDisabled (s : State) : State :=
  { s with gStatsRtp := { s.gStatsRtp with
    numPktsRxErrDisabled := s.gStatsRtp.numPktsRxErrDisabled + 1 } }

/-- A control PDU of IuUP was received, which may require sending something back. -/
def answerControl (s : State) : Except Halt (State × List Output) :=
  if s.gTxConnected && s.gIuupEnt.pendingTxPdu.isSome then txPending codec s
  else .ok (s, [])

/-- A packet while the receiver is disabled. -/
def onRtpDisabled (s : State) (rtp : PduRtp) : Except Halt (State × List Output) :=
  if s.gCfg.iuupMode then
    match fIuupEmRxDecaps codec s.gIuupEnt rtp.data with
    | .error e => .error (.other e)
    | .ok (ent, data) =>
        if data.length ≠ 0 then .ok (countDisabled { s with gIuupEnt := ent }, [])
        else answerControl codec { s with gIuupEnt := ent }
  else .ok (countDisabled s, [])

/-- What `f_check_fixed_rx_payloads` finds: whether the payload type is one that
    is expected, and whether there is a full match. -/
def checkPayloads (pt : Fin 128) (data : List UInt8) : List RtpemConfigPayload → Bool × Bool
  | [] => (false, false)
  | p :: ps =>
      if pt = p.payloadType then
        if p.fixedPayload = none ∨ p.fixedPayload = some data then (true, true)
        else (true, (checkPayloads pt data ps).2)
      else checkPayloads pt data ps

/-- `f_check_fixed_rx_payloads` -/
def fCheckFixedRxPayloads (s : State) (pt : Fin 128) (data : List UInt8) : State :=
  if s.gCfg.rxPayloads.length = 0 ∨ (checkPayloads pt data s.gCfg.rxPayloads).2 = true then s
  else { s with gStatsRtp := { s.gStatsRtp with
    numPktsRxErrPayload := s.gStatsRtp.numPktsRxErrPayload + 1
    numPktsRxErrPt := s.gStatsRtp.numPktsRxErrPt
      + if (checkPayloads pt data s.gCfg.rxPayloads).1 then 0 else 1 } }

/-- A packet more that was received. -/
def countRx (s : State) (rtp : PduRtp) : State :=
  { s with gStatsRtp := { s.gStatsRtp with
    numPktsRx := s.gStatsRtp.numPktsRx + 1
    bytesPayloadRx := s.gStatsRtp.bytesPayloadRx + rtp.data.length } }

/-- A packet more that was sent. -/
def countTx (s : State) (payload : List UInt8) : State :=
  { s with gStatsRtp := { s.gStatsRtp with
    numPktsTx := s.gStatsRtp.numPktsTx + 1
    bytesPayloadTx := s.gStatsRtp.bytesPayloadTx + payload.length } }

/-- User data while the receiver is enabled: it is looped back or checked. -/
def onUserData (s : State) (rtp : PduRtp) (dataConnected : Bool) :
    Except Halt (State × List Output) :=
  let sniffed : List Output := if dataConnected then [.data rtp] else []
  if s.gLoopback then
    (fTxRtp codec s rtp.data rtp.payloadType false).map fun r =>
      (countTx r.1 rtp.data, r.2 ++ sniffed)
  else .ok (fCheckFixedRxPayloads s rtp.payloadType rtp.data, sniffed)

/-- A packet while the receiver is enabled. -/
def onRtpEnabled (s : State) (rtp : PduRtp) (dataConnected : Bool) :
    Except Halt (State × List Output) :=
  if s.gCfg.iuupMode then
    match fIuupEmRxDecaps codec s.gIuupEnt rtp.data with
    | .error e => .error (.other e)
    | .ok (ent, data) =>
        let s := { countRx s rtp with gIuupEnt := ent }
        if data.length = 0 then answerControl codec s
        else onUserData codec s { rtp with data := data } dataConnected
  else onUserData codec (countRx s rtp) rtp dataConnected

/-- The payload of the next packet, by its number. -/
def tickPayload (s : State) : Except Halt (List UInt8 × Fin 128) :=
  match ttcnMod s.gTxNextSeq s.gCfg.txPayloads.length with
  | .error e => .error (.numbering e)
  | .ok i =>
      match s.gCfg.txPayloads[i]? with
      | none => .error (.other .badIndex)
      | some ⟨_, none⟩ => .error (.other (.ttcnError
          "Using the value of an optional field containing omit."))
      | some ⟨pt, some payload⟩ => .ok (payload, pt)

/-- The timer has expired: one frame is sent and the timer starts again. -/
def onTimeout (s : State) : Except Halt (State × List Output) :=
  (tickPayload s).bind fun p =>
  (fTxRtp codec { s with tTransmit := false } p.1 p.2 false).map fun r =>
    (countTx { r.1 with tTransmit := true } p.1, r.2)

/-- An RTCP packet from the socket. -/
def onRtcp (s : State) (rtcp : List UInt8) (dataConnected : Bool) : State × List Output :=
  if s.gRxEnabled then
    ({ s with gStatsRtcp := { s.gStatsRtcp with
        numPktsRx := s.gStatsRtcp.numPktsRx + 1 } },
      if dataConnected then [.dataRtcp rtcp] else [])
  else
    ({ s with gStatsRtcp := { s.gStatsRtcp with
        numPktsRxErrDisabled := s.gStatsRtcp.numPktsRxErrDisabled + 1 } }, [])

/-- One round of `f_main`. -/
def fMain (s : State) : Input → Except Halt (State × List Output)
  | .bind localPort rtp rtcp => onBind s localPort rtp rtcp
  | .connect remotePort rtp rtcp => onConnect codec s remotePort rtp rtcp
  | .mode mode => .ok (onMode s mode, [.reply])
  | .configure cfg =>
      .ok ({ s with gCfg := cfg, gIuupEnt := { s.gIuupEnt with cfg := cfg.iuupCfg } }, [.reply])
  | .statsGet rtcp => .ok (s, [.replyStats (if rtcp then s.gStatsRtcp else s.gStatsRtp)])
  | .connRefuseExpect expect => .ok ({ s with gConnRefuseExpect := expect }, [.reply])
  | .connRefuseReceived => .ok (s, [.replyReceived s.gConnRefuseReceived])
  | .rtp connId rtp dataConnected =>
      if matchesConn s.trRtpConnId connId then
        if s.gRxEnabled then onRtpEnabled codec s rtp dataConnected
        else onRtpDisabled codec s rtp
      else .error (.other (.shutdown "Received unexpected type from RTP"))
  | .rtcp connId rtcp dataConnected =>
      if matchesConn s.trRtcpConnId connId then .ok (onRtcp s rtcp dataConnected)
      else .error (.other (.shutdown "Received unexpected type from RTCP"))
  | .timeout => if s.gTxConnected && s.tTransmit then onTimeout codec s else .ok (s, [])
  | .connRefused =>
      if s.gConnRefuseExpect then .ok ({ s with gConnRefuseReceived := true }, [])
      else .error (.other (.shutdown "Connection refused (unexpected)"))
  | .unexpectedRtp => .error (.other (.shutdown "Received unexpected type from RTP"))
  | .unexpectedRtcp => .error (.other (.shutdown "Received unexpected type from RTCP"))

end Rounds

-- ── The stream ───────────────────────────────────────────────────────────────

/-- What was sent so far, under the configuration in force. -/
structure Stream where
  cfg : RtpemConfig
  /-- the number of packets -/
  count : Nat
  /-- the samples in all of them -/
  samples : Int
  deriving DecidableEq, Repr

/-- Nothing was sent yet. -/
def Stream.start : Stream := ⟨cRtpemDefaultCfg, 0, 0⟩

/-- The samples in one packet duration. -/
def samplesOf (cfg : RtpemConfig) : Int := (cfg.txSamplerateHz * cfg.txDurationMs).tdiv 1000

/-- One packet more, and its samples. -/
def Stream.next (g : Stream) : Stream :=
  { g with count := g.count + 1, samples := g.samples + samplesOf g.cfg }

/-- The packet is the next of the stream. -/
structure Carries (g : Stream) (rtp : PduRtp) : Prop where
  sequenceNumber : rtp.sequenceNumber = g.count % 65536
  timeStamp : rtp.timeStamp = BitVec.ofInt 32 g.samples

/-- The packet that is sent, if it is one. -/
def Output.sent : Output → Option PduRtp
  | .send rtp => some rtp
  | _ => none

/-- The packets go on with the stream. -/
def GoesOn : Stream → List PduRtp → Stream → Prop
  | g, [], g' => g' = g
  | g, rtp :: rtps, g' => Carries g rtp ∧ GoesOn g.next rtps g'

/-- A configuration counts from the packet that follows it. -/
def Stream.configured (g : Stream) : Input → Stream
  | .configure cfg => { g with cfg := cfg }
  | _ => g

/-- **THE STREAM**: every packet of a round is the next one. -/
def RtpAllowed (g : Stream) (i : Input) (g' : Stream) (os : List Output) : Prop :=
  GoesOn (g.configured i) (os.filterMap Output.sent) g'

/-- A component may end for any reason but a number or a time stamp. -/
def RtpEnds : Halt → Prop
  | .numbering _ => False
  | .other _ => True

/-- The numbers kept are those of the stream. -/
structure Keeps (s : State) (g : Stream) : Prop where
  cfg : s.gCfg = g.cfg
  seq : s.gTxNextSeq = g.count
  ts : s.gTxNextTs = g.samples

-- ── The condition ────────────────────────────────────────────────────────────

/-- **WHICH DURATIONS ARE EXACT**: what the inner division of 1000 drops costs no
    whole sample.  It drops nothing where the duration divides 1000. -/
def DurationOk (cfg : RtpemConfig) : Prop :=
  let d := cfg.txDurationMs.natAbs
  let rate := cfg.txSamplerateHz.natAbs
  d ≠ 0 ∧ d ≤ 1000 ∧ 1000 % d * (rate / (1000 / d)) ≤ rate % (1000 / d) * d

instance (cfg : RtpemConfig) : Decidable (DurationOk cfg) :=
  inferInstanceAs (Decidable (_ ∧ _ ∧ _))

/-- The next packet has a number and a time stamp. -/
structure NumbersFit (s : State) : Prop where
  seq : s.gTxNextSeq < 65536
  tsNonneg : 0 ≤ s.gTxNextTs
  tsLt : s.gTxNextTs < 4294967296
  duration : DurationOk s.gCfg

instance (s : State) : Decidable (NumbersFit s) :=
  decidable_of_iff (s.gTxNextSeq < 65536 ∧ 0 ≤ s.gTxNextTs ∧ s.gTxNextTs < 4294967296
      ∧ DurationOk s.gCfg)
    ⟨fun ⟨h₁, h₂, h₃, h₄⟩ => ⟨h₁, h₂, h₃, h₄⟩, fun ⟨h₁, h₂, h₃, h₄⟩ => ⟨h₁, h₂, h₃, h₄⟩⟩

section Condition

variable (codec : BodyCodec IuupBody)

/-- There is something to transmit for a payload. -/
def transmits (cfg : RtpemConfig) (ent : IuupEntity) (payload : List UInt8) : Bool :=
  if cfg.iuupMode then
    match fIuupEmTxEncap codec ent payload with
    | .ok r => r.2.length ≠ 0
    | .error _ => false
  else true

/-- What a received packet makes the component transmit, with the entity that it
    leaves. -/
def answers (s : State) (rtp : PduRtp) : Option (IuupEntity × List UInt8) :=
  if s.gCfg.iuupMode then
    match fIuupEmRxDecaps codec s.gIuupEnt rtp.data with
    | .error _ => none
    | .ok (ent, data) =>
        if data.length = 0 then
          if s.gTxConnected && ent.pendingTxPdu.isSome then some (ent, []) else none
        else if s.gRxEnabled && s.gLoopback then some (ent, data) else none
  else if s.gRxEnabled && s.gLoopback then some (s.gIuupEnt, rtp.data) else none

/-- What a round makes the component transmit. -/
def toTransmit (s : State) : Input → Option (IuupEntity × List UInt8)
  | .timeout =>
      if s.gTxConnected && s.tTransmit then
        match tickPayload s with
        | .ok p => some (s.gIuupEnt, p.1)
        | .error _ => none
      else none
  | .connect remotePort rtp rtcp =>
      if remotePort % 2 ≠ 1 && rtp.isSome && rtcp.isSome
        && s.gIuupEnt.pendingTxPdu.isSome then some (s.gIuupEnt, []) else none
  | .rtp connId rtp _ => if matchesConn s.trRtpConnId connId then answers codec s rtp else none
  | .bind _ _ _ | .mode _ | .configure _ | .statsGet _ | .connRefuseExpect _
  | .connRefuseReceived | .rtcp _ _ _ | .connRefused | .unexpectedRtp | .unexpectedRtcp => none

/-- **WHERE A ROUND IS RIGHT**: a packet that is transmitted has a number and a
    time stamp that fit and a duration that is exact, and on a tick there is a
    payload to choose. -/
def HoldsWhen (s : State) (i : Input) : Prop :=
  (∀ call ∈ toTransmit codec s i, transmits codec s.gCfg call.1 call.2 = true → NumbersFit s)
    ∧ (i = .timeout → s.gTxConnected = true → s.tTransmit = true → s.gCfg.txPayloads ≠ [])

instance (s : State) (i : Input) : Decidable (HoldsWhen codec s i) :=
  inferInstanceAs (Decidable (_ ∧ _))

end Condition

-- ── The two divisions ────────────────────────────────────────────────────────

/-- A quotient by a quotient, and the quotient of the product: they are the same
    iff what the inner division drops costs nothing. -/
theorem div_div_eq_iff {m d a : Nat} (hd : d ≠ 0) (hdm : d ≤ m) :
    a / (m / d) = a * d / m ↔ m % d * (a / (m / d)) ≤ a % (m / d) * d := by
  have hm : 0 < m := by omega
  have hq : 0 < m / d := Nat.div_pos hdm (by omega)
  obtain ⟨q, hqdef⟩ : ∃ q, m / d = q := ⟨_, rfl⟩
  obtain ⟨r, hrdef⟩ : ∃ r, m % d = r := ⟨_, rfl⟩
  have hmqr : d * q + r = m := by
    rw [← hqdef, ← hrdef]
    exact Nat.div_add_mod m d
  rw [hqdef] at hq ⊢
  rw [hrdef]
  obtain ⟨k, hk⟩ : ∃ k, a / q = k := ⟨_, rfl⟩
  obtain ⟨b, hb⟩ : ∃ b, a % q = b := ⟨_, rfl⟩
  have hakb : q * k + b = a := by
    rw [← hk, ← hb]
    exact Nat.div_add_mod a q
  have hbq : b < q := by
    rw [← hb]
    exact Nat.mod_lt a hq
  rw [hk, hb]
  -- `a * d = m * k + (b * d - r * k)`, and `b * d` is below `m`.
  have hprod : a * d + r * k = m * k + b * d := by
    rw [← hakb, ← hmqr]
    ring
  have hbd : b * d + d ≤ d * q := by
    have := Nat.mul_le_mul_left d hbq
    rw [Nat.mul_succ] at this
    rw [Nat.mul_comm b d]
    exact this
  constructor
  · intro heq
    have hle := Nat.div_mul_le_self (a * d) m
    rw [← heq, Nat.mul_comm k m] at hle
    omega
  · intro hle
    have hlo : m * k ≤ a * d := by omega
    have hhi : a * d < m * (k + 1) := by
      rw [Nat.mul_succ]
      omega
    exact ((Nat.div_eq_iff hm).mpr ⟨by rw [Nat.mul_comm k m]; exact hlo, by
      rw [Nat.mul_comm k m]
      rw [Nat.mul_succ] at hhi
      omega⟩).symm

/-- The signs do not matter: both quotients are truncated. -/
theorem tdiv_tdiv_eq_iff (rate dur : Int) :
    rate.tdiv (Int.tdiv 1000 dur) = (rate * dur).tdiv 1000
      ↔ rate.natAbs / (1000 / dur.natAbs) = rate.natAbs * dur.natAbs / 1000 := by
  have hsame : ∀ a c : Nat, ((a / (1000 / c) : Nat) : Int) = ((a * c / 1000 : Nat) : Int)
      ↔ a / (1000 / c) = a * c / 1000 := fun a c => Int.ofNat_inj
  obtain ⟨a, rfl | rfl⟩ := Int.eq_nat_or_neg rate <;>
    obtain ⟨c, rfl | rfl⟩ := Int.eq_nat_or_neg dur <;>
    simp only [Int.tdiv_neg, Int.neg_tdiv, Int.neg_mul, Int.mul_neg, neg_neg, neg_inj,
      Int.natAbs_neg, Int.natAbs_natCast] <;>
    exact hsame a c

/-- **WHICH DURATIONS ARE EXACT**: the increment is the number of samples in one
    packet duration iff the condition holds. -/
theorem tsIncrement_iff (cfg : RtpemConfig) :
    tsIncrement cfg = .ok (samplesOf cfg) ↔ DurationOk cfg := by
  have hinner : (Int.tdiv 1000 cfg.txDurationMs).natAbs = 1000 / cfg.txDurationMs.natAbs :=
    Int.natAbs_tdiv 1000 cfg.txDurationMs
  rw [tsIncrement, ttcnDiv]
  by_cases hzero : cfg.txDurationMs = 0
  · rw [if_pos hzero]
    exact ⟨fun h => (nomatch h), fun h => absurd (Int.natAbs_eq_zero.mpr hzero) h.1⟩
  · have hd : cfg.txDurationMs.natAbs ≠ 0 := fun h => hzero (Int.natAbs_eq_zero.mp h)
    rw [if_neg hzero]
    show ttcnDiv cfg.txSamplerateHz (Int.tdiv 1000 cfg.txDurationMs) = _ ↔ _
    rw [ttcnDiv]
    by_cases hlong : 1000 < cfg.txDurationMs.natAbs
    · have hnone : Int.tdiv 1000 cfg.txDurationMs = 0 := by
        rw [← Int.natAbs_eq_zero, hinner, Nat.div_eq_of_lt hlong]
      rw [if_pos hnone]
      exact ⟨fun h => (nomatch h), fun h => absurd h.2.1 (Nat.not_le.mpr hlong)⟩
    · have hshort : cfg.txDurationMs.natAbs ≤ 1000 := Nat.le_of_not_lt hlong
      have hsome : Int.tdiv 1000 cfg.txDurationMs ≠ 0 := by
        rw [← Int.natAbs_ne_zero, hinner]
        exact Nat.ne_of_gt (Nat.div_pos hshort (Nat.pos_of_ne_zero hd))
      rw [if_neg hsome, Except.ok.injEq, samplesOf, tdiv_tdiv_eq_iff,
        div_div_eq_iff hd hshort]
      exact ⟨fun h => ⟨hd, hshort, h⟩, fun h => h.2.2⟩

-- ── Rounds ───────────────────────────────────────────────────────────────────

variable {codec : BodyCodec IuupBody} {s : State} {g : Stream}

/-- What is sent, and what is kept for the next packet. -/
theorem sendRtp_eq (hfit : NumbersFit s) (payload : List UInt8) (pt : Fin 128)
    (marker : Bool) : sendRtp s payload pt marker = .ok
      ({ s with
          gTxNextSeq := s.gTxNextSeq + 1
          gTxNextTs := s.gTxNextTs + samplesOf s.gCfg },
        tsRtp s.gCfg.txSsrc pt s.gTxNextSeq (BitVec.ofInt 32 s.gTxNextTs) payload marker) := by
  have hts : int2bit32 s.gTxNextTs = .ok (BitVec.ofInt 32 s.gTxNextTs) :=
    if_pos ⟨hfit.tsNonneg, hfit.tsLt⟩
  have henc : ∀ ts, encodes (tsRtp s.gCfg.txSsrc pt s.gTxNextSeq ts payload marker) = .ok () :=
    fun ts => if_neg (Nat.not_le.mpr hfit.seq)
  have hinc : tsIncrement s.gCfg = .ok (samplesOf s.gCfg) :=
    (tsIncrement_iff s.gCfg).mpr hfit.duration
  rw [sendRtp, hts]
  dsimp only [Except.bind]
  rw [henc]
  dsimp only
  rw [hinc]
  rfl

/-- **ONE PACKET** is the next of the stream. -/
theorem sendRtp_right (h : Keeps s g) (hfit : NumbersFit s) (payload : List UInt8)
    (pt : Fin 128) (marker : Bool) : ∃ s' rtp, sendRtp s payload pt marker = .ok (s', rtp)
      ∧ Carries g rtp ∧ Keeps s' g.next := by
  refine ⟨_, _, sendRtp_eq hfit payload pt marker, ⟨?_, congrArg (BitVec.ofInt 32) h.ts⟩,
    ⟨h.cfg, congrArg (· + 1) h.seq, ?_⟩⟩
  · show s.gTxNextSeq = g.count % 65536
    rw [← h.seq, Nat.mod_eq_of_lt hfit.seq]
  · show s.gTxNextTs + samplesOf s.gCfg = g.samples + samplesOf g.cfg
    rw [h.ts, h.cfg]

/-- What the encapsulation changes, and when it leaves something to transmit. -/
theorem txEncap_ok {payload : List UInt8} {s' : State} {o : Option (List UInt8)}
    (h : txEncap codec s payload = .ok (s', o)) :
    s'.gCfg = s.gCfg ∧ s'.gTxNextSeq = s.gTxNextSeq ∧ s'.gTxNextTs = s.gTxNextTs
      ∧ (o ≠ none → transmits codec s.gCfg s.gIuupEnt payload = true) := by
  rw [txEncap] at h
  rw [transmits]
  by_cases hmode : s.gCfg.iuupMode = true
  · rw [if_pos hmode] at h ⊢
    obtain ⟨r, hr, heq⟩ := map_ok h
    obtain ⟨rfl, rfl⟩ := Prod.mk.inj heq
    refine ⟨rfl, rfl, rfl, fun hne => ?_⟩
    rw [hr]
    by_cases hlen : r.2.length = 0
    · rw [if_pos hlen] at hne
      exact absurd rfl hne
    · exact decide_eq_true hlen
  · rw [if_neg hmode] at h ⊢
    obtain ⟨rfl, -⟩ := Prod.mk.inj (Except.ok.inj h)
    exact ⟨rfl, rfl, rfl, fun _ => rfl⟩

/-- The result of a part of a round: it ends the component for another reason,
    or its packets go on with the stream. -/
def PartRight (g : Stream) (r : Except Halt (State × List Output)) : Prop :=
  (∃ e, r = .error (.other e))
    ∨ ∃ s' os g', r = .ok (s', os) ∧ GoesOn g (os.filterMap Output.sent) g' ∧ Keeps s' g'

/-- A part that sends nothing keeps the stream. -/
theorem partRight_quiet {s' : State} {os : List Output} (h : Keeps s' g)
    (hos : os.filterMap Output.sent = []) : PartRight g (.ok (s', os)) := by
  refine Or.inr ⟨s', os, g, rfl, ?_, h⟩
  rw [hos]
  exact rfl

/-- An error of any other kind ends the run. -/
theorem partRight_other (e : Fault) : PartRight g (.error (.other e)) := Or.inl ⟨e, rfl⟩

/-- What comes behind a part that is right, and sends nothing. -/
theorem PartRight.map {r : Except Halt (State × List Output)}
    {f : State × List Output → State × List Output} (h : PartRight g r)
    (hkeep : ∀ s g, Keeps s g → ∀ os, Keeps (f (s, os)).1 g)
    (hsent : ∀ s os, (f (s, os)).2.filterMap Output.sent = os.filterMap Output.sent) :
    PartRight g (r.map f) := by
  rcases h with ⟨e, rfl⟩ | ⟨s', os, g', rfl, hgoes, hk⟩
  · exact partRight_other e
  · refine Or.inr ⟨(f (s', os)).1, (f (s', os)).2, g', rfl, ?_, hkeep s' g' hk os⟩
    rw [hsent]
    exact hgoes

/-- **A TRANSMISSION**, if there is one, is the next packet. -/
theorem fTxRtp_right {payload : List UInt8} (h : Keeps s g)
    (hfit : transmits codec s.gCfg s.gIuupEnt payload = true → NumbersFit s)
    (pt : Fin 128) (marker : Bool) : PartRight g (fTxRtp codec s payload pt marker) := by
  rw [fTxRtp]
  cases hencap : txEncap codec s payload with
  | error e => exact partRight_other e
  | ok r =>
      obtain ⟨s₁, o⟩ := r
      obtain ⟨hcfg, hseq, hts, htransmits⟩ := txEncap_ok hencap
      have h₁ : Keeps s₁ g := ⟨hcfg.trans h.cfg, hseq.trans h.seq, hts.trans h.ts⟩
      cases o with
      | none => exact partRight_quiet h₁ rfl
      | some payload' =>
          have hs := hfit (htransmits (Option.some_ne_none payload'))
          have hfit₁ : NumbersFit s₁ := by
            refine ⟨hseq ▸ hs.seq, hts ▸ hs.tsNonneg, hts ▸ hs.tsLt, hcfg ▸ hs.duration⟩
          obtain ⟨s₂, rtp, hsend, hcarries, h₂⟩ := sendRtp_right h₁ hfit₁ payload' pt marker
          dsimp only
          rw [hsend]
          exact Or.inr ⟨s₂, [.send rtp], g.next, rfl, ⟨hcarries, rfl⟩, h₂⟩

/-- The answer of IuUP goes out as the next packet. -/
theorem txPending_right (h : Keeps s g)
    (hfit : transmits codec s.gCfg s.gIuupEnt [] = true → NumbersFit s) :
    PartRight g (txPending codec s) := by
  rw [txPending]
  cases s.gCfg.txPayloads with
  | nil => exact partRight_other _
  | cons p ps => exact fTxRtp_right h hfit p.payloadType false

/-- A control PDU is answered by the next packet, or not at all. -/
theorem answerControl_right (h : Keeps s g)
    (hfit : s.gTxConnected = true → s.gIuupEnt.pendingTxPdu.isSome = true →
      transmits codec s.gCfg s.gIuupEnt [] = true → NumbersFit s) :
    PartRight g (answerControl codec s) := by
  rw [answerControl]
  by_cases hanswer : (s.gTxConnected && s.gIuupEnt.pendingTxPdu.isSome) = true
  · rw [if_pos hanswer]
    obtain ⟨hconn, hpending⟩ := Bool.and_eq_true_iff.mp hanswer
    exact txPending_right h (hfit hconn hpending)
  · rw [if_neg hanswer]
    exact partRight_quiet h rfl

/-- A pending PDU is transmitted once the connections are there. -/
theorem toTransmit_connect {remotePort : Nat} {rtp rtcp : Option Int}
    (hodd : ¬ remotePort % 2 = 1) (hfail : ¬ (rtp.isNone || rtcp.isNone) = true)
    (hpending : s.gIuupEnt.pendingTxPdu.isSome = true) :
    toTransmit codec s (.connect remotePort rtp rtcp) = some (s.gIuupEnt, []) := by
  refine if_pos ?_
  cases rtp with
  | none => exact absurd rfl hfail
  | some rtpId =>
      cases rtcp with
      | none => exact absurd rfl hfail
      | some rtcpId => simp [hodd, hpending]

/-- A connection may start with a pending INIT. -/
theorem onConnect_right (h : Keeps s g) {remotePort : Nat} {rtp rtcp : Option Int}
    (hwhen : HoldsWhen codec s (.connect remotePort rtp rtcp)) :
    PartRight g (onConnect codec s remotePort rtp rtcp) := by
  rw [onConnect]
  by_cases hodd : remotePort % 2 = 1
  · rw [if_pos hodd]
    exact partRight_quiet h rfl
  rw [if_neg hodd]
  by_cases hfail : (rtp.isNone || rtcp.isNone) = true
  · rw [if_pos hfail]
    exact partRight_other _
  rw [if_neg hfail]
  have hconnected : Keeps { s with gTxConnected := true } g := ⟨h.cfg, h.seq, h.ts⟩
  by_cases hpending : s.gIuupEnt.pendingTxPdu.isSome = true
  · rw [if_pos hpending]
    refine PartRight.map (txPending_right hconnected (fun ht => ?_)) ?_ ?_
    · have hs := hwhen.1 _ (Option.mem_def.mpr (toTransmit_connect hodd hfail hpending)) ht
      exact ⟨hs.seq, hs.tsNonneg, hs.tsLt, hs.duration⟩
    · exact fun _ _ hk _ => hk
    · intro s' os
      rw [List.filterMap_append]
      exact List.append_nil _
  · rw [if_neg hpending]
    exact partRight_quiet hconnected rfl

/-- Comparing payloads changes no number. -/
theorem keeps_check (h : Keeps s g) (pt : Fin 128) (data : List UInt8) :
    Keeps (fCheckFixedRxPayloads s pt data) g := by
  rw [fCheckFixedRxPayloads]
  split
  · exact h
  · exact ⟨h.cfg, h.seq, h.ts⟩

/-- Copies for the user are not packets. -/
theorem sniffed_sent (rtp : PduRtp) (dataConnected : Bool) :
    (if dataConnected then [Output.data rtp] else []).filterMap Output.sent = [] := by
  cases dataConnected with
  | false => rfl
  | true => rfl

/-- In loopback the data are sent as the next packet. -/
theorem onUserData_right {rtp : PduRtp} {dataConnected : Bool} (h : Keeps s g)
    (hfit : s.gLoopback = true →
      transmits codec s.gCfg s.gIuupEnt rtp.data = true → NumbersFit s) :
    PartRight g (onUserData codec s rtp dataConnected) := by
  rw [onUserData]
  by_cases hloop : s.gLoopback = true
  · rw [if_pos hloop]
    refine PartRight.map (fTxRtp_right h (hfit hloop) _ _) ?_ ?_
    · exact fun _ _ hk _ => ⟨hk.cfg, hk.seq, hk.ts⟩
    · intro s' os
      rw [List.filterMap_append, sniffed_sent]
      exact List.append_nil _
  · rw [if_neg hloop]
    exact partRight_quiet (keeps_check h _ _) (sniffed_sent rtp dataConnected)

/-- **A PACKET COMES**: what it makes the component transmit is the next packet. -/
theorem onRtp_right {connId : Int} {rtp : PduRtp} {dataConnected : Bool} (h : Keeps s g)
    (hwhen : HoldsWhen codec s (.rtp connId rtp dataConnected)) :
    PartRight g (fMain codec s (.rtp connId rtp dataConnected)) := by
  rw [fMain]
  by_cases hconn : matchesConn s.trRtpConnId connId = true
  swap
  · rw [if_neg hconn]
    exact partRight_other _
  rw [if_pos hconn]
  have hcall : ∀ call ∈ answers codec s rtp,
      transmits codec s.gCfg call.1 call.2 = true → NumbersFit s := by
    intro call hmem
    refine hwhen.1 call ?_
    rw [toTransmit, if_pos hconn]
    exact hmem
  by_cases hmode : s.gCfg.iuupMode = true
  · -- The PDU is decapsulated first.
    cases hdecaps : fIuupEmRxDecaps codec s.gIuupEnt rtp.data with
    | error e =>
        rw [onRtpEnabled, onRtpDisabled, if_pos hmode, if_pos hmode, hdecaps]
        split <;> exact partRight_other e
    | ok r =>
        obtain ⟨ent, data⟩ := r
        have hcontrol : data.length = 0 → s.gTxConnected = true →
            ent.pendingTxPdu.isSome = true → transmits codec s.gCfg ent [] = true →
            NumbersFit s := by
          intro hlen htx hpending
          refine hcall (ent, []) ?_
          rw [answers, if_pos hmode, hdecaps]
          dsimp only
          rw [if_pos hlen, htx, hpending]
          rfl
        have huser : data.length ≠ 0 → s.gRxEnabled = true → s.gLoopback = true →
            transmits codec s.gCfg ent data = true → NumbersFit s := by
          intro hlen hrx hloop
          refine hcall (ent, data) ?_
          rw [answers, if_pos hmode, hdecaps]
          dsimp only
          rw [if_neg hlen, hrx, hloop]
          rfl
        have hent : Keeps { s with gIuupEnt := ent } g := ⟨h.cfg, h.seq, h.ts⟩
        have hcount : Keeps { countRx s rtp with gIuupEnt := ent } g := ⟨h.cfg, h.seq, h.ts⟩
        by_cases hrx : s.gRxEnabled = true
        · rw [if_pos hrx, onRtpEnabled, if_pos hmode, hdecaps]
          dsimp only
          by_cases hlen : data.length = 0
          · rw [if_pos hlen]
            refine answerControl_right hcount (fun htx hpending ht => ?_)
            have hs := hcontrol hlen htx hpending ht
            exact ⟨hs.seq, hs.tsNonneg, hs.tsLt, hs.duration⟩
          · rw [if_neg hlen]
            refine onUserData_right hcount (fun hloop ht => ?_)
            have hs := huser hlen hrx hloop ht
            exact ⟨hs.seq, hs.tsNonneg, hs.tsLt, hs.duration⟩
        · rw [if_neg hrx, onRtpDisabled, if_pos hmode, hdecaps]
          dsimp only
          by_cases hlen : data.length = 0
          · rw [if_neg (not_not_intro hlen)]
            refine answerControl_right hent (fun htx hpending ht => ?_)
            have hs := hcontrol hlen htx hpending ht
            exact ⟨hs.seq, hs.tsNonneg, hs.tsLt, hs.duration⟩
          · rw [if_pos hlen]
            exact partRight_quiet ⟨h.cfg, h.seq, h.ts⟩ rfl
  · by_cases hrx : s.gRxEnabled = true
    · rw [if_pos hrx, onRtpEnabled, if_neg hmode]
      refine onUserData_right ⟨h.cfg, h.seq, h.ts⟩ (fun hloop ht => ?_)
      have hs : NumbersFit s := by
        refine hcall (s.gIuupEnt, rtp.data) ?_ ht
        rw [answers, if_neg hmode, hrx]
        exact if_pos (Bool.and_eq_true_iff.mpr ⟨rfl, hloop⟩)
      exact ⟨hs.seq, hs.tsNonneg, hs.tsLt, hs.duration⟩
    · rw [if_neg hrx, onRtpDisabled, if_neg hmode]
      exact partRight_quiet ⟨h.cfg, h.seq, h.ts⟩ rfl

/-- A tick with payloads to choose from faults in none of the numbers. -/
theorem tickPayload_error {e : Halt} (hne : s.gCfg.txPayloads ≠ [])
    (h : tickPayload s = .error e) : ∃ e', e = .other e' := by
  have hmod : ttcnMod s.gTxNextSeq s.gCfg.txPayloads.length
      = .ok (s.gTxNextSeq % s.gCfg.txPayloads.length) :=
    if_neg (fun hlen => hne (List.length_eq_zero_iff.mp hlen))
  rw [tickPayload, hmod] at h
  dsimp only at h
  split at h
  · exact ⟨_, (Except.error.inj h).symm⟩
  · exact ⟨_, (Except.error.inj h).symm⟩
  · exact nomatch h

/-- **A TICK** sends the next packet. -/
theorem onTimeout_right (h : Keeps s g) (hwhen : HoldsWhen codec s .timeout) :
    PartRight g (fMain codec s .timeout) := by
  rw [fMain]
  by_cases hfires : (s.gTxConnected && s.tTransmit) = true
  swap
  · rw [if_neg hfires]
    exact partRight_quiet h rfl
  rw [if_pos hfires]
  obtain ⟨hconn, htimer⟩ := Bool.and_eq_true_iff.mp hfires
  rw [onTimeout]
  cases htick : tickPayload s with
  | error e =>
      obtain ⟨e', rfl⟩ := tickPayload_error (hwhen.2 rfl hconn htimer) htick
      exact partRight_other e'
  | ok p =>
      have hfit : transmits codec s.gCfg s.gIuupEnt p.1 = true → NumbersFit s := by
        refine hwhen.1 (s.gIuupEnt, p.1) ?_
        rw [toTransmit, if_pos hfires, htick]
        rfl
      have hs : Keeps { s with tTransmit := false } g := ⟨h.cfg, h.seq, h.ts⟩
      refine PartRight.map (fTxRtp_right hs (fun ht => ?_) p.2 false) ?_ ?_
      · have hfits := hfit ht
        exact ⟨hfits.seq, hfits.tsNonneg, hfits.tsLt, hfits.duration⟩
      · exact fun _ _ hk _ => ⟨hk.cfg, hk.seq, hk.ts⟩
      · exact fun _ _ => rfl

/-- **ONE ROUND** where it is right. -/
theorem fMain_right (i : Input) (h : Keeps s g) (hwhen : HoldsWhen codec s i) :
    PartRight (g.configured i) (fMain codec s i) := by
  cases i with
  | connect remotePort rtp rtcp => exact onConnect_right h hwhen
  | rtp connId rtp dataConnected => exact onRtp_right h hwhen
  | timeout => exact onTimeout_right h hwhen
  | configure cfg => exact partRight_quiet ⟨rfl, h.seq, h.ts⟩ rfl
  | mode mode =>
      refine partRight_quiet ?_ rfl
      cases mode <;> exact ⟨h.cfg, h.seq, h.ts⟩
  | statsGet rtcp => exact partRight_quiet h rfl
  | connRefuseExpect expect => exact partRight_quiet ⟨h.cfg, h.seq, h.ts⟩ rfl
  | connRefuseReceived => exact partRight_quiet h rfl
  | unexpectedRtp => exact partRight_other _
  | unexpectedRtcp => exact partRight_other _
  | bind localPort rtp rtcp =>
      show PartRight g (onBind s localPort rtp rtcp)
      unfold onBind
      by_cases hodd : localPort % 2 = 1
      · rw [if_pos hodd]
        exact partRight_quiet h rfl
      · rw [if_neg hodd]
        cases rtp with
        | none => exact partRight_other _
        | some rtpId =>
            cases rtcp with
            | none => exact partRight_other _
            | some rtcpId => exact partRight_quiet ⟨h.cfg, h.seq, h.ts⟩ rfl
  | rtcp connId rtcp dataConnected =>
      show PartRight g (fMain codec s (.rtcp connId rtcp dataConnected))
      rw [fMain]
      split
      · rw [onRtcp]
        split
        · refine partRight_quiet ⟨h.cfg, h.seq, h.ts⟩ ?_
          cases dataConnected <;> rfl
        · exact partRight_quiet ⟨h.cfg, h.seq, h.ts⟩ rfl
      · exact partRight_other _
  | connRefused =>
      show PartRight g (fMain codec s .connRefused)
      rw [fMain]
      split
      · exact partRight_quiet ⟨h.cfg, h.seq, h.ts⟩ rfl
      · exact partRight_other _

-- ── Runs ─────────────────────────────────────────────────────────────────────

/-- **THE TRANSMIT STREAM**: in a run whose rounds are right, the packets go on
    with one stream from number and time stamp 0, under the configuration in
    force, and no number or time stamp ends the component. -/
theorem rtp_stream (codec : BodyCodec IuupBody) (is : List Input)
    (hguard : Guarded (fMain codec) (HoldsWhen codec) {} is) :
    FollowsUntil (fMain codec) RtpAllowed (fun _ _ => RtpEnds) Keeps {} Stream.start is := by
  refine followsUntil_of_guarded (fun s g i h hwhen => ?_) is _ _ ⟨rfl, rfl, rfl⟩ hguard
  rcases fMain_right i h hwhen with ⟨e, he⟩ | ⟨s', os, g', hs, hgoes, hk⟩
  · exact Or.inl ⟨_, he, trivial⟩
  · exact Or.inr ⟨s', os, g', hs, hgoes, hk⟩

/-- The component sends, to a port that it is connected to. -/
def transmitting : List Input := [.connect 4000 (some 1) (some 2), .mode .txOnly]

/-- Speech at 16 kHz in packets of 40 ms, and a packet that is looped back. -/
def wideband : List Input :=
  [.configure { cRtpemDefaultCfg with txSamplerateHz := 16000, txDurationMs := 40 }]
    ++ transmitting ++ [.timeout, .timeout, .mode .loopback,
      .rtp 1 (tsRtp 7 0 9 100 [5, 6] false) true]

/-- A stream of 16 kHz that ends as a loopback. -/
theorem rtp_stream_wideband :
    Guarded (fMain amrCodec) (HoldsWhen amrCodec) {} wideband
      ∧ FollowsUntil (fMain amrCodec) RtpAllowed (fun _ _ => RtpEnds) Keeps {} Stream.start
        wideband :=
  have hguard : Guarded (fMain amrCodec) (HoldsWhen amrCodec) {} wideband := by decide +kernel
  ⟨hguard, rtp_stream amrCodec wideband hguard⟩

/-- Two packets of 30 ms at 8 kHz. -/
def thirtyMs : List Input :=
  [.configure { cRtpemDefaultCfg with txDurationMs := 30 }, .connect 4000 (some 1) (some 2),
    .mode .txOnly, .timeout, .timeout]

/-- The default stream after `n` packets. -/
def ticking (tTransmit : Bool) (stats : RtpemStats) (n : Nat) : State where
  gTxConnected := true
  tTransmit := tTransmit
  gTxNextSeq := n
  gTxNextTs := 160 * n
  gStatsRtp := stats

/-- Below 65536 the sequence number fits. -/
theorem numbersFit_ticking {n : Nat} (h : n < 65536) (tTransmit : Bool)
    (stats : RtpemStats) : NumbersFit (ticking tTransmit stats n) := by
  have hduration : DurationOk cRtpemDefaultCfg := by decide
  refine ⟨h, ?_, ?_, hduration⟩
  · show (0 : Int) ≤ 160 * n
    omega
  · show (160 * n : Int) < 4294967296
    omega


/-- A transmission, from its two parts. -/
theorem fTxRtp_ok {s₁ s₂ : State} {payload payload' : List UInt8} {pt : Fin 128}
    {marker : Bool} {rtp : PduRtp} (hencap : txEncap codec s payload = .ok (s₁, some payload'))
    (hsend : sendRtp s₁ payload' pt marker = .ok (s₂, rtp)) :
    fTxRtp codec s payload pt marker = .ok (s₂, [.send rtp]) := by
  rw [fTxRtp, hencap]
  dsimp only
  rw [hsend]

/-- A tick whose payload is known. -/
theorem timeout_eq {p : List UInt8 × Fin 128}
    (hfires : (s.gTxConnected && s.tTransmit) = true) (htick : tickPayload s = .ok p) :
    fMain codec s .timeout = (fTxRtp codec { s with tTransmit := false } p.1 p.2 false).map
      (fun r => (countTx { r.1 with tTransmit := true } p.1, r.2)) := by
  rw [fMain, if_pos hfires, onTimeout, htick]
  rfl

/-- A tick takes the payload of the default configuration. -/
theorem tickPayload_ticking (tTransmit : Bool) (stats : RtpemStats) (n : Nat) :
    tickPayload (ticking tTransmit stats n) = .ok ([1, 2, 3, 4], 0) := by
  have hmod : ttcnMod (ticking tTransmit stats n).gTxNextSeq
      (ticking tTransmit stats n).gCfg.txPayloads.length = .ok 0 := by
    show (Except.ok (n % 1) : Except Fault Nat) = .ok 0
    rw [Nat.mod_one]
  rw [tickPayload, hmod]
  rfl

/-- Without IuUP the payload goes as it is. -/
theorem txEncap_ticking (codec : BodyCodec IuupBody) (stats : RtpemStats) (n : Nat) :
    txEncap codec (ticking false stats n) [1, 2, 3, 4]
      = .ok (ticking false stats n, some [1, 2, 3, 4]) := rfl

/-- A packet is sent while the number fits. -/
theorem sendRtp_ticking {n : Nat} (h : n < 65536) (stats : RtpemStats) : ∃ rtp,
    sendRtp (ticking false stats n) [1, 2, 3, 4] 0 false
      = .ok (ticking false stats (n + 1), rtp) := by
  have hts : (160 * n : Int) + samplesOf cRtpemDefaultCfg = 160 * (n + 1 : Nat) := by
    have hsamples : samplesOf cRtpemDefaultCfg = 160 := by decide
    omega
  refine ⟨tsRtp cRtpemDefaultCfg.txSsrc 0 n (BitVec.ofInt 32 (160 * n)) [1, 2, 3, 4] false, ?_⟩
  rw [sendRtp_eq (numbersFit_ticking h false stats)]
  show Except.ok ({ ticking false stats n with
    gTxNextSeq := n + 1
    gTxNextTs := 160 * n + samplesOf cRtpemDefaultCfg }, _) = _
  rw [hts]
  rfl

/-- A tick sends a packet while the number fits. -/
theorem timeout_ticking (codec : BodyCodec IuupBody) {n : Nat} (h : n < 65536)
    (stats : RtpemStats) : ∃ stats' os,
    fMain codec (ticking true stats n) .timeout = .ok (ticking true stats' (n + 1), os) := by
  obtain ⟨rtp, hsend⟩ := sendRtp_ticking h stats
  have htx := fTxRtp_ok (txEncap_ticking codec stats n) hsend
  refine ⟨(countTx (ticking true stats (n + 1)) [1, 2, 3, 4]).gStatsRtp, [.send rtp], ?_⟩
  rw [timeout_eq rfl (tickPayload_ticking true stats n)]
  show (fTxRtp codec (ticking false stats n) [1, 2, 3, 4] 0 false).map _ = _
  rw [htx]
  rfl

/-- Number 65536 does not fit. -/
theorem timeout_overflow (stats : RtpemStats) :
    fMain codec (ticking true stats 65536) .timeout = .error (.numbering .rawOverflow) := by
  rw [timeout_eq rfl (tickPayload_ticking true stats 65536)]
  rfl

/-- So do as many ticks as there are numbers left. -/
theorem run_ticking (codec : BodyCodec IuupBody) : ∀ (n k : Nat) (stats : RtpemStats),
    k + n ≤ 65536 → ∃ stats' os,
    run (fMain codec) (ticking true stats k) (List.replicate n .timeout)
      = .ok (ticking true stats' (k + n), os) := by
  intro n
  induction n with
  | zero => exact fun k stats _ => ⟨stats, [], rfl⟩
  | succ n ih =>
      intro k stats hle
      obtain ⟨stats₁, os, htick⟩ := timeout_ticking codec (show k < 65536 by omega) stats
      obtain ⟨stats₂, os', hrun⟩ := ih (k + 1) stats₁ (by omega)
      refine ⟨stats₂, os :: os', ?_⟩
      rw [List.replicate_succ, run, htick]
      dsimp only
      rw [hrun, show k + 1 + n = k + (n + 1) by omega]
      rfl

/-- The default stream, one packet longer than the numbers last. -/
def tooLong : List Input := transmitting ++ List.replicate 65536 .timeout ++ [.timeout]

/-- The inputs that start a transmission lead to the ticking state. -/
theorem run_transmitting {is : List Input} {os : List (List Output)}
    (h : run (fMain codec) (ticking true {} 0) is = .ok (s, os)) :
    ∃ os', run (fMain codec) {} (transmitting ++ is) = .ok (s, os') := by
  refine ⟨[.reply] :: [.reply] :: os, ?_⟩
  have hconnect : fMain codec {} (.connect 4000 (some 1) (some 2))
      = .ok ({ gTxConnected := true }, [.reply]) := rfl
  have hmode : fMain codec { gTxConnected := true } (.mode .txOnly)
      = .ok (ticking true {} 0, [.reply]) := rfl
  show run (fMain codec) {} (.connect 4000 (some 1) (some 2) :: .mode .txOnly :: is) = _
  rw [run, hconnect]
  dsimp only
  rw [run, hmode]
  dsimp only
  rw [h]
  rfl

/-- Thirty milliseconds make no whole number of ticks, and 65536 packets make one
    too many. -/
theorem rtp_stream_thirtyMs_tooLong :
    ¬ FollowsUntil (fMain amrCodec) RtpAllowed (fun _ _ => RtpEnds) Keeps {} Stream.start thirtyMs
      ∧ ¬ FollowsUntil (fMain amrCodec) RtpAllowed (fun _ _ => RtpEnds) Keeps {} Stream.start
        tooLong := by
  constructor
  · intro h
    obtain ⟨-, g₁, h₁, h⟩ := (followsUntil_cons_ok rfl).mp h
    obtain ⟨-, g₂, h₂, h⟩ := (followsUntil_cons_ok rfl).mp h
    obtain ⟨-, g₃, h₃, h⟩ := (followsUntil_cons_ok rfl).mp h
    obtain ⟨-, g₄, h₄, h⟩ := (followsUntil_cons_ok rfl).mp h
    obtain ⟨-, g₅, h₅, -⟩ := (followsUntil_cons_ok rfl).mp h
    obtain rfl : g₁ = _ := h₁
    obtain rfl : g₂ = _ := h₂
    obtain rfl : g₃ = _ := h₃
    obtain rfl : g₄ = _ := h₄.2
    -- The second packet is 242 samples behind the first, not 240.
    exact absurd h₅.1.timeStamp (by decide)
  · intro h
    obtain ⟨stats, os, hticks⟩ := run_ticking amrCodec 65536 0 {} (Nat.le_refl _)
    obtain ⟨os', hrun⟩ := run_transmitting hticks
    obtain ⟨-, -, hends⟩ := h.ends hrun (timeout_overflow stats)
    exact hends

end OsmoRtp
