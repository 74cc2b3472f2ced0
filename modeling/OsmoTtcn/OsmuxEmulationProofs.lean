import OsmoTtcn.KeyedStreamProofs
import OsmoTtcn.RunGuardProofs
import OsmoTtcn.SlotTableProofs
import OsmoTtcn.TitanProofs

/-! # Sequence numbers of the Osmux emulation

    `OSMUX_Emulation_CT` sends one frame for every transmit handle when its
    timer expires, and checks the sequence number of every frame it receives
    against the receive handle of the CID.

    The number of a transmit handle is raised without a wrap, and the RAW
    encoder refuses 256.  What the receive path writes into its handle is
    written into a copy: the table keeps the values the handle was registered
    with.  `sequence_numbers` proves the numbers and the error counter right in
    every run that reaches neither. -/

namespace OsmoOsmux

open OsmoTitan WireOctet SlotTable KeyedStream RunGuard

-- ── Data ─────────────────────────────────────────────────────────────────────

/-- `OsmuxCID` -/
abbrev OsmuxCid := UInt8

/-- `Osmux_AMR_header`.  The numbers that the emulation computes are plain
    ones: only the RAW encoder checks that they fit. -/
structure OsmuxAmrHeader where
  marker : Bool
  ft : Fin 4
  ctr : Int
  amrF : Bool
  amrQ : Bool
  seq : Nat
  cid : OsmuxCid
  amrFt : Fin 16
  amrCmr : Fin 16
  deriving DecidableEq, Repr

/-- `PDU_Osmux_AMR` -/
structure PduOsmuxAmr where
  header : OsmuxAmrHeader
  data : List UInt8
  deriving DecidableEq, Repr

/-- `OsmuxRxHandle` -/
structure OsmuxRxHandle where
  cid : OsmuxCid
  firstSeqSeen : Bool
  lastSeqAck : Nat
  deriving DecidableEq, Repr

/-- `c_OsmuxemDefaultRxHandle` -/
def cOsmuxemDefaultRxHandle : OsmuxRxHandle where
  cid := 0
  firstSeqSeen := false
  lastSeqAck := 0

/-- `RxHandleTableRec`; a copy of the handle is in it. -/
structure RxHandleTableRec where
  cid : OsmuxCid
  vcConn : OsmuxRxHandle
  deriving DecidableEq, Repr

/-- `OsmuxTxHandle` -/
structure OsmuxTxHandle where
  ft : Fin 4
  amrF : Bool
  amrQ : Bool
  seq : Nat
  cid : OsmuxCid
  amrFt : Fin 16
  amrCmr : Fin 16
  deriving DecidableEq, Repr

/-- `t_TxHandleAMR590` -/
def tTxHandleAmr590 (cid : OsmuxCid) : OsmuxTxHandle where
  ft := 1
  amrF := false
  amrQ := true
  seq := 12
  cid := cid
  amrFt := 2
  amrCmr := 0

/-- `OsmuxemMode` -/
inductive OsmuxemMode where
  | none
  | txOnly
  | rxOnly
  | bidir
  deriving DecidableEq, Repr

/-- `OsmuxemStats` -/
structure OsmuxemStats where
  numPktsTx : Nat := 0
  bytesPayloadTx : Nat := 0
  numPktsRx : Nat := 0
  bytesPayloadRx : Nat := 0
  /-- number of packets received out-of-sequence -/
  numPktsRxErrSeq : Nat := 0
  /-- number of packets received during Rx disable -/
  numPktsRxErrDisabled : Nat := 0
  /-- number of packets received with mismatching payload -/
  numPktsRxErrPayload : Nat := 0
  deriving DecidableEq, Repr

/-- `OsmuxemConfig` -/
structure OsmuxemConfig where
  batchSize : Fin 8
  txFixedPayload : Option (List UInt8)
  rxFixedPayload : Option (List UInt8)
  deriving DecidableEq, Repr

/-- `'010203040102030401020304010203040102030401020304'O` -/
def cFixedPayload : List UInt8 :=
  [1, 2, 3, 4, 1, 2, 3, 4, 1, 2, 3, 4, 1, 2, 3, 4, 1, 2, 3, 4, 1, 2, 3, 4]

/-- `c_OsmuxemDefaultCfg` -/
def cOsmuxemDefaultCfg : OsmuxemConfig where
  batchSize := 4
  txFixedPayload := some cFixedPayload
  rxFixedPayload := some cFixedPayload

/-- The variables of the component and of `f_main`, and the fault that stopped
    it. -/
structure State where
  gOsmuxConnId : Int := -1
  /-- `connId` of the two receive templates, `?` until the first bind. -/
  trConnId : Option Int := none
  gCfg : OsmuxemConfig := cOsmuxemDefaultCfg
  gStat : OsmuxemStats := {}
  gRxEnabled : Bool := false
  gTxConnected : Bool := false
  /-- `T_transmit` was started and neither stopped nor taken since. -/
  tTransmit : Bool := false
  rxHdl : Option OsmuxRxHandle := none
  rxHandleTable : Fin 16 → Option RxHandleTableRec := fun _ => none
  txHandleList : Fin 16 → Option OsmuxTxHandle := fun _ => none
  stopped : Option Fault := none

/-- What a round of `f_main` can start with. -/
inductive Input where
  /-- `OsmuxEM_bind`, with the connection that `f_IPL4_listen` gives. -/
  | bind (listened : Option Int)
  /-- `OsmuxEM_connect`, with the connection that `f_IPL4_connect` gives. -/
  | connect (connected : Option Int)
  | mode (mode : OsmuxemMode)
  | configure (cfg : OsmuxemConfig)
  | registerTxhandle (hdl : OsmuxTxHandle)
  | registerRxhandle (hdl : OsmuxRxHandle)
  | statsGet
  /-- An AMR frame on a connection, and whether `DATA` is connected. -/
  | amr (connId : Int) (frame : PduOsmuxAmr) (dataConnected : Bool)
  | dummy (connId : Int) (cid : OsmuxCid)
  | timeout
  | portEvent
  | unexpected

/-- What a round of `f_main` sends, and on which port. -/
inductive Output where
  | send (frame : PduOsmuxAmr)
  | reply
  | replyStats (stats : OsmuxemStats)
  | data (frame : PduOsmuxAmr)
  deriving DecidableEq, Repr

-- ── Handles ──────────────────────────────────────────────────────────────────

/-- `f_rxhandle_get_by_cid` -/
def fRxhandleGetByCid (s : State) (cid : OsmuxCid) : Except Fault OsmuxRxHandle :=
  orShutdown ((find s.rxHandleTable (fun r => r.any (fun r => r.cid == cid))).bind
    (fun i => (s.rxHandleTable i).map RxHandleTableRec.vcConn)) "No Component for CID "

/-- `f_rxhandle_cid_add` -/
def fRxhandleCidAdd (s : State) (hdl : OsmuxRxHandle) : Except Fault State :=
  (orShutdown (find s.rxHandleTable (fun r => r.isNone))
    "No Space in RxHandleTable for ").map (fun i =>
      { s with rxHandleTable :=
          Function.update s.rxHandleTable i (some { cid := hdl.cid, vcConn := hdl }) })

/-- `f_txhandle_cid_add` -/
def fTxhandleCidAdd (s : State) (hdl : OsmuxTxHandle) : Except Fault State :=
  (orShutdown (find s.txHandleList (fun r => r.isNone))
    "No Space in TxHandleList for ").map (fun i =>
      { s with txHandleList := Function.update s.txHandleList i (some hdl) })

-- ── Payloads ─────────────────────────────────────────────────────────────────

/-- `oct2bit`: eight bits an octet, the highest first. -/
def oct2bit (s : List UInt8) : List Bool :=
  s.flatMap (fun o => (List.range 8).map (fun k => bitOf o (7 - k)))

/-- `bit2oct` of a whole number of octets. -/
def bit2oct : List Bool → List UInt8
  | b7 :: b6 :: b5 :: b4 :: b3 :: b2 :: b1 :: b0 :: rest =>
      UInt8.ofNat (bit b7 * 128 + bit b6 * 64 + bit b5 * 32 + bit b4 * 16
        + bit b3 * 8 + bit b2 * 4 + bit b1 * 2 + bit b0) :: bit2oct rest
  | _ => []

/-- `f_pad_bit` -/
def fPadBit (str : List Bool) (len : Nat) (pad : Bool) : List Bool :=
  str ++ List.replicate (len - str.length) pad

/-- `c_amrft_len`, octets of a frame by its type. -/
def cAmrftLen : List Nat := [12, 13, 15, 17, 19, 20, 26, 31, 5]

/-- `c_amrft_bits_len`, bits of a frame by its type. -/
def cAmrftBitsLen : List Nat := [95, 103, 118, 134, 148, 159, 204, 244, 39]

/-- An element of a constant array. -/
def arrayAt (a : List Nat) (i : Nat) : Except Fault Nat :=
  match a[i]? with
  | some n => .ok n
  | none => .error .badIndex

/-- `f_amrft_payload_len` -/
def fAmrftPayloadLen (amrFt : Fin 16) : Except Fault Nat := arrayAt cAmrftLen amrFt.val

/-- `f_amrft_payload_bits_len` -/
def fAmrftPayloadBitsLen (amrFt : Fin 16) : Except Fault Nat :=
  arrayAt cAmrftBitsLen amrFt.val

/-- `substr` of a bitstring from its start. -/
def bitPrefix (str : List Bool) (n : Nat) : Except Fault (List Bool) :=
  if n ≤ str.length then .ok (str.take n) else .error .badIndex

/-- Generate correctly-sized AMR payload based on amr_ft, using tx_fixed_payload
    as a fill pattern. -/
def fOsmuxGenExpectedRxRtpPayload (amrFt : Fin 16) (txFixedPayload : List UInt8) :
    Except Fault (List UInt8) :=
  (fAmrftPayloadBitsLen amrFt).bind fun payloadLenBits =>
  (bitPrefix (oct2bit txFixedPayload) payloadLenBits).bind fun payloadTruncatedBits =>
  (fAmrftPayloadLen amrFt).map fun payloadLen =>
    bit2oct (fPadBit payloadTruncatedBits (payloadLen * 8) false)

/-- The loop of `f_osmux_gen_payload`, with the rounds that are left. -/
def genPayloadLoop (cfg : OsmuxemConfig) (amrFt : Fin 16) :
    Nat → List UInt8 → Except Fault (List UInt8)
  | 0, payload => .ok payload
  | n + 1, payload =>
      (bound cfg.txFixedPayload).bind fun txFixedPayload =>
      (fOsmuxGenExpectedRxRtpPayload amrFt txFixedPayload).bind fun p =>
        genPayloadLoop cfg amrFt n (payload ++ p)

/-- `f_osmux_gen_payload`: as many frames as the counter says, and one. -/
def fOsmuxGenPayload (cfg : OsmuxemConfig) (ctr : Int) (amrFt : Fin 16) :
    Except Fault (List UInt8) :=
  genPayloadLoop cfg amrFt (ctr + 1).toNat []

-- ── Transmission ─────────────────────────────────────────────────────────────

/-- `ts_OsmuxAMR`, filled from the handle. -/
def tsOsmuxAmr (marker : Bool) (ctr : Int) (hdl : OsmuxTxHandle) (payload : List UInt8) :
    PduOsmuxAmr where
  header := {
    marker := marker
    ft := 1
    ctr := ctr
    amrF := hdl.amrF
    amrQ := hdl.amrQ
    seq := hdl.seq
    cid := hdl.cid
    amrFt := hdl.amrFt
    amrCmr := hdl.amrCmr }
  data := payload

/-- The RAW encoder on the fields that may not fit: `ctr` has three bits, `seq`
    eight. -/
def encodes (frame : PduOsmuxAmr) : Except Fault Unit :=
  if frame.header.ctr < 0 then .error .outOfRange
  else if 256 ≤ frame.header.seq then .error .rawOverflow
  else .ok ()

/-- `f_tx_osmux` for the handle that slot `i` of the list holds. -/
def fTxOsmux (s : State) (i : Fin 16) (hdl : OsmuxTxHandle) (ctr : Int)
    (payload : List UInt8) (marker : Bool) : Except Fault (State × PduOsmuxAmr) :=
  (encodes (tsOsmuxAmr marker ctr hdl payload)).map fun _ =>
    ({ s with
        txHandleList := Function.update s.txHandleList i
          (some { hdl with seq := hdl.seq + 1 })
        gStat := { s.gStat with
          numPktsTx := s.gStat.numPktsTx + 1
          bytesPayloadTx := s.gStat.bytesPayloadTx + payload.length } },
      tsOsmuxAmr marker ctr hdl payload)

/-- The verdict fail and the end of the component. -/
def stop (s : State) (e : Fault) : State := { s with stopped := some e }

/-- The loop of `f_tx_osmux_all_cid`, with the slots that are left. -/
def txLoop (ctr : Int) (marker : Bool) : List (Fin 16) → State → State × List PduOsmuxAmr
  | [], s => (s, [])
  | i :: is, s =>
      match s.txHandleList i with
      | none => txLoop ctr marker is s
      | some hdl =>
          match (fOsmuxGenPayload s.gCfg ctr hdl.amrFt).bind
            (fun payload => fTxOsmux s i hdl ctr payload marker) with
          | .error e => (stop s e, [])
          | .ok (s', frame) =>
              ((txLoop ctr marker is s').1, frame :: (txLoop ctr marker is s').2)

/-- `f_tx_osmux_all_cid`, over all sixteen handles. -/
def fTxOsmuxAllCid (s : State) : State × List PduOsmuxAmr :=
  txLoop ((s.gCfg.batchSize.val : Int) - 1) false (List.finRange 16) s

-- ── Main loop ────────────────────────────────────────────────────────────────

/-- A frame on this connection matches the receive templates. -/
def matchesConn (s : State) (connId : Int) : Bool :=
  s.trConnId.all (fun c => c == connId)

/-- A step that goes on, or the end of the component. -/
def orStop (s : State) : Except Fault (State × List Output) → State × List Output
  | .error e => (stop s e, [])
  | .ok r => r

/-- `OsmuxEM_bind` -/
def onBind (s : State) (listened : Option Int) : State × List Output :=
  let s := { s with gTxConnected := false, gOsmuxConnId := -1 }
  match listened with
  | none => (stop s (.shutdown
      "Could not listen on Osmux socket, check your configuration"), [])
  | some connId =>
      ({ s with gOsmuxConnId := connId, trConnId := some connId }, [.reply])

/-- `OsmuxEM_connect` -/
def onConnect (s : State) (connected : Option Int) : State × List Output :=
  match connected with
  | none => (stop s (.shutdown
      "Could not connect to Osmux socket, check your configuration"), [])
  | some _ => ({ s with gTxConnected := true }, [.reply])

/-- What `OSMUX.clear` drops is never received. -/
def onMode (s : State) : OsmuxemMode → State × List Output
  | .none => ({ s with tTransmit := false, gRxEnabled := false }, [.reply])
  | .txOnly => ({ s with tTransmit := true, gRxEnabled := false }, [.reply])
  | .rxOnly => ({ s with tTransmit := false, gRxEnabled := true }, [.reply])
  | .bidir => ({ s with tTransmit := true, gRxEnabled := true }, [.reply])

/-- `rx_hdl.first_seq_seen and rx_hdl.last_seq_ack != header.seq - 1` -/
def seqError (hdl : OsmuxRxHandle) (seq : Nat) : Bool :=
  hdl.firstSeqSeen && decide ((hdl.lastSeqAck : Int) ≠ (seq : Int) - 1)

/-- The counters of every AMR frame. -/
def countRx (s : State) (frame : PduOsmuxAmr) : State :=
  { s with gStat := { s.gStat with
    numPktsRx := s.gStat.numPktsRx + 1
    bytesPayloadRx := s.gStat.bytesPayloadRx + frame.data.length } }

/-- The check of the number.  `rx_hdl` is a copy of what the table has, and what
    is written into it does not go back there. -/
def checkSeq (s : State) (rxHdl : OsmuxRxHandle) (seq : Nat) : State :=
  { s with
    gStat := { s.gStat with
      numPktsRxErrSeq := s.gStat.numPktsRxErrSeq + if seqError rxHdl seq then 1 else 0 }
    rxHdl := some { rxHdl with firstSeqSeen := true, lastSeqAck := seq } }

/-- The check of the payload, and the frame for the user. -/
def checkPayload (s : State) (frame : PduOsmuxAmr) (dataConnected : Bool) :
    State × List Output :=
  orStop s ((fOsmuxGenPayload s.gCfg frame.header.ctr frame.header.amrFt).map
    (fun payloadTruncated =>
      ({ s with gStat := { s.gStat with
          numPktsRxErrPayload := s.gStat.numPktsRxErrPayload
            + if s.gCfg.rxFixedPayload.isSome && frame.data != payloadTruncated
              then 1 else 0 } },
        if dataConnected then [.data frame] else [])))

/-- An AMR frame while the receiver is enabled. -/
def onAmr (s : State) (frame : PduOsmuxAmr) (dataConnected : Bool) :
    State × List Output :=
  match fRxhandleGetByCid (countRx s frame) frame.header.cid with
  | .error e => (stop (countRx s frame) e, [])
  | .ok rxHdl =>
      checkPayload (checkSeq (countRx s frame) rxHdl frame.header.seq) frame dataConnected

/-- A dummy frame while the receiver is enabled. -/
def onDummy (s : State) (cid : OsmuxCid) : State × List Output :=
  orStop s ((fRxhandleGetByCid s cid).map (fun rxHdl =>
    ({ s with rxHdl := some rxHdl }, [])))

/-- The end of a round on something else than Osmux. -/
def unexpectedMsg : Fault := .shutdown "Received unexpected msg type from Osmux"

/-- `T_transmit.timeout` -/
def onTimeout (s : State) : State × List Output :=
  let r := fTxOsmuxAllCid s
  ({ r.1 with tTransmit := r.1.stopped.isNone }, r.2.map .send)

/-- One round of `f_main`. -/
def fMain (s : State) : Input → State × List Output
  | .bind listened => onBind s listened
  | .connect connected => onConnect s connected
  | .mode mode => onMode s mode
  | .configure cfg => ({ s with gCfg := cfg }, [.reply])
  | .registerTxhandle hdl =>
      orStop s ((fTxhandleCidAdd s hdl).map (fun s => (s, [.reply])))
  | .registerRxhandle hdl =>
      orStop s ((fRxhandleCidAdd { s with rxHdl := some hdl } hdl).map
        (fun s => (s, [.reply])))
  | .statsGet => (s, [.replyStats s.gStat])
  | .amr connId frame dataConnected =>
      if matchesConn s connId then
        if s.gRxEnabled then onAmr s frame dataConnected
        else ({ s with gStat := { s.gStat with
          numPktsRxErrDisabled := s.gStat.numPktsRxErrDisabled + 1 } }, [])
      else (stop s unexpectedMsg, [])
  | .dummy connId cid =>
      if matchesConn s connId then
        if s.gRxEnabled then onDummy s cid else (s, [])
      else (stop s unexpectedMsg, [])
  | .timeout => if s.gTxConnected && s.tTransmit then onTimeout s else (s, [])
  | .portEvent => (stop s (.shutdown "Received unexpected port event from Osmux:"), [])
  | .unexpected => (stop s unexpectedMsg, [])

-- ── The line ─────────────────────────────────────────────────────────────────

/-- What went over the line and was registered, as an observer writes it down. -/
structure History where
  /-- CID and number of every transmit handle, oldest first. -/
  registered : List (OsmuxCid × Nat) := []
  /-- CID and number of every frame transmitted, oldest first. -/
  sent : List (OsmuxCid × Nat) := []
  /-- CID and number of every frame received, newest first. -/
  received : List (OsmuxCid × Nat) := []
  deriving DecidableEq, Repr

/-- The initial number of a CID. -/
def History.initial (h : History) (cid : OsmuxCid) : Option Nat :=
  (ofKey cid h.registered).head?

/-- The circuit and the number of a frame. -/
def numbered (frame : PduOsmuxAmr) : OsmuxCid × Nat := (frame.header.cid, frame.header.seq)

/-- The frame that a round receives. -/
def receives (s : State) : Input → Option (OsmuxCid × Nat)
  | .amr connId frame _ =>
      if matchesConn s connId && s.gRxEnabled then some (numbered frame) else none
  | _ => none

/-- The circuit and the first number of a handle. -/
def registers : Input → Option (OsmuxCid × Nat)
  | .registerTxhandle hdl => some (hdl.cid, hdl.seq)
  | _ => none

/-- The circuit and the number of a frame that is sent. -/
def sends : Output → Option (OsmuxCid × Nat)
  | .send frame => some (numbered frame)
  | _ => none

/-- What has gone on after one more round. -/
def History.after (h : History) (s : State) (i : Input) (os : List Output) : History where
  registered := h.registered ++ (registers i).toList
  sent := h.sent ++ os.filterMap sends
  received := (receives s i).toList ++ h.received

/-- The component and the observer.  A component that stopped does nothing. -/
def step (x : State × History) (i : Input) :
    Except Fault ((State × History) × List Output) :=
  if x.1.stopped.isSome then .ok (x, [])
  else .ok (((fMain x.1 i).1, x.2.after x.1 i (fMain x.1 i).2), (fMain x.1 i).2)

/-- The number after a number. -/
def succSeq (seq : Nat) : Nat := (seq + 1) % 256

/-- Frame `n` of a CID has the number `initial + n` modulo 256. -/
def SeqOf (registered : List (OsmuxCid × Nat)) (cid : OsmuxCid) (n seq : Nat) : Prop :=
  ∃ initial, (ofKey cid registered).head? = some initial ∧ seq = (initial + n) % 256

/-- The numbers transmitted and the error counter are right, and no frame was
    refused for its number. -/
structure Right (x : State × History) : Prop where
  sent : Numbered (SeqOf x.2.registered) x.2.sent
  errSeq : x.1.gStat.numPktsRxErrSeq = breaks succSeq x.2.received
  encoded : x.1.stopped ≠ some .rawOverflow

/-- The check of a frame against its handle says what a check against the frame
    before it would. -/
def FrameOk (x : State × History) (frame : PduOsmuxAmr) : Prop :=
  match fRxhandleGetByCid x.1 frame.header.cid with
  | .error _ => True
  | .ok rxHdl => seqError rxHdl frame.header.seq
      = isBreak succSeq frame.header.cid frame.header.seq x.2.received

/-- Every number fits eight bits, and no two handles have one CID. -/
def TickOk (s : State) : Prop :=
  ∀ i, ∀ hdl ∈ s.txHandleList i, hdl.seq < 256 ∧
    ∀ j, ∀ hdl' ∈ s.txHandleList j, hdl'.cid = hdl.cid → j = i

/-- The condition on one round. -/
def Guard (x : State × History) : Input → Prop
  | .amr connId frame _ =>
      x.1.stopped = none → matchesConn x.1 connId = true → x.1.gRxEnabled = true →
        FrameOk x frame
  | .timeout =>
      x.1.stopped = none → x.1.gTxConnected = true → x.1.tTransmit = true → TickOk x.1
  | _ => True

instance decFrameOk (x : State × History) (frame : PduOsmuxAmr) :
    Decidable (FrameOk x frame) := by
  unfold FrameOk
  cases fRxhandleGetByCid x.1 frame.header.cid with
  | error e => exact isTrue trivial
  | ok rxHdl => exact inferInstance

instance decTickOk (s : State) : Decidable (TickOk s) :=
  inferInstanceAs (Decidable (∀ i, ∀ hdl ∈ s.txHandleList i, hdl.seq < 256 ∧
    ∀ j, ∀ hdl' ∈ s.txHandleList j, hdl'.cid = hdl.cid → j = i))

instance decGuard (x : State × History) : ∀ i, Decidable (Guard x i)
  | .amr connId frame _ => inferInstanceAs (Decidable (x.1.stopped = none →
      matchesConn x.1 connId = true → x.1.gRxEnabled = true → FrameOk x frame))
  | .timeout => inferInstanceAs (Decidable (x.1.stopped = none →
      x.1.gTxConnected = true → x.1.tTransmit = true → TickOk x.1))
  | .bind _ | .connect _ | .mode _ | .configure _ | .registerTxhandle _
  | .registerRxhandle _ | .statsGet | .dummy _ _ | .portEvent | .unexpected =>
      isTrue trivial

-- ── Faults ───────────────────────────────────────────────────────────────────

/-- An index outside of an array is the only failure. -/
theorem arrayAt_error {a : List Nat} {k : Nat} {e : Fault} (h : arrayAt a k = .error e) :
    e = .badIndex := by
  rw [arrayAt] at h
  cases ha : a[k]? with
  | some n =>
      rw [ha] at h
      exact nomatch h
  | none =>
      rw [ha] at h
      exact (Except.error.inj h).symm

/-- So it is for a bit string. -/
theorem bitPrefix_error {str : List Bool} {n : Nat} {e : Fault}
    (h : bitPrefix str n = .error e) : e = .badIndex := by
  rw [bitPrefix] at h
  by_cases hn : n ≤ str.length
  · rw [if_pos hn] at h
    exact nomatch h
  · rw [if_neg hn] at h
    exact (Except.error.inj h).symm

/-- The expected payload fails for frame types that have no length. -/
theorem genExpected_error {amrFt : Fin 16} {fill : List UInt8} {e : Fault}
    (h : fOsmuxGenExpectedRxRtpPayload amrFt fill = .error e) : e = .badIndex := by
  rcases bind_error h with hbits | ⟨n, -, h⟩
  · exact arrayAt_error hbits
  · rcases bind_error h with hprefix | ⟨bits, -, h⟩
    · exact bitPrefix_error hprefix
    · exact arrayAt_error (map_error h)

/-- A payload fails for such types, and without a payload that is configured. -/
theorem genPayloadLoop_error {cfg : OsmuxemConfig} {amrFt : Fin 16} {e : Fault} :
    ∀ {n : Nat} {payload : List UInt8}, genPayloadLoop cfg amrFt n payload = .error e →
      e = .unbound ∨ e = .badIndex := by
  intro n
  induction n with
  | zero =>
      intro payload h
      exact nomatch h
  | succ n ih =>
      intro payload h
      rcases bind_error h with hfill | ⟨fill, -, h⟩
      · exact Or.inl (bound_error hfill)
      · rcases bind_error h with hp | ⟨p, -, h⟩
        · exact Or.inr (genExpected_error hp)
        · exact ih h

/-- A frame that faults in its payload does not fault in its number. -/
theorem genPayload_error {cfg : OsmuxemConfig} {ctr : Int} {amrFt : Fin 16} {e : Fault}
    (h : fOsmuxGenPayload cfg ctr amrFt = .error e) : e ≠ .rawOverflow := by
  rcases genPayloadLoop_error h with rfl | rfl
  · exact nofun
  · exact nofun

/-- A number of eight bits is encoded, or the frame faults in another field. -/
theorem encodes_error {frame : PduOsmuxAmr} {e : Fault} (h : frame.header.seq < 256)
    (he : encodes frame = .error e) : e ≠ .rawOverflow := by
  rw [encodes] at he
  by_cases hctr : frame.header.ctr < 0
  · rw [if_pos hctr] at he
    rw [← Except.error.inj he]
    exact nofun
  · rw [if_neg hctr, if_neg (Nat.not_le.mpr h)] at he
    exact nomatch he

/-- A handle whose number fits faults in its payload or in another field. -/
theorem txSlot_error {s : State} {i : Fin 16} {hdl : OsmuxTxHandle} {ctr : Int}
    {marker : Bool} {e : Fault} (h : hdl.seq < 256)
    (he : (fOsmuxGenPayload s.gCfg ctr hdl.amrFt).bind
      (fun payload => fTxOsmux s i hdl ctr payload marker) = .error e) :
    e ≠ .rawOverflow := by
  rcases bind_error he with hp | ⟨payload, -, ht⟩
  · exact genPayload_error hp
  · exact encodes_error h (map_error ht)

/-- What one transmission changes. -/
structure TxOne (s : State) (i : Fin 16) (hdl : OsmuxTxHandle) (s' : State)
    (frame : PduOsmuxAmr) : Prop where
  handles : s'.txHandleList
    = Function.update s.txHandleList i (some { hdl with seq := hdl.seq + 1 })
  table : s'.rxHandleTable = s.rxHandleTable
  errSeq : s'.gStat.numPktsRxErrSeq = s.gStat.numPktsRxErrSeq
  stopped : s'.stopped = s.stopped
  frame : numbered frame = (hdl.cid, hdl.seq)

/-- A handle that sends sends one frame. -/
theorem txSlot_ok {s s' : State} {i : Fin 16} {hdl : OsmuxTxHandle} {ctr : Int}
    {marker : Bool} {frame : PduOsmuxAmr}
    (h : (fOsmuxGenPayload s.gCfg ctr hdl.amrFt).bind
      (fun payload => fTxOsmux s i hdl ctr payload marker) = .ok (s', frame)) :
    TxOne s i hdl s' frame := by
  obtain ⟨payload, -, htx⟩ := bind_ok h
  obtain ⟨-, -, hr⟩ := map_ok htx
  obtain ⟨rfl, rfl⟩ := Prod.mk.inj hr
  exact ⟨rfl, rfl, rfl, rfl, rfl⟩

-- ── Invariant ────────────────────────────────────────────────────────────────

/-- The handles to send with. -/
abbrev TxHandles := Fin 16 → Option OsmuxTxHandle

/-- The handles to receive with. -/
abbrev RxHandles := Fin 16 → Option RxHandleTableRec

/-- No other slot has a handle for this CID. -/
def Alone (tx : TxHandles) (i : Fin 16) (cid : OsmuxCid) : Prop :=
  ∀ j hdl, tx j = some hdl → hdl.cid = cid → j = i

/-- What the handles of a component that goes on have to do with the line. -/
structure Going (tx : TxHandles) (rx : RxHandles) (h : History) : Prop where
  slots : ∀ cid, ofKey cid h.registered ≠ [] ↔ ∃ i hdl, tx i = some hdl ∧ hdl.cid = cid
  quiet : ∀ cid, ofKey cid h.registered = [] → ofKey cid h.sent = []
  counted : ∀ i hdl, tx i = some hdl → Alone tx i hdl.cid →
    ∃ initial, (ofKey hdl.cid h.registered).head? = some initial
      ∧ hdl.seq = initial + (ofKey hdl.cid h.sent).length
  handled : ∀ cid p, prev cid h.received = some p → ∃ i r, rx i = some r ∧ r.cid = cid

/-- **WHAT EVERY ROUND KEEPS**: the claims of the history, and while it goes on the
    tables. -/
structure Inv (x : State × History) : Prop where
  right : Right x
  going : x.1.stopped = none → Going x.1.txHandleList x.1.rxHandleTable x.2

/-- The emulation starts with empty tables and no history. -/
theorem inv_init : Inv ({}, {}) where
  right := {
    sent := numbered_nil
    errSeq := rfl
    encoded := nofun }
  going := by
    intro _
    constructor
    · intro cid
      constructor
      · intro h
        exact absurd rfl h
      · rintro ⟨i, hdl, hi, -⟩
        exact nomatch hi
    · intro cid _
      rfl
    · intro i hdl hi
      exact nomatch hi
    · intro cid p hp
      exact nomatch hp

-- ── A transmission ───────────────────────────────────────────────────────────

variable {s s' : State} {h : History} {i : Fin 16} {hdl : OsmuxTxHandle}
variable {tx : TxHandles} {rx : RxHandles}

/-- One more frame of a CID, and one more number of its handle. -/
theorem Going.send (hgo : Going tx rx h) (hi : tx i = some hdl)
    (halone : Alone tx i hdl.cid) :
    Going (Function.update tx i (some { hdl with seq := hdl.seq + 1 })) rx
      { h with sent := h.sent ++ [(hdl.cid, hdl.seq)] } := by
  constructor
  · intro cid
    refine (hgo.slots cid).trans ⟨?_, ?_⟩
    · rintro ⟨j, hdl', hj, hcid⟩
      by_cases hji : j = i
      · rw [hji, hi] at hj
        rw [← Option.some.inj hj] at hcid
        exact ⟨i, { hdl with seq := hdl.seq + 1 }, Function.update_self i _ tx, hcid⟩
      · exact ⟨j, hdl', by rw [Function.update_of_ne hji]; exact hj, hcid⟩
    · rintro ⟨j, hdl', hj, hcid⟩
      by_cases hji : j = i
      · rw [hji, Function.update_self] at hj
        rw [← Option.some.inj hj] at hcid
        exact ⟨i, hdl, hi, hcid⟩
      · rw [Function.update_of_ne hji] at hj
        exact ⟨j, hdl', hj, hcid⟩
  · intro cid hnone
    have hne : hdl.cid ≠ cid := by
      intro hcid
      exact (hgo.slots cid).mpr ⟨i, hdl, hi, hcid⟩ hnone
    show ofKey cid (h.sent ++ [(hdl.cid, hdl.seq)]) = []
    rw [ofKey_snoc_ne hne]
    exact hgo.quiet cid hnone
  · intro j hdl' hj halone'
    by_cases hji : j = i
    · rw [hji, Function.update_self] at hj
      rw [← Option.some.inj hj]
      obtain ⟨initial, hinit, hseq⟩ := hgo.counted i hdl hi halone
      refine ⟨initial, hinit, ?_⟩
      show hdl.seq + 1 = initial + (ofKey hdl.cid (h.sent ++ [(hdl.cid, hdl.seq)])).length
      rw [ofKey_snoc_self, List.length_append, List.length_singleton]
      omega
    · rw [Function.update_of_ne hji] at hj
      have hne : hdl.cid ≠ hdl'.cid := fun hcid => hji (halone j hdl' hj hcid.symm)
      have halone'' : Alone tx j hdl'.cid := by
        intro k hdlk hk hcid
        by_cases hki : k = i
        · rw [hki, hi] at hk
          rw [← Option.some.inj hk] at hcid
          exact absurd hcid hne
        · exact halone' k hdlk (by rw [Function.update_of_ne hki]; exact hk) hcid
      obtain ⟨initial, hinit, hseq⟩ := hgo.counted j hdl' hj halone''
      refine ⟨initial, hinit, ?_⟩
      show hdl'.seq = initial + (ofKey hdl'.cid (h.sent ++ [(hdl.cid, hdl.seq)])).length
      rw [ofKey_snoc_ne hne]
      exact hseq
  · exact hgo.handled

/-- The number that the handle has is the one that is due. -/
theorem Going.seqOf (hgo : Going tx rx h) (hi : tx i = some hdl)
    (halone : Alone tx i hdl.cid) (hlt : hdl.seq < 256) :
    SeqOf h.registered hdl.cid (ofKey hdl.cid h.sent).length hdl.seq := by
  obtain ⟨initial, hinit, hseq⟩ := hgo.counted i hdl hi halone
  refine ⟨initial, hinit, ?_⟩
  rw [← hseq, Nat.mod_eq_of_lt hlt]

/-- The handles that are still to send have numbers that fit. -/
def LoopOk (is : List (Fin 16)) (tx : TxHandles) : Prop :=
  (∀ i ∈ is, ∀ hdl, tx i = some hdl → hdl.seq < 256)
    ∧ ∀ i hdl, tx i = some hdl → Alone tx i hdl.cid

/-- A handle that has sent is one ahead, and the others are to come. -/
theorem LoopOk.next {is : List (Fin 16)} (hok : LoopOk (i :: is) tx)
    (hnot : i ∉ is) (hi : tx i = some hdl) :
    LoopOk is (Function.update tx i (some { hdl with seq := hdl.seq + 1 })) := by
  have hold : ∀ {j hdl'}, Function.update tx i (some { hdl with seq := hdl.seq + 1 }) j
      = some hdl' → ∃ hdlj, tx j = some hdlj ∧ hdlj.cid = hdl'.cid := by
    intro j hdl' hj
    by_cases hji : j = i
    · rw [hji, Function.update_self] at hj
      exact ⟨hdl, hji ▸ hi, by rw [← Option.some.inj hj]⟩
    · rw [Function.update_of_ne hji] at hj
      exact ⟨hdl', hj, rfl⟩
  constructor
  · intro j hj hdl' hget
    have hji : j ≠ i := fun heq => hnot (heq ▸ hj)
    rw [Function.update_of_ne hji] at hget
    exact hok.1 j (List.mem_cons_of_mem _ hj) hdl' hget
  · intro j hdl' hj k hdl'' hk hcid
    obtain ⟨hdlj, htj, hcj⟩ := hold hj
    obtain ⟨hdlk, htk, hck⟩ := hold hk
    exact hok.2 j hdlj htj k hdlk htk (hck.trans (hcid.trans hcj.symm))

/-- What a number of transmissions does. -/
structure Sent (s : State) (h : History) (r : State × List PduOsmuxAmr) : Prop where
  seqs : Numbered (SeqOf h.registered) (h.sent ++ r.2.map numbered)
  going : r.1.stopped = none → Going r.1.txHandleList r.1.rxHandleTable
    { h with sent := h.sent ++ r.2.map numbered }
  errSeq : r.1.gStat.numPktsRxErrSeq = s.gStat.numPktsRxErrSeq
  encoded : r.1.stopped ≠ some .rawOverflow

/-- **ONE TICK**: every frame has the number that is due. -/
theorem txLoop_sent (ctr : Int) (marker : Bool) : ∀ (is : List (Fin 16)) (s : State)
    (h : History), is.Nodup → s.stopped = none →
    Numbered (SeqOf h.registered) h.sent → Going s.txHandleList s.rxHandleTable h →
    LoopOk is s.txHandleList → Sent s h (txLoop ctr marker is s) := by
  intro is
  induction is with
  | nil =>
      intro s h _ hgoes hnum hgo _
      have hsent : h.sent ++ ([] : List PduOsmuxAmr).map numbered = h.sent :=
        List.append_nil _
      refine ⟨?_, fun _ => ?_, rfl, ?_⟩
      · rw [txLoop, hsent]
        exact hnum
      · rw [txLoop, hsent]
        exact hgo
      · rw [txLoop, hgoes]
        exact nofun
  | cons i is ih =>
      intro s h hnodup hgoes hnum hgo hok
      obtain ⟨hnot, hnodup'⟩ := List.nodup_cons.mp hnodup
      cases hi : s.txHandleList i with
      | none =>
          rw [txLoop, hi]
          exact ih s h hnodup' hgoes hnum hgo
            ⟨fun j hj => hok.1 j (List.mem_cons_of_mem _ hj), hok.2⟩
      | some hdl =>
          have hlt : hdl.seq < 256 := hok.1 i List.mem_cons_self hdl hi
          have halone : Alone s.txHandleList i hdl.cid := hok.2 i hdl hi
          cases ht : (fOsmuxGenPayload s.gCfg ctr hdl.amrFt).bind
            (fun payload => fTxOsmux s i hdl ctr payload marker) with
          | error e =>
              have hloop : txLoop ctr marker (i :: is) s = (stop s e, []) := by
                rw [txLoop, hi]
                dsimp only
                rw [ht]
              rw [hloop]
              refine ⟨?_, nofun, rfl, ?_⟩
              · show Numbered _ (h.sent ++ [])
                rw [List.append_nil]
                exact hnum
              · intro heq
                exact txSlot_error hlt ht (Option.some.inj heq)
          | ok r =>
              obtain ⟨s', frame⟩ := r
              have hloop : txLoop ctr marker (i :: is) s = ((txLoop ctr marker is s').1,
                  frame :: (txLoop ctr marker is s').2) := by
                rw [txLoop, hi]
                dsimp only
                rw [ht]
              rw [hloop]
              have hone := txSlot_ok ht
              have hrest := ih s' { h with sent := h.sent ++ [(hdl.cid, hdl.seq)] }
                hnodup' (hone.stopped.trans hgoes)
                (hnum.snoc (hgo.seqOf hi halone hlt))
                (by rw [hone.handles, hone.table]; exact hgo.send hi halone)
                (by rw [hone.handles]; exact hok.next hnot hi)
              have happ : h.sent ++ (frame :: (txLoop ctr marker is s').2).map numbered
                  = h.sent ++ [(hdl.cid, hdl.seq)]
                    ++ (txLoop ctr marker is s').2.map numbered := by
                rw [List.map_cons, hone.frame, List.append_assoc]
                rfl
              refine ⟨?_, fun hnone => ?_, hrest.errSeq.trans hone.errSeq,
                hrest.encoded⟩
              · dsimp only
                rw [happ]
                exact hrest.seqs
              · dsimp only
                rw [happ]
                exact hrest.going hnone

-- ── Registrations ────────────────────────────────────────────────────────────

/-- A handle more, in a slot that was free. -/
theorem Going.register (hgo : Going tx rx h) (hi : tx i = none) :
    Going (Function.update tx i (some hdl)) rx
      { h with registered := h.registered ++ [(hdl.cid, hdl.seq)] } := by
  have hkeep : ∀ {j hdl'}, tx j = some hdl' →
      Function.update tx i (some hdl) j = some hdl' := by
    intro j hdl' hj
    have hji : j ≠ i := by
      intro heq
      rw [heq, hi] at hj
      exact nomatch hj
    rw [Function.update_of_ne hji]
    exact hj
  constructor
  · intro cid
    dsimp only
    by_cases hcid : hdl.cid = cid
    · rw [← hcid, ofKey_snoc_self]
      exact ⟨fun _ => ⟨i, hdl, Function.update_self i _ tx, rfl⟩, fun _ => by simp⟩
    · rw [ofKey_snoc_ne hcid, hgo.slots]
      constructor
      · rintro ⟨j, hdl', hj, hc⟩
        exact ⟨j, hdl', hkeep hj, hc⟩
      · rintro ⟨j, hdl', hj, hc⟩
        by_cases hji : j = i
        · rw [hji, Function.update_self] at hj
          rw [← Option.some.inj hj] at hc
          exact absurd hc hcid
        · rw [Function.update_of_ne hji] at hj
          exact ⟨j, hdl', hj, hc⟩
  · intro cid hnone
    have hnone' : ofKey cid h.registered ++ ofKey cid [(hdl.cid, hdl.seq)] = [] := by
      rw [← ofKey_append]
      exact hnone
    exact hgo.quiet cid (List.append_eq_nil_iff.mp hnone').1
  · intro j hdl' hj halone
    by_cases hji : j = i
    · rw [hji, Function.update_self] at hj
      rw [← Option.some.inj hj] at halone ⊢
      -- The CID is new: no slot had it, so nothing was registered or sent.
      have hnew : ofKey hdl.cid h.registered = [] := by
        by_contra hne
        obtain ⟨k, hdl'', hk, hc⟩ := (hgo.slots hdl.cid).mp hne
        have hki := halone k hdl'' (hkeep hk) hc
        rw [hki, hji, hi] at hk
        exact nomatch hk
      refine ⟨hdl.seq, ?_, ?_⟩
      · dsimp only
        rw [ofKey_snoc_self, hnew]
        rfl
      · dsimp only
        rw [hgo.quiet hdl.cid hnew]
        rfl
    · have hne : hdl.cid ≠ hdl'.cid := fun hc =>
        hji (halone i hdl (Function.update_self i _ tx) hc).symm
      rw [Function.update_of_ne hji] at hj
      obtain ⟨initial, hinit, hseq⟩ := hgo.counted j hdl' hj
        (fun k hdl'' hk hc => halone k hdl'' (hkeep hk) hc)
      refine ⟨initial, ?_, hseq⟩
      dsimp only
      rw [ofKey_snoc_ne hne]
      exact hinit
  · exact hgo.handled

/-- A receive handle more. -/
theorem Going.registerRx {r : RxHandleTableRec} (hgo : Going tx rx h) (hi : rx i = none) :
    Going tx (Function.update rx i (some r)) h := by
  refine ⟨hgo.slots, hgo.quiet, hgo.counted, ?_⟩
  intro cid p hp
  obtain ⟨j, r', hj, hc⟩ := hgo.handled cid p hp
  have hji : j ≠ i := by
    intro heq
    rw [heq, hi] at hj
    exact nomatch hj
  exact ⟨j, r', by rw [Function.update_of_ne hji]; exact hj, hc⟩

/-- The initial number of a CID stays. -/
theorem SeqOf.append {registered : List (OsmuxCid × Nat)} {cid : OsmuxCid} {n seq : Nat}
    (hs : SeqOf registered cid n seq) (more : List (OsmuxCid × Nat)) :
    SeqOf (registered ++ more) cid n seq := by
  obtain ⟨initial, hinit, hseq⟩ := hs
  refine ⟨initial, ?_, hseq⟩
  rw [ofKey_append]
  rw [List.head?_append, hinit]
  rfl

-- ── Receptions ───────────────────────────────────────────────────────────────

/-- A handle that was found is the one of the circuit. -/
theorem rxGet_ok {cid : OsmuxCid} {rxHdl : OsmuxRxHandle}
    (hg : fRxhandleGetByCid s cid = .ok rxHdl) :
    ∃ i r, s.rxHandleTable i = some r ∧ r.cid = cid := by
  obtain ⟨i, hfind, hget⟩ := Option.bind_eq_some_iff.mp (orShutdown_eq_ok.mp hg)
  obtain ⟨r, hr, -⟩ := Option.map_eq_some_iff.mp hget
  have hacc := find_accepts hfind
  rw [hr] at hacc
  exact ⟨i, r, hr, eq_of_beq hacc⟩

/-- Where none was found there is none. -/
theorem rxGet_error {cid : OsmuxCid} {e : Fault}
    (hg : fRxhandleGetByCid s cid = .error e) : e ≠ .rawOverflow
      ∧ ∀ i r, s.rxHandleTable i = some r → r.cid ≠ cid := by
  obtain ⟨hnone, rfl⟩ := orShutdown_eq_error.mp hg
  refine ⟨nofun, fun i r hr hcid => ?_⟩
  cases hfind : find s.rxHandleTable (fun r => r.any (fun r => r.cid == cid)) with
  | none =>
      have hno := find_eq_none.mp hfind i
      rw [hr] at hno
      exact absurd (show (r.cid == cid) = true from beq_iff_eq.mpr hcid)
        (Bool.eq_false_iff.mp hno)
  | some j =>
      rw [hfind] at hnone
      have hacc := find_accepts hfind
      have hj : (s.rxHandleTable j).map RxHandleTableRec.vcConn = none := hnone
      rw [Option.map_eq_none_iff.mp hj] at hacc
      exact nomatch hacc

/-- A frame more, of a CID that has a handle. -/
theorem Going.receive {cid : OsmuxCid} {seq : Nat} (hgo : Going tx rx h)
    (hhas : ∃ i r, rx i = some r ∧ r.cid = cid) :
    Going tx rx { h with received := (cid, seq) :: h.received } := by
  refine ⟨hgo.slots, hgo.quiet, hgo.counted, ?_⟩
  intro cid' p hp
  by_cases hc : cid = cid'
  · exact hc ▸ hhas
  · have hp' : prev cid' h.received = some p := by
      have : (ofKey cid' ((cid, seq) :: h.received)).head? = some p := hp
      rw [ofKey, if_neg hc] at this
      exact this
    exact hgo.handled cid' p hp'

-- ── Rounds ───────────────────────────────────────────────────────────────────

/-- A round that leaves the handles and the error counter alone. -/
theorem Inv.quiet (hinv : Inv (s, h)) (hgoes : s.stopped = none)
    (htx : s'.txHandleList = s.txHandleList) (hrx : s'.rxHandleTable = s.rxHandleTable)
    (herr : s'.gStat.numPktsRxErrSeq = s.gStat.numPktsRxErrSeq)
    (hstop : s'.stopped ≠ some .rawOverflow) : Inv (s', h) := by
  refine ⟨⟨hinv.right.sent, herr.trans hinv.right.errSeq, hstop⟩, fun _ => ?_⟩
  dsimp only
  rw [htx, hrx]
  exact hinv.going hgoes

/-- A round over which the line is silent. -/
theorem after_eq {i : Input} {os : List Output} (hreg : registers i = none)
    (hsend : os.filterMap sends = []) (hrec : receives s i = none) :
    h.after s i os = h := by
  rw [History.after, hreg, hsend, hrec]
  simp

/-- A change of mode sends nothing. -/
theorem onMode_quiet (hinv : Inv (s, h)) (hgoes : s.stopped = none) (mode : OsmuxemMode) :
    Inv ((onMode s mode).1, h) ∧ (onMode s mode).2.filterMap sends = [] := by
  have hstop : s.stopped ≠ some .rawOverflow := by
    rw [hgoes]
    exact nofun
  cases mode with
  | none => exact ⟨hinv.quiet hgoes rfl rfl rfl hstop, rfl⟩
  | txOnly => exact ⟨hinv.quiet hgoes rfl rfl rfl hstop, rfl⟩
  | rxOnly => exact ⟨hinv.quiet hgoes rfl rfl rfl hstop, rfl⟩
  | bidir => exact ⟨hinv.quiet hgoes rfl rfl rfl hstop, rfl⟩

/-- A dummy frame sends nothing. -/
theorem onDummy_quiet (hinv : Inv (s, h)) (hgoes : s.stopped = none) (cid : OsmuxCid) :
    Inv ((onDummy s cid).1, h) ∧ (onDummy s cid).2.filterMap sends = [] := by
  rw [onDummy]
  cases hget : fRxhandleGetByCid s cid with
  | error e =>
      have hne : some e ≠ some Fault.rawOverflow := fun heq =>
        (rxGet_error hget).1 (Option.some.inj heq)
      exact ⟨hinv.quiet hgoes rfl rfl rfl hne, rfl⟩
  | ok rxHdl => exact ⟨hinv.quiet hgoes rfl rfl rfl hinv.right.encoded, rfl⟩

/-- A new handle starts a sequence of its own. -/
theorem registerTx_inv (hinv : Inv (s, h)) (hgoes : s.stopped = none)
    (hdl : OsmuxTxHandle) :
    Inv ((fMain s (.registerTxhandle hdl)).1,
      h.after s (.registerTxhandle hdl) (fMain s (.registerTxhandle hdl)).2) := by
  have hnum : Numbered (SeqOf (h.registered ++ [(hdl.cid, hdl.seq)])) h.sent :=
    hinv.right.sent.imp (fun cid n seq hs => hs.append _)
  rw [fMain]
  cases hadd : fTxhandleCidAdd s hdl with
  | error e =>
      obtain ⟨-, rfl⟩ := orShutdown_eq_error.mp (map_error hadd)
      refine ⟨⟨?_, hinv.right.errSeq, nofun⟩, nofun⟩
      show Numbered _ (h.sent ++ [])
      rw [List.append_nil]
      exact hnum
  | ok s' =>
      obtain ⟨i, hfind, rfl⟩ := map_ok hadd
      have hfree := Option.isNone_iff_eq_none.mp
        (find_accepts (orShutdown_eq_ok.mp hfind))
      have hsent : h.sent ++ [Output.reply].filterMap sends = h.sent :=
        List.append_nil _
      refine ⟨⟨?_, hinv.right.errSeq, ?_⟩, fun _ => ?_⟩
      · show Numbered _ (h.sent ++ [Output.reply].filterMap sends)
        rw [hsent]
        exact hnum
      · show s.stopped ≠ _
        rw [hgoes]
        exact nofun
      · show Going _ _ { h with
          registered := h.registered ++ [(hdl.cid, hdl.seq)]
          sent := h.sent ++ [Output.reply].filterMap sends }
        rw [hsent]
        exact (hinv.going hgoes).register hfree

/-- A new handle has seen nothing yet. -/
theorem registerRx_inv (hinv : Inv (s, h)) (hgoes : s.stopped = none)
    (hdl : OsmuxRxHandle) :
    Inv ((fMain s (.registerRxhandle hdl)).1,
      h.after s (.registerRxhandle hdl) (fMain s (.registerRxhandle hdl)).2) := by
  rw [fMain]
  cases hadd : fRxhandleCidAdd { s with rxHdl := some hdl } hdl with
  | error e =>
      obtain ⟨-, rfl⟩ := orShutdown_eq_error.mp (map_error hadd)
      rw [after_eq rfl rfl rfl]
      exact hinv.quiet hgoes rfl rfl rfl nofun
  | ok s' =>
      obtain ⟨i, hfind, rfl⟩ := map_ok hadd
      have hfree := Option.isNone_iff_eq_none.mp
        (find_accepts (orShutdown_eq_ok.mp hfind))
      rw [after_eq rfl rfl rfl]
      refine ⟨⟨hinv.right.sent, hinv.right.errSeq, hinv.right.encoded⟩, fun _ => ?_⟩
      exact (hinv.going hgoes).registerRx hfree

/-- The payload is compared; nothing is counted or sent. -/
theorem checkPayload_inv (hinv : Inv (s, h)) (hgoes : s.stopped = none)
    (frame : PduOsmuxAmr) (dataConnected : Bool) :
    Inv ((checkPayload s frame dataConnected).1, h)
      ∧ (checkPayload s frame dataConnected).2.filterMap sends = [] := by
  rw [checkPayload]
  cases hp : fOsmuxGenPayload s.gCfg frame.header.ctr frame.header.amrFt with
  | error e =>
      have hne : some e ≠ some Fault.rawOverflow := fun heq =>
        genPayload_error hp (Option.some.inj heq)
      exact ⟨hinv.quiet hgoes rfl rfl rfl hne, rfl⟩
  | ok payload =>
      refine ⟨hinv.quiet hgoes rfl rfl rfl hinv.right.encoded, ?_⟩
      cases dataConnected with
      | false => rfl
      | true => rfl

/-- **ONE FRAME RECEIVED**: where its check says what a check against the frame
    before it would, the counter stays right. -/
theorem onAmr_inv (hinv : Inv (s, h)) (hgoes : s.stopped = none) {frame : PduOsmuxAmr}
    (hok : FrameOk (s, h) frame) (dataConnected : Bool) :
    Inv ((onAmr s frame dataConnected).1, { h with received := numbered frame :: h.received })
      ∧ (onAmr s frame dataConnected).2.filterMap sends = [] := by
  have hgo := hinv.going hgoes
  have hget' : fRxhandleGetByCid (countRx s frame) frame.header.cid
      = fRxhandleGetByCid s frame.header.cid := rfl
  unfold FrameOk at hok
  unfold onAmr
  rw [hget']
  cases hget : fRxhandleGetByCid s frame.header.cid with
  | error e =>
      obtain ⟨hne, hno⟩ := rxGet_error hget
      have hfirst : isBreak succSeq frame.header.cid frame.header.seq h.received = false := by
        refine Bool.eq_false_iff.mpr (fun hbreak => ?_)
        obtain ⟨p, hp, -⟩ := isBreak_iff.mp hbreak
        obtain ⟨i, r, hr, hc⟩ := hgo.handled _ _ hp
        exact hno i r hr hc
      refine ⟨⟨⟨hinv.right.sent, ?_, fun heq => hne (Option.some.inj heq)⟩, nofun⟩, rfl⟩
      show s.gStat.numPktsRxErrSeq = breaks succSeq h.received
        + if isBreak succSeq frame.header.cid frame.header.seq h.received then 1 else 0
      rw [hfirst]
      exact hinv.right.errSeq
  | ok rxHdl =>
      rw [hget] at hok
      have hsame : seqError rxHdl frame.header.seq
        = isBreak succSeq frame.header.cid frame.header.seq h.received := hok
      have hchecked : Inv (checkSeq (countRx s frame) rxHdl frame.header.seq,
          { h with received := numbered frame :: h.received }) := by
        refine ⟨⟨hinv.right.sent, ?_, hinv.right.encoded⟩, fun _ => ?_⟩
        · show s.gStat.numPktsRxErrSeq + (if seqError rxHdl frame.header.seq then 1 else 0)
            = breaks succSeq h.received
              + if isBreak succSeq frame.header.cid frame.header.seq h.received then 1 else 0
          have herr : s.gStat.numPktsRxErrSeq = breaks succSeq h.received :=
            hinv.right.errSeq
          rw [hsame, herr]
        · exact hgo.receive (rxGet_ok hget)
      exact checkPayload_inv hchecked hgoes frame dataConnected

/-- All of a list of frames are sent. -/
theorem filterMap_send (frames : List PduOsmuxAmr) :
    (frames.map Output.send).filterMap sends = frames.map numbered := by
  rw [List.filterMap_map]
  exact congrFun (List.filterMap_eq_map (f := numbered)) frames

/-- **ONE TICK**: every frame has the number that is due. -/
theorem onTimeout_inv (hinv : Inv (s, h)) (hgoes : s.stopped = none) (hok : TickOk s) :
    Inv ((onTimeout s).1, { h with sent := h.sent ++ (onTimeout s).2.filterMap sends }) := by
  have hloop : LoopOk (List.finRange 16) s.txHandleList := by
    constructor
    · intro i _ hdl hi
      exact (hok i hdl hi).1
    · intro i hdl hi j hdl' hj hc
      exact (hok i hdl hi).2 j hdl' hj hc
  have hsent : Sent s h (fTxOsmuxAllCid s) :=
    txLoop_sent ((s.gCfg.batchSize.val : Int) - 1) false (List.finRange 16) s h
      (List.nodup_finRange 16) hgoes hinv.right.sent (hinv.going hgoes) hloop
  have hout : (onTimeout s).2.filterMap sends = (fTxOsmuxAllCid s).2.map numbered :=
    filterMap_send _
  rw [hout]
  exact ⟨⟨hsent.seqs, hsent.errSeq.trans hinv.right.errSeq, hsent.encoded⟩, hsent.going⟩

/-- **ONE ROUND** that meets the condition keeps the invariant. -/
theorem fMain_inv (hinv : Inv (s, h)) (hgoes : s.stopped = none) {i : Input}
    (hguard : Guard (s, h) i) :
    Inv ((fMain s i).1, h.after s i (fMain s i).2) := by
  have hstop : s.stopped ≠ some .rawOverflow := hinv.right.encoded
  cases i with
  | bind listened =>
      rw [after_eq rfl (by cases listened <;> rfl) rfl]
      cases listened with
      | none => exact hinv.quiet hgoes rfl rfl rfl nofun
      | some connId => exact hinv.quiet hgoes rfl rfl rfl hstop
  | connect connected =>
      rw [after_eq rfl (by cases connected <;> rfl) rfl]
      cases connected with
      | none => exact hinv.quiet hgoes rfl rfl rfl nofun
      | some connId => exact hinv.quiet hgoes rfl rfl rfl hstop
  | mode mode =>
      obtain ⟨hkeep, hsilent⟩ := onMode_quiet hinv hgoes mode
      rw [show fMain s (.mode mode) = onMode s mode from rfl, after_eq rfl hsilent rfl]
      exact hkeep
  | configure cfg =>
      rw [after_eq rfl rfl rfl]
      exact hinv.quiet hgoes rfl rfl rfl hstop
  | registerTxhandle hdl => exact registerTx_inv hinv hgoes hdl
  | registerRxhandle hdl => exact registerRx_inv hinv hgoes hdl
  | statsGet =>
      rw [after_eq rfl rfl rfl]
      exact hinv
  | amr connId frame dataConnected =>
      by_cases hconn : matchesConn s connId = true
      · by_cases hrx : s.gRxEnabled = true
        · obtain ⟨hkeep, hsilent⟩ := onAmr_inv hinv hgoes (hguard hgoes hconn hrx)
            dataConnected
          have hstep : fMain s (.amr connId frame dataConnected)
              = onAmr s frame dataConnected := by
            rw [fMain, if_pos hconn, if_pos hrx]
          have hafter : h.after s (.amr connId frame dataConnected)
              (onAmr s frame dataConnected).2
              = { h with received := numbered frame :: h.received } := by
            rw [History.after, hsilent, receives, hconn, hrx]
            simp [registers]
          rw [hstep, hafter]
          exact hkeep
        · rw [fMain, if_pos hconn, if_neg hrx, after_eq rfl rfl (by simp [receives, hrx])]
          exact hinv.quiet hgoes rfl rfl rfl hstop
      · rw [fMain, if_neg hconn, after_eq rfl rfl (by simp [receives, hconn])]
        exact hinv.quiet hgoes rfl rfl rfl nofun
  | dummy connId cid =>
      by_cases hconn : matchesConn s connId = true
      · by_cases hrx : s.gRxEnabled = true
        · obtain ⟨hkeep, hsilent⟩ := onDummy_quiet hinv hgoes cid
          rw [fMain, if_pos hconn, if_pos hrx, after_eq rfl hsilent rfl]
          exact hkeep
        · rw [fMain, if_pos hconn, if_neg hrx, after_eq rfl rfl rfl]
          exact hinv
      · rw [fMain, if_neg hconn, after_eq rfl rfl rfl]
        exact hinv.quiet hgoes rfl rfl rfl nofun
  | timeout =>
      by_cases hdue : (s.gTxConnected && s.tTransmit) = true
      · obtain ⟨hconn, htimer⟩ := Bool.and_eq_true_iff.mp hdue
        have hafter : h.after s .timeout (onTimeout s).2
            = { h with sent := h.sent ++ (onTimeout s).2.filterMap sends } := by
          simp [History.after, registers, receives]
        rw [fMain, if_pos hdue, hafter]
        exact onTimeout_inv hinv hgoes (hguard hgoes hconn htimer)
      · rw [fMain, if_neg hdue, after_eq rfl rfl rfl]
        exact hinv
  | portEvent =>
      rw [after_eq rfl rfl rfl]
      exact hinv.quiet hgoes rfl rfl rfl nofun
  | unexpected =>
      rw [after_eq rfl rfl rfl]
      exact hinv.quiet hgoes rfl rfl rfl nofun

/-- **ONE ROUND** keeps the invariant. -/
theorem step_inv (x : State × History) (i : Input) (hinv : Inv x) (hguard : Guard x i) :
    ∃ x' os, step x i = .ok (x', os) ∧ Inv x' := by
  cases hgoes : x.1.stopped with
  | some e =>
      have hstay : step x i = .ok (x, []) := by
        rw [step, hgoes]
        rfl
      exact ⟨x, [], hstay, hinv⟩
  | none =>
      have hgo : step x i = .ok (((fMain x.1 i).1, x.2.after x.1 i (fMain x.1 i).2),
          (fMain x.1 i).2) := by
        rw [step, hgoes]
        rfl
      exact ⟨_, _, hgo, fMain_inv hinv hgoes hguard⟩

-- ── Runs ─────────────────────────────────────────────────────────────────────

/-- **SEQUENCE NUMBERS**: in every run in which the check of each frame against
    its handle says what a check against the frame before it would, and in which
    at each tick all numbers fit eight bits and no two transmit handles share a
    CID, every frame sent and the count of errors are right in every state. -/
theorem sequence_numbers (is : List Input) (hguard : Guarded step Guard ({}, {}) is) :
    Always step Right ({}, {}) is :=
  (always_of_guarded step_inv is ({}, {}) inv_init hguard).imp (fun _ hinv => hinv.right)

/-- A frame of five octets with a CID and a number. -/
def sidFrame (cid : OsmuxCid) (seq : Nat) : PduOsmuxAmr where
  header := {
    marker := false, ft := 1, ctr := 0, amrF := false, amrQ := true, seq := seq
    cid := cid, amrFt := 8, amrCmr := 0 }
  data := [1, 2, 3, 4, 0]

/-- One handle each way, two ticks and two frames in order. -/
def inOrder : List Input :=
  [.bind (some 1), .connect (some 1), .registerTxhandle (tTxHandleAmr590 3),
   .registerRxhandle { cOsmuxemDefaultRxHandle with cid := 5 }, .mode .bidir,
   .timeout, .amr 1 (sidFrame 5 9) true, .amr 1 (sidFrame 5 10) true, .timeout,
   .statsGet]

/-- A run that sends and receives frames in order. -/
theorem sequence_numbers_inOrder :
    Guarded step Guard ({}, {}) inOrder ∧ Always step Right ({}, {}) inOrder :=
  have hguard : Guarded step Guard ({}, {}) inOrder := by decide +kernel
  ⟨hguard, sequence_numbers inOrder hguard⟩

/-- Two frames of CID 5, of which the second is two numbers on. -/
def gap : List Input :=
  [.bind (some 1), .registerRxhandle { cOsmuxemDefaultRxHandle with cid := 5 },
   .mode .rxOnly, .amr 1 (sidFrame 5 1) true, .amr 1 (sidFrame 5 3) true]

/-- A frame that is missing is not counted: `rx_hdl` is a copy. -/
theorem gap_notCounted : ¬ Always step Right ({}, {}) gap := by
  intro h
  have hrun : (run step ({}, {}) gap).map
      (fun r => (r.1.1.gStat.numPktsRxErrSeq, breaks succSeq r.1.2.received))
      = .ok (0, 1) := by
    decide +kernel
  obtain ⟨r, hr, heq⟩ := map_ok hrun
  obtain ⟨x, os⟩ := r
  obtain ⟨hcount, hbreaks⟩ := Prod.mk.inj heq
  have hright := (h.run_end hr).errSeq
  rw [hcount, hbreaks] at hright
  exact nomatch hright

end OsmoOsmux
