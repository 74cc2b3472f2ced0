import OsmoTtcn.SlotTableProofs
import OsmoTtcn.TitanProofs

/-! # The RSL emulation

    `main` takes what the lower layer puts into `IPA_PT` and what its clients
    ask for.  A message of a dedicated channel goes to the client that handles
    the channel; the channel of a client is set by an explicit registration, or
    by the IMMEDIATE ASSIGNMENT that answers its request.  While the wait queue
    is enabled, messages of channels that nobody handles are parked in it.

    A port is a queue: `main` looks at the message in front only, and leaves it
    there when no alternative takes it. -/

namespace OsmoRsl

open OsmoTitan SlotTable

-- ── Messages ─────────────────────────────────────────────────────────────────

/-- `IpaStreamId`, the streams that an IPA link is divided into. -/
inductive IpaStreamId where
  | rslTrx0 | rslTrx1 | rslTrx2 | rslTrx3 | osmo | mgcpOld | sccp | ccm | oml
  deriving DecidableEq

/-- `enum2int` -/
def fTrxByStreamId : IpaStreamId → Nat
  | .rslTrx0 => 0
  | .rslTrx1 => 1
  | .rslTrx2 => 2
  | .rslTrx3 => 3
  | .osmo => 238
  | .mgcpOld => 252
  | .sccp => 253
  | .ccm => 254
  | .oml => 255

/-- `f_streamId_by_trx`: one RSL stream for each of four transceivers. -/
def fStreamIdByTrx : Nat → Except Fault IpaStreamId
  | 0 => .ok .rslTrx0
  | 1 => .ok .rslTrx1
  | 2 => .ok .rslTrx2
  | 3 => .ok .rslTrx3
  | _ => .error (.shutdown "Unknown stream ID ")

/-- `RSL_IE_FrameNumber`, a frame number in its reduced form. -/
structure RslIeFrameNumber where
  t1p : Nat
  t3 : Nat
  t2 : Nat
  deriving DecidableEq

/-- 3GPP TS 44.018 / 10.5.2.38 Starting Time -/
def tsRslIeFrameNumber (fn : Nat) : RslIeFrameNumber :=
  { t1p := fn / 1326 % 32, t3 := fn % 51, t2 := fn % 26 }

/-- What `main` reads of an immediate assignment. -/
inductive GsmRrPayload (ChanNr : Type) where
  | immAss (ra : UInt8) (chanNr : ChanNr)
  /-- The random references of the rejected requests. -/
  | immAssRej (ras : List UInt8)
  | other

/-- The kinds of messages that the templates of `main` tell apart. -/
inductive RslKind (ChanNr : Type) where
  /-- `none`: the payload does not decode. -/
  | immAssign (rr : Option (GsmRrPayload ChanNr))
  | chanRqd (ra : UInt8) (frameNr : RslIeFrameNumber)
  | pagingCmd
  /-- Any other message of the common channels. -/
  | cchan
  | trxMgmt
  | chanActiv
  /-- Any other message that `tr_RSL_MsgTypeDR` matches: of a dedicated
      channel, of the radio link layer, or of ip.access. -/
  | dchan
  | unknown

/-- `RSL_Message`, by what the templates ask of it. -/
structure RslMessage (ChanNr Body : Type) where
  kind : RslKind ChanNr
  /-- The first information element, if it is a channel number. -/
  chanNr : Option ChanNr
  body : Body

/-- `ASP_RSL_Unitdata`, a message and the stream it came on. -/
structure AspRslUnitdata (Rsl : Type) where
  connId : Option Int
  streamId : IpaStreamId
  rsl : Rsl

/-- `ASP_IPA_EventType` -/
inductive AspIpaEventType where
  | down | up | idResp | idAck
  deriving DecidableEq

/-- `IpaCcmIdTag`, what a part of an ID response is about. -/
inductive IpaCcmIdTag where
  | sernr | unitname | location1 | location2 | equipvers | swversion | ipaddr
  | macaddr | unitid | osmoRand
  deriving DecidableEq

/-- `IpaUnitId`: site, BTS and transceiver. -/
structure IpaUnitId where
  siteId : Nat
  btsId : Nat
  trxId : Nat

/-- `IpaCcmRespPart`, one part of an ID response. -/
structure IpaCcmRespPart where
  tag : IpaCcmIdTag
  /-- What `dec_IpaUnitId` makes of the data. -/
  unitId : Option IpaUnitId

/-- `ASP_IPA_Event` -/
structure AspIpaEvent where
  evType : AspIpaEventType
  connId : Int
  idResp : Option (List IpaCcmRespPart)

/-- What `IPA_PT` carries towards `main`. -/
inductive IpaPdu (ChanNr Body : Type) where
  | event (evt : AspIpaEvent)
  | ud (rxRsl : AspRslUnitdata (RslMessage ChanNr Body))

/-- What `main` sends down: messages of its own, and those of its clients. -/
inductive TxRsl (ChanNr Body : Type) where
  | pagingLoadInd (load : Nat)
  | chanActAck (chanNr : ChanNr) (fn : Nat)
  | chanRqd (ra : UInt8) (fn : Nat)
  | msg (rsl : RslMessage ChanNr Body)

/-- What one round of the main loop sends, and on which port. -/
inductive Output (Comp ChanNr Body : Type) where
  | ipa (tx : AspRslUnitdata (TxRsl ChanNr Body))
  | cchanEv (up : Bool) (sid : IpaStreamId)
  | cchan (rxRsl : AspRslUnitdata (RslMessage ChanNr Body))
  /-- `CLIENT_PT.send(rx_rsl.rsl) to client` -/
  | client (client : Comp) (rxRsl : AspRslUnitdata (RslMessage ChanNr Body))
  /-- `CLIENT_PT.send(rx_rsl)`, to whoever is connected. -/
  | anyClient (rxRsl : AspRslUnitdata (RslMessage ChanNr Body))
  /-- `RSL_PROC.reply` with its out parameter. -/
  | reply (client : Comp) (chanAct : Option (RslMessage ChanNr Body))

-- ── State ────────────────────────────────────────────────────────────────────

/-- `ConnectionData`, an entry of the connection table. -/
structure ConnectionData (Comp ChanNr : Type) where
  /-- `none`: the null reference. -/
  compRef : Option Comp
  trxNr : Option Nat
  streamId : Option IpaStreamId
  chanNr : Option ChanNr
  /-- Random Reference -/
  ra : Option UInt8
  raFn : Option Nat

/-- Last activation for a given channel number. -/
structure LastActData (ChanNr Body : Type) where
  trxNr : Option Nat
  chanNr : Option ChanNr
  chanAct : Option (RslMessage ChanNr Body)

/-- `sizeof(ConnectionTable)`, `sizeof(LastActTable)` -/
abbrev tableSize : Nat := 64

/-- `ConnectionTable`, of `n` entries. -/
abbrev ConnectionTable (n : Nat) (Comp ChanNr : Type) : Type :=
  Fin n → ConnectionData Comp ChanNr

/-- `LastActTable`, the last activation of each channel. -/
abbrev LastActTable (n : Nat) (ChanNr Body : Type) : Type :=
  Fin n → LastActData ChanNr Body

/-- The variables of `RSL_Emulation_CT`, and what is queued on `IPA_PT`. -/
structure State (n : Nat) (Comp ChanNr Body : Type) where
  ipaPt : List (IpaPdu ChanNr Body)
  connectionTable : ConnectionTable n Comp ChanNr
  /-- RSL messages for which no handler is currently registered. -/
  waitingQueue : List (AspRslUnitdata (RslMessage ChanNr Body))
  lastActTable : LastActTable n ChanNr Body
  trxConnNum : Int
  /-- -1: not connected. -/
  trxConnMap : Fin 4 → Int
  dchanSuspended : Bool
  waitQueueEnabled : Bool
  autoChanActAck : Bool

/-- An entry that belongs to nobody. -/
def ConnectionData.clear {Comp ChanNr : Type} : ConnectionData Comp ChanNr :=
  { compRef := none, trxNr := none, streamId := none, chanNr := none
    ra := none, raFn := none }

/-- `f_rsl_init` -/
def State.init {n : Nat} {Comp ChanNr Body : Type} :
    State n Comp ChanNr Body where
  ipaPt := []
  connectionTable := fun _ => ConnectionData.clear
  waitingQueue := []
  lastActTable := fun _ => { trxNr := none, chanNr := none, chanAct := none }
  trxConnNum := 0
  trxConnMap := fun _ => -1
  dchanSuspended := false
  waitQueueEnabled := false
  autoChanActAck := true

section Functions

variable {n : Nat} {Comp ChanNr Body : Type} [DecidableEq Comp]
variable [DecidableEq ChanNr] (t : ConnectionTable n Comp ChanNr)

-- ── The connection table ─────────────────────────────────────────────────────

/-- `f_cid_by_comp_ref` -/
def fCidByCompRef (compRef : Comp) : Option (Fin n) :=
  find t (fun c => decide (c.compRef = some compRef))

/-- `f_cid_by_chan_nr` -/
def fCidByChanNr (trxNr : Nat) (chanNr : ChanNr) : Option (Fin n) :=
  find t (fun c => decide (c.chanNr = some chanNr ∧ c.trxNr = some trxNr))

/-- `f_cid_by_ra_fn` -/
def fCidByRaFn (ra : UInt8) (fn : Nat) : Option (Fin n) :=
  find t (fun c => decide (c.ra = some ra ∧ c.raFn = some fn))

/-- Matches by only RA if FN is omitted in one of the connections allocated. -/
def fCidByRaFn2 (ra : UInt8) (fn : RslIeFrameNumber) : Option (Fin n) :=
  find t (fun c => decide (c.ra = some ra)
    && (c.raFn.map tsRslIeFrameNumber).all (fun fn' => decide (fn = fn')))

/-- `not isvalue(ra) and not isvalue(trx_nr)` -/
def ConnectionData.free (c : ConnectionData Comp ChanNr) : Bool :=
  c.ra.isNone && c.trxNr.isNone

/-- `f_cid_create`: the entry of a handler that has asked for a channel. -/
def fCidCreate (ra : UInt8) (fn : Option Nat) (compRef : Comp) :
    Except Fault (ConnectionTable n Comp ChanNr) :=
  match find t ConnectionData.free with
  | some i => .ok (Function.update t i
      { t i with ra := some ra, raFn := fn, compRef := some compRef })
  | none => .error (.ttcnError "No free entry in conn table for ")

/-- `f_cid_create_cnr`: the entry of a handler that has registered for one. -/
def fCidCreateCnr (trxNr : Nat) (chanNr : ChanNr) (compRef : Comp) :
    Except Fault (ConnectionTable n Comp ChanNr) :=
  match find t ConnectionData.free with
  | some i => (fStreamIdByTrx trxNr).map (fun streamId =>
      Function.update t i { t i with
        streamId := some streamId
        trxNr := some trxNr
        chanNr := some chanNr
        compRef := some compRef })
  | none => .error (.ttcnError "No free entry in conn table for ")

/-- `f_cid_clear` -/
def fCidClear (cid : Fin n) : ConnectionTable n Comp ChanNr :=
  Function.update t cid ConnectionData.clear

/-- `ConnectionTable[cid]`; a search that found nothing gives -1. -/
def indexed (cid : Option (Fin n)) : Except Fault (Fin n) :=
  match cid with
  | some cid => .ok cid
  | none => .error .badIndex

-- ── The last activations ─────────────────────────────────────────────────────

/-- `f_store_last_act_data`: the first entry that is free or the channel's. -/
def fStoreLastActData (l : LastActTable n ChanNr Body) (trxNr : Nat)
    (chanNr : ChanNr) (chanAct : RslMessage ChanNr Body) :
    Except Fault (LastActTable n ChanNr Body) :=
  match find l (fun c => c.chanNr.isNone
      || decide (c.chanNr = some chanNr ∧ c.trxNr = some trxNr)) with
  | some i => .ok (Function.update l i
      { trxNr := some trxNr, chanNr := some chanNr, chanAct := some chanAct })
  | none => .error
      (.ttcnError "No space left in LastActTable to store chan_act for ")

/-- `f_lookup_last_act` -/
def fLookupLastAct (l : LastActTable n ChanNr Body) (trxNr : Nat)
    (chanNr : ChanNr) : Except Fault (RslMessage ChanNr Body) :=
  match find l (fun c => decide (c.chanNr = some chanNr ∧ c.trxNr = some trxNr)) with
  | some i =>
      match (l i).chanAct with
      | some chanAct => .ok chanAct
      | none => .error .unbound
  | none => .error (.ttcnError "No LastActTable entry found for TRX ")

-- ── The transceivers ─────────────────────────────────────────────────────────

/-- -1 if there is none. -/
def fIpaIdRespFindIe (resp : List IpaCcmRespPart) (tag : IpaCcmIdTag) :
    Option IpaCcmRespPart :=
  resp.find? (fun part => decide (part.tag = tag))

variable (s : State n Comp ChanNr Body)

/-- The transceiver that an identity response names. -/
def fTrxIdOf (idResp : Option (List IpaCcmRespPart)) : Except Fault Nat :=
  match idResp with
  | none => .error .unbound
  | some resp =>
      match fIpaIdRespFindIe resp .unitid with
      | none => .error (.ttcnError "IPA IDENTITY RESPONSE contains no unit-id")
      | some part =>
          match part.unitId with
          | none => .error (.ttcnError "Can not decode type 'IpaUnitId'")
          | some unitId => .ok unitId.trxId

/-- `f_trx_conn_map_register`: the connection goes under the transceiver of its unit
    id. -/
def fTrxConnMapRegister (connId : Int)
    (idResp : Option (List IpaCcmRespPart)) :
    Except Fault (State n Comp ChanNr Body × IpaStreamId) :=
  if s.trxConnNum ≥ 4 then
    .error (.ttcnError "We cannot handle more than 4 transceivers")
  else
    match fTrxIdOf idResp with
    | .error e => .error e
    | .ok trxId =>
        if h : trxId < 4 then
          if s.trxConnMap ⟨trxId, h⟩ ≠ -1 then
            .error (.ttcnError "Transceiver # is already connected?!?")
          else (fStreamIdByTrx trxId).map (fun sid => ({ s with
            trxConnMap := Function.update s.trxConnMap ⟨trxId, h⟩ connId
            trxConnNum := s.trxConnNum + 1 }, sid))
        else .error (.ttcnError "Transceiver # does not fit")

/-- `f_trx_conn_map_unregister` -/
def fTrxConnMapUnregister (connId : Int) :
    Except Fault (State n Comp ChanNr Body × IpaStreamId) :=
  match find s.trxConnMap (fun c => decide (connId = c)) with
  | some i => (fStreamIdByTrx i).map (fun sid => ({ s with
      trxConnMap := Function.update s.trxConnMap i (-1)
      trxConnNum := s.trxConnNum - 1 }, sid))
  | none => .error (.ttcnError "Trying to unregister an unknown conn_id=")

/-- `f_trx_conn_map_resolve` -/
def fTrxConnMapResolve (id : IpaStreamId) : Except Fault Int :=
  if h : fTrxByStreamId id < 4 then
    if s.trxConnMap ⟨fTrxByStreamId id, h⟩ = -1 then
      .error (.ttcnError "Transceiver # is not connected")
    else .ok (s.trxConnMap ⟨fTrxByStreamId id, h⟩)
  else .error .badIndex

-- ── The main loop ────────────────────────────────────────────────────────────

/-- What a step gives. -/
abbrev Next (n : Nat) (Comp ChanNr Body : Type) : Type :=
  State n Comp ChanNr Body × List (Output Comp ChanNr Body)

/-- `ies[0].body.chan_nr` -/
def chanNrOf (rsl : RslMessage ChanNr Body) : Except Fault ChanNr :=
  match rsl.chanNr with
  | some chanNr => .ok chanNr
  | none => .error (.ttcnError "Using non-selected field chan_nr")

/-- The entry of the channel that a message came on. -/
def fCidOf (rxRsl : AspRslUnitdata (RslMessage ChanNr Body)) :
    Except Fault (Option (Fin n)) :=
  (chanNrOf rxRsl.rsl).map (fCidByChanNr t (fTrxByStreamId rxRsl.streamId))

/-- `CLIENT_PT.send(rx_rsl.rsl) to ConnectionTable[cid].comp_ref` -/
def sendToClient (cid : Fin n)
    (rxRsl : AspRslUnitdata (RslMessage ChanNr Body)) :
    Except Fault (Output Comp ChanNr Body) :=
  match (t cid).compRef with
  | some client => .ok (.client client rxRsl)
  | none => .error (.ttcnError "Sending to the null component reference")

/-- Dispatch a stalled message to the appropriate handler. -/
def dispatchOne (rxRsl : AspRslUnitdata (RslMessage ChanNr Body)) :
    Except Fault (Output Comp ChanNr Body) := do
  match ← fCidOf t rxRsl with
  | some cid => sendToClient t cid rxRsl
  | none => .error (.shutdown "No Dchan handler found for: ")

/-- `f_waiting_queue_dispatch`, each message in its turn. -/
def fWaitingQueueDispatch
    (queue : List (AspRslUnitdata (RslMessage ChanNr Body))) :
    Except Fault (List (Output Comp ChanNr Body)) :=
  queue.mapM (dispatchOne t)

/-- The requests that are rejected and known lose their entries. -/
def immAssRejLoop (rxRsl : AspRslUnitdata (RslMessage ChanNr Body)) :
    ConnectionTable n Comp ChanNr → List UInt8 →
      Except Fault (ConnectionTable n Comp ChanNr × List (Output Comp ChanNr Body))
  | t, [] => .ok (t, [])
  | t, ra :: ras =>
      match fCidByRaFn t ra 23 with
      | none => immAssRejLoop rxRsl t ras
      | some cid => do
          let out ← sendToClient t cid rxRsl
          let r ← immAssRejLoop rxRsl (fCidClear t cid) ras
          return (r.1, out :: r.2)

section Main

variable (s : State n Comp ChanNr Body)
variable (rxRsl : AspRslUnitdata (RslMessage ChanNr Body))

/-- IMMEDIATE ASSIGNMENT: the handler of the request learns its channel. -/
def rxImmAssign (rr : Option (GsmRrPayload ChanNr)) :
    Except Fault (Next n Comp ChanNr Body) :=
  match rr with
  | none => .error (.ttcnError "Can not decode type 'GsmRrMessage'")
  | some (.immAss ra chanNr) =>
      match fCidByRaFn s.connectionTable ra 23 with
      | none => .error (.shutdown "IMM ASS for unknown DChan")
      | some cid =>
          -- update client with trx_nr and chan_nr
          (sendToClient s.connectionTable cid rxRsl).map (fun out =>
            let entry := { s.connectionTable cid with
              trxNr := some (fTrxByStreamId rxRsl.streamId)
              streamId := some rxRsl.streamId
              chanNr := some chanNr }
            ({ s with
              connectionTable := Function.update s.connectionTable cid entry },
              [out]))
  | some (.immAssRej ras) =>
      (immAssRejLoop rxRsl s.connectionTable ras).map
        (fun r => ({ s with connectionTable := r.1 }, r.2))
  | some .other => .ok (s, [])

/-- CHANNEL REQUIRED, when the emulation plays the BSC. -/
def rxChanRqd (ra : UInt8) (frameNr : RslIeFrameNumber) :
    Except Fault (Next n Comp ChanNr Body) :=
  match fCidByRaFn2 s.connectionTable ra frameNr with
  | some cid => (sendToClient s.connectionTable cid rxRsl).map (fun out =>
      ({ s with connectionTable := fCidClear s.connectionTable cid }, [out]))
  | none => .ok (s, [.cchan rxRsl])

/-- Store in LastActTable, possibly ACK. -/
def rxChanActiv : Except Fault (Next n Comp ChanNr Body) := do
  let chanNr ← chanNrOf rxRsl.rsl
  let lastActTable ← fStoreLastActData s.lastActTable
    (fTrxByStreamId rxRsl.streamId) chanNr rxRsl.rsl
  return ({ s with lastActTable := lastActTable },
    if s.autoChanActAck then
      -- blindly acknowledge all channel activations
      [.ipa { connId := none, streamId := rxRsl.streamId
              rsl := .chanActAck chanNr 23 }]
    else [.anyClient rxRsl])

/-- Dispatch to channel based on ChanId. -/
def rxDchan : Except Fault (Next n Comp ChanNr Body) := do
  match ← fCidOf s.connectionTable rxRsl with
  | some cid =>
      let out ← sendToClient s.connectionTable cid rxRsl
      return (s, [out])
  | none =>
      if s.waitQueueEnabled then
        return ({ s with waitingQueue := s.waitingQueue ++ [rxRsl] }, [])
      else .error (.shutdown "RSL for unknown Dchan")

/-- Broadcast to all clients. -/
def rxPagingCmd : List (Output Comp ChanNr Body) :=
  (List.finRange n).filterMap (fun i =>
    (s.connectionTable i).compRef.map (fun client => .client client rxRsl))

/-- `none`: no alternative takes the message. -/
def rxRslUd (btsRole : Bool) : Option (Except Fault (Next n Comp ChanNr Body)) :=
  match rxRsl.rsl.kind, btsRole with
  | .immAssign rr, true => some (rxImmAssign s rxRsl rr)
  | .chanRqd ra frameNr, false => some (rxChanRqd s rxRsl ra frameNr)
  | .pagingCmd, true => some (.ok (s, rxPagingCmd s rxRsl))
  -- forward common channel management to the special port for it
  | .trxMgmt, _ => some (.ok (s, [.cchan rxRsl]))
  | .immAssign _, false => some (.ok (s, [.cchan rxRsl]))
  | .chanRqd _ _, true => some (.ok (s, [.cchan rxRsl]))
  | .pagingCmd, false => some (.ok (s, [.cchan rxRsl]))
  | .cchan, _ => some (.ok (s, [.cchan rxRsl]))
  | .chanActiv, true => some (rxChanActiv s rxRsl)
  | .chanActiv, false =>
      if s.dchanSuspended then none else some (rxDchan s rxRsl)
  | .dchan, _ => if s.dchanSuspended then none else some (rxDchan s rxRsl)
  | .unknown, _ =>
      if s.dchanSuspended then none
      else some (.error (.shutdown "Received unknown primitive from IPA"))

/-- `as_main` on an event of the IPA port; `none` where no template matches. -/
def rxEvent (evt : AspIpaEvent) (btsRole : Bool) :
    Option (Except Fault (Next n Comp ChanNr Body)) :=
  match evt.evType, btsRole with
  | .up, _ => some (.ok (s, []))
  | .idResp, false => some ((fTrxConnMapRegister s evt.connId evt.idResp).map
      (fun r => (r.1, [.cchanEv true r.2])))
  | .idResp, true =>
      if s.dchanSuspended then none
      else some (.error (.shutdown "Received unknown primitive from IPA"))
  | .down, _ => some ((fTrxConnMapUnregister s evt.connId).map
      (fun r => (r.1, [.cchanEv false r.2])))
  | .idAck, true => some (.ok (s, [.ipa
      { connId := none, streamId := .rslTrx0, rsl := .pagingLoadInd 23 }]))
  | .idAck, false => some (.ok (s, []))

/-- The alternatives that receive from `IPA_PT`. -/
def rxIpa (btsRole : Bool) : Except Fault (Next n Comp ChanNr Body) :=
  match s.ipaPt with
  | [] => .ok (s, [])
  | pdu :: rest =>
      let taken := match pdu with
        | .ud rxRsl => rxRslUd { s with ipaPt := rest } rxRsl btsRole
        | .event evt => rxEvent { s with ipaPt := rest } evt btsRole
      match taken with
      | some result => result
      | none => .ok (s, [])

/-- `IPA_PT.send`; the BSC role names the connection of the transceiver. -/
def txIpa (btsRole : Bool) (streamId : IpaStreamId)
    (rsl : RslMessage ChanNr Body) : Except Fault (Next n Comp ChanNr Body) :=
  if btsRole then
    .ok (s, [.ipa { connId := none, streamId := streamId, rsl := .msg rsl }])
  else (fTrxConnMapResolve s streamId).map (fun connId =>
    (s, [.ipa { connId := some connId, streamId := streamId, rsl := .msg rsl }]))

/-- RSL message from a component that runs on RSL_DchanHdlr. -/
def rxClientMsg (btsRole : Bool) (client : Comp) (rsl : RslMessage ChanNr Body) :
    Except Fault (Next n Comp ChanNr Body) := do
  let cid ← indexed (fCidByCompRef s.connectionTable client)
  match (s.connectionTable cid).streamId with
  | some streamId => txIpa s btsRole streamId rsl
  | none => .error .unbound

/-- `RSLDC_ChanRqd` of a handler, with or without a frame number. -/
def rxClientChanRqd (btsRole : Bool) (client : Comp) (ra : UInt8)
    (fn : Option Nat) : Except Fault (Next n Comp ChanNr Body) := do
  let table ← fCidCreate s.connectionTable ra fn client
  match btsRole, fn with
  | false, _ => return ({ s with connectionTable := table }, [])
  | true, some fn => return ({ s with connectionTable := table }, [.ipa
      { connId := none, streamId := .rslTrx0, rsl := .chanRqd ra fn }])
  | true, none => .error .unbound

end Main

/-- What happens to the component: the lower layer puts a message into
    `IPA_PT`, `main` looks at the one in front, or `main` takes a message or a
    call of the components above. -/
inductive Event (Comp ChanNr Body : Type) where
  | arrive (pdu : IpaPdu ChanNr Body)
  | rxIpa
  | clientChanRqd (client : Comp) (ra : UInt8) (fn : Option Nat)
  | clientMsg (client : Comp) (rsl : RslMessage ChanNr Body)
  /-- From a client or from the main test component. -/
  | unitdata (ud : AspRslUnitdata (RslMessage ChanNr Body))
  | register (trxNr : Nat) (chanNr : ChanNr) (hdlr : Comp)
  | unregister (trxNr : Nat) (chanNr : ChanNr) (hdlr : Comp)
  | suspend (suspend : Bool) (client : Comp)
  | waitQueue (enable : Bool) (client : Comp)
  | getLastAct (trxNr : Nat) (chanNr : ChanNr) (client : Comp)
  | setAutoChanActAck (enable : Bool) (client : Comp)

/-- One round of `main`. -/
def mainStep (btsRole : Bool) (s : State n Comp ChanNr Body) :
    Event Comp ChanNr Body → Except Fault (Next n Comp ChanNr Body)
  | .arrive pdu => .ok ({ s with ipaPt := s.ipaPt ++ [pdu] }, [])
  | .rxIpa => rxIpa s btsRole
  | .clientChanRqd client ra fn => rxClientChanRqd s btsRole client ra fn
  | .clientMsg client rsl => rxClientMsg s btsRole client rsl
  | .unitdata ud => txIpa s btsRole ud.streamId ud.rsl
  | .register trxNr chanNr hdlr =>
      (fCidCreateCnr s.connectionTable trxNr chanNr hdlr).map
        (fun table => ({ s with connectionTable := table }, [.reply hdlr none]))
  | .unregister trxNr chanNr hdlr =>
      (indexed (fCidByChanNr s.connectionTable trxNr chanNr)).map
        (fun cid => ({ s with
          connectionTable := fCidClear s.connectionTable cid },
          [.reply hdlr none]))
  | .suspend suspend client =>
      .ok ({ s with dchanSuspended := suspend }, [.reply client none])
  | .waitQueue enable client =>
      match enable, s.waitQueueEnabled with
      | true, false =>
          .ok ({ s with waitQueueEnabled := true }, [.reply client none])
      | false, true =>
          -- dispatch stalled messages (if any)
          (fWaitingQueueDispatch s.connectionTable s.waitingQueue).map
            (fun outs => ({ s with waitingQueue := [], waitQueueEnabled := false },
              outs ++ [.reply client none]))
      -- already enabled/disabled
      | _, _ => .ok (s, [.reply client none])
  | .getLastAct trxNr chanNr client =>
      (fLookupLastAct s.lastActTable trxNr chanNr).map
        (fun chanAct => (s, [.reply client (some chanAct)]))
  | .setAutoChanActAck enable client =>
      .ok ({ s with autoChanActAck := enable }, [.reply client none])

end Functions

end OsmoRsl
