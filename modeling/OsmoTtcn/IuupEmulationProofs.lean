import OsmoTtcn.IuupProofs
import OsmoTtcn.SpecRunProofs

/-! # The initialization handshake of IuUP

    An IuUP entity is a state and two functions: `f_IuUP_Em_rx_decaps` takes a
    PDU, `f_IuUP_Em_tx_encap` makes one.  An active entity sends INIT first and
    waits for the INIT ACK; a passive one leaves the INIT ACK that it owes in
    `pending_tx_pdu`, for the next encapsulation.

    `pending_tx_pdu` is looked at before data transfer only, and whether an
    INIT ACK is for an INIT that was sent is not looked at.
    `iuup_handshake` proves the handshake right of all runs in which a passive
    entity gets no INIT in data transfer, and an active one an INIT ACK only for
    its INIT. -/

namespace OsmoIuupEm

open OsmoTitan OsmoIuup RunGuard SpecRun

-- ── Control PDUs ─────────────────────────────────────────────────────────────

/-- One element of the list that `IuUP_InitRfci` is. -/
structure IuupInitRfci where
  lri : Bool
  li : Bool
  rfciId : Fin 64
  len8 : Option (List UInt8)
  len16 : Option (List UInt16)
  deriving DecidableEq, Repr

/-- `IuUP_PDU14_ProcSending_INIT` -/
structure IuupInit where
  spare : Fin 8
  ti : Bool
  subflowsPerRfci : Nat
  chainInd : Bool
  rfci : List IuupInitRfci
  iptis : Option (List UInt8)
  versionsSupported : BitVec 16
  dataPduType : Fin 16
  spare2 : Fin 16
  deriving DecidableEq, Repr

/-- What follows the common header of a control PDU. -/
inductive IuupBody where
  | init (init : IuupInit)
  /-- Another procedure. -/
  | proc (content : List UInt8)
  | ack (spareExt : Option (List UInt8))
  | nack (errCause : Fin 64) (spare : Fin 4) (spareExt : Option (List UInt8))
  deriving DecidableEq, Repr

/-- `match(pdu, tr_IuUP_INIT)` -/
def isInit (pdu : IuupPduType14 IuupBody) : Bool :=
  match pdu.ackNack, pdu.procedureInd, pdu.body with
  | .ctrl, .initialization, .init _ => true
  | _, _, _ => false

/-- `match(pdu, tr_IuUP_INIT_ACK)` -/
def isInitAck (pdu : IuupPduType14 IuupBody) : Bool :=
  match pdu.ackNack, pdu.procedureInd, pdu.body with
  | .ack, .initialization, .ack none => true
  | _, _, _ => false

/-- `ts_IuUP_INIT_ACK` -/
def tsIuupInitAck (frameNr : Fin 4) (version : Fin 16) : IuupPdu IuupBody :=
  .type14
    { ackNack := .ack
      frameNr := frameNr
      iuupVersion := version
      procedureInd := .initialization
      headerCrc := 0
      payloadCrc := 0
      body := .ack none }

/-- `ts_IuUP_INIT` with its default frame number and version. -/
def tsIuupInit (init : IuupInit) : IuupPdu IuupBody :=
  .type14
    { ackNack := .ctrl
      frameNr := 0
      iuupVersion := 0
      procedureInd := .initialization
      headerCrc := 0
      payloadCrc := 0
      body := .init init }

/-- `ts_IuUP_Type0` -/
def tsIuupType0 (frameNr : Fin 16) (rfci : Fin 64) (payload : List UInt8) :
    IuupPdu IuupBody :=
  .type0
    { frameNr := frameNr
      fqc := .good
      rfci := rfci
      headerCrc := 0
      payloadCrc := 0
      payload := payload }

/-- `ts_IuUP_Type1` -/
def tsIuupType1 (frameNr : Fin 16) (rfci : Fin 64) (payload : List UInt8) :
    IuupPdu IuupBody :=
  .type1
    { frameNr := frameNr
      fqc := .good
      rfci := rfci
      headerCrc := 0
      spare := 0
      payload := payload }

-- ── Entities ─────────────────────────────────────────────────────────────────

/-- `IuUP_RabFlowCombination` -/
structure IuupRabFlowCombination where
  rfci : Fin 64
  /-- number of bits per sub-flow -/
  subFlowBits : List UInt8
  /-- IPTI value in number of ITIs for the corresponding RFCI -/
  ipti : UInt8
  deriving DecidableEq, Repr

/-- `IuUP_Config` -/
structure IuupConfig where
  /-- actively send INIT (true) or only passively respond (false) -/
  activeInit : Bool
  dataPduType0 : Bool
  /-- RAB Flow Combinations -/
  rabFlowCombs : List IuupRabFlowCombination
  deriving DecidableEq, Repr

/-- `IuUP_Em_State` -/
inductive IuupEmState where
  | init
  | dataTransferReady
  deriving DecidableEq, Repr

/-- `IuUP_Entity` -/
structure IuupEntity where
  cfg : IuupConfig
  state : IuupEmState
  txNextFrameNr : Fin 16
  rxLastFrameNr : Option (Fin 16)
  pendingTxPdu : Option (IuupPdu IuupBody)
  deriving DecidableEq, Repr

/-- `t_IuUP_Entity` -/
def tIuupEntity (cfg : IuupConfig) : IuupEntity where
  cfg := cfg
  state := .init
  txNextFrameNr := 0
  rxLastFrameNr := none
  pendingTxPdu := none

/-- The RFCI list of an INIT: `lri` marks the last one. -/
def initRfci : List IuupRabFlowCombination → List IuupInitRfci
  | [] => []
  | [comb] => [⟨true, false, comb.rfci, some comb.subFlowBits, none⟩]
  | comb :: combs => ⟨false, false, comb.rfci, some comb.subFlowBits, none⟩ :: initRfci combs

/-- `f_ts_IuUP_INIT`; without any combination there is no value for `rfci`. -/
def fTsIuupInit (cfg : IuupConfig) : Except Fault (IuupPdu IuupBody) :=
  if cfg.rabFlowCombs = [] then .error .unbound
  else .ok (tsIuupInit
    { spare := 0
      ti := true
      subflowsPerRfci := cfg.rabFlowCombs.length
      chainInd := false
      rfci := initRfci cfg.rabFlowCombs
      iptis := some (cfg.rabFlowCombs.map (fun comb => comb.ipti))
      versionsSupported := 1
      dataPduType := if cfg.dataPduType0 then 0 else 1
      spare2 := 0 })

/-- A PDU of the type that is configured. -/
def dataPdu (cfg : IuupConfig) (frameNr : Fin 16) (payload : List UInt8) :
    IuupPdu IuupBody :=
  if cfg.dataPduType0 then tsIuupType0 frameNr 0 payload else tsIuupType1 frameNr 0 payload

/-- The branch for control PDUs. -/
def rxControl (st : IuupEntity) (pdu : IuupPduType14 IuupBody) : Except Fault IuupEntity :=
  if isInit pdu then
    if st.cfg.activeInit then .error (.shutdown "INIT received in ACTIVE role")
    else
      -- store an INIT_ACK to be transmitted later
      .ok { st with pendingTxPdu := some (tsIuupInitAck pdu.frameNr pdu.iuupVersion) }
  else if isInitAck pdu then
    if st.cfg.activeInit then
      -- drop pending Init retrans
      .ok { st with pendingTxPdu := none, state := .dataTransferReady }
    else .error (.shutdown "INIT_ACK received in PASSIVE role")
  else .ok st

/-- `f_IuUP_Em_rx_decaps`, once the PDU is decoded. -/
def rxPdu (st : IuupEntity) : IuupPdu IuupBody → Except Fault (IuupEntity × List UInt8)
  | .type0 pdu =>
      if st.cfg.dataPduType0 then
        .ok ({ st with rxLastFrameNr := some pdu.frameNr }, pdu.payload)
      else .error (.shutdown "PDU Type 0 received but 1 configured")
  | .type1 pdu =>
      if st.cfg.dataPduType0 = false then
        .ok ({ st with rxLastFrameNr := some pdu.frameNr }, pdu.payload)
      else .error (.shutdown "PDU Type 1 received but 0 configured")
  | .type14 pdu => (rxControl st pdu).map (fun st' => (st', []))

/-- The PDU that `f_IuUP_Em_tx_encap` encodes, if there is one. -/
def txPdu (st : IuupEntity) (payload : List UInt8) :
    Except Fault (IuupEntity × Option (IuupPdu IuupBody)) :=
  match st.state with
  | .init =>
      if st.cfg.activeInit then
        if st.pendingTxPdu = none then
          -- send INIT
          (fTsIuupInit st.cfg).map (fun pdu => ({ st with pendingTxPdu := some pdu }, some pdu))
        else .ok (st, none)
      else
        match st.pendingTxPdu with
        -- wait for INIT
        | none => .ok (st, none)
        | some pdu =>
            .ok ({ st with pendingTxPdu := none, state := .dataTransferReady }, some pdu)
  | .dataTransferReady =>
      .ok ({ st with txNextFrameNr := st.txNextFrameNr + 1 },
        some (dataPdu st.cfg st.txNextFrameNr payload))

section Run

variable (codec : BodyCodec IuupBody)

/-- The octets of what is sent; none if nothing is. -/
def encoded : Option (IuupPdu IuupBody) → Except Fault (List UInt8)
  | none => .ok []
  | some pdu => fEncIuupPdu codec pdu

/-- `f_IuUP_Em_rx_decaps` -/
def fIuupEmRxDecaps (st : IuupEntity) (inp : List UInt8) :
    Except Fault (IuupEntity × List UInt8) :=
  (decIuupPdu codec inp).bind (rxPdu st)

/-- `f_IuUP_Em_tx_encap` -/
def fIuupEmTxEncap (st : IuupEntity) (payload : List UInt8) :
    Except Fault (IuupEntity × List UInt8) :=
  (txPdu st payload).bind (fun r => (encoded codec r.2).map (fun octets => (r.1, octets)))

/-- The calls of the two functions. -/
inductive Input where
  | rxDecaps (inp : List UInt8)
  | txEncap (payload : List UInt8)
  deriving DecidableEq, Repr

/-- One call of an entity. -/
def step (st : IuupEntity) : Input → Except Fault (IuupEntity × List UInt8)
  | .rxDecaps inp => fIuupEmRxDecaps codec st inp
  | .txEncap payload => fIuupEmTxEncap codec st payload

end Run

-- ── The handshake ────────────────────────────────────────────────────────────

/-- What there was so far. -/
structure Handshake where
  /-- The INIT that the next encapsulation has to answer. -/
  asked : Option (Fin 4 × Fin 16)
  /-- The INIT of an active entity was sent. -/
  sent : Bool
  /-- There was an INIT ACK for it, or a passive entity has answered an INIT. -/
  ready : Bool
  /-- The frame number of the last data PDU. -/
  last : Option (Fin 16)
  deriving DecidableEq, Repr

/-- Nothing was said yet. -/
def Handshake.start : Handshake := ⟨none, false, false, none⟩

/-- What a PDU that comes in changes.  An INIT ACK is for the INIT if it was sent
    and if it has its frame number. -/
def Handshake.observe (g : Handshake) : IuupPdu IuupBody → Handshake
  | .type14 pdu =>
      if isInit pdu then { g with asked := some (pdu.frameNr, pdu.iuupVersion) }
      else if isInitAck pdu then
        { g with ready := g.ready || (g.sent && decide (pdu.frameNr = 0)) }
      else g
  | _ => g

/-- The payload that a PDU hands on. -/
def handedOn : IuupPdu IuupBody → List UInt8
  | .type0 pdu => pdu.payload
  | .type1 pdu => pdu.payload
  | .type14 _ => []

/-- The PDUs that an entity refuses: data of the other type, an INIT if it is
    active, and an INIT ACK if it is passive. -/
def Refused (cfg : IuupConfig) : IuupPdu IuupBody → Prop
  | .type0 _ => cfg.dataPduType0 = false
  | .type1 _ => cfg.dataPduType0 = true
  | .type14 pdu => (isInit pdu = true ∧ cfg.activeInit = true)
      ∨ (isInitAck pdu = true ∧ cfg.activeInit = false)

/-- An INIT ACK with the frame number and the version of the INIT. -/
def initAckOf (frameNr : Fin 4) (version : Fin 16) : IuupPdu IuupBody :=
  .type14
    { ackNack := .ack
      frameNr := frameNr
      iuupVersion := version
      procedureInd := .initialization
      headerCrc := 0
      payloadCrc := 0
      body := .ack none }

/-- A data PDU of the type that is configured, with this frame number. -/
def dataOf (cfg : IuupConfig) (frameNr : Fin 16) (payload : List UInt8) : IuupPdu IuupBody :=
  if cfg.dataPduType0 = true then
    .type0
      { frameNr := frameNr, fqc := .good, rfci := 0, headerCrc := 0, payloadCrc := 0,
        payload := payload }
  else
    .type1
      { frameNr := frameNr, fqc := .good, rfci := 0, headerCrc := 0, spare := 0,
        payload := payload }

/-- **THE HANDSHAKE**: what an encapsulation sends.  An INIT that came in is
    answered, and by this only.  An active entity sends its INIT once, and there
    is no data before the INIT ACK for it; a passive one waits for an INIT.  Then
    there is data, whose frame numbers go up by one. -/
inductive Emits (cfg : IuupConfig) (payload : List UInt8) :
    Handshake → Option (IuupPdu IuupBody) → Handshake → Prop
  | answer {g : Handshake} {frameNr : Fin 4} {version : Fin 16}
      (hasked : g.asked = some (frameNr, version)) :
      Emits cfg payload g (some (initAckOf frameNr version))
        { g with asked := none, ready := true }
  | nothing {g : Handshake} (hasked : g.asked = none) (hready : g.ready = false)
      (hsent : cfg.activeInit = true → g.sent = true) : Emits cfg payload g none g
  | init {g : Handshake} {init : IuupInit} (hactive : cfg.activeInit = true)
      (hasked : g.asked = none) (hready : g.ready = false) (hsent : g.sent = false)
      (hpdu : fTsIuupInit cfg = .ok (tsIuupInit init)) :
      Emits cfg payload g (some (tsIuupInit init)) { g with sent := true }
  | data {g : Handshake} {frameNr : Fin 16} (hasked : g.asked = none)
      (hready : g.ready = true) (hnext : ∀ l, g.last = some l → frameNr = l + 1) :
      Emits cfg payload g (some (dataOf cfg frameNr payload)) { g with last := some frameNr }

section Spec

variable (codec : BodyCodec IuupBody) (cfg : IuupConfig)

/-- What a call may return. -/
def Allowed (g : Handshake) : Input → Handshake → List UInt8 → Prop
  | .rxDecaps inp, g', out => ∃ pdu, decIuupPdu codec inp = .ok pdu ∧ ¬ Refused cfg pdu
      ∧ g' = g.observe pdu ∧ out = handedOn pdu
  | .txEncap payload, g', octets =>
      ∃ pdu, Emits cfg payload g pdu g' ∧ encoded codec pdu = .ok octets

/-- Where the test may end: with what comes in, if it cannot be decoded or is
    refused; where what is to be sent cannot be encoded; or where an INIT is to
    be built of no combination. -/
def Stops (g : Handshake) : Input → Prop
  | .rxDecaps inp => ∀ pdu, decIuupPdu codec inp = .ok pdu → Refused cfg pdu
  | .txEncap payload => (∃ pdu g' e, Emits cfg payload g pdu g' ∧ encoded codec pdu = .error e)
      ∨ cfg.activeInit = true ∧ g.sent = false ∧ cfg.rabFlowCombs = []

/-- What an input has to meet: a passive entity gets no INIT once it has
    answered one; an active one gets an INIT ACK for the INIT that it sent, or
    again behind it. -/
def Guard (g : Handshake) : Input → Prop
  | .rxDecaps inp => ∀ pdu, decIuupPdu codec inp = .ok (.type14 pdu) →
      (cfg.activeInit = false → isInit pdu = true → g.ready = false)
      ∧ (cfg.activeInit = true → isInitAck pdu = true →
        g.ready = true ∨ g.sent = true ∧ pdu.frameNr = 0)
  | .txEncap _ => True

end Spec

/-- How the entity stands to the handshake. -/
structure Agrees (cfg : IuupConfig) (st : IuupEntity) (g : Handshake) : Prop where
  config : st.cfg = cfg
  next : ∀ l, g.last = some l → st.txNextFrameNr = l + 1
  ready : st.state = .dataTransferReady ↔ g.ready = true
  passiveInit : cfg.activeInit = false → st.state = .init →
    st.pendingTxPdu = g.asked.map (fun asked => initAckOf asked.1 asked.2)
  passiveData : cfg.activeInit = false → st.state = .dataTransferReady → g.asked = none
  activeAsked : cfg.activeInit = true → g.asked = none
  activeInit : cfg.activeInit = true → st.state = .init →
    (st.pendingTxPdu ≠ none ↔ g.sent = true)

/-- A fresh entity agrees with that. -/
theorem agrees_start (cfg : IuupConfig) : Agrees cfg (tIuupEntity cfg) Handshake.start where
  config := rfl
  next := fun _ h => nomatch h
  ready := iff_of_false (fun h => nomatch h) Bool.false_ne_true
  passiveInit := fun _ _ => rfl
  passiveData := fun _ h => nomatch h
  activeAsked := fun _ => rfl
  activeInit := fun _ _ => iff_of_false (not_not.mpr rfl) Bool.false_ne_true

/-- An entity that is not in data transfer is not ready. -/
theorem Agrees.notReady {cfg : IuupConfig} {st : IuupEntity} {g : Handshake}
    (h : Agrees cfg st g) (hstate : st.state = .init) : g.ready = false := by
  refine Bool.eq_false_iff.mpr fun hready => ?_
  rw [h.ready.mpr hready] at hstate
  exact nomatch hstate

/-- One that is not ready is not in data transfer. -/
theorem Agrees.init_of_notReady {cfg : IuupConfig} {st : IuupEntity} {g : Handshake}
    (h : Agrees cfg st g) (hready : g.ready = false) : st.state = .init := by
  cases hstate : st.state with
  | init => rfl
  | dataTransferReady => exact absurd (h.ready.mp hstate) (Bool.eq_false_iff.mp hready)

/-- An INIT is answered by its INIT ACK. -/
theorem Emits.asked {cfg : IuupConfig} {payload : List UInt8} {g g' : Handshake}
    {pdu : Option (IuupPdu IuupBody)} {frameNr : Fin 4} {version : Fin 16}
    (h : Emits cfg payload g pdu g') (hasked : g.asked = some (frameNr, version)) :
    pdu = some (initAckOf frameNr version) := by
  cases h with
  | answer hasked' =>
      obtain ⟨rfl, rfl⟩ := Prod.mk.inj (Option.some.inj (hasked'.symm.trans hasked))
      rfl
  | nothing hnone _ _ => exact absurd (hasked.symm.trans hnone) (Option.some_ne_none _)
  | init _ hnone _ _ _ => exact absurd (hasked.symm.trans hnone) (Option.some_ne_none _)
  | data hnone _ _ => exact absurd (hasked.symm.trans hnone) (Option.some_ne_none _)

/-- An INIT is no INIT ACK. -/
theorem isInitAck_of_isInit {pdu : IuupPduType14 IuupBody} (h : isInit pdu = true) :
    ¬ isInitAck pdu = true := by
  rw [isInit] at h
  split at h
  · rename_i hack _ _
    rw [isInitAck, hack]
    exact Bool.false_ne_true
  · exact nomatch h

-- ── Steps ────────────────────────────────────────────────────────────────────

section Steps

variable {codec : BodyCodec IuupBody} {cfg : IuupConfig} {st st' : IuupEntity}
variable {g : Handshake}

/-- The frame number of what came in does not count. -/
theorem Agrees.rxLast (h : Agrees cfg st g) (frameNr : Fin 16) :
    Agrees cfg { st with rxLastFrameNr := some frameNr } g :=
  ⟨h.config, h.next, h.ready, h.passiveInit, h.passiveData, h.activeAsked, h.activeInit⟩

/-- An INIT for a passive entity before data transfer. -/
theorem Agrees.ask (h : Agrees cfg st g) (hpassive : cfg.activeInit = false)
    (hstate : st.state = .init) (frameNr : Fin 4) (version : Fin 16) :
    Agrees cfg { st with pendingTxPdu := some (tsIuupInitAck frameNr version) }
      { g with asked := some (frameNr, version) } where
  config := h.config
  next := h.next
  ready := h.ready
  passiveInit := fun _ _ => rfl
  passiveData := by
    intro _ hdata
    have habs : st.state = .dataTransferReady := hdata
    rw [hstate] at habs
    exact nomatch habs
  activeAsked := fun hactive => absurd (hactive.symm.trans hpassive) (by decide)
  activeInit := fun hactive => absurd (hactive.symm.trans hpassive) (by decide)

/-- An INIT ACK for an active entity, after which data may be sent. -/
theorem Agrees.ack (h : Agrees cfg st g) (hactive : cfg.activeInit = true) {ready : Bool}
    (hready : ready = true) :
    Agrees cfg { st with pendingTxPdu := none, state := .dataTransferReady }
      { g with ready := ready } where
  config := h.config
  next := h.next
  ready := ⟨fun _ => hready, fun _ => rfl⟩
  passiveInit := fun _ hinit => nomatch hinit
  passiveData := by
    intro hpassive
    rw [hactive] at hpassive
    exact nomatch hpassive
  activeAsked := h.activeAsked
  activeInit := fun _ hinit => nomatch hinit

/-- **A CONTROL PDU** is refused, or keeps the agreement. -/
theorem rxControl_agrees {pdu : IuupPduType14 IuupBody} (h : Agrees cfg st g)
    (hguard : (cfg.activeInit = false → isInit pdu = true → g.ready = false)
      ∧ (cfg.activeInit = true → isInitAck pdu = true →
        g.ready = true ∨ g.sent = true ∧ pdu.frameNr = 0)) :
    ((∃ e, rxControl st pdu = .error e) ∧ Refused cfg (.type14 pdu))
      ∨ ∃ st', rxControl st pdu = .ok st' ∧ ¬ Refused cfg (.type14 pdu)
        ∧ Agrees cfg st' (g.observe (.type14 pdu)) := by
  have hcfg := h.config
  subst hcfg
  rw [rxControl, Handshake.observe, Refused]
  by_cases hinit : isInit pdu = true
  · have hnotAck : ¬ isInitAck pdu = true := isInitAck_of_isInit hinit
    rw [if_pos hinit, if_pos hinit]
    by_cases hactive : st.cfg.activeInit = true
    · rw [if_pos hactive]
      exact Or.inl ⟨⟨_, rfl⟩, Or.inl ⟨hinit, hactive⟩⟩
    · rw [if_neg hactive]
      have hpassive := Bool.eq_false_iff.mpr hactive
      refine Or.inr ⟨_, rfl, ?_,
        h.ask hpassive (h.init_of_notReady (hguard.1 hpassive hinit))
          pdu.frameNr pdu.iuupVersion⟩
      rintro (hrefused | hrefused)
      · exact hactive hrefused.2
      · exact hnotAck hrefused.1
  · rw [if_neg hinit, if_neg hinit]
    by_cases hack : isInitAck pdu = true
    · rw [if_pos hack, if_pos hack]
      by_cases hactive : st.cfg.activeInit = true
      · rw [if_pos hactive]
        refine Or.inr ⟨_, rfl, ?_, h.ack hactive ?_⟩
        · rintro (hrefused | hrefused)
          · exact hinit hrefused.1
          · exact absurd (hactive.symm.trans hrefused.2) (by decide)
        -- the INIT ACK is for the INIT, or there was one
        · rcases hguard.2 hactive hack with hready | ⟨hsent, hframe⟩
          · rw [hready]
            rfl
          · rw [hsent, hframe]
            simp
      · rw [if_neg hactive]
        exact Or.inl ⟨⟨_, rfl⟩, Or.inr ⟨hack, Bool.eq_false_iff.mpr hactive⟩⟩
    · rw [if_neg hack, if_neg hack]
      refine Or.inr ⟨_, rfl, ?_, h⟩
      rintro (hrefused | hrefused)
      · exact hinit hrefused.1
      · exact hack hrefused.1

/-- **WHAT COMES IN** is refused, or handed on. -/
theorem rxPdu_agrees {pdu : IuupPdu IuupBody} (h : Agrees cfg st g)
    (hguard : ∀ p, pdu = .type14 p →
      (cfg.activeInit = false → isInit p = true → g.ready = false)
      ∧ (cfg.activeInit = true → isInitAck p = true →
        g.ready = true ∨ g.sent = true ∧ p.frameNr = 0)) :
    ((∃ e, rxPdu st pdu = .error e) ∧ Refused cfg pdu)
      ∨ ∃ st', rxPdu st pdu = .ok (st', handedOn pdu) ∧ ¬ Refused cfg pdu
        ∧ Agrees cfg st' (g.observe pdu) := by
  have hcfg := h.config
  subst hcfg
  cases pdu with
  | type0 p =>
      rw [rxPdu]
      by_cases htype : st.cfg.dataPduType0 = true
      · rw [if_pos htype]
        refine Or.inr ⟨_, rfl, fun hrefused => ?_, h.rxLast p.frameNr⟩
        exact absurd (htype.symm.trans hrefused) (by decide)
      · rw [if_neg htype]
        exact Or.inl ⟨⟨_, rfl⟩, Bool.eq_false_iff.mpr htype⟩
  | type1 p =>
      rw [rxPdu]
      by_cases htype : st.cfg.dataPduType0 = false
      · rw [if_pos htype]
        refine Or.inr ⟨_, rfl, fun hrefused => ?_, h.rxLast p.frameNr⟩
        exact absurd (htype.symm.trans hrefused) (by decide)
      · rw [if_neg htype]
        exact Or.inl ⟨⟨_, rfl⟩, Bool.eq_true_of_not_eq_false htype⟩
  | type14 p =>
      rw [rxPdu]
      rcases rxControl_agrees h (hguard p rfl) with ⟨⟨e, he⟩, hrefused⟩ | ⟨st', hok, hrest⟩
      · rw [he]
        exact Or.inl ⟨⟨e, rfl⟩, hrefused⟩
      · rw [hok]
        exact Or.inr ⟨st', rfl, hrest⟩

/-- A data PDU has the next frame number. -/
theorem Agrees.data (h : Agrees cfg st g) (hdata : st.state = .dataTransferReady)
    (payload : List UInt8) :
    Emits cfg payload g (some (dataOf cfg st.txNextFrameNr payload))
        { g with last := some st.txNextFrameNr }
      ∧ Agrees cfg { st with txNextFrameNr := st.txNextFrameNr + 1 }
        { g with last := some st.txNextFrameNr } := by
  have hasked : g.asked = none := by
    cases hactive : cfg.activeInit with
    | true => exact h.activeAsked hactive
    | false => exact h.passiveData hactive hdata
  refine ⟨.data hasked (h.ready.mp hdata) h.next, ?_⟩
  exact
    { config := h.config
      next := fun l hl => by rw [Option.some.inj hl]
      ready := h.ready
      passiveInit := h.passiveInit
      passiveData := h.passiveData
      activeAsked := h.activeAsked
      activeInit := h.activeInit }

/-- The INIT of an active entity. -/
theorem Agrees.sendInit (h : Agrees cfg st g) (hactive : cfg.activeInit = true)
    (init : IuupPdu IuupBody) :
    Agrees cfg { st with pendingTxPdu := some init } { g with sent := true } where
  config := h.config
  next := h.next
  ready := h.ready
  passiveInit := fun hpassive => absurd (hactive.symm.trans hpassive) (by decide)
  passiveData := fun hpassive => absurd (hactive.symm.trans hpassive) (by decide)
  activeAsked := h.activeAsked
  activeInit := fun _ _ => ⟨fun _ => rfl, fun _ => Option.some_ne_none init⟩

/-- The INIT ACK of a passive entity, after which data may be sent. -/
theorem Agrees.answer (h : Agrees cfg st g) (hpassive : cfg.activeInit = false) :
    Agrees cfg { st with pendingTxPdu := none, state := .dataTransferReady }
      { g with asked := none, ready := true } where
  config := h.config
  next := h.next
  ready := ⟨fun _ => rfl, fun _ => rfl⟩
  passiveInit := fun _ hinit => nomatch hinit
  passiveData := fun _ _ => rfl
  activeAsked := fun _ => rfl
  activeInit := fun hactive => absurd (hactive.symm.trans hpassive) (by decide)

/-- An INIT that is built is an INIT. -/
theorem fTsIuupInit_init {pdu : IuupPdu IuupBody} (h : fTsIuupInit cfg = .ok pdu) :
    ∃ init, pdu = tsIuupInit init := by
  rw [fTsIuupInit] at h
  split at h
  · exact nomatch h
  · exact ⟨_, (Except.ok.inj h).symm⟩

/-- An active entity that has not got its INIT ACK. -/
theorem txPdu_active {payload : List UInt8} (hstate : st.state = .init)
    (hactive : st.cfg.activeInit = true) :
    txPdu st payload = if st.pendingTxPdu = none then
        (fTsIuupInit st.cfg).map (fun pdu => ({ st with pendingTxPdu := some pdu }, some pdu))
      else .ok (st, none) := by
  obtain ⟨config, state, next, rxLast, pending⟩ := st
  subst hstate
  exact if_pos hactive

/-- A passive entity that has not answered an INIT. -/
theorem txPdu_passive {payload : List UInt8} (hstate : st.state = .init)
    (hpassive : st.cfg.activeInit = false) :
    txPdu st payload = .ok (st.pendingTxPdu.elim (st, none) (fun pdu =>
      ({ st with pendingTxPdu := none, state := .dataTransferReady }, some pdu))) := by
  obtain ⟨config, state, next, rxLast, pending⟩ := st
  subst hstate
  rw [txPdu, if_neg (Bool.eq_false_iff.mp hpassive)]
  cases pending with
  | none => rfl
  | some pdu => rfl

/-- An entity that is ready numbers its data. -/
theorem txPdu_data {payload : List UInt8} (hstate : st.state = .dataTransferReady) :
    txPdu st payload = .ok ({ st with txNextFrameNr := st.txNextFrameNr + 1 },
      some (dataPdu st.cfg st.txNextFrameNr payload)) := by
  obtain ⟨config, state, next, rxLast, pending⟩ := st
  subst hstate
  rfl

/-- **WHAT GOES OUT** is what the handshake allows. -/
theorem txPdu_emits {payload : List UInt8} {pdu : Option (IuupPdu IuupBody)}
    (h : Agrees cfg st g) (hok : txPdu st payload = .ok (st', pdu)) :
    ∃ g', Emits cfg payload g pdu g' ∧ Agrees cfg st' g' := by
  have hcfg := h.config
  subst hcfg
  cases hstate : st.state with
  | dataTransferReady =>
      rw [txPdu_data hstate] at hok
      obtain ⟨rfl, rfl⟩ := Prod.mk.inj (Except.ok.inj hok)
      exact ⟨_, h.data hstate payload⟩
  | init =>
      have hready := h.notReady hstate
      cases hactive : st.cfg.activeInit with
      | true =>
          rw [txPdu_active hstate hactive] at hok
          by_cases hpending : st.pendingTxPdu = none
          · have hsent : g.sent = false := Bool.eq_false_iff.mpr fun hsent =>
              (h.activeInit hactive hstate).mpr hsent hpending
            rw [if_pos hpending] at hok
            obtain ⟨pdu', hinit, hst⟩ := map_ok hok
            obtain ⟨rfl, rfl⟩ := Prod.mk.inj hst
            obtain ⟨init, rfl⟩ := fTsIuupInit_init hinit
            exact ⟨_, .init hactive (h.activeAsked hactive) hready hsent hinit,
              h.sendInit hactive _⟩
          · rw [if_neg hpending] at hok
            obtain ⟨rfl, rfl⟩ := Prod.mk.inj (Except.ok.inj hok)
            exact ⟨g, .nothing (h.activeAsked hactive) hready
              (fun _ => (h.activeInit hactive hstate).mp hpending), h⟩
      | false =>
          have hpending := h.passiveInit hactive hstate
          rw [txPdu_passive hstate hactive, hpending] at hok
          cases hasked : g.asked with
          | none =>
              rw [hasked] at hok
              obtain ⟨rfl, rfl⟩ := Prod.mk.inj (Except.ok.inj hok)
              refine ⟨g, .nothing hasked hready fun habs => ?_, h⟩
              exact absurd (habs.symm.trans hactive) (by decide)
          | some asked =>
              rw [hasked] at hok
              obtain ⟨rfl, rfl⟩ := Prod.mk.inj (Except.ok.inj hok)
              exact ⟨_, .answer hasked, h.answer hactive⟩

/-- Only an INIT may be impossible to build. -/
theorem txPdu_error {payload : List UInt8} {e : Fault} (h : Agrees cfg st g)
    (herr : txPdu st payload = .error e) :
    cfg.activeInit = true ∧ g.sent = false ∧ cfg.rabFlowCombs = [] := by
  have hcfg := h.config
  subst hcfg
  cases hstate : st.state with
  | dataTransferReady =>
      rw [txPdu_data hstate] at herr
      exact nomatch herr
  | init =>
      cases hactive : st.cfg.activeInit with
      | false =>
          rw [txPdu_passive hstate hactive] at herr
          exact nomatch herr
      | true =>
          rw [txPdu_active hstate hactive, fTsIuupInit] at herr
          by_cases hpending : st.pendingTxPdu = none
          · rw [if_pos hpending] at herr
            refine ⟨rfl, Bool.eq_false_iff.mpr fun hsent =>
              (h.activeInit hactive hstate).mpr hsent hpending, ?_⟩
            by_contra hcombs
            rw [if_neg hcombs] at herr
            exact nomatch herr
          · rw [if_neg hpending] at herr
            exact nomatch herr

/-- **ONE STEP** under the condition on its input. -/
theorem step_within (i : Input) (h : Agrees cfg st g) (hguard : Guard codec cfg g i) :
    StepFollowsUntil (step codec) (Allowed codec cfg) (fun g i _ => Stops codec cfg g i)
      (Agrees cfg)
      st g i := by
  cases i with
  | rxDecaps inp =>
      cases hdec : decIuupPdu codec inp with
      | error e =>
          have herr : step codec st (.rxDecaps inp) = .error e := by
            rw [step, fIuupEmRxDecaps, hdec]
            rfl
          refine Or.inl ⟨e, herr, fun pdu hpdu => ?_⟩
          rw [hdec] at hpdu
          exact nomatch hpdu
      | ok pdu =>
          have hstep : step codec st (.rxDecaps inp) = rxPdu st pdu := by
            rw [step, fIuupEmRxDecaps, hdec]
            rfl
          rcases rxPdu_agrees h (fun p hp => hguard p (hp ▸ hdec)) with
            ⟨⟨e, he⟩, hrefused⟩ | ⟨st', hok, hnot, hagrees⟩
          · refine Or.inl ⟨e, hstep.trans he, fun pdu' hpdu => ?_⟩
            rw [← Except.ok.inj (hdec.symm.trans hpdu)]
            exact hrefused
          · exact Or.inr ⟨st', _, _, hstep.trans hok, ⟨pdu, hdec, hnot, rfl, rfl⟩, hagrees⟩
  | txEncap payload =>
      cases htx : txPdu st payload with
      | error e =>
          have hok : step codec st (.txEncap payload) = .error e := by
            rw [step, fIuupEmTxEncap, htx]
            rfl
          exact Or.inl ⟨e, hok, Or.inr (txPdu_error h htx)⟩
      | ok r =>
          obtain ⟨st', pdu⟩ := r
          obtain ⟨g', hemits, hagrees⟩ := txPdu_emits h htx
          cases henc : encoded codec pdu with
          | error e =>
              have hok : step codec st (.txEncap payload) = .error e := by
                rw [step, fIuupEmTxEncap, htx]
                show (encoded codec pdu).map _ = _
                rw [henc]
                rfl
              exact Or.inl ⟨e, hok, Or.inl ⟨pdu, g', e, hemits, henc⟩⟩
          | ok octets =>
              have hok : step codec st (.txEncap payload) = .ok (st', octets) := by
                rw [step, fIuupEmTxEncap, htx]
                show (encoded codec pdu).map _ = _
                rw [henc]
                rfl
              exact Or.inr ⟨st', octets, g', hok, ⟨pdu, hemits, henc⟩, hagrees⟩

end Steps

-- ── Runs ─────────────────────────────────────────────────────────────────────

/-- **THE INITIALIZATION HANDSHAKE** in every run, as long as its inputs meet
    `Guard`. -/
theorem iuup_handshake (codec : BodyCodec IuupBody) (cfg : IuupConfig) (is : List Input) :
    FollowsWithin (step codec) (Allowed codec cfg) (fun g i _ => Stops codec cfg g i)
      (fun _ _ => True) (Guard codec cfg) (tIuupEntity cfg) Handshake.start is := by
  have hfollows : FollowsWithin (step codec) (Allowed codec cfg)
      (fun g i _ => Stops codec cfg g i) (Agrees cfg) (Guard codec cfg) (tIuupEntity cfg)
      Handshake.start is :=
    followsWithin_of_step (fun _ _ i h hg => step_within i h hg) is (agrees_start cfg)
  exact hfollows.imp (fun _ _ _ => trivial)

section Example

/-- `c_IuUP_Config_RabFlowCombination_def`, for either role. -/
def amrConfig (activeInit : Bool) : IuupConfig where
  activeInit := activeInit
  dataPduType0 := true
  rabFlowCombs := [⟨0, [81, 103, 60], 1⟩, ⟨1, [39, 0, 0], 7⟩, ⟨2, [0, 0, 0], 1⟩]

/-- The INIT of an AMR call. -/
def amrInit : IuupInit where
  spare := 0
  ti := true
  subflowsPerRfci := 3
  chainInd := false
  rfci := [⟨false, false, 0, some [81, 103, 60], none⟩,
    ⟨false, false, 1, some [39, 0, 0], none⟩, ⟨true, false, 2, some [0, 0, 0], none⟩]
  iptis := some [1, 7, 1]
  versionsSupported := 1
  dataPduType := 0
  spare2 := 0

/-- The RAW coding of `amrInit`. -/
def amrInitOctets : List UInt8 :=
  [0x16, 0x00, 0x51, 0x67, 0x3c, 0x01, 0x27, 0x00, 0x00, 0x82, 0x00, 0x00, 0x00, 0x17,
    0x10, 0x00, 0x01, 0x00]

/-- The RAW codec of these bodies. -/
def amrCodec : BodyCodec IuupBody where
  enc
    | .init _ => amrInitOctets
    | .proc content => content
    | .ack spareExt => spareExt.getD []
    | .nack errCause spare spareExt =>
        UInt8.ofNat (errCause.val * 4 + spare.val) :: spareExt.getD []
  dec ackNack procedureInd octets :=
    match ackNack, procedureInd with
    | .ctrl, .initialization =>
        if octets = amrInitOctets then .ok (.init amrInit) else .error .rawIncomplete
    | .ctrl, _ => .ok (.proc octets)
    | .ack, _ => .ok (.ack (if octets = [] then none else some octets))
    | _, _ => .error .rawIncomplete

/-- An INIT and an INIT ACK on the wire. -/
def initWire : List UInt8 := [0xe0, 0x00, 0xdf, 0x99] ++ amrInitOctets

/-- An INIT ACK as it is received. -/
def initAckWire : List UInt8 := [0xe4, 0x00, 0x24, 0x00]

/-- A passive entity: an INIT, its INIT ACK, and data. -/
example : (run (step amrCodec) (tIuupEntity (amrConfig false))
    [.rxDecaps initWire, .txEncap [], .txEncap [0x5a]]).map Prod.snd
    = .ok [[], initAckWire, [0x00, 0x00, 0x01, 0xa1, 0x5a]] := by
  decide

/-- What `initWire` and `initAckWire` are decoded to. -/
def initPdu : IuupPduType14 IuupBody :=
  ⟨.ctrl, 0, 0, .initialization, 55, 921, .init amrInit⟩

/-- The same, decoded. -/
def initAckPdu : IuupPduType14 IuupBody :=
  ⟨.ack, 0, 0, .initialization, 9, 0, .ack none⟩

/-- The INIT is decoded. -/
theorem decode_initWire : decIuupPdu amrCodec initWire = .ok (.type14 initPdu) := by
  decide

/-- The INIT ACK is decoded. -/
theorem decode_initAckWire : decIuupPdu amrCodec initAckWire = .ok (.type14 initAckPdu) := by
  decide

/-- What an INIT leaves of the handshake of a passive entity. -/
theorem allowed_init {g g' : Handshake} {o : List UInt8}
    (h : Allowed amrCodec (amrConfig false) g (.rxDecaps initWire) g' o) :
    g'.asked = some (0, 0) := by
  obtain ⟨pdu, hdec, -, rfl, -⟩ := h
  rw [← Except.ok.inj (decode_initWire.symm.trans hdec)]
  rfl

/-- An encapsulation after it that sends something else. -/
theorem not_allowed_answer {g g' : Handshake} {payload o : List UInt8}
    (hasked : g.asked = some (0, 0)) (ho : o ≠ [228, 0, 36, 0]) :
    ¬ Allowed amrCodec (amrConfig false) g (.txEncap payload) g' o := by
  rintro ⟨pdu, hemits, henc⟩
  rw [hemits.asked hasked] at henc
  have hack : encoded amrCodec (some (initAckOf 0 0)) = .ok [228, 0, 36, 0] := by decide
  exact ho (Except.ok.inj (henc.symm.trans hack))

end Example

/-- **INIT IN DATA TRANSFER, INIT ACK FOR NOTHING**: a passive entity answers the
    second INIT with data; an active one takes an INIT ACK before its INIT, and
    sends data. -/
theorem iuup_handshake_broken :
    (¬ ∀ is, Follows (step amrCodec) (Allowed amrCodec (amrConfig false))
      (Stops amrCodec (amrConfig false)) (fun _ _ => True) (tIuupEntity (amrConfig false))
      Handshake.start is)
    ∧ ¬ ∀ is, Follows (step amrCodec) (Allowed amrCodec (amrConfig true))
      (Stops amrCodec (amrConfig true)) (fun _ _ => True) (tIuupEntity (amrConfig true))
      Handshake.start is := by
  constructor
  · intro h
    have hrun := h [.rxDecaps initWire, .txEncap [], .rxDecaps initWire, .txEncap [0x5a]]
    obtain ⟨-, g1, -, hrun⟩ := (follows_cons_ok rfl).mp hrun
    obtain ⟨-, g2, -, hrun⟩ := (follows_cons_ok rfl).mp hrun
    obtain ⟨-, g3, hinit, hrun⟩ := (follows_cons_ok rfl).mp hrun
    obtain ⟨-, g4, hdata, -⟩ := (follows_cons_ok rfl).mp hrun
    exact not_allowed_answer (allowed_init hinit) (by decide) hdata
  · intro h
    have hrun := h [.rxDecaps initAckWire, .txEncap [0x5a]]
    obtain ⟨-, g1, ⟨pdu, hdec, -, hg1, -⟩, hrun⟩ := (follows_cons_ok rfl).mp hrun
    rw [← Except.ok.inj (decode_initAckWire.symm.trans hdec)] at hg1
    have hg : g1 = Handshake.start := hg1
    subst hg
    obtain ⟨-, g2, ⟨out, hemits, henc⟩, -⟩ := (follows_cons_ok rfl).mp hrun
    cases hemits with
    | answer hasked => exact nomatch hasked
    | nothing _ _ _ => exact absurd henc (by decide)
    | init _ _ _ _ hpdu =>
        rw [← Except.ok.inj hpdu] at henc
        exact absurd henc (by decide)
    | data _ hready _ => exact nomatch hready

end OsmoIuupEm
