import OsmoTtcn.RanConnTableProofs
import OsmoTtcn.RecordedRunProofs

/-! # Send sequence numbers of the RAN emulation

    The emulation numbers the mobile-originated layer 3 messages of its clients
    (24.007 11.2.3.2).  The counters are in the slot of the connection; adding a
    connection clears them, a connect request of a mobile sets the first one,
    and sending a message counts.

    `Follows` says for the outputs of a step what they do to the counters, and
    with which number each message goes out; `ranStep_follows` proves it of
    every step, and `nSd_sequences` follows for whole runs. -/

namespace OsmoRan

open OsmoTitan SlotTable

variable {Comp T Dtap Pdu : Type}

-- ── N(SD) ────────────────────────────────────────────────────────────────────

/-- The alternatives of `msgs` in a mobile-originated layer 3 message. -/
inductive Ml3Msgs where
  | cc | mm | ss | gcc | bcc | loc | other
  deriving DecidableEq, Repr

/-- `f_ML3_n_sd_idx` -/
def fMl3NSdIdx : Ml3Msgs → Int
  | .cc | .mm | .ss => 0
  | .gcc => 1
  | .bcc => 2
  | .loc => 3
  -- no sequence number to patch
  | .other => -1

/-- `f_next_n_sd` -/
def fNextNSd (nSd : NSdArray) (nSdIdx : Int) : Fin 4 × NSdArray :=
  if nSdIdx = 0 then
    (nSd 0, Function.update nSd 0 (Fin.ofNat 4 (((nSd 0).val + 1) % 4)))
  else if 1 ≤ nSdIdx ∧ nSdIdx ≤ 3 then
    let i := Fin.ofNat 4 nSdIdx.toNat
    (nSd i, Function.update nSd i (Fin.ofNat 4 (((nSd i).val + 1) % 2)))
  else (0, nSd)

/-- Patch N(SD) into the second octet. -/
def fMl3PatchSeqNr (seqNr : Fin 4) : List UInt8 → Except Fault (List UInt8)
  | o0 :: o1 :: rest =>
      .ok (o0 :: ((o1 &&& 0x3f) ||| UInt8.ofNat (seqNr.val * 64)) :: rest)
  | _ => .error .badIndex

/-- `f_L3_is_rr` -/
def fL3IsRr : Option (List UInt8) → Bool
  | some (o :: _) => o &&& 0x0f == 0x06
  | _ => false

-- ── The emulation ────────────────────────────────────────────────────────────

/-- The protocol of the emulation. -/
inductive RanProtocol where
  | bssap | ranap
  deriving DecidableEq, Repr

/-- The configuration, and what the codecs and templates of the protocol make
    of a message. -/
structure RanOps (Dtap Pdu : Type) where
  roleMs : Bool
  protocol : RanProtocol
  ranapConnectIndAutoRes : Bool
  encPduMl3MsNw : Dtap → List UInt8
  msgs : Dtap → Ml3Msgs
  /-- `f_bssap_extract_l3`, `f_ranap_extract_l3` -/
  extractL3 : Pdu → Option (List UInt8)
  /-- The CIC of an ASSIGNMENT REQUEST. -/
  assignmentCic : Pdu → Option Int
  tsBssapDtap : List UInt8 → UInt8 → Pdu
  /-- The flag says SAPI 3. -/
  tsRanapDirectTransfer : List UInt8 → Bool → Pdu

/-- What is sent on a connection. -/
inductive Sent (Dtap Pdu : Type) where
  /-- The connect request that opens it. -/
  | connectReq (pdu : Option Pdu)
  /-- Another connect request of its client, sent as data. -/
  | connReqData (pdu : Option Pdu)
  /-- A message that is passed on. -/
  | clientData (pdu : Pdu)
  /-- A layer 3 message of a mobile, and whether patching was asked for. -/
  | mo (dtap : Dtap) (patching : Bool) (l3Enc : List UInt8) (pdu : Pdu)

/-- What a step does: entries, messages and forwards. -/
inductive Out (Comp Dtap Pdu : Type) where
  /-- Log of a new table entry. -/
  | added (idx : Fin 16) (comp : Comp) (sccpConnId : Int)
  | sccp (idx : Fin 16) (sccpConnId : Int) (what : Sent Dtap Pdu)
  | connectRes (sccpConnId : Int)
  | discReq (sccpConnId : Int)
  | clientData (client : Option Comp) (pdu : Option Pdu)
  | clientDiscInd (client : Option Comp)
  | clientConfInd (client : Option Comp)
  | lastNSd (client : Comp) (nSd : NSdArray)
  | mgcp

/-- Layer 3 messages that have no counters. -/
inductive PlainDtap where
  | mt | psMo | psMt
  deriving DecidableEq, Repr

/-- What the emulation receives.  The component of an incoming connection is
    the one that the create callback returns. -/
inductive Event (Comp T Dtap Pdu : Type) where
  | connectInd (connId : Int) (client : Comp) (userData : Option Pdu)
  | dataInd (connId : Int) (userData : Option Pdu)
  | disconnectInd (connId : Int) (userData : Option Pdu)
  | connectCfm (connId : Int) (userData : Option Pdu)
  | clientPdu (client : Comp) (pdu : Pdu)
  | connectRes (client : Comp)
  | discReq (client : Comp)
  | connReq (client : Comp) (pdu : Option Pdu) (draws : List Int)
  | lastNSd (client : Comp)
  | dtapMo (client : Comp) (dlci : Option UInt8)
      (skipSeqPatching : Option Bool) (dtap : Dtap)
  | plainDtap (kind : PlainDtap) (client : Comp) (dlci : Option UInt8)
      (l3Enc : List UInt8)
  | mgcpCommand (client : Comp) (tid : T)

/-- The fault of using a field that is omitted. -/
def omitted : Fault :=
  .ttcnError "Using the value of an optional field containing omit."

section Step

variable [DecidableEq Comp] (ops : RanOps Dtap Pdu)
variable (t : ConnectionTable Comp T)

/-- An assignment gives the client its CIC; the message goes to the client. -/
def fHandleUserData (client : Comp) (pdu : Pdu) :
    Except Fault (ConnectionTable Comp T × List (Out Comp Dtap Pdu)) :=
  match ops.protocol, ops.assignmentCic pdu with
  | .bssap, some cic =>
      (fCompStoreCic t client cic).map
        (fun t' => (t', [.clientData (some client) (some pdu)]))
  | _, _ => .ok (t, [.clientData (some client) (some pdu)])

/-- The user data of a primitive, if any.  Data for a connection whose slot has
    no component cannot be sent. -/
def handleOptUserData (client : Option Comp) (userData : Option Pdu) :
    Except Fault (ConnectionTable Comp T × List (Out Comp Dtap Pdu)) :=
  match userData, client with
  | none, _ => .ok (t, [])
  | some pdu, some client => fHandleUserData ops t client pdu
  | some _, none => .error .unbound

/-- The user data that open a connection: a BSSAP connection has some, and a
    RANAP client is told that there are none. -/
def connectUserData (client : Comp) (userData : Option Pdu) :
    Except Fault (ConnectionTable Comp T × List (Out Comp Dtap Pdu)) :=
  match userData, ops.protocol with
  | some pdu, _ => fHandleUserData ops t client pdu
  | none, .bssap => .error omitted
  | none, .ranap => .ok (t, [.clientData (some client) none])

/-- The message around an encoded layer 3 message. -/
def fXmitRawL3 (dlci : UInt8) (l3Enc : List UInt8) : Pdu :=
  match ops.protocol with
  | .bssap => ops.tsBssapDtap l3Enc dlci
  | .ranap => ops.tsRanapDirectTransfer l3Enc (dlci &&& 0x07 == 0x03)

/-- Patch N(SD) into the message, according to 24.007 11.2.3.2. -/
def fMl3PatchSeq (cd : ConnectionData Comp T) (dtap : Dtap)
    (encL3 : List UInt8) : Except Fault (ConnectionData Comp T × List UInt8) :=
  if fMl3NSdIdx (ops.msgs dtap) < 0 then .ok (cd, encL3)
  else
    let next := fNextNSd cd.nSd (fMl3NSdIdx (ops.msgs dtap))
    (fMl3PatchSeqNr next.1 encL3).map (fun l3 => ({ cd with nSd := next.2 }, l3))

/-- The octets of a message of a mobile, with the next number patched in unless
    the client has asked for its own. -/
def moL3 (cd : ConnectionData Comp T) (skipSeqPatching : Option Bool)
    (dtap : Dtap) : Except Fault (ConnectionData Comp T × List UInt8) :=
  if skipSeqPatching = some false then
    fMl3PatchSeq ops cd dtap (ops.encPduMl3MsNw dtap)
  else .ok (cd, ops.encPduMl3MsNw dtap)

/-- A connect request counts its layer 3 message, unless it is RR. -/
def connReqCounts (pdu : Pdu) : Bool := !fL3IsRr (ops.extractL3 pdu)

/-- What a connect request of a mobile does to the counters of slot `idx`. -/
def countConnReq (client : Comp) (pdu : Option Pdu) :
    Except Fault (ConnectionTable Comp T) :=
  if ops.roleMs then
    match pdu with
    | none => .error omitted
    | some pdu =>
        if connReqCounts ops pdu then
          (fIdxByComp t client).map (fun idx => Function.update t idx
            { t idx with nSd := Function.update (t idx).nSd 0 1 })
        else .ok t
  else .ok t

/-- A plain layer 3 message is taken in one role only. -/
def plainTaken : PlainDtap → Bool
  | .mt => !ops.roleMs
  | .psMo => ops.protocol == .ranap && ops.roleMs
  | .psMt => ops.protocol == .ranap && !ops.roleMs

/-- One round of the main loop.  A message that no alternative takes stays in
    the queue. -/
def ranStep : Event Comp T Dtap Pdu →
    Except Fault (ConnectionTable Comp T × List (Out Comp Dtap Pdu))
  | .connectInd connId client userData => do
      let (t, idx) ← fConnTableAdd t client connId
      let (t, data) ← connectUserData ops t client userData
      let res := if ops.protocol = .bssap ∨ ops.ranapConnectIndAutoRes = true then
          [.connectRes connId]
        else []
      .ok (t, .added idx client connId :: (data ++ res))
  | .dataInd connId userData => do
      let client ← fCompByConnId t connId
      handleOptUserData ops t client userData
  | .disconnectInd connId userData => do
      let client ← fCompByConnId t connId
      let (t, data) ← handleOptUserData ops t client userData
      let t ← fConnTableDel t connId
      .ok (t, data ++ [.clientDiscInd client])
  | .connectCfm connId userData => do
      let client ← fCompByConnId t connId
      let (t, data) ← handleOptUserData ops t client userData
      .ok (t, .clientConfInd client :: data)
  | .clientPdu client pdu => do
      let idx ← fIdxByComp t client
      .ok (t, [.sccp idx (t idx).sccpConnId (.clientData pdu)])
  | .connectRes client => do
      let connId ← fConnIdByComp t client
      .ok (t, if ops.protocol = .ranap then [.connectRes connId] else [])
  | .discReq client => do
      let connId ← fConnIdByComp t client
      let t ← fConnTableDel t connId
      .ok (t, [.discReq connId])
  | .connReq client pdu draws =>
      if fCompKnown t client then do
        -- known client, send via existing connection
        let idx ← fIdxByComp t client
        let t' ← countConnReq ops t client pdu
        .ok (t', [.sccp idx (t idx).sccpConnId (.connReqData pdu)])
      else do
        -- unknown client, create new connection
        let connId ← fGenConnId t draws
        let (t, idx) ← fConnTableAdd t client connId
        let t ← countConnReq ops t client pdu
        .ok (t, [.added idx client connId, .sccp idx connId (.connectReq pdu)])
  | .lastNSd client => do
      let idx ← fIdxByComp t client
      .ok (t, [.lastNSd client (t idx).nSd])
  | .dtapMo client dlci skipSeqPatching dtap =>
      if ops.roleMs then do
        let idx ← fIdxByComp t client
        let (cd, l3Enc) ← moL3 ops (t idx) skipSeqPatching dtap
        match dlci with
        | none => .error omitted
        | some dlci => .ok (Function.update t idx cd,
            [.sccp idx cd.sccpConnId (.mo dtap (skipSeqPatching == some false)
              l3Enc (fXmitRawL3 ops dlci l3Enc))])
      else .ok (t, [])
  | .plainDtap kind client dlci l3Enc =>
      if plainTaken ops kind then do
        let idx ← fIdxByComp t client
        match dlci with
        | none => .error omitted
        | some dlci => .ok (t, [.sccp idx (t idx).sccpConnId
            (.clientData (fXmitRawL3 ops dlci l3Enc))])
      else .ok (t, [])
  | .mgcpCommand client tid => do
      let t ← fCompStoreMgcpTid t client tid
      .ok (t, [.mgcp])

end Step

-- ── Counters follow what is sent ─────────────────────────────────────────────

/-- The counters of every slot. -/
abbrev Counters : Type := Fin 16 → NSdArray

/-- A connect request of a mobile, with a layer 3 message other than RR. -/
def reqCounts (ops : RanOps Dtap Pdu) (pdu : Pdu) : Bool :=
  ops.roleMs && connReqCounts ops pdu

/-- All four counters at zero. -/
def zeroCounters : NSdArray := fun _ => 0

/-- The counters of all entries. -/
def nSds (t : ConnectionTable Comp T) : Counters := fun i => (t i).nSd

/-- The counters behind a connect request. -/
def afterConnReq (ops : RanOps Dtap Pdu) (pdu : Option Pdu) (n : NSdArray) :
    NSdArray :=
  match pdu with
  | none => n
  | some pdu => if reqCounts ops pdu then Function.update n 0 1 else n

/-- What sending a message does to the counters of its connection, and which
    octets it has. -/
inductive WellSent (ops : RanOps Dtap Pdu) :
    NSdArray → Sent Dtap Pdu → NSdArray → Prop where
  | connReqData (n : NSdArray) (pdu : Option Pdu) :
      WellSent ops n (.connReqData pdu) (afterConnReq ops pdu n)
  | clientData (n : NSdArray) (pdu : Pdu) : WellSent ops n (.clientData pdu) n
  | unmodified {n : NSdArray} {dtap : Dtap} {patching : Bool} (dlci : UInt8) :
      patching = false ∨ fMl3NSdIdx (ops.msgs dtap) < 0 →
      WellSent ops n (.mo dtap patching (ops.encPduMl3MsNw dtap)
        (fXmitRawL3 ops dlci (ops.encPduMl3MsNw dtap))) n
  | patched {n : NSdArray} {dtap : Dtap} {l3 : List UInt8} (dlci : UInt8) :
      ¬ fMl3NSdIdx (ops.msgs dtap) < 0 →
      fMl3PatchSeqNr (fNextNSd n (fMl3NSdIdx (ops.msgs dtap))).1
        (ops.encPduMl3MsNw dtap) = .ok l3 →
      WellSent ops n (.mo dtap true l3 (fXmitRawL3 ops dlci l3))
        (fNextNSd n (fMl3NSdIdx (ops.msgs dtap))).2

/-- An output that is neither a new connection nor sent on one. -/
def Out.Quiet : Out Comp Dtap Pdu → Prop
  | .added .. => False
  | .sccp .. => False
  | _ => True

/-- The counters that a list of outputs leaves. -/
inductive Follows (ops : RanOps Dtap Pdu) :
    Counters → List (Out Comp Dtap Pdu) → Counters → Prop where
  | nil (n : Counters) : Follows ops n [] n
  | added {n n' : Counters} {i : Fin 16} {comp : Comp} {id : Int}
      {os : List (Out Comp Dtap Pdu)} :
      Follows ops (Function.update n i zeroCounters) os n' →
      Follows ops n (.added i comp id :: os) n'
  | opened {n n' : Counters} {i : Fin 16} {comp : Comp} {id : Int}
      {pdu : Option Pdu} {os : List (Out Comp Dtap Pdu)} :
      Follows ops (Function.update n i (afterConnReq ops pdu zeroCounters)) os n' →
      Follows ops n (.added i comp id :: .sccp i id (.connectReq pdu) :: os) n'
  | sccp {n n' : Counters} {i : Fin 16} {id : Int} {m : Sent Dtap Pdu}
      {k : NSdArray} {os : List (Out Comp Dtap Pdu)} :
      WellSent ops (n i) m k → Follows ops (Function.update n i k) os n' →
      Follows ops n (.sccp i id m :: os) n'
  | quiet {n n' : Counters} {o : Out Comp Dtap Pdu}
      {os : List (Out Comp Dtap Pdu)} :
      o.Quiet → Follows ops n os n' → Follows ops n (o :: os) n'

/-- What is quiet leaves the counters where they are. -/
theorem Follows.of_quiet {ops : RanOps Dtap Pdu} {n : Counters} :
    ∀ {os : List (Out Comp Dtap Pdu)}, (∀ o ∈ os, o.Quiet) →
      Follows ops n os n := by
  intro os
  induction os with
  | nil => intro _; exact .nil n
  | cons o os ih =>
      intro h
      exact .quiet (h o List.mem_cons_self)
        (ih (fun o' ho => h o' (List.mem_cons_of_mem _ ho)))

/-- One message, which leaves the counters `k` in its slot. -/
theorem Follows.single {ops : RanOps Dtap Pdu} {n : Counters} {i : Fin 16}
    {id : Int} {m : Sent Dtap Pdu} {k : NSdArray} (h : WellSent ops (n i) m k) :
    Follows ops n [(.sccp i id m : Out Comp Dtap Pdu)] (Function.update n i k) :=
  .sccp h (.nil _)

/-- One message that leaves the counters. -/
theorem Follows.unchanged {ops : RanOps Dtap Pdu} {n : Counters} {i : Fin 16}
    {id : Int} {m : Sent Dtap Pdu} (h : WellSent ops (n i) m (n i)) :
    Follows ops n [(.sccp i id m : Out Comp Dtap Pdu)] n := by
  have h' : Follows ops n [(.sccp i id m : Out Comp Dtap Pdu)] _ := Follows.single h
  rw [Function.update_eq_self] at h'
  exact h'

-- ── What the table operations do to the counters ─────────────────────────────

theorem nSds_update (t : ConnectionTable Comp T) (i : Fin 16)
    (c : ConnectionData Comp T) :
    nSds (Function.update t i c) = Function.update (nSds t) i c.nSd := by
  funext j
  show (Function.update t i c j).nSd = _
  by_cases hj : j = i
  · rw [hj, Function.update_self, Function.update_self]
  · rw [Function.update_of_ne hj, Function.update_of_ne hj]
    rfl

/-- The component of every slot. -/
def comps (t : ConnectionTable Comp T) : Fin 16 → Option Comp := fun i => (t i).compRef

theorem comps_update_same {t : ConnectionTable Comp T} {i : Fin 16}
    {c : ConnectionData Comp T} (h : c.compRef = (t i).compRef) :
    comps (Function.update t i c) = comps t := by
  funext j
  show (Function.update t i c j).compRef = _
  by_cases hj : j = i
  · rw [hj, Function.update_self, h]
    rfl
  · rw [Function.update_of_ne hj]
    rfl

theorem nSds_update_same {t : ConnectionTable Comp T} {i : Fin 16}
    {c : ConnectionData Comp T} (h : c.nSd = (t i).nSd) :
    nSds (Function.update t i c) = nSds t := by
  rw [nSds_update, h]
  exact Function.update_eq_self i (nSds t)

section Step

variable [DecidableEq Comp]
variable {ops : RanOps Dtap Pdu} {t t' : ConnectionTable Comp T}

omit [DecidableEq Comp] in
/-- A new entry starts with its counters at zero. -/
theorem nSds_add {client : Comp} {connId : Int} {i : Fin 16}
    (h : fConnTableAdd t client connId = .ok (t', i)) :
    nSds t' = Function.update (nSds t) i zeroCounters
      ∧ (t' i).compRef = some client ∧ (t' i).nSd = zeroCounters
      ∧ ∀ j, j ≠ i → t' j = t j := by
  obtain ⟨j, -, hr⟩ := orFail_map_ok.mp h
  obtain ⟨rfl, rfl⟩ := Prod.mk.inj hr
  refine ⟨nSds_update _ _ _, ?_, ?_, fun a ha => Function.update_of_ne ha _ _⟩
  · rw [Function.update_self]
  · rw [Function.update_self]
    rfl

omit [DecidableEq Comp] in
/-- A deleted entry keeps its counters. -/
theorem nSds_del {connId : Int} (h : fConnTableDel t connId = .ok t') :
    nSds t' = nSds t := by
  obtain ⟨i, -, rfl⟩ := orFail_map_ok.mp h
  exact nSds_update_same rfl

theorem nSds_storeCic {client : Comp} {cic : Int}
    (h : fCompStoreCic t client cic = .ok t') : nSds t' = nSds t ∧ comps t' = comps t := by
  obtain ⟨i, -, rfl⟩ := orFail_map_ok.mp h
  exact ⟨nSds_update_same rfl, comps_update_same rfl⟩

theorem nSds_storeMgcpTid {client : Comp} {tid : T}
    (h : fCompStoreMgcpTid t client tid = .ok t') :
    nSds t' = nSds t ∧ comps t' = comps t := by
  obtain ⟨i, -, rfl⟩ := orFail_map_ok.mp h
  exact ⟨nSds_update_same rfl, comps_update_same rfl⟩

/-- User data leave the counters, and go to the client. -/
theorem fHandleUserData_quiet {client : Comp} {pdu : Pdu}
    {os : List (Out Comp Dtap Pdu)}
    (h : fHandleUserData ops t client pdu = .ok (t', os)) :
    (nSds t' = nSds t ∧ comps t' = comps t) ∧ ∀ o ∈ os, o.Quiet := by
  rw [fHandleUserData] at h
  split at h
  · obtain ⟨t1, hstore, hr⟩ := map_ok h
    obtain ⟨rfl, rfl⟩ := Prod.mk.inj hr
    refine ⟨nSds_storeCic hstore, fun o ho => ?_⟩
    rw [List.mem_singleton.mp ho]
    exact trivial
  · obtain ⟨rfl, rfl⟩ := Prod.mk.inj (Except.ok.inj h)
    refine ⟨⟨rfl, rfl⟩, fun o ho => ?_⟩
    rw [List.mem_singleton.mp ho]
    exact trivial

/-- User data of the peer are numbered by nobody. -/
theorem handleOptUserData_quiet {client : Option Comp} {userData : Option Pdu}
    {os : List (Out Comp Dtap Pdu)}
    (h : handleOptUserData ops t client userData = .ok (t', os)) :
    (nSds t' = nSds t ∧ comps t' = comps t) ∧ ∀ o ∈ os, o.Quiet := by
  cases userData with
  | none =>
      obtain ⟨rfl, rfl⟩ := Prod.mk.inj (Except.ok.inj h)
      exact ⟨⟨rfl, rfl⟩, fun o ho => nomatch ho⟩
  | some pdu =>
      cases client with
      | none => exact nomatch h
      | some client => exact fHandleUserData_quiet h

/-- A connect request counts in the first slot of its client. -/
theorem nSds_countConnReq {client : Comp} {pdu : Option Pdu} {i : Fin 16}
    (hi : findComp t client = some i)
    (h : countConnReq ops t client pdu = .ok t') :
    nSds t' = Function.update (nSds t) i
      (afterConnReq ops pdu (nSds t i)) := by
  unfold countConnReq at h
  cases pdu with
  | none =>
      cases hrole : ops.roleMs with
      | true =>
          rw [if_pos hrole] at h
          exact nomatch h
      | false =>
          rw [if_neg (by rw [hrole]; exact Bool.false_ne_true)] at h
          rw [← Except.ok.inj h]
          exact (Function.update_eq_self i (nSds t)).symm
  | some pdu =>
      rw [afterConnReq, reqCounts]
      cases hrole : ops.roleMs with
      | false =>
          rw [if_neg (by rw [hrole]; exact Bool.false_ne_true)] at h
          rw [← Except.ok.inj h, Bool.false_and, if_neg Bool.false_ne_true]
          exact (Function.update_eq_self i (nSds t)).symm
      | true =>
          rw [if_pos hrole] at h
          rw [Bool.true_and]
          have h' : (if connReqCounts ops pdu then
              (fIdxByComp t client).map (fun idx => Function.update t idx
                { t idx with nSd := Function.update (t idx).nSd 0 1 })
            else .ok t) = .ok t' := h
          by_cases hc : connReqCounts ops pdu = true
          · rw [if_pos hc] at h' ⊢
            obtain ⟨j, hj, rfl⟩ := map_ok h'
            rw [fIdxByComp_ok, hi] at hj
            rw [← Option.some.inj hj]
            exact nSds_update _ _ _
          · rw [if_neg hc] at h' ⊢
            rw [← Except.ok.inj h']
            exact (Function.update_eq_self i (nSds t)).symm

/-- The user data that come with a connection. -/
theorem connectUserData_quiet {client : Comp} {userData : Option Pdu}
    {os : List (Out Comp Dtap Pdu)}
    (h : connectUserData ops t client userData = .ok (t', os)) :
    (nSds t' = nSds t ∧ comps t' = comps t) ∧ ∀ o ∈ os, o.Quiet := by
  cases userData with
  | some pdu => exact fHandleUserData_quiet h
  | none =>
      unfold connectUserData at h
      cases hp : ops.protocol with
      | bssap => rw [hp] at h; exact nomatch h
      | ranap =>
          rw [hp] at h
          obtain ⟨rfl, rfl⟩ := Prod.mk.inj (Except.ok.inj h)
          refine ⟨⟨rfl, rfl⟩, fun o ho => ?_⟩
          rw [List.mem_singleton.mp ho]
          exact trivial

omit [DecidableEq Comp] in
/-- Patching hands out the next number of the discriminator. -/
theorem fMl3PatchSeq_sent {c c' : ConnectionData Comp T} {dtap : Dtap}
    {l3 : List UInt8} (dlci : UInt8)
    (h : fMl3PatchSeq ops c dtap (ops.encPduMl3MsNw dtap) = .ok (c', l3)) :
    WellSent ops c.nSd (.mo dtap true l3 (fXmitRawL3 ops dlci l3)) c'.nSd := by
  rw [fMl3PatchSeq] at h
  by_cases hneg : fMl3NSdIdx (ops.msgs dtap) < 0
  · rw [if_pos hneg] at h
    obtain ⟨rfl, rfl⟩ := Prod.mk.inj (Except.ok.inj h)
    exact .unmodified dlci (Or.inr hneg)
  · rw [if_neg hneg] at h
    obtain ⟨l3', hl3, hr⟩ := map_ok h
    obtain ⟨rfl, rfl⟩ := Prod.mk.inj hr
    exact .patched dlci hneg hl3

omit [DecidableEq Comp] in
/-- **WHAT IS SENT** of layer 3 has the next number, and the counter is one ahead. -/
theorem moL3_sent {c c' : ConnectionData Comp T} {skip : Option Bool}
    {dtap : Dtap} {l3 : List UInt8} (dlci : UInt8)
    (h : moL3 ops c skip dtap = .ok (c', l3)) :
    WellSent ops c.nSd (.mo dtap (skip == some false) l3
      (fXmitRawL3 ops dlci l3)) c'.nSd := by
  rw [moL3] at h
  by_cases hskip : skip = some false
  · rw [if_pos hskip] at h
    rw [hskip]
    exact fMl3PatchSeq_sent dlci h
  · rw [if_neg hskip] at h
    obtain ⟨rfl, rfl⟩ := Prod.mk.inj (Except.ok.inj h)
    rw [beq_eq_false_iff_ne.mpr hskip]
    exact .unmodified dlci (Or.inl rfl)

/-- A connect request of a client that has no connection yet. -/
theorem connReq_new_follows {client : Comp} {pdu : Option Pdu} {connId : Int}
    {i : Fin 16} {t1 : ConnectionTable Comp T}
    (hnew : fCompKnown t client = false)
    (hadd : fConnTableAdd t client connId = .ok (t1, i))
    (hcount : countConnReq ops t1 client pdu = .ok t') :
    Follows ops (nSds t) [(.added i client connId : Out Comp Dtap Pdu),
      .sccp i connId (.connectReq pdu)] (nSds t') := by
  obtain ⟨hn, hcomp, hzero, hother⟩ := nSds_add hadd
  have hnone : findComp t client = none := by
    rw [fCompKnown] at hnew
    exact Option.isSome_eq_false_iff.mp hnew |> Option.isNone_iff_eq_none.mp
  have hfind : findComp t1 client = some i := by
    refine find_of_unique (decide_eq_true hcomp) (fun j hj => ?_)
    by_contra hji
    rw [hother j hji] at hj
    rw [find_eq_none.mp hnone j] at hj
    exact Bool.false_ne_true hj
  have hi : nSds t1 i = zeroCounters := hzero
  rw [nSds_countConnReq hfind hcount, hi, hn, Function.update_idem]
  exact .opened (.nil _)

/-- **WHAT A STEP SENDS IS WHAT IT COUNTS.** -/
theorem ranStep_follows {e : Event Comp T Dtap Pdu}
    {os : List (Out Comp Dtap Pdu)} (h : ranStep ops t e = .ok (t', os)) :
    Follows ops (nSds t) os (nSds t') := by
  cases e with
  | connectInd connId client userData =>
      obtain ⟨⟨t1, i⟩, hadd, h⟩ := bind_ok h
      obtain ⟨⟨t2, data⟩, hdata, h⟩ := bind_ok h
      obtain ⟨rfl, rfl⟩ := Prod.mk.inj (Except.ok.inj h)
      obtain ⟨⟨hn, -⟩, hquiet⟩ := connectUserData_quiet hdata
      rw [hn, (nSds_add hadd).1]
      refine .added (.of_quiet (fun o ho => ?_))
      rcases List.mem_append.mp ho with ho | ho
      · exact hquiet o ho
      · split at ho
        · rw [List.mem_singleton.mp ho]
          exact trivial
        · exact nomatch ho
  | dataInd connId userData =>
      obtain ⟨client, -, h⟩ := bind_ok h
      obtain ⟨⟨hn, -⟩, hquiet⟩ := handleOptUserData_quiet h
      rw [hn]
      exact .of_quiet hquiet
  | disconnectInd connId userData =>
      obtain ⟨client, -, h⟩ := bind_ok h
      obtain ⟨⟨t1, data⟩, hdata, h⟩ := bind_ok h
      obtain ⟨t2, hdel, h⟩ := bind_ok h
      obtain ⟨rfl, rfl⟩ := Prod.mk.inj (Except.ok.inj h)
      obtain ⟨⟨hn, -⟩, hquiet⟩ := handleOptUserData_quiet hdata
      rw [nSds_del hdel, hn]
      refine .of_quiet (fun o ho => ?_)
      rcases List.mem_append.mp ho with ho | ho
      · exact hquiet o ho
      · rw [List.mem_singleton.mp ho]
        exact trivial
  | connectCfm connId userData =>
      obtain ⟨client, -, h⟩ := bind_ok h
      obtain ⟨⟨t1, data⟩, hdata, h⟩ := bind_ok h
      obtain ⟨rfl, rfl⟩ := Prod.mk.inj (Except.ok.inj h)
      obtain ⟨⟨hn, -⟩, hquiet⟩ := handleOptUserData_quiet hdata
      rw [hn]
      exact .quiet trivial (.of_quiet hquiet)
  | clientPdu client pdu =>
      obtain ⟨i, -, h⟩ := bind_ok h
      obtain ⟨rfl, rfl⟩ := Prod.mk.inj (Except.ok.inj h)
      exact .unchanged (.clientData _ pdu)
  | connectRes client =>
      obtain ⟨connId, -, h⟩ := bind_ok h
      obtain ⟨rfl, rfl⟩ := Prod.mk.inj (Except.ok.inj h)
      refine .of_quiet (fun o ho => ?_)
      split at ho
      · rw [List.mem_singleton.mp ho]
        exact trivial
      · exact nomatch ho
  | discReq client =>
      obtain ⟨connId, -, h⟩ := bind_ok h
      obtain ⟨t1, hdel, h⟩ := bind_ok h
      obtain ⟨rfl, rfl⟩ := Prod.mk.inj (Except.ok.inj h)
      rw [nSds_del hdel]
      exact .quiet trivial (.nil _)
  | connReq client pdu draws =>
      rw [ranStep] at h
      by_cases hknown : fCompKnown t client = true
      · rw [if_pos hknown] at h
        obtain ⟨i, hi, h⟩ := bind_ok h
        obtain ⟨t1, hcount, h⟩ := bind_ok h
        obtain ⟨rfl, rfl⟩ := Prod.mk.inj (Except.ok.inj h)
        rw [nSds_countConnReq (fIdxByComp_ok.mp hi) hcount]
        exact .single (.connReqData _ pdu)
      · rw [if_neg hknown] at h
        obtain ⟨connId, -, h⟩ := bind_ok h
        obtain ⟨⟨t1, i⟩, hadd, h⟩ := bind_ok h
        obtain ⟨t2, hcount, h⟩ := bind_ok h
        obtain ⟨rfl, rfl⟩ := Prod.mk.inj (Except.ok.inj h)
        exact connReq_new_follows (Bool.eq_false_iff.mpr hknown) hadd hcount
  | lastNSd client =>
      obtain ⟨i, -, h⟩ := bind_ok h
      obtain ⟨rfl, rfl⟩ := Prod.mk.inj (Except.ok.inj h)
      exact .quiet trivial (.nil _)
  | dtapMo client dlci skip dtap =>
      rw [ranStep] at h
      by_cases hrole : ops.roleMs = true
      · rw [if_pos hrole] at h
        obtain ⟨i, -, h⟩ := bind_ok h
        obtain ⟨⟨c, l3⟩, hpatch, h⟩ := bind_ok h
        cases dlci with
        | none => exact nomatch h
        | some dlci =>
            obtain ⟨rfl, rfl⟩ := Prod.mk.inj (Except.ok.inj h)
            rw [nSds_update]
            exact .single (moL3_sent _ hpatch)
      · rw [if_neg hrole] at h
        obtain ⟨rfl, rfl⟩ := Prod.mk.inj (Except.ok.inj h)
        exact .nil _
  | plainDtap kind client dlci l3 =>
      rw [ranStep] at h
      by_cases htaken : plainTaken ops kind = true
      · rw [if_pos htaken] at h
        obtain ⟨i, -, h⟩ := bind_ok h
        cases dlci with
        | none => exact nomatch h
        | some dlci =>
            obtain ⟨rfl, rfl⟩ := Prod.mk.inj (Except.ok.inj h)
            exact .unchanged (.clientData _ _)
      · rw [if_neg htaken] at h
        obtain ⟨rfl, rfl⟩ := Prod.mk.inj (Except.ok.inj h)
        exact .nil _
  | mgcpCommand client tid =>
      obtain ⟨t1, hstore, h⟩ := bind_ok h
      obtain ⟨rfl, rfl⟩ := Prod.mk.inj (Except.ok.inj h)
      rw [(nSds_storeMgcpTid hstore).1]
      exact .quiet trivial (.nil _)

-- ── The messages of a connection ─────────────────────────────────────────────

/-- What was sent on the connection in slot `i`, behind one more output. -/
def sentOnStep (i : Fin 16) (ms : List (Sent Dtap Pdu)) :
    Out Comp Dtap Pdu → List (Sent Dtap Pdu)
  | .added j _ _ => if j = i then [] else ms
  | .sccp j _ m => if j = i then ms ++ [m] else ms
  | _ => ms

/-- What was sent on the connection that is in slot `i`. -/
def sentOn (i : Fin 16) (os : List (Out Comp Dtap Pdu)) :
    List (Sent Dtap Pdu) :=
  os.foldl (sentOnStep i) []

/-- What each round of a run puts out, up to the first one that fails. -/
def rounds (ops : RanOps Dtap Pdu) (es : List (Event Comp T Dtap Pdu)) :
    List (List (Out Comp Dtap Pdu)) :=
  RecordedRun.record
    (fun t e => (ranStep ops t e).map (fun r => (r.1, some r.2)))
    connTableInit es

/-- The outputs of a run, up to the first step that fails. -/
def outputs (ops : RanOps Dtap Pdu) (es : List (Event Comp T Dtap Pdu)) :
    List (Out Comp Dtap Pdu) :=
  (RecordedRun.record
    (fun t e => (ranStep ops t e).map (fun r => (r.1, some r.2)))
    connTableInit es).flatten

/-- The messages of one connection, and the counters they leave. -/
inductive Numbered (ops : RanOps Dtap Pdu) :
    List (Sent Dtap Pdu) → NSdArray → Prop where
  | incoming : Numbered ops [] zeroCounters
  | opened (pdu : Option Pdu) :
      Numbered ops [.connectReq pdu] (afterConnReq ops pdu zeroCounters)
  | sent {ms : List (Sent Dtap Pdu)} {n n' : NSdArray} {m : Sent Dtap Pdu} :
      Numbered ops ms n → WellSent ops n m n' → Numbered ops (ms ++ [m]) n'

omit [DecidableEq Comp] in
/-- Every slot keeps to its own messages. -/
theorem Follows.numbered {n n' : Counters} {os : List (Out Comp Dtap Pdu)}
    (h : Follows ops n os n') : ∀ (ms : Fin 16 → List (Sent Dtap Pdu)),
      (∀ i, Numbered ops (ms i) (n i)) →
      ∀ i, Numbered ops (os.foldl (sentOnStep i) (ms i)) (n' i) := by
  induction h with
  | nil n =>
      intro ms hms i
      exact hms i
  | @added n n' j comp id os _ ih =>
      intro ms hms
      refine ih (fun i => sentOnStep i (ms i) (.added j comp id : Out Comp _ _))
        (fun i => ?_)
      by_cases hji : j = i
      · rw [sentOnStep, if_pos hji, ← hji, Function.update_self]
        exact .incoming
      · rw [sentOnStep, if_neg hji, Function.update_of_ne (Ne.symm hji)]
        exact hms i
  | @opened n n' j comp id pdu os _ ih =>
      intro ms hms
      refine ih (fun i => sentOnStep i (sentOnStep i (ms i)
        (.added j comp id : Out Comp _ _))
        (.sccp j id (.connectReq pdu) : Out Comp _ _)) (fun i => ?_)
      by_cases hji : j = i
      · rw [sentOnStep, sentOnStep, if_pos hji, if_pos hji, ← hji,
          Function.update_self]
        exact .opened pdu
      · rw [sentOnStep, sentOnStep, if_neg hji, if_neg hji,
          Function.update_of_ne (Ne.symm hji)]
        exact hms i
  | @sccp n n' j id m k os hm _ ih =>
      intro ms hms
      refine ih (fun i => sentOnStep i (ms i) (.sccp j id m : Out Comp _ _))
        (fun i => ?_)
      by_cases hji : j = i
      · rw [sentOnStep, if_pos hji, ← hji, Function.update_self]
        exact .sent (hms j) hm
      · rw [sentOnStep, if_neg hji, Function.update_of_ne (Ne.symm hji)]
        exact hms i
  | @quiet n n' o os ho _ ih =>
      intro ms hms i
      cases o with
      | added j comp id => exact ho.elim
      | sccp j id m => exact ho.elim
      | connectRes id => exact ih ms hms i
      | discReq id => exact ih ms hms i
      | clientData c p => exact ih ms hms i
      | clientDiscInd c => exact ih ms hms i
      | clientConfInd c => exact ih ms hms i
      | lastNSd c n => exact ih ms hms i
      | mgcp => exact ih ms hms i

/-- **EVERY RUN COUNTS**: the messages of each connection are numbered. -/
theorem sentOn_numbered (es : List (Event Comp T Dtap Pdu)) (i : Fin 16) :
    ∃ n, Numbered ops (sentOn i (outputs ops es)) n := by
  have hstep : ∀ (t : ConnectionTable Comp T) (oss : List (List (Out Comp Dtap Pdu)))
      (e : Event Comp T Dtap Pdu) (t' : ConnectionTable Comp T)
      (o : Option (List (Out Comp Dtap Pdu))),
      (∀ i, Numbered ops (sentOn i oss.flatten) (nSds t i)) →
      (ranStep ops t e).map (fun r => (r.1, some r.2)) = .ok (t', o) →
      ∀ i, Numbered ops (sentOn i (oss ++ o.toList).flatten) (nSds t' i) := by
    intro t oss e t' o hI hs i
    obtain ⟨⟨t1, os⟩, hok, hr⟩ := map_ok hs
    obtain ⟨rfl, rfl⟩ := Prod.mk.inj hr
    rw [Option.toList_some, List.flatten_append, List.flatten_singleton, sentOn,
      List.foldl_append]
    exact (ranStep_follows hok).numbered (fun i => sentOn i oss.flatten) hI i
  obtain ⟨t', h⟩ := RecordedRun.record_keeps hstep es connTableInit []
    (fun _ => .incoming)
  exact ⟨nSds t' i, h i⟩

-- ── The numbers on the wire ──────────────────────────────────────────────────

/-- N(SD), the first two bits of the second octet. -/
def nSdOf : List UInt8 → Option Nat
  | _ :: o1 :: _ => some (o1.toNat / 64)
  | _ => none

/-- The N(SD) of a message that has one in group `g`. -/
def wireNumber (ops : RanOps Dtap Pdu) (g : Fin 4) : Sent Dtap Pdu → Option Nat
  | .connectReq (some pdu) | .connReqData (some pdu) =>
      if g = 0 ∧ reqCounts ops pdu = true then (ops.extractL3 pdu).bind nSdOf
      else none
  | .mo dtap _ l3Enc _ =>
      if fMl3NSdIdx (ops.msgs dtap) = g then nSdOf l3Enc else none
  | _ => none

/-- The client leaves the number of the message to the emulation. -/
def Sent.patching : Sent Dtap Pdu → Bool
  | .mo _ patching _ _ => patching
  | _ => true

/-- The numbers of group `g` on a connection, without those a client has set. -/
def numbers (ops : RanOps Dtap Pdu) (g : Fin 4) (ms : List (Sent Dtap Pdu)) :
    List Nat :=
  (ms.filter Sent.patching).filterMap (wireNumber ops g)

/-- What a counter counts up to. -/
def modulus (g : Fin 4) : Nat := if g = 0 then 4 else 2

/-- Consecutive numbers from 0. -/
def Consecutive (m : Nat) (ns : List Nat) : Prop :=
  ns = (List.range ns.length).map (· % m)

/-- One number more. -/
theorem Consecutive.snoc {m k : Nat} {ns : List Nat} (h : Consecutive m ns)
    (hk : k = ns.length % m) : Consecutive m (ns ++ [k]) := by
  rw [Consecutive, List.length_append, List.length_singleton, List.range_succ,
    List.map_append, ← h, hk]
  rfl

/-- A message that is numbered belongs to one of four groups. -/
theorem fMl3NSdIdx_group {m : Ml3Msgs} (h : ¬ fMl3NSdIdx m < 0) :
    ∃ g : Fin 4, fMl3NSdIdx m = (g.val : Int) := by
  cases m with
  | cc => exact ⟨0, rfl⟩
  | mm => exact ⟨0, rfl⟩
  | ss => exact ⟨0, rfl⟩
  | gcc => exact ⟨1, rfl⟩
  | bcc => exact ⟨2, rfl⟩
  | loc => exact ⟨3, rfl⟩
  | other => exact absurd (by decide) h

/-- One counter is read and counts, in its own modulus. -/
theorem fNextNSd_group (n : NSdArray) (g : Fin 4) :
    (fNextNSd n g.val).1 = n g
      ∧ (fNextNSd n g.val).2
        = Function.update n g (Fin.ofNat 4 (((n g).val + 1) % modulus g)) := by
  match g with
  | ⟨0, _⟩ => exact ⟨rfl, rfl⟩
  | ⟨1, _⟩ => exact ⟨rfl, rfl⟩
  | ⟨2, _⟩ => exact ⟨rfl, rfl⟩
  | ⟨3, _⟩ => exact ⟨rfl, rfl⟩

/-- The number is read from the two highest bits. -/
theorem nSd_octet (k : Fin 4) (o : UInt8) :
    ((o &&& 0x3f) ||| UInt8.ofNat (k.val * 64)).toNat / 64 = k.val := by
  have hall : ∀ (k : Fin 4) (b : Fin 256),
      ((UInt8.ofNat b.val &&& 0x3f) ||| UInt8.ofNat (k.val * 64)).toNat / 64
        = k.val := by
    decide +kernel
  have h := hall k ⟨o.toNat, o.toNat_lt⟩
  rw [UInt8.ofNat_toNat] at h
  exact h

/-- What was patched in is what is read. -/
theorem nSdOf_patched {k : Fin 4} {l3 l3' : List UInt8}
    (h : fMl3PatchSeqNr k l3 = .ok l3') : nSdOf l3' = some k.val := by
  match l3 with
  | [] => exact nomatch h
  | [_] => exact nomatch h
  | o0 :: o1 :: rest =>
      rw [← Except.ok.inj h]
      exact congrArg some (nSd_octet k o1)

/-- The first connect request carries a layer 3 message with number 0, where
    it counts. -/
def FirstIsZero (ops : RanOps Dtap Pdu) (ms : List (Sent Dtap Pdu)) : Prop :=
  ∀ pdu, Sent.connectReq (some pdu) ∈ ms → reqCounts ops pdu = true →
    (ops.extractL3 pdu).bind nSdOf = some 0

/-- No later connect request counts. -/
def CountsOnce (ops : RanOps Dtap Pdu) (ms : List (Sent Dtap Pdu)) : Prop :=
  ∀ pdu, Sent.connReqData (some pdu) ∈ ms → reqCounts ops pdu = false

/-- The counters say how many numbers there were. -/
def CountsUp (ops : RanOps Dtap Pdu) (ms : List (Sent Dtap Pdu))
    (n : NSdArray) : Prop :=
  ∀ g, Consecutive (modulus g) (numbers ops g ms)
    ∧ (n g).val = (numbers ops g ms).length % modulus g

/-- The numbers with one message more. -/
theorem numbers_snoc (g : Fin 4) (ms : List (Sent Dtap Pdu))
    (m : Sent Dtap Pdu) :
    numbers ops g (ms ++ [m])
      = numbers ops g ms ++ numbers ops g [m] := by
  rw [numbers, List.filter_append, List.filterMap_append]
  rfl

/-- A message without a number leaves the counters right. -/
theorem CountsUp.skip {ms : List (Sent Dtap Pdu)} {n : NSdArray}
    {m : Sent Dtap Pdu} (h : CountsUp ops ms n)
    (hm : ∀ g, numbers ops g [m] = []) : CountsUp ops (ms ++ [m]) n := by
  intro g
  rw [numbers_snoc, hm g, List.append_nil]
  exact h g

/-- A message with the next number of its group. -/
theorem CountsUp.count {ms : List (Sent Dtap Pdu)} {n : NSdArray}
    {m : Sent Dtap Pdu} {j : Fin 4} (h : CountsUp ops ms n)
    (hm : numbers ops j [m] = [(n j).val])
    (hother : ∀ g, g ≠ j → numbers ops g [m] = []) :
    CountsUp ops (ms ++ [m])
      (Function.update n j (Fin.ofNat 4 (((n j).val + 1) % modulus j))) := by
  intro g
  rw [numbers_snoc]
  by_cases hg : g = j
  · obtain ⟨hcons, hlen⟩ := h g
    rw [hg] at hcons hlen ⊢
    rw [hm, Function.update_self, List.length_append, List.length_singleton]
    refine ⟨hcons.snoc hlen, ?_⟩
    rw [hlen]
    rcases (show modulus j = 4 ∨ modulus j = 2 by
      rw [modulus]; split <;> simp) with h4 | h2
    · rw [h4]
      show ((_ % 4 + 1) % 4) % 4 = _
      omega
    · rw [h2]
      show ((_ % 2 + 1) % 2) % 4 = _
      omega
  · rw [hother g hg, List.append_nil, Function.update_of_ne hg]
    exact h g

/-- **ONE MESSAGE**, other than a second connect request that counts. -/
theorem CountsUp.sent {ms : List (Sent Dtap Pdu)} {n n' : NSdArray}
    {m : Sent Dtap Pdu} (h : CountsUp ops ms n) (hm : WellSent ops n m n')
    (honce : ∀ pdu, m = .connReqData (some pdu) → reqCounts ops pdu = false) :
    CountsUp ops (ms ++ [m]) n' := by
  cases hm with
  | connReqData pdu =>
      cases pdu with
      | none => exact h.skip (fun g => rfl)
      | some pdu =>
          have hno := honce pdu rfl
          rw [afterConnReq, hno, if_neg Bool.false_ne_true]
          refine h.skip (fun g => ?_)
          show [Sent.connReqData (some pdu)].filterMap (wireNumber ops g) = []
          rw [List.filterMap_cons_none, List.filterMap_nil]
          exact if_neg (fun hc => Bool.false_ne_true (hno ▸ hc.2))
  | clientData pdu => exact h.skip (fun g => rfl)
  | @unmodified dtap patching dlci hfree =>
      refine h.skip (fun g => ?_)
      cases patching with
      | false => rfl
      | true =>
          have hneg : fMl3NSdIdx (ops.msgs dtap) < 0 := by
            rcases hfree with hf | hneg
            · exact nomatch hf
            · exact hneg
          show [Sent.mo dtap true _ _].filterMap (wireNumber ops g) = []
          rw [List.filterMap_cons_none, List.filterMap_nil]
          refine if_neg (fun hg => ?_)
          rw [hg] at hneg
          omega
  | @patched dtap l3 dlci hcounted hl3 =>
      obtain ⟨j, hj⟩ := fMl3NSdIdx_group hcounted
      rw [hj] at hl3 ⊢
      obtain ⟨hseq, hnext⟩ := fNextNSd_group n j
      rw [hseq] at hl3
      rw [hnext]
      refine h.count ?_ (fun g hg => ?_)
      · show [Sent.mo dtap true l3 _].filterMap (wireNumber ops j) = _
        rw [List.filterMap_cons_some, List.filterMap_nil]
        rw [wireNumber, if_pos hj]
        exact nSdOf_patched hl3
      · show [Sent.mo dtap true l3 _].filterMap (wireNumber ops g) = _
        rw [List.filterMap_cons_none, List.filterMap_nil]
        refine if_neg (fun hg' => hg ?_)
        rw [hj] at hg'
        exact Fin.ext (Int.ofNat.inj hg').symm

/-- Nothing was sent. -/
theorem countsUp_nil : CountsUp ops [] zeroCounters :=
  fun g => ⟨rfl, (Nat.zero_mod (modulus g)).symm⟩

/-- The connect request of a new connection. -/
theorem countsUp_opened {pdu : Option Pdu}
    (hfirst : FirstIsZero ops [.connectReq pdu]) :
    CountsUp ops [.connectReq pdu] (afterConnReq ops pdu zeroCounters) := by
  cases pdu with
  | none => exact countsUp_nil.skip (fun g => rfl)
  | some pdu =>
      by_cases hc : reqCounts ops pdu = true
      · have hzero := hfirst pdu (List.mem_singleton.mpr rfl) hc
        rw [afterConnReq, if_pos hc]
        refine countsUp_nil.count (j := 0) ?_ (fun g hg => ?_)
        · show [Sent.connectReq (some pdu)].filterMap (wireNumber ops 0) = _
          rw [List.filterMap_cons_some, List.filterMap_nil]
          rw [wireNumber, if_pos ⟨rfl, hc⟩]
          exact hzero
        · show [Sent.connectReq (some pdu)].filterMap (wireNumber ops g) = _
          rw [List.filterMap_cons_none, List.filterMap_nil]
          exact if_neg (fun hg' => hg hg'.1)
      · rw [afterConnReq, if_neg hc]
        refine countsUp_nil.skip (fun g => ?_)
        show [Sent.connectReq (some pdu)].filterMap (wireNumber ops g) = []
        rw [List.filterMap_cons_none, List.filterMap_nil]
        exact if_neg (fun hg => hc hg.2)

/-- **ONE CONNECTION.** -/
theorem Numbered.countsUp {ms : List (Sent Dtap Pdu)} {n : NSdArray}
    (h : Numbered ops ms n) (hfirst : FirstIsZero ops ms)
    (honce : CountsOnce ops ms) : CountsUp ops ms n := by
  induction h with
  | incoming => exact countsUp_nil
  | opened pdu => exact countsUp_opened hfirst
  | @sent ms n n' m _ hm ih =>
      have hmem : ∀ {m'}, m' ∈ ms → m' ∈ ms ++ [m] := List.mem_append_left [m]
      refine (ih (fun pdu hp => hfirst pdu (hmem hp))
        (fun pdu hp => honce pdu (hmem hp))).sent hm (fun pdu hpdu => ?_)
      refine honce pdu (List.mem_append_right ms ?_)
      rw [hpdu]
      exact List.mem_singleton.mpr rfl

/-- A message that gets no number goes out as it was encoded. -/
def Forwarded (ops : RanOps Dtap Pdu) : Sent Dtap Pdu → Prop
  | .mo dtap patching l3Enc pdu =>
      (∃ dlci, pdu = fXmitRawL3 ops dlci l3Enc)
        ∧ ((patching = false ∨ fMl3NSdIdx (ops.msgs dtap) < 0) →
          l3Enc = ops.encPduMl3MsNw dtap)
  | _ => True

/-- What is sent well is what was handed in, but for its number. -/
theorem WellSent.forwarded {n n' : NSdArray} {m : Sent Dtap Pdu}
    (h : WellSent ops n m n') : Forwarded ops m := by
  cases h with
  | connReqData pdu => exact trivial
  | clientData pdu => exact trivial
  | unmodified dlci hfree => exact ⟨⟨dlci, rfl⟩, fun _ => rfl⟩
  | patched dlci hcounted hl3 =>
      refine ⟨⟨dlci, rfl⟩, ?_⟩
      rintro (hf | hneg)
      · exact nomatch hf
      · exact absurd hneg hcounted

/-- So it is for all that are numbered. -/
theorem Numbered.forwarded {ms : List (Sent Dtap Pdu)} {n : NSdArray}
    (h : Numbered ops ms n) : ∀ m ∈ ms, Forwarded ops m := by
  induction h with
  | incoming => exact fun m hm => nomatch hm
  | opened pdu =>
      intro m hm
      rw [List.mem_singleton.mp hm]
      exact trivial
  | sent _ hsent ih =>
      intro m hm
      rcases List.mem_append.mp hm with hm | hm
      · exact ih m hm
      · rw [List.mem_singleton.mp hm]
        exact hsent.forwarded

-- ── What was handed in ───────────────────────────────────────────────────────

/-- Octets that differ in N(SD) only. -/
def SameButNSd : List UInt8 → List UInt8 → Prop
  | o0 :: o1 :: rest, l3 => ∃ o1', l3 = o0 :: o1' :: rest ∧ o1' &&& 0x3f = o1 &&& 0x3f
  | l3, l3' => l3' = l3

theorem SameButNSd.refl : ∀ l3, SameButNSd l3 l3
  | [] => rfl
  | [_] => rfl
  | _ :: o1 :: _ => ⟨o1, rfl, rfl⟩

theorem octet_butNSd (k : Fin 4) (o : UInt8) :
    ((o &&& 0x3f) ||| UInt8.ofNat (k.val * 64)) &&& 0x3f = o &&& 0x3f := by
  have hall : ∀ (k : Fin 4) (b : Fin 256),
      ((UInt8.ofNat b.val &&& 0x3f) ||| UInt8.ofNat (k.val * 64)) &&& 0x3f
        = UInt8.ofNat b.val &&& 0x3f := by
    decide +kernel
  have h := hall k ⟨o.toNat, o.toNat_lt⟩
  rw [UInt8.ofNat_toNat] at h
  exact h

/-- A patch changes nothing but the number. -/
theorem patched_butNSd {k : Fin 4} {l3 l3' : List UInt8}
    (h : fMl3PatchSeqNr k l3 = .ok l3') : SameButNSd l3 l3' := by
  match l3 with
  | [] => exact nomatch h
  | [_] => exact nomatch h
  | o0 :: o1 :: rest => exact ⟨_, (Except.ok.inj h).symm, octet_butNSd k o1⟩

omit [DecidableEq Comp] in
/-- The octets of a message of a mobile are those its client encoded, but for N(SD). -/
theorem moL3_butNSd {c c' : ConnectionData Comp T} {skip : Option Bool} {dtap : Dtap}
    {l3 : List UInt8} (h : moL3 ops c skip dtap = .ok (c', l3)) :
    SameButNSd (ops.encPduMl3MsNw dtap) l3 ∧ c'.sccpConnId = c.sccpConnId
      ∧ c'.compRef = c.compRef := by
  rw [moL3] at h
  by_cases hskip : skip = some false
  · rw [if_pos hskip, fMl3PatchSeq] at h
    by_cases hneg : fMl3NSdIdx (ops.msgs dtap) < 0
    · rw [if_pos hneg] at h
      obtain ⟨rfl, rfl⟩ := Prod.mk.inj (Except.ok.inj h)
      exact ⟨.refl _, rfl, rfl⟩
    · rw [if_neg hneg] at h
      obtain ⟨l3', hl3, hr⟩ := map_ok h
      obtain ⟨rfl, rfl⟩ := Prod.mk.inj hr
      exact ⟨patched_butNSd hl3, rfl, rfl⟩
  · rw [if_neg hskip] at h
    obtain ⟨rfl, rfl⟩ := Prod.mk.inj (Except.ok.inj h)
    exact ⟨.refl _, rfl, rfl⟩

/-- The client whose message is taken and sent. -/
def sender (ops : RanOps Dtap Pdu) : Event Comp T Dtap Pdu → Option Comp
  | .clientPdu client _ => some client
  | .connReq client _ _ => some client
  | .dtapMo client _ _ _ => if ops.roleMs then some client else none
  | .plainDtap kind client _ _ => if plainTaken ops kind then some client else none
  | _ => none

/-- What is sent is the message that the client handed in: a connect request or
    a PDU as it is, layer 3 in its transport, and of a mobile's message nothing
    but N(SD) is patched. -/
inductive HandedIn (ops : RanOps Dtap Pdu) : Event Comp T Dtap Pdu → Sent Dtap Pdu → Prop where
  | connectReq (client : Comp) (pdu : Option Pdu) (draws : List Int) :
      HandedIn ops (.connReq client pdu draws) (.connectReq pdu)
  | connReqData (client : Comp) (pdu : Option Pdu) (draws : List Int) :
      HandedIn ops (.connReq client pdu draws) (.connReqData pdu)
  | clientPdu (client : Comp) (pdu : Pdu) :
      HandedIn ops (.clientPdu client pdu) (.clientData pdu)
  | plainDtap (kind : PlainDtap) (client : Comp) (dlci : UInt8) (l3Enc : List UInt8) :
      HandedIn ops (.plainDtap kind client (some dlci) l3Enc)
        (.clientData (fXmitRawL3 ops dlci l3Enc))
  | dtapMo (client : Comp) (dlci : UInt8) (skip : Option Bool) {dtap : Dtap}
      {l3Enc : List UInt8} : SameButNSd (ops.encPduMl3MsNw dtap) l3Enc →
      HandedIn ops (.dtapMo client (some dlci) skip dtap)
        (.mo dtap (skip == some false) l3Enc (fXmitRawL3 ops dlci l3Enc))

/-- What is sent on a connection, and in which slot this is. -/
def Out.onSlot : Out Comp Dtap Pdu → Option (Fin 16 × Sent Dtap Pdu)
  | .sccp i _ m => some (i, m)
  | _ => none

/-- Whom the connection in slot `i` was added for, behind one more output. -/
def ownerStep (i : Fin 16) (c : Option Comp) : Out Comp Dtap Pdu → Option Comp
  | .added j comp _ => if j = i then some comp else c
  | _ => c

/-- Whom the connection that is in slot `i` was added for. -/
def owner (i : Fin 16) (os : List (Out Comp Dtap Pdu)) : Option Comp :=
  os.foldl (ownerStep i) none

/-- **WHAT A ROUND SENDS**: one message, which the client has just handed in, on
    the client's connection; or nothing, where no client's message is taken. -/
def RoundSends (ops : RanOps Dtap Pdu) (before : List (Out Comp Dtap Pdu))
    (e : Event Comp T Dtap Pdu) (os : List (Out Comp Dtap Pdu)) : Prop :=
  match sender ops e with
  | some client => ∃ i m, os.filterMap Out.onSlot = [(i, m)]
      ∧ owner i (before ++ os) = some client ∧ HandedIn ops e m
  | none => os.filterMap Out.onSlot = []

/-- A slot that is taken has the component that it was added for. -/
def Owners (t : ConnectionTable Comp T) (os : List (Out Comp Dtap Pdu)) : Prop :=
  ∀ i c, comps t i = some c → owner i os = some c

omit [DecidableEq Comp] in
/-- The owner of an entry after two parts. -/
theorem owner_append (i : Fin 16) (os os' : List (Out Comp Dtap Pdu)) :
    owner i (os ++ os') = os'.foldl (ownerStep i) (owner i os) := List.foldl_append

omit [DecidableEq Comp] in
/-- What is quiet gives an entry to nobody. -/
theorem ownerStep_quiet {i : Fin 16} {c : Option Comp} {o : Out Comp Dtap Pdu}
    (h : o.Quiet) : ownerStep i c o = c := by
  cases o with
  | added j comp id => exact h.elim
  | sccp j id m => exact h.elim
  | connectRes id => rfl
  | discReq id => rfl
  | clientData c p => rfl
  | clientDiscInd c => rfl
  | clientConfInd c => rfl
  | lastNSd c n => rfl
  | mgcp => rfl

omit [DecidableEq Comp] in
theorem foldl_quiet (i : Fin 16) (c : Option Comp) :
    ∀ {os : List (Out Comp Dtap Pdu)}, (∀ o ∈ os, o.Quiet) → os.foldl (ownerStep i) c = c := by
  intro os h
  induction os with
  | nil => rfl
  | cons o os ih =>
      rw [List.foldl_cons, ownerStep_quiet (h o List.mem_cons_self)]
      exact ih fun o' ho => h o' (List.mem_cons_of_mem _ ho)

omit [DecidableEq Comp] in
theorem onSlot_quiet : ∀ {os : List (Out Comp Dtap Pdu)}, (∀ o ∈ os, o.Quiet) →
    os.filterMap Out.onSlot = [] := by
  intro os h
  refine List.filterMap_eq_nil_iff.mpr fun o ho => ?_
  have hq := h o ho
  cases o with
  | added j comp id => exact hq.elim
  | sccp j id m => exact hq.elim
  | connectRes id => rfl
  | discReq id => rfl
  | clientData c p => rfl
  | clientDiscInd c => rfl
  | clientConfInd c => rfl
  | lastNSd c n => rfl
  | mgcp => rfl

/-- What a round is to do: it sends what was handed in, and leaves the slots to
    those they were added for. -/
def RoundOk (ops : RanOps Dtap Pdu) (before : List (Out Comp Dtap Pdu))
    (e : Event Comp T Dtap Pdu) (os : List (Out Comp Dtap Pdu))
    (t' : ConnectionTable Comp T) : Prop :=
  RoundSends ops before e os ∧ Owners t' (before ++ os)

omit [DecidableEq Comp] in
/-- A round in which no connection is added, and nothing is sent. -/
theorem RoundOk.quiet {before os : List (Out Comp Dtap Pdu)} {e : Event Comp T Dtap Pdu}
    (hown : Owners t before) (hnone : sender ops e = none) (hquiet : ∀ o ∈ os, o.Quiet)
    (hcomps : ∀ i c, comps t' i = some c → comps t i = some c) :
    RoundOk ops before e os t' := by
  constructor
  · rw [RoundSends, hnone]
    exact onSlot_quiet hquiet
  · intro i c hc
    rw [owner_append, foldl_quiet i _ hquiet]
    exact hown i c (hcomps i c hc)

omit [DecidableEq Comp] in
/-- A round in which the message of a client that is known is sent. -/
theorem RoundOk.known {before : List (Out Comp Dtap Pdu)} {e : Event Comp T Dtap Pdu}
    {client : Comp} {i : Fin 16} {id : Int} {m : Sent Dtap Pdu} (hown : Owners t before)
    (hsender : sender ops e = some client) (hi : comps t i = some client)
    (hm : HandedIn ops e m) (hcomps : comps t' = comps t) :
    RoundOk ops before e [.sccp i id m] t' := by
  have howner (j : Fin 16) :
      owner j (before ++ [(.sccp i id m : Out Comp Dtap Pdu)]) = owner j before := by
    rw [owner_append]
    rfl
  constructor
  · rw [RoundSends, hsender]
    exact ⟨i, m, rfl, (howner i).trans (hown i client hi), hm⟩
  · intro j c hc
    rw [howner]
    exact hown j c (hcomps ▸ hc)

omit [DecidableEq Comp] in
/-- A round that adds a connection, and sends no more on it than its client's
    connect request. -/
theorem Owners.added {before rest : List (Out Comp Dtap Pdu)} {client : Comp} {i : Fin 16}
    {id : Int} (hown : Owners t before)
    (hrest : ∀ j c, rest.foldl (ownerStep j) c = c)
    (hcomps : comps t' = Function.update (comps t) i (some client)) :
    owner i (before ++ .added i client id :: rest) = some client
      ∧ Owners t' (before ++ .added i client id :: rest) := by
  have howner (j : Fin 16) : owner j (before ++ .added i client id :: rest)
      = if i = j then some client else owner j before := by
    rw [owner_append, List.foldl_cons, hrest]
    rfl
  refine ⟨(howner i).trans (if_pos rfl), fun j c hc => ?_⟩
  rw [howner]
  rw [hcomps] at hc
  by_cases hij : i = j
  · rw [if_pos hij]
    rw [hij, Function.update_self] at hc
    exact hc
  · rw [if_neg hij]
    rw [Function.update_of_ne (Ne.symm hij)] at hc
    exact hown j c hc

omit [DecidableEq Comp] in
/-- A new entry has its component. -/
theorem comps_add {client : Comp} {connId : Int} {i : Fin 16}
    (h : fConnTableAdd t client connId = .ok (t', i)) :
    comps t' = Function.update (comps t) i (some client) := by
  obtain ⟨j, -, hr⟩ := orFail_map_ok.mp h
  obtain ⟨rfl, rfl⟩ := Prod.mk.inj hr
  funext a
  by_cases ha : a = j
  · rw [ha, Function.update_self, comps, Function.update_self]
  · rw [Function.update_of_ne ha, comps, Function.update_of_ne ha]
    rfl

omit [DecidableEq Comp] in
/-- After a deletion no entry has changed hands. -/
theorem comps_del {connId : Int} (h : fConnTableDel t connId = .ok t') {i : Fin 16} {c : Comp}
    (hc : comps t' i = some c) : comps t i = some c := by
  obtain ⟨j, -, rfl⟩ := orFail_map_ok.mp h
  by_cases hij : i = j
  · rw [hij, comps, Function.update_self] at hc
    exact nomatch hc
  · rw [comps, Function.update_of_ne hij] at hc
    exact hc

theorem comps_of_findComp {client : Comp} {i : Fin 16} (h : fIdxByComp t client = .ok i) :
    comps t i = some client :=
  of_decide_eq_true (find_eq_some.mp (fIdxByComp_ok.mp h)).1

theorem comps_countConnReq {client : Comp} {pdu : Option Pdu}
    (h : countConnReq ops t client pdu = .ok t') : comps t' = comps t := by
  unfold countConnReq at h
  split at h
  · cases pdu with
    | none => exact nomatch h
    | some pdu =>
        have h' : (if connReqCounts ops pdu then
            (fIdxByComp t client).map (fun idx => Function.update t idx
              { t idx with nSd := Function.update (t idx).nSd 0 1 })
          else .ok t) = .ok t' := h
        by_cases hc : connReqCounts ops pdu = true
        · rw [if_pos hc] at h'
          obtain ⟨j, -, rfl⟩ := map_ok h'
          exact comps_update_same rfl
        · rw [if_neg hc] at h'
          rw [← Except.ok.inj h']
  · rw [← Except.ok.inj h]

/-- **A ROUND SENDS WHAT WAS HANDED IN.** -/
theorem ranStep_roundOk {before os : List (Out Comp Dtap Pdu)} {e : Event Comp T Dtap Pdu}
    (hown : Owners t before) (h : ranStep ops t e = .ok (t', os)) :
    RoundOk ops before e os t' := by
  cases e with
  | connectInd connId client userData =>
      obtain ⟨⟨t1, i⟩, hadd, h⟩ := bind_ok h
      obtain ⟨⟨t2, data⟩, hdata, h⟩ := bind_ok h
      obtain ⟨rfl, rfl⟩ := Prod.mk.inj (Except.ok.inj h)
      obtain ⟨⟨-, hcomps⟩, hquiet⟩ := connectUserData_quiet hdata
      have hall : ∀ o ∈ data ++ (if ops.protocol = .bssap ∨ ops.ranapConnectIndAutoRes = true then
          [(.connectRes connId : Out Comp Dtap Pdu)] else []), o.Quiet := by
        intro o ho
        rcases List.mem_append.mp ho with ho | ho
        · exact hquiet o ho
        · split at ho
          · rw [List.mem_singleton.mp ho]
            exact trivial
          · exact nomatch ho
      exact ⟨(List.filterMap_cons_none rfl).trans (onSlot_quiet hall),
        (hown.added (fun j c => foldl_quiet j c hall) (hcomps.trans (comps_add hadd))).2⟩
  | dataInd connId userData =>
      obtain ⟨client, -, h⟩ := bind_ok h
      obtain ⟨⟨-, hcomps⟩, hquiet⟩ := handleOptUserData_quiet h
      exact .quiet hown rfl hquiet fun i c hc => hcomps ▸ hc
  | disconnectInd connId userData =>
      obtain ⟨client, -, h⟩ := bind_ok h
      obtain ⟨⟨t1, data⟩, hdata, h⟩ := bind_ok h
      obtain ⟨t2, hdel, h⟩ := bind_ok h
      obtain ⟨rfl, rfl⟩ := Prod.mk.inj (Except.ok.inj h)
      obtain ⟨⟨-, hcomps⟩, hquiet⟩ := handleOptUserData_quiet hdata
      refine .quiet hown rfl (fun o ho => ?_) fun i c hc => hcomps ▸ comps_del hdel hc
      rcases List.mem_append.mp ho with ho | ho
      · exact hquiet o ho
      · rw [List.mem_singleton.mp ho]
        exact trivial
  | connectCfm connId userData =>
      obtain ⟨client, -, h⟩ := bind_ok h
      obtain ⟨⟨t1, data⟩, hdata, h⟩ := bind_ok h
      obtain ⟨rfl, rfl⟩ := Prod.mk.inj (Except.ok.inj h)
      obtain ⟨⟨-, hcomps⟩, hquiet⟩ := handleOptUserData_quiet hdata
      refine .quiet hown rfl (fun o ho => ?_) fun i c hc => hcomps ▸ hc
      rcases List.mem_cons.mp ho with rfl | ho
      · exact trivial
      · exact hquiet o ho
  | clientPdu client pdu =>
      obtain ⟨i, hi, h⟩ := bind_ok h
      obtain ⟨rfl, rfl⟩ := Prod.mk.inj (Except.ok.inj h)
      exact .known hown rfl (comps_of_findComp hi) (.clientPdu client pdu) rfl
  | connectRes client =>
      obtain ⟨connId, -, h⟩ := bind_ok h
      obtain ⟨rfl, rfl⟩ := Prod.mk.inj (Except.ok.inj h)
      refine .quiet hown rfl (fun o ho => ?_) fun i c hc => hc
      split at ho
      · rw [List.mem_singleton.mp ho]
        exact trivial
      · exact nomatch ho
  | discReq client =>
      obtain ⟨connId, -, h⟩ := bind_ok h
      obtain ⟨t1, hdel, h⟩ := bind_ok h
      obtain ⟨rfl, rfl⟩ := Prod.mk.inj (Except.ok.inj h)
      refine .quiet hown rfl (fun o ho => ?_) fun i c hc => comps_del hdel hc
      rw [List.mem_singleton.mp ho]
      exact trivial
  | connReq client pdu draws =>
      rw [ranStep] at h
      by_cases hknown : fCompKnown t client = true
      · rw [if_pos hknown] at h
        obtain ⟨i, hi, h⟩ := bind_ok h
        obtain ⟨t1, hcount, h⟩ := bind_ok h
        obtain ⟨rfl, rfl⟩ := Prod.mk.inj (Except.ok.inj h)
        exact .known hown rfl (comps_of_findComp hi) (.connReqData client pdu draws)
          (comps_countConnReq hcount)
      · rw [if_neg hknown] at h
        obtain ⟨connId, -, h⟩ := bind_ok h
        obtain ⟨⟨t1, i⟩, hadd, h⟩ := bind_ok h
        obtain ⟨t2, hcount, h⟩ := bind_ok h
        obtain ⟨rfl, rfl⟩ := Prod.mk.inj (Except.ok.inj h)
        obtain ⟨howner, hown'⟩ := @Owners.added Comp T Dtap Pdu t t2 before
          [.sccp i connId (.connectReq pdu)] client i connId hown (fun _ _ => rfl)
          ((comps_countConnReq hcount).trans (comps_add hadd))
        exact ⟨⟨i, _, rfl, howner, .connectReq client pdu draws⟩, hown'⟩
  | lastNSd client =>
      obtain ⟨i, -, h⟩ := bind_ok h
      obtain ⟨rfl, rfl⟩ := Prod.mk.inj (Except.ok.inj h)
      refine .quiet hown rfl (fun o ho => ?_) fun i c hc => hc
      rw [List.mem_singleton.mp ho]
      exact trivial
  | dtapMo client dlci skip dtap =>
      rw [ranStep] at h
      by_cases hrole : ops.roleMs = true
      · rw [if_pos hrole] at h
        obtain ⟨i, hi, h⟩ := bind_ok h
        obtain ⟨⟨c, l3⟩, hpatch, h⟩ := bind_ok h
        cases dlci with
        | none => exact nomatch h
        | some dlci =>
            obtain ⟨rfl, rfl⟩ := Prod.mk.inj (Except.ok.inj h)
            obtain ⟨hsame, -, hcomp⟩ := moL3_butNSd hpatch
            exact .known hown (if_pos hrole) (comps_of_findComp hi) (.dtapMo client dlci skip hsame)
              (comps_update_same hcomp)
      · rw [if_neg hrole] at h
        obtain ⟨rfl, rfl⟩ := Prod.mk.inj (Except.ok.inj h)
        exact .quiet hown (if_neg hrole) (fun o ho => nomatch ho) fun i c hc => hc
  | plainDtap kind client dlci l3 =>
      rw [ranStep] at h
      by_cases htaken : plainTaken ops kind = true
      · rw [if_pos htaken] at h
        obtain ⟨i, hi, h⟩ := bind_ok h
        cases dlci with
        | none => exact nomatch h
        | some dlci =>
            obtain ⟨rfl, rfl⟩ := Prod.mk.inj (Except.ok.inj h)
            exact .known hown (if_pos htaken) (comps_of_findComp hi)
              (.plainDtap kind client dlci l3) rfl
      · rw [if_neg htaken] at h
        obtain ⟨rfl, rfl⟩ := Prod.mk.inj (Except.ok.inj h)
        exact .quiet hown (if_neg htaken) (fun o ho => nomatch ho) fun i c hc => hc
  | mgcpCommand client tid =>
      obtain ⟨t1, hstore, h⟩ := bind_ok h
      obtain ⟨rfl, rfl⟩ := Prod.mk.inj (Except.ok.inj h)
      refine .quiet hown rfl (fun o ho => ?_) fun i c hc => (nSds_storeMgcpTid hstore).2 ▸ hc
      rw [List.mem_singleton.mp ho]
      exact trivial

/-- **EVERY ROUND OF A RUN** sends what was handed in. -/
theorem rounds_send (es : List (Event Comp T Dtap Pdu)) (k : Nat) (e : Event Comp T Dtap Pdu)
    (os : List (Out Comp Dtap Pdu)) (he : es[k]? = some e) (hos : (rounds ops es)[k]? = some os) :
    RoundSends ops ((rounds ops es).take k).flatten e os := by
  have hstep : ∀ (t : ConnectionTable Comp T) (oss : List (List (Out Comp Dtap Pdu)))
      (e : Event Comp T Dtap Pdu) (t' : ConnectionTable Comp T)
      (o : Option (List (Out Comp Dtap Pdu))), Owners t oss.flatten →
      (ranStep ops t e).map (fun r => (r.1, some r.2)) = .ok (t', o) →
      ∃ os, o = some os ∧ RoundSends ops oss.flatten e os ∧ Owners t' (oss ++ [os]).flatten := by
    intro t oss e t' o hown hs
    obtain ⟨⟨t1, os⟩, hok, hr⟩ := map_ok hs
    obtain ⟨rfl, rfl⟩ := Prod.mk.inj hr
    obtain ⟨hsends, hown'⟩ := ranStep_roundOk hown hok
    refine ⟨os, rfl, hsends, ?_⟩
    rw [List.flatten_append, List.flatten_singleton]
    exact hown'
  exact RecordedRun.record_rounds (Q := fun oss e os => RoundSends ops oss.flatten e os) hstep es
    connTableInit [] (fun i c hc => nomatch hc) k e os he hos

end Step

/-- A mobile over BSSAP, with messages as their octets. -/
def octetOps : RanOps (List UInt8) (List UInt8) where
  roleMs := true
  protocol := .bssap
  ranapConnectIndAutoRes := true
  encPduMl3MsNw := id
  msgs
    | 0x03 :: _ => .cc
    | 0x05 :: _ => .mm
    | 0x0b :: _ => .ss
    | _ => .other
  extractL3 := some
  assignmentCic := fun _ => none
  tsBssapDtap := fun l3 _ => l3
  tsRanapDirectTransfer := fun l3 _ => l3

/-- Two connections whose messages interleave, one with an RR message. -/
def twoMobiles : List (Event Nat Nat (List UInt8) (List UInt8)) :=
  [.connReq 7 (some [0x05, 0x08]) [100], .dtapMo 7 (some 0) (some false) [0x03, 0x45],
    .connReq 9 (some [0x06, 0x27]) [200], .dtapMo 9 (some 0) (some false) [0x05, 0x24],
    .dtapMo 7 (some 0) (some false) [0x06, 0x29],
    .dtapMo 7 (some 0) (some false) [0x0b, 0x3b]]

/-- What the two mobiles have sent. -/
theorem sentOn_twoMobiles : sentOn 0 (outputs octetOps twoMobiles) =
    [.connectReq (some [0x05, 0x08]),
      .mo [0x03, 0x45] true [0x03, 0x45] [0x03, 0x45],
      .mo [0x06, 0x29] true [0x06, 0x29] [0x06, 0x29],
      .mo [0x0b, 0x3b] true [0x0b, 0xbb] [0x0b, 0xbb]] :=
  rfl

/-- A client that repeats the number of its last message. -/
def dupMobile : List (Event Nat Nat (List UInt8) (List UInt8)) :=
  [.connReq 7 (some [0x05, 0x08]) [100],
    .dtapMo 7 (some 0) (some false) [0x03, 0x35],
    .dtapMo 7 (some 0) (some true) [0x03, 0x75]]

end OsmoRan
