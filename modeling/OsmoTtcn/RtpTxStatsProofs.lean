import OsmoTtcn.RtpStreamProofs
import OsmoTtcn.TallyProofs

/-! # The transmit statistics of the RTP emulation

    A tick and a packet that is looped back are counted behind `f_tx_rtp`, whatever
    that has sent, and by the payload that it was called with; a control PDU of IuUP
    that was pending is sent and not counted.  Outside the mode of IuUP this comes to
    the same.  `rtp_tx_stats` says of every run when it does: where what is counted
    goes out with as many octets as the payload has, and what is not counted does
    not go out. -/

namespace OsmoRtp

open OsmoTitan OsmoIuup OsmoIuupEm RunGuard Tally

-- ── What is counted, and what is sent ────────────────────────────────────────

/-- The packets that were sent to the peer. -/
def sentBy (os : List (List Output)) : List PduRtp := os.flatten.filterMap Output.sent

section Claim

variable (codec : BodyCodec IuupBody)

/-- **THE STATISTICS ARE RIGHT** in every state that a run reaches. -/
def TxStatsRight (is : List Input) : Prop :=
  ∀ is' s os, is' <+: is → run (fMain codec) {} is' = .ok (s, os) →
    s.gStatsRtp.numPktsTx = (sentBy os).length
      ∧ s.gStatsRtp.bytesPayloadTx = ((sentBy os).map fun rtp => rtp.data.length).sum

-- ── The condition ────────────────────────────────────────────────────────────

/-- There is a number and a time stamp for the next packet. -/
def numbered (s : State) : Bool :=
  (int2bit32 s.gTxNextTs).toBool && decide (s.gTxNextSeq < 65536) && (tsIncrement s.gCfg).toBool

/-- What `f_tx_rtp` has to transmit for a payload. -/
def encapsulated (cfg : RtpemConfig) (ent : IuupEntity) (payload : List UInt8) :
    Except Fault (Option (List UInt8)) :=
  if cfg.iuupMode then
    (fIuupEmTxEncap codec ent payload).map fun r => if r.2.length = 0 then none else some r.2
  else .ok (some payload)

/-- The round counts what it transmits: all but control PDUs of IuUP. -/
def counted (cfg : RtpemConfig) (payload : List UInt8) : Input → Bool
  | .timeout => true
  | .rtp _ _ _ => !cfg.iuupMode || payload.length ≠ 0
  | _ => false

/-- A call of `f_tx_rtp` that is counted for what it is.  A call may also end the
    component, by what cannot be encapsulated or numbered, or because there is no
    first payload to take the type of a control PDU from. -/
def CallCounted (s : State) (call : IuupEntity × List UInt8) (cnt : Bool) : Prop :=
  (cnt = false ∧ s.gCfg.txPayloads = []) ∨
    match encapsulated codec s.gCfg call.1 call.2 with
    | .error _ => True
    | .ok none => cnt = false
    | .ok (some octets) =>
        numbered s = true → cnt = true ∧ octets.length = call.2.length

/-- **WHERE A ROUND IS COUNTED RIGHT**: what it transmits is counted, and goes out
    with as many octets as the payload has. -/
def TxCounted (s : State) (i : Input) : Prop :=
  ∀ call ∈ toTransmit codec s i, CallCounted codec s call (counted s.gCfg call.2 i)

end Claim

-- ── Tallies ──────────────────────────────────────────────────────────────────

/-- The two counters of what was sent. -/
def txTally (s : State) : Nat × Nat := (s.gStatsRtp.numPktsTx, s.gStatsRtp.bytesPayloadTx)

/-- The packets of a round, and the octets in them. -/
def txAmount (os : List Output) : Nat × Nat :=
  ((os.filterMap Output.sent).length,
    ((os.filterMap Output.sent).map fun rtp => rtp.data.length).sum)

/-- What was sent in two parts. -/
theorem txAmount_append (os os' : List Output) :
    txAmount (os ++ os') = txAmount os + txAmount os' := by
  rw [txAmount, txAmount, txAmount, List.filterMap_append, List.length_append, List.map_append,
    List.sum_append]
  rfl

theorem txAmount_quiet {os : List Output} (h : os.filterMap Output.sent = []) :
    txAmount os = 0 := by
  rw [txAmount, h]
  rfl

theorem sum_txAmount (os : List (List Output)) :
    (os.map txAmount).sum
      = ((sentBy os).length, ((sentBy os).map fun rtp => rtp.data.length).sum) := by
  induction os with
  | nil => rfl
  | cons o os ih =>
      rw [List.map_cons, List.sum_cons, ih]
      show txAmount o + txAmount os.flatten = txAmount (o ++ os.flatten)
      rw [txAmount_append]

variable {codec : BodyCodec IuupBody} {s : State}

/-- The claim on the counters is one on tallies. -/
theorem txStatsRight_iff {is : List Input} :
    TxStatsRight codec is ↔ Right (fMain codec) txTally txAmount {} is := by
  refine forall₃_congr fun is' s os => forall₂_congr fun _ _ => ?_
  rw [sum_txAmount]
  show _ ↔ txTally s = (0, 0) + _
  rw [show ((0, 0) : Nat × Nat) = 0 from rfl, zero_add, txTally, Prod.mk.injEq]

-- ── One call ─────────────────────────────────────────────────────────────────

/-- A part of a round adds to the statistics what it sends. -/
def Counts (s : State) (r : Except Halt (State × List Output)) : Prop :=
  Adds txTally txAmount s r

theorem counts_error (e : Halt) : Counts s (.error e) := trivial

/-- A part that neither counts nor sends. -/
theorem counts_quiet {s' : State} {os : List Output} (htally : txTally s' = txTally s)
    (hos : os.filterMap Output.sent = []) : Counts s (.ok (s', os)) := by
  show txTally s' = txTally s + txAmount os
  rw [txAmount_quiet hos, add_zero, htally]

/-- A packet that has something to carry is sent iff it is numbered. -/
theorem sendRtp_cases (s : State) (payload : List UInt8) (pt : Fin 128) (marker : Bool) :
    (numbered s = false ∧ ∃ e, sendRtp s payload pt marker = .error e)
      ∨ (numbered s = true ∧ ∃ s' rtp, sendRtp s payload pt marker = .ok (s', rtp)
        ∧ rtp.data = payload ∧ txTally s' = txTally s) := by
  rw [numbered, sendRtp]
  cases hts : int2bit32 s.gTxNextTs with
  | error e => exact .inl ⟨rfl, e, rfl⟩
  | ok ts =>
      by_cases hseq : s.gTxNextSeq < 65536
      · have henc : encodes (tsRtp s.gCfg.txSsrc pt s.gTxNextSeq ts payload marker) = .ok () :=
          if_neg (Nat.not_le.mpr hseq)
        rw [decide_eq_true hseq]
        cases hinc : tsIncrement s.gCfg with
        | error e =>
            left
            refine ⟨rfl, e, ?_⟩
            show (encodes (tsRtp _ pt _ ts payload marker)).bind _ = _
            rw [henc]
            rfl
        | ok inc =>
            right
            refine ⟨rfl, { s with
                gTxNextSeq := s.gTxNextSeq + 1
                gTxNextTs := s.gTxNextTs + inc },
              tsRtp s.gCfg.txSsrc pt s.gTxNextSeq ts payload marker, ?_, rfl, rfl⟩
            show (encodes (tsRtp _ pt _ ts payload marker)).bind _ = _
            rw [henc]
            rfl
      · have henc : encodes (tsRtp s.gCfg.txSsrc pt s.gTxNextSeq ts payload marker)
            = .error .rawOverflow := if_pos (Nat.le_of_not_lt hseq)
        rw [decide_eq_false hseq]
        left
        refine ⟨rfl, .rawOverflow, ?_⟩
        show (encodes (tsRtp _ pt _ ts payload marker)).bind _ = _
        rw [henc]
        rfl

/-- The encapsulation changes the entity alone. -/
theorem txEncap_cases (codec : BodyCodec IuupBody) (s : State) (payload : List UInt8) :
    (∃ e, txEncap codec s payload = .error e
        ∧ encapsulated codec s.gCfg s.gIuupEnt payload = .error e)
      ∨ ∃ ent o, txEncap codec s payload = .ok ({ s with gIuupEnt := ent }, o)
        ∧ encapsulated codec s.gCfg s.gIuupEnt payload = .ok o := by
  rw [txEncap, encapsulated]
  by_cases hmode : s.gCfg.iuupMode = true
  · rw [if_pos hmode, if_pos hmode]
    cases fIuupEmTxEncap codec s.gIuupEnt payload with
    | error e => exact .inl ⟨e, rfl, rfl⟩
    | ok r => exact .inr ⟨r.1, _, rfl, rfl⟩
  · rw [if_neg hmode, if_neg hmode]
    exact .inr ⟨s.gIuupEnt, some payload, rfl, rfl⟩

/-- What a round does behind a call: it counts it or does not, and sends no more. -/
structure Behind (payload : List UInt8) (cnt : Bool)
    (f : State × List Output → State × List Output) : Prop where
  tally : ∀ s os, txTally (f (s, os)).1
    = txTally s + if cnt then (1, payload.length) else 0
  amount : ∀ s os, txAmount (f (s, os)).2 = txAmount os

/-- **ONE CALL** is counted for what it is, exactly under the condition. -/
theorem fTxRtp_counts (s₀ : State) {payload : List UInt8} {pt : Fin 128} {cnt : Bool}
    {f : State × List Output → State × List Output} (hf : Behind payload cnt f)
    (hs : txTally s₀ = txTally s) (hcfg : ¬ (cnt = false ∧ s₀.gCfg.txPayloads = [])) :
    Counts s ((fTxRtp codec s₀ payload pt false).map f)
      ↔ CallCounted codec s₀ (s₀.gIuupEnt, payload) cnt := by
  rw [CallCounted, or_iff_right hcfg, fTxRtp]
  dsimp only
  rcases txEncap_cases codec s₀ payload with ⟨e, htx, henc⟩ | ⟨ent, o, htx, henc⟩
  · rw [htx, henc]
    exact Iff.rfl
  · rw [htx, henc]
    cases o with
    | none =>
        show txTally (f ({ s₀ with gIuupEnt := ent }, [])).1
          = txTally s + txAmount (f ({ s₀ with gIuupEnt := ent }, [])).2 ↔ cnt = false
        rw [hf.tally, hf.amount, ← hs]
        show txTally s₀ + _ = txTally s₀ + 0 ↔ _
        rw [add_right_inj]
        cases cnt with
        | false => exact iff_of_true rfl rfl
        | true => exact iff_of_false (fun h => Nat.one_ne_zero (Prod.mk.inj h).1) (by decide)
    | some octets =>
        dsimp only
        rcases sendRtp_cases { s₀ with gIuupEnt := ent } octets pt false with
          ⟨hnum, e, hsend⟩ | ⟨hnum, s', rtp, hsend, hdata, htally⟩
        · rw [hsend]
          exact iff_of_true trivial fun h => absurd (hnum.symm.trans h) Bool.false_ne_true
        · rw [hsend]
          show txTally (f (s', [.send rtp])).1 = txTally s + txAmount (f (s', [.send rtp])).2 ↔ _
          rw [hf.tally, hf.amount, htally, ← hs]
          show txTally s₀ + _ = txTally s₀ + (1, rtp.data.length + 0) ↔ _
          rw [add_right_inj, hdata, Nat.add_zero]
          constructor
          · intro h _
            cases cnt with
            | false => exact absurd (Prod.mk.inj h).1 Nat.zero_ne_one
            | true => exact ⟨rfl, (Prod.mk.inj h).2.symm⟩
          · intro h
            obtain ⟨rfl, hlen⟩ := h hnum
            exact Prod.ext rfl hlen.symm

-- ── Data PDUs ────────────────────────────────────────────────────────────────

theorem substr_length {octets t : List UInt8} {index n : Int} (h : substr octets index n = .ok t) :
    (t.length : Int) = n := by
  rw [substr] at h
  by_cases hbound : 0 ≤ index ∧ 0 ≤ n ∧ index + n ≤ octets.length
  · rw [if_pos hbound] at h
    rw [← Except.ok.inj h, List.length_take, List.length_drop]
    omega
  · rw [if_neg hbound] at h
    cases h

/-- The checksums replace two octets. -/
theorem fEncIuupPdu_length {pdu : IuupPdu IuupBody} {octets : List UInt8}
    (h : fEncIuupPdu codec pdu = .ok octets) :
    octets.length = (rawEncIuupPdu codec pdu).length := by
  obtain ⟨crcPayload, -, h⟩ := bind_ok h
  obtain ⟨head, hhead, h⟩ := bind_ok h
  obtain ⟨tail, htail, h⟩ := bind_ok h
  have hlen : octets.length = head.length + (2 + tail.length) := by
    rw [← Except.ok.inj h, List.append_assoc, List.length_append, List.length_append]
    rfl
  have hhead := substr_length hhead
  have htail := substr_length htail
  omega

/-- **DATA PDUS** are longer than their payload. -/
theorem encapsulated_data {cfg : RtpemConfig} {ent : IuupEntity} {payload octets : List UInt8}
    (hmode : cfg.iuupMode = true) (hready : ent.state = .dataTransferReady)
    (h : encapsulated codec cfg ent payload = .ok (some octets)) :
    payload.length < octets.length := by
  rw [encapsulated, if_pos hmode] at h
  obtain ⟨r, hr, hsome⟩ := map_ok h
  obtain ⟨r', hr', hmap⟩ := bind_ok hr
  obtain ⟨octets', henc, rfl⟩ := map_ok hmap
  have hoctets : octets' = octets := by
    by_cases hlen : octets'.length = 0
    · rw [if_pos hlen] at hsome
      cases hsome
    · rw [if_neg hlen] at hsome
      exact Option.some.inj hsome
  rw [txPdu, hready] at hr'
  cases hr'
  rw [← hoctets, fEncIuupPdu_length henc, dataPdu]
  by_cases htype : ent.cfg.dataPduType0 = true
  · rw [if_pos htype]
    show payload.length < payload.length + 1 + 1 + 1 + 1
    omega
  · rw [if_neg htype]
    show payload.length < payload.length + 1 + 1 + 1
    omega

/-- A data PDU that is sent is never counted for what it is. -/
theorem data_not_counted {ent : IuupEntity} {payload octets : List UInt8} (cnt : Bool)
    (hmode : s.gCfg.iuupMode = true) (hready : ent.state = .dataTransferReady)
    (henc : encapsulated codec s.gCfg ent payload = .ok (some octets))
    (hnum : numbered s = true) (hpayloads : s.gCfg.txPayloads ≠ []) :
    ¬ CallCounted codec s (ent, payload) cnt := by
  rw [CallCounted, or_iff_right (fun h => hpayloads h.2)]
  dsimp only
  rw [henc]
  intro h
  exact (encapsulated_data hmode hready henc).ne (h hnum).2.symm

-- ── Rounds ───────────────────────────────────────────────────────────────────

theorem txCounted_none {i : Input} (h : toTransmit codec s i = none) : TxCounted codec s i := by
  intro call hmem
  rw [h] at hmem
  cases hmem

theorem txCounted_some {i : Input} {call : IuupEntity × List UInt8}
    (h : toTransmit codec s i = some call) :
    TxCounted codec s i ↔ CallCounted codec s call (counted s.gCfg call.2 i) := by
  rw [TxCounted, h]
  constructor
  · exact fun hall => hall call rfl
  · intro hcall call' hmem
    cases hmem
    exact hcall

theorem behind_id (payload : List UInt8) : Behind payload false id where
  tally := fun _ _ => (add_zero _).symm
  amount := fun _ _ => rfl

/-- A control PDU is not counted. -/
theorem txPending_counts (s₀ : State) {f : State × List Output → State × List Output}
    (hf : Behind [] false f) (hs : txTally s₀ = txTally s) :
    Counts s ((txPending codec s₀).map f) ↔ CallCounted codec s₀ (s₀.gIuupEnt, []) false := by
  rw [txPending]
  cases hpayloads : s₀.gCfg.txPayloads with
  | nil => exact iff_of_true trivial (.inl ⟨rfl, hpayloads⟩)
  | cons p ps =>
      refine fTxRtp_counts s₀ hf hs fun h => ?_
      rw [hpayloads] at h
      exact List.cons_ne_nil p ps h.2

/-- What answers a control PDU is counted if something is sent. -/
theorem answerControl_counts (s₀ : State) (hs : txTally s₀ = txTally s) :
    Counts s (answerControl codec s₀)
      ↔ ((s₀.gTxConnected && s₀.gIuupEnt.pendingTxPdu.isSome) = true →
          CallCounted codec s₀ (s₀.gIuupEnt, []) false) := by
  have hid : (txPending codec s₀).map id = txPending codec s₀ := by
    cases txPending codec s₀ <;> rfl
  rw [answerControl]
  by_cases hanswer : (s₀.gTxConnected && s₀.gIuupEnt.pendingTxPdu.isSome) = true
  · rw [if_pos hanswer, ← hid, txPending_counts s₀ (behind_id []) hs]
    exact (imp_iff_right hanswer).symm
  · rw [if_neg hanswer]
    exact iff_of_true (counts_quiet hs rfl) fun h => absurd h hanswer

/-- So it is for a connection. -/
theorem onConnect_counts (s : State) (remotePort : Nat) (rtp rtcp : Option Int) :
    Counts s (onConnect codec s remotePort rtp rtcp)
      ↔ TxCounted codec s (.connect remotePort rtp rtcp) := by
  rw [onConnect]
  by_cases hodd : remotePort % 2 = 1
  · rw [if_pos hodd]
    exact iff_of_true (counts_quiet rfl rfl) (txCounted_none (by simp [toTransmit, hodd]))
  rw [if_neg hodd]
  by_cases hfail : (rtp.isNone || rtcp.isNone) = true
  · rw [if_pos hfail]
    refine iff_of_true (counts_error _) (txCounted_none ?_)
    cases rtp with
    | none => simp [toTransmit]
    | some rtpId =>
        cases rtcp with
        | none => simp [toTransmit]
        | some rtcpId => exact absurd hfail Bool.false_ne_true
  rw [if_neg hfail]
  by_cases hpending : s.gIuupEnt.pendingTxPdu.isSome = true
  · rw [if_pos hpending, txCounted_some (toTransmit_connect hodd hfail hpending)]
    refine txPending_counts { s with gTxConnected := true }
      ⟨fun _ _ => (add_zero _).symm, fun _ os => ?_⟩ rfl
    show txAmount (os ++ [.reply]) = txAmount os
    rw [txAmount_append]
    exact add_zero _
  · rw [if_neg hpending]
    exact iff_of_true (counts_quiet rfl rfl) (txCounted_none (by simp [toTransmit, hpending]))

/-- Comparing payloads counts nothing. -/
theorem check_tally (s : State) (pt : Fin 128) (data : List UInt8) :
    txTally (fCheckFixedRxPayloads s pt data) = txTally s := by
  rw [fCheckFixedRxPayloads]
  split <;> rfl

/-- User data is counted if it is looped back. -/
theorem onUserData_counts (s₀ : State) {rtp : PduRtp} {dataConnected : Bool}
    (hs : txTally s₀ = txTally s) :
    Counts s (onUserData codec s₀ rtp dataConnected)
      ↔ (s₀.gLoopback = true → CallCounted codec s₀ (s₀.gIuupEnt, rtp.data) true) := by
  rw [onUserData]
  by_cases hloop : s₀.gLoopback = true
  · rw [if_pos hloop, imp_iff_right hloop]
    refine fTxRtp_counts s₀ ⟨fun _ _ => rfl, fun _ os => ?_⟩ hs fun h => ?_
    · rw [txAmount_append, txAmount_quiet (sniffed_sent rtp dataConnected), add_zero]
    · exact Bool.noConfusion h.1
  · rw [if_neg hloop]
    refine iff_of_true (counts_quiet ?_ (sniffed_sent rtp dataConnected)) fun h => absurd h hloop
    exact (check_tally s₀ _ _).trans hs

/-- A packet on the connection, and what it makes the component transmit. -/
theorem txCounted_rtp {connId : Int} {rtp : PduRtp} {dataConnected : Bool}
    (hconn : matchesConn s.trRtpConnId connId = true) :
    TxCounted codec s (.rtp connId rtp dataConnected)
      ↔ ∀ call ∈ answers codec s rtp,
        CallCounted codec s call (!s.gCfg.iuupMode || call.2.length ≠ 0) := by
  rw [TxCounted, toTransmit, if_pos hconn]
  exact Iff.rfl

theorem forall_mem_ite {α : Type} {b : Bool} {a : α} {P : α → Prop} :
    (∀ x ∈ if b = true then some a else none, P x) ↔ (b = true → P a) := by
  cases b with
  | false => exact iff_of_true (fun x hmem => absurd hmem (Option.not_mem_none x)) (nomatch ·)
  | true =>
      rw [if_pos rfl, imp_iff_right rfl]
      constructor
      · exact fun h => h a rfl
      · intro h x hmem
        cases hmem
        exact h

/-- **A PACKET COMES**: control PDUs are answered, and user data is looped back. -/
theorem onRtp_counts (s : State) (connId : Int) (rtp : PduRtp) (dataConnected : Bool) :
    Counts s (fMain codec s (.rtp connId rtp dataConnected))
      ↔ TxCounted codec s (.rtp connId rtp dataConnected) := by
  rw [fMain]
  by_cases hconn : matchesConn s.trRtpConnId connId = true
  swap
  · rw [if_neg hconn]
    exact iff_of_true (counts_error _) (txCounted_none (if_neg hconn))
  rw [if_pos hconn, txCounted_rtp hconn, answers]
  by_cases hmode : s.gCfg.iuupMode = true
  · rw [if_pos hmode, hmode, onRtpEnabled, onRtpDisabled, if_pos hmode, if_pos hmode]
    cases hdecaps : fIuupEmRxDecaps codec s.gIuupEnt rtp.data with
    | error e =>
        refine iff_of_true ?_ fun call hmem => absurd hmem (Option.not_mem_none call)
        split <;> exact counts_error _
    | ok r =>
        obtain ⟨ent, data⟩ := r
        dsimp only
        by_cases hlen : data.length = 0
        · -- a control PDU, with the receiver enabled or not
          rw [if_pos hlen, if_pos hlen, if_neg (not_not_intro hlen), forall_mem_ite]
          by_cases hrx : s.gRxEnabled = true
          · rw [if_pos hrx]
            exact answerControl_counts { countRx s rtp with gIuupEnt := ent } rfl
          · rw [if_neg hrx]
            exact answerControl_counts { s with gIuupEnt := ent } rfl
        · have hcnt : (!true || decide (data.length ≠ 0)) = true := decide_eq_true hlen
          rw [if_neg hlen, if_neg hlen, if_pos hlen, forall_mem_ite, hcnt]
          by_cases hrx : s.gRxEnabled = true
          · rw [if_pos hrx, hrx, Bool.true_and]
            exact onUserData_counts { countRx s rtp with gIuupEnt := ent }
              rfl
          · rw [if_neg hrx]
            refine iff_of_true (counts_quiet rfl rfl) fun h => absurd ?_ hrx
            exact (Bool.and_eq_true_iff.mp h).1
  · rw [if_neg hmode, forall_mem_ite, onRtpEnabled, onRtpDisabled, if_neg hmode, if_neg hmode]
    have hcnt : (!s.gCfg.iuupMode || decide (rtp.data.length ≠ 0)) = true := by
      rw [Bool.eq_false_iff.mpr hmode]
      rfl
    rw [hcnt]
    by_cases hrx : s.gRxEnabled = true
    · rw [if_pos hrx, hrx, Bool.true_and]
      exact onUserData_counts (countRx s rtp) rfl
    · rw [if_neg hrx]
      refine iff_of_true (counts_quiet rfl rfl) fun h => absurd ?_ hrx
      exact (Bool.and_eq_true_iff.mp h).1

/-- **A TICK** is counted, with the payload that was chosen. -/
theorem onTimeout_counts (s : State) :
    Counts s (fMain codec s .timeout) ↔ TxCounted codec s .timeout := by
  rw [fMain]
  by_cases hfires : (s.gTxConnected && s.tTransmit) = true
  swap
  · rw [if_neg hfires]
    exact iff_of_true (counts_quiet rfl rfl) (txCounted_none (if_neg hfires))
  rw [if_pos hfires, onTimeout]
  cases htick : tickPayload s with
  | error e =>
      refine iff_of_true (counts_error e) (txCounted_none ?_)
      rw [toTransmit, if_pos hfires, htick]
  | ok p =>
      have hcall : toTransmit codec s .timeout = some (s.gIuupEnt, p.1) := by
        rw [toTransmit, if_pos hfires, htick]
      rw [txCounted_some hcall]
      refine fTxRtp_counts { s with tTransmit := false }
        ⟨fun _ _ => rfl, fun _ _ => rfl⟩ rfl fun h => ?_
      exact Bool.noConfusion h.1

/-- **ONE ROUND** adds to the statistics what it sends, exactly under the condition. -/
theorem fMain_counts (s : State) (i : Input) :
    Counts s (fMain codec s i) ↔ TxCounted codec s i := by
  cases i with
  | connect remotePort rtp rtcp => exact onConnect_counts s remotePort rtp rtcp
  | rtp connId rtp dataConnected => exact onRtp_counts s connId rtp dataConnected
  | timeout => exact onTimeout_counts s
  | configure cfg => exact iff_of_true (counts_quiet rfl rfl) (txCounted_none rfl)
  | mode mode =>
      refine iff_of_true (counts_quiet ?_ rfl) (txCounted_none rfl)
      cases mode <;> rfl
  | statsGet rtcp => exact iff_of_true (counts_quiet rfl rfl) (txCounted_none rfl)
  | connRefuseExpect expect => exact iff_of_true (counts_quiet rfl rfl) (txCounted_none rfl)
  | connRefuseReceived => exact iff_of_true (counts_quiet rfl rfl) (txCounted_none rfl)
  | unexpectedRtp => exact iff_of_true (counts_error _) (txCounted_none rfl)
  | unexpectedRtcp => exact iff_of_true (counts_error _) (txCounted_none rfl)
  | bind localPort rtp rtcp =>
      refine iff_of_true ?_ (txCounted_none rfl)
      show Counts s (onBind s localPort rtp rtcp)
      unfold onBind
      by_cases hodd : localPort % 2 = 1
      · rw [if_pos hodd]
        exact counts_quiet rfl rfl
      · rw [if_neg hodd]
        cases rtp with
        | none => exact counts_error _
        | some rtpId =>
            cases rtcp with
            | none => exact counts_error _
            | some rtcpId => exact counts_quiet rfl rfl
  | rtcp connId rtcp dataConnected =>
      refine iff_of_true ?_ (txCounted_none rfl)
      rw [fMain]
      by_cases hconn : matchesConn s.trRtcpConnId connId = true
      · rw [if_pos hconn, onRtcp]
        by_cases hrx : s.gRxEnabled = true
        · rw [if_pos hrx]
          refine counts_quiet rfl ?_
          cases dataConnected <;> rfl
        · rw [if_neg hrx]
          exact counts_quiet rfl rfl
      · rw [if_neg hconn]
        exact counts_error _
  | connRefused =>
      refine iff_of_true ?_ (txCounted_none rfl)
      rw [fMain]
      by_cases hexpect : s.gConnRefuseExpect = true
      · rw [if_pos hexpect]
        exact counts_quiet rfl rfl
      · rw [if_neg hexpect]
        exact counts_error _

-- ── Runs ─────────────────────────────────────────────────────────────────────

/-- **THE TRANSMIT STATISTICS** are those of the packets sent, in every state of a
    run, iff every round of the run counts what it transmits for what it is; which a
    data PDU of IuUP that is sent never is. -/
theorem rtp_tx_stats (codec : BodyCodec IuupBody) (is : List Input) :
    (TxStatsRight codec is ↔ Guarded (fMain codec) (TxCounted codec) {} is)
    ∧ ∀ s ent payload octets cnt, s.gCfg.iuupMode = true → ent.state = .dataTransferReady →
      encapsulated codec s.gCfg ent payload = .ok (some octets) → numbered s = true →
      s.gCfg.txPayloads ≠ [] → ¬ CallCounted codec s (ent, payload) cnt := by
  refine ⟨?_, fun _ _ _ _ cnt hmode hready henc hnum hpayloads =>
    data_not_counted cnt hmode hready henc hnum hpayloads⟩
  rw [txStatsRight_iff, right_iff_guarded]
  exact guarded_congr fMain_counts is {}

/-- An active entity sends its INIT for the first tick, and waits on the second. -/
def initTicks : List Input :=
  [.configure { cRtpemDefaultCfg with iuupMode := true }, .connect 4000 (some 1) (some 2),
    .mode .txOnly, .timeout, .timeout]

/-- **TICKS BEFORE THE INIT ACK** are counted, and send nothing. -/
theorem rtp_tx_stats_init : ¬ TxStatsRight amrCodec initTicks := by
  rw [txStatsRight_iff, right_iff_guarded]
  decide +kernel

end OsmoRtp
