import OsmoTtcn.RunGuardProofs
import OsmoTtcn.SlotLogProofs
import OsmoTtcn.TitanProofs

/-! # Dispatch of the GTP emulation

    `GTP_Emulation` hands the GTPv1-C messages of the peer to the component that
    registered their IMSI or their TEID.  What has neither goes to the default
    client, or else is meant for all clients.

    But the loop over the clients picks the entries whose TEID is the one that
    was registered last, and a client that registered an IMSI only has no entry
    at all.  And some messages have their IMSI read without a look whether it is
    there.  `gtp_dispatch` has, for every run, the messages for which the
    dispatch is right. -/

namespace OsmoGtpv1

open OsmoTitan SlotTable SlotLog RunGuard

-- ── Data ─────────────────────────────────────────────────────────────────────

/-- An IMSI, digit by digit. -/
abbrev Imsi : Type := List (Fin 16)

/-- The alternatives of `gtpc_pdu` that have an IMSI, with its digits where the
    information element is there. -/
inductive GtpcPdu where
  | createPDPContextRequest (imsi : Option Imsi)
  | updatePDPContextRequestSGSN (imsi : Option Imsi)
  | updatePDPContextRequestGGSN (imsi : Option Imsi)
  | updatePDPContextRequestCGW (imsi : Option Imsi)
  | pduNotificationRequest (imsi : Option Imsi)
  | sendRouteingInformationForGPRSRequest (imsi : Option Imsi)
  | sendRouteingInformationForGPRSResponse (imsi : Option Imsi)
  | failureReportRequest (imsi : Option Imsi)
  | noteMSGPRSPresentRequest (imsi : Option Imsi)
  | identificationResponse (imsi : Option Imsi)
  | sgsnContextRequest (imsi : Option Imsi)
  | sgsnContextResponse (imsi : Option Imsi)
  | forwardRelocationRequest (imsi : Option Imsi)
  | relocationCancelRequest (imsi : Option Imsi)
  | uERegistrationQueryRequest (imsi : Option Imsi)
  | uERegistrationQueryResponse (imsi : Option Imsi)
  | mBMSNotificationRequest (imsi : Option Imsi)
  | createMBMSContextRequest (imsi : Option Imsi)
  | deleteMBMSContextRequest (imsi : Option Imsi)
  | mSInfoChangeNotificationRequest (imsi : Option Imsi)
  | mSInfoChangeNotificationResponse (imsi : Option Imsi)
  /-- Any other alternative, such as an echo request. -/
  | other (octets : List UInt8)
  deriving DecidableEq, Repr

/-- `PDU_GTPC`, by what the emulation reads. -/
structure PduGtpc where
  teid : UInt32
  gtpcPdu : GtpcPdu
  /-- The other fields. -/
  rest : List UInt8
  deriving DecidableEq, Repr

/-- `Gtp1cPeer` -/
structure Gtp1cPeer where
  connId : Int
  remName : String
  remPort : Nat
  deriving DecidableEq, Repr

/-- `Gtp1cUnitdata` -/
structure Gtp1cUnitdata where
  peer : Gtp1cPeer
  gtpc : PduGtpc
  deriving DecidableEq, Repr

/-- `TidTableRec`, `ImsiTableRec`: a free slot is unbound. -/
structure TableRec (κ Comp : Type) where
  key : Option κ
  vcConn : Option Comp
  deriving DecidableEq

/-- A table of sixteen entries. -/
abbrev Table (κ Comp : Type) : Type := Fin 16 → TableRec κ Comp

/-- The tables of `GTP_Emulation_CT`, and the variable that `main` keeps. -/
structure State (Comp : Type) where
  tidTable : Table UInt32 Comp
  imsiTable : Table Imsi Comp
  /-- The variable `teic` of `main`; unbound at first. -/
  teic : Option UInt32

/-- `f_init` -/
def init {Comp : Type} : State Comp where
  tidTable := fun _ => ⟨none, none⟩
  imsiTable := fun _ => ⟨none, none⟩
  teic := none

/-- What a round of `main` can start with. -/
inductive Input (Comp : Type) where
  /-- A message of the peer, and whether `CLIENT_DEFAULT` is connected. -/
  | gtpc (ud : Gtp1cUnitdata) (defaultConnected : Bool)
  | client (vcConn : Comp) (ud : Gtp1cUnitdata)
  | clientDefault (ud : Gtp1cUnitdata)
  | registerImsi (imsi : Imsi) (vcConn : Comp)
  | registerTeic (teic : UInt32) (vcConn : Comp)

/-- What a round of `main` sends, and on which port. -/
inductive Output (Comp : Type) where
  | toClient (vcConn : Comp) (ud : Gtp1cUnitdata)
  | toDefault (ud : Gtp1cUnitdata)
  | toPeer (ud : Gtp1cUnitdata)
  | reply (vcConn : Comp)
  deriving DecidableEq

-- ── Functions ────────────────────────────────────────────────────────────────

/-- The digits of an optional element that is read as it is. -/
def digits (imsi : Option Imsi) : Except Fault Imsi :=
  match imsi with
  | some d => .ok d
  | none => .error (.ttcnError "Using the value of an optional field containing omit.")

/-- Where the element is asked for first, its absence is an omit. -/
def fGtpcExtractImsi (gtp : PduGtpc) : Except Fault (Option Imsi) :=
  match gtp.gtpcPdu with
  | .createPDPContextRequest imsi => (digits imsi).map some
  | .updatePDPContextRequestSGSN imsi => .ok imsi
  | .updatePDPContextRequestGGSN imsi => .ok imsi
  | .updatePDPContextRequestCGW imsi => .ok imsi
  | .pduNotificationRequest imsi => (digits imsi).map some
  | .sendRouteingInformationForGPRSRequest imsi => (digits imsi).map some
  | .sendRouteingInformationForGPRSResponse imsi => (digits imsi).map some
  | .failureReportRequest imsi => (digits imsi).map some
  | .noteMSGPRSPresentRequest imsi => (digits imsi).map some
  | .identificationResponse imsi => .ok imsi
  | .sgsnContextRequest imsi => .ok imsi
  | .sgsnContextResponse imsi => .ok imsi
  | .forwardRelocationRequest imsi => .ok imsi
  | .relocationCancelRequest imsi => .ok imsi
  | .uERegistrationQueryRequest imsi => (digits imsi).map some
  | .uERegistrationQueryResponse imsi => (digits imsi).map some
  | .mBMSNotificationRequest imsi => (digits imsi).map some
  | .createMBMSContextRequest imsi => .ok imsi
  | .deleteMBMSContextRequest imsi => .ok imsi
  | .mSInfoChangeNotificationRequest imsi => .ok imsi
  | .mSInfoChangeNotificationResponse imsi => .ok imsi
  | .other _ => .ok none

section Functions

variable {κ Comp : Type} [DecidableEq κ]

/-- The search of `f_comp_by_teic` and `f_comp_by_imsi`. -/
def compBy (t : Table κ Comp) (k : κ) (msg : String) : Except Fault (Option Comp) :=
  (orShutdown (find t (fun r => decide (r.key = some k))) msg).map (fun i => (t i).vcConn)

/-- The search of `f_tid_tbl_add` and `f_imsi_tbl_add`. -/
def tblAdd (t : Table κ Comp) (k : κ) (vcConn : Comp) (msg : String) :
    Except Fault (Table κ Comp) :=
  (orShutdown (find t (fun r => r.key.isNone)) msg).map
    (fun i => Function.update t i ⟨some k, some vcConn⟩)

/-- `f_comp_by_teic` -/
def fCompByTeic (s : State Comp) (teic : UInt32) : Except Fault (Option Comp) :=
  compBy s.tidTable teic "No Component for TEIC "

/-- `f_comp_by_imsi` -/
def fCompByImsi (s : State Comp) (imsi : Imsi) : Except Fault (Option Comp) :=
  compBy s.imsiTable imsi "No Component for IMSI "

/-- `f_tid_tbl_add` -/
def fTidTblAdd (s : State Comp) (teic : UInt32) (vcConn : Comp) :
    Except Fault (Table UInt32 Comp) :=
  tblAdd s.tidTable teic vcConn "No Space in TidTable for "

/-- `f_imsi_tbl_add` -/
def fImsiTblAdd (s : State Comp) (imsi : Imsi) (vcConn : Comp) :
    Except Fault (Table Imsi Comp) :=
  tblAdd s.imsiTable imsi vcConn "No Space in IMSI Table for "

/-- `CLIENT.send(g1c_ud) to vc_conn` -/
def clientSend (ud : Gtp1cUnitdata) (vcConn : Option Comp) :
    Except Fault (List (Output Comp)) :=
  (bound vcConn).map (fun c => [.toClient c ud])

/-- One round of the loop that sends to all clients: the variable `teic` is
    read where the slot is bound. -/
def sendRound (s : State Comp) (ud : Gtp1cUnitdata) (i : Fin 16) :
    Except Fault (List (Output Comp)) :=
  match (s.tidTable i).key with
  | none => .ok []
  | some key => (bound s.teic).bind fun teic =>
      if key = teic then clientSend ud (s.tidTable i).vcConn else .ok []

/-- Send to all clients -/
def sendToAll (s : State Comp) (ud : Gtp1cUnitdata) : Except Fault (List (Output Comp)) :=
  (List.finRange 16).foldr
    (fun i rest => (sendRound s ud i).bind (fun o => rest.map (fun os => o ++ os))) (.ok [])

/-- route inbound GTP-C based on IMSI or TEIC -/
def onGtpc (s : State Comp) (ud : Gtp1cUnitdata) (defaultConnected : Bool) :
    Except Fault (List (Output Comp)) :=
  (fGtpcExtractImsi ud.gtpc).bind fun imsiT =>
    match imsiT with
    | some imsi => (fCompByImsi s imsi).bind (clientSend ud)
    | none =>
        if ud.gtpc.teid ≠ 0 then (fCompByTeic s ud.gtpc.teid).bind (clientSend ud)
        else if defaultConnected then .ok [.toDefault ud]
        else sendToAll s ud

/-- One round of `main`. -/
def mainStep (s : State Comp) :
    Input Comp → Except Fault (State Comp × List (Output Comp))
  | .gtpc ud defaultConnected => (onGtpc s ud defaultConnected).map (fun os => (s, os))
  | .client _ ud => .ok (s, [.toPeer ud])
  | .clientDefault ud => .ok (s, [.toPeer ud])
  | .registerImsi imsi vcConn =>
      (fImsiTblAdd s imsi vcConn).map fun t => ({ s with imsiTable := t }, [.reply vcConn])
  | .registerTeic teic vcConn =>
      (fTidTblAdd s teic vcConn).map fun t =>
        ({ s with tidTable := t, teic := some teic }, [.reply vcConn])

end Functions

-- ── What the dispatch is for ─────────────────────────────────────────────────

/-- The IMSI that a message contains. -/
def GtpcPdu.imsi : GtpcPdu → Option Imsi
  | .createPDPContextRequest imsi | .updatePDPContextRequestSGSN imsi
  | .updatePDPContextRequestGGSN imsi | .updatePDPContextRequestCGW imsi
  | .pduNotificationRequest imsi | .sendRouteingInformationForGPRSRequest imsi
  | .sendRouteingInformationForGPRSResponse imsi | .failureReportRequest imsi
  | .noteMSGPRSPresentRequest imsi | .identificationResponse imsi
  | .sgsnContextRequest imsi | .sgsnContextResponse imsi
  | .forwardRelocationRequest imsi | .relocationCancelRequest imsi
  | .uERegistrationQueryRequest imsi | .uERegistrationQueryResponse imsi
  | .mBMSNotificationRequest imsi | .createMBMSContextRequest imsi
  | .deleteMBMSContextRequest imsi | .mSInfoChangeNotificationRequest imsi
  | .mSInfoChangeNotificationResponse imsi => imsi
  | .other _ => none

section Spec

variable {Comp : Type}

/-- The registrations, in their order. -/
structure Registered (Comp : Type) where
  teics : List (UInt32 × Comp)
  imsis : List (Imsi × Comp)

/-- What a round adds to what was registered. -/
def Registered.note (r : Registered Comp) : Input Comp → Registered Comp
  | .registerImsi imsi vcConn => { r with imsis := r.imsis ++ [(imsi, vcConn)] }
  | .registerTeic teic vcConn => { r with teics := r.teics ++ [(teic, vcConn)] }
  | .gtpc _ _ | .client _ _ | .clientDefault _ => r

/-- What was registered in a run. -/
def registered (is : List (Input Comp)) : Registered Comp :=
  is.foldl Registered.note ⟨[], []⟩

/-- Who registered a key, the first where there are several. -/
def holder {κ : Type} [DecidableEq κ] (l : List (κ × Comp)) (k : κ) : Option Comp :=
  (l.find? (fun e => decide (e.1 = k))).map (fun e => e.2)

/-- The components that registered something. -/
def Registered.IsClient (r : Registered Comp) (c : Comp) : Prop :=
  (∃ teic, (teic, c) ∈ r.teics) ∨ ∃ imsi, (imsi, c) ∈ r.imsis

/-- **THE DISPATCH IS RIGHT** for a message: it goes to whoever registered its
    IMSI, else its TEID; with neither, to the default client or to all
    clients. -/
def DispatchRight (r : Registered Comp) (ud : Gtp1cUnitdata) (defaultConnected : Bool)
    (out : Except Fault (List (Output Comp))) : Prop :=
  match ud.gtpc.gtpcPdu.imsi with
  | some imsi => ∀ c, holder r.imsis imsi = some c → out = .ok [.toClient c ud]
  | none =>
      if ud.gtpc.teid ≠ 0 then
        ∀ c, holder r.teics ud.gtpc.teid = some c → out = .ok [.toClient c ud]
      else if defaultConnected then out = .ok [.toDefault ud]
      else ∃ os, out = .ok os ∧ ∀ o, o ∈ os ↔ ∃ c, r.IsClient c ∧ o = .toClient c ud

/-- Every client registered the TEID that was registered last. -/
def Registered.Together (r : Registered Comp) : Prop :=
  ∀ c, r.IsClient c → ∃ teic, r.teics.getLast?.map (fun e => e.1) = some teic
    ∧ (teic, c) ∈ r.teics

/-- The message has its IMSI where it is read without a look, unless nobody
    registered its TEID; and with neither IMSI nor TEID nor a default client, all
    clients registered the TEID that was registered last. -/
def HoldsWhen (r : Registered Comp) (ud : Gtp1cUnitdata) (defaultConnected : Bool) :
    Prop :=
  ((fGtpcExtractImsi ud.gtpc).isOk = true
      ∨ ud.gtpc.teid ≠ 0 ∧ holder r.teics ud.gtpc.teid = none)
    ∧ (ud.gtpc.gtpcPdu.imsi = none → ud.gtpc.teid = 0 → defaultConnected = false →
      r.Together)

end Spec

-- ── The tables ───────────────────────────────────────────────────────────────

section Tables

variable {κ Comp : Type}

/-- The slot of an entry. -/
def slot : Option (κ × Comp) → TableRec κ Comp
  | none => ⟨none, none⟩
  | some e => ⟨some e.1, some e.2⟩

/-- An entry is free if nothing was put there. -/
theorem slot_isNone (o : Option (κ × Comp)) : (slot o).key.isNone = o.isNone := by
  cases o with
  | none => rfl
  | some e => rfl

variable [DecidableEq κ] {t t' : Table κ Comp} {l : List (κ × Comp)} {k : κ} {c : Comp}
variable {msg : String}

/-- An entry has the key of what was put there. -/
theorem slot_key (k : κ) (o : Option (κ × Comp)) :
    decide ((slot o).key = some k) = o.any (fun e => decide (e.1 = k)) := by
  cases o with
  | none => rfl
  | some e => exact decide_eq_decide.mpr Option.some_inj

/-- Who was put there is found. -/
theorem compBy_holder (h : Logs slot t l) (hc : holder l k = some c) :
    compBy t k msg = .ok (some c) := by
  obtain ⟨e, hf, rfl⟩ := Option.map_eq_some_iff.mp hc
  obtain ⟨i, hfind, hi⟩ := h.find_some
    (p := fun r : TableRec κ Comp => decide (r.key = some k)) (slot_key k) hf
  rw [compBy, hfind]
  dsimp only [orShutdown, Except.map]
  rw [hi]
  rfl

omit [DecidableEq κ] in
/-- An entry more is a registration more. -/
theorem tblAdd_logs (h : Logs slot t l) (hadd : tblAdd t k c msg = .ok t') :
    Logs slot t' (l ++ [(k, c)]) := by
  rw [tblAdd] at hadd
  rcases h.add (p := fun r : TableRec κ Comp => r.key.isNone) slot_isNone (k, c) with
    ⟨i, hfind, hnew⟩ | ⟨hfind, -⟩
  · rw [hfind] at hadd
    rw [← Except.ok.inj hadd]
    exact hnew
  · rw [hfind] at hadd
    exact nomatch hadd

end Tables

-- ── Runs ─────────────────────────────────────────────────────────────────────

section Runs

variable {Comp : Type} {s s' : State Comp} {r : Registered Comp}

/-- The state records what was registered. -/
structure Records (s : State Comp) (r : Registered Comp) : Prop where
  teics : Logs slot s.tidTable r.teics
  imsis : Logs slot s.imsiTable r.imsis
  last : s.teic = r.teics.getLast?.map (fun e => e.1)

/-- At first nothing is registered. -/
theorem records_init : Records (init : State Comp) ⟨[], []⟩ where
  teics := logs_empty (fun _ => rfl)
  imsis := logs_empty (fun _ => rfl)
  last := rfl

/-- **ONE ROUND** records what it registers. -/
theorem Records.step (h : Records s r) {i : Input Comp} {os : List (Output Comp)}
    (hstep : mainStep s i = .ok (s', os)) : Records s' (r.note i) := by
  cases i with
  | gtpc ud defaultConnected =>
      obtain ⟨os', -, heq⟩ := map_ok hstep
      rw [← (Prod.mk.inj heq).1]
      exact h
  | client vcConn ud =>
      rw [← (Prod.mk.inj (Except.ok.inj hstep)).1]
      exact h
  | clientDefault ud =>
      rw [← (Prod.mk.inj (Except.ok.inj hstep)).1]
      exact h
  | registerImsi imsi vcConn =>
      obtain ⟨t, hadd, heq⟩ := map_ok hstep
      rw [← (Prod.mk.inj heq).1]
      exact ⟨h.teics, tblAdd_logs h.imsis hadd, h.last⟩
  | registerTeic teic vcConn =>
      obtain ⟨t, hadd, heq⟩ := map_ok hstep
      rw [← (Prod.mk.inj heq).1]
      refine ⟨tblAdd_logs h.teics hadd, h.imsis, ?_⟩
      rw [Registered.note, List.getLast?_concat]
      rfl

/-- **OVER A WHOLE RUN** the tables hold what was registered, in order. -/
theorem records_run {is : List (Input Comp)} {oss : List (List (Output Comp))}
    (hrun : run mainStep init is = .ok (s, oss)) : Records s (registered is) := by
  refine run_history_inv (I := Records) ?_ is init ⟨[], []⟩ s oss records_init hrun
  intro s r i s' os h hstep
  exact h.step hstep

-- ── The loop over the clients ────────────────────────────────────────────────

variable {ud : Gtp1cUnitdata}

/-- Rounds that all come through are put together. -/
theorem foldr_rounds {α : Type} {f : α → Except Fault (List (Output Comp))}
    {g : α → List (Output Comp)} : ∀ (l : List α), (∀ a ∈ l, f a = .ok (g a)) →
    l.foldr (fun a rest => (f a).bind (fun o => rest.map (fun os => o ++ os))) (.ok [])
      = .ok (l.flatMap g) := by
  intro l
  induction l with
  | nil => intro _; rfl
  | cons a l ih =>
      intro hall
      rw [List.foldr_cons, ih (fun b hb => hall b (List.mem_cons_of_mem a hb)),
        hall a List.mem_cons_self]
      rfl

/-- What a round sends. -/
def roundOutput (r : Registered Comp) (ud : Gtp1cUnitdata) (i : Fin 16) :
    List (Output Comp) :=
  match r.teics[i.val]? with
  | none => []
  | some e =>
      if r.teics.getLast?.map (fun e => e.1) = some e.1 then [.toClient e.2 ud] else []

/-- One turn of the loop over the TEICs. -/
theorem sendRound_ok (h : Records s r) (i : Fin 16) :
    sendRound s ud i = .ok (roundOutput r ud i) := by
  rw [sendRound, roundOutput, h.teics.holds i]
  cases hi : r.teics[i.val]? with
  | none => rfl
  | some e =>
      -- A slot is in use, so something was registered last.
      have hlast : ∃ teic, r.teics.getLast?.map (fun e => e.1) = some teic := by
        cases hl : r.teics.getLast? with
        | none =>
            rw [List.getLast?_eq_none_iff.mp hl] at hi
            exact nomatch hi
        | some e' => exact ⟨e'.1, rfl⟩
      obtain ⟨teic, hteic⟩ := hlast
      rw [h.last, hteic]
      dsimp only [slot, bound, Except.bind]
      by_cases heq : e.1 = teic
      · rw [if_pos heq, if_pos (congrArg some heq.symm)]
        rfl
      · rw [if_neg heq, if_neg (fun hsome => heq (Option.some.inj hsome).symm)]

/-- **WHO GETS IT**: whoever registered the TEID that was registered last. -/
theorem sendToAll_ok (h : Records s r) (ud : Gtp1cUnitdata) : ∃ os, sendToAll s ud = .ok os
    ∧ ∀ o, o ∈ os ↔ ∃ teic c, r.teics.getLast?.map (fun e => e.1) = some teic
      ∧ (teic, c) ∈ r.teics ∧ o = .toClient c ud := by
  refine ⟨_, foldr_rounds _ (fun i _ => sendRound_ok h i), fun o => ?_⟩
  rw [List.mem_flatMap]
  constructor
  · rintro ⟨i, -, ho⟩
    rw [roundOutput] at ho
    cases hi : r.teics[i.val]? with
    | none =>
        rw [hi] at ho
        exact nomatch ho
    | some e =>
        rw [hi] at ho
        dsimp only at ho
        by_cases hlast : r.teics.getLast?.map (fun e => e.1) = some e.1
        · rw [if_pos hlast] at ho
          exact ⟨e.1, e.2, hlast, List.mem_of_getElem? hi, List.mem_singleton.mp ho⟩
        · rw [if_neg hlast] at ho
          exact nomatch ho
  · rintro ⟨teic, c, hlast, hmem, rfl⟩
    obtain ⟨i, hi⟩ := h.teics.mem_iff.mp hmem
    refine ⟨i, List.mem_finRange i, ?_⟩
    rw [roundOutput, hi]
    dsimp only
    rw [if_pos hlast]
    exact List.mem_singleton_self _

/-- **THE LOOP REACHES ALL CLIENTS** iff they all registered that TEID. -/
theorem sendToAll_right (h : Records s r) (ud : Gtp1cUnitdata) :
    (∃ os, sendToAll s ud = .ok os
      ∧ ∀ o, o ∈ os ↔ ∃ c, r.IsClient c ∧ o = .toClient c ud) ↔ r.Together := by
  obtain ⟨os, hos, hmem⟩ := sendToAll_ok h ud
  constructor
  · rintro ⟨os', hos', hmem'⟩ c hc
    rw [hos] at hos'
    obtain rfl := Except.ok.inj hos'
    obtain ⟨teic, c', hlast, hin, heq⟩ := (hmem _).mp ((hmem' _).mpr ⟨c, hc, rfl⟩)
    obtain ⟨rfl, -⟩ := Output.toClient.inj heq
    exact ⟨teic, hlast, hin⟩
  · intro htogether
    refine ⟨os, hos, fun o => (hmem o).trans ?_⟩
    constructor
    · rintro ⟨teic, c, -, hin, rfl⟩
      exact ⟨c, Or.inl ⟨teic, hin⟩, rfl⟩
    · rintro ⟨c, hc, rfl⟩
      obtain ⟨teic, hlast, hin⟩ := htogether c hc
      exact ⟨teic, c, hlast, hin, rfl⟩

-- ── Messages ─────────────────────────────────────────────────────────────────

/-- What is extracted is the IMSI of the message; only the lack of one fails. -/
theorem fGtpcExtractImsi_cases (gtp : PduGtpc) :
    fGtpcExtractImsi gtp = .ok gtp.gtpcPdu.imsi
      ∨ (∃ e, fGtpcExtractImsi gtp = .error e) ∧ gtp.gtpcPdu.imsi = none := by
  have hread : ∀ imsi : Option Imsi, (digits imsi).map some = .ok imsi
      ∨ (∃ e, (digits imsi).map some = .error e) ∧ imsi = none := by
    intro imsi
    cases imsi with
    | none => exact Or.inr ⟨⟨_, rfl⟩, rfl⟩
    | some d => exact Or.inl rfl
  rw [fGtpcExtractImsi]
  cases gtp.gtpcPdu with
  | createPDPContextRequest imsi => exact hread imsi
  | pduNotificationRequest imsi => exact hread imsi
  | sendRouteingInformationForGPRSRequest imsi => exact hread imsi
  | sendRouteingInformationForGPRSResponse imsi => exact hread imsi
  | failureReportRequest imsi => exact hread imsi
  | noteMSGPRSPresentRequest imsi => exact hread imsi
  | uERegistrationQueryRequest imsi => exact hread imsi
  | uERegistrationQueryResponse imsi => exact hread imsi
  | mBMSNotificationRequest imsi => exact hread imsi
  | _ => exact Or.inl rfl

/-- **THE DISPATCH OF A MESSAGE** in a state that records the registrations. -/
theorem onGtpc_right (h : Records s r) (defaultConnected : Bool) :
    DispatchRight r ud defaultConnected (onGtpc s ud defaultConnected)
      ↔ HoldsWhen r ud defaultConnected := by
  rw [DispatchRight, HoldsWhen, onGtpc]
  rcases fGtpcExtractImsi_cases ud.gtpc with hok | ⟨⟨e, herr⟩, hnone⟩
  · rw [hok]
    dsimp only [Except.bind]
    cases himsi : ud.gtpc.gtpcPdu.imsi with
    | some imsi =>
        refine iff_of_true (fun c hc => ?_) ⟨Or.inl rfl, fun heq => nomatch heq⟩
        dsimp only
        rw [fCompByImsi, compBy_holder h.imsis hc]
        rfl
    | none =>
        dsimp only
        by_cases hteid : ud.gtpc.teid ≠ 0
        · rw [if_pos hteid, if_pos hteid]
          refine iff_of_true (fun c hc => ?_) ⟨Or.inl rfl, fun _ h0 => absurd h0 hteid⟩
          rw [fCompByTeic, compBy_holder h.teics hc]
          rfl
        · rw [if_neg hteid, if_neg hteid]
          cases defaultConnected with
          | true => exact iff_of_true rfl ⟨Or.inl rfl, fun _ _ heq => nomatch heq⟩
          | false =>
              have hloop := sendToAll_right h ud
              rw [if_neg Bool.false_ne_true, if_neg Bool.false_ne_true, hloop]
              constructor
              · exact fun htogether => ⟨Or.inl rfl, fun _ _ _ => htogether⟩
              · exact fun hand => hand.2 rfl (not_not.mp hteid) rfl
  · rw [herr, hnone]
    dsimp only [Except.bind]
    have hread : ¬ ((Except.error e : Except Fault (Option Imsi)).isOk = true) := nofun
    by_cases hteid : ud.gtpc.teid ≠ 0
    · rw [if_pos hteid]
      constructor
      · intro hall
        refine ⟨Or.inr ⟨hteid, ?_⟩, fun _ h0 => absurd h0 hteid⟩
        cases hc : holder r.teics ud.gtpc.teid with
        | none => rfl
        | some c => exact nomatch hall c hc
      · rintro ⟨hbad | ⟨-, hc⟩, -⟩ c hc'
        · exact absurd hbad hread
        · rw [hc] at hc'
          exact nomatch hc'
    · rw [if_neg hteid]
      refine iff_of_false ?_ ?_
      · cases defaultConnected with
        | true => exact nofun
        | false => exact fun ⟨os, hos, _⟩ => nomatch hos
      · rintro ⟨hbad | ⟨hne, -⟩, -⟩
        · exact hread hbad
        · exact hteid hne

end Runs

/-- **GTP DISPATCH**: after every run, and for every message, the dispatch is
    right iff the condition holds. -/
theorem gtp_dispatch {Comp : Type} (is : List (Input Comp)) (s : State Comp)
    (oss : List (List (Output Comp))) (hrun : run mainStep init is = .ok (s, oss))
    (ud : Gtp1cUnitdata) (defaultConnected : Bool) :
    DispatchRight (registered is) ud defaultConnected
        ((mainStep s (.gtpc ud defaultConnected)).map (fun r => r.2))
      ↔ HoldsWhen (registered is) ud defaultConnected := by
  have hout : (mainStep s (.gtpc ud defaultConnected)).map (fun r => r.2)
      = onGtpc s ud defaultConnected := by
    rw [mainStep]
    cases onGtpc s ud defaultConnected with
    | error e => rfl
    | ok os => rfl
  rw [hout]
  exact onGtpc_right (records_run hrun) defaultConnected

/-- A message of the peer. -/
def fromPeer (teid : UInt32) (pdu : GtpcPdu) : Gtp1cUnitdata where
  peer := ⟨1, "10.0.0.1", 2123⟩
  gtpc := ⟨teid, pdu, []⟩

/-- Components 1 and 2 register a TEID each, component 2 an IMSI as well. -/
def twoClients : List (Input Nat) :=
  [.registerTeic 10 1, .registerTeic 20 2, .registerImsi [2, 6, 2] 2]

/-- Two clients, one message by IMSI and one by TEIC. -/
theorem gtp_dispatch_twoClients : ∃ s oss, run mainStep init twoClients = .ok (s, oss)
    ∧ (DispatchRight (registered twoClients) (fromPeer 10 (.createPDPContextRequest
          (some [2, 6, 2]))) false
        ((mainStep s (.gtpc (fromPeer 10 (.createPDPContextRequest (some [2, 6, 2])))
          false)).map (fun r => r.2))
      ↔ HoldsWhen (registered twoClients) (fromPeer 10 (.createPDPContextRequest
          (some [2, 6, 2]))) false) :=
  ⟨_, _, rfl, gtp_dispatch twoClients _ _ rfl _ false⟩

/-- An echo request goes to component 2 only; a request for TEID 10 that lacks
    the IMSI goes to nobody. -/
theorem echo_notToAll : ∃ s oss, run mainStep init twoClients = .ok (s, oss)
    ∧ (¬ DispatchRight (registered twoClients) (fromPeer 0 (.other [1])) false
        ((mainStep s (.gtpc (fromPeer 0 (.other [1])) false)).map (fun r => r.2)))
    ∧ ¬ DispatchRight (registered twoClients) (fromPeer 10 (.createPDPContextRequest none))
        false ((mainStep s (.gtpc (fromPeer 10 (.createPDPContextRequest none))
          false)).map (fun r => r.2)) := by
  refine ⟨_, _, rfl, ?_, ?_⟩
  · rintro ⟨os, hos, hmem⟩
    have hone : Output.toClient 1 (fromPeer 0 (.other [1])) ∈ os :=
      (hmem _).mpr ⟨1, Or.inl ⟨10, List.mem_cons_self⟩, rfl⟩
    rw [← Except.ok.inj hos] at hone
    exact absurd hone (by decide)
  · intro hright
    exact nomatch hright 1 rfl

end OsmoGtpv1
