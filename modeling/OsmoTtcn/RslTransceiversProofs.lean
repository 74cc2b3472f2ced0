import OsmoTtcn.RslEmulationProofs
import OsmoTtcn.SpecRunProofs

/-! # The transceivers of the RSL emulation

    A transceiver that identifies itself gets its connection into the map, and
    the end of a connection takes it out again.  The emulation sends to a
    transceiver through the map, and to whom it sends comes from the connection
    table.

    Nothing keeps a connection from identifying itself twice, and the end of a
    connection that is not in the map ends the test.  `trx_map` proves the map
    right in every run in which neither happens and what is looked up is there. -/

namespace OsmoRsl

open OsmoTitan SlotTable RunGuard SpecRun

-- ── Connections ──────────────────────────────────────────────────────────────

/-- What is in the port, the connection of each transceiver, and the clients. -/
structure Links (n : Nat) (Comp ChanNr Body : Type) where
  port : List (IpaPdu ChanNr Body)
  conn : Fin 4 → Option Int
  table : ConnectionTable n Comp ChanNr

/-- Nothing is connected. -/
def Links.init {n : Nat} {Comp ChanNr Body : Type} : Links n Comp ChanNr Body where
  port := []
  conn := fun _ => none
  table := fun _ => ConnectionData.clear

/-- The connection leaves the map. -/
def freed (conn : Fin 4 → Option Int) (connId : Int) : Fin 4 → Option Int :=
  fun trx => if conn trx = some connId then none else conn trx

section Spec

variable {n : Nat} {Comp ChanNr Body : Type}

/-- The event on the port, if it is one. -/
def IpaPdu.connEvent : IpaPdu ChanNr Body → Option AspIpaEvent
  | .event evt => some evt
  | .ud _ => none

/-- The event that `main` looks at in a round. -/
def Links.event (g : Links n Comp ChanNr Body) : Event Comp ChanNr Body → Option AspIpaEvent
  | .rxIpa => g.port.head?.bind IpaPdu.connEvent
  | _ => none

/-- An identity response names a transceiver: by the unit-id that is first in
    it. -/
def NamesTrx (idResp : Option (List IpaCcmRespPart)) (trx : Fin 4) : Prop :=
  ∃ parts part unitId, idResp = some parts
    ∧ parts.find? (fun part => decide (part.tag = .unitid)) = some part
    ∧ part.unitId = some unitId ∧ unitId.trxId = trx.val

/-- What a round leaves in the port.  Only what is no event of a connection may
    stay in front, and an identity response in the BTS role. -/
def PortAfter (port : List (IpaPdu ChanNr Body)) :
    Event Comp ChanNr Body → List (IpaPdu ChanNr Body) → Prop
  | .arrive pdu, port' => port' = port ++ [pdu]
  | .rxIpa, port' => port' = port.tail ∨ (port' = port
      ∧ ∀ evt, port.head?.bind IpaPdu.connEvent = some evt → evt.evType = .idResp)
  | _, port' => port' = port

/-- What a round of the clients does to the table. -/
def TableAfter (t : ConnectionTable n Comp ChanNr) :
    Event Comp ChanNr Body → ConnectionTable n Comp ChanNr → Prop
  | .register trxNr chanNr hdlr, t' => ∃ cid entry, t' = Function.update t cid entry
      ∧ entry.compRef = some hdlr ∧ entry.trxNr = some trxNr ∧ entry.chanNr = some chanNr
  | .unregister trxNr chanNr _, t' => ∃ cid, (t cid).chanNr = some chanNr
      ∧ (t cid).trxNr = some trxNr ∧ t' = Function.update t cid ConnectionData.clear
  | .clientChanRqd client ra _, t' => ∃ cid entry, t' = Function.update t cid entry
      ∧ entry.compRef = some client ∧ entry.ra = some ra
  | .rxIpa, _ => True
  | _, t' => t' = t

/-- What a round may do to the map. -/
inductive TrxAllowed (btsRole : Bool) (g : Links n Comp ChanNr Body) (i : Event Comp ChanNr Body)
    (g' : Links n Comp ChanNr Body) (os : List (Output Comp ChanNr Body)) : Prop
  /-- A connection ends: its entry is freed, and no other. -/
  | down {evt : AspIpaEvent} {trx : Fin 4} {sid : IpaStreamId} (hevt : g.event i = some evt)
      (hdown : evt.evType = .down) (htrx : g.conn trx = some evt.connId)
      (hconn : g'.conn = freed g.conn evt.connId) (hport : g'.port = g.port.tail)
      (htable : g'.table = g.table) (hsid : fTrxByStreamId sid = trx.val)
      (hos : os = [.cchanEv false sid])
  /-- A connection identifies itself as a transceiver. -/
  | idResp {evt : AspIpaEvent} {trx : Fin 4} {sid : IpaStreamId} (hevt : g.event i = some evt)
      (hresp : evt.evType = .idResp) (hrole : btsRole = false)
      (htrx : NamesTrx evt.idResp trx) (hfree : g.conn trx = none)
      (hconn : g'.conn = Function.update g.conn trx (some evt.connId))
      (hport : g'.port = g.port.tail) (htable : g'.table = g.table)
      (hsid : fTrxByStreamId sid = trx.val) (hos : os = [.cchanEv true sid])
  | other (hdown : ∀ evt, g.event i = some evt → evt.evType ≠ .down)
      (hresp : ∀ evt, g.event i = some evt → evt.evType = .idResp → btsRole = true)
      (hconn : g'.conn = g.conn) (hport : PortAfter g.port i g'.port)
      (htable : TableAfter g.table i g'.table)

/-- Messages from below for which `main` looks into its tables. -/
def LooksUp (btsRole : Bool) : RslKind ChanNr → Prop
  | .immAssign _ => btsRole = true
  | .chanRqd _ _ => btsRole = false
  | .chanActiv | .dchan | .unknown => True
  | .pagingCmd | .cchan | .trxMgmt => False

/-- The transceiver of a stream is not connected. -/
def NotConnected (conn : Fin 4 → Option Int) (sid : IpaStreamId) : Prop :=
  ∀ trx : Fin 4, trx.val = fTrxByStreamId sid → conn trx = none

/-- The inputs that may end a run: an identity response that names no free
    transceiver, a message for a transceiver that is not connected, and what
    the tables have no entry or no room for.  The end of a connection is none
    of them. -/
def StopsAt (btsRole : Bool) (g : Links n Comp ChanNr Body) : Event Comp ChanNr Body → Prop
  | .rxIpa =>
      match g.port.head? with
      | none => False
      | some (.event evt) => evt.evType = .idResp
          ∧ (btsRole = false → ∀ trx, NamesTrx evt.idResp trx → g.conn trx ≠ none)
      | some (.ud rxRsl) => LooksUp btsRole rxRsl.rsl.kind
  | .clientMsg client _ => ∃ cid, (g.table cid).compRef = some client
      ∧ ∀ sid, (g.table cid).streamId = some sid → btsRole = false ∧ NotConnected g.conn sid
  | .unitdata ud => btsRole = false ∧ NotConnected g.conn ud.streamId
  | .clientChanRqd _ _ _ | .register _ _ _ | .getLastAct _ _ _ => True
  | .waitQueue enable _ => enable = false
  | .arrive _ | .unregister _ _ _ | .suspend _ _ | .setAutoChanActAck _ _ => False

/-- A run may end with such an input, but not with an index that was not
    found. -/
def TrxStops (btsRole : Bool) (g : Links n Comp ChanNr Body) (i : Event Comp ChanNr Body)
    (e : Fault) : Prop :=
  e ≠ .badIndex ∧ StopsAt btsRole g i

/-- The connection of an entry, none for the mark of a free one. -/
def connOf (connId : Int) : Option Int :=
  if connId = -1 then none else some connId

/-- What is connected in a state. -/
def linksOf (s : State n Comp ChanNr Body) : Links n Comp ChanNr Body where
  port := s.ipaPt
  conn := fun trx => connOf (s.trxConnMap trx)
  table := s.connectionTable

/-- Towards a base station, channels are those of transceivers. -/
def OnTrx (btsRole : Bool) (t : ConnectionTable n Comp ChanNr) : Prop :=
  btsRole = false → ∀ cid sid, (t cid).streamId = some sid → fTrxByStreamId sid < 4

/-- The map is right. -/
structure MapRight (btsRole : Bool) (s : State n Comp ChanNr Body)
    (conn : Fin 4 → Option Int) : Prop where
  entries : conn = fun trx => connOf (s.trxConnMap trx)
  num : s.trxConnNum = count conn Option.isSome
  /-- No connection is under two numbers. -/
  once : KeyUnique id conn
  onTrx : OnTrx btsRole s.connectionTable

/-- The table and the map hold what is connected. -/
structure TrxRight (btsRole : Bool) (s : State n Comp ChanNr Body)
    (g : Links n Comp ChanNr Body) : Prop where
  port : g.port = s.ipaPt
  table : g.table = s.connectionTable
  map : MapRight btsRole s g.conn

/-- An event that `main` treats right: a connection ends that is in the map, or
    one identifies itself that is not. -/
def EventRight (btsRole : Bool) (conn : Fin 4 → Option Int) (evt : AspIpaEvent) : Prop :=
  (evt.evType = .down → ∃ trx, conn trx = some evt.connId)
    ∧ (evt.evType = .idResp → btsRole = false →
      ∀ trx, NamesTrx evt.idResp trx → conn trx = none →
        evt.connId ≠ -1 ∧ ∀ trx', conn trx' ≠ some evt.connId)

/-- When a round is right. -/
def TrxHoldsWhen (btsRole : Bool) (g : Links n Comp ChanNr Body) :
    Event Comp ChanNr Body → Prop
  | .rxIpa => ∀ evt, g.port.head?.bind IpaPdu.connEvent = some evt →
      EventRight btsRole g.conn evt
  | .clientMsg client _ => ∃ cid, (g.table cid).compRef = some client
  | .unitdata ud => btsRole = true ∨ fTrxByStreamId ud.streamId < 4
  | .unregister trxNr chanNr _ => ∃ cid, (g.table cid).chanNr = some chanNr
      ∧ (g.table cid).trxNr = some trxNr
  | _ => True

end Spec

-- ── Rounds that leave the map ────────────────────────────────────────────────

section Settles

variable {α β : Type}

/-- A result that does not end the run with an index that was not found. -/
def Settles (Q : α → Prop) : Except Fault α → Prop
  | .error e => e ≠ .badIndex
  | .ok a => Q a

/-- What follows a settled result is settled. -/
theorem Settles.bind {x : Except Fault α} {f : α → Except Fault β} {Q : α → Prop}
    {Q' : β → Prop} (h : Settles Q x) (hf : ∀ a, Q a → Settles Q' (f a)) :
    Settles Q' (x >>= f) := by
  cases x with
  | error e => exact h
  | ok a => exact hf a h

theorem Settles.map {x : Except Fault α} {f : α → β} {Q : α → Prop} {Q' : β → Prop}
    (h : Settles Q x) (hf : ∀ a, Q a → Q' (f a)) : Settles Q' (x.map f) := by
  cases x with
  | error e => exact h
  | ok a => exact hf a h

theorem Settles.imp {x : Except Fault α} {Q Q' : α → Prop} (h : Settles Q x)
    (hQ : ∀ a, Q a → Q' a) : Settles Q' x := by
  cases x with
  | error e => exact h
  | ok a => exact hQ a h

end Settles

section Rounds

variable {n : Nat} {Comp ChanNr Body : Type}
variable {btsRole : Bool} {s s' : State n Comp ChanNr Body} {g : Links n Comp ChanNr Body}

/-- What a round that is not about transceivers keeps. -/
structure Keeps (btsRole : Bool) (s s' : State n Comp ChanNr Body) : Prop where
  port : s'.ipaPt = s.ipaPt
  map : s'.trxConnMap = s.trxConnMap
  num : s'.trxConnNum = s.trxConnNum
  onTrx : OnTrx btsRole s.connectionTable → OnTrx btsRole s'.connectionTable

theorem Keeps.of_table (hport : s'.ipaPt = s.ipaPt) (hmap : s'.trxConnMap = s.trxConnMap)
    (hnum : s'.trxConnNum = s.trxConnNum)
    (htable : s'.connectionTable = s.connectionTable) : Keeps btsRole s s' :=
  ⟨hport, hmap, hnum, fun h => htable ▸ h⟩

/-- Nothing changes. -/
theorem Keeps.refl : Keeps btsRole s s := .of_table rfl rfl rfl rfl

/-- A slot of the table changes. -/
theorem onTrx_update {t : ConnectionTable n Comp ChanNr} (h : OnTrx btsRole t) (cid : Fin n)
    {entry : ConnectionData Comp ChanNr}
    (hentry : btsRole = false → ∀ sid, entry.streamId = some sid → fTrxByStreamId sid < 4) :
    OnTrx btsRole (Function.update t cid entry) := by
  intro hrole i sid hi
  by_cases hic : i = cid
  · rw [hic, Function.update_self] at hi
    exact hentry hrole sid hi
  · rw [Function.update_of_ne hic] at hi
    exact h hrole i sid hi

theorem onTrx_clear {t : ConnectionTable n Comp ChanNr} (h : OnTrx btsRole t) (cid : Fin n) :
    OnTrx btsRole (fCidClear t cid) :=
  onTrx_update h cid (fun _ _ hnone => nomatch hnone)

theorem chanNrOf_settles (rsl : RslMessage ChanNr Body) :
    Settles (fun _ => True) (chanNrOf rsl) := by
  rw [chanNrOf]
  cases rsl.chanNr with
  | none => exact nofun
  | some chanNr => exact trivial

theorem sendToClient_settles (t : ConnectionTable n Comp ChanNr) (cid : Fin n)
    (rxRsl : AspRslUnitdata (RslMessage ChanNr Body)) :
    Settles (fun _ => True) (sendToClient t cid rxRsl) := by
  rw [sendToClient]
  cases (t cid).compRef with
  | none => exact nofun
  | some client => exact trivial

/-- A round that is not about transceivers. -/
abbrev Leaves (btsRole : Bool) (s : State n Comp ChanNr Body)
    (r : Except Fault (Next n Comp ChanNr Body)) : Prop :=
  Settles (fun q => Keeps btsRole s q.1) r

/-- A round that only reports, or fails. -/
theorem leaves_map {α : Type} {x : Except Fault α} {f : α → Next n Comp ChanNr Body}
    (hx : Settles (fun _ => True) x) (hf : ∀ a, Keeps btsRole s (f a).1) :
    Leaves btsRole s (x.map f) :=
  hx.map (fun a _ => hf a)

theorem immAssRejLoop_settles (rxRsl : AspRslUnitdata (RslMessage ChanNr Body)) :
    ∀ (ras : List UInt8) (t : ConnectionTable n Comp ChanNr),
      Settles (fun r => OnTrx btsRole t → OnTrx btsRole r.1) (immAssRejLoop rxRsl t ras) := by
  intro ras
  induction ras with
  | nil => exact fun t h => h
  | cons ra ras ih =>
      intro t
      rw [immAssRejLoop]
      cases fCidByRaFn t ra 23 with
      | none => exact ih t
      | some cid =>
          refine (sendToClient_settles t cid rxRsl).bind (fun out _ => ?_)
          exact (ih (fCidClear t cid)).bind (fun r hr h => hr (onTrx_clear h cid))

/-- **IMMEDIATE ASSIGNMENTS** are for the BTS role, where channels may be those
    of any stream. -/
theorem rxImmAssign_leaves (rxRsl : AspRslUnitdata (RslMessage ChanNr Body))
    (rr : Option (GsmRrPayload ChanNr)) : Leaves true s (rxImmAssign s rxRsl rr) := by
  cases rr with
  | none => exact nofun
  | some rr =>
      cases rr with
      | other => exact Keeps.refl
      | immAss ra chanNr =>
          rw [rxImmAssign]
          cases fCidByRaFn s.connectionTable ra 23 with
          | none => exact nofun
          | some cid =>
              refine leaves_map (sendToClient_settles s.connectionTable cid rxRsl) (fun _ => ?_)
              exact ⟨rfl, rfl, rfl, fun _ hrole => nomatch hrole⟩
      | immAssRej ras =>
          exact (immAssRejLoop_settles rxRsl ras s.connectionTable).map
            (fun r hr => ⟨rfl, rfl, rfl, hr⟩)

theorem rxChanRqd_leaves (rxRsl : AspRslUnitdata (RslMessage ChanNr Body)) (ra : UInt8)
    (frameNr : RslIeFrameNumber) : Leaves btsRole s (rxChanRqd s rxRsl ra frameNr) := by
  rw [rxChanRqd]
  cases fCidByRaFn2 s.connectionTable ra frameNr with
  | none => exact Keeps.refl
  | some cid =>
      refine leaves_map (sendToClient_settles s.connectionTable cid rxRsl) (fun _ => ?_)
      exact ⟨rfl, rfl, rfl, fun h => onTrx_clear h cid⟩

theorem streamIdByTrx_settles (trxNr : Nat) :
    Settles (fun sid => fTrxByStreamId sid < 4) (fStreamIdByTrx trxNr) := by
  rw [fStreamIdByTrx.eq_def]
  split
  · exact (by decide : fTrxByStreamId .rslTrx0 < 4)
  · exact (by decide : fTrxByStreamId .rslTrx1 < 4)
  · exact (by decide : fTrxByStreamId .rslTrx2 < 4)
  · exact (by decide : fTrxByStreamId .rslTrx3 < 4)
  · exact nofun

/-- A new entry for a request. -/
theorem fCidCreate_settles {t : ConnectionTable n Comp ChanNr} (ra : UInt8) (fn : Option Nat)
    (compRef : Comp) :
    Settles (fun t' => OnTrx btsRole t → OnTrx btsRole t') (fCidCreate t ra fn compRef) := by
  rw [fCidCreate]
  cases find t ConnectionData.free with
  | none => exact nofun
  | some i => exact fun h => onTrx_update h i (fun hrole sid hsid => h hrole i sid hsid)

/-- A new entry for a channel, which is one of a transceiver. -/
theorem fCidCreateCnr_settles {t : ConnectionTable n Comp ChanNr} (trxNr : Nat)
    (chanNr : ChanNr) (compRef : Comp) :
    Settles (fun t' => OnTrx btsRole t → OnTrx btsRole t')
      (fCidCreateCnr t trxNr chanNr compRef) := by
  rw [fCidCreateCnr]
  cases find t ConnectionData.free with
  | none => exact nofun
  | some i =>
      refine (streamIdByTrx_settles trxNr).map (fun sid hsid h => onTrx_update h i ?_)
      intro _ sid' hsid'
      rw [← Option.some.inj hsid']
      exact hsid

theorem rxClientChanRqd_leaves (client : Comp) (ra : UInt8) (fn : Option Nat) :
    Leaves btsRole s (rxClientChanRqd s btsRole client ra fn) := by
  have hcreate : Settles (fun t' => OnTrx btsRole s.connectionTable → OnTrx btsRole t')
      (fCidCreate s.connectionTable ra fn client) := fCidCreate_settles ra fn client
  refine hcreate.bind (fun t' ht' => ?_)
  cases btsRole with
  | false => exact ⟨rfl, rfl, rfl, ht'⟩
  | true =>
      cases fn with
      | some fn => exact ⟨rfl, rfl, rfl, ht'⟩
      | none => exact nofun

/-- A message to the transceiver of a stream. -/
theorem txIpa_leaves (streamId : IpaStreamId) (rsl : RslMessage ChanNr Body)
    (h : btsRole = true ∨ fTrxByStreamId streamId < 4) :
    Leaves btsRole s (txIpa s btsRole streamId rsl) := by
  rw [txIpa]
  by_cases hrole : btsRole = true
  · rw [if_pos hrole]
    exact Keeps.refl
  · rw [if_neg hrole]
    refine leaves_map ?_ (fun _ => Keeps.refl)
    rw [fTrxConnMapResolve, dif_pos (h.resolve_left hrole)]
    split
    · exact nofun
    · exact trivial

/-- A component that is in the table is found. -/
theorem indexed_settles {t : ConnectionTable n Comp ChanNr} {p : ConnectionData Comp ChanNr → Bool}
    (h : ∃ cid, p (t cid) = true) : Settles (fun _ => True) (indexed (find t p)) := by
  cases hf : find t p with
  | some cid => exact trivial
  | none =>
      obtain ⟨cid, hcid⟩ := h
      rw [find_eq_none.mp hf cid] at hcid
      exact nomatch hcid

end Rounds

section Searches

variable {n : Nat} {Comp ChanNr Body : Type} [DecidableEq ChanNr]
variable {btsRole : Bool} {s : State n Comp ChanNr Body}

theorem fCidOf_settles (t : ConnectionTable n Comp ChanNr)
    (rxRsl : AspRslUnitdata (RslMessage ChanNr Body)) :
    Settles (fun _ => True) (fCidOf t rxRsl) :=
  (chanNrOf_settles rxRsl.rsl).map (fun _ _ => trivial)

/-- Handing on what was parked fails in no other way. -/
theorem dispatch_settles (t : ConnectionTable n Comp ChanNr) :
    ∀ queue : List (AspRslUnitdata (RslMessage ChanNr Body)),
      Settles (fun _ => True) (fWaitingQueueDispatch t queue) := by
  intro queue
  induction queue with
  | nil => exact trivial
  | cons rxRsl queue ih =>
      rw [fWaitingQueueDispatch, List.mapM_cons]
      refine Settles.bind (Q := fun _ => True) ?_ (fun out _ => ih.bind (fun _ _ => trivial))
      refine (fCidOf_settles t rxRsl).bind (fun cid _ => ?_)
      cases cid with
      | none => exact nofun
      | some cid => exact sendToClient_settles t cid rxRsl

theorem rxChanActiv_leaves (rxRsl : AspRslUnitdata (RslMessage ChanNr Body)) :
    Leaves btsRole s (rxChanActiv s rxRsl) := by
  refine (chanNrOf_settles rxRsl.rsl).bind (fun chanNr _ => ?_)
  refine Settles.bind (Q := fun _ => True) ?_ (fun _ _ => Keeps.of_table rfl rfl rfl rfl)
  rw [fStoreLastActData]
  split
  · exact trivial
  · exact nofun

theorem rxDchan_leaves (rxRsl : AspRslUnitdata (RslMessage ChanNr Body)) :
    Leaves btsRole s (rxDchan s rxRsl) := by
  refine (fCidOf_settles s.connectionTable rxRsl).bind (fun cid _ => ?_)
  cases cid with
  | some cid =>
      exact (sendToClient_settles s.connectionTable cid rxRsl).bind (fun _ _ => Keeps.refl)
  | none =>
      dsimp only
      by_cases henabled : s.waitQueueEnabled = true
      · rw [if_pos henabled]
        exact Keeps.of_table rfl rfl rfl rfl
      · rw [if_neg henabled]
        exact nofun

/-- **A MESSAGE FROM BELOW** leaves the map. -/
theorem rxRslUd_leaves (rxRsl : AspRslUnitdata (RslMessage ChanNr Body))
    {r : Except Fault (Next n Comp ChanNr Body)} (h : rxRslUd s rxRsl btsRole = some r) :
    Leaves btsRole s r := by
  have hquiet : ∀ {os : List (Output Comp ChanNr Body)}, some (.ok (s, os)) = some r →
      Leaves btsRole s r := by
    rintro os ⟨⟩
    exact Keeps.refl
  have hsuspended : ∀ {x : Except Fault (Next n Comp ChanNr Body)}, Leaves btsRole s x →
      (if s.dchanSuspended = true then none else some x) = some r → Leaves btsRole s r := by
    intro x hx hr
    split at hr
    · exact nomatch hr
    · rw [← Option.some.inj hr]
      exact hx
  unfold rxRslUd at h
  cases hkind : rxRsl.rsl.kind <;> rw [hkind] at h <;> cases btsRole <;> dsimp only at h
  case immAssign.true rr => exact Option.some.inj h ▸ rxImmAssign_leaves rxRsl rr
  case chanRqd.false ra frameNr => exact Option.some.inj h ▸ rxChanRqd_leaves rxRsl ra frameNr
  case chanActiv.true => exact Option.some.inj h ▸ rxChanActiv_leaves rxRsl
  case chanActiv.false => exact hsuspended (rxDchan_leaves rxRsl) h
  case dchan.false => exact hsuspended (rxDchan_leaves rxRsl) h
  case dchan.true => exact hsuspended (rxDchan_leaves rxRsl) h
  case unknown.false =>
    exact hsuspended (x := .error (.shutdown "Received unknown primitive from IPA")) nofun h
  case unknown.true =>
    exact hsuspended (x := .error (.shutdown "Received unknown primitive from IPA")) nofun h
  all_goals exact hquiet h

/-- Only a message for which `main` looks into its tables may end the run. -/
theorem rxRslUd_error {rxRsl : AspRslUnitdata (RslMessage ChanNr Body)} {e : Fault}
    (h : rxRslUd s rxRsl btsRole = some (.error e)) : LooksUp btsRole rxRsl.rsl.kind := by
  unfold rxRslUd at h
  cases hkind : rxRsl.rsl.kind <;> rw [hkind] at h <;> cases btsRole
  case immAssign.true => exact rfl
  case chanRqd.false => exact rfl
  case chanActiv.true => exact trivial
  case chanActiv.false => exact trivial
  case dchan.false => exact trivial
  case dchan.true => exact trivial
  case unknown.false => exact trivial
  case unknown.true => exact trivial
  all_goals exact nomatch h

variable [DecidableEq Comp]

omit [DecidableEq ChanNr] in
theorem rxClientMsg_leaves (hright : OnTrx btsRole s.connectionTable) (client : Comp)
    (rsl : RslMessage ChanNr Body) (h : ∃ cid, (s.connectionTable cid).compRef = some client) :
    Leaves btsRole s (rxClientMsg s btsRole client rsl) := by
  obtain ⟨cid, hcid⟩ := h
  refine (indexed_settles ⟨cid, decide_eq_true hcid⟩).bind (fun cid _ => ?_)
  cases hsid : (s.connectionTable cid).streamId with
  | none => exact nofun
  | some sid =>
      refine txIpa_leaves sid rsl ?_
      cases btsRole with
      | true => exact Or.inl rfl
      | false => exact Or.inr (hright rfl cid sid hsid)

variable {g : Links n Comp ChanNr Body}

/-- **ROUNDS WITHOUT A MESSAGE FROM BELOW** leave the map. -/
theorem mainStep_leaves (h : TrxRight btsRole s g) {i : Event Comp ChanNr Body}
    (hrx : i ≠ .rxIpa) (harrive : ∀ pdu, i ≠ .arrive pdu) (hwhen : TrxHoldsWhen btsRole g i) :
    Leaves btsRole s (mainStep btsRole s i) := by
  cases i with
  | arrive pdu => exact absurd rfl (harrive pdu)
  | rxIpa => exact absurd rfl hrx
  | clientChanRqd client ra fn => exact rxClientChanRqd_leaves client ra fn
  | clientMsg client rsl =>
      refine rxClientMsg_leaves h.map.onTrx client rsl ?_
      rw [← h.table]
      exact hwhen
  | unitdata ud => exact txIpa_leaves ud.streamId ud.rsl hwhen
  | register trxNr chanNr hdlr =>
      exact (fCidCreateCnr_settles trxNr chanNr hdlr).map (fun _ ht' => ⟨rfl, rfl, rfl, ht'⟩)
  | unregister trxNr chanNr hdlr =>
      obtain ⟨cid, hcid⟩ := hwhen
      rw [h.table] at hcid
      refine (indexed_settles ⟨cid, decide_eq_true hcid⟩).map (fun cid _ => ?_)
      exact ⟨rfl, rfl, rfl, fun h => onTrx_clear h cid⟩
  | suspend suspend client => exact Keeps.of_table rfl rfl rfl rfl
  | waitQueue enable client =>
      rw [mainStep.eq_def]
      cases enable <;> cases s.waitQueueEnabled <;> dsimp only
      case false.true =>
        exact leaves_map (dispatch_settles s.connectionTable s.waitingQueue)
          (fun _ => Keeps.of_table rfl rfl rfl rfl)
      all_goals exact Keeps.of_table rfl rfl rfl rfl
  | getLastAct trxNr chanNr client =>
      refine leaves_map ?_ (fun _ => Keeps.refl)
      rw [fLookupLastAct]
      cases find s.lastActTable _ with
      | none => exact nofun
      | some i =>
          dsimp only
          cases (s.lastActTable i).chanAct with
          | none => exact nofun
          | some chanAct => exact trivial
  | setAutoChanActAck enable client => exact Keeps.of_table rfl rfl rfl rfl

omit [DecidableEq ChanNr] [DecidableEq Comp] in
/-- A message fails where its transceiver is not connected. -/
theorem txIpa_error (h : TrxRight btsRole s g) {sid : IpaStreamId} {rsl : RslMessage ChanNr Body}
    {e : Fault} (hon : btsRole = true ∨ fTrxByStreamId sid < 4)
    (herr : txIpa s btsRole sid rsl = .error e) : btsRole = false ∧ NotConnected g.conn sid := by
  rw [txIpa] at herr
  by_cases hrole : btsRole = true
  · rw [if_pos hrole] at herr
    exact nomatch herr
  · have hlt : fTrxByStreamId sid < 4 := hon.resolve_left hrole
    rw [if_neg hrole, fTrxConnMapResolve, dif_pos hlt] at herr
    refine ⟨Bool.eq_false_iff.mpr hrole, fun trx htrx => ?_⟩
    obtain rfl : trx = ⟨fTrxByStreamId sid, hlt⟩ := Fin.ext htrx
    split at herr
    · rename_i hfree
      rw [h.map.entries]
      exact if_pos hfree
    · exact nomatch herr

omit [DecidableEq ChanNr] [DecidableEq Comp] in
/-- An index is missing only where nothing was found. -/
theorem indexed_error {cid : Option (Fin n)} {e : Fault} (h : indexed cid = .error e) :
    cid = none := by
  cases cid with
  | none => rfl
  | some cid => exact nomatch h

/-- **ROUNDS THAT MAY FAIL** are those with an input that may end the run. -/
theorem mainStep_stops (h : TrxRight btsRole s g) {i : Event Comp ChanNr Body} {e : Fault}
    (hrx : i ≠ .rxIpa) (hwhen : TrxHoldsWhen btsRole g i)
    (herr : mainStep btsRole s i = .error e) : StopsAt btsRole g i := by
  cases i with
  | arrive pdu => exact nomatch herr
  | rxIpa => exact absurd rfl hrx
  | clientChanRqd client ra fn => exact trivial
  | clientMsg client rsl =>
      obtain ⟨cid₀, hcid₀⟩ := hwhen
      rw [h.table] at hcid₀
      rw [StopsAt, h.table]
      cases hf : fCidByCompRef s.connectionTable client with
      | none =>
          have hno : decide ((s.connectionTable cid₀).compRef = some client) = false :=
            find_eq_none.mp hf cid₀
          exact absurd hcid₀ (of_decide_eq_false hno)
      | some cid =>
          have htest : decide ((s.connectionTable cid).compRef = some client) = true :=
            find_accepts hf
          refine ⟨cid, of_decide_eq_true htest, fun sid hsid => ?_⟩
          have hmsg : rxClientMsg s btsRole client rsl = txIpa s btsRole sid rsl := by
            rw [rxClientMsg, hf, indexed]
            simp only [ok_bind, hsid]
          refine txIpa_error h ?_ (hmsg.symm.trans herr)
          cases btsRole with
          | true => exact Or.inl rfl
          | false => exact Or.inr (h.map.onTrx rfl cid sid hsid)
  | unitdata ud => exact txIpa_error h hwhen herr
  | register trxNr chanNr hdlr => exact trivial
  | unregister trxNr chanNr hdlr =>
      obtain ⟨cid, hcid⟩ := hwhen
      rw [h.table] at hcid
      have hnone := find_eq_none.mp (indexed_error (map_error herr)) cid
      exact absurd hcid (of_decide_eq_false hnone)
  | suspend suspend client => exact nomatch herr
  | waitQueue enable client =>
      cases enable with
      | false => exact rfl
      | true =>
          rw [mainStep.eq_def] at herr
          cases hq : s.waitQueueEnabled <;> simp only [hq] at herr <;> exact nomatch herr
  | getLastAct trxNr chanNr client => exact trivial
  | setAutoChanActAck enable client => exact nomatch herr

omit [DecidableEq ChanNr] [DecidableEq Comp] in
theorem txIpa_state {s' : State n Comp ChanNr Body} {os : List (Output Comp ChanNr Body)}
    {sid : IpaStreamId} {rsl : RslMessage ChanNr Body}
    (h : txIpa s btsRole sid rsl = .ok (s', os)) : s' = s := by
  rw [txIpa] at h
  split at h
  · exact (Prod.mk.inj (Except.ok.inj h)).1.symm
  · obtain ⟨connId, -, heq⟩ := map_ok h
    exact (Prod.mk.inj heq).1.symm

/-- **WHAT THE CLIENTS DO TO THE TABLE.** -/
theorem tableAfter_of_ok {s' : State n Comp ChanNr Body} {i : Event Comp ChanNr Body}
    {os : List (Output Comp ChanNr Body)} (h : mainStep btsRole s i = .ok (s', os)) :
    TableAfter s.connectionTable i s'.connectionTable := by
  cases i with
  | arrive pdu =>
      rw [← (Prod.mk.inj (Except.ok.inj h)).1]
      rfl
  | rxIpa => exact trivial
  | clientChanRqd client ra fn =>
      obtain ⟨table, htable, h⟩ := bind_ok h
      have hs' : s'.connectionTable = table := by
        split at h
        · exact congrArg State.connectionTable (Prod.mk.inj (Except.ok.inj h)).1.symm
        · exact congrArg State.connectionTable (Prod.mk.inj (Except.ok.inj h)).1.symm
        · exact nomatch h
      rw [hs']
      rw [fCidCreate] at htable
      split at htable
      · rename_i cid hcid
        exact ⟨cid, _, (Except.ok.inj htable).symm, rfl, rfl⟩
      · exact nomatch htable
  | clientMsg client rsl =>
      obtain ⟨cid, -, h⟩ := bind_ok h
      split at h
      · rw [txIpa_state h]
        rfl
      · exact nomatch h
  | unitdata ud =>
      rw [txIpa_state h]
      rfl
  | register trxNr chanNr hdlr =>
      obtain ⟨table, htable, heq⟩ := map_ok h
      rw [← (Prod.mk.inj heq).1]
      rw [fCidCreateCnr] at htable
      split at htable
      · rename_i cid hcid
        obtain ⟨sid, -, hsid⟩ := map_ok htable
        exact ⟨cid, _, hsid.symm, rfl, rfl, rfl⟩
      · exact nomatch htable
  | unregister trxNr chanNr hdlr =>
      obtain ⟨cid, hcid, heq⟩ := map_ok h
      rw [← (Prod.mk.inj heq).1]
      cases hf : fCidByChanNr s.connectionTable trxNr chanNr with
      | none =>
          rw [hf] at hcid
          exact nomatch hcid
      | some cid' =>
          rw [hf] at hcid
          obtain rfl : cid' = cid := Except.ok.inj hcid
          have htest : decide ((s.connectionTable cid').chanNr = some chanNr
              ∧ (s.connectionTable cid').trxNr = some trxNr) = true := find_accepts hf
          obtain ⟨hchan, htrx⟩ := of_decide_eq_true htest
          exact ⟨cid', hchan, htrx, rfl⟩
  | suspend suspend client =>
      rw [← (Prod.mk.inj (Except.ok.inj h)).1]
      rfl
  | waitQueue enable client =>
      rw [mainStep.eq_def] at h
      cases enable <;> cases hq : s.waitQueueEnabled <;> simp only [hq] at h
      case false.true =>
        obtain ⟨outs, -, heq⟩ := map_ok h
        rw [← (Prod.mk.inj heq).1]
        rfl
      all_goals
        rw [← (Prod.mk.inj (Except.ok.inj h)).1]
        rfl
  | getLastAct trxNr chanNr client =>
      obtain ⟨chanAct, -, heq⟩ := map_ok h
      rw [← (Prod.mk.inj heq).1]
      rfl
  | setAutoChanActAck enable client =>
      rw [← (Prod.mk.inj (Except.ok.inj h)).1]
      rfl

end Searches

-- ── Events of connections ────────────────────────────────────────────────────

/-- Where no connection is under two numbers, one entry is freed. -/
theorem freed_eq {conn : Fin 4 → Option Int} (honce : KeyUnique id conn) {trx : Fin 4}
    {connId : Int} (htrx : conn trx = some connId) :
    freed conn connId = Function.update conn trx none := by
  funext j
  rw [freed]
  by_cases hj : j = trx
  · rw [hj, htrx, if_pos rfl, Function.update_self]
  · rw [Function.update_of_ne hj]
    exact if_neg (fun h => hj (honce j trx connId h htrx))

/-- A connection is in the map if it is not the mark of a free entry. -/
theorem connOf_eq_some {c connId : Int} : connOf c = some connId ↔ c = connId ∧ c ≠ -1 := by
  rw [connOf]
  by_cases hc : c = -1
  · rw [if_pos hc]
    exact ⟨fun h => (nomatch h), fun h => absurd hc h.2⟩
  · rw [if_neg hc]
    exact ⟨fun h => ⟨Option.some.inj h, hc⟩, fun h => congrArg some h.1⟩

theorem connOf_eq_none {c : Int} : connOf c = none ↔ c = -1 := by
  rw [connOf]
  split
  · exact iff_of_true rfl ‹_›
  · exact iff_of_false nofun ‹_›

/-- Each of the four transceivers has its stream. -/
theorem streamIdByTrx_ok :
    ∀ trx : Fin 4, ∃ sid, fStreamIdByTrx trx.val = .ok sid ∧ fTrxByStreamId sid = trx.val
  | 0 => ⟨.rslTrx0, rfl, rfl⟩
  | 1 => ⟨.rslTrx1, rfl, rfl⟩
  | 2 => ⟨.rslTrx2, rfl, rfl⟩
  | 3 => ⟨.rslTrx3, rfl, rfl⟩

/-- The transceiver that an identity response names is the one it is taken for. -/
theorem namesTrx_iff {idResp : Option (List IpaCcmRespPart)} {trx : Fin 4} :
    NamesTrx idResp trx ↔ fTrxIdOf idResp = .ok trx.val := by
  constructor
  · rintro ⟨parts, part, unitId, rfl, hpart, hunit, htrx⟩
    rw [← htrx]
    simp only [fTrxIdOf, fIpaIdRespFindIe, hpart, hunit]
  · intro h
    rw [fTrxIdOf.eq_def] at h
    split at h
    · exact nomatch h
    · rename_i parts
      split at h
      · exact nomatch h
      · rename_i part hpart
        split at h
        · exact nomatch h
        · rename_i unitId hunit
          exact ⟨parts, part, unitId, rfl, hpart, hunit, Except.ok.inj h⟩

section Events

variable {n : Nat} {Comp ChanNr Body : Type}
variable {btsRole : Bool} {s s' : State n Comp ChanNr Body} {g : Links n Comp ChanNr Body}

theorem MapRight.conn_apply (h : MapRight btsRole s g.conn) (trx : Fin 4) :
    g.conn trx = connOf (s.trxConnMap trx) :=
  congrFun h.entries trx

/-- A round that stops where it may, or is allowed. -/
abbrev TrxRound (btsRole : Bool) (g : Links n Comp ChanNr Body) (i : Event Comp ChanNr Body)
    (r : Except Fault (Next n Comp ChanNr Body)) : Prop :=
  (∃ e, r = .error e ∧ TrxStops btsRole g i e)
    ∨ ∃ s' os g', r = .ok (s', os) ∧ TrxAllowed btsRole g i g' os ∧ TrxRight btsRole s' g'

/-- A round that is allowed, and leaves the table. -/
theorem round_ok (h : MapRight btsRole s g.conn) {i : Event Comp ChanNr Body}
    {os : List (Output Comp ChanNr Body)} (htable : s'.connectionTable = s.connectionTable)
    (hallowed : TrxAllowed btsRole g i (linksOf s') os)
    (hnum : s'.trxConnNum = count (linksOf s').conn Option.isSome)
    (honce : KeyUnique id (linksOf s').conn) : TrxRound btsRole g i (.ok (s', os)) :=
  Or.inr ⟨s', os, linksOf s', rfl, hallowed, rfl, rfl, rfl, hnum, honce, htable ▸ h.onTrx⟩

/-- **A ROUND THAT LEAVES THE MAP** is allowed for all but two events. -/
theorem round_of_leaves (h : MapRight btsRole s g.conn) {i : Event Comp ChanNr Body}
    {r : Except Fault (Next n Comp ChanNr Body)} (hleaves : Leaves btsRole s r)
    (hstops : ∀ e, r = .error e → StopsAt btsRole g i)
    (hdown : ∀ evt, g.event i = some evt → evt.evType ≠ .down)
    (hresp : ∀ evt, g.event i = some evt → evt.evType = .idResp → btsRole = true)
    (hport : ∀ s' os, r = .ok (s', os) → PortAfter g.port i s'.ipaPt)
    (htable : ∀ s' os, r = .ok (s', os) → TableAfter g.table i s'.connectionTable) :
    TrxRound btsRole g i r := by
  cases r with
  | error e => exact Or.inl ⟨e, rfl, hleaves, hstops e rfl⟩
  | ok q =>
      obtain ⟨s', os⟩ := q
      have hkeeps : Keeps btsRole s s' := hleaves
      have hconn : (linksOf s').conn = g.conn := by
        funext trx
        show connOf (s'.trxConnMap trx) = g.conn trx
        rw [hkeeps.map, h.conn_apply]
      refine Or.inr ⟨s', os, linksOf s', rfl,
        .other hdown hresp hconn (hport s' os rfl) (htable s' os rfl), rfl, rfl, rfl, ?_, ?_, ?_⟩
      · rw [hkeeps.num, hconn]
        exact h.num
      · rw [hconn]
        exact h.once
      · exact hkeeps.onTrx h.onTrx

/-- Only for a free transceiver is a connection registered, and nothing is
    indexed out of the map. -/
theorem fTrxConnMapRegister_settles (connId : Int) (idResp : Option (List IpaCcmRespPart)) :
    Settles (fun _ => ∃ trx : Fin 4, fTrxIdOf idResp = .ok trx.val ∧ s.trxConnMap trx = -1)
      (fTrxConnMapRegister s connId idResp) := by
  rw [fTrxConnMapRegister]
  split
  · exact nofun
  · cases htrx : fTrxIdOf idResp with
    | error e =>
        rw [fTrxIdOf.eq_def] at htrx
        split at htrx
        · exact Except.error.inj htrx ▸ nofun
        · split at htrx
          · exact Except.error.inj htrx ▸ nofun
          · split at htrx
            · exact Except.error.inj htrx ▸ nofun
            · exact nomatch htrx
    | ok trxId =>
        dsimp only
        split
        · rename_i hlt
          split
          · exact nofun
          · rename_i hfree
            obtain ⟨sid, hsid, -⟩ := streamIdByTrx_ok ⟨trxId, hlt⟩
            rw [hsid]
            exact ⟨⟨trxId, hlt⟩, rfl, not_not.mp hfree⟩
        · exact nofun

/-- **A CONNECTION IDENTIFIES ITSELF** as a free transceiver, and is registered. -/
theorem register_right (h : TrxRight btsRole s g) {rest : List (IpaPdu ChanNr Body)}
    (hport : g.port.tail = rest) {i : Event Comp ChanNr Body}
    {evt : AspIpaEvent} (hevt : g.event i = some evt) (htype : evt.evType = .idResp)
    (hrole : btsRole = false) {trx : Fin 4} (hnames : NamesTrx evt.idResp trx)
    (hnone : g.conn trx = none)
    (hwhen : evt.connId ≠ -1 ∧ ∀ trx', g.conn trx' ≠ some evt.connId) :
    TrxRound btsRole g i ((fTrxConnMapRegister { s with ipaPt := rest } evt.connId evt.idResp).map
      (fun r => (r.1, [.cchanEv true r.2]))) := by
  obtain ⟨hne, hnew⟩ := hwhen
  have hfull : ¬ s.trxConnNum ≥ 4 := by
    have hlt : count g.conn Option.isSome < 4 := count_lt (i := trx) (by rw [hnone]; rfl)
    have hnum := h.map.num
    omega
  have hfree : s.trxConnMap trx = -1 := by
    rw [h.map.conn_apply] at hnone
    exact connOf_eq_none.mp hnone
  obtain ⟨sid, hsid, htrxSid⟩ := streamIdByTrx_ok trx
  have hregister : fTrxConnMapRegister { s with ipaPt := rest } evt.connId evt.idResp
      = .ok ({ s with
          ipaPt := rest
          trxConnMap := Function.update s.trxConnMap trx evt.connId
          trxConnNum := s.trxConnNum + 1 }, sid) := by
    rw [fTrxConnMapRegister, if_neg hfull, namesTrx_iff.mp hnames]
    dsimp only
    rw [dif_pos trx.isLt, if_neg (not_not.mpr hfree), hsid]
    rfl
  rw [hregister]
  have hconn : (fun j => connOf (Function.update s.trxConnMap trx evt.connId j))
      = Function.update g.conn trx (some evt.connId) := by
    funext j
    by_cases hj : j = trx
    · rw [hj, Function.update_self, Function.update_self]
      exact connOf_eq_some.mpr ⟨rfl, hne⟩
    · rw [Function.update_of_ne hj, Function.update_of_ne hj, h.map.conn_apply]
  refine round_ok h.map rfl
    (.idResp hevt htype hrole hnames hnone hconn hport.symm h.table.symm htrxSid rfl) ?_ ?_
  · show s.trxConnNum + 1 = count (fun j => connOf _) _
    rw [hconn, count_update_new (by rw [hnone]; rfl) rfl, h.map.num]
    omega
  · show KeyUnique id (fun j => connOf _)
    rw [hconn]
    refine h.map.once.update (fun k hk j _ hj => hnew j ?_)
    rw [Option.some.inj hk]
    exact hj

/-- **A CONNECTION ENDS**, and its entry is freed. -/
theorem unregister_right (h : TrxRight btsRole s g) {rest : List (IpaPdu ChanNr Body)}
    (hport : g.port.tail = rest) {i : Event Comp ChanNr Body}
    {evt : AspIpaEvent} (hevt : g.event i = some evt) (htype : evt.evType = .down)
    (hmapped : ∃ trx, g.conn trx = some evt.connId) :
    TrxRound btsRole g i ((fTrxConnMapUnregister { s with ipaPt := rest } evt.connId).map
      (fun r => (r.1, [.cchanEv false r.2]))) := by
  rw [fTrxConnMapUnregister]
  obtain ⟨trx₀, htrx₀⟩ := hmapped
  rw [h.map.conn_apply] at htrx₀
  obtain ⟨hmap₀, hne₀⟩ := connOf_eq_some.mp htrx₀
  cases hfind : find s.trxConnMap (fun c => decide (evt.connId = c)) with
  | none => exact absurd hmap₀.symm (of_decide_eq_false (find_eq_none.mp hfind trx₀))
  | some trx =>
      have htrx : evt.connId = s.trxConnMap trx :=
        of_decide_eq_true (find_accepts (p := fun c => decide (evt.connId = c)) hfind)
      have hsome : g.conn trx = some evt.connId := by
        rw [h.map.conn_apply]
        exact connOf_eq_some.mpr ⟨htrx.symm, by rwa [← htrx, ← hmap₀]⟩
      obtain ⟨sid, hsid, htrxSid⟩ := streamIdByTrx_ok trx
      dsimp only
      rw [hsid]
      have hconn : (fun j => connOf (Function.update s.trxConnMap trx (-1) j))
          = Function.update g.conn trx none := by
        funext j
        by_cases hj : j = trx
        · rw [hj, Function.update_self, Function.update_self]
          exact connOf_eq_none.mpr rfl
        · rw [Function.update_of_ne hj, Function.update_of_ne hj, h.map.conn_apply]
      have hfreed := hconn.trans (freed_eq h.map.once hsome).symm
      refine round_ok h.map rfl
        (.down hevt htype hsome hfreed hport.symm h.table.symm htrxSid rfl) ?_ ?_
      · show s.trxConnNum - 1 = count (fun j => connOf _) _
        have hgone : count g.conn Option.isSome
            = count (Function.update g.conn trx none) Option.isSome + 1 :=
          count_update_gone (by rw [hsome]; rfl) rfl
        rw [hconn, h.map.num, hgone]
        omega
      · show KeyUnique id (fun j => connOf _)
        rw [hconn]
        exact h.map.once.update_none rfl

/-- **AN EVENT** that `main` treats right. -/
theorem rxEvent_right (h : TrxRight btsRole s g) {rest : List (IpaPdu ChanNr Body)}
    {evt : AspIpaEvent} (hport : g.port = .event evt :: rest)
    (hwhen : EventRight btsRole g.conn evt)
    {r : Except Fault (Next n Comp ChanNr Body)}
    (hr : rxEvent { s with ipaPt := rest } evt btsRole = some r) :
    TrxRound btsRole g (.rxIpa : Event Comp ChanNr Body) r := by
  have hevt : g.event (.rxIpa : Event Comp ChanNr Body) = some evt := by
    rw [Links.event, hport]
    rfl
  have htail : g.port.tail = rest := by
    rw [hport]
    rfl
  have hmap : MapRight btsRole { s with ipaPt := rest } g.conn :=
    ⟨h.map.entries, h.map.num, h.map.once, h.map.onTrx⟩
  have hquiet : Leaves btsRole { s with ipaPt := rest } r →
      (∀ e, r = .error e → StopsAt btsRole g (.rxIpa : Event Comp ChanNr Body)) →
      evt.evType ≠ .down → (evt.evType = .idResp → btsRole = true) →
      TrxRound btsRole g (.rxIpa : Event Comp ChanNr Body) r := by
    intro hleaves hstops hdown hresp
    refine round_of_leaves hmap hleaves hstops ?_ ?_ ?_ (fun _ _ _ => trivial)
    · intro evt' hevt'
      rw [← Option.some.inj (hevt.symm.trans hevt')]
      exact hdown
    · intro evt' hevt'
      rw [← Option.some.inj (hevt.symm.trans hevt')]
      exact hresp
    · rintro s' os rfl
      have hkeeps : Keeps btsRole { s with ipaPt := rest } s' := hleaves
      exact Or.inl (hkeeps.port.trans htail.symm)
  unfold rxEvent at hr
  cases htype : evt.evType with
  | up =>
      rw [htype] at hr hquiet
      obtain rfl := Option.some.inj hr
      exact hquiet Keeps.refl nofun nofun nofun
  | idAck =>
      rw [htype] at hr hquiet
      cases btsRole with
      | true =>
          obtain rfl := Option.some.inj hr
          exact hquiet Keeps.refl nofun nofun nofun
      | false =>
          obtain rfl := Option.some.inj hr
          exact hquiet Keeps.refl nofun nofun nofun
  | down =>
      rw [htype] at hr
      exact Option.some.inj hr ▸ unregister_right h htail hevt htype (hwhen.1 htype)
  | idResp =>
      cases btsRole with
      | false =>
          rw [htype] at hr
          obtain rfl := Option.some.inj hr
          by_cases hfree : ∃ trx, NamesTrx evt.idResp trx ∧ g.conn trx = none
          · obtain ⟨trx, hnames, hnone⟩ := hfree
            exact register_right h htail hevt htype rfl hnames hnone
              (hwhen.2 htype rfl trx hnames hnone)
          · -- nothing is registered where no free transceiver is named
            have hstops : StopsAt false g (.rxIpa : Event Comp ChanNr Body) := by
              rw [StopsAt, hport]
              exact ⟨htype, fun _ trx hnames hnone => hfree ⟨trx, hnames, hnone⟩⟩
            have hsettles := fTrxConnMapRegister_settles (s := { s with ipaPt := rest })
              evt.connId evt.idResp
            cases hres : fTrxConnMapRegister { s with ipaPt := rest } evt.connId evt.idResp with
            | error e =>
                rw [hres] at hsettles
                exact Or.inl ⟨e, rfl, hsettles, hstops⟩
            | ok q =>
                rw [hres] at hsettles
                obtain ⟨trx, htrx, hmapFree⟩ := hsettles
                refine absurd ⟨trx, namesTrx_iff.mpr htrx, ?_⟩ hfree
                rw [h.map.conn_apply]
                exact connOf_eq_none.mpr hmapFree
      | true =>
          rw [htype] at hr hquiet
          dsimp only at hr
          split at hr
          · exact nomatch hr
          · rw [← Option.some.inj hr] at hquiet ⊢
            refine hquiet nofun (fun _ _ => ?_) nofun (fun _ => rfl)
            rw [StopsAt, hport]
            exact ⟨htype, fun hrole => nomatch hrole⟩

/-- Only an identity response in the BTS role may stay in the port. -/
theorem rxEvent_none {evt : AspIpaEvent} (h : rxEvent s evt btsRole = none) :
    evt.evType = .idResp ∧ btsRole = true := by
  unfold rxEvent at h
  cases htype : evt.evType <;> rw [htype] at h <;> cases btsRole
  case idResp.true => exact ⟨rfl, rfl⟩
  all_goals exact nomatch h

variable [DecidableEq Comp] [DecidableEq ChanNr]

omit [DecidableEq Comp] in
/-- **THE MESSAGE IN FRONT.** -/
theorem rxIpa_right (h : TrxRight btsRole s g) (hwhen : TrxHoldsWhen btsRole g .rxIpa) :
    TrxRound btsRole g .rxIpa (rxIpa s btsRole) := by
  rw [rxIpa]
  cases hpt : s.ipaPt with
  | nil =>
      have hport : g.port = [] := h.port.trans hpt
      have hnone : ∀ evt, g.event (.rxIpa : Event Comp ChanNr Body) ≠ some evt := by
        intro evt
        rw [Links.event, hport]
        exact nofun
      refine round_of_leaves h.map Keeps.refl nofun (fun evt hevt => absurd hevt (hnone evt))
        (fun evt hevt => absurd hevt (hnone evt)) ?_ (fun _ _ _ => trivial)
      intro s' os hok
      refine Or.inl ?_
      rw [← (Prod.mk.inj (Except.ok.inj hok)).1, hport, hpt]
      rfl
  | cons pdu rest =>
      have hport : g.port = pdu :: rest := h.port.trans hpt
      have hmap : MapRight btsRole { s with ipaPt := rest } g.conn :=
        ⟨h.map.entries, h.map.num, h.map.once, h.map.onTrx⟩
      cases pdu with
      | ud rxRsl =>
          have hnone : ∀ evt, g.event (.rxIpa : Event Comp ChanNr Body) ≠ some evt := by
            intro evt
            rw [Links.event, hport]
            exact nofun
          dsimp only
          cases htaken : rxRslUd { s with ipaPt := rest } rxRsl btsRole with
          | none =>
              refine round_of_leaves h.map Keeps.refl nofun
                (fun evt hevt => absurd hevt (hnone evt))
                (fun evt hevt => absurd hevt (hnone evt)) ?_ (fun _ _ _ => trivial)
              intro s' os hok
              refine Or.inr ⟨?_, fun evt hevt => absurd hevt (hnone evt)⟩
              rw [← (Prod.mk.inj (Except.ok.inj hok)).1, h.port]
          | some r =>
              have hleaves : Leaves btsRole { s with ipaPt := rest } r :=
                rxRslUd_leaves rxRsl htaken
              refine round_of_leaves hmap hleaves ?_ (fun evt hevt => absurd hevt (hnone evt))
                (fun evt hevt => absurd hevt (hnone evt)) ?_ (fun _ _ _ => trivial)
              · rintro e rfl
                rw [StopsAt, hport]
                exact rxRslUd_error htaken
              · rintro s' os rfl
                have hkeeps : Keeps btsRole { s with ipaPt := rest } s' := hleaves
                refine Or.inl (hkeeps.port.trans ?_)
                rw [hport]
                rfl
      | event evt =>
          have hsome : g.port.head?.bind IpaPdu.connEvent = some evt := by
            rw [hport]
            rfl
          dsimp only
          cases htaken : rxEvent { s with ipaPt := rest } evt btsRole with
          | none =>
              obtain ⟨htype, hrole⟩ := rxEvent_none htaken
              refine round_of_leaves h.map Keeps.refl nofun (fun evt' hevt' hdown => ?_)
                (fun _ _ _ => hrole) ?_ (fun _ _ _ => trivial)
              · rw [← Option.some.inj (hsome.symm.trans hevt'), htype] at hdown
                exact nomatch hdown
              · intro s' os hok
                refine Or.inr ⟨?_, fun evt' hevt' => ?_⟩
                · rw [← (Prod.mk.inj (Except.ok.inj hok)).1, h.port]
                · rw [← Option.some.inj (hsome.symm.trans hevt')]
                  exact htype
          | some r => exact rxEvent_right h hport (hwhen evt hsome) htaken

/-- **ONE ROUND** where it is right. -/
theorem mainStep_right (h : TrxRight btsRole s g) (i : Event Comp ChanNr Body)
    (hwhen : TrxHoldsWhen btsRole g i) :
    StepFollowsUntil (mainStep btsRole) (TrxAllowed btsRole) (TrxStops btsRole) (TrxRight btsRole)
      s g i := by
  by_cases hrx : i = .rxIpa
  · subst hrx
    exact rxIpa_right h hwhen
  by_cases harrive : ∃ pdu, i = .arrive pdu
  · obtain ⟨pdu, rfl⟩ := harrive
    refine Or.inr ⟨_, _, linksOf { s with ipaPt := s.ipaPt ++ [pdu] }, rfl,
      .other nofun nofun h.map.entries.symm ?_ h.table.symm, rfl, rfl, ?_⟩
    · show s.ipaPt ++ [pdu] = g.port ++ [pdu]
      rw [h.port]
    · show MapRight btsRole _ (fun trx => connOf (s.trxConnMap trx))
      rw [← h.map.entries]
      exact ⟨h.map.entries, h.map.num, h.map.once, h.map.onTrx⟩
  have hnone : ∀ evt, g.event i ≠ some evt := by
    cases i with
    | rxIpa => exact absurd rfl hrx
    | _ => exact nofun
  have hleaves := mainStep_leaves h hrx (fun pdu hi => harrive ⟨pdu, hi⟩) hwhen
  refine round_of_leaves h.map hleaves (fun e => mainStep_stops h hrx hwhen)
    (fun evt hevt => absurd hevt (hnone evt)) (fun evt hevt => absurd hevt (hnone evt)) ?_ ?_
  · intro s' os hok
    rw [hok] at hleaves
    have hkeeps : Keeps btsRole s s' := hleaves
    have hsame : s'.ipaPt = g.port := hkeeps.port.trans h.port.symm
    cases i with
    | rxIpa => exact absurd rfl hrx
    | arrive pdu => exact absurd ⟨pdu, rfl⟩ harrive
    | _ => exact hsame
  · intro s' os hok
    rw [h.table]
    exact tableAfter_of_ok hok

end Events

-- ── Runs ─────────────────────────────────────────────────────────────────────

/-- At the start nothing is connected. -/
theorem trxRight_init {n : Nat} {Comp ChanNr Body : Type} (btsRole : Bool) :
    TrxRight btsRole (State.init : State n Comp ChanNr Body) Links.init where
  port := rfl
  table := rfl
  map :=
    { entries := rfl
      num := (by decide : (0 : Int) = count (fun _ : Fin 4 => (none : Option Int)) Option.isSome)
      once := fun _ _ _ hi => nomatch hi
      onTrx := fun _ _ _ hsid => nomatch hsid }

/-- **THE MAP OF THE TRANSCEIVERS** is right in every state of a run whose rounds
    are right: the number counts the entries, no connection is under two
    numbers, the end of a connection frees its entry and no other, a connection
    that names a free transceiver is registered, and nothing is indexed with
    what was not found. -/
theorem trx_map {n : Nat} {Comp ChanNr Body : Type} [DecidableEq Comp] [DecidableEq ChanNr]
    (btsRole : Bool) (is : List (Event Comp ChanNr Body)) :
    FollowsWithin (mainStep btsRole) (TrxAllowed btsRole) (TrxStops btsRole) (TrxRight btsRole)
      (TrxHoldsWhen btsRole) (State.init : State n Comp ChanNr Body) Links.init is :=
  followsWithin_of_step (fun _ _ i h hwhen => mainStep_right h i hwhen) is
    (trxRight_init btsRole)

section Examples

/-- The identity response of a transceiver. -/
def identity (connId : Int) (trxId : Nat) : Event Nat Nat Unit :=
  .arrive (.event
    { evType := .idResp, connId := connId
      idResp := some [⟨.unitid, some ⟨6969, 0, trxId⟩⟩] })

/-- A connection goes down. -/
def lost (connId : Int) : Event Nat Nat Unit :=
  .arrive (.event { evType := .down, connId := connId, idResp := none })

/-- A MEASUREMENT RESULT of a channel. -/
def measRes : RslMessage Nat Unit := ⟨.dchan, some 5, ()⟩

/-- Two transceivers, a client of one of them, and the end of the other. -/
def twoTransceivers : List (Event Nat Nat Unit) :=
  [identity 10 0, .rxIpa, identity 11 1, .rxIpa, .register 1 5 7, .clientMsg 7 measRes,
   .unitdata ⟨none, .rslTrx0, measRes⟩, lost 10, .rxIpa, identity 12 0, .rxIpa,
   .unregister 1 5 7]

example : (run (mainStep false) (State.init : State tableSize Nat Nat Unit)
    twoTransceivers).toOption.map (fun r => (r.1.trxConnNum, List.ofFn r.1.trxConnMap))
      = some (2, [12, 11, -1, -1]) := by
  decide +kernel

/-- The run is not as it should be. -/
abbrev Wrong (is : List (Event Nat Nat Unit)) : Prop :=
  ¬ FollowsWithin (mainStep false) (TrxAllowed false) (TrxStops false) (TrxRight false)
    (fun _ _ => True) (State.init : State tableSize Nat Nat Unit) Links.init is

/-- One connection under two numbers, the end of a connection that did not
    identify itself, and a message of a component without an entry. -/
theorem trx_map_twice_lost_unknown :
    Wrong [identity 10 0, .rxIpa, identity 10 1, .rxIpa] ∧ Wrong [lost 10, .rxIpa]
      ∧ Wrong [.clientMsg 7 measRes] := by
  refine ⟨fun h => ?_, fun h => ?_, fun h => ?_⟩
  · obtain ⟨g₁, -, h⟩ := ((followsWithin_cons_ok rfl).mp h).2 trivial
    obtain ⟨g₂, -, h⟩ := ((followsWithin_cons_ok rfl).mp h).2 trivial
    obtain ⟨g₃, -, h⟩ := ((followsWithin_cons_ok rfl).mp h).2 trivial
    obtain ⟨g₄, -, h⟩ := ((followsWithin_cons_ok rfl).mp h).2 trivial
    have hone : ∀ trx : Fin 4, trx < 2 → g₄.conn trx = some 10 := by
      intro trx htrx
      rw [h.map.entries]
      revert trx
      decide
    exact absurd (h.map.once 0 1 10 (hone 0 (by decide)) (hone 1 (by decide))) (by decide)
  · obtain ⟨g₁, hallowed, h⟩ := ((followsWithin_cons_ok rfl).mp h).2 trivial
    have hport : g₁.port = [.event ⟨.down, 10, none⟩] := h.1.port
    have hstops := (h.error rfl trivial).2
    rw [StopsAt, hport] at hstops
    exact nomatch hstops.1
  · exact (h.error rfl trivial).1 rfl

end Examples

end OsmoRsl
