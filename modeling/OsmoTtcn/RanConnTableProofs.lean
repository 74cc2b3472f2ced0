import OsmoTtcn.RunGuardProofs
import OsmoTtcn.SlotTableProofs
import OsmoTtcn.TitanProofs

/-! # Connection table of the RAN emulation

    A slot of `ConnectionTable` belongs to one SCCP connection and carries four
    identifiers of it: the connection id, the component, the CIC and the most
    recent MGCP transaction id.  Deleting a connection clears the first two.
    The other two stay in the slot, where a search still finds them and the
    next connection inherits them.

    `Resolves` says what the lookups are for, over a map of connections that
    has no slots; `lookups_resolve` proves it of every run in which no
    connection is deleted while it has a CIC or a transaction id, and no
    identifier is given to a second connection. -/

namespace OsmoRan

open OsmoTitan SlotTable

variable {Comp T : Type}

/-- `N_Sd_Array` -/
abbrev NSdArray : Type := Fin 4 → Fin 4

/-- A single BSSAP connection over SCCP. -/
structure ConnectionData (Comp T : Type) where
  /-- `none`: the null reference. -/
  compRef : Option Comp
  sccpConnId : Int
  /-- Most recent MGCP transaction ID (used on MSC side). -/
  mgcpTransId : Option T
  /-- CIC that has been used for voice of this channel (BSC side). -/
  cic : Option Int
  /-- N(SD) values for MO DTAP messages, indexed by discriminator. -/
  nSd : NSdArray

/-- `ConnectionTable` -/
abbrev ConnectionTable (Comp T : Type) : Type := Fin 16 → ConnectionData Comp T

/-- `f_conn_table_init` -/
def connTableInit : ConnectionTable Comp T := fun _ =>
  { compRef := none, sccpConnId := -1, mgcpTransId := none, cic := none
    nSd := fun _ => 0 }

-- ── Lookups ──────────────────────────────────────────────────────────────────

section Functions

variable [DecidableEq Comp] [DecidableEq T] (t : ConnectionTable Comp T)

/-- The entry of an SCCP connection. -/
def findConnId (sccpConnId : Int) : Option (Fin 16) :=
  find t (fun c => decide (c.sccpConnId = sccpConnId))

/-- The entry of a component. -/
def findComp (client : Comp) : Option (Fin 16) :=
  find t (fun c => decide (c.compRef = some client))

/-- The entry of a CIC. -/
def findCic (cic : Int) : Option (Fin 16) :=
  find t (fun c => decide (c.cic = some cic))

/-- The entry of an MGCP transaction. -/
def findMgcpTid (tid : T) : Option (Fin 16) :=
  find t (fun c => decide (c.mgcpTransId = some tid))

/-- `f_conn_id_known` -/
def fConnIdKnown (sccpConnId : Int) : Bool := (findConnId t sccpConnId).isSome

/-- `f_comp_known` -/
def fCompKnown (client : Comp) : Bool := (findComp t client).isSome

/-- `f_cic_known` -/
def fCicKnown (cic : Int) : Bool := (findCic t cic).isSome

/-- The slot that a search found, or the verdict fail. -/
def orFail (i : Option (Fin 16)) (msg : String) : Except Fault (Fin 16) :=
  match i with
  | some i => .ok i
  | none => .error (.shutdown msg)

/-- `f_comp_by_conn_id` -/
def fCompByConnId (sccpConnId : Int) : Except Fault (Option Comp) :=
  (orFail (findConnId t sccpConnId)
    "RAN Connection table not found by SCCP Connection ID ").map
    (fun i => (t i).compRef)

/-- `f_comp_by_mgcp_tid` -/
def fCompByMgcpTid (tid : T) : Except Fault (Option Comp) :=
  (orFail (findMgcpTid t tid)
    "RAN Connection table not found by MGCP Transaction ID ").map
    (fun i => (t i).compRef)

/-- `f_comp_by_cic` -/
def fCompByCic (cic : Int) : Except Fault (Option Comp) :=
  (orFail (findCic t cic) "RAN Connection table not found by CIC ").map
    (fun i => (t i).compRef)

/-- `f_idx_by_comp` -/
def fIdxByComp (client : Comp) : Except Fault (Fin 16) :=
  orFail (findComp t client) "RAN Connection table not found by component "

/-- `f_conn_id_by_comp` -/
def fConnIdByComp (client : Comp) : Except Fault Int :=
  (fIdxByComp t client).map (fun i => (t i).sccpConnId)

-- ── Updates ──────────────────────────────────────────────────────────────────

/-- `f_comp_store_mgcp_tid` -/
def fCompStoreMgcpTid (client : Comp) (tid : T) :
    Except Fault (ConnectionTable Comp T) :=
  (fIdxByComp t client).map
    (fun i => Function.update t i { t i with mgcpTransId := some tid })

/-- `f_comp_store_cic` -/
def fCompStoreCic (client : Comp) (cic : Int) :
    Except Fault (ConnectionTable Comp T) :=
  (fIdxByComp t client).map
    (fun i => Function.update t i { t i with cic := some cic })

/-- The new entry and its index, which is logged. -/
def fConnTableAdd (compRef : Comp) (sccpConnId : Int) :
    Except Fault (ConnectionTable Comp T × Fin 16) :=
  (orFail (findConnId t (-1)) "RAN Connection table full!").map
    (fun i => (Function.update t i { t i with
      compRef := some compRef
      sccpConnId := sccpConnId
      nSd := fun _ => 0 }, i))

/-- `f_conn_table_del`; the CIC and the transaction stay in the entry. -/
def fConnTableDel (sccpConnId : Int) : Except Fault (ConnectionTable Comp T) :=
  (orFail (findConnId t sccpConnId)
    "RAN Connection table attempt to delete non-existant ").map
    (fun i => Function.update t i { t i with sccpConnId := -1, compRef := none })

/-- The first of the numbers drawn that no connection has. -/
def fGenConnId : List Int → Except Fault Int
  | [] => .error .outOfFuel
  | connId :: draws =>
      if fConnIdKnown t connId then fGenConnId draws else .ok connId

end Functions

theorem orFail_ok {i : Option (Fin 16)} {msg : String} {j : Fin 16} :
    orFail i msg = .ok j ↔ i = some j := by
  cases i with
  | none => exact ⟨fun h => (nomatch h), fun h => (nomatch h)⟩
  | some i =>
      constructor
      · intro h
        rw [Except.ok.inj h]
      · intro h
        rw [Option.some.inj h]
        rfl

/-- A search that succeeds, and what is read from the slot it finds. -/
theorem orFail_map_ok {α : Type} {i : Option (Fin 16)} {msg : String}
    {f : Fin 16 → α} {r : α} :
    (orFail i msg).map f = .ok r ↔ ∃ j, i = some j ∧ f j = r := by
  cases i with
  | none =>
      constructor
      · intro h
        exact nomatch h
      · rintro ⟨j, hj, -⟩
        exact nomatch hj
  | some i =>
      constructor
      · intro h
        exact ⟨i, rfl, Except.ok.inj h⟩
      · rintro ⟨j, hj, hf⟩
        rw [Option.some.inj hj]
        exact congrArg Except.ok hf

theorem fIdxByComp_ok [DecidableEq Comp] {t : ConnectionTable Comp T}
    {client : Comp} {i : Fin 16} :
    fIdxByComp t client = .ok i ↔ findComp t client = some i :=
  orFail_ok

-- ── What the table is for ────────────────────────────────────────────────────

/-- A connection as its users know it. -/
structure Conn (Comp T : Type) where
  comp : Comp
  mgcpTransId : Option T
  cic : Option Int

/-- The live connections by their id. -/
abbrev Conns (Comp T : Type) : Type := Nat → Option (Conn Comp T)

/-- The operations on the table.  An SCCP connection id is a natural number;
    -1 marks a free slot. -/
inductive Op (Comp T : Type) where
  | add (comp : Comp) (id : Nat)
  | storeCic (comp : Comp) (cic : Int)
  | storeMgcpTid (comp : Comp) (tid : T)
  | del (id : Nat)

section Runs

variable [DecidableEq Comp] [DecidableEq T]

/-- One operation on the table. -/
def tableStep (t : ConnectionTable Comp T) :
    Op Comp T → Except Fault (ConnectionTable Comp T × Unit)
  | .add comp id => (fConnTableAdd t comp id).map (fun r => (r.1, ()))
  | .storeCic comp cic => (fCompStoreCic t comp cic).map (fun t' => (t', ()))
  | .storeMgcpTid comp tid =>
      (fCompStoreMgcpTid t comp tid).map (fun t' => (t', ()))
  | .del id => (fConnTableDel t id).map (fun t' => (t', ()))

/-- An identifier moves to the connection of the component it is given to. -/
def Conn.giveCic (comp : Comp) (cic : Int) (c : Conn Comp T) : Conn Comp T :=
  if c.comp = comp then { c with cic := some cic }
  else if c.cic = some cic then { c with cic := none }
  else c

/-- A transaction belongs to one connection, the one that had it last. -/
def Conn.giveMgcpTid (comp : Comp) (tid : T) (c : Conn Comp T) : Conn Comp T :=
  if c.comp = comp then { c with mgcpTransId := some tid }
  else if c.mgcpTransId = some tid then { c with mgcpTransId := none }
  else c

/-- What the operations mean: a connection starts without CIC and transaction
    id, and takes what it was given with it. -/
def connsStep (g : Conns Comp T) : Op Comp T → Conns Comp T × Unit
  | .add comp id =>
      (Function.update g id (some { comp := comp, mgcpTransId := none, cic := none }),
        ())
  | .storeCic comp cic => (fun id => (g id).map (Conn.giveCic comp cic), ())
  | .storeMgcpTid comp tid =>
      (fun id => (g id).map (Conn.giveMgcpTid comp tid), ())
  | .del id => (Function.update g id none, ())

/-- **NO STALE IDENTIFIER**: every lookup finds the live connection that has
    the identifier, and only that; known is what a live connection has, and a
    number drawn for a new connection is no live connection's. -/
structure Resolves (t : ConnectionTable Comp T) (g : Conns Comp T) : Prop where
  byConnId : ∀ (id : Nat) r, fCompByConnId t id = .ok r ↔
    ∃ c, g id = some c ∧ r = some c.comp
  byComp : ∀ comp r, fConnIdByComp t comp = .ok r ↔
    ∃ (id : Nat) (c : Conn Comp T), g id = some c ∧ c.comp = comp ∧ r = id
  byCic : ∀ cic r, fCompByCic t cic = .ok r ↔
    ∃ (id : Nat) (c : Conn Comp T),
      g id = some c ∧ c.cic = some cic ∧ r = some c.comp
  byMgcpTid : ∀ tid r, fCompByMgcpTid t tid = .ok r ↔
    ∃ (id : Nat) (c : Conn Comp T),
      g id = some c ∧ c.mgcpTransId = some tid ∧ r = some c.comp
  distinct : ∀ i j, (t i).sccpConnId ≠ -1 →
    (t i).sccpConnId = (t j).sccpConnId → i = j
  connIdKnown : ∀ id : Nat, fConnIdKnown t id = true ↔ ∃ c, g id = some c
  compKnown : ∀ comp, fCompKnown t comp = true ↔
    ∃ (id : Nat) (c : Conn Comp T), g id = some c ∧ c.comp = comp
  cicKnown : ∀ cic, fCicKnown t cic = true ↔
    ∃ (id : Nat) (c : Conn Comp T), g id = some c ∧ c.cic = some cic
  fresh : ∀ draws (id : Nat), fGenConnId t draws = .ok id → g id = none

/-- What an operation has to meet: a new connection has an id and a component
    of its own, an identifier is given to a component only that no other
    connection holds, and a connection is deleted only without any. -/
def TableGuard (t : ConnectionTable Comp T) : Op Comp T → Prop
  | .add comp id => ∀ i, (t i).sccpConnId ≠ id ∧ (t i).compRef ≠ some comp
  | .storeCic comp cic => ∀ i, (t i).compRef ≠ some comp → (t i).cic ≠ some cic
  | .storeMgcpTid comp tid =>
      ∀ i, (t i).compRef ≠ some comp → (t i).mgcpTransId ≠ some tid
  | .del id => ∀ i, (t i).sccpConnId = id →
      (t i).cic = none ∧ (t i).mgcpTransId = none

-- ── The invariant ────────────────────────────────────────────────────────────

/-- The connection id of a slot that is not free. -/
def ConnectionData.liveId (s : ConnectionData Comp T) : Option Int :=
  if s.sccpConnId = -1 then none else some s.sccpConnId

/-- A slot is free and holds nothing, or it holds a connection. -/
def SlotOk (g : Conns Comp T) (s : ConnectionData Comp T) : Prop :=
  (s.sccpConnId = -1 ∧ s.compRef = none ∧ s.cic = none ∧ s.mgcpTransId = none)
    ∨ ∃ (id : Nat) (c : Conn Comp T), s.sccpConnId = id ∧ g id = some c
      ∧ s.compRef = some c.comp ∧ s.cic = c.cic ∧ s.mgcpTransId = c.mgcpTransId

/-- The table holds the connections, one slot each, and no identifier twice. -/
structure TableInv (t : ConnectionTable Comp T) (g : Conns Comp T) : Prop where
  idUnique : KeyUnique ConnectionData.liveId t
  compUnique : KeyUnique ConnectionData.compRef t
  cicUnique : KeyUnique ConnectionData.cic t
  tidUnique : KeyUnique ConnectionData.mgcpTransId t
  slots : ∀ i, SlotOk g (t i)
  total : ∀ (id : Nat) c, g id = some c → ∃ i, (t i).sccpConnId = id

omit [DecidableEq Comp] [DecidableEq T] in
theorem ConnectionData.liveId_eq {s : ConnectionData Comp T} {id : Nat} :
    s.liveId = some (id : Int) ↔ s.sccpConnId = id := by
  rw [ConnectionData.liveId]
  by_cases h : s.sccpConnId = -1
  · rw [if_pos h]
    constructor
    · intro hn
      exact nomatch hn
    · intro hid
      rw [h] at hid
      omega
  · rw [if_neg h]
    exact ⟨fun hs => Option.some.inj hs, fun hs => congrArg some hs⟩

omit [DecidableEq Comp] [DecidableEq T] in
theorem TableInv.findConnId {t : ConnectionTable Comp T} {g : Conns Comp T}
    (h : TableInv t g) {id : Nat} {i : Fin 16} :
    findConnId t id = some i ↔ (t i).sccpConnId = id := by
  constructor
  · intro hf
    exact of_decide_eq_true (find_eq_some.mp hf).1
  · intro hid
    refine find_of_unique (decide_eq_true hid) (fun j hj => ?_)
    exact h.idUnique j i id
      (ConnectionData.liveId_eq.mpr (of_decide_eq_true hj))
      (ConnectionData.liveId_eq.mpr hid)

omit [DecidableEq Comp] [DecidableEq T] in
/-- A slot with an identifier holds a connection. -/
theorem SlotOk.live {g : Conns Comp T} {s : ConnectionData Comp T}
    (h : SlotOk g s) (hs : s.compRef ≠ none ∨ s.cic ≠ none
      ∨ s.mgcpTransId ≠ none ∨ s.sccpConnId ≠ -1) :
    ∃ (id : Nat) (c : Conn Comp T), s.sccpConnId = id ∧ g id = some c
      ∧ s.compRef = some c.comp ∧ s.cic = c.cic
      ∧ s.mgcpTransId = c.mgcpTransId := by
  rcases h with ⟨hid, hcomp, hcic, htid⟩ | hlive
  · rcases hs with h | h | h | h
    · exact absurd hcomp h
    · exact absurd hcic h
    · exact absurd htid h
    · exact absurd hid h
  · exact hlive

omit [DecidableEq Comp] [DecidableEq T] in
/-- The slot of a connection. -/
theorem TableInv.slot_of {t : ConnectionTable Comp T} {g : Conns Comp T}
    (h : TableInv t g) {id : Nat} {c : Conn Comp T} (hc : g id = some c) :
    ∃ i, (t i).sccpConnId = id ∧ (t i).compRef = some c.comp
      ∧ (t i).cic = c.cic ∧ (t i).mgcpTransId = c.mgcpTransId := by
  obtain ⟨i, hi⟩ := h.total id c hc
  have hne : (t i).sccpConnId ≠ -1 := by
    rw [hi]
    omega
  obtain ⟨id', c', hid, hg, hcomp, hcic, htid⟩ :=
    (h.slots i).live (Or.inr (Or.inr (Or.inr hne)))
  have hidEq : id' = id := by
    rw [hi] at hid
    exact (Int.ofNat.inj hid).symm
  rw [hidEq, hc] at hg
  rw [← Option.some.inj hg] at hcomp hcic htid
  exact ⟨i, hi, hcomp, hcic, htid⟩

omit [DecidableEq Comp] [DecidableEq T] in
/-- The search for a key that connections have finds the slot of the one
    connection that has it. -/
theorem TableInv.byKey {κ β : Type} [DecidableEq κ]
    {t : ConnectionTable Comp T} {g : Conns Comp T}
    {key : ConnectionData Comp T → Option κ} {val : Conn Comp T → Option κ}
    {out : ConnectionData Comp T → β} {res : Nat → Conn Comp T → β}
    (h : TableInv t g) (huniq : KeyUnique key t)
    (hlive : ∀ s : ConnectionData Comp T, key s ≠ none → s.compRef ≠ none
      ∨ s.cic ≠ none ∨ s.mgcpTransId ≠ none ∨ s.sccpConnId ≠ -1)
    (hslot : ∀ (s : ConnectionData Comp T) (id : Nat) c, s.sccpConnId = id →
      s.compRef = some c.comp → s.cic = c.cic →
      s.mgcpTransId = c.mgcpTransId → key s = val c ∧ out s = res id c)
    (k : κ) (r : β) :
    (∃ i, find t (fun s => decide (key s = some k)) = some i ∧ out (t i) = r)
      ↔ ∃ id c, g id = some c ∧ val c = some k ∧ r = res id c := by
  constructor
  · rintro ⟨i, hf, hr⟩
    have hkey := (find_key huniq).mp hf
    obtain ⟨id, c, hid, hg, hcomp, hcic, htid⟩ := (h.slots i).live
      (hlive (t i) (by rw [hkey]; exact Option.some_ne_none _))
    obtain ⟨hval, hout⟩ := hslot (t i) id c hid hcomp hcic htid
    exact ⟨id, c, hg, hval.symm.trans hkey, hr.symm.trans hout⟩
  · rintro ⟨id, c, hg, hval, hr⟩
    obtain ⟨i, hid, hcomp, hcic, htid⟩ := h.slot_of hg
    obtain ⟨hkey, hout⟩ := hslot (t i) id c hid hcomp hcic htid
    exact ⟨i, (find_key huniq).mpr (hkey.trans hval), hout.trans hr.symm⟩

omit [DecidableEq Comp] [DecidableEq T] in
/-- What is searched for is known exactly if a connection has it. -/
theorem TableInv.known {κ : Type} [DecidableEq κ] {t : ConnectionTable Comp T}
    {g : Conns Comp T} {key : ConnectionData Comp T → Option κ}
    {val : Conn Comp T → Option κ} (h : TableInv t g) (huniq : KeyUnique key t)
    (hlive : ∀ s : ConnectionData Comp T, key s ≠ none → s.compRef ≠ none
      ∨ s.cic ≠ none ∨ s.mgcpTransId ≠ none ∨ s.sccpConnId ≠ -1)
    (hslot : ∀ (s : ConnectionData Comp T) (id : Nat) c, s.sccpConnId = id →
      s.compRef = some c.comp → s.cic = c.cic →
      s.mgcpTransId = c.mgcpTransId → key s = val c) (k : κ) :
    (find t (fun s => decide (key s = some k))).isSome = true
      ↔ ∃ id c, g id = some c ∧ val c = some k := by
  have hkey := @TableInv.byKey Comp T κ Unit _ t g key val (fun _ => ()) (fun _ _ => ())
    h huniq hlive
    (fun s id c hid hcomp hcic htid => ⟨hslot s id c hid hcomp hcic htid, rfl⟩) k ()
  simpa [Option.isSome_iff_exists] using hkey

omit [DecidableEq Comp] [DecidableEq T] in
/-- A number drawn for a new connection is in no slot. -/
theorem fGenConnId_fresh {t : ConnectionTable Comp T} {id : Int} :
    ∀ {draws : List Int}, fGenConnId t draws = .ok id →
      ∀ i, (t i).sccpConnId ≠ id := by
  intro draws
  induction draws with
  | nil => intro h; exact nomatch h
  | cons d draws ih =>
      intro h i
      rw [fGenConnId] at h
      by_cases hk : fConnIdKnown t d = true
      · rw [if_pos hk] at h
        exact ih h i
      · rw [if_neg hk] at h
        rw [← Except.ok.inj h]
        rw [fConnIdKnown, Option.isSome_iff_ne_none, not_not] at hk
        exact of_decide_eq_false (find_eq_none.mp hk i)

omit [DecidableEq Comp] [DecidableEq T] in
/-- The connection of a slot. -/
theorem TableInv.conn_of {t : ConnectionTable Comp T} {g : Conns Comp T}
    (h : TableInv t g) {id : Nat} {i : Fin 16} (hid : (t i).sccpConnId = id) :
    ∃ c, g id = some c ∧ (t i).compRef = some c.comp := by
  have hne : (t i).sccpConnId ≠ -1 := by
    rw [hid]
    omega
  obtain ⟨id', c, hid', hg, hcomp, -, -⟩ :=
    (h.slots i).live (Or.inr (Or.inr (Or.inr hne)))
  rw [hid] at hid'
  rw [← Int.ofNat.inj hid'] at hg
  exact ⟨c, hg, hcomp⟩

/-- **THE INVARIANT GIVES THE LOOKUPS.** -/
theorem TableInv.resolves {t : ConnectionTable Comp T} {g : Conns Comp T}
    (h : TableInv t g) : Resolves t g where
  byConnId := by
    intro id r
    rw [fCompByConnId, orFail_map_ok]
    constructor
    · rintro ⟨i, hf, hr⟩
      obtain ⟨c, hg, hcomp⟩ := h.conn_of (h.findConnId.mp hf)
      exact ⟨c, hg, hr.symm.trans hcomp⟩
    · rintro ⟨c, hg, hr⟩
      obtain ⟨i, hid, hcomp, -, -⟩ := h.slot_of hg
      exact ⟨i, h.findConnId.mpr hid, hcomp.trans hr.symm⟩
  byComp := by
    intro comp r
    rw [fConnIdByComp, fIdxByComp, orFail_map_ok]
    refine (h.byKey h.compUnique (fun _ hs => Or.inl hs)
      (fun _ _ _ hid hcomp _ _ => ⟨hcomp, hid⟩) comp r).trans ?_
    simp only [Option.some.injEq]
  byCic := by
    intro cic r
    rw [fCompByCic, orFail_map_ok]
    exact h.byKey h.cicUnique (fun _ hs => Or.inr (Or.inl hs))
      (fun _ _ _ _ hcomp hcic _ => ⟨hcic, hcomp⟩) cic r
  byMgcpTid := by
    intro tid r
    rw [fCompByMgcpTid, orFail_map_ok]
    exact h.byKey h.tidUnique (fun _ hs => Or.inr (Or.inr (Or.inl hs)))
      (fun _ _ _ _ hcomp _ htid => ⟨htid, hcomp⟩) tid r
  distinct := by
    intro i j hi hij
    have hj : (t j).sccpConnId ≠ -1 := by
      rw [← hij]
      exact hi
    refine h.idUnique i j (t i).sccpConnId (if_neg hi) ?_
    rw [hij]
    exact if_neg hj
  connIdKnown := by
    intro id
    rw [fConnIdKnown, Option.isSome_iff_exists]
    constructor
    · rintro ⟨i, hf⟩
      obtain ⟨c, hg, -⟩ := h.conn_of (h.findConnId.mp hf)
      exact ⟨c, hg⟩
    · rintro ⟨c, hg⟩
      obtain ⟨i, hid, -⟩ := h.slot_of hg
      exact ⟨i, h.findConnId.mpr hid⟩
  compKnown := by
    intro comp
    refine (h.known h.compUnique (fun _ hs => Or.inl hs)
      (fun _ _ c _ hcomp _ _ => hcomp) comp).trans ?_
    simp only [Option.some.injEq]
  cicKnown := h.known h.cicUnique (fun _ hs => Or.inr (Or.inl hs))
    (fun _ _ _ _ _ hcic _ => hcic)
  fresh := by
    intro draws id hgen
    by_contra hlive
    obtain ⟨c, hg⟩ := Option.ne_none_iff_exists'.mp hlive
    obtain ⟨i, hid, -⟩ := h.slot_of hg
    exact fGenConnId_fresh hgen i hid

-- ── The operations keep it ───────────────────────────────────────────────────

omit [DecidableEq Comp] [DecidableEq T] in
theorem tableInv_init : TableInv (connTableInit : ConnectionTable Comp T)
    (fun _ => none) where
  idUnique := by intro i j k hi; exact nomatch hi
  compUnique := by intro i j k hi; exact nomatch hi
  cicUnique := by intro i j k hi; exact nomatch hi
  tidUnique := by intro i j k hi; exact nomatch hi
  slots := fun _ => Or.inl ⟨rfl, rfl, rfl, rfl⟩
  total := fun _ _ h => nomatch h

omit [DecidableEq Comp] [DecidableEq T] in
/-- One slot changes, and with it what the table holds under one id: the other
    slots have other ids. -/
theorem TableInv.slots_update {t : ConnectionTable Comp T} {g : Conns Comp T}
    {i : Fin 16} {s : ConnectionData Comp T} {id : Nat}
    {oc : Option (Conn Comp T)} (h : TableInv t g)
    (halone : ∀ a, a ≠ i → (t a).sccpConnId ≠ id)
    (hs : SlotOk (Function.update g id oc) s) (a : Fin 16) :
    SlotOk (Function.update g id oc) (Function.update t i s a) := by
  by_cases ha : a = i
  · rw [ha, Function.update_self]
    exact hs
  · rw [Function.update_of_ne ha]
    rcases h.slots a with hfr | ⟨id', c, hid', hg, hrest⟩
    · exact Or.inl hfr
    · have hne : id' ≠ id := fun heq => halone a ha (heq ▸ hid')
      exact Or.inr ⟨id', c, hid', (Function.update_of_ne hne _ _).trans hg, hrest⟩

omit [DecidableEq Comp] [DecidableEq T] in
theorem TableInv.total_update {t : ConnectionTable Comp T} {g : Conns Comp T}
    {i : Fin 16} {s : ConnectionData Comp T} {id : Nat}
    {oc : Option (Conn Comp T)} (h : TableInv t g)
    (hwas : (t i).sccpConnId = -1 ∨ (t i).sccpConnId = id)
    (hs : ∀ c, oc = some c → s.sccpConnId = id) (id' : Nat) (c : Conn Comp T)
    (hg : Function.update g id oc id' = some c) :
    ∃ a, (Function.update t i s a).sccpConnId = id' := by
  by_cases hid : id' = id
  · rw [hid, Function.update_self] at hg
    exact ⟨i, by rw [hid, Function.update_self]; exact hs c hg⟩
  · rw [Function.update_of_ne hid] at hg
    obtain ⟨a, ha⟩ := h.total id' c hg
    have hai : a ≠ i := by
      intro heq
      rw [heq] at ha
      rcases hwas with hfree | hold
      · rw [hfree] at ha
        omega
      · rw [hold] at ha
        exact hid (Int.ofNat.inj ha).symm
    exact ⟨a, by rw [Function.update_of_ne hai]; exact ha⟩

theorem TableInv.add {t t' : ConnectionTable Comp T} {g : Conns Comp T}
    {comp : Comp} {id : Nat} {i : Fin 16} (h : TableInv t g)
    (hguard : TableGuard t (.add comp id))
    (hadd : fConnTableAdd t comp id = .ok (t', i)) :
    TableInv t' (connsStep g (.add comp id)).1 := by
  obtain ⟨j, hf, hr⟩ := orFail_map_ok.mp hadd
  have hfree : (t j).sccpConnId = -1 :=
    of_decide_eq_true (find_eq_some.mp hf).1
  obtain ⟨hcic, htid⟩ : (t j).cic = none ∧ (t j).mgcpTransId = none := by
    rcases h.slots j with ⟨-, -, hcic, htid⟩ | ⟨id', -, hid', -⟩
    · exact ⟨hcic, htid⟩
    · rw [hfree] at hid'
      omega
  rw [← (Prod.mk.inj hr).1]
  constructor
  · refine h.idUnique.update (fun k hk a _ ha => ?_)
    have hk' : k = (id : Int) := Option.some.inj
      (hk.symm.trans (ConnectionData.liveId_eq.mpr rfl))
    rw [hk'] at ha
    exact (hguard a).1 (ConnectionData.liveId_eq.mp ha)
  · refine h.compUnique.update (fun k hk a _ ha => ?_)
    rw [← Option.some.inj hk] at ha
    exact (hguard a).2 ha
  · exact h.cicUnique.update_same rfl
  · exact h.tidUnique.update_same rfl
  · exact h.slots_update (fun a _ => (hguard a).1)
      (Or.inr ⟨id, _, rfl, Function.update_self _ _ _, rfl, hcic, htid⟩)
  · exact h.total_update (Or.inl hfree) (fun _ _ => rfl)

omit [DecidableEq T] in
/-- A connection of another component that does not hold the CIC keeps what it
    has. -/
theorem Conn.giveCic_other {comp : Comp} {cic : Int} {c : Conn Comp T}
    (hcomp : c.comp ≠ comp) (hcic : c.cic ≠ some cic) :
    c.giveCic comp cic = c := by
  rw [Conn.giveCic, if_neg hcomp, if_neg hcic]

theorem Conn.giveMgcpTid_other {comp : Comp} {tid : T} {c : Conn Comp T}
    (hcomp : c.comp ≠ comp) (htid : c.mgcpTransId ≠ some tid) :
    c.giveMgcpTid comp tid = c := by
  rw [Conn.giveMgcpTid, if_neg hcomp, if_neg htid]

omit [DecidableEq Comp] [DecidableEq T] in
/-- An identifier is stored: the connection of the slot is given it, and no
    other connection changes. -/
theorem TableInv.give {t : ConnectionTable Comp T} {g : Conns Comp T}
    {i : Fin 16} {s : ConnectionData Comp T} {give : Conn Comp T → Conn Comp T}
    (h : TableInv t g) (hlive : (t i).compRef ≠ none)
    (hid : s.sccpConnId = (t i).sccpConnId)
    (hcomp : s.compRef = (t i).compRef)
    (hcicU : KeyUnique ConnectionData.cic (Function.update t i s))
    (htidU : KeyUnique ConnectionData.mgcpTransId (Function.update t i s))
    (hself : ∀ c, (t i).compRef = some c.comp → (t i).cic = c.cic →
      (t i).mgcpTransId = c.mgcpTransId → (give c).comp = c.comp
        ∧ s.cic = (give c).cic ∧ s.mgcpTransId = (give c).mgcpTransId)
    (hother : ∀ a, a ≠ i → ∀ c, (t a).compRef = some c.comp →
      (t a).cic = c.cic → (t a).mgcpTransId = c.mgcpTransId → give c = c) :
    TableInv (Function.update t i s) (fun id => (g id).map give) := by
  constructor
  · refine h.idUnique.update_same ?_
    rw [ConnectionData.liveId, ConnectionData.liveId, hid]
  · exact h.compUnique.update_same hcomp
  · exact hcicU
  · exact htidU
  · intro a
    by_cases ha : a = i
    · obtain ⟨id, c, hid', hg, hc, hcic, htid⟩ := (h.slots i).live (Or.inl hlive)
      obtain ⟨h1, h2, h3⟩ := hself c hc hcic htid
      rw [ha, Function.update_self]
      refine Or.inr ⟨id, give c, hid.trans hid', ?_, ?_, h2, h3⟩
      · show (g id).map give = _
        rw [hg]
        rfl
      · rw [hcomp, hc, h1]
    · rw [Function.update_of_ne ha]
      rcases h.slots a with hfr | ⟨id, c, hid', hg, hc, hcic, htid⟩
      · exact Or.inl hfr
      · refine Or.inr ⟨id, c, hid', ?_, hc, hcic, htid⟩
        show (g id).map give = _
        rw [hg, Option.map_some, hother a ha c hc hcic htid]
  · intro id c hg
    obtain ⟨c', hg', -⟩ := Option.map_eq_some_iff.mp hg
    obtain ⟨a, ha⟩ := h.total id c' hg'
    refine ⟨a, ?_⟩
    by_cases hai : a = i
    · rw [hai, Function.update_self, hid, ← hai]
      exact ha
    · rw [Function.update_of_ne hai]
      exact ha

omit [DecidableEq T] in
/-- The slot of a component is the only one of it. -/
theorem TableInv.only_comp {t : ConnectionTable Comp T} {g : Conns Comp T} {comp : Comp}
    {i : Fin 16} (h : TableInv t g)
    (hf : find t (fun c => decide (c.compRef = some comp)) = some i) :
    (t i).compRef = some comp ∧ ∀ a, a ≠ i → (t a).compRef ≠ some comp := by
  have hcomp : (t i).compRef = some comp := (find_key h.compUnique).mp hf
  exact ⟨hcomp, fun a ha hc => ha (h.compUnique a i comp hc hcomp)⟩

theorem TableInv.storeCic {t t' : ConnectionTable Comp T} {g : Conns Comp T}
    {comp : Comp} {cic : Int} (h : TableInv t g)
    (hguard : TableGuard t (.storeCic comp cic))
    (hstore : fCompStoreCic t comp cic = .ok t') :
    TableInv t' (connsStep g (.storeCic comp cic)).1 := by
  obtain ⟨i, hf, hr⟩ := orFail_map_ok.mp hstore
  obtain ⟨hcomp, hother⟩ := h.only_comp hf
  rw [← hr]
  refine h.give (by rw [hcomp]; exact Option.some_ne_none _) rfl rfl
    (h.cicUnique.update (fun k hk a ha hac => ?_)) (h.tidUnique.update_same rfl)
    (fun c hc _ htid => ?_) (fun a ha c hc hcic _ => ?_)
  · rw [← Option.some.inj hk] at hac
    exact hguard a (hother a ha) hac
  · have hcc : c.comp = comp := Option.some.inj (hc.symm.trans hcomp)
    rw [Conn.giveCic, if_pos hcc]
    exact ⟨rfl, rfl, htid⟩
  · refine Conn.giveCic_other (fun heq => ?_) ?_
    · rw [heq] at hc
      exact hother a ha hc
    · rw [← hcic]
      exact hguard a (hother a ha)

theorem TableInv.storeMgcpTid {t t' : ConnectionTable Comp T}
    {g : Conns Comp T} {comp : Comp} {tid : T} (h : TableInv t g)
    (hguard : TableGuard t (.storeMgcpTid comp tid))
    (hstore : fCompStoreMgcpTid t comp tid = .ok t') :
    TableInv t' (connsStep g (.storeMgcpTid comp tid)).1 := by
  obtain ⟨i, hf, hr⟩ := orFail_map_ok.mp hstore
  obtain ⟨hcomp, hother⟩ := h.only_comp hf
  rw [← hr]
  refine h.give (by rw [hcomp]; exact Option.some_ne_none _) rfl rfl
    (h.cicUnique.update_same rfl) (h.tidUnique.update (fun k hk a ha hac => ?_))
    (fun c hc hcic _ => ?_) (fun a ha c hc _ htid => ?_)
  · rw [← Option.some.inj hk] at hac
    exact hguard a (hother a ha) hac
  · have hcc : c.comp = comp := Option.some.inj (hc.symm.trans hcomp)
    rw [Conn.giveMgcpTid, if_pos hcc]
    exact ⟨rfl, hcic, rfl⟩
  · refine Conn.giveMgcpTid_other (fun heq => ?_) ?_
    · rw [heq] at hc
      exact hother a ha hc
    · rw [← htid]
      exact hguard a (hother a ha)

theorem TableInv.del {t t' : ConnectionTable Comp T} {g : Conns Comp T}
    {id : Nat} (h : TableInv t g) (hguard : TableGuard t (.del id))
    (hdel : fConnTableDel t id = .ok t') :
    TableInv t' (connsStep g (.del id)).1 := by
  obtain ⟨i, hf, hr⟩ := orFail_map_ok.mp hdel
  have hid := h.findConnId.mp hf
  obtain ⟨hcic, htid⟩ := hguard i hid
  rw [← hr]
  have halone : ∀ a, a ≠ i → (t a).sccpConnId ≠ id :=
    fun a ha haid => ha (h.idUnique a i id (ConnectionData.liveId_eq.mpr haid)
      (ConnectionData.liveId_eq.mpr hid))
  constructor
  · exact h.idUnique.update_none rfl
  · exact h.compUnique.update_none rfl
  · exact h.cicUnique.update_same rfl
  · exact h.tidUnique.update_same rfl
  · exact h.slots_update halone (Or.inl ⟨rfl, rfl, hcic, htid⟩)
  · exact h.total_update (Or.inr hid) (fun _ hc => nomatch hc)

/-- **ONE STEP** that meets the guard. -/
theorem tableInv_step {t t' : ConnectionTable Comp T} {g : Conns Comp T}
    {op : Op Comp T} {u : Unit} (h : TableInv t g) (hguard : TableGuard t op)
    (hstep : tableStep t op = .ok (t', u)) : TableInv t' (connsStep g op).1 := by
  cases op with
  | add comp id =>
      obtain ⟨⟨t1, i⟩, hadd, hr⟩ := map_ok hstep
      rw [← (Prod.mk.inj hr).1]
      exact h.add hguard hadd
  | storeCic comp cic =>
      obtain ⟨t1, hstore, hr⟩ := map_ok hstep
      rw [← (Prod.mk.inj hr).1]
      exact h.storeCic hguard hstore
  | storeMgcpTid comp tid =>
      obtain ⟨t1, hstore, hr⟩ := map_ok hstep
      rw [← (Prod.mk.inj hr).1]
      exact h.storeMgcpTid hguard hstore
  | del id =>
      obtain ⟨t1, hdel, hr⟩ := map_ok hstep
      rw [← (Prod.mk.inj hr).1]
      exact h.del hguard hdel

/-- **LOOKUPS RESOLVE**: after every run of table operations that meet the
    guard, each identifier finds the live connection that has it, and nothing
    else is found. -/
theorem lookups_resolve (ops : List (Op Comp T)) {t : ConnectionTable Comp T}
    {us : List Unit}
    (hguard : RunGuard.Guarded tableStep TableGuard connTableInit ops)
    (hrun : RunGuard.run tableStep connTableInit ops = .ok (t, us)) :
    Resolves t (RunGuard.specRun connsStep (fun _ => none) ops).1 :=
  (@RunGuard.run_inv _ _ _ _ _ tableStep connsStep TableInv TableGuard
    (fun _ _ _ _ _ hR hG hs => tableInv_step hR hG hs) ops _ _ _ _ tableInv_init
    hguard hrun).resolves

instance (t : ConnectionTable Comp T) : (op : Op Comp T) →
    Decidable (TableGuard t op)
  | .add comp id => inferInstanceAs (Decidable
      (∀ i, (t i).sccpConnId ≠ id ∧ (t i).compRef ≠ some comp))
  | .storeCic comp cic => inferInstanceAs (Decidable
      (∀ i, (t i).compRef ≠ some comp → (t i).cic ≠ some cic))
  | .storeMgcpTid comp tid => inferInstanceAs (Decidable
      (∀ i, (t i).compRef ≠ some comp → (t i).mgcpTransId ≠ some tid))
  | .del id => inferInstanceAs (Decidable (∀ i, (t i).sccpConnId = id →
      (t i).cic = none ∧ (t i).mgcpTransId = none))

end Runs

/-- Two connections side by side, the second one deleted again. -/
def twoConns : List (Op Nat Nat) :=
  [.add 10 1, .storeCic 10 5, .storeMgcpTid 10 900, .add 20 2, .del 2]

theorem lookups_resolve_twoConns : ∃ t us,
    RunGuard.run tableStep connTableInit twoConns = .ok (t, us)
      ∧ Resolves t (RunGuard.specRun connsStep (fun _ => none) twoConns).1 :=
  ⟨_, _, rfl, lookups_resolve twoConns (by decide) rfl⟩

/-- A connection with a CIC is deleted, and another one takes its slot. -/
def reusedSlot : List (Op Nat Nat) :=
  [.add 10 1, .storeCic 10 5, .del 1, .add 20 2]

/-- **A CIC IS INHERITED**: it leads to a component it was never given to. -/
theorem reusedSlot_inherits : ∃ t us,
    RunGuard.run tableStep connTableInit reusedSlot = .ok (t, us)
      ∧ fCompByCic t 5 = .ok (some 20)
      ∧ ¬ Resolves t (RunGuard.specRun connsStep (fun _ => none) reusedSlot).1 := by
  refine ⟨_, _, rfl, rfl, ?_⟩
  intro h
  obtain ⟨id, c, hg, hc, -⟩ := (h.byCic 5 (some 20)).mp rfl
  have hg' : Function.update (Function.update (fun id : Nat => (Function.update
      (fun _ : Nat => (none : Option (Conn Nat Nat))) 1
      (some ⟨10, none, none⟩) id).map (Conn.giveCic 10 5)) 1 none) 2
      (some ⟨20, none, none⟩) id = some c := hg
  by_cases h2 : id = 2
  · rw [h2, Function.update_self] at hg'
    rw [← Option.some.inj hg'] at hc
    exact nomatch hc
  · rw [Function.update_of_ne h2] at hg'
    by_cases h1 : id = 1
    · rw [h1, Function.update_self] at hg'
      exact nomatch hg'
    · rw [Function.update_of_ne h1, Function.update_of_ne h1] at hg'
      exact nomatch hg'

end OsmoRan
