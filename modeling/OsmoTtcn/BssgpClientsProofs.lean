import OsmoTtcn.RunGuardProofs
import OsmoTtcn.SlotTableProofs
import OsmoTtcn.TitanProofs

/-! # Routing by TLLI in the BSSGP emulation

    The clients of a BVC register in a table of 64 slots with their IMSI and
    their TLLI; a TLLI is replaced by LLGMM-ASSIGN, and the old one stays valid
    until it is unassigned.  A PDU with a TLLI goes to the client that holds it.

    Removing a client puts the null reference into its slot, and leaves the
    TLLI.  The null reference is a value, so the slot never becomes free again;
    and a search for the TLLI still ends in it.  `tlli_routing` proves the
    routing right of every run that neither uses up the slots nor gives a TLLI
    of a removed client to a slot behind it. -/

namespace OsmoBssgpClient

open OsmoTitan SlotTable

/-- `GprsTlli` -/
abbrev Tlli : Type := BitVec 32

/-- No TLLI is assigned. -/
def unassigned : Tlli := 0xFFFFFFFF#32

/-- Hexadecimal digits. -/
abbrev Imsi : Type := List (Fin 16)

/-- One element of the table; `none` is an unbound or omitted field. -/
structure ClientEntity (Comp : Type) where
  tlli : Option Tlli
  tlliOld : Option Tlli
  imsi : Option Imsi
  /-- `some none`: the null reference, which is a value. -/
  compRef : Option (Option Comp)

/-- The table of clients of a BVC. -/
abbrev ClientTable (n : Nat) (Comp : Type) : Type := Fin n → ClientEntity Comp

/-- `sizeof(ClientTable)` -/
abbrev tableSize : Nat := 64

/-- `f_tbl_init` -/
def clientTableInit {n : Nat} {Comp : Type} : ClientTable n Comp := fun _ =>
  { tlli := none, tlliOld := none, imsi := none, compRef := none }

section Functions

variable {n : Nat} {Comp : Type} [DecidableEq Comp] (t : ClientTable n Comp)

/-- `f_tbl_client_add` -/
def fTblClientAdd (imsi : Imsi) (tlli : Tlli) (vcConn : Comp) :
    Except Fault (ClientTable n Comp) :=
  match find t (fun c => c.compRef.isNone) with
  | some i => .ok (Function.update t i
      { tlli := some tlli, tlliOld := none, imsi := some imsi
        compRef := some (some vcConn) })
  | none => .error (.shutdown "Client Table full")

/-- The TLLI field is left as it is. -/
def fTblClientDel (imsi : Imsi) (vcConn : Comp) :
    Except Fault (ClientTable n Comp) :=
  match find t (fun c => c.imsi == some imsi) with
  | some i =>
      if (t i).compRef ≠ some (some vcConn) then
        .error (.shutdown "Cannot unregister")
      else .ok (Function.update t i
        { t i with tlliOld := none, imsi := some [], compRef := some none })
  -- Warning: Could not find client for IMSI
  | none => .ok t

/-- `f_tbl_idx_by_comp` -/
def fTblIdxByComp (compRef : Comp) : Except Fault (Fin n) :=
  match find t (fun c => c.compRef == some (some compRef)) with
  | some i => .ok i
  | none => .error (.shutdown "Couldn't find Client for Component ")

/-- TS 44.064 7.2.1.1 LLGMM-ASSIGN -/
def ClientEntity.llgmmAssign (tlliOld tlliNew : Tlli) (c : ClientEntity Comp) :
    ClientEntity Comp :=
  if tlliOld = unassigned ∧ tlliNew ≠ unassigned then
    -- TLLI assignment
    { c with tlli := some tlliNew, tlliOld := none }
  else if tlliOld ≠ unassigned ∧ tlliNew ≠ unassigned then
    -- TLLI change: both active
    { c with tlli := some tlliNew, tlliOld := some tlliOld }
  else if tlliOld ≠ unassigned ∧ tlliNew = unassigned then
    -- TLLI unassignment: old shall be unassigned; new stays
    { c with tlliOld := none }
  else c

/-- `f_tbl_client_llgmm_assign` -/
def fTblClientLlgmmAssign (tlliOld tlliNew : Tlli) (vcConn : Comp) :
    Except Fault (ClientTable n Comp) :=
  (fTblIdxByComp t vcConn).map
    (fun i => Function.update t i ((t i).llgmmAssign tlliOld tlliNew))

/-- The slot is taken for the TLLI. -/
def ClientEntity.carries (tlli : Tlli) (c : ClientEntity Comp) : Bool :=
  c.compRef.isSome && (c.tlli.isSome
    && (c.tlli == some tlli || (c.tlliOld.isSome && c.tlliOld == some tlli)))

/-- The null reference if there is none. -/
def fTblCompByTlli (tlli : Tlli) : Option Comp :=
  match find t (ClientEntity.carries tlli) with
  | some i => (t i).compRef.join
  | none => none

/-- Where a PDU of the peer goes. -/
inductive Routed (Comp : Type) where
  /-- To the call-back for unknown TLLIs. -/
  | createCb (tlli : Tlli)
  | toClient (client : Comp)
  | broadcast (clients : List Comp)
  deriving DecidableEq

/-- If it has TLLI, route to component; otherwise broadcast. -/
def route (tlli : Option Tlli) : Routed Comp :=
  match tlli with
  | some tlli =>
      match fTblCompByTlli t tlli with
      | none => .createCb tlli
      | some vcConn => .toClient vcConn
  | none => .broadcast ((List.finRange n).filterMap (fun i => (t i).compRef.join))

end Functions

-- ── What the table is for ────────────────────────────────────────────────────

/-- What a client is known by. -/
structure Client where
  imsi : Imsi
  tlli : Tlli
  tlliOld : Option Tlli

/-- The client holds the TLLI as its current or its old one. -/
def Client.Holds (tlli : Tlli) (c : Client) : Prop :=
  c.tlli = tlli ∨ c.tlliOld = some tlli

/-- The registered clients. -/
abbrev Clients (Comp : Type) : Type := Comp → Option Client

/-- What a client asks of the table. -/
inductive Op (Comp : Type) where
  | register (imsi : Imsi) (tlli : Tlli) (client : Comp)
  | unregister (imsi : Imsi) (client : Comp)
  | llgmmAssign (tlliOld tlliNew : Tlli) (client : Comp)

/-- LLGMM-ASSIGN: without an old TLLI the new one is assigned, with both they
    are both valid, and without a new one the old one is given up. -/
def Client.assign (tlliOld tlliNew : Tlli) (c : Client) : Client :=
  if tlliNew = unassigned then
    if tlliOld = unassigned then c else { c with tlliOld := none }
  else { c with
    tlli := tlliNew
    tlliOld := if tlliOld = unassigned then none else some tlliOld }

section Runs

variable {n : Nat} {Comp : Type} [DecidableEq Comp]

/-- One request to the table. -/
def clientStep (t : ClientTable n Comp) :
    Op Comp → Except Fault (ClientTable n Comp × Unit)
  | .register imsi tlli client =>
      (fTblClientAdd t imsi tlli client).map (fun t' => (t', ()))
  | .unregister imsi client =>
      (fTblClientDel t imsi client).map (fun t' => (t', ()))
  | .llgmmAssign tlliOld tlliNew client =>
      (fTblClientLlgmmAssign t tlliOld tlliNew client).map (fun t' => (t', ()))

/-- One request to the clients themselves. -/
def clientsStep (g : Clients Comp) : Op Comp → Clients Comp × Unit
  | .register imsi tlli client =>
      (Function.update g client (some ⟨imsi, tlli, none⟩), ())
  | .unregister imsi client =>
      (if (g client).map Client.imsi = some imsi then Function.update g client none
        else g, ())
  | .llgmmAssign tlliOld tlliNew client =>
      (Function.update g client ((g client).map (Client.assign tlliOld tlliNew)),
        ())

/-- **ROUTING BY TLLI**: a PDU goes to the client that holds its TLLI, and to
    no client if there is none. -/
def RoutesTlli (t : ClientTable n Comp) (g : Clients Comp) : Prop :=
  (∀ tlli client, route t (some tlli) = .toClient client
      ↔ ∃ c, g client = some c ∧ c.Holds tlli)
    ∧ ∀ tlli, route t (some tlli) = .createCb tlli
      ↔ ∀ client c, g client = some c → ¬ c.Holds tlli

/-- The slot of a client that is registered. -/
def ClientEntity.live (c : ClientEntity Comp) : Option Comp := c.compRef.join

/-- The TLLIs that LLGMM-ASSIGN gives to its client. -/
def given (tlliOld tlliNew : Tlli) : List Tlli :=
  if tlliNew = unassigned then []
  else if tlliOld = unassigned then [tlliNew]
  else [tlliNew, tlliOld]

/-- What an operation has to meet.  A new client has a component of its own,
    and there is a slot that was never used; no client gets a TLLI of another
    one, nor one that a removed client has left in a slot in front; an IMSI is
    unregistered by the client that has it, and only registered clients take
    part. -/
def ClientGuard (t : ClientTable n Comp) : Op Comp → Prop
  | .register _ tlli client =>
      (∃ i, (t i).compRef = none)
        ∧ ∀ i, (t i).live ≠ some client ∧ (t i).carries tlli = false
  | .unregister imsi client =>
      ∀ i, (t i).imsi = some imsi → (t i).live = some client
  | .llgmmAssign tlliOld tlliNew client =>
      (∃ i, (t i).live = some client)
        ∧ ∀ i, (t i).live = some client → ∀ j, j ≠ i →
          ((t j).live ≠ none ∨ j < i) →
          (given tlliOld tlliNew).all (fun u => !(t j).carries u) = true

-- ── The invariant ────────────────────────────────────────────────────────────

/-- The slots of the clients hold what their clients do, and no TLLI of a slot
    is also in a slot in front of it. -/
structure ClientInv (t : ClientTable n Comp) (g : Clients Comp) : Prop where
  compUnique : KeyUnique ClientEntity.live t
  slots : ∀ i client, (t i).live = some client → ∃ c, g client = some c
    ∧ (t i).imsi = some c.imsi ∧ (t i).tlli = some c.tlli
    ∧ (t i).tlliOld = c.tlliOld
  total : ∀ client c, g client = some c → ∃ i, (t i).live = some client
  /-- Slots are taken from the front, and stay taken. -/
  used : ∀ i j, i < j → (t i).compRef = none → (t j).compRef = none
  ordered : ∀ i j tlli, (t i).live ≠ none → j < i →
    (t i).carries tlli = true → (t j).carries tlli = false

omit [DecidableEq Comp] in
/-- At first there are no clients. -/
theorem clientInv_init :
    ClientInv (clientTableInit : ClientTable n Comp) (fun _ => none) where
  compUnique := fun _ _ _ hi => nomatch hi
  slots := fun _ _ hi => nomatch hi
  total := fun _ _ hg => nomatch hg
  used := fun _ _ _ _ => rfl
  ordered := fun _ _ _ hi => absurd rfl hi

omit [DecidableEq Comp] in
/-- A live entry is one with a component. -/
theorem ClientEntity.live_eq {c : ClientEntity Comp} {client : Comp} :
    c.live = some client ↔ c.compRef = some (some client) := by
  rw [ClientEntity.live, Option.join_eq_some_iff]

omit [DecidableEq Comp] in
/-- An entry that was never used is not live. -/
theorem ClientEntity.live_unused {c : ClientEntity Comp}
    (h : c.compRef = none) : c.live = none := by
  rw [ClientEntity.live, h]
  rfl

omit [DecidableEq Comp] in
/-- An entry carries its TLLI and its old one, once it was used. -/
theorem ClientEntity.carries_iff {c : ClientEntity Comp} {tlli : Tlli} :
    c.carries tlli = true ↔ c.compRef ≠ none ∧ c.tlli ≠ none
      ∧ (c.tlli = some tlli ∨ c.tlliOld = some tlli) := by
  rw [ClientEntity.carries]
  cases hcomp : c.compRef <;> cases htlli : c.tlli <;> cases hold : c.tlliOld <;>
    simp

omit [DecidableEq Comp] in
/-- The slot of a client carries what the client holds. -/
theorem ClientInv.carries {t : ClientTable n Comp} {g : Clients Comp}
    (h : ClientInv t g) {i : Fin n} {client : Comp} {c : Client}
    (hi : (t i).live = some client) (hc : g client = some c) (tlli : Tlli) :
    (t i).carries tlli = true ↔ c.Holds tlli := by
  obtain ⟨c', hg, -, htlli, hold⟩ := h.slots i client hi
  rw [hc] at hg
  rw [← Option.some.inj hg] at htlli hold
  rw [ClientEntity.carries_iff, htlli, hold, ClientEntity.live_eq.mp hi]
  constructor
  · rintro ⟨-, -, hcur | hold'⟩
    · exact Or.inl (Option.some.inj hcur)
    · exact Or.inr hold'
  · intro hholds
    refine ⟨Option.some_ne_none _, Option.some_ne_none _, ?_⟩
    rcases hholds with hcur | hold'
    · exact Or.inl (congrArg some hcur)
    · exact Or.inr hold'

omit [DecidableEq Comp] in
/-- **THE INVARIANT GIVES THE LOOKUP.** -/
theorem ClientInv.compByTlli {t : ClientTable n Comp} {g : Clients Comp}
    (h : ClientInv t g) (tlli : Tlli) (client : Comp) :
    fTblCompByTlli t tlli = some client
      ↔ ∃ c, g client = some c ∧ c.Holds tlli := by
  rw [fTblCompByTlli]
  constructor
  · intro hf
    cases hfind : find t (ClientEntity.carries tlli) with
    | none =>
        rw [hfind] at hf
        exact nomatch hf
    | some i =>
        rw [hfind] at hf
        obtain ⟨c, hc, -⟩ := h.slots i client hf
        exact ⟨c, hc, (h.carries hf hc tlli).mp (find_eq_some.mp hfind).1⟩
  · rintro ⟨c, hc, hholds⟩
    obtain ⟨i, hi⟩ := h.total client c hc
    have hcar := (h.carries hi hc tlli).mpr hholds
    have hlive : (t i).live ≠ none := by
      rw [hi]
      exact Option.some_ne_none _
    rw [find_eq_some.mpr ⟨hcar, fun j hj => h.ordered i j tlli hlive hj hcar⟩]
    exact hi

omit [DecidableEq Comp] in
/-- The invariant says what the specification says of the TLLIs. -/
theorem ClientInv.routes {t : ClientTable n Comp} {g : Clients Comp}
    (h : ClientInv t g) : RoutesTlli t g := by
  constructor
  · intro tlli client
    rw [← h.compByTlli tlli client, route]
    cases fTblCompByTlli t tlli with
    | none => simp
    | some c => simp
  · intro tlli
    have hnone : route t (some tlli) = .createCb tlli
        ↔ fTblCompByTlli t tlli = none := by
      rw [route]
      cases fTblCompByTlli t tlli with
      | none => simp
      | some c => simp
    rw [hnone, Option.eq_none_iff_forall_ne_some]
    constructor
    · intro hno client c hc hholds
      exact hno client ((h.compByTlli tlli client).mpr ⟨c, hc, hholds⟩)
    · intro hno client hf
      obtain ⟨c, hc, hholds⟩ := (h.compByTlli tlli client).mp hf
      exact hno client c hc hholds

-- ── Every operation keeps it ─────────────────────────────────────────────────

omit [DecidableEq Comp] in
/-- No other slot is the client's. -/
theorem ClientInv.alone {t : ClientTable n Comp} {g : Clients Comp}
    (h : ClientInv t g) {i : Fin n} {client : Comp}
    (hi : (t i).live = some client) :
    ∀ j, j ≠ i → (t j).live ≠ some client :=
  fun j hji hj => hji (h.compUnique j i client hj hi)

omit [DecidableEq Comp] in
/-- The slots in front of a slot in use are in use. -/
theorem ClientInv.front {t : ClientTable n Comp} {g : Clients Comp}
    (h : ClientInv t g) {i : Fin n} {client : Comp}
    (hi : (t i).live = some client) : ∀ j, j < i → (t j).compRef ≠ none := by
  intro j hj hnone
  rw [ClientEntity.live_unused (h.used j i hj hnone)] at hi
  exact nomatch hi

/-- **ONE SLOT CHANGES**, and with it what its client holds.  No other slot is
    the client's, the slots in front are in use, and the slot keeps the order
    of the TLLIs with the slots before and after it. -/
theorem ClientInv.update {t : ClientTable n Comp} {g : Clients Comp}
    {i : Fin n} {s : ClientEntity Comp} {client : Comp} {oc : Option Client}
    (h : ClientInv t g)
    (hwas : (t i).live = none ∨ (t i).live = some client)
    (halone : ∀ j, j ≠ i → (t j).live ≠ some client)
    (hlive : s.live = oc.map (fun _ => client))
    (hslot : ∀ c, oc = some c → s.imsi = some c.imsi ∧ s.tlli = some c.tlli
      ∧ s.tlliOld = c.tlliOld)
    (hused : s.compRef ≠ none) (hfront : ∀ j, j < i → (t j).compRef ≠ none)
    (hbefore : s.live ≠ none → ∀ j u, j < i → s.carries u = true →
      (t j).carries u = false)
    (hafter : ∀ j u, i < j → (t j).live ≠ none → (t j).carries u = true →
      s.carries u = false) :
    ClientInv (Function.update t i s) (Function.update g client oc) := by
  have hnew : ∀ c, s.live = some c → c = client ∧ ∃ cl, oc = some cl := by
    intro c hc
    rw [hlive] at hc
    obtain ⟨cl, hcl, hcc⟩ := Option.map_eq_some_iff.mp hc
    exact ⟨hcc.symm, cl, hcl⟩
  constructor
  · refine h.compUnique.update (fun c hc j hj => ?_)
    rw [(hnew c hc).1]
    exact halone j hj
  · intro a c hc
    by_cases ha : a = i
    · rw [ha, Function.update_self] at hc ⊢
      obtain ⟨hcc, cl, hcl⟩ := hnew c hc
      rw [hcc, Function.update_self]
      exact ⟨cl, hcl, hslot cl hcl⟩
    · rw [Function.update_of_ne ha] at hc ⊢
      have hne : c ≠ client := fun heq => halone a ha (heq ▸ hc)
      rw [Function.update_of_ne hne]
      exact h.slots a c hc
  · intro c cl hg
    by_cases hc : c = client
    · rw [hc, Function.update_self] at hg
      refine ⟨i, ?_⟩
      rw [hc, Function.update_self, hlive, hg]
      rfl
    · rw [Function.update_of_ne hc] at hg
      obtain ⟨a, ha⟩ := h.total c cl hg
      have hai : a ≠ i := by
        intro heq
        rw [heq] at ha
        rcases hwas with hnone | hsome
        · rw [hnone] at ha
          exact nomatch ha
        · rw [hsome] at ha
          exact hc (Option.some.inj ha).symm
      exact ⟨a, by rw [Function.update_of_ne hai]; exact ha⟩
  · intro a b hab ha
    by_cases hai : a = i
    · rw [hai, Function.update_self] at ha
      exact absurd ha hused
    · rw [Function.update_of_ne hai] at ha
      by_cases hbi : b = i
      · exact absurd ha (hfront a (hbi ▸ hab))
      · rw [Function.update_of_ne hbi]
        exact h.used a b hab ha
  · intro a b u hl hba hcar
    by_cases hai : a = i
    · rw [hai, Function.update_self] at hl hcar
      rw [hai] at hba
      rw [Function.update_of_ne (Fin.ne_of_lt hba)]
      exact hbefore hl b u hba hcar
    · rw [Function.update_of_ne hai] at hl hcar
      by_cases hbi : b = i
      · rw [hbi] at hba
        rw [hbi, Function.update_self]
        exact hafter a u hba hl hcar
      · rw [Function.update_of_ne hbi]
        exact h.ordered a b u hl hba hcar

/-- A client registers in the first slot that was never used. -/
theorem ClientInv.register {t : ClientTable n Comp} {g : Clients Comp}
    {imsi : Imsi} {tlli : Tlli} {client : Comp} (h : ClientInv t g)
    (hguard : ClientGuard t (.register imsi tlli client)) :
    ∃ t', fTblClientAdd t imsi tlli client = .ok t'
      ∧ ClientInv t' (clientsStep g (.register imsi tlli client)).1 := by
  obtain ⟨⟨k, hk⟩, hown⟩ := hguard
  have hfind : ∃ i, find t (fun c => c.compRef.isNone) = some i := by
    cases hf : find t (fun c => c.compRef.isNone) with
    | some i => exact ⟨i, rfl⟩
    | none =>
        have hno := find_eq_none.mp hf k
        rw [hk] at hno
        exact nomatch hno
  obtain ⟨i, hi⟩ := hfind
  obtain ⟨hfree, hfront⟩ := find_eq_some.mp hi
  have hunused : (t i).compRef = none := Option.isNone_iff_eq_none.mp hfree
  refine ⟨_, by rw [fTblClientAdd, hi], h.update
    (Or.inl (ClientEntity.live_unused hunused)) (fun j _ => (hown j).1) rfl
    ?_ (Option.some_ne_none _) ?_ ?_ ?_⟩
  · intro c hc
    rw [← Option.some.inj hc]
    exact ⟨rfl, rfl, rfl⟩
  · intro j hj hnone
    have hno := hfront j hj
    rw [hnone] at hno
    exact nomatch hno
  · intro _ j u _ hcar
    rcases (ClientEntity.carries_iff.mp hcar).2.2 with hcur | hold
    · rw [← Option.some.inj hcur]
      exact (hown j).2
    · exact nomatch hold
  · intro j u hj hl
    exact absurd (ClientEntity.live_unused (h.used i j hj hunused)) hl

omit [DecidableEq Comp] in
/-- The client of an IMSI that no slot has is not registered under it. -/
theorem ClientInv.noImsi {t : ClientTable n Comp} {g : Clients Comp}
    {imsi : Imsi} {client : Comp} (h : ClientInv t g)
    (hi : find t (fun c => c.imsi == some imsi) = none) :
    ¬ (g client).map Client.imsi = some imsi := by
  intro hg
  obtain ⟨c, hc, himsi⟩ := Option.map_eq_some_iff.mp hg
  obtain ⟨a, ha⟩ := h.total client c hc
  obtain ⟨c', hc', himsi', -⟩ := h.slots a client ha
  rw [hc] at hc'
  rw [← Option.some.inj hc', himsi] at himsi'
  have hfalse := find_eq_none.mp hi a
  rw [himsi', beq_self_eq_true] at hfalse
  exact nomatch hfalse

/-- A client goes, and its slot keeps the TLLI. -/
theorem ClientInv.unregister {t : ClientTable n Comp} {g : Clients Comp}
    {imsi : Imsi} {client : Comp} (h : ClientInv t g)
    (hguard : ClientGuard t (.unregister imsi client)) :
    ∃ t', fTblClientDel t imsi client = .ok t'
      ∧ ClientInv t' (clientsStep g (.unregister imsi client)).1 := by
  have hown : ∀ i, (t i).imsi = some imsi → (t i).live = some client := hguard
  rw [fTblClientDel]
  cases hi : find t (fun c => c.imsi == some imsi) with
  | none =>
      refine ⟨t, rfl, ?_⟩
      show ClientInv t (if _ then _ else g)
      rw [if_neg (h.noImsi hi)]
      exact h
  | some i =>
      have himsi : (t i).imsi = some imsi := eq_of_beq (find_eq_some.mp hi).1
      have hlive := hown i himsi
      obtain ⟨c, hc, hci, -⟩ := h.slots i client hlive
      refine ⟨_, if_neg (not_not.mpr (ClientEntity.live_eq.mp hlive)), ?_⟩
      have hyes : (g client).map Client.imsi = some imsi := by
        rw [hc, ← himsi, hci]
        rfl
      show ClientInv _ (if _ then _ else g)
      rw [if_pos hyes]
      refine h.update (Or.inr hlive) (h.alone hlive) rfl (fun _ hno => nomatch hno)
        (Option.some_ne_none _) (h.front hlive) (fun hno => absurd rfl hno) ?_
      -- the TLLI that stays was the client's before
      intro j u hj hl hcar
      refine Bool.eq_false_iff.mpr (fun hstays => ?_)
      obtain ⟨-, htlli, hcur | hnone⟩ := ClientEntity.carries_iff.mp hstays
      · have hwas : (t i).carries u = true := by
          refine ClientEntity.carries_iff.mpr ⟨?_, htlli, Or.inl hcur⟩
          rw [ClientEntity.live_eq.mp hlive]
          exact Option.some_ne_none _
        rw [h.ordered j i u hl hj hcar] at hwas
        exact nomatch hwas
      · exact nomatch hnone

omit [DecidableEq Comp] in
@[simp] theorem llgmmAssign_compRef (tlliOld tlliNew : Tlli)
    (c : ClientEntity Comp) :
    (c.llgmmAssign tlliOld tlliNew).compRef = c.compRef := by
  rw [ClientEntity.llgmmAssign]
  split
  · rfl
  · split
    · rfl
    · split <;> rfl

omit [DecidableEq Comp] in
/-- The slot does what its client does. -/
theorem llgmmAssign_assign {s : ClientEntity Comp} {c : Client}
    (tlliOld tlliNew : Tlli) (h : s.imsi = some c.imsi ∧ s.tlli = some c.tlli
      ∧ s.tlliOld = c.tlliOld) :
    (s.llgmmAssign tlliOld tlliNew).imsi = some (c.assign tlliOld tlliNew).imsi
      ∧ (s.llgmmAssign tlliOld tlliNew).tlli
        = some (c.assign tlliOld tlliNew).tlli
      ∧ (s.llgmmAssign tlliOld tlliNew).tlliOld
        = (c.assign tlliOld tlliNew).tlliOld := by
  rw [ClientEntity.llgmmAssign, Client.assign]
  by_cases hnew : tlliNew = unassigned
  · by_cases hold : tlliOld = unassigned
    · simp [hnew, hold, h]
    · simp [hnew, hold, h]
  · by_cases hold : tlliOld = unassigned
    · simp [hnew, hold, h]
    · simp [hnew, hold, h]

omit [DecidableEq Comp] in
/-- A slot carries what it carried, or what it was given. -/
theorem llgmmAssign_carries {s : ClientEntity Comp} {tlliOld tlliNew u : Tlli}
    (h : (s.llgmmAssign tlliOld tlliNew).carries u = true) :
    u ∈ given tlliOld tlliNew ∨ s.carries u = true := by
  obtain ⟨hcomp, htlli, hcar⟩ := ClientEntity.carries_iff.mp h
  rw [llgmmAssign_compRef] at hcomp
  rw [ClientEntity.llgmmAssign] at htlli hcar
  rw [given]
  by_cases hnew : tlliNew = unassigned
  · refine Or.inr (ClientEntity.carries_iff.mpr ⟨hcomp, ?_⟩)
    by_cases hold : tlliOld = unassigned
    · simp [hnew, hold] at htlli hcar
      exact ⟨htlli, hcar⟩
    · simp [hnew, hold] at htlli hcar
      exact ⟨htlli, Or.inl hcar⟩
  · refine Or.inl ?_
    rw [if_neg hnew]
    by_cases hold : tlliOld = unassigned
    · simp [hnew, hold] at hcar
      rw [if_pos hold, hcar]
      exact List.mem_cons_self
    · simp [hnew, hold] at hcar
      rw [if_neg hold]
      rcases hcar with hcur | hold'
      · rw [hcur]
        exact List.mem_cons_self
      · rw [hold']
        exact List.mem_cons_of_mem _ List.mem_cons_self

omit [DecidableEq Comp] in
/-- A TLLI that is given is carried by no other entry. -/
theorem given_free {tlliOld tlliNew u : Tlli} {c : ClientEntity Comp}
    (h : (given tlliOld tlliNew).all (fun u => !c.carries u) = true)
    (hu : u ∈ given tlliOld tlliNew) : c.carries u = false :=
  Bool.not_eq_true' _ ▸ List.all_eq_true.mp h u hu

/-- The TLLIs of a client change. -/
theorem ClientInv.llgmmAssign {t : ClientTable n Comp} {g : Clients Comp}
    {tlliOld tlliNew : Tlli} {client : Comp} (h : ClientInv t g)
    (hguard : ClientGuard t (.llgmmAssign tlliOld tlliNew client)) :
    ∃ t', fTblClientLlgmmAssign t tlliOld tlliNew client = .ok t'
      ∧ ClientInv t' (clientsStep g (.llgmmAssign tlliOld tlliNew client)).1 := by
  obtain ⟨⟨i, hi⟩, hown⟩ := hguard
  have hfind : find t (fun c => c.compRef == some (some client)) = some i := by
    refine find_of_unique (beq_iff_eq.mpr (ClientEntity.live_eq.mp hi))
      (fun j hj => ?_)
    exact h.compUnique j i client (ClientEntity.live_eq.mpr (eq_of_beq hj)) hi
  have hcomp : ((t i).llgmmAssign tlliOld tlliNew).compRef = (t i).compRef :=
    llgmmAssign_compRef tlliOld tlliNew (t i)
  have hlive : ((t i).llgmmAssign tlliOld tlliNew).live = some client :=
    (congrArg Option.join hcomp).trans hi
  obtain ⟨cl, hg, hrest⟩ := h.slots i client hi
  refine ⟨Function.update t i ((t i).llgmmAssign tlliOld tlliNew),
    by rw [fTblClientLlgmmAssign, fTblIdxByComp, hfind]; rfl, ?_⟩
  show ClientInv _ (Function.update g client _)
  rw [hg]
  refine h.update (Or.inr hi) (h.alone hi) hlive ?_ ?_ (h.front hi) ?_ ?_
  · intro c hc
    rw [← Option.some.inj hc]
    exact llgmmAssign_assign _ _ hrest
  · rw [hcomp, ClientEntity.live_eq.mp hi]
    exact Option.some_ne_none _
  · intro _ j u hj hcar
    rcases llgmmAssign_carries hcar with hgive | hcar
    · exact given_free (hown i hi j (Fin.ne_of_lt hj) (Or.inr hj)) hgive
    · exact h.ordered i j u (by rw [hi]; exact Option.some_ne_none _) hj hcar
  · intro j u hj hl hcar
    refine Bool.eq_false_iff.mpr (fun hnew => ?_)
    rcases llgmmAssign_carries hnew with hgive | hold
    · have hfree := given_free (hown i hi j (Fin.ne_of_gt hj) (Or.inl hl)) hgive
      rw [hcar] at hfree
      exact nomatch hfree
    · have hfalse := h.ordered j i u hl hj hcar
      rw [hold] at hfalse
      exact nomatch hfalse

/-- **ONE OPERATION** that meets the guard returns. -/
theorem clientInv_step {t : ClientTable n Comp} {g : Clients Comp}
    {op : Op Comp} (h : ClientInv t g) (hguard : ClientGuard t op) :
    RunGuard.StepOk clientStep clientsStep ClientInv t g op := by
  cases op with
  | register imsi tlli client =>
      obtain ⟨t', hstep, hinv⟩ := h.register hguard
      exact ⟨t', by rw [clientStep, hstep]; rfl, hinv⟩
  | unregister imsi client =>
      obtain ⟨t', hstep, hinv⟩ := h.unregister hguard
      exact ⟨t', by rw [clientStep, hstep]; rfl, hinv⟩
  | llgmmAssign tlliOld tlliNew client =>
      obtain ⟨t', hstep, hinv⟩ := h.llgmmAssign hguard
      exact ⟨t', by rw [clientStep, hstep]; rfl, hinv⟩

/-- **TLLI ROUTING**: a run of client operations that meet the guard comes
    through, and then every PDU goes to the client that holds its TLLI. -/
theorem tlli_routing (ops : List (Op Comp))
    (hguard : RunGuard.Guarded clientStep ClientGuard
      (clientTableInit : ClientTable tableSize Comp) ops) :
    ∃ t us, RunGuard.run clientStep
        (clientTableInit : ClientTable tableSize Comp) ops = .ok (t, us)
      ∧ RoutesTlli t (RunGuard.specRun clientsStep (fun _ => none) ops).1 := by
  have hok := RunGuard.runOk_of_guarded (fun _ _ _ h hG => clientInv_step h hG)
    ops clientTableInit (fun _ => none) clientInv_init hguard
  obtain ⟨t, hrun, hinv⟩ := hok.run_eq clientInv_init
  exact ⟨t, _, hrun, hinv.routes⟩

instance (t : ClientTable n Comp) : (op : Op Comp) →
    Decidable (ClientGuard t op)
  | .register _ tlli client => inferInstanceAs (Decidable
      ((∃ i, (t i).compRef = none)
        ∧ ∀ i, (t i).live ≠ some client ∧ (t i).carries tlli = false))
  | .unregister imsi client => inferInstanceAs (Decidable
      (∀ i, (t i).imsi = some imsi → (t i).live = some client))
  | .llgmmAssign tlliOld tlliNew client => inferInstanceAs (Decidable
      ((∃ i, (t i).live = some client)
        ∧ ∀ i, (t i).live = some client → ∀ j, j ≠ i →
          ((t j).live ≠ none ∨ j < i) →
          (given tlliOld tlliNew).all (fun u => !(t j).carries u) = true))

end Runs

/-- Two clients, one of which gets a new TLLI, and one that leaves. -/
def twoClients : List (Op Nat) :=
  [.register [2, 6, 2] 0xc0000001#32 10, .register [2, 6, 3] 0xc0000002#32 20,
    .llgmmAssign 0xc0000001#32 0xc0000003#32 10, .unregister [2, 6, 3] 20,
    .llgmmAssign 0xc0000001#32 unassigned 10]

/-- Two clients, one of which changes its TLLI. -/
theorem tlli_routing_twoClients : ∃ t us,
    RunGuard.run clientStep (clientTableInit : ClientTable tableSize Nat)
        twoClients = .ok (t, us)
      ∧ RoutesTlli t (RunGuard.specRun clientsStep (fun _ => none) twoClients).1 :=
  tlli_routing twoClients (by decide)

/-- A client leaves and comes back. -/
def comeBack : List (Op Nat) :=
  [.register [2, 6, 2] 0xc0000001#32 10, .unregister [2, 6, 2] 10,
    .register [2, 6, 2] 0xc0000001#32 10]

/-- **THE OLD SLOT IS FOUND FIRST**: the PDUs of the client do not reach it. -/
theorem comeBack_unreached : ∃ t us,
    RunGuard.run clientStep (clientTableInit : ClientTable tableSize Nat) comeBack
        = .ok (t, us)
      ∧ route t (some 0xc0000001#32) = .createCb 0xc0000001#32
      ∧ (RunGuard.specRun clientsStep (fun _ => none) comeBack).1 10
        = some ⟨[2, 6, 2], 0xc0000001#32, none⟩
      ∧ ¬ RoutesTlli t (RunGuard.specRun clientsStep (fun _ => none) comeBack).1 := by
  refine ⟨_, _, rfl, rfl, rfl, ?_⟩
  intro h
  exact nomatch (h.1 0xc0000001#32 10).mpr ⟨_, rfl, Or.inl rfl⟩

end OsmoBssgpClient
