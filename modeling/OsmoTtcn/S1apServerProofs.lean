import Mathlib.Data.List.InsertIdx
import OsmoTtcn.KeyedListProofs
import OsmoTtcn.SpecRunProofs

/-! # The S1AP server

    `s1gw/S1AP_Server.ttcn` accepts connections of eNBs and passes S1AP on
    between them and its users.  A user registers for an eNB; which connection
    is that of the eNB is learned from the S1 SETUP REQUEST.  The server keeps
    a list of connections and a list of users, and every entry of the second
    has a copy of what is to be looked up in the first.

    `Net` is what the server is for, without the copies.  `s1ap_server_iff`
    says in which runs the server does just that: those in which no connection
    sets up a second eNB after one that a user is registered for.

    A connection of the port has a number; a user that has none (−1 in the
    source) has `none` here. -/

namespace OsmoS1apServer

open KeyedList RunGuard SpecRun

variable {C G P : Type}

-- ── Data ─────────────────────────────────────────────────────────────────────

/-- A single eNB connection; the eNB can be unbound. -/
structure ConnData (G : Type) where
  conn_id : Nat
  genb_id : Option G

/-- A single `ConnHdlr`. -/
structure ConnHdlrData (C G : Type) where
  vc_conn : C
  genb_id : G
  conn_id : Option Nat

/-- The variables of the component. -/
structure Server (C G : Type) where
  g_conn_list : List (ConnData G) := []
  g_conn_hdlr_list : List (ConnHdlrData C G) := []

/-- `S1APSRV_Event` -/
inductive Event where
  | connUp
  | connDown
  deriving DecidableEq, Repr

/-- Why the test case ends, by the text of the verdict. -/
inductive Stop (C G : Type) where
  /-- "Connection (id=", conn_id, ") is already added" -/
  | alreadyAdded (conn_id : Nat)
  /-- "Connection (id=", conn_id, ") is not known" -/
  | notKnown (conn_id : Nat)
  /-- "Duplicate Global eNB ID ", genb_id -/
  | duplicate (genb_id : G)
  /-- "There is no connection for Global eNB ID ", genb_id -/
  | noConnection (genb_id : G)
  /-- "Global eNB ID ", genb_id, " is already registered" -/
  | alreadyRegistered (genb_id : G)
  /-- "Global eNB ID ", genb_id, " is not registered" -/
  | notRegistered (genb_id : G)
  /-- "Component ", vc_conn, " is not registered" -/
  | unknownComponent (vc_conn : C)
  /-- "S1AP connection is not up" -/
  | notUp
  deriving DecidableEq, Repr

/-- What a round of `main` can start with. -/
inductive Input (C G P : Type) where
  /-- A PDU from an eNB. -/
  | fromEnb (connId : Nat) (msg : P)
  /-- A PDU from a `ConnHdlr`. -/
  | fromHdlr (vc_conn : C) (msg : P)
  | connOpened (connId : Nat)
  | connClosed (connId : Nat)
  | sctpEvent
  | register (vc_conn : C) (genb_id : G)
  | unregister (vc_conn : C) (genb_id : G)
  | closeConn (vc_conn : C) (genb_id : G)

/-- What a round of `main` sends, and on which port. -/
inductive Output (C P : Type) where
  | toHdlr (vc_conn : C) (msg : P)
  | toEnb (connId : Nat) (msg : P)
  | event (vc_conn : C) (ev : Event)
  | close (connId : Nat)
  | reply (vc_conn : C)
  deriving DecidableEq, Repr

-- ── Functions ────────────────────────────────────────────────────────────────

section Functions

variable [DecidableEq G]

/-- `f_conn_find_by_conn_id` -/
def fConnFindByConnId (s : Server C G) (conn_id : Nat) : Option Nat :=
  s.g_conn_list.findIdx? (fun c => decide (some c.conn_id = some conn_id))

/-- `f_conn_find_by_genb_id` -/
def fConnFindByGenbId (s : Server C G) (genb_id : G) : Option Nat :=
  s.g_conn_list.findIdx? (fun c => decide (c.genb_id = some genb_id))

/-- `f_conn_add` -/
def fConnAdd (s : Server C G) (conn_id : Nat) : Except (Stop C G) (Server C G) :=
  if (fConnFindByConnId s conn_id).isSome then .error (.alreadyAdded conn_id)
  else .ok { s with g_conn_list := s.g_conn_list ++ [⟨conn_id, none⟩] }

/-- `f_ConnHdlr_update`: who is registered for the eNB is told. -/
def fConnHdlrUpdate (s : Server C G) (genb_id : G) (conn_id : Option Nat) :
    Server C G × List (Output C P) :=
  ({ s with g_conn_hdlr_list := s.g_conn_hdlr_list.map fun h =>
      if h.genb_id = genb_id then { h with conn_id := conn_id } else h },
    s.g_conn_hdlr_list.filterMap fun h =>
      if h.genb_id = genb_id then
        some (.event h.vc_conn (if conn_id = none then .connDown else .connUp))
      else none)

/-- The loop of `f_conn_del`. -/
def fConnDelLoop (conn_id : Nat) :
    List (ConnData G) → Server C G → Server C G × List (Output C P)
  | [], s => (s, [])
  | c :: cs, s =>
      if c.conn_id = conn_id then
        match c.genb_id with
        | some genb_id =>
            let r := fConnHdlrUpdate s genb_id none
            let r' := fConnDelLoop conn_id cs r.1
            (r'.1, r.2 ++ r'.2)
        | none => fConnDelLoop conn_id cs s
      else fConnDelLoop conn_id cs s

/-- `f_conn_del` -/
def fConnDel (s : Server C G) (conn_id : Nat) :
    Except (Stop C G) (Server C G × List (Output C P)) :=
  let r := fConnDelLoop conn_id s.g_conn_list s
  let conn_list := s.g_conn_list.filter fun c => decide (some c.conn_id ≠ some conn_id)
  if conn_list.length = s.g_conn_list.length then .error (.notKnown conn_id)
  else .ok ({ r.1 with g_conn_list := conn_list }, r.2)

/-- `f_conn_set_genb_id` -/
def fConnSetGenbId (s : Server C G) (conn_id : Nat) (genb_id : G) :
    Except (Stop C G) (Server C G × List (Output C P)) :=
  if (fConnFindByGenbId s genb_id).isSome then .error (.duplicate genb_id)
  else
    match fConnFindByConnId s conn_id with
    | none => .error (.notKnown conn_id)
    | some idx => .ok (fConnHdlrUpdate { s with
        g_conn_list := s.g_conn_list.modify idx fun c => { c with genb_id := some genb_id } }
        genb_id (some conn_id))

/-- `f_conn_close_by_genb_id` -/
def fConnCloseByGenbId (s : Server C G) (genb_id : G) :
    Except (Stop C G) (Server C G × List (Output C P)) :=
  match (fConnFindByGenbId s genb_id).bind (fun idx => s.g_conn_list[idx]?) with
  | none => .error (.noConnection genb_id)
  | some c => (fConnDel s c.conn_id).map fun r => (r.1, .close c.conn_id :: r.2)

/-- `f_ConnHdlr_find_by_conn_id`, and what is there. -/
def fConnHdlrFindByConnId (s : Server C G) (conn_id : Nat) : Option (ConnHdlrData C G) :=
  s.g_conn_hdlr_list.find? fun h => decide (h.conn_id = some conn_id)

/-- `f_ConnHdlr_find_by_genb_id` -/
def fConnHdlrFindByGenbId (s : Server C G) (genb_id : G) : Option Nat :=
  s.g_conn_hdlr_list.findIdx? fun h => decide (some h.genb_id = some genb_id)

/-- `f_ConnHdlr_find_by_vc_conn`, and what is there. -/
def fConnHdlrFindByVcConn [DecidableEq C] (s : Server C G) (vc_conn : C) :
    Option (ConnHdlrData C G) :=
  s.g_conn_hdlr_list.find? fun h => decide (h.vc_conn = vc_conn)

/-- `f_ConnHdlr_add`.  A connection that is there already is not announced. -/
def fConnHdlrAdd (s : Server C G) (vc_conn : C) (genb_id : G) :
    Except (Stop C G) (Server C G) :=
  if (fConnHdlrFindByGenbId s genb_id).isSome then .error (.alreadyRegistered genb_id)
  else
    let conn := (fConnFindByGenbId s genb_id).bind (fun idx => s.g_conn_list[idx]?)
    .ok { s with g_conn_hdlr_list :=
      s.g_conn_hdlr_list ++ [⟨vc_conn, genb_id, conn.map (·.conn_id)⟩] }

/-- `f_ConnHdlr_del_by_genb_id` -/
def fConnHdlrDelByGenbId (s : Server C G) (genb_id : G) : Except (Stop C G) (Server C G) :=
  match fConnHdlrFindByGenbId s genb_id with
  | none => .error (.notRegistered genb_id)
  | some idx => .ok { s with g_conn_hdlr_list := s.g_conn_hdlr_list.eraseIdx idx }

/-- What a PDU of a connection is passed on to. -/
def forward (s : Server C G) (connId : Nat) (msg : P) : List (Output C P) :=
  match fConnHdlrFindByConnId s connId with
  | some h => [.toHdlr h.vc_conn msg]
  | none => []

/-- One round of `main`.  `setup` is the eNB of a message that is an S1 SETUP
    REQUEST. -/
def step [DecidableEq C] (setup : P → Option G) (s : Server C G) :
    Input C G P → Except (Stop C G) (Server C G × List (Output C P))
  | .fromEnb connId msg =>
      match setup msg with
      | some genb_id => (fConnSetGenbId s connId genb_id).map fun r =>
          (r.1, r.2 ++ forward r.1 connId msg)
      | none => .ok (s, forward s connId msg)
  | .fromHdlr vc_conn msg =>
      match fConnHdlrFindByVcConn s vc_conn with
      | none => .error (.unknownComponent vc_conn)
      | some h =>
          match h.conn_id with
          | none => .error .notUp
          | some connId => .ok (s, [.toEnb connId msg])
  | .connOpened connId => (fConnAdd s connId).map fun s' => (s', [])
  | .connClosed connId => fConnDel s connId
  | .sctpEvent => .ok (s, [])
  | .register vc_conn genb_id =>
      (fConnHdlrAdd s vc_conn genb_id).map fun s' => (s', [.reply vc_conn])
  | .unregister vc_conn genb_id =>
      (fConnHdlrDelByGenbId s genb_id).map fun s' => (s', [.reply vc_conn])
  | .closeConn vc_conn genb_id =>
      (fConnCloseByGenbId s genb_id).map fun r => (r.1, r.2 ++ [.reply vc_conn])

end Functions

-- ── What it is for ───────────────────────────────────────────────────────────

/-- Which connections there are, which is that of an eNB, and who is registered
    for which eNB, in order. -/
structure Net (C G : Type) where
  opened : Nat → Bool := fun _ => false
  owner : G → Option Nat := fun _ => none
  regs : List (C × G) := []

/-- Who is registered for the eNB of a connection. -/
def Net.user (n : Net C G) (connId : Nat) : Option C :=
  (n.regs.find? fun r => decide (n.owner r.2 = some connId)).map (·.1)

/-- Everybody who is registered for an eNB of the connection is told. -/
def Net.tell (n : Net C G) (connId : Nat) (ev : Event) : List (Output C P) :=
  n.regs.filterMap fun r => if n.owner r.2 = some connId then some (.event r.1 ev) else none

/-- The end of a connection takes its eNB along. -/
def Net.close (n : Net C G) (connId : Nat) : Net C G where
  opened := Function.update n.opened connId false
  owner := fun g => if n.owner g = some connId then none else n.owner g
  regs := n.regs

/-- The connection is that of the eNB, and of no other any more. -/
def Net.setup [DecidableEq G] (n : Net C G) (connId : Nat) (genb_id : G) : Net C G where
  opened := n.opened
  owner := Function.update (fun g => if n.owner g = some connId then none else n.owner g)
    genb_id (some connId)
  regs := n.regs

/-- A PDU goes to the user of its connection. -/
def Net.forward (n : Net C G) (connId : Nat) (msg : P) : List (Output C P) :=
  (n.user connId).toList.map (.toHdlr · msg)

/-- What may come of an input; `none` where it is refused. -/
def Net.step [DecidableEq C] [DecidableEq G] (setup : P → Option G) (n : Net C G) :
    Input C G P → Option (Net C G × List (Output C P))
  | .fromEnb connId msg =>
      match setup msg with
      | some g =>
          if n.owner g = none ∧ n.opened connId = true then
            some (n.setup connId g,
              (n.setup connId g).tell connId .connUp ++ (n.setup connId g).forward connId msg)
          else none
      | none => some (n, n.forward connId msg)
  | .fromHdlr vc msg =>
      -- of several registrations it is the first
      (n.regs.find? fun r => decide (r.1 = vc)).bind fun r =>
        (n.owner r.2).map fun connId => (n, [.toEnb connId msg])
  | .connOpened connId =>
      if n.opened connId = true then none
      else some ({ n with opened := Function.update n.opened connId true }, [])
  | .connClosed connId =>
      if n.opened connId = true then some (n.close connId, n.tell connId .connDown) else none
  | .sctpEvent => some (n, [])
  | .register vc g =>
      if g ∈ n.regs.map (·.2) then none
      else some ({ n with regs := n.regs ++ [(vc, g)] }, [.reply vc])
  | .unregister vc g =>
      if g ∈ n.regs.map (·.2) then
        some ({ n with regs := n.regs.filter fun r => decide (r.2 ≠ g) }, [.reply vc])
      else none
  | .closeConn vc g => (n.owner g).map fun connId =>
      (n.close connId, .close connId :: n.tell connId .connDown ++ [.reply vc])

-- ── The server and what it is for ────────────────────────────────────────────

/-- An entry of the list of users, with its copy. -/
def entry (owner : G → Option Nat) (r : C × G) : ConnHdlrData C G := ⟨r.1, r.2, owner r.2⟩

/-- The lists are those of the net, and every copy is right. -/
structure Rel (s : Server C G) (n : Net C G) : Prop where
  ids : Unique (fun c : ConnData G => some c.conn_id) s.g_conn_list
  opened : ∀ i, n.opened i = true ↔ ∃ c ∈ s.g_conn_list, c.conn_id = i
  owner : Represents (fun c : ConnData G => c.genb_id) (fun c => c.conn_id) s.g_conn_list n.owner
  regs : Unique (fun r : C × G => some r.2) n.regs
  hdlrs : s.g_conn_hdlr_list = n.regs.map (entry n.owner)

theorem rel_start : Rel ({} : Server C G) {} where
  ids := unique_nil
  opened := fun i => iff_of_false Bool.false_ne_true (by simp)
  owner := represents_nil
  regs := unique_nil
  hdlrs := rfl

variable {s : Server C G} {n : Net C G}

theorem fConnFindByConnId_isSome (h : Rel s n) (i : Nat) :
    (fConnFindByConnId s i).isSome ↔ n.opened i = true := by
  rw [fConnFindByConnId, List.findIdx?_isSome, h.opened, List.any_eq_true]
  simp

/-- Who is registered for the eNB of a connection is found by its copy. -/
theorem find_hdlr (h : Rel s n) (connId : Nat) :
    (fConnHdlrFindByConnId s connId).map (·.vc_conn) = n.user connId := by
  rw [fConnHdlrFindByConnId, h.hdlrs, List.find?_map, Option.map_map]
  rfl

theorem forward_eq (h : Rel s n) (connId : Nat) (msg : P) :
    forward s connId msg = n.forward connId msg := by
  rw [forward, Net.forward, ← find_hdlr h]
  cases fConnHdlrFindByConnId s connId with
  | none => rfl
  | some hdlr => rfl

variable [DecidableEq G]

theorem fConnFindByGenbId_isSome (h : Rel s n) (g : G) :
    (fConnFindByGenbId s g).isSome ↔ n.owner g ≠ none := by
  rw [fConnFindByGenbId, List.findIdx?_isSome, List.any_eq_true, ne_eq, h.owner.get_none]
  simp

/-- What is at the index found has the number that the net knows. -/
theorem connOf_genb (h : Rel s n) (g : G) :
    ((fConnFindByGenbId s g).bind (fun idx => s.g_conn_list[idx]?)).map (·.conn_id)
      = n.owner g := by
  rw [fConnFindByGenbId, findIdx_get]
  exact h.owner.holder g

theorem fConnHdlrFindByGenbId_isSome (h : Rel s n) (g : G) :
    (fConnHdlrFindByGenbId s g).isSome ↔ g ∈ n.regs.map (·.2) := by
  rw [fConnHdlrFindByGenbId, List.findIdx?_isSome, h.hdlrs, List.any_eq_true]
  simp [entry]

-- ── Copies ───────────────────────────────────────────────────────────────────

/-- `f_ConnHdlr_update` where all copies are right: they are right for the eNB's
    new connection. -/
theorem map_update (owner : G → Option Nat) (regs : List (C × G)) (g : G) (i : Option Nat) :
    (regs.map (entry owner)).map
        (fun h => if h.genb_id = g then { h with conn_id := i } else h)
      = regs.map (entry (Function.update owner g i)) := by
  rw [List.map_map]
  refine List.map_congr_left fun r _ => ?_
  by_cases hr : r.2 = g
  · simp [entry, hr]
  · simp [entry, hr]

/-- Who is told. -/
theorem told (owner : G → Option Nat) (regs : List (C × G)) (g : G) (ev : Event) {i : Nat}
    (h : ∀ r ∈ regs, owner r.2 = some i ↔ r.2 = g) :
    ((regs.map (entry owner)).filterMap fun h =>
        if h.genb_id = g then some (Output.event (P := P) h.vc_conn ev) else none)
      = regs.filterMap fun r => if owner r.2 = some i then some (.event r.1 ev) else none := by
  rw [List.filterMap_map]
  refine List.filterMap_congr fun r hr => ?_
  by_cases hg : r.2 = g
  · have ho := (h r hr).mpr hg
    rw [hg] at ho
    simp [entry, hg, ho]
  · have hne : owner r.2 ≠ some i := fun ho => hg ((h r hr).mp ho)
    simp [entry, hg, hne]

-- ── A second list, with one connection changed ───────────────────────────────

/-- **SETUP**: the connection that is found gets its eNB. -/
theorem rel_setup (h : Rel s n) {i idx : Nat} {g : G} (hidx : fConnFindByConnId s i = some idx)
    (hfree : n.owner g = none) (hguard : ∀ r ∈ n.regs, n.owner r.2 ≠ some i) :
    Rel { s with
        g_conn_list := s.g_conn_list.modify idx fun c => { c with genb_id := some g }
        g_conn_hdlr_list := n.regs.map (entry (Function.update n.owner g (some i))) }
      (n.setup i g) := by
  have hmodify : s.g_conn_list.modify idx (fun c => { c with genb_id := some g })
      = s.g_conn_list.map fun c =>
        if decide (some c.conn_id = some i) = true then { c with genb_id := some g } else c :=
    modify_findIdx (h.ids.atMostOne i) hidx
  have hnone := h.owner.get_none.mp hfree
  have hopened : ∃ c ∈ s.g_conn_list, c.conn_id = i :=
    (h.opened i).mp ((fConnFindByConnId_isSome h i).mp (by rw [hidx]; rfl))
  rw [hmodify]
  constructor
  · refine h.ids.map_same fun c => ?_
    split <;> rfl
  · intro j
    rw [show (n.setup i g).opened = n.opened from rfl, h.opened j]
    constructor
    · rintro ⟨c, hc, rfl⟩
      refine ⟨_, List.mem_map_of_mem hc, ?_⟩
      split <;> rfl
    · rintro ⟨c', hc', rfl⟩
      obtain ⟨c, hc, rfl⟩ := List.mem_map.mp hc'
      refine ⟨c, hc, ?_⟩
      split <;> rfl
  · constructor
    · refine h.owner.unique.map_set (h.ids.atMostOne i) ?_ ?_ hnone
      · intro c hc
        rw [if_pos hc]
      · intro c hc
        rw [if_neg (by rw [hc]; decide)]
    · intro g' j
      show Function.update (fun g => if n.owner g = some i then none else n.owner g) g (some i) g'
        = some j ↔ _
      by_cases hg : g' = g
      · rw [hg, Function.update_self]
        constructor
        · intro hj
          obtain rfl := Option.some.inj hj
          obtain ⟨c, hc, rfl⟩ := hopened
          refine ⟨_, List.mem_map_of_mem hc, ?_⟩
          simp
        · rintro ⟨c', hc', hkey, rfl⟩
          obtain ⟨c, hc, rfl⟩ := List.mem_map.mp hc'
          by_cases hci : c.conn_id = i
          · simp [hci]
          · simp [hci] at hkey
            exact absurd hkey (hnone c hc)
      · rw [Function.update_of_ne hg]
        constructor
        · intro hj
          by_cases hi : n.owner g' = some i
          · rw [if_pos hi] at hj
            cases hj
          · rw [if_neg hi] at hj
            obtain ⟨c, hc, hkey, rfl⟩ := (h.owner.holds g' j).mp hj
            have hne : c.conn_id ≠ i := fun heq => hi (heq ▸ hj)
            refine ⟨_, List.mem_map_of_mem hc, ?_⟩
            simp [hne, hkey]
        · rintro ⟨c', hc', hkey, rfl⟩
          obtain ⟨c, hc, rfl⟩ := List.mem_map.mp hc'
          by_cases hci : c.conn_id = i
          · simp [hci] at hkey
            exact absurd hkey.symm hg
          · simp [hci] at hkey
            have ho := h.owner.get hc hkey
            simp [hci, ho]
  · exact h.regs
  · refine List.map_congr_left fun r hr => ?_
    rw [entry, entry, Net.setup]
    dsimp only
    by_cases hg : r.2 = g
    · rw [hg, Function.update_self, Function.update_self]
    · rw [Function.update_of_ne hg, Function.update_of_ne hg, if_neg (hguard r hr)]

omit [DecidableEq G] in
/-- **THE END OF A CONNECTION.** -/
theorem rel_close (h : Rel s n) (i : Nat) :
    Rel { s with
        g_conn_list := s.g_conn_list.filter fun c => decide (some c.conn_id ≠ some i)
        g_conn_hdlr_list := n.regs.map (entry (n.close i).owner) }
      (n.close i) where
  ids := h.ids.filter _
  opened := by
    intro j
    show Function.update n.opened i false j = true ↔ _
    by_cases hj : j = i
    · rw [hj, Function.update_self]
      exact iff_of_false Bool.false_ne_true (by simp)
    · rw [Function.update_of_ne hj, h.opened j]
      constructor
      · rintro ⟨c, hc, rfl⟩
        exact ⟨c, List.mem_filter.mpr ⟨hc, by simpa using hj⟩, rfl⟩
      · rintro ⟨c, hc, rfl⟩
        exact ⟨c, List.mem_of_mem_filter hc, rfl⟩
  owner := by
    refine ⟨h.owner.unique.filter _, fun g j => ?_⟩
    show (if n.owner g = some i then none else n.owner g) = some j ↔ _
    constructor
    · intro hj
      by_cases hi : n.owner g = some i
      · rw [if_pos hi] at hj
        cases hj
      · rw [if_neg hi] at hj
        obtain ⟨c, hc, hkey, rfl⟩ := (h.owner.holds g j).mp hj
        have hne : c.conn_id ≠ i := fun heq => hi (heq ▸ hj)
        exact ⟨c, List.mem_filter.mpr ⟨hc, by simpa using hne⟩, hkey, rfl⟩
    · rintro ⟨c, hc, hkey, rfl⟩
      obtain ⟨hc, hne⟩ := List.mem_filter.mp hc
      have ho := h.owner.get hc hkey
      have hne' : ¬ n.owner g = some i := by
        rw [ho]
        simpa using hne
      rw [if_neg hne', ho]
  regs := h.regs
  hdlrs := rfl

-- ── The functions on both lists ──────────────────────────────────────────────

theorem fConnDelLoop_none {i : Nat} : ∀ {cs : List (ConnData G)}, (∀ c ∈ cs, c.conn_id ≠ i) →
    ∀ s : Server C G, fConnDelLoop (P := P) i cs s = (s, []) := by
  intro cs
  induction cs with
  | nil => exact fun _ _ => rfl
  | cons c cs ih =>
      intro h s
      rw [fConnDelLoop, if_neg (h c List.mem_cons_self)]
      exact ih (fun c' hc' => h c' (List.mem_cons_of_mem c hc')) s

/-- The loop meets one connection. -/
theorem fConnDelLoop_eq {i : Nat} {c : ConnData G} (hci : c.conn_id = i) :
    ∀ {cs : List (ConnData G)}, Unique (fun c : ConnData G => some c.conn_id) cs → c ∈ cs →
      ∀ s : Server C G, fConnDelLoop (P := P) i cs s = match c.genb_id with
        | some g => fConnHdlrUpdate s g none
        | none => (s, []) := by
  intro cs
  induction cs with
  | nil => exact fun _ hc => absurd hc List.not_mem_nil
  | cons a cs ih =>
      intro hids hc s
      obtain ⟨hhead, htail⟩ := List.pairwise_cons.mp hids
      by_cases hai : a.conn_id = i
      · -- the others have other numbers
        have hrest : ∀ c' ∈ cs, c'.conn_id ≠ i := fun c' hc' heq =>
          hhead c' hc' a.conn_id rfl (by show some c'.conn_id = some a.conn_id; rw [heq, hai])
        have hac : c = a := by
          rcases List.mem_cons.mp hc with hca | hc'
          · exact hca
          · exact absurd hci (hrest c hc')
        rw [fConnDelLoop, if_pos hai, hac]
        cases a.genb_id with
        | none => exact fConnDelLoop_none hrest s
        | some g =>
            show (_, _) = _
            rw [fConnDelLoop_none hrest, List.append_nil]
      · have hca : c ≠ a := fun heq => hai (heq ▸ hci)
        rw [fConnDelLoop, if_neg hai]
        exact ih htail ((List.mem_cons.mp hc).resolve_left hca) s

/-- `f_conn_del` as the net has it. -/
theorem fConnDel_eq (h : Rel s n) (i : Nat) :
    fConnDel (P := P) s i = if n.opened i = true then
        .ok ({ g_conn_list := s.g_conn_list.filter fun c => decide (some c.conn_id ≠ some i)
               g_conn_hdlr_list := n.regs.map (entry (n.close i).owner) },
          n.tell i .connDown)
      else .error (.notKnown i) := by
  rw [fConnDel]
  by_cases ho : n.opened i = true
  · obtain ⟨c, hc, hci⟩ := (h.opened i).mp ho
    have hlen : ¬ (s.g_conn_list.filter fun c => decide (some c.conn_id ≠ some i)).length
        = s.g_conn_list.length := by
      rw [List.length_filter_eq_length_iff]
      intro hall
      have hne := of_decide_eq_true (hall c hc)
      exact hne (by rw [hci])
    have hgenb : ∀ g, n.owner g = some i ↔ c.genb_id = some g := by
      intro g
      constructor
      · intro hg
        obtain ⟨c', hc', hkey, hci'⟩ := (h.owner.holds g i).mp hg
        rw [h.ids.same (k := i) hc hc' (by rw [hci]) (by rw [hci']), hkey]
      · intro hkey
        rw [h.owner.get hc hkey, hci]
    rw [if_pos ho]
    dsimp only
    rw [if_neg hlen, fConnDelLoop_eq hci h.ids hc s]
    cases hkey : c.genb_id with
    | none =>
        have hno : ∀ g, n.owner g ≠ some i := fun g hg => by
          have hk := (hgenb g).mp hg
          rw [hkey] at hk
          cases hk
        have hclose : (n.close i).owner = n.owner := funext fun g => if_neg (hno g)
        have htell : n.tell i .connDown = ([] : List (Output C P)) :=
          List.filterMap_eq_nil_iff.mpr fun r _ => if_neg (hno r.2)
        rw [hclose, htell, ← h.hdlrs]
    | some g =>
        have hg : ∀ g', n.owner g' = some i ↔ g' = g := fun g' => by
          rw [hgenb, hkey, Option.some.injEq, eq_comm]
        have hclose : (n.close i).owner = Function.update n.owner g none := by
          refine funext fun g' => ?_
          show (if n.owner g' = some i then none else n.owner g') = _
          by_cases hg' : g' = g
          · rw [if_pos ((hg g').mpr hg'), hg', Function.update_self]
          · rw [if_neg (fun hi => hg' ((hg g').mp hi)), Function.update_of_ne hg']
        rw [hclose, ← map_update, ← h.hdlrs, Net.tell,
          ← told n.owner n.regs g .connDown (fun r _ => hg r.2), ← h.hdlrs]
        rfl
  · have hlen : (s.g_conn_list.filter fun c => decide (some c.conn_id ≠ some i)).length
        = s.g_conn_list.length := by
      rw [List.length_filter_eq_length_iff]
      intro c hc
      refine decide_eq_true fun heq => ho ((h.opened i).mpr ⟨c, hc, Option.some.inj heq⟩)
    rw [if_neg ho]
    exact if_pos hlen

/-- Nobody has the connection yet, or the PDU is refused, or it sets nothing
    up. -/
def NoSecondId (setup : P → Option G) (s : Server C G) : Input C G P → Prop
  | .fromEnb connId msg => ∀ g, setup msg = some g → fConnFindByGenbId s g = none →
      ∀ h ∈ s.g_conn_hdlr_list, h.conn_id ≠ some connId
  | _ => True

/-- `f_conn_set_genb_id` as the net has it. -/
theorem fConnSetGenbId_eq (h : Rel s n) {i : Nat} {g : G} (hfree : n.owner g = none)
    (hopened : n.opened i = true) : ∃ idx, fConnFindByConnId s i = some idx ∧
      fConnSetGenbId (P := P) s i g = .ok (
        { g_conn_list := s.g_conn_list.modify idx fun c => { c with genb_id := some g }
          g_conn_hdlr_list := n.regs.map (entry (Function.update n.owner g (some i))) },
        n.regs.filterMap fun r => if r.2 = g then some (.event r.1 .connUp) else none) := by
  have hnot : ¬ (fConnFindByGenbId s g).isSome = true := fun hs =>
    (fConnFindByGenbId_isSome h g).mp hs hfree
  obtain ⟨idx, hidx⟩ := Option.isSome_iff_exists.mp ((fConnFindByConnId_isSome h i).mpr hopened)
  refine ⟨idx, hidx, ?_⟩
  rw [fConnSetGenbId, if_neg hnot, hidx]
  dsimp only
  rw [fConnHdlrUpdate, h.hdlrs]
  dsimp only
  rw [map_update, List.filterMap_map]
  rfl

theorem setup_owner (n : Net C G) (i : Nat) (g g' : G) :
    (n.setup i g).owner g' = some i ↔ g' = g := by
  show Function.update (fun g => if n.owner g = some i then none else n.owner g) g (some i) g'
    = some i ↔ _
  by_cases hg : g' = g
  · rw [hg, Function.update_self]
    exact iff_of_true rfl rfl
  · rw [Function.update_of_ne hg]
    refine iff_of_false ?_ hg
    by_cases hi : n.owner g' = some i
    · rw [if_pos hi]
      exact (Option.some_ne_none i).symm
    · rw [if_neg hi]
      exact hi

omit [DecidableEq G] in
theorem owner_opened (h : Rel s n) {g : G} {i : Nat} (ho : n.owner g = some i) :
    n.opened i = true := by
  obtain ⟨c, hc, -, hci⟩ := (h.owner.holds g i).mp ho
  exact (h.opened i).mpr ⟨c, hc, hci⟩

-- ── One round ────────────────────────────────────────────────────────────────

variable [DecidableEq C] {setup : P → Option G}

/-- What the net does with an input. -/
def Allowed (setup : P → Option G) (n : Net C G) (i : Input C G P) (n' : Net C G)
    (o : List (Output C P)) : Prop :=
  n.step setup i = some (n', o)

/-- What the net refuses. -/
def Stops (setup : P → Option G) (n : Net C G) (i : Input C G P) : Prop :=
  n.step setup i = none

/-- The PDU goes on behind what its eNB makes of the lists. -/
theorem step_setup {i : Nat} {msg : P} {g : G} {r : Server C G × List (Output C P)}
    (hsetup : setup msg = some g) (hset : fConnSetGenbId s i g = .ok r) :
    step setup s (.fromEnb i msg) = .ok (r.1, r.2 ++ forward r.1 i msg) := by
  rw [step, hsetup]
  dsimp only
  rw [hset]
  rfl

/-- An S1 SETUP REQUEST: that nobody has the connection yet is just what it
    takes. -/
theorem follows_setup (h : Rel s n) {i : Nat} {msg : P} {g : G} (hsetup : setup msg = some g) :
    StepFollows (step setup) (Allowed setup) (Stops setup) Rel s n (.fromEnb i msg)
      ↔ NoSecondId setup s (.fromEnb i msg) := by
  by_cases hfree : n.owner g = none
  · have hunknown : fConnFindByGenbId s g = none := by
      rw [← Option.not_isSome_iff_eq_none, fConnFindByGenbId_isSome h g]
      exact not_not_intro hfree
    have hguard : NoSecondId setup s (.fromEnb i msg) ↔ ∀ r ∈ n.regs, n.owner r.2 ≠ some i := by
      constructor
      · intro hno r hr
        refine hno g hsetup hunknown (entry n.owner r) ?_
        rw [h.hdlrs]
        exact List.mem_map_of_mem hr
      · intro hno g' _ _ hdlr hmem
        rw [h.hdlrs] at hmem
        obtain ⟨r, hr, rfl⟩ := List.mem_map.mp hmem
        exact hno r hr
    rw [hguard]
    by_cases hopened : n.opened i = true
    · obtain ⟨idx, hidx, hset⟩ := fConnSetGenbId_eq (P := P) h hfree hopened
      have hstep := step_setup hsetup hset
      have hnet : n.step setup (.fromEnb i msg) = some (n.setup i g,
          (n.setup i g).tell i .connUp ++ (n.setup i g).forward i msg) := by
        rw [Net.step, hsetup]
        exact if_pos ⟨hfree, hopened⟩
      constructor
      · intro hfollows r hr hi
        rw [StepFollows, hstep] at hfollows
        obtain ⟨n', hallowed, hrel⟩ := hfollows
        have hn' : n' = n.setup i g :=
          (Prod.mk.inj (Option.some.inj (hallowed.symm.trans hnet))).1
        rw [hn'] at hrel
        -- the old user has the connection, whose eNB is another one now
        have hne : r.2 ≠ g := fun hg => by
          rw [hg, hfree] at hi
          cases hi
        have hcopy := List.map_inj_left.mp hrel.hdlrs r hr
        have hconn : Function.update n.owner g (some i) r.2 = (n.setup i g).owner r.2 :=
          congrArg ConnHdlrData.conn_id hcopy
        rw [Function.update_of_ne hne, hi] at hconn
        exact hne ((setup_owner n i g r.2).mp hconn.symm)
      · intro hno
        have hrel := rel_setup h hidx hfree hno
        refine stepFollows_ok hstep ?_ hrel
        have htell : (n.setup i g).tell i .connUp
            = n.regs.filterMap fun r =>
              if r.2 = g then some (Output.event (P := P) r.1 .connUp) else none :=
          List.filterMap_congr fun r _ => if_congr (setup_owner n i g r.2) rfl rfl
        rw [Allowed, hnet, htell, ← forward_eq hrel]
    · have hnot : ¬ (fConnFindByConnId s i).isSome = true := fun hs =>
        hopened ((fConnFindByConnId_isSome h i).mp hs)
      have hstep : step setup s (.fromEnb i msg) = .error (.notKnown i) := by
        rw [step, hsetup]
        dsimp only
        rw [fConnSetGenbId, hunknown, Option.not_isSome_iff_eq_none.mp hnot]
        rfl
      have hstop : Stops setup n (.fromEnb i msg) := by
        rw [Stops, Net.step, hsetup]
        exact if_neg fun hand => hopened hand.2
      exact iff_of_true (stepFollows_error hstep hstop) fun r _ ho => hopened (owner_opened h ho)
  · have hknown := (fConnFindByGenbId_isSome h g).mpr hfree
    have hstep : step setup s (.fromEnb i msg) = .error (.duplicate g) := by
      rw [step, hsetup]
      dsimp only
      rw [fConnSetGenbId, if_pos hknown]
      rfl
    have hstop : Stops setup n (.fromEnb i msg) := by
      rw [Stops, Net.step, hsetup]
      exact if_neg fun hand => hfree hand.1
    refine iff_of_true (stepFollows_error hstep hstop) fun g' hg' hnone => ?_
    rw [hsetup] at hg'
    obtain rfl := Option.some.inj hg'
    rw [hnone] at hknown
    exact absurd hknown Bool.false_ne_true

/-- What comes from a user goes to the connection in the copy. -/
theorem follows_fromHdlr (h : Rel s n) (vc : C) (msg : P) :
    StepFollows (step setup) (Allowed setup) (Stops setup) Rel s n (.fromHdlr vc msg) := by
  have hfind : fConnHdlrFindByVcConn s vc
      = (n.regs.find? fun r => decide (r.1 = vc)).map (entry n.owner) := by
    rw [fConnHdlrFindByVcConn, h.hdlrs, List.find?_map]
    rfl
  cases hr : n.regs.find? fun r => decide (r.1 = vc) with
  | none =>
      have hstep : step setup s (.fromHdlr vc msg) = .error (.unknownComponent vc) := by
        rw [step, hfind, hr]
        rfl
      refine stepFollows_error hstep ?_
      rw [Stops, Net.step, hr]
      rfl
  | some r =>
      cases ho : n.owner r.2 with
      | none =>
          have hstep : step setup s (.fromHdlr vc msg) = .error .notUp := by
            rw [step, hfind, hr]
            show (match n.owner r.2 with | none => _ | some connId => _) = _
            rw [ho]
          refine stepFollows_error hstep ?_
          rw [Stops, Net.step, hr, Option.bind_some, ho]
          rfl
      | some connId =>
          have hstep : step setup s (.fromHdlr vc msg) = .ok (s, [.toEnb connId msg]) := by
            rw [step, hfind, hr]
            show (match n.owner r.2 with | none => _ | some connId => _) = _
            rw [ho]
          refine stepFollows_ok hstep ?_ h
          rw [Allowed, Net.step, hr, Option.bind_some, ho]
          rfl

omit [DecidableEq G] [DecidableEq C] in
/-- A new connection is of no eNB. -/
theorem rel_opened (h : Rel s n) {i : Nat} (hfree : ¬ n.opened i = true) :
    Rel { s with g_conn_list := s.g_conn_list ++ [⟨i, none⟩] }
      { n with opened := Function.update n.opened i true } where
  ids := h.ids.append fun k hk c hc hck => by
    obtain rfl : i = k := Option.some.inj hk
    exact hfree ((h.opened i).mpr ⟨c, hc, Option.some.inj hck⟩)
  opened := by
    intro j
    dsimp only
    by_cases hj : j = i
    · rw [hj, Function.update_self]
      exact iff_of_true rfl ⟨⟨i, none⟩, List.mem_append_right _ List.mem_cons_self, rfl⟩
    · rw [Function.update_of_ne hj, h.opened j]
      constructor
      · rintro ⟨c, hc, hcj⟩
        exact ⟨c, List.mem_append_left _ hc, hcj⟩
      · rintro ⟨c, hc, hcj⟩
        rcases List.mem_append.mp hc with hc | hc
        · exact ⟨c, hc, hcj⟩
        · obtain rfl := List.mem_singleton.mp hc
          exact absurd hcj.symm hj
  owner := by
    refine ⟨h.owner.unique.append fun k hk => ?_, fun g j => ?_⟩
    · cases hk
    · rw [h.owner.holds g j]
      constructor
      · rintro ⟨c, hc, hcj⟩
        exact ⟨c, List.mem_append_left _ hc, hcj⟩
      · rintro ⟨c, hc, hkey, hcj⟩
        rcases List.mem_append.mp hc with hc | hc
        · exact ⟨c, hc, hkey, hcj⟩
        · obtain rfl := List.mem_singleton.mp hc
          cases hkey
  regs := h.regs
  hdlrs := h.hdlrs

omit [DecidableEq G] [DecidableEq C] in
/-- A new user has the connection that the eNB has. -/
theorem rel_register (h : Rel s n) (vc : C) {g : G} (hfree : g ∉ n.regs.map (·.2)) :
    Rel { s with g_conn_hdlr_list := s.g_conn_hdlr_list ++ [⟨vc, g, n.owner g⟩] }
      { n with regs := n.regs ++ [(vc, g)] } where
  ids := h.ids
  opened := h.opened
  owner := h.owner
  regs := h.regs.append fun k hk r hr hkey => by
    obtain rfl : g = k := Option.some.inj hk
    exact hfree (List.mem_map.mpr ⟨r, hr, Option.some.inj hkey⟩)
  hdlrs := by
    rw [List.map_append, ← h.hdlrs]
    rfl

omit [DecidableEq C] in
theorem rel_unregister (h : Rel s n) {g : G} {idx : Nat}
    (hidx : fConnHdlrFindByGenbId s g = some idx) :
    Rel { s with g_conn_hdlr_list := s.g_conn_hdlr_list.eraseIdx idx }
      { n with regs := n.regs.filter fun r => decide (r.2 ≠ g) } where
  ids := h.ids
  opened := h.opened
  owner := h.owner
  regs := h.regs.filter _
  hdlrs := by
    have hfind : n.regs.findIdx? (fun r => decide (some r.2 = some g)) = some idx := by
      rw [← hidx, fConnHdlrFindByGenbId, h.hdlrs, List.findIdx?_map]
      rfl
    have hkeep : (fun r : C × G => !decide (some r.2 = some g)) = fun r => decide (r.2 ≠ g) := by
      funext r
      simp
    rw [h.hdlrs, List.eraseIdx_map, eraseIdx_findIdx (h.regs.atMostOne g) hfind, hkeep]

/-- **ONE ROUND** goes as the net has it exactly if no connection in use becomes
    that of another eNB. -/
theorem stepFollows_iff (h : Rel s n) (i : Input C G P) :
    StepFollows (step setup) (Allowed setup) (Stops setup) Rel s n i ↔ NoSecondId setup s i := by
  cases i with
  | fromEnb connId msg =>
      cases hsetup : setup msg with
      | some g => exact follows_setup h hsetup
      | none =>
          have hstep : step setup s (.fromEnb connId msg) = .ok (s, forward s connId msg) := by
            rw [step, hsetup]
          refine iff_of_true (stepFollows_ok hstep ?_ h) fun g hg => ?_
          · rw [Allowed, Net.step, hsetup, forward_eq h]
          · rw [hsetup] at hg
            cases hg
  | fromHdlr vc msg => exact iff_of_true (follows_fromHdlr h vc msg) trivial
  | connOpened connId =>
      refine iff_of_true ?_ trivial
      by_cases ho : n.opened connId = true
      · refine stepFollows_error (e := .alreadyAdded connId) ?_ (if_pos ho)
        rw [step, fConnAdd, if_pos ((fConnFindByConnId_isSome h connId).mpr ho)]
        rfl
      · refine stepFollows_ok ?_ (if_neg ho) (rel_opened h ho)
        rw [step, fConnAdd, if_neg (mt (fConnFindByConnId_isSome h connId).mp ho)]
        rfl
  | connClosed connId =>
      refine iff_of_true ?_ trivial
      by_cases ho : n.opened connId = true
      · refine stepFollows_ok ?_ (if_pos ho) (rel_close h connId)
        rw [step, fConnDel_eq h, if_pos ho]
      · refine stepFollows_error (e := .notKnown connId) ?_ (if_neg ho)
        rw [step, fConnDel_eq h, if_neg ho]
  | sctpEvent => exact iff_of_true (stepFollows_ok rfl rfl h) trivial
  | register vc g =>
      refine iff_of_true ?_ trivial
      by_cases hg : g ∈ n.regs.map (·.2)
      · refine stepFollows_error (e := .alreadyRegistered g) ?_ (if_pos hg)
        rw [step, fConnHdlrAdd, if_pos ((fConnHdlrFindByGenbId_isSome h g).mpr hg)]
        rfl
      · refine stepFollows_ok ?_ (if_neg hg) (rel_register h vc hg)
        rw [step, fConnHdlrAdd, if_neg (mt (fConnHdlrFindByGenbId_isSome h g).mp hg)]
        dsimp only
        rw [connOf_genb h g]
        rfl
  | unregister vc g =>
      refine iff_of_true ?_ trivial
      have hsome := fConnHdlrFindByGenbId_isSome h g
      cases hidx : fConnHdlrFindByGenbId s g with
      | none =>
          have hg : g ∉ n.regs.map (·.2) := fun hg => by
            have hs := hsome.mpr hg
            rw [hidx] at hs
            exact Bool.false_ne_true hs
          refine stepFollows_error (e := .notRegistered g) ?_ (if_neg hg)
          rw [step, fConnHdlrDelByGenbId, hidx]
          rfl
      | some idx =>
          have hg : g ∈ n.regs.map (·.2) := hsome.mp (by rw [hidx]; rfl)
          refine stepFollows_ok ?_ (if_pos hg) (rel_unregister h hidx)
          rw [step, fConnHdlrDelByGenbId, hidx]
          rfl
  | closeConn vc g =>
      refine iff_of_true ?_ trivial
      have hconn := connOf_genb h g
      cases hc : (fConnFindByGenbId s g).bind (fun idx => s.g_conn_list[idx]?) with
      | none =>
          rw [hc] at hconn
          refine stepFollows_error (e := .noConnection g) ?_ ?_
          · rw [step, fConnCloseByGenbId, hc]
            rfl
          · rw [Stops, Net.step, ← hconn]
            rfl
      | some c =>
          rw [hc] at hconn
          have ho := owner_opened h hconn.symm
          have hallowed : Allowed setup n (.closeConn vc g) (n.close c.conn_id)
              (.close c.conn_id :: n.tell c.conn_id .connDown ++ [.reply vc]) := by
            rw [Allowed, Net.step, ← hconn]
            rfl
          refine stepFollows_ok ?_ hallowed (rel_close h c.conn_id)
          rw [step, fConnCloseByGenbId, hc]
          dsimp only
          rw [fConnDel_eq h, if_pos ho]
          rfl

/-- **THE S1AP SERVER**: in a run from its start it does what the net does, for
    the eNBs and for the users, and ends the test where the net refuses, exactly
    if no eNB sets up a connection that a user has as the connection of another. -/
theorem s1ap_server_iff (setup : P → Option G) (is : List (Input C G P)) :
    Follows (step setup) (Allowed setup) (Stops setup) Rel {} {} is
      ↔ Guarded (step setup) (NoSecondId setup) {} is :=
  follows_iff_guarded (fun _ _ i h => stepFollows_iff h i) is {} {} rel_start

/-- Where one does, the user of eNB 7 gets what eNB 8 says. -/
example : ((run (step fun msg => if msg < 10 then some msg else none) ({} : Server Char Nat)
      [.connOpened 0, .register 'c' 7, .fromEnb 0 7, .fromEnb 0 8, .fromEnb 0 20]).map
        fun r => r.2.getLast?).toOption
    = some (some [.toHdlr 'c' 20]) := by decide

end OsmoS1apServer
