import OsmoTtcn.KeyedSlotsProofs
import OsmoTtcn.SlotPoolProofs
import OsmoTtcn.SpecRunProofs
import OsmoTtcn.TitanProofs

/-! # Routing of the GSUP emulation

    `GSUP_Emulation` maps IMSIs to the components that handle them.  A message
    for an IMSI that is not known goes to the component that expects it, which
    has the IMSI from then on, until it is unregistered or another component
    takes it over.

    An entry whose IMSI is the empty string is free, so a message with an empty
    IMSI always finds an entry.  `gsup_routing` proves the emulation right of
    every run in which no message and no call names the empty IMSI. -/

namespace OsmoGsup

open OsmoTitan SlotTable SlotMap KeyedSlots SlotPool SpecRun RunGuard

-- ── Data ─────────────────────────────────────────────────────────────────────

/-- `charstring`, as a list of characters. -/
abbrev Charstring := List Char

/-- `hex2str` -/
def hex2str (h : List (Fin 16)) : Charstring :=
  h.map (fun d => ("0123456789ABCDEF".toList).getD d.val '0')

/-- An IE of a GSUP message; only the IMSI is read. -/
inductive GsupIe where
  | imsi (imsi : List (Fin 16))
  | other (tag : Nat) (value : List UInt8)
  deriving DecidableEq, Repr

/-- `GSUP_PDU` -/
structure GsupPdu where
  msgType : Nat
  ies : List GsupIe
  deriving DecidableEq, Repr

/-- `hex2str(gsup.ies[0].val.imsi)` -/
def imsiOf (gsup : GsupPdu) : Except Fault Charstring :=
  match gsup.ies with
  | [] => .error .badIndex
  | .imsi imsi :: _ => .ok (hex2str imsi)
  | .other _ _ :: _ => .error (.ttcnError
      "Using non-selected field imsi in a value of union type @GSUP_Types.GSUP_IeValue.")

/-- represents a single GSUP call -/
structure ConnectionData (Comp : Type) where
  /-- `none`: the null reference. -/
  compRef : Option Comp
  imsi : Charstring
  deriving DecidableEq

/-- data about an expected future incoming connection -/
structure ExpectData (Comp : Type) where
  imsi : Option Charstring
  vcConn : Option Comp
  deriving DecidableEq

/-- `GsupImsiTable` -/
abbrev ImsiTable (Comp : Type) : Type := Fin 256 → ConnectionData Comp

/-- `GsupExpectTable` -/
abbrev ExpectTable (Comp : Type) : Type := Fin 256 → ExpectData Comp

/-- The two tables of `GSUP_Emulation_CT`. -/
structure State (Comp : Type) where
  gsupImsiTable : ImsiTable Comp
  gsupExpectTable : ExpectTable Comp

/-- `f_imsi_table_init`, `f_expect_table_init` -/
def tablesInit {Comp : Type} : State Comp where
  gsupImsiTable := fun _ => { compRef := none, imsi := [] }
  gsupExpectTable := fun _ => { imsi := none, vcConn := none }

/-- What a round of `main` can start with. -/
inductive Input (Comp : Type) where
  | eventIdAck
  | eventUp
  | eventDown
  | gsup (pdu : GsupPdu)
  /-- Anything else from the socket. -/
  | otherMsg
  | clientGsup (vcConn : Comp) (pdu : GsupPdu)
  | registerExpect (imsi : Charstring) (hdlr : Comp)
  | unregisterExpect (imsi : Charstring) (hdlr : Comp)
  | unregisterConnhdlr (imsi : Charstring) (sender : Comp)
  | changeConnhdlr (imsi : Charstring) (hdlr : Comp)
  deriving DecidableEq

/-- What a round of `main` sends, and on which port. -/
inductive Output (Comp : Type) where
  | toClient (vcConn : Comp) (pdu : GsupPdu)
  | toSocket (pdu : GsupPdu)
  | reply (hdlr : Comp)
  deriving DecidableEq

-- ── Functions ────────────────────────────────────────────────────────────────

section Functions

variable {Comp : Type} [DecidableEq Comp]

/-- The entry of an IMSI. -/
def findImsi (t : ImsiTable Comp) (imsi : Charstring) : Option (Fin 256) :=
  find t (fun c => decide (c.imsi = imsi))

/-- `f_imsi_known` -/
def fImsiKnown (t : ImsiTable Comp) (imsi : Charstring) : Bool := (findImsi t imsi).isSome

/-- resolve component reference by connection ID -/
def fCompByImsi (t : ImsiTable Comp) (imsi : Charstring) : Except Fault (Option Comp) :=
  (orShutdown (findImsi t imsi) "GSUP IMSI table not found by IMSI ").map
    (fun i => (t i).compRef)

/-- `f_imsi_table_add` -/
def fImsiTableAdd (t : ImsiTable Comp) (compRef : Option Comp) (imsi : Charstring) :
    Except Fault (ImsiTable Comp) :=
  (orShutdown (findImsi t []) "GSUP IMSI table full!").map
    (fun i => Function.update t i { compRef := compRef, imsi := imsi })

/-- `f_imsi_table_del` -/
def fImsiTableDel (t : ImsiTable Comp) (imsi : Charstring) :
    Except Fault (ImsiTable Comp) :=
  (orShutdown (findImsi t imsi) "GSUP IMSI table attempt to delete non-existant ").map
    (fun i => Function.update t i { compRef := none, imsi := [] })

/-- `create_cb` of `GsupOps`: it may use the tables, and returns a component. -/
abbrev GsupCreateCallback (Comp : Type) : Type :=
  State Comp → GsupPdu → Except Fault (State Comp × Option Comp)

/-- CreateCallback that can be used as create_cb and will use the expectation
    table -/
def expectedCreateCallback : GsupCreateCallback Comp := fun s gsup =>
  (imsiOf gsup).bind fun imsi =>
  (orShutdown (find s.gsupExpectTable (fun e => decide (e.imsi = some imsi)))
    "Couldn't find GsupExpect for incoming imsi ").map fun i =>
      ({ s with gsupExpectTable :=
          Function.update s.gsupExpectTable i { imsi := none, vcConn := none } },
        (s.gsupExpectTable i).vcConn)

/-- server/emulation side function to create expect -/
def fCreateExpect (t : ExpectTable Comp) (imsi : Charstring) (hdlr : Comp) :
    Except Fault (ExpectTable Comp) :=
  (orShutdown (find t (fun e => e.imsi.isNone)) "No space left in GsupExpectTable").map
    (fun i => Function.update t i { imsi := some imsi, vcConn := some hdlr })

/-- server/emulation side function to destroy expect -/
def fDestroyExpect (t : ExpectTable Comp) (imsi : Charstring) (hdlr : Comp) :
    Except Fault (ExpectTable Comp) :=
  (orShutdown (find t (fun e => decide (e.imsi = some imsi ∧ e.vcConn = some hdlr)))
    "No matching expect found to be destoyed").map
    (fun i => Function.update t i { imsi := none, vcConn := none })

/-- A message from the socket.  The null reference is no component to send
    to. -/
def onGsup (createCb : GsupCreateCallback Comp) (s : State Comp) (gsup : GsupPdu) :
    Except Fault (State Comp × List (Output Comp)) :=
  (imsiOf gsup).bind fun imsi =>
    if fImsiKnown s.gsupImsiTable imsi then
      (fCompByImsi s.gsupImsiTable imsi).bind fun compRef =>
      (bound compRef).map fun vcConn => (s, [.toClient vcConn gsup])
    else
      (createCb s gsup).bind fun r =>
      (fImsiTableAdd r.1.gsupImsiTable r.2 imsi).bind fun t =>
      (bound r.2).map fun vcConn =>
        ({ r.1 with gsupImsiTable := t }, [.toClient vcConn gsup])

/-- One round of `main`. -/
def mainStep (createCb : GsupCreateCallback Comp) (s : State Comp) :
    Input Comp → Except Fault (State Comp × List (Output Comp))
  | .eventIdAck => .ok (s, [])
  | .eventUp => .ok (s, [])
  | .eventDown => .error (.shutdown "GSUP Connection Lost")
  | .gsup pdu => onGsup createCb s pdu
  | .otherMsg => .ok (s, [])
  | .clientGsup _ pdu => .ok (s, [.toSocket pdu])
  | .registerExpect imsi hdlr =>
      (fCreateExpect s.gsupExpectTable imsi hdlr).map fun t =>
        ({ s with gsupExpectTable := t }, [.reply hdlr])
  | .unregisterExpect imsi hdlr =>
      (fDestroyExpect s.gsupExpectTable imsi hdlr).map fun t =>
        ({ s with gsupExpectTable := t }, [.reply hdlr])
  | .unregisterConnhdlr imsi sender =>
      (fImsiTableDel s.gsupImsiTable imsi).map fun t =>
        ({ s with gsupImsiTable := t }, [.reply sender])
  | .changeConnhdlr imsi hdlr =>
      (fImsiTableDel s.gsupImsiTable imsi).bind fun t =>
      (fImsiTableAdd t (some hdlr) imsi).map fun t =>
        ({ s with gsupImsiTable := t }, [.reply hdlr])

end Functions

-- ── What the tables are for ──────────────────────────────────────────────────

/-- Who has an IMSI, and who expects one. -/
structure Routing (Comp : Type) where
  route : Charstring → Option Comp
  expects : Pool 256 (Charstring × Comp)

section Spec

variable {Comp : Type} [DecidableEq Comp]

/-- Nobody has an IMSI and nobody expects one. -/
def noRouting : Routing Comp := ⟨fun _ => none, fun _ => none⟩

/-- The expectation is for the IMSI. -/
def forImsi (imsi : Charstring) (e : Charstring × Comp) : Bool := decide (e.1 = imsi)

/-- **THE ROUTING**: what may happen on each input. -/
inductive GsupAllowed (g : Routing Comp) :
    Input Comp → Routing Comp → List (Output Comp) → Prop
  | eventIdAck : GsupAllowed g .eventIdAck g []
  | eventUp : GsupAllowed g .eventUp g []
  | otherMsg : GsupAllowed g .otherMsg g []
  | clientGsup (vcConn pdu) : GsupAllowed g (.clientGsup vcConn pdu) g [.toSocket pdu]
  | known {pdu imsi vcConn} (himsi : imsiOf pdu = .ok imsi)
      (hroute : g.route imsi = some vcConn) :
      GsupAllowed g (.gsup pdu) g [.toClient vcConn pdu]
  | expected {pdu imsi k vcConn} (himsi : imsiOf pdu = .ok imsi)
      (hroute : g.route imsi = none)
      (hfirst : FirstFit g.expects (forImsi imsi) k (imsi, vcConn)) :
      GsupAllowed g (.gsup pdu)
        ⟨Function.update g.route imsi (some vcConn), Function.update g.expects k none⟩
        [.toClient vcConn pdu]
  | registerExpect {imsi hdlr k} (hfree : FirstFree g.expects k) :
      GsupAllowed g (.registerExpect imsi hdlr)
        { g with expects := Function.update g.expects k (some (imsi, hdlr)) }
        [.reply hdlr]
  | unregisterExpect {imsi hdlr k}
      (hfirst : FirstFit g.expects (fun e => decide (e = (imsi, hdlr))) k (imsi, hdlr)) :
      GsupAllowed g (.unregisterExpect imsi hdlr)
        { g with expects := Function.update g.expects k none } [.reply hdlr]
  | unregisterConnhdlr {imsi sender vcConn} (hroute : g.route imsi = some vcConn) :
      GsupAllowed g (.unregisterConnhdlr imsi sender)
        { g with route := Function.update g.route imsi none } [.reply sender]
  | changeConnhdlr {imsi hdlr vcConn} (hroute : g.route imsi = some vcConn) :
      GsupAllowed g (.changeConnhdlr imsi hdlr)
        { g with route := Function.update g.route imsi (some hdlr) } [.reply hdlr]

/-- Where the test may end: the connection is lost, a message has no IMSI, a
    table is full, or there is nothing of what an input is about. -/
def GsupStops (g : Routing Comp) : Input Comp → Prop
  | .eventDown => True
  | .gsup pdu => ∀ imsi, imsiOf pdu = .ok imsi → g.route imsi = none
      ∧ (NoFit g.expects (forImsi imsi) ∨ Full 256 g.route)
  | .registerExpect _ _ => Crowded g.expects
  | .unregisterExpect imsi hdlr => NoFit g.expects (fun e => decide (e = (imsi, hdlr)))
  | .unregisterConnhdlr imsi _ => g.route imsi = none
  | .changeConnhdlr imsi _ => g.route imsi = none
  | .eventIdAck | .eventUp | .otherMsg | .clientGsup _ _ => False

/-- The IMSI that an input is about. -/
def Input.about : Input Comp → Option Charstring
  | .gsup pdu => (imsiOf pdu).toOption
  | .registerExpect imsi _ | .unregisterExpect imsi _ | .unregisterConnhdlr imsi _
  | .changeConnhdlr imsi _ => some imsi
  | .eventIdAck | .eventUp | .eventDown | .otherMsg | .clientGsup _ _ => none

/-- **INDEPENDENCE**: the route and the expectations of every other IMSI stay as
    they are. -/
def Untouched (g : Routing Comp) (i : Input Comp) (g' : Routing Comp) : Prop :=
  ∀ imsi, i.about ≠ some imsi → g'.route imsi = g.route imsi
    ∧ ∀ k vcConn, g'.expects k = some (imsi, vcConn) ↔ g.expects k = some (imsi, vcConn)

/-- No input names the empty IMSI. -/
def Input.Named (i : Input Comp) : Prop := i.about ≠ some []

instance (i : Input Comp) : Decidable i.Named :=
  inferInstanceAs (Decidable (i.about ≠ some []))

end Spec

-- ── The IMSI table ───────────────────────────────────────────────────────────

section Tables

variable {Comp : Type}

/-- What a slot holds. -/
def entry (s : ConnectionData Comp) : Option (Charstring × Comp) :=
  if s.imsi = [] then none else s.compRef.map (fun c => (s.imsi, c))

/-- One entry for each IMSI that has a component, and no entry without one. -/
structure Table (t : ImsiTable Comp) (route : Charstring → Option Comp) : Prop where
  rep : Represents entry t route
  whole : ∀ i, (t i).imsi ≠ [] → (t i).compRef ≠ none

variable {t t' : ImsiTable Comp} {route : Charstring → Option Comp}
variable {imsi : Charstring} {c : Comp} {i : Fin 256}

/-- The IMSI is the key of a slot, and the empty one is no key. -/
theorem table_iff : Table t route
    ↔ Keeps (keyUnless [] ConnectionData.imsi) ConnectionData.compRef t route := by
  refine Iff.trans ?_ (keeps_keyUnless entry (fun _ => rfl)).symm
  exact ⟨fun h => ⟨h.rep, h.whole⟩, fun h => ⟨h.1, h.2⟩⟩

/-- At first nobody has an IMSI. -/
theorem table_init :
    Table (tablesInit : State Comp).gsupImsiTable (fun _ => none) :=
  table_iff.mpr (keeps_empty (fun _ => rfl))

/-- An IMSI is looked up in vain if nobody has it. -/
theorem Table.find_none (h : Table t route) (hne : imsi ≠ []) :
    findImsi t imsi = none ↔ route imsi = none := by
  rw [findImsi, find_keyUnless hne]
  exact (table_iff.mp h).find_none imsi

/-- Else its entry is found, with its component. -/
theorem Table.find_some (h : Table t route) (hne : imsi ≠ [])
    (hr : route imsi = some c) : ∃ i, findImsi t imsi = some i
      ∧ (t i).imsi = imsi ∧ (t i).compRef = some c := by
  obtain ⟨i, hf, hi, hc⟩ := (table_iff.mp h).find_some hr
  refine ⟨i, ?_, (keyUnless_some hne).mp hi, hc⟩
  rw [findImsi, find_keyUnless hne]
  exact hf

variable [DecidableEq Comp]

omit [DecidableEq Comp] in
/-- **AN IMSI GETS A COMPONENT**, unless all 256 slots are taken. -/
theorem Table.add (h : Table t route) (hne : imsi ≠ []) (hr : route imsi = none) (c : Comp) :
    (∃ t', fImsiTableAdd t (some c) imsi = .ok t'
        ∧ Table t' (Function.update route imsi (some c)))
      ∨ (∃ e, fImsiTableAdd t (some c) imsi = .error e) ∧ Full 256 route := by
  rw [fImsiTableAdd, findImsi, find_keyUnless_none]
  rcases (table_iff.mp h).add hr c with ⟨i, hf, hadd⟩ | ⟨hf, hfull⟩
  · rw [hf]
    exact Or.inl ⟨_, rfl, table_iff.mpr
      (hadd { compRef := some c, imsi := imsi } ((keyUnless_some hne).mpr rfl) rfl)⟩
  · rw [hf]
    exact Or.inr ⟨⟨_, rfl⟩, hfull⟩

omit [DecidableEq Comp] in
/-- **AN IMSI LOSES ITS COMPONENT.** -/
theorem Table.del (h : Table t route) (hne : imsi ≠ []) (hr : route imsi = some c) :
    ∃ t', fImsiTableDel t imsi = .ok t' ∧ Table t' (Function.update route imsi none) := by
  obtain ⟨i, hf, hi, hc⟩ := h.find_some hne hr
  refine ⟨Function.update t i { compRef := none, imsi := [] },
    by rw [fImsiTableDel, hf]; rfl, table_iff.mpr ?_⟩
  exact (table_iff.mp h).del ((keyUnless_some hne).mpr hi) hc (keyUnless_none.mpr rfl)

omit [DecidableEq Comp] in
/-- An IMSI that nobody has cannot be deleted. -/
theorem Table.del_none (h : Table t route) (hne : imsi ≠ []) (hr : route imsi = none) :
    ∃ e, fImsiTableDel t imsi = .error e :=
  ⟨_, by rw [fImsiTableDel, (h.find_none hne).mpr hr]; rfl⟩

omit [DecidableEq Comp] in
/-- A slot that was freed has room, so a change of component finds one. -/
theorem Table.room (h : Table t route) (hne : imsi ≠ []) (hr : route imsi = some c) :
    ∃ t', fImsiTableDel t imsi = .ok t' ∧ ∀ c', ∃ t'',
      fImsiTableAdd t' (some c') imsi = .ok t''
        ∧ Table t'' (Function.update route imsi (some c')) := by
  obtain ⟨t', hdel, h'⟩ := h.del hne hr
  refine ⟨t', hdel, fun c' => ?_⟩
  obtain ⟨i, -, hupd⟩ := map_ok hdel
  have hfree : (t' i).imsi = [] := by
    rw [← hupd, Function.update_self]
  have hsome : findImsi t' [] ≠ none := by
    intro hnone
    rw [findImsi] at hnone
    exact of_decide_eq_false (find_eq_none.mp hnone i) hfree
  rcases h'.add hne (Function.update_self imsi none route) c' with
    ⟨t'', hadd, h''⟩ | ⟨⟨e, hadd⟩, -⟩
  · rw [Function.update_idem] at h''
    exact ⟨t'', hadd, h''⟩
  · exact absurd (orShutdown_eq_error.mp (map_error hadd)).1 hsome

-- ── The expectations ─────────────────────────────────────────────────────────

/-- What a slot of the expectations says. -/
def ExpectIs (s : ExpectData Comp) : Option (Charstring × Comp) → Prop
  | none => s.imsi = none
  | some (imsi, c) => s.imsi = some imsi ∧ s.vcConn = some c

variable {x : ExpectTable Comp} {a : Pool 256 (Charstring × Comp)}

omit [DecidableEq Comp] in
/-- An entry is free if nothing is in it. -/
theorem expectIs_isNone (s : ExpectData Comp) (o : Option (Charstring × Comp))
    (h : ExpectIs s o) : s.imsi.isNone = o.isNone := by
  cases o with
  | none =>
      rw [show s.imsi = none from h]
      rfl
  | some e =>
      rw [h.1]
      rfl

omit [DecidableEq Comp] in
/-- An entry has the IMSI that was put there. -/
theorem expectIs_forImsi (imsi : Charstring) (s : ExpectData Comp)
    (o : Option (Charstring × Comp)) (h : ExpectIs s o) :
    decide (s.imsi = some imsi) = o.any (forImsi imsi) := by
  cases o with
  | none =>
      rw [show s.imsi = none from h]
      rfl
  | some e =>
      rw [h.1]
      exact decide_eq_decide.mpr (Option.some_inj.trans Iff.rfl)

/-- An entry is the one of an IMSI and a component if both were put there. -/
theorem expectIs_exactly (imsi : Charstring) (c : Comp) (s : ExpectData Comp)
    (o : Option (Charstring × Comp)) (h : ExpectIs s o) :
    decide (s.imsi = some imsi ∧ s.vcConn = some c)
      = o.any (fun e => decide (e = (imsi, c))) := by
  cases o with
  | none =>
      rw [show s.imsi = none from h]
      exact decide_eq_false (fun hand => nomatch hand.1)
  | some e =>
      obtain ⟨imsi', c'⟩ := e
      rw [h.1, h.2]
      refine decide_eq_decide.mpr ?_
      rw [Option.some_inj, Option.some_inj, Prod.mk.injEq]

omit [DecidableEq Comp] in
/-- **THE EARLIEST EXPECTATION** for the IMSI is consumed. -/
theorem take_expect {s : State Comp} {pdu : GsupPdu} (himsi : imsiOf pdu = .ok imsi)
    (h : Shadows ExpectIs s.gsupExpectTable a) :
    (∃ k c x, expectedCreateCallback s pdu
          = .ok ({ s with gsupExpectTable := x }, some c)
        ∧ FirstFit a (forImsi imsi) k (imsi, c)
        ∧ Shadows ExpectIs x (Function.update a k none))
      ∨ (∃ e, expectedCreateCallback s pdu = .error e) ∧ NoFit a (forImsi imsi) := by
  have hsearch : find s.gsupExpectTable (fun e => decide (e.imsi = some imsi))
      = find a (fun o => o.any (forImsi imsi)) := h.find (expectIs_forImsi imsi)
  rw [expectedCreateCallback, himsi]
  dsimp only [Except.bind]
  rw [hsearch]
  cases hf : find a (fun o => o.any (forImsi imsi)) with
  | none => exact Or.inr ⟨⟨_, rfl⟩, find_fit_none.mp hf⟩
  | some k =>
      obtain ⟨⟨imsi', c⟩, hfit⟩ := find_fit hf
      have himsi' : imsi' = imsi := of_decide_eq_true hfit.2.1
      subst himsi'
      have hk : ExpectIs (s.gsupExpectTable k) (some (imsi', c)) := hfit.1 ▸ h k
      refine Or.inl ⟨k, c, Function.update s.gsupExpectTable k
        { imsi := none, vcConn := none }, ?_, hfit, h.update rfl⟩
      dsimp only [orShutdown, Except.map]
      rw [hk.2]

omit [DecidableEq Comp] in
/-- **A NEW EXPECTATION** takes the first free slot. -/
theorem create_expect (h : Shadows ExpectIs x a) (imsi : Charstring) (c : Comp) :
    (∃ k x', fCreateExpect x imsi c = .ok x' ∧ FirstFree a k
        ∧ Shadows ExpectIs x' (Function.update a k (some (imsi, c))))
      ∨ (∃ e, fCreateExpect x imsi c = .error e) ∧ Crowded a := by
  rw [fCreateExpect, h.find expectIs_isNone]
  cases hf : find a (fun o => o.isNone) with
  | none => exact Or.inr ⟨⟨_, rfl⟩, find_free_none.mp hf⟩
  | some k => exact Or.inl ⟨k, _, rfl, find_free_iff.mp hf, h.update ⟨rfl, rfl⟩⟩

/-- **AN EXPECTATION IS WITHDRAWN**, the earliest with this IMSI and component. -/
theorem destroy_expect (h : Shadows ExpectIs x a) (imsi : Charstring) (c : Comp) :
    (∃ k x', fDestroyExpect x imsi c = .ok x'
        ∧ FirstFit a (fun e => decide (e = (imsi, c))) k (imsi, c)
        ∧ Shadows ExpectIs x' (Function.update a k none))
      ∨ (∃ e, fDestroyExpect x imsi c = .error e)
        ∧ NoFit a (fun e => decide (e = (imsi, c))) := by
  rw [fDestroyExpect, h.find (expectIs_exactly imsi c)]
  cases hf : find a (fun o => o.any (fun e => decide (e = (imsi, c)))) with
  | none => exact Or.inr ⟨⟨_, rfl⟩, find_fit_none.mp hf⟩
  | some k =>
      obtain ⟨e, hfit⟩ := find_fit hf
      have he : e = (imsi, c) := of_decide_eq_true hfit.2.1
      exact Or.inl ⟨k, _, rfl, he ▸ hfit, h.update rfl⟩

end Tables

-- ── Rounds ───────────────────────────────────────────────────────────────────

section Rounds

variable {Comp : Type} [DecidableEq Comp] {s : State Comp} {g : Routing Comp}

/-- The two tables say who has an IMSI and who expects one; no two entries have
    the same IMSI. -/
structure Routes (s : State Comp) (g : Routing Comp) : Prop where
  table : Table s.gsupImsiTable g.route
  expects : Shadows ExpectIs s.gsupExpectTable g.expects

omit [DecidableEq Comp] in
/-- The emulation starts with empty tables. -/
theorem routes_init : Routes (tablesInit : State Comp) noRouting where
  table := table_init
  expects := fun _ => rfl

/-- The step of the emulation that uses the expectations. -/
abbrev gsupStep : State Comp → Input Comp →
    Except Fault (State Comp × List (Output Comp)) :=
  mainStep expectedCreateCallback

/-- **A MESSAGE** for an IMSI that is not empty. -/
theorem onGsup_follows {pdu : GsupPdu} (h : Routes s g)
    (hnamed : (Input.gsup pdu : Input Comp).Named) :
    StepFollows gsupStep GsupAllowed GsupStops Routes s g (.gsup pdu) := by
  cases himsi : imsiOf pdu with
  | error e =>
      have hstep : gsupStep s (.gsup pdu) = .error e := by
        rw [gsupStep, mainStep, onGsup, himsi]
        rfl
      refine stepFollows_error hstep (fun imsi hok => ?_)
      rw [himsi] at hok
      exact nomatch hok
  | ok imsi =>
      have hne : imsi ≠ [] := by
        rintro rfl
        exact hnamed (by rw [Input.about, himsi]; rfl)
      have hstep : gsupStep s (.gsup pdu) = onGsup expectedCreateCallback s pdu := rfl
      rw [onGsup, himsi] at hstep
      dsimp only [Except.bind] at hstep
      cases hr : g.route imsi with
      | some c =>
          obtain ⟨i, hf, -, hc⟩ := h.table.find_some hne hr
          have hknown : fImsiKnown s.gsupImsiTable imsi = true := by
            rw [fImsiKnown, hf]
            rfl
          have hcomp : fCompByImsi s.gsupImsiTable imsi = .ok (some c) := by
            rw [fCompByImsi, hf]
            dsimp only [orShutdown, Except.map]
            rw [hc]
          rw [if_pos hknown, hcomp] at hstep
          exact stepFollows_ok hstep (.known himsi hr) h
      | none =>
          have hf := (h.table.find_none hne).mpr hr
          have hknown : fImsiKnown s.gsupImsiTable imsi ≠ true := by
            rw [fImsiKnown, hf]
            exact nofun
          rw [if_neg hknown] at hstep
          rcases take_expect himsi h.expects with ⟨k, c, x, hcb, hfit, hx⟩ | ⟨⟨e, hcb⟩, hno⟩
          · rw [hcb] at hstep
            dsimp only at hstep
            rcases h.table.add hne hr c with ⟨t', hadd, ht'⟩ | ⟨⟨e, hadd⟩, hfull⟩
            · rw [hadd] at hstep
              exact stepFollows_ok hstep (.expected himsi hr hfit) ⟨ht', hx⟩
            · rw [hadd] at hstep
              refine stepFollows_error hstep (fun imsi' hok => ?_)
              rw [himsi] at hok
              rw [← Except.ok.inj hok]
              exact ⟨hr, Or.inr hfull⟩
          · rw [hcb] at hstep
            refine stepFollows_error hstep (fun imsi' hok => ?_)
            rw [himsi] at hok
            rw [← Except.ok.inj hok]
            exact ⟨hr, Or.inl hno⟩

/-- **ONE ROUND** that names no empty IMSI. -/
theorem gsupStep_follows (i : Input Comp) (h : Routes s g) (hnamed : i.Named) :
    StepFollows gsupStep GsupAllowed GsupStops Routes s g i := by
  have hne : ∀ imsi, i.about = some imsi → imsi ≠ [] := by
    rintro imsi habout rfl
    exact hnamed habout
  by_cases hgsup : ∃ pdu, i = .gsup pdu
  · obtain ⟨pdu, rfl⟩ := hgsup
    exact onGsup_follows h hnamed
  refine stepFollows_of ?_
  cases i with
  | gsup pdu => exact absurd ⟨pdu, rfl⟩ hgsup
  | eventIdAck => exact Or.inr ⟨_, _, _, rfl, .eventIdAck, h⟩
  | eventUp => exact Or.inr ⟨_, _, _, rfl, .eventUp, h⟩
  | eventDown => exact Or.inl ⟨_, rfl, trivial⟩
  | otherMsg => exact Or.inr ⟨_, _, _, rfl, .otherMsg, h⟩
  | clientGsup vcConn pdu => exact Or.inr ⟨_, _, _, rfl, (.clientGsup vcConn pdu), h⟩
  | registerExpect imsi hdlr =>
      have hstep : gsupStep s (.registerExpect imsi hdlr)
          = mainStep expectedCreateCallback s (.registerExpect imsi hdlr) := rfl
      rw [mainStep] at hstep
      rcases create_expect h.expects imsi hdlr with ⟨k, x', hx, hfree, hx'⟩ | ⟨⟨e, hx⟩, hall⟩
      · rw [hx] at hstep
        exact Or.inr ⟨_, _, _, hstep, (.registerExpect hfree), ⟨h.table, hx'⟩⟩
      · rw [hx] at hstep
        exact Or.inl ⟨_, hstep, hall⟩
  | unregisterExpect imsi hdlr =>
      have hstep : gsupStep s (.unregisterExpect imsi hdlr)
          = mainStep expectedCreateCallback s (.unregisterExpect imsi hdlr) := rfl
      rw [mainStep] at hstep
      rcases destroy_expect h.expects imsi hdlr with ⟨k, x', hx, hfit, hx'⟩ | ⟨⟨e, hx⟩, hno⟩
      · rw [hx] at hstep
        exact Or.inr ⟨_, _, _, hstep, (.unregisterExpect hfit), ⟨h.table, hx'⟩⟩
      · rw [hx] at hstep
        exact Or.inl ⟨_, hstep, hno⟩
  | unregisterConnhdlr imsi sender =>
      have hstep : gsupStep s (.unregisterConnhdlr imsi sender)
          = mainStep expectedCreateCallback s (.unregisterConnhdlr imsi sender) := rfl
      rw [mainStep] at hstep
      cases hr : g.route imsi with
      | none =>
          obtain ⟨e, hdel⟩ := h.table.del_none (hne imsi rfl) hr
          rw [hdel] at hstep
          exact Or.inl ⟨_, hstep, hr⟩
      | some c =>
          obtain ⟨t', hdel, ht'⟩ := h.table.del (hne imsi rfl) hr
          rw [hdel] at hstep
          exact Or.inr ⟨_, _, _, hstep, (.unregisterConnhdlr hr), ⟨ht', h.expects⟩⟩
  | changeConnhdlr imsi hdlr =>
      have hstep : gsupStep s (.changeConnhdlr imsi hdlr)
          = mainStep expectedCreateCallback s (.changeConnhdlr imsi hdlr) := rfl
      rw [mainStep] at hstep
      cases hr : g.route imsi with
      | none =>
          obtain ⟨e, hdel⟩ := h.table.del_none (hne imsi rfl) hr
          rw [hdel] at hstep
          exact Or.inl ⟨_, hstep, hr⟩
      | some c =>
          obtain ⟨t', hdel, hroom⟩ := h.table.room (hne imsi rfl) hr
          obtain ⟨t'', hadd, ht''⟩ := hroom hdlr
          rw [hdel] at hstep
          dsimp only [Except.bind] at hstep
          rw [hadd] at hstep
          exact Or.inr ⟨_, _, _, hstep, (.changeConnhdlr hr), ⟨ht'', h.expects⟩⟩

omit [DecidableEq Comp] in
/-- A pool where one place changes, that is not about this IMSI. -/
theorem expects_elsewhere {a : Pool 256 (Charstring × Comp)} {k : Fin 256}
    {o : Option (Charstring × Comp)} {imsi imsi' : Charstring} (hne : imsi' ≠ imsi)
    (hold : ∀ x, a k = some x → x.1 = imsi) (hnew : ∀ x, o = some x → x.1 = imsi)
    (j : Fin 256) (c : Comp) :
    Function.update a k o j = some (imsi', c) ↔ a j = some (imsi', c) := by
  refine update_elsewhere (q := forImsi imsi') (decide_eq_true rfl) ?_ ?_
  · intro x hx
    refine decide_eq_false (fun heq => hne ?_)
    rw [← heq, hold x hx]
  · intro x hx
    refine decide_eq_false (fun heq => hne ?_)
    rw [← heq, hnew x hx]

/-- **INDEPENDENCE** of what is allowed. -/
theorem GsupAllowed.untouched {i : Input Comp} {g' : Routing Comp}
    {os : List (Output Comp)} (h : GsupAllowed g i g' os) : Untouched g i g' := by
  intro imsi' habout
  cases h with
  | eventIdAck => exact ⟨rfl, fun _ _ => Iff.rfl⟩
  | eventUp => exact ⟨rfl, fun _ _ => Iff.rfl⟩
  | otherMsg => exact ⟨rfl, fun _ _ => Iff.rfl⟩
  | clientGsup vcConn pdu => exact ⟨rfl, fun _ _ => Iff.rfl⟩
  | known himsi hroute => exact ⟨rfl, fun _ _ => Iff.rfl⟩
  | @expected pdu imsi k vcConn himsi hroute hfirst =>
      have hne : imsi' ≠ imsi := by
        rintro rfl
        exact habout (by rw [Input.about, himsi]; rfl)
      refine ⟨Function.update_of_ne hne _ _, expects_elsewhere hne ?_ nofun⟩
      intro x hx
      rw [hfirst.1] at hx
      rw [← Option.some.inj hx]
  | @registerExpect imsi hdlr k hfree =>
      have hne : imsi' ≠ imsi := fun heq => habout (congrArg some heq.symm)
      refine ⟨rfl, expects_elsewhere hne ?_ ?_⟩
      · intro x hx
        rw [hfree.1] at hx
        exact nomatch hx
      · intro x hx
        rw [← Option.some.inj hx]
  | @unregisterExpect imsi hdlr k hfirst =>
      have hne : imsi' ≠ imsi := fun heq => habout (congrArg some heq.symm)
      refine ⟨rfl, expects_elsewhere hne ?_ nofun⟩
      intro x hx
      rw [hfirst.1] at hx
      rw [← Option.some.inj hx]
  | @unregisterConnhdlr imsi sender vcConn hroute =>
      have hne : imsi' ≠ imsi := fun heq => habout (congrArg some heq.symm)
      exact ⟨Function.update_of_ne hne _ _, fun _ _ => Iff.rfl⟩
  | @changeConnhdlr imsi hdlr vcConn hroute =>
      have hne : imsi' ≠ imsi := fun heq => habout (congrArg some heq.symm)
      exact ⟨Function.update_of_ne hne _ _, fun _ _ => Iff.rfl⟩

end Rounds

-- ── Runs ─────────────────────────────────────────────────────────────────────

/-- **GSUP ROUTING**: a run that names no empty IMSI goes as the routing allows,
    up to a stop that it allows; one step leaves every IMSI alone that it is not
    about; and in every state the tables are the routing, with at most one entry
    for an IMSI. -/
theorem gsup_routing {Comp : Type} [DecidableEq Comp] (is : List (Input Comp))
    (hnamed : ∀ i ∈ is, i.Named) :
    Follows gsupStep (fun g i g' os => GsupAllowed g i g' os ∧ Untouched g i g')
      GsupStops (fun s g => Routes s g ∧ KeyUnique (key entry) s.gsupImsiTable)
      tablesInit noRouting is := by
  have hguard : Guarded gsupStep (fun _ i => True ∧ i.Named) tablesInit is :=
    (guarded_of_forall (fun _ _ => trivial) is tablesInit).and_inputs hnamed
  refine (follows_of_guarded ?_ is tablesInit noRouting routes_init hguard).imp
    (fun s g h => ⟨h, h.table.rep.unique⟩)
  intro s g i h hi
  have hone := gsupStep_follows i h hi.2
  rw [StepFollows] at hone ⊢
  cases hs : gsupStep s i with
  | error e =>
      rw [hs] at hone
      exact hone
  | ok r =>
      rw [hs] at hone
      obtain ⟨g', hallowed, hr⟩ := hone
      exact ⟨g', ⟨hallowed, hallowed.untouched⟩, hr⟩

/-- A message for IMSI 262 or with the empty IMSI. -/
def gsup262 : GsupPdu where
  msgType := 8
  ies := [.imsi [2, 6, 2]]

/-- A message with an empty IMSI. -/
def gsupNoDigits : GsupPdu where
  msgType := 8
  ies := [.imsi []]

/-- Component 7 expects IMSI 262 and gets it, component 8 takes it over. -/
def takeOver : List (Input Nat) :=
  [.registerExpect ['2', '6', '2'] 7, .gsup gsup262, .changeConnhdlr ['2', '6', '2'] 8,
   .gsup gsup262, .unregisterConnhdlr ['2', '6', '2'] 8]

/-- An IMSI that one component takes over from another. -/
theorem gsup_routing_takeOver :
    (∀ i ∈ takeOver, i.Named)
      ∧ Follows gsupStep (fun g i g' os => GsupAllowed g i g' os ∧ Untouched g i g')
        GsupStops (fun s g => Routes s g ∧ KeyUnique (key entry) s.gsupImsiTable)
        tablesInit noRouting takeOver :=
  have hnamed : ∀ i ∈ takeOver, i.Named := by decide
  ⟨hnamed, gsup_routing takeOver hnamed⟩

/-- Component 7 expects the empty IMSI, and a message with it comes. -/
def emptyImsi : List (Input Nat) := [.registerExpect [] 7, .gsup gsupNoDigits]

/-- The state after the first of them. -/
def emptyExpected : State Nat where
  gsupImsiTable := tablesInit.gsupImsiTable
  gsupExpectTable := Function.update tablesInit.gsupExpectTable 0
    { imsi := some [], vcConn := some 7 }

/-- An empty IMSI is taken for a free entry. -/
theorem emptyImsi_notRouted :
    ¬ Follows gsupStep (fun g i g' os => GsupAllowed g i g' os ∧ Untouched g i g')
      GsupStops (fun s g => Routes s g ∧ KeyUnique (key entry) s.gsupImsiTable)
      tablesInit noRouting emptyImsi := by
  have hs1 : gsupStep (tablesInit : State Nat) (.registerExpect [] 7)
      = .ok (emptyExpected, [.reply 7]) := by
    have hfind : find (tablesInit : State Nat).gsupExpectTable (fun e => e.imsi.isNone)
        = some 0 := find_eq_some.mpr ⟨rfl, fun j hj => absurd hj (Fin.not_lt_zero j)⟩
    rw [gsupStep, mainStep, fCreateExpect, hfind]
    rfl
  -- The first free slot of the IMSI table is found, which has no component.
  have hs2 : gsupStep emptyExpected (.gsup gsupNoDigits) = .error .unbound := by
    have hfind : findImsi emptyExpected.gsupImsiTable [] = some 0 :=
      find_eq_some.mpr ⟨rfl, fun j hj => absurd hj (Fin.not_lt_zero j)⟩
    have himsi : imsiOf gsupNoDigits = .ok [] := rfl
    rw [gsupStep, mainStep, onGsup, himsi]
    dsimp only [Except.bind]
    rw [fImsiKnown, fCompByImsi, hfind]
    rfl
  have hstops : ∀ g', GsupAllowed noRouting (.registerExpect [] (7 : Nat)) g' [.reply 7] →
      ¬ GsupStops g' (.gsup gsupNoDigits) := by
    intro g' hallowed hstops
    cases hallowed with
    | @registerExpect _ _ k hfree =>
        obtain ⟨-, hno | hfull⟩ := hstops [] rfl
        · have hfit := hno k ([], 7) (Function.update_self k _ _)
          exact nomatch hfit
        · exact not_full_of_none (fun _ => rfl) (by decide) hfull
  exact not_follows_cons hs1 (fun g' hallowed =>
    not_follows_error hs2 (hstops g' hallowed.1))

end OsmoGsup
