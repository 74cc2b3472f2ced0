import OsmoTtcn.KeyedSlotsProofs
import OsmoTtcn.MnccTypesProofs
import OsmoTtcn.SpecRunProofs

/-! # Calls of the MNCC emulation

    `MNCC_Emulation` maps MNCC calls to the components that handle them.  A call
    from the socket that is not known goes to the component that expects its
    number; a component may begin a call of its own, and a call may be moved to
    another component, so that one component may have several.

    A release from the socket is for the call it names.  A release from a
    client is for the first call of the client, whatever call it names; and a
    set-up from a client is entered without a look whether its call is there
    already.  `mncc_calls` proves the table right of every run in which a client
    releases its first call and sets up new ones only. -/

namespace OsmoMnccEmulation

open OsmoTitan OsmoMncc SlotTable SlotMap KeyedSlots SpecRun

/-- A reference of a call that is an `uint32_t`. -/
def CallrefOk (pdu : MnccPdu) : Prop :=
  match pdu.u with
  | .signal s => 0 ≤ s.callref
  | .data d => 0 ≤ d.callref
  | .rtp r => 0 ≤ r.callref
  | .hello _ => True

instance : (pdu : MnccPdu) → Decidable (CallrefOk pdu)
  | ⟨_, .signal s⟩ => inferInstanceAs (Decidable (0 ≤ s.callref))
  | ⟨_, .data d⟩ => inferInstanceAs (Decidable (0 ≤ d.callref))
  | ⟨_, .rtp r⟩ => inferInstanceAs (Decidable (0 ≤ r.callref))
  | ⟨_, .hello _⟩ => .isTrue trivial

/-- An `MNCC_PDU` as a port carries it. -/
abbrev MnccMsg : Type := {pdu : MnccPdu // CallrefOk pdu}

/-- `f_mncc_get_call_id` -/
def fMnccGetCallId (pdu : MnccPdu) : Except Fault Int :=
  match pdu.u with
  | .rtp r => .ok r.callref
  | .data d => .ok d.callref
  | .signal s => .ok s.callref
  | .hello _ => .error (.shutdown "Unable to determine Callref for MNCC")

/-- represents a single MNCC call -/
structure ConnectionData (Comp : Type) where
  /-- `none`: the null reference. -/
  compRef : Option Comp
  mnccCallId : Int

/-- `MnccCallTable` -/
abbrev CallTable (Comp : Type) : Type := Fin 16 → ConnectionData Comp

/-- data about an expected future incoming connection -/
structure ExpectData (Comp : Type) where
  destNumber : Option (List UInt8)
  vcConn : Option Comp

/-- `MnccExpectTable` -/
abbrev ExpectTable (Comp : Type) : Type := Fin 8 → ExpectData Comp

/-- `MNCC_Emulation_CT` -/
structure MnccEmulationCT (Comp : Type) where
  mnccCallTable : CallTable Comp
  mnccExpectTable : ExpectTable Comp

/-- `f_expect_table_init` -/
def fExpectTableInit {Comp : Type} : ExpectTable Comp := fun _ =>
  { destNumber := none, vcConn := none }

/-- `f_call_table_init` -/
def fCallTableInit {Comp : Type} : CallTable Comp := fun _ =>
  { compRef := none, mnccCallId := -1 }

/-- `MnccOps`, and the role. -/
structure MnccOps (Comp : Type) where
  createCb : ExpectTable Comp → MnccPdu → Except Fault (ExpectTable Comp × Comp)
  unitdataCb : MnccPdu → Option MnccPdu
  roleServer : Bool

/-- MNCC_REL_IND or MNCC_REL_CNF -/
def isRelease (pdu : MnccPdu) : Bool :=
  pdu.msgType == .relInd || pdu.msgType == .relCnf

/-- What a round of `main` can start with. -/
inductive Input (Comp : Type) where
  | mncc (msg : MnccMsg)
  | client (client : Comp) (msg : MnccMsg)
  | register (destNr : List UInt8) (hdlr : Comp)
  | changeConnhdlr (mnccCallId : Nat) (hdlr : Comp)

/-- What a round of `main` sends, and on which port. -/
inductive Output (Comp : Type) where
  | mncc (pdu : MnccPdu)
  | client (client : Comp) (pdu : MnccPdu)
  deriving DecidableEq

section Functions

variable {Comp : Type} [DecidableEq Comp] (t : CallTable Comp)

-- ── The call table ───────────────────────────────────────────────────────────

/-- The entry of a call. -/
def findCallId (mnccCallId : Int) : Option (Fin 16) :=
  find t (fun c => decide (c.mnccCallId = mnccCallId))

/-- The entry of a component. -/
def findComp (client : Comp) : Option (Fin 16) :=
  find t (fun c => decide (c.compRef = some client))

/-- `f_call_id_known` -/
def fCallIdKnown (mnccCallId : Int) : Bool := (findCallId t mnccCallId).isSome

/-- resolve component reference by connection ID -/
def fCompByCallId (mnccCallId : Int) : Except Fault Comp :=
  (orShutdown (findCallId t mnccCallId)
    "MNCC Call table not found by MNCC Call ID ").bind (fun i => bound (t i).compRef)

/-- resolve connection ID by component reference -/
def fCallIdByComp (client : Comp) : Except Fault Int :=
  (orShutdown (findComp t client) "MNCC Call table not found by component ").map
    (fun i => (t i).mnccCallId)

/-- `f_call_table_add` -/
def fCallTableAdd (compRef : Comp) (mnccCallId : Int) :
    Except Fault (CallTable Comp) :=
  (orShutdown (findCallId t (-1)) "MNCC Call table full!").map
    (fun i => Function.update t i
      { compRef := some compRef, mnccCallId := mnccCallId })

/-- `f_call_table_del` -/
def fCallTableDel (mnccCallId : Int) : Except Fault (CallTable Comp) :=
  (orShutdown (findCallId t mnccCallId)
    "MNCC Call table attempt to delete non-existant ").map
    (fun i => Function.update t i { compRef := none, mnccCallId := -1 })

-- ── Expectations ─────────────────────────────────────────────────────────────

/-- `f_create_expect` -/
def fCreateExpect (e : ExpectTable Comp) (destNumber : List UInt8) (hdlr : Comp) :
    Except Fault (ExpectTable Comp) :=
  (orShutdown (find e (fun x => x.destNumber.isNone))
    "No space left in MnccMnccExpectTable").map
    (fun i => Function.update e i
      { destNumber := some destNumber, vcConn := some hdlr })

/-- CreateCallback that can be used as create_cb and will use the expectation
    table -/
def expectedCreateCallback (e : ExpectTable Comp) (connInd : MnccPdu) :
    Except Fault (ExpectTable Comp × Comp) :=
  match connInd.u with
  | .signal s =>
      if connInd.msgType ≠ .setupInd ∧ connInd.msgType ≠ .setupReq then
        .error (.shutdown "MNCC ExpectedCreateCallback needs MNCC_SETUP_{IND,REQ}")
      else
        (bound s.called).bind (fun called =>
          (orShutdown (find e (fun x => decide (x.destNumber = some called.number)))
            "Couldn't find MnccExpect for incoming call ").bind (fun i =>
              (bound (e i).vcConn).map (fun vcConn =>
                -- release this entry to be used again
                (Function.update e i { destNumber := none, vcConn := none },
                  vcConn))))
  | _ => .error (.shutdown "MNCC ExpectedCreateCallback needs MNCC_SETUP_{IND,REQ}")

/-- A callback that keeps everything. -/
def dummyUnitdataCallback (_ : MnccPdu) : Option MnccPdu := none

-- ── The main loop ────────────────────────────────────────────────────────────

/-- The client begins a call of its own. -/
def addsCall (roleServer : Bool) (pdu : MnccPdu) : Bool :=
  (pdu.msgType == .setupReq && !roleServer) || (pdu.msgType == .setupInd && roleServer)

variable (ops : MnccOps Comp) (s : MnccEmulationCT Comp)

/-- MNCC -> Client -/
def rxMncc (pdu : MnccPdu) :
    Except Fault (MnccEmulationCT Comp × List (Output Comp)) :=
  if pdu.msgType = .socketHello then
    .ok (s, ((ops.unitdataCb pdu).map .mncc).toList)
  else if isRelease pdu then
    (fMnccGetCallId pdu).bind (fun callId =>
      (fCompByCallId s.mnccCallTable callId).bind (fun vcConn =>
        (fCallTableDel s.mnccCallTable callId).map (fun t' =>
          ({ s with mnccCallTable := t' }, [.client vcConn pdu]))))
  else
    (fMnccGetCallId pdu).bind (fun callId =>
      if fCallIdKnown s.mnccCallTable callId then
        (fCompByCallId s.mnccCallTable callId).map (fun vcConn =>
          (s, [.client vcConn pdu]))
      else
        (ops.createCb s.mnccExpectTable pdu).bind (fun r =>
          (fCallTableAdd s.mnccCallTable r.2 callId).map (fun t' =>
            ({ mnccCallTable := t', mnccExpectTable := r.1 }, [.client r.2 pdu]))))

/-- Client -> MNCC Socket -/
def rxClient (client : Comp) (pdu : MnccPdu) :
    Except Fault (MnccEmulationCT Comp × List (Output Comp)) :=
  if isRelease pdu then
    (fCallIdByComp s.mnccCallTable client).bind (fun callId =>
      (fCallTableDel s.mnccCallTable callId).map (fun t' =>
        ({ s with mnccCallTable := t' }, [.mncc pdu])))
  else if addsCall ops.roleServer pdu then
    (fMnccGetCallId pdu).bind (fun callId =>
      (fCallTableAdd s.mnccCallTable client callId).map (fun t' =>
        ({ s with mnccCallTable := t' }, [.mncc pdu])))
  else .ok (s, [.mncc pdu])

/-- One round of `main`. -/
def mainStep : Input Comp →
    Except Fault (MnccEmulationCT Comp × List (Output Comp))
  | .mncc msg => rxMncc ops s msg.1
  | .client client msg => rxClient ops s client msg.1
  | .register destNr hdlr =>
      (fCreateExpect s.mnccExpectTable destNr hdlr).map (fun e' =>
        ({ s with mnccExpectTable := e' }, []))
  | .changeConnhdlr mnccCallId hdlr =>
      (fCallTableDel s.mnccCallTable mnccCallId).bind (fun t' =>
        (fCallTableAdd t' hdlr mnccCallId).map (fun t'' =>
          ({ s with mnccCallTable := t'' }, [])))

end Functions

/-- The component after its tables are initialised. -/
def mnccInit {Comp : Type} : MnccEmulationCT Comp :=
  { mnccCallTable := fCallTableInit, mnccExpectTable := fExpectTableInit }

-- ── What the table is for ────────────────────────────────────────────────────

/-- The owners of the live calls, by call id, and who expects a call. -/
structure Calls (Comp : Type) where
  owner : Int → Option Comp
  expects : ExpectTable Comp

section Spec

variable {Comp : Type} [DecidableEq Comp]

/-- **CALLS AND THEIR OWNERS**: what may happen on each input.  A message of the
    socket goes to the owner of its call, and a release ends the call it
    names. -/
inductive CallsAllowed (ops : MnccOps Comp) : Calls Comp → Input Comp →
    Calls Comp → List (Output Comp) → Prop
  | hello {g : Calls Comp} {msg : MnccMsg} (htype : msg.1.msgType = .socketHello) :
      CallsAllowed ops g (.mncc msg) g ((ops.unitdataCb msg.1).map .mncc).toList
  | release {g : Calls Comp} {msg : MnccMsg} {c client}
      (htype : isRelease msg.1 = true) (hc : fMnccGetCallId msg.1 = .ok c)
      (howner : g.owner c = some client) :
      CallsAllowed ops g (.mncc msg)
        { g with owner := Function.update g.owner c none } [.client client msg.1]
  | deliver {g : Calls Comp} {msg : MnccMsg} {c client}
      (htype : isRelease msg.1 = false) (hc : fMnccGetCallId msg.1 = .ok c)
      (howner : g.owner c = some client) :
      CallsAllowed ops g (.mncc msg) g [.client client msg.1]
  | incoming {g : Calls Comp} {msg : MnccMsg} {c client} {e : ExpectTable Comp}
      (htype : isRelease msg.1 = false) (hc : fMnccGetCallId msg.1 = .ok c)
      (hnew : g.owner c = none) (hcb : ops.createCb g.expects msg.1 = .ok (e, client)) :
      CallsAllowed ops g (.mncc msg)
        { owner := Function.update g.owner c (some client), expects := e }
        [.client client msg.1]
  | clientRelease {g : Calls Comp} {client} {msg : MnccMsg} {c}
      (htype : isRelease msg.1 = true) (hc : fMnccGetCallId msg.1 = .ok c)
      (howner : g.owner c = some client) :
      CallsAllowed ops g (.client client msg)
        { g with owner := Function.update g.owner c none } [.mncc msg.1]
  | clientSetup {g : Calls Comp} {client} {msg : MnccMsg} {c}
      (hrel : isRelease msg.1 = false) (hadd : addsCall ops.roleServer msg.1 = true)
      (hc : fMnccGetCallId msg.1 = .ok c) (hnew : g.owner c = none) :
      CallsAllowed ops g (.client client msg)
        { g with owner := Function.update g.owner c (some client) } [.mncc msg.1]
  | clientMsg {g : Calls Comp} {client} {msg : MnccMsg}
      (hrel : isRelease msg.1 = false) (hadd : addsCall ops.roleServer msg.1 = false) :
      CallsAllowed ops g (.client client msg) g [.mncc msg.1]
  | register {g : Calls Comp} {destNr hdlr} {e : ExpectTable Comp}
      (he : fCreateExpect g.expects destNr hdlr = .ok e) :
      CallsAllowed ops g (.register destNr hdlr) { g with expects := e } []
  | change {g : Calls Comp} {c : Nat} {hdlr old} (howner : g.owner c = some old) :
      CallsAllowed ops g (.changeConnhdlr c hdlr)
        { g with owner := Function.update g.owner c (some hdlr) } []

/-- Where the test may end: with a hello where a call has to be named, or a
    release of a call that there is not; a call that nobody expects; a new call
    when all 16 slots are taken; a release of a client without a call; an
    expectation when all slots are taken; or a call to be moved that there is
    not. -/
def CallsStop (ops : MnccOps Comp) (g : Calls Comp) : Input Comp → Prop
  | .mncc msg => msg.1.msgType ≠ .socketHello
      ∧ ((∃ hello, msg.1.u = .hello hello)
        ∨ ∃ c, fMnccGetCallId msg.1 = .ok c ∧ g.owner c = none
          ∧ (isRelease msg.1 = true ∨ (∃ e, ops.createCb g.expects msg.1 = .error e)
            ∨ Full 16 g.owner))
  | .client client msg =>
      (isRelease msg.1 = true ∧ ∀ c, g.owner c ≠ some client)
        ∨ (addsCall ops.roleServer msg.1 = true
          ∧ ((∃ hello, msg.1.u = .hello hello) ∨ Full 16 g.owner))
  | .register destNr hdlr => ∃ e, fCreateExpect g.expects destNr hdlr = .error e
  | .changeConnhdlr c _ => g.owner c = none

/-- Every live call is in one slot. -/
structure CallsLive (s : MnccEmulationCT Comp) (g : Calls Comp) : Prop where
  live : ∀ c client, g.owner c = some client ↔ ∃ i, c ≠ -1
    ∧ (s.mnccCallTable i).mnccCallId = c
    ∧ (s.mnccCallTable i).compRef = some client
  distinct : ∀ i j, (s.mnccCallTable i).mnccCallId ≠ -1 →
    (s.mnccCallTable i).mnccCallId = (s.mnccCallTable j).mnccCallId → i = j
  expects : s.mnccExpectTable = g.expects

/-- What an input has to meet: a client that has a call releases the first one
    of the table, and sets up a call only that is not there. -/
def CallsGuard (ops : MnccOps Comp) (s : MnccEmulationCT Comp) : Input Comp → Prop
  | .client client msg =>
      (isRelease msg.1 = true → ∀ i, findComp s.mnccCallTable client = some i →
        fMnccGetCallId msg.1 = .ok (s.mnccCallTable i).mnccCallId)
      ∧ (isRelease msg.1 = false → addsCall ops.roleServer msg.1 = true →
        ∀ i, fMnccGetCallId msg.1 ≠ .ok (s.mnccCallTable i).mnccCallId)
  | _ => True

instance (ops : MnccOps Comp) (s : MnccEmulationCT Comp) : (input : Input Comp) →
    Decidable (CallsGuard ops s input)
  | .mncc _ => .isTrue trivial
  | .client client msg => inferInstanceAs (Decidable
      ((isRelease msg.1 = true → ∀ i, findComp s.mnccCallTable client = some i →
        fMnccGetCallId msg.1 = .ok (s.mnccCallTable i).mnccCallId)
      ∧ (isRelease msg.1 = false → addsCall ops.roleServer msg.1 = true →
        ∀ i, fMnccGetCallId msg.1 ≠ .ok (s.mnccCallTable i).mnccCallId)))
  | .register _ _ => .isTrue trivial
  | .changeConnhdlr _ _ => .isTrue trivial

end Spec

-- ── The invariant ────────────────────────────────────────────────────────────

section Invariant

variable {Comp : Type}

/-- The call in a slot. -/
def entry (x : ConnectionData Comp) : Option (Int × Comp) :=
  if x.mnccCallId = -1 then none else x.compRef.map (fun client => (x.mnccCallId, client))

/-- The table holds the calls, one slot each, and a slot in use has an owner. -/
structure TableInv (t : CallTable Comp) (owner : Int → Option Comp) : Prop where
  rep : Represents entry t owner
  wf : ∀ i, (t i).mnccCallId ≠ -1 → ∃ client, (t i).compRef = some client

/-- An entry counts once it has a call and a component. -/
theorem entry_iff {x : ConnectionData Comp} {c : Int} {client : Comp} :
    entry x = some (c, client)
      ↔ c ≠ -1 ∧ x.mnccCallId = c ∧ x.compRef = some client := by
  rw [entry]
  by_cases hfree : x.mnccCallId = -1
  · rw [if_pos hfree]
    constructor
    · intro h
      exact nomatch h
    · rintro ⟨hc, hid, -⟩
      exact absurd (hid.symm.trans hfree) hc
  · rw [if_neg hfree, Option.map_eq_some_iff]
    constructor
    · rintro ⟨cl, hcl, heq⟩
      obtain ⟨rfl, rfl⟩ := Prod.mk.inj heq
      exact ⟨hfree, rfl, hcl⟩
    · rintro ⟨-, rfl, hcl⟩
      exact ⟨client, hcl, rfl⟩

/-- No message has the id that marks a free entry. -/
theorem callId_ne {msg : MnccMsg} {c : Int} (h : fMnccGetCallId msg.1 = .ok c) :
    c ≠ -1 := by
  obtain ⟨⟨mt, u⟩, hok⟩ := msg
  cases u with
  | hello hl => exact nomatch h
  | _ m =>
      have hpos : 0 ≤ m.callref := hok
      have hc : m.callref = c := Except.ok.inj h
      omega

/-- Only a hello names no call. -/
theorem callId_error {pdu : MnccPdu} {e : Fault} (h : fMnccGetCallId pdu = .error e) :
    ∃ hello, pdu.u = .hello hello := by
  rw [fMnccGetCallId] at h
  cases hu : pdu.u with
  | hello hl => exact ⟨hl, rfl⟩
  | signal s | data d | rtp r =>
      rw [hu] at h
      exact nomatch h

variable {t t' : CallTable Comp} {owner : Int → Option Comp} {i : Fin 16}
variable {c : Int} {client : Comp}

/-- The call is the key of a slot, and -1 is no key. -/
theorem tableInv_iff : TableInv t owner
    ↔ Keeps (keyUnless (-1) ConnectionData.mnccCallId) ConnectionData.compRef t owner := by
  refine Iff.trans ?_ (keeps_keyUnless entry (fun _ => rfl)).symm
  constructor
  · rintro ⟨hrep, hwf⟩
    exact ⟨hrep, fun i hne => Option.ne_none_iff_exists'.mpr (hwf i hne)⟩
  · rintro ⟨hrep, hwhole⟩
    exact ⟨hrep, fun i hne => Option.ne_none_iff_exists'.mp (hwhole i hne)⟩

/-- **THE SEARCH FOR A CALL** finds its slot. -/
theorem TableInv.findCallId (h : TableInv t owner) (hc : c ≠ -1)
    (hown : owner c = some client) : ∃ i, findCallId t c = some i
      ∧ (t i).mnccCallId = c ∧ (t i).compRef = some client := by
  obtain ⟨i, hf, hi, hcl⟩ := (tableInv_iff.mp h).find_some hown
  refine ⟨i, ?_, (keyUnless_some hc).mp hi, hcl⟩
  rw [OsmoMnccEmulation.findCallId, find_keyUnless hc]
  exact hf

/-- A call is looked up in vain if nobody owns it. -/
theorem TableInv.findCallId_none (h : TableInv t owner) (hc : c ≠ -1) :
    OsmoMnccEmulation.findCallId t c = none ↔ owner c = none := by
  rw [OsmoMnccEmulation.findCallId, find_keyUnless hc]
  exact (tableInv_iff.mp h).find_none c

/-- `f_call_id_known` says whether the call has an owner. -/
theorem TableInv.known (h : TableInv t owner) (hc : c ≠ -1) :
    fCallIdKnown t c = (owner c).isSome := by
  rw [fCallIdKnown, OsmoMnccEmulation.findCallId, find_keyUnless hc]
  exact (tableInv_iff.mp h).isSome_find c

/-- The owner of a call is found. -/
theorem TableInv.compByCallId (h : TableInv t owner) (hc : c ≠ -1)
    (hown : owner c = some client) : fCompByCallId t c = .ok client := by
  obtain ⟨i, hf, -, hcl⟩ := h.findCallId hc hown
  rw [fCompByCallId, hf]
  show bound (t i).compRef = _
  rw [hcl]
  rfl

/-- A call without an owner ends the test. -/
theorem TableInv.compByCallId_none (h : TableInv t owner) (hc : c ≠ -1)
    (hown : owner c = none) : ∃ e, fCompByCallId t c = .error e :=
  ⟨_, by rw [fCompByCallId, (h.findCallId_none hc).mpr hown]; rfl⟩

/-- A new call takes a free slot, if there is one. -/
theorem TableInv.add (client : Comp) (h : TableInv t owner) (hc : c ≠ -1)
    (hnew : owner c = none) :
    (∃ t', fCallTableAdd t client c = .ok t'
        ∧ TableInv t' (Function.update owner c (some client)))
      ∨ (∃ e, fCallTableAdd t client c = .error e) ∧ Full 16 owner := by
  rw [fCallTableAdd, OsmoMnccEmulation.findCallId, find_keyUnless_none]
  rcases (tableInv_iff.mp h).add hnew client with ⟨i, hf, hadd⟩ | ⟨hf, hfull⟩
  · rw [hf]
    exact Or.inl ⟨_, rfl, tableInv_iff.mpr
      (hadd ⟨some client, c⟩ ((keyUnless_some hc).mpr rfl) rfl)⟩
  · rw [hf]
    exact Or.inr ⟨⟨_, rfl⟩, hfull⟩

/-- A call ends, and its slot is free. -/
theorem TableInv.del (h : TableInv t owner) (hc : c ≠ -1)
    (hown : owner c = some client) : ∃ t', fCallTableDel t c = .ok t'
      ∧ TableInv t' (Function.update owner c none)
      ∧ ∃ i, (t' i).mnccCallId = -1 := by
  obtain ⟨i, hf, hi, hcl⟩ := h.findCallId hc hown
  refine ⟨Function.update t i ⟨none, -1⟩, by rw [fCallTableDel, hf]; rfl,
    tableInv_iff.mpr ?_, i, by rw [Function.update_self]⟩
  exact (tableInv_iff.mp h).del ((keyUnless_some hc).mpr hi) hcl (keyUnless_none.mpr rfl)

/-- So does deleting one. -/
theorem TableInv.del_none (h : TableInv t owner) (hc : c ≠ -1)
    (hown : owner c = none) : ∃ e, fCallTableDel t c = .error e :=
  ⟨_, by rw [fCallTableDel, (h.findCallId_none hc).mpr hown]; rfl⟩

/-- **A CALL IS MOVED**: it is deleted, so that there is a slot for it. -/
theorem TableInv.change (hdlr : Comp) (h : TableInv t owner) (hc : c ≠ -1)
    (hown : owner c = some client) : ∃ t' t'', fCallTableDel t c = .ok t'
      ∧ fCallTableAdd t' hdlr c = .ok t''
      ∧ TableInv t'' (Function.update owner c (some hdlr)) := by
  obtain ⟨t', hdel, hinv, i, hfree⟩ := h.del hc hown
  rcases hinv.add hdlr hc (Function.update_self c none owner)
    with ⟨t'', hadd, hinv'⟩ | ⟨⟨e, he⟩, -⟩
  · rw [Function.update_idem] at hinv'
    exact ⟨t', t'', hdel, hadd, hinv'⟩
  · rw [fCallTableAdd] at he
    cases hf : OsmoMnccEmulation.findCallId t' (-1) with
    | none => exact absurd hfree (of_decide_eq_false (find_eq_none.mp hf i))
    | some j =>
        rw [hf] at he
        exact nomatch he

/-- At the start nobody owns a call. -/
theorem tableInv_init : TableInv (fCallTableInit : CallTable Comp)
    (fun _ => none) where
  rep := represents_empty (fun _ => rfl)
  wf := fun _ hne => absurd rfl hne

/-- The table holds the calls, and the expectations are those there are. -/
structure CallsInv (s : MnccEmulationCT Comp) (g : Calls Comp) : Prop where
  table : TableInv s.mnccCallTable g.owner
  expects : s.mnccExpectTable = g.expects

/-- The invariant says what the specification says of the table. -/
theorem CallsInv.live {s : MnccEmulationCT Comp} {g : Calls Comp}
    (h : CallsInv s g) : CallsLive s g where
  live := by
    intro c client
    rw [h.table.rep.holds]
    exact exists_congr (fun i => entry_iff)
  distinct := by
    intro i j hi hij
    obtain ⟨cl, hcl⟩ := h.table.wf i hi
    obtain ⟨cl', hcl'⟩ := h.table.wf j (hij ▸ hi)
    exact (h.table.rep.same (entry_iff.mpr ⟨hi, rfl, hcl⟩)
      (entry_iff.mpr ⟨hi, hij.symm, hcl'⟩)).1
  expects := h.expects

-- ── Every input keeps it ─────────────────────────────────────────────────────

variable [DecidableEq Comp] {ops : MnccOps Comp} {s : MnccEmulationCT Comp}
variable {g : Calls Comp} {msg : MnccMsg}

/-- A release from the socket. -/
theorem CallsInv.mnccRelease (h : CallsInv s g) (htype : isRelease msg.1 = true)
    (hhello : msg.1.msgType ≠ .socketHello) :
    StepFollows (mainStep ops) (CallsAllowed ops) (CallsStop ops) CallsInv s g
      (.mncc msg) := by
  have hstep : mainStep ops s (.mncc msg) = (fMnccGetCallId msg.1).bind _ :=
    (if_neg hhello).trans (if_pos htype)
  cases hc : fMnccGetCallId msg.1 with
  | error e =>
      rw [hc] at hstep
      exact stepFollows_error hstep ⟨hhello, Or.inl (callId_error hc)⟩
  | ok c =>
      rw [hc] at hstep
      have hne := callId_ne hc
      cases hown : g.owner c with
      | none =>
          obtain ⟨e, he⟩ := h.table.compByCallId_none hne hown
          refine stepFollows_error (e := e) (hstep.trans ?_)
            ⟨hhello, Or.inr ⟨c, hc, hown, Or.inl htype⟩⟩
          show (fCompByCallId s.mnccCallTable c).bind _ = _
          rw [he]
          rfl
      | some client =>
          obtain ⟨t', hdel, hinv, -⟩ := h.table.del hne hown
          have hok : mainStep ops s (.mncc msg)
              = .ok ({ s with mnccCallTable := t' }, [.client client msg.1]) := by
            refine hstep.trans ?_
            show (fCompByCallId s.mnccCallTable c).bind _ = _
            rw [h.table.compByCallId hne hown]
            show (fCallTableDel s.mnccCallTable c).map _ = _
            rw [hdel]
            rfl
          exact stepFollows_ok hok (CallsAllowed.release htype hc hown)
            ⟨hinv, h.expects⟩

/-- Any other message of a call from the socket. -/
theorem CallsInv.mnccCall (h : CallsInv s g) (htype : isRelease msg.1 = false)
    (hhello : msg.1.msgType ≠ .socketHello) :
    StepFollows (mainStep ops) (CallsAllowed ops) (CallsStop ops) CallsInv s g
      (.mncc msg) := by
  have hstep : mainStep ops s (.mncc msg) = (fMnccGetCallId msg.1).bind _ :=
    (if_neg hhello).trans (if_neg (by rw [htype]; exact Bool.false_ne_true))
  cases hc : fMnccGetCallId msg.1 with
  | error e =>
      rw [hc] at hstep
      exact stepFollows_error hstep ⟨hhello, Or.inl (callId_error hc)⟩
  | ok c =>
      have hne := callId_ne hc
      have hknown := h.table.known hne
      rw [hc] at hstep
      cases hown : g.owner c with
      | some client =>
          rw [hown] at hknown
          refine stepFollows_ok (hstep.trans ((if_pos hknown).trans ?_))
            (CallsAllowed.deliver htype hc hown) h
          rw [h.table.compByCallId hne hown]
          rfl
      | none =>
          rw [hown] at hknown
          have hstep' := hstep.trans
            (if_neg (by rw [hknown]; exact Bool.false_ne_true))
          cases hcb : ops.createCb s.mnccExpectTable msg.1 with
          | error e =>
              rw [hcb] at hstep'
              refine stepFollows_error hstep' ⟨hhello,
                Or.inr ⟨c, hc, hown, Or.inr (Or.inl ⟨e, ?_⟩)⟩⟩
              rw [← h.expects, hcb]
          | ok r =>
              obtain ⟨e', client⟩ := r
              rw [hcb] at hstep'
              rcases h.table.add client hne hown
                with ⟨t', hadd, hinv⟩ | ⟨⟨e, he⟩, hfull⟩
              · have hok : mainStep ops s (.mncc msg)
                    = .ok ({ mnccCallTable := t', mnccExpectTable := e' },
                        [.client client msg.1]) := by
                  refine hstep'.trans ?_
                  show (fCallTableAdd s.mnccCallTable client c).map _ = _
                  rw [hadd]
                  rfl
                rw [h.expects] at hcb
                exact stepFollows_ok hok (CallsAllowed.incoming htype hc hown hcb)
                  ⟨hinv, rfl⟩
              · refine stepFollows_error (e := e) (hstep'.trans ?_) ⟨hhello,
                  Or.inr ⟨c, hc, hown, Or.inr (Or.inr hfull)⟩⟩
                show (fCallTableAdd s.mnccCallTable client c).map _ = _
                rw [he]
                rfl

/-- **A RELEASE FROM A CLIENT** is for the first call of the client: the guard
    says that this is the call it names. -/
theorem CallsInv.clientRelease {client : Comp} (h : CallsInv s g)
    (htype : isRelease msg.1 = true) (hguard : CallsGuard ops s (.client client msg)) :
    StepFollows (mainStep ops) (CallsAllowed ops) (CallsStop ops) CallsInv s g
      (.client client msg) := by
  have hstep : mainStep ops s (.client client msg)
      = (fCallIdByComp s.mnccCallTable client).bind _ := if_pos htype
  cases hf : findComp s.mnccCallTable client with
  | none =>
      refine stepFollows_error (e := .shutdown
        "MNCC Call table not found by component ") (hstep.trans ?_)
        (Or.inl ⟨htype, fun c hown => ?_⟩)
      · rw [fCallIdByComp, hf]
        rfl
      · obtain ⟨i, hi⟩ := (h.table.rep.holds c client).mp hown
        exact of_decide_eq_false (find_eq_none.mp hf i) (entry_iff.mp hi).2.2
  | some i =>
      have hc := hguard.1 htype i hf
      have hcl : (s.mnccCallTable i).compRef = some client :=
        of_decide_eq_true (find_eq_some.mp hf).1
      have hne := callId_ne hc
      have hown : g.owner (s.mnccCallTable i).mnccCallId = some client :=
        h.table.rep.get (entry_iff.mpr ⟨hne, rfl, hcl⟩)
      obtain ⟨t', hdel, hinv, -⟩ := h.table.del hne hown
      have hok : mainStep ops s (.client client msg)
          = .ok ({ s with mnccCallTable := t' }, [.mncc msg.1]) := by
        refine hstep.trans ?_
        rw [fCallIdByComp, hf]
        show (fCallTableDel s.mnccCallTable (s.mnccCallTable i).mnccCallId).map _ = _
        rw [hdel]
        rfl
      exact stepFollows_ok hok (CallsAllowed.clientRelease htype hc hown)
        ⟨hinv, h.expects⟩

/-- Any other message of a client. -/
theorem CallsInv.clientMsg {client : Comp} (h : CallsInv s g)
    (htype : isRelease msg.1 = false) (hguard : CallsGuard ops s (.client client msg)) :
    StepFollows (mainStep ops) (CallsAllowed ops) (CallsStop ops) CallsInv s g
      (.client client msg) := by
  have hnot : ¬ isRelease msg.1 = true := by
    rw [htype]
    exact Bool.false_ne_true
  cases hadd : addsCall ops.roleServer msg.1 with
  | false =>
      refine stepFollows_ok ((if_neg hnot).trans (if_neg ?_))
        (CallsAllowed.clientMsg htype hadd) h
      rw [hadd]
      exact Bool.false_ne_true
  | true =>
      have hstep : mainStep ops s (.client client msg)
          = (fMnccGetCallId msg.1).bind _ := (if_neg hnot).trans (if_pos hadd)
      cases hc : fMnccGetCallId msg.1 with
      | error e =>
          rw [hc] at hstep
          exact stepFollows_error hstep (Or.inr ⟨hadd, Or.inl (callId_error hc)⟩)
      | ok c =>
          rw [hc] at hstep
          have hne := callId_ne hc
          have hnew : g.owner c = none := by
            refine Option.eq_none_iff_forall_ne_some.mpr (fun cl hown => ?_)
            obtain ⟨i, hi⟩ := (h.table.rep.holds c cl).mp hown
            have hslot := hguard.2 htype hadd i
            rw [(entry_iff.mp hi).2.1] at hslot
            exact hslot hc
          rcases h.table.add client hne hnew
            with ⟨t', hadd', hinv⟩ | ⟨⟨e, he⟩, hfull⟩
          · have hok : mainStep ops s (.client client msg)
                = .ok ({ s with mnccCallTable := t' }, [.mncc msg.1]) := by
              refine hstep.trans ?_
              show (fCallTableAdd s.mnccCallTable client c).map _ = _
              rw [hadd']
              rfl
            exact stepFollows_ok hok (CallsAllowed.clientSetup htype hadd hc hnew)
              ⟨hinv, h.expects⟩
          · refine stepFollows_error (e := e) (hstep.trans ?_)
              (Or.inr ⟨hadd, Or.inr hfull⟩)
            show (fCallTableAdd s.mnccCallTable client c).map _ = _
            rw [he]
            rfl

/-- **ONE INPUT** that meets the guard. -/
theorem mainStep_follows {input : Input Comp} (h : CallsInv s g)
    (hguard : CallsGuard ops s input) :
    StepFollows (mainStep ops) (CallsAllowed ops) (CallsStop ops) CallsInv s g input := by
  cases input with
  | mncc msg =>
      by_cases hhello : msg.1.msgType = .socketHello
      · exact stepFollows_ok (if_pos hhello) (CallsAllowed.hello hhello) h
      · cases htype : isRelease msg.1 with
        | true => exact h.mnccRelease htype hhello
        | false => exact h.mnccCall htype hhello
  | client client msg =>
      cases htype : isRelease msg.1 with
      | true => exact h.clientRelease htype hguard
      | false => exact h.clientMsg htype hguard
  | register destNr hdlr =>
      cases he : fCreateExpect s.mnccExpectTable destNr hdlr with
      | error e =>
          refine stepFollows_error (e := e) (by rw [mainStep, he]; rfl) ⟨e, ?_⟩
          rw [← h.expects, he]
      | ok e' =>
          have hok : mainStep ops s (.register destNr hdlr)
              = .ok ({ s with mnccExpectTable := e' }, []) := by
            rw [mainStep, he]
            rfl
          rw [h.expects] at he
          exact stepFollows_ok hok (CallsAllowed.register he) ⟨h.table, rfl⟩
  | changeConnhdlr c hdlr =>
      have hne : (c : Int) ≠ -1 := by omega
      cases hown : g.owner c with
      | none =>
          obtain ⟨e, he⟩ := h.table.del_none hne hown
          exact stepFollows_error (by rw [mainStep, he]; rfl) hown
      | some old =>
          obtain ⟨t', t'', hdel, hadd, hinv⟩ := h.table.change hdlr hne hown
          have hok : mainStep ops s (.changeConnhdlr c hdlr)
              = .ok ({ s with mnccCallTable := t'' }, []) := by
            rw [mainStep, hdel]
            show (fCallTableAdd t' hdlr c).map _ = _
            rw [hadd]
            rfl
          exact stepFollows_ok hok (CallsAllowed.change hown) ⟨hinv, h.expects⟩

/-- **MNCC CALLS**: a run whose inputs meet the guard treats every call as the
    specification says. -/
theorem mncc_calls (ops : MnccOps Comp) (inputs : List (Input Comp))
    (hguard : RunGuard.Guarded (mainStep ops) (CallsGuard ops) mnccInit inputs) :
    Follows (mainStep ops) (CallsAllowed ops) (CallsStop ops) CallsLive mnccInit
      { owner := fun _ => none, expects := fExpectTableInit } inputs :=
  (follows_of_guarded (fun _ _ _ h hG => mainStep_follows h hG) inputs _ _
    ⟨tableInv_init, rfl⟩ hguard).imp (fun _ _ h => h.live)

omit [DecidableEq Comp] in
/-- A release of a client ends the call it names. -/
theorem CallsAllowed.release_ends [DecidableEq Comp] {client : Comp}
    {g' : Calls Comp} {os : List (Output Comp)} {c : Int}
    (h : CallsAllowed ops g (.client client msg) g' os)
    (htype : isRelease msg.1 = true) (hc : fMnccGetCallId msg.1 = .ok c) :
    g'.owner c = none := by
  cases h with
  | clientRelease _ hc' _ =>
      rw [hc] at hc'
      rw [← Except.ok.inj hc']
      exact Function.update_self _ _ _
  | clientSetup hrel _ _ _ =>
      rw [htype] at hrel
      exact nomatch hrel
  | clientMsg hrel _ =>
      rw [htype] at hrel
      exact nomatch hrel

end Invariant

/-- A message of a call, with the number 12. -/
def callMsg (msgType : MnccMsgType) (c : Nat) : MnccMsg :=
  ⟨{ msgType := msgType, u := .signal {
      callref := c, bearerCap := none
      called := some ⟨.unknown, .unknown, .allowed, .notScreened, [0x31, 0x32]⟩
      calling := none, redirecting := none, connected := none, cause := none
      progress := none, useruser := none, facility := none, cccap := none
      ssversion := none, clirSup := 0, clirInv := 0, signal := none, keypad := none
      more := 0, notify := 0, emergency := none, imsi := [], lchanType := 0
      lchanMode := 0, gcr := none, sdp := none } },
    Int.natCast_nonneg c⟩

/-- The emulation as the peer of a server, with the expectation table. -/
def clientOps : MnccOps Nat :=
  { createCb := expectedCreateCallback, unitdataCb := dummyUnitdataCallback
    roleServer := false }

/-- An expected call and one that is set up and moved; both are released. -/
def twoCalls : List (Input Nat) :=
  [.register [0x31, 0x32] 10, .mncc (callMsg .setupInd 7),
    .client 20 (callMsg .setupReq 8), .mncc (callMsg .alertInd 8),
    .changeConnhdlr 8 10, .client 10 (callMsg .relInd 7), .mncc (callMsg .relCnf 8)]

/-- Two calls of two components, in turns. -/
theorem mncc_calls_twoCalls : Follows (mainStep clientOps) (CallsAllowed clientOps)
    (CallsStop clientOps) CallsLive mnccInit
    { owner := fun _ => none, expects := fExpectTableInit } twoCalls :=
  mncc_calls clientOps twoCalls (by decide)

/-- A client sets up two calls and releases the second one. -/
def releaseSecond : List (Input Nat) :=
  [.client 10 (callMsg .setupReq 7), .client 10 (callMsg .setupReq 8),
    .client 10 (callMsg .relInd 8)]

/-- **THE FIRST CALL IS REMOVED**: the second one stays. -/
theorem releaseSecond_removesFirst :
    (∃ s os, RunGuard.run (mainStep clientOps) mnccInit releaseSecond = .ok (s, os)
        ∧ fCallIdKnown s.mnccCallTable 7 = false
        ∧ fCompByCallId s.mnccCallTable 8 = .ok 10)
      ∧ ¬ Follows (mainStep clientOps) (CallsAllowed clientOps) (CallsStop clientOps)
        CallsLive mnccInit { owner := fun _ => none, expects := fExpectTableInit }
        releaseSecond := by
  refine ⟨⟨_, _, rfl, rfl, rfl⟩, fun h => ?_⟩
  obtain ⟨-, g1, -, -, g2, -, -, g3, hallowed, hlive⟩ := h
  have hnone : g3.owner 8 = none := hallowed.release_ends rfl rfl
  have hsome : g3.owner 8 = some 10 :=
    (hlive.live 8 10).mpr ⟨1, by decide, rfl, rfl⟩
  rw [hnone] at hsome
  exact nomatch hsome

end OsmoMnccEmulation
