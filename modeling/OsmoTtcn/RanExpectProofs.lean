import OsmoTtcn.SpecRunProofs
import OsmoTtcn.TicketPoolProofs
import OsmoTtcn.TitanProofs

/-! # Expected connections of the RAN emulation

    Components register with `RAN_Emulation` for connections that will come:
    for a layer 3 payload, for a point code (N-CONNECT) or for a connection
    request without payload.  All expectations are in one table of 16 slots,
    and a slot is free when none of three fields says otherwise.

    An expectation for a point code sets the flag of those without payload too,
    and the callback of BSSAP does not clear it, so that its slot is never free
    again; the callback of RANAP takes such a slot for any connection without
    payload, and stops the test where a slot with a payload is before the one
    it looks for.  `ran_expectations` proves the table right of every run that
    meets none of these. -/

namespace OsmoRanExpect

open OsmoTitan SlotTable SlotPool TicketPool SpecRun RunGuard

-- ── Data ─────────────────────────────────────────────────────────────────────

/-- `octetstring` -/
abbrev Octetstring := List UInt8

/-- data about an expected future incoming connection -/
structure ExpectData (Comp : Type) where
  /-- L3 payload based on which we can match it -/
  l3Payload : Option Octetstring
  nConnectPointCode : Option Int
  sccpCrWithoutPayload : Bool
  /-- component reference for this connection; `none`: null or unbound -/
  vcConn : Option Comp
  deriving DecidableEq

/-- `ExpectTable` -/
abbrev ExpectTable (Comp : Type) : Type := Fin 16 → ExpectData Comp

/-- `f_expect_table_init` -/
def fExpectTableInit {Comp : Type} : ExpectTable Comp := fun _ =>
  { l3Payload := none, nConnectPointCode := none, sccpCrWithoutPayload := false,
    vcConn := none }

/-- What the callback looks at in the user data of BSSAP. -/
inductive BssapUserData where
  | completeLayer3Information (layer3info : Octetstring)
  | handoverRequest
  | vgcsVbsSetup
  | vgcsVbsAssignmentRequest
  /-- Any other message of BSSMAP, or DTAP. -/
  | other
  deriving DecidableEq, Repr

/-- `BSSAP_N_CONNECT_ind`, by what the callbacks read. -/
structure BssapNConnectInd where
  /-- `calledAddress.signPointCode` -/
  signPointCode : Option (List Bool)
  userData : Option BssapUserData
  deriving DecidableEq, Repr

/-- An IE of a RANAP message; only the NAS PDU is read. -/
inductive RanapIe where
  | nasPdu (nasPdu : Octetstring)
  | other
  deriving DecidableEq, Repr

/-- `RANAP_PDU`, by the templates that extract layer 3. -/
inductive RanapPdu where
  /-- What `tr_RANAP_initialUE_CS` or `tr_RANAP_initialUE_PS` matches. -/
  | initialUeMessage (protocolIes : List RanapIe)
  /-- What `tr_RANAP_DirectTransfer` matches. -/
  | directTransfer (protocolIes : List RanapIe)
  | other
  deriving DecidableEq, Repr

/-- `RANAP_N_CONNECT_ind`, by what the callback reads. -/
structure RanapNConnectInd where
  userData : Option RanapPdu
  deriving DecidableEq, Repr

/-- What comes to the tables, from the components or as a connection. -/
inductive Input (Comp : Type) where
  | ranRegister (l3Info : Octetstring) (hdlr : Comp)
  | ranRegisterNConnect (targetPointCode : Int) (hdlr : Comp)
  | ranRegisterSccpCrWithoutPayload (hdlr : Comp)
  | bssapConnect (connInd : BssapNConnectInd)
  | ranapConnect (connInd : RanapNConnectInd)
  deriving DecidableEq

/-- What an input is answered with. -/
inductive Output (Comp : Type) where
  | reply (hdlr : Comp)
  /-- The connection is handled at the component. -/
  | handledAt (vcConn : Option Comp)
  deriving DecidableEq

-- ── Functions ────────────────────────────────────────────────────────────────

/-- `bit2int` -/
def bit2int (b : List Bool) : Int :=
  b.foldl (fun n bit => 2 * n + (if bit then 1 else 0)) 0

/-- The loop over the IEs: the first NAS PDU. -/
def nasOf : List RanapIe → Option Octetstring
  | [] => none
  | .nasPdu nasPdu :: _ => some nasPdu
  | .other :: ies => nasOf ies

/-- `f_ranap_extract_l3` -/
def fRanapExtractL3 : RanapPdu → Option Octetstring
  | .initialUeMessage ies => nasOf ies
  | .directTransfer ies => nasOf ies
  | .other => none

/-- What a connection of BSSAP is looked up by. -/
inductive BssapInfo where
  | l3Info (l3Info : Octetstring)
  | nConnect (nConnectPointCode : Int)
  deriving DecidableEq, Repr

/-- A connection without data, by its point code. -/
def pointCodeOf (connInd : BssapNConnectInd) : Except Fault BssapInfo :=
  match connInd.signPointCode with
  | some b => .ok (.nConnect (bit2int b))
  | none => .error (.ttcnError "Using the value of an optional field containing omit.")

/-- The first part of `ExpectedCreateCallback`. -/
def bssapInfo (connInd : BssapNConnectInd) : Except Fault BssapInfo :=
  match connInd.userData with
  | some (.completeLayer3Information l3) => .ok (.l3Info l3)
  | some .handoverRequest => pointCodeOf connInd
  | some .vgcsVbsSetup => pointCodeOf connInd
  | some .vgcsVbsAssignmentRequest => pointCodeOf connInd
  | some .other => .error (.shutdown
      "N-CONNECT.ind with L3 != COMPLETE L3 nor a new BSS connection")
  | none => .error (.shutdown
      "N-CONNECT.ind with L3 != COMPLETE L3 nor a new BSS connection")

section Functions

variable {Comp : Type}

/-- The entry that expects this layer 3. -/
def expectForL3 (l3 : Octetstring) (e : ExpectData Comp) : Bool :=
  decide (e.l3Payload = some l3)

/-- The entry that expects this point code. -/
def expectForPointCode (pc : Int) (e : ExpectData Comp) : Bool :=
  decide (e.nConnectPointCode = some pc)

/-- CreateCallback that can be used as create_cb and will use the expectation
    table -/
def expectedCreateCallback (t : ExpectTable Comp) (connInd : BssapNConnectInd) :
    Except Fault (ExpectTable Comp × Option Comp) :=
  (bssapInfo connInd).bind fun info =>
  match info with
  | .nConnect pc =>
      (orShutdown (find t (expectForPointCode pc))
        "Couldn't find Expect for incoming connection ").map fun i =>
          (Function.update t i { t i with nConnectPointCode := none, vcConn := none },
            (t i).vcConn)
  | .l3Info l3 =>
      (orShutdown (find t (expectForL3 l3))
        "Couldn't find Expect for incoming connection ").map fun i =>
          (Function.update t i { t i with l3Payload := none, vcConn := none }, (t i).vcConn)

/-- `l3_info` of a connection of RANAP, which is omitted when it comes without
    payload. -/
def ranapInfo (connInd : RanapNConnectInd) : Except Fault (Option Octetstring) :=
  match connInd.userData with
  | none => .ok none
  | some ranap =>
      match fRanapExtractL3 ranap with
      | none => .error (.shutdown "N-CONNECT.ind without NAS payload")
      | some l3 => .ok (some l3)

/-- Whether the loop of `RanapExpectedCreateCallback` ends at the entry: an
    entry with a payload is compared with `valueof` of what may be omitted. -/
def ranapAt (l3Info : Option Octetstring) (e : ExpectData Comp) : Bool :=
  l3Info.isNone && e.sccpCrWithoutPayload
    || e.l3Payload.isSome && (l3Info.isNone || decide (l3Info = e.l3Payload))

/-- The end of that loop: the entry is released to be used again. -/
def ranapTake (t : ExpectTable Comp) (l3Info : Option Octetstring) (i : Fin 16) :
    Except Fault (ExpectTable Comp × Option Comp) :=
  if l3Info.isNone && !(t i).sccpCrWithoutPayload then
    .error (.ttcnError
      "Performing a valueof or send operation on a non-specific template of type octetstring.")
  else
    .ok (Function.update t i
      { t i with sccpCrWithoutPayload := false, l3Payload := none, vcConn := none },
      (t i).vcConn)

/-- CreateCallback that can be used as create_cb and will use the expectation
    table -/
def ranapExpectedCreateCallback (t : ExpectTable Comp) (connInd : RanapNConnectInd) :
    Except Fault (ExpectTable Comp × Option Comp) :=
  (ranapInfo connInd).bind fun l3Info =>
  (orShutdown (find t (ranapAt l3Info))
    "Couldn't find Expect for incoming connection ").bind (ranapTake t l3Info)

/-- An entry that expects nothing. -/
def ExpectData.isFree (e : ExpectData Comp) : Bool :=
  e.l3Payload.isNone && !e.sccpCrWithoutPayload && e.nConnectPointCode.isNone

/-- An entry of `f_create_expect`, written into a free slot. -/
def ExpectData.fill (e : ExpectData Comp) (l3 : Option Octetstring) (hdlr : Comp)
    (nConnectPointCode : Option Int) : ExpectData Comp where
  l3Payload := if l3.isSome then l3 else e.l3Payload
  sccpCrWithoutPayload := if l3.isSome then e.sccpCrWithoutPayload else true
  nConnectPointCode :=
    if nConnectPointCode.isSome then nConnectPointCode else e.nConnectPointCode
  vcConn := some hdlr

/-- `f_create_expect` -/
def fCreateExpect (t : ExpectTable Comp) (l3 : Option Octetstring) (hdlr : Comp)
    (nConnectPointCode : Option Int) : Except Fault (ExpectTable Comp) :=
  (orShutdown (find t ExpectData.isFree) "No space left in ExpectTable").map fun i =>
    Function.update t i ((t i).fill l3 hdlr nConnectPointCode)

/-- One round of `main`, as far as it is about expectations.  `RanOps.protocol`
    lets connections of one protocol in; here a run may have both. -/
def mainStep (t : ExpectTable Comp) :
    Input Comp → Except Fault (ExpectTable Comp × List (Output Comp))
  | .ranRegister l3 hdlr =>
      (fCreateExpect t (some l3) hdlr none).map fun t' => (t', [.reply hdlr])
  | .ranRegisterNConnect pc hdlr =>
      (fCreateExpect t none hdlr (some pc)).map fun t' => (t', [.reply hdlr])
  | .ranRegisterSccpCrWithoutPayload hdlr =>
      (fCreateExpect t none hdlr none).map fun t' => (t', [.reply hdlr])
  | .bssapConnect connInd =>
      (expectedCreateCallback t connInd).map fun r => (r.1, [.handledAt r.2])
  | .ranapConnect connInd =>
      (ranapExpectedCreateCallback t connInd).map fun r => (r.1, [.handledAt r.2])

end Functions

-- ── What the table is for ────────────────────────────────────────────────────

/-- What a connection is expected by. -/
inductive Kind where
  | l3 (payload : Octetstring)
  | pointCode (pc : Int)
  | withoutPayload
  deriving DecidableEq, Repr

section Spec

variable {Comp : Type}

/-- The expectations that wait, numbered as they were registered, and those that
    were consumed. -/
abbrev Books (Comp : Type) : Type := Ledger 16 (Kind × Comp)

/-- What is expected of this kind. -/
def forKind (kind : Kind) (t : Ticket (Kind × Comp)) : Bool := decide (t.item.1 = kind)

/-- What an input expects, and for whom. -/
def Input.registers : Input Comp → Option (Kind × Comp)
  | .ranRegister l3 hdlr => some (.l3 l3, hdlr)
  | .ranRegisterNConnect pc hdlr => some (.pointCode pc, hdlr)
  | .ranRegisterSccpCrWithoutPayload hdlr => some (.withoutPayload, hdlr)
  | .bssapConnect _ | .ranapConnect _ => none

/-- How the kind is found. -/
def Input.connects : Input Comp → Option Kind
  | .bssapConnect connInd =>
      match bssapInfo connInd with
      | .ok (.l3Info l3) => some (.l3 l3)
      | .ok (.nConnect pc) => some (.pointCode pc)
      | .error _ => none
  | .ranapConnect connInd =>
      match connInd.userData with
      | some ranap => (fRanapExtractL3 ranap).map .l3
      | none => some .withoutPayload
  | .ranRegister _ _ | .ranRegisterNConnect _ _ | .ranRegisterSccpCrWithoutPayload _ => none

/-- What a connection is expected by, as its message says: the payload of a
    COMPLETE LAYER 3 or the first NAS PDU of an Initial UE message or a Direct
    Transfer, the point code that one of three new connections is called at, or
    that it comes without payload. -/
inductive Input.Connects : Input Comp → Kind → Prop
  | completeLayer3 {pc l3} :
      Connects (.bssapConnect ⟨pc, some (.completeLayer3Information l3)⟩) (.l3 l3)
  | newConnection {pc data} (hdata : data = .handoverRequest ∨ data = .vgcsVbsSetup
        ∨ data = .vgcsVbsAssignmentRequest) :
      Connects (.bssapConnect ⟨some pc, some data⟩) (.pointCode (bit2int pc))
  | nas {ranap before nasPdu after}
      (hpdu : ranap = .initialUeMessage (before ++ .nasPdu nasPdu :: after)
        ∨ ranap = .directTransfer (before ++ .nasPdu nasPdu :: after))
      (hfirst : ∀ ie ∈ before, ie = .other) :
      Connects (.ranapConnect ⟨some ranap⟩) (.l3 nasPdu)
  | withoutPayload : Connects (.ranapConnect ⟨none⟩) .withoutPayload

/-- **THE EXPECTATIONS**: one that is registered takes the first free slot, and
    a connection consumes the first that matches it and no other. -/
inductive RanAllowed (g : Books Comp) : Input Comp → Books Comp → List (Output Comp) → Prop
  | registered {i kind hdlr k} (hi : i.registers = some (kind, hdlr))
      (hfree : FirstFree g.pending k) :
      RanAllowed g i (g.issue k (kind, hdlr) hfree.1) [.reply hdlr]
  | connected {i kind k t} (hi : i.Connects kind)
      (hfirst : FirstFit g.pending (forKind kind) k t) :
      RanAllowed g i (g.redeem k t hfirst.1) [.handledAt (some t.item.2)]

/-- Where the test may end: all slots are taken, or nothing that matches is
    expected. -/
def RanStops (g : Books Comp) (i : Input Comp) : Prop :=
  (i.registers ≠ none → Crowded g.pending)
    ∧ ∀ kind, i.Connects kind → NoFit g.pending (forKind kind)

/-- The slot holds an expectation of a connection without payload. -/
def ExpectData.IsWithoutPayload (e : ExpectData Comp) : Prop :=
  e.sccpCrWithoutPayload = true ∧ e.nConnectPointCode = none

instance (e : ExpectData Comp) : Decidable e.IsWithoutPayload :=
  inferInstanceAs (Decidable (_ ∧ _))

/-- The table is right of a connection without payload: the first taken slot
    expects one; or none is expected, and before every slot with the flag there
    is one with a payload. -/
def PayloadlessRight (t : ExpectTable Comp) : Prop :=
  (∃ k, (t k).IsWithoutPayload ∧ ∀ j, j < k → (t j).isFree = true)
    ∨ ∀ k, ¬ (t k).IsWithoutPayload
        ∧ ((t k).sccpCrWithoutPayload = true → ∃ j, j < k ∧ (t j).l3Payload.isSome = true)

instance (t : ExpectTable Comp) : Decidable (PayloadlessRight t) :=
  inferInstanceAs (Decidable (_ ∨ _))

/-- **WHERE A ROUND IS RIGHT**: no connection of BSSAP comes for a point code
    that is expected, and none of RANAP without payload where the table is not
    right of it. -/
def HoldsWhen (t : ExpectTable Comp) : Input Comp → Prop
  | .bssapConnect connInd =>
      match bssapInfo connInd with
      | .ok (.nConnect pc) => ∀ k, (t k).nConnectPointCode ≠ some pc
      | .ok (.l3Info _) => True
      | .error _ => True
  | .ranapConnect connInd => connInd.userData = none → PayloadlessRight t
  | .ranRegister _ _ | .ranRegisterNConnect _ _ | .ranRegisterSccpCrWithoutPayload _ => True

instance (t : ExpectTable Comp) : ∀ i, Decidable (HoldsWhen t i)
  | .bssapConnect connInd =>
      match h : bssapInfo connInd with
      | .ok (.nConnect pc) =>
          decidable_of_iff (∀ k, (t k).nConnectPointCode ≠ some pc)
            (by simp only [HoldsWhen, h])
      | .ok (.l3Info _) => isTrue (by simp only [HoldsWhen, h])
      | .error _ => isTrue (by simp only [HoldsWhen, h])
  | .ranapConnect connInd =>
      inferInstanceAs (Decidable (connInd.userData = none → PayloadlessRight t))
  | .ranRegister _ _ => isTrue trivial
  | .ranRegisterNConnect _ _ => isTrue trivial
  | .ranRegisterSccpCrWithoutPayload _ => isTrue trivial

end Spec

-- ── Kinds ────────────────────────────────────────────────────────────────────

section Kinds

variable {Comp : Type}

/-- The NAS PDU that is found is the first. -/
theorem nasOf_iff {ies : List RanapIe} {nasPdu : Octetstring} :
    nasOf ies = some nasPdu
      ↔ ∃ before after, ies = before ++ .nasPdu nasPdu :: after
        ∧ ∀ ie ∈ before, ie = .other := by
  induction ies with
  | nil =>
      refine iff_of_false nofun ?_
      rintro ⟨before, after, heq, -⟩
      exact List.append_ne_nil_of_right_ne_nil before (List.cons_ne_nil _ after) heq.symm
  | cons ie ies ih =>
      constructor
      · intro h
        cases ie with
        | nasPdu nas =>
            rw [Option.some.inj h]
            exact ⟨[], ies, rfl, nofun⟩
        | other =>
            obtain ⟨before, after, heq, hfirst⟩ := ih.mp h
            refine ⟨.other :: before, after, congrArg _ heq, fun ie hie => ?_⟩
            rcases List.mem_cons.mp hie with rfl | hie
            · rfl
            · exact hfirst ie hie
      · rintro ⟨before, after, heq, hfirst⟩
        cases before with
        | nil =>
            rw [(List.cons.inj heq).1]
            rfl
        | cons b before =>
            obtain ⟨rfl, rfl⟩ := List.cons.inj heq
            rw [hfirst ie List.mem_cons_self]
            exact ih.mpr ⟨before, after, rfl, fun ie hie =>
              hfirst ie (List.mem_cons_of_mem _ hie)⟩

theorem fRanapExtractL3_iff {ranap : RanapPdu} {nasPdu : Octetstring} :
    fRanapExtractL3 ranap = some nasPdu
      ↔ ∃ before after, (ranap = .initialUeMessage (before ++ .nasPdu nasPdu :: after)
          ∨ ranap = .directTransfer (before ++ .nasPdu nasPdu :: after))
        ∧ ∀ ie ∈ before, ie = .other := by
  cases ranap with
  | initialUeMessage ies | directTransfer ies =>
      refine nasOf_iff.trans ?_
      simp
  | other => simp [fRanapExtractL3]

/-- **THE KIND OF A CONNECTION** is the one that its message says. -/
theorem connects_iff {i : Input Comp} {kind : Kind} :
    i.connects = some kind ↔ i.Connects kind := by
  constructor
  · intro h
    cases i with
    | bssapConnect connInd =>
        obtain ⟨pc, data⟩ := connInd
        cases data with
        | none => exact nomatch h
        | some data =>
            cases data with
            | completeLayer3Information l3 =>
                rw [← Option.some.inj h]
                exact .completeLayer3
            | other => exact nomatch h
            | handoverRequest | vgcsVbsSetup | vgcsVbsAssignmentRequest =>
                cases pc with
                | none => exact nomatch h
                | some pc =>
                    rw [← Option.some.inj h]
                    exact .newConnection (by simp)
    | ranapConnect connInd =>
        obtain ⟨data⟩ := connInd
        cases data with
        | none =>
            rw [← Option.some.inj h]
            exact .withoutPayload
        | some ranap =>
            obtain ⟨nas, hnas, rfl⟩ := Option.map_eq_some_iff.mp h
            obtain ⟨before, after, hpdu, hfirst⟩ := fRanapExtractL3_iff.mp hnas
            exact .nas hpdu hfirst
    | ranRegister l3 hdlr | ranRegisterNConnect pc hdlr
    | ranRegisterSccpCrWithoutPayload hdlr => exact nomatch h
  · intro h
    cases h with
    | completeLayer3 => rfl
    | newConnection hdata => rcases hdata with rfl | rfl | rfl <;> rfl
    | nas hpdu hfirst =>
        exact Option.map_eq_some_iff.mpr
          ⟨_, fRanapExtractL3_iff.mpr ⟨_, _, hpdu, hfirst⟩, rfl⟩
    | withoutPayload => rfl

end Kinds

-- ── Slots ────────────────────────────────────────────────────────────────────

section Slots

variable {Comp : Type}

/-- How a slot says what its place holds. -/
def slotOf : Option (Ticket (Kind × Comp)) → ExpectData Comp
  | none => ⟨none, none, false, none⟩
  | some ⟨_, .l3 l3, c⟩ => ⟨some l3, none, false, some c⟩
  | some ⟨_, .pointCode pc, c⟩ => ⟨none, some pc, true, some c⟩
  | some ⟨_, .withoutPayload, c⟩ => ⟨none, none, true, some c⟩

/-- The slot is the one of its place. -/
def Says (e : ExpectData Comp) (o : Option (Ticket (Kind × Comp))) : Prop := e = slotOf o

theorem slotOf_isFree (o : Option (Ticket (Kind × Comp))) :
    (slotOf o).isFree = o.isNone := by
  rcases o with _ | ⟨_, _ | _ | _, _⟩ <;> rfl

theorem slotOf_forL3 (l3 : Octetstring) (o : Option (Ticket (Kind × Comp))) :
    expectForL3 l3 (slotOf o) = o.any (forKind (.l3 l3)) := by
  rcases o with _ | ⟨_, _ | _ | _, _⟩ <;> simp [expectForL3, slotOf, forKind]

theorem slotOf_forPointCode (pc : Int) (o : Option (Ticket (Kind × Comp))) :
    expectForPointCode pc (slotOf o) = o.any (forKind (.pointCode pc)) := by
  rcases o with _ | ⟨_, _ | _ | _, _⟩ <;> simp [expectForPointCode, slotOf, forKind]

theorem slotOf_ranapAt (l3 : Octetstring) (o : Option (Ticket (Kind × Comp))) :
    ranapAt (some l3) (slotOf o) = o.any (forKind (.l3 l3)) := by
  rcases o with _ | ⟨_, _ | _ | _, _⟩ <;> simp [ranapAt, slotOf, forKind, eq_comm]

/-- A connection without payload ends the loop at every slot that is taken. -/
theorem slotOf_ranapAt_none (o : Option (Ticket (Kind × Comp))) :
    ranapAt none (slotOf o) = !(slotOf o).isFree := by
  rcases o with _ | ⟨_, _ | _ | _, _⟩ <;> rfl

theorem slotOf_isWithoutPayload {o : Option (Ticket (Kind × Comp))} :
    (slotOf o).IsWithoutPayload ↔ o.any (forKind .withoutPayload) = true := by
  rcases o with _ | ⟨_, _ | _ | _, _⟩ <;>
    simp [ExpectData.IsWithoutPayload, slotOf, forKind]

/-- A ticket that fits a kind is of that kind. -/
theorem forKind_eq {kind : Kind} {t : Ticket (Kind × Comp)} (h : forKind kind t = true) :
    t.item.1 = kind :=
  of_decide_eq_true h

end Slots

-- ── Rounds ───────────────────────────────────────────────────────────────────

section Rounds

variable {Comp : Type} {t : ExpectTable Comp} {g : Books Comp}

/-- The table holds the expectations that wait. -/
abbrev Holds (t : ExpectTable Comp) (g : Books Comp) : Prop := Shadows Says t g.pending

theorem holds_init : Holds (fExpectTableInit : ExpectTable Comp) Ledger.empty :=
  fun _ => rfl

theorem Holds.find (h : Holds t g) {p : ExpectData Comp → Bool}
    {r : Option (Ticket (Kind × Comp)) → Bool} (hp : ∀ o, p (slotOf o) = r o) :
    find t p = find g.pending r :=
  Shadows.find h (by rintro _ o rfl; exact hp o)

/-- **A NEW EXPECTATION** takes the first free slot, which then says so. -/
theorem create_expect (h : Holds t g) {l3 : Option Octetstring} {pc : Option Int}
    {kind : Kind} {hdlr : Comp} (hfill : ∀ serial,
      (slotOf none : ExpectData Comp).fill l3 hdlr pc
        = slotOf (some ⟨serial, kind, hdlr⟩)) :
    (∃ k t', ∃ hfree : FirstFree g.pending k, fCreateExpect t l3 hdlr pc = .ok t'
        ∧ Holds t' (g.issue k (kind, hdlr) hfree.1))
      ∨ (∃ e, fCreateExpect t l3 hdlr pc = .error e) ∧ Crowded g.pending := by
  rw [fCreateExpect, h.find slotOf_isFree]
  cases hf : SlotTable.find g.pending (fun o => o.isNone) with
  | none => exact Or.inr ⟨⟨_, rfl⟩, find_free_none.mp hf⟩
  | some k =>
      have hfree := find_free_iff.mp hf
      refine Or.inl ⟨k, _, hfree, rfl, h.update ?_⟩
      have hk : t k = slotOf none := hfree.1 ▸ h k
      rw [hk]
      exact hfill g.issued

/-- **AN EXPECTATION IS CONSUMED**, the first of its kind; its slot is free
    after it is cleared. -/
theorem Holds.take (h : Holds t g) {kind : Kind} {k : Fin 16} {u : Ticket (Kind × Comp)}
    (hfirst : FirstFit g.pending (forKind kind) k u)
    (clear : ExpectData Comp → ExpectData Comp)
    (hclear : ∀ u : Ticket (Kind × Comp), u.item.1 = kind →
      clear (slotOf (some u)) = slotOf none) :
    (t k).vcConn = some u.item.2
      ∧ Holds (Function.update t k (clear (t k))) (g.redeem k u hfirst.1) := by
  have hk : t k = slotOf (some u) := hfirst.1 ▸ h k
  refine ⟨?_, h.update ?_⟩
  · rw [hk]
    rcases u with ⟨_, _ | _ | _, _⟩ <;> rfl
  · rw [hk]
    exact hclear u (forKind_eq hfirst.2.1)

/-- **A SEARCH FOR ONE KIND**: a round that takes the first slot of the kind of
    its connection and clears it, or stops, is as it should be. -/
theorem follows_search (h : Holds t g) {i : Input Comp} {kind : Kind}
    (hregisters : i.registers = none) (hconnects : i.connects = some kind)
    {p : ExpectData Comp → Bool} (hp : ∀ o, p (slotOf o) = o.any (forKind kind))
    (clear : ExpectData Comp → ExpectData Comp)
    (hclear : ∀ u : Ticket (Kind × Comp), u.item.1 = kind →
      clear (slotOf (some u)) = slotOf none) (msg : String)
    (hstep : mainStep t i = (orShutdown (SlotTable.find t p) msg).map (fun k =>
      (Function.update t k (clear (t k)), [.handledAt (t k).vcConn]))) :
    StepFollows mainStep RanAllowed RanStops Holds t g i := by
  rw [h.find hp] at hstep
  cases hf : SlotTable.find g.pending (fun o => o.any (forKind kind)) with
  | none =>
      rw [hf] at hstep
      refine stepFollows_error hstep ⟨fun hne => absurd hregisters hne, fun kind' hkind => ?_⟩
      rw [← connects_iff, hconnects] at hkind
      rw [← Option.some.inj hkind]
      exact find_fit_none.mp hf
  | some k =>
      obtain ⟨u, hfirst⟩ := find_fit hf
      obtain ⟨hvc, hafter⟩ := h.take hfirst clear hclear
      rw [hf] at hstep
      refine stepFollows_ok hstep ?_ hafter
      rw [hvc]
      exact .connected (connects_iff.mp hconnects) hfirst

/-- **A CONNECTION OF BSSAP** with a layer 3 payload. -/
theorem bssap_l3 (h : Holds t g) {connInd : BssapNConnectInd} {l3 : Octetstring}
    (hinfo : bssapInfo connInd = .ok (.l3Info l3)) :
    StepFollows mainStep RanAllowed RanStops Holds t g (.bssapConnect connInd) := by
  have hconnects : (Input.bssapConnect connInd : Input Comp).connects = some (.l3 l3) := by
    rw [Input.connects, hinfo]
  refine follows_search h rfl hconnects (slotOf_forL3 l3)
    (fun e => { e with l3Payload := none, vcConn := none }) ?_
    "Couldn't find Expect for incoming connection " ?_
  · rintro ⟨_, _, _⟩ rfl
    rfl
  · rw [mainStep, expectedCreateCallback, hinfo]
    cases hf : SlotTable.find t (expectForL3 l3) with
    | none =>
        dsimp only [Except.bind]
        rw [hf]
        rfl
    | some k =>
        dsimp only [Except.bind]
        rw [hf]
        rfl

/-- **A CONNECTION OF RANAP** with a layer 3 payload. -/
theorem ranap_l3 (h : Holds t g) {connInd : RanapNConnectInd} {l3 : Octetstring}
    (hinfo : ranapInfo connInd = .ok (some l3))
    (hconnects : (Input.ranapConnect connInd : Input Comp).connects = some (.l3 l3)) :
    StepFollows mainStep RanAllowed RanStops Holds t g (.ranapConnect connInd) := by
  refine follows_search h rfl hconnects (slotOf_ranapAt l3)
    (fun e => { e with sccpCrWithoutPayload := false, l3Payload := none, vcConn := none }) ?_
    "Couldn't find Expect for incoming connection " ?_
  · rintro ⟨_, _, _⟩ rfl
    rfl
  · rw [mainStep, ranapExpectedCreateCallback, hinfo]
    cases hf : SlotTable.find t (ranapAt (some l3)) with
    | none =>
        dsimp only [Except.bind]
        rw [hf]
        rfl
    | some k =>
        dsimp only [Except.bind]
        rw [hf]
        rfl

/-- **A CONNECTION OF RANAP** without payload, where the table is right of it. -/
theorem ranap_payloadless (h : Holds t g) {connInd : RanapNConnectInd}
    (hdata : connInd.userData = none) (hright : PayloadlessRight t) :
    StepFollows mainStep RanAllowed RanStops Holds t g (.ranapConnect connInd) := by
  have hconnects : (Input.ranapConnect connInd : Input Comp).connects
      = some .withoutPayload := by
    rw [Input.connects, hdata]
  have hinfo : ranapInfo connInd = .ok none := by
    rw [ranapInfo, hdata]
  have hstep : mainStep t (.ranapConnect connInd)
      = ((orShutdown (SlotTable.find t (ranapAt none))
          "Couldn't find Expect for incoming connection ").bind (ranapTake t none)).map
            (fun r => (r.1, [.handledAt r.2])) := by
    rw [mainStep, ranapExpectedCreateCallback, hinfo]
    rfl
  have hat : ∀ k, ranapAt none (t k) = !(t k).isFree := fun k => by
    rw [h k]
    exact slotOf_ranapAt_none _
  rcases hright with ⟨k, hk, hfree⟩ | hno
  · -- The first slot that is taken is the one to be found.
    have hfind : SlotTable.find t (ranapAt none) = some k := by
      refine find_eq_some.mpr ⟨?_, fun j hj => ?_⟩
      · rw [ranapAt, hk.1]
        rfl
      · rw [hat, hfree j hj]
        rfl
    have hfit : (g.pending k).any (forKind .withoutPayload) = true := by
      rw [← slotOf_isWithoutPayload, ← h k]
      exact hk
    obtain ⟨u, hu, hkind⟩ := (Option.any_eq_true _ _).mp hfit
    have hfirst : FirstFit g.pending (forKind .withoutPayload) k u := by
      refine ⟨hu, hkind, fun j u' hj hu' => ?_⟩
      have hnone := hfree j hj
      rw [h j, slotOf_isFree, hu'] at hnone
      exact nomatch hnone
    obtain ⟨hvc, hafter⟩ := h.take hfirst
      (fun e => { e with sccpCrWithoutPayload := false, l3Payload := none, vcConn := none }) (by
        rintro ⟨_, _, _⟩ rfl
        rfl)
    rw [hfind] at hstep
    dsimp only [orShutdown, Except.bind] at hstep
    rw [ranapTake, hk.1] at hstep
    refine stepFollows_ok hstep ?_ hafter
    rw [hvc]
    exact .connected (connects_iff.mp hconnects) hfirst
  · -- None is to be found, and no slot is taken in its place.
    have hnofit : ∀ kind, (Input.ranapConnect connInd : Input Comp).Connects kind →
        NoFit g.pending (forKind kind) := by
      intro kind hkind k u hu
      rw [← connects_iff, hconnects] at hkind
      rw [← Option.some.inj hkind]
      by_contra hfit
      refine (hno k).1 ?_
      rw [h k, hu]
      exact slotOf_isWithoutPayload.mpr (eq_true_of_ne_false hfit)
    have hstops : RanStops g (.ranapConnect connInd) :=
      ⟨fun hne => absurd rfl hne, hnofit⟩
    cases hf : SlotTable.find t (ranapAt none) with
    | none =>
        rw [hf] at hstep
        exact stepFollows_error hstep hstops
    | some k =>
        have hflag : (t k).sccpCrWithoutPayload = false := by
          by_contra hflag
          obtain ⟨j, hj, hl3⟩ := (hno k).2 (eq_true_of_ne_false hflag)
          have hskip := (find_eq_some.mp hf).2 j hj
          rw [ranapAt, hl3] at hskip
          simp at hskip
        rw [hf] at hstep
        dsimp only [orShutdown, Except.bind] at hstep
        rw [ranapTake, hflag] at hstep
        exact stepFollows_error hstep hstops

/-- **ONE ROUND** where it is right. -/
theorem mainStep_follows (i : Input Comp) (h : Holds t g) (hwhen : HoldsWhen t i) :
    StepFollows mainStep RanAllowed RanStops Holds t g i := by
  have hcreate : ∀ {l3 pc kind hdlr}, i.registers = some (kind, hdlr) →
      i.connects = none → (∀ serial,
        (slotOf none : ExpectData Comp).fill l3 hdlr pc
          = slotOf (some ⟨serial, kind, hdlr⟩)) →
      mainStep t i = (fCreateExpect t l3 hdlr pc).map (fun t' => (t', [.reply hdlr])) →
      StepFollows mainStep RanAllowed RanStops Holds t g i := by
    intro l3 pc kind hdlr hi hno hfill hstep
    rcases create_expect h hfill with ⟨k, t', hfree, hc, ht'⟩ | ⟨⟨e, hc⟩, hall⟩
    · rw [hc] at hstep
      exact stepFollows_ok hstep (.registered hi hfree) ht'
    · rw [hc] at hstep
      refine stepFollows_error hstep ⟨fun _ => hall, fun kind' hkind => ?_⟩
      rw [← connects_iff, hno] at hkind
      exact nomatch hkind
  cases i with
  | ranRegister l3 hdlr => exact hcreate rfl rfl (fun _ => rfl) rfl
  | ranRegisterNConnect pc hdlr => exact hcreate rfl rfl (fun _ => rfl) rfl
  | ranRegisterSccpCrWithoutPayload hdlr => exact hcreate rfl rfl (fun _ => rfl) rfl
  | bssapConnect connInd =>
      cases hinfo : bssapInfo connInd with
      | error e =>
          refine stepFollows_error (e := e) ?_ ⟨fun hne => absurd rfl hne, fun kind hkind => ?_⟩
          · rw [mainStep, expectedCreateCallback, hinfo]
            rfl
          · rw [← connects_iff, Input.connects, hinfo] at hkind
            exact nomatch hkind
      | ok info =>
          cases info with
          | l3Info l3 => exact bssap_l3 h hinfo
          | nConnect pc =>
              rw [HoldsWhen, hinfo] at hwhen
              have hnone : SlotTable.find t (expectForPointCode pc) = none :=
                find_eq_none.mpr (fun k => decide_eq_false (hwhen k))
              refine stepFollows_error (e := .shutdown
                "Couldn't find Expect for incoming connection ") ?_
                ⟨fun hne => absurd rfl hne, fun kind hkind => ?_⟩
              · rw [mainStep, expectedCreateCallback, hinfo]
                dsimp only [Except.bind]
                rw [hnone]
                rfl
              · rw [← connects_iff, Input.connects, hinfo] at hkind
                rw [← Option.some.inj hkind]
                rw [h.find (slotOf_forPointCode pc)] at hnone
                exact find_fit_none.mp hnone
  | ranapConnect connInd =>
      cases hdata : connInd.userData with
      | none => exact ranap_payloadless h hdata (hwhen hdata)
      | some ranap =>
          have hconn : (Input.ranapConnect connInd : Input Comp).connects
              = (fRanapExtractL3 ranap).map .l3 := by
            rw [Input.connects, hdata]
          cases hl3 : fRanapExtractL3 ranap with
          | some l3 =>
              rw [hl3] at hconn
              refine ranap_l3 h ?_ hconn
              rw [ranapInfo, hdata]
              dsimp only
              rw [hl3]
          | none =>
              rw [hl3] at hconn
              refine stepFollows_error
                (e := .shutdown "N-CONNECT.ind without NAS payload") ?_
                ⟨fun hne => absurd rfl hne, fun kind hkind => ?_⟩
              · rw [mainStep, ranapExpectedCreateCallback, ranapInfo, hdata]
                dsimp only
                rw [hl3]
                rfl
              · rw [← connects_iff, hconn] at hkind
                exact nomatch hkind

end Rounds

-- ── Runs ─────────────────────────────────────────────────────────────────────

/-- **EXPECTATIONS OF THE RAN EMULATION**: a run whose rounds are right goes as
    the books allow, up to a stop that they allow, and in every state the table
    holds the expectations that wait. -/
theorem ran_expectations {Comp : Type} (is : List (Input Comp))
    (hguard : Guarded mainStep HoldsWhen fExpectTableInit is) :
    Follows mainStep RanAllowed RanStops Holds fExpectTableInit Ledger.empty is :=
  follows_of_guarded (fun _ _ i h hwhen => mainStep_follows i h hwhen) is _ _
    holds_init hguard

/-- A handover request for point code 5. -/
def handoverTo5 : BssapNConnectInd where
  signPointCode := some [true, false, true]
  userData := some .handoverRequest

/-- Every kind is registered, and a slot is used twice. -/
def allKinds : List (Input Nat) :=
  [.ranRegisterSccpCrWithoutPayload 8, .ranRegister [0x05, 0x08] 7,
   .ranapConnect ⟨none⟩, .ranRegisterNConnect 6 9,
   .ranapConnect ⟨some (.initialUeMessage [.other, .nasPdu [0x05, 0x08]])⟩,
   .bssapConnect handoverTo5]

theorem ran_expectations_allKinds :
    Guarded mainStep HoldsWhen fExpectTableInit allKinds
      ∧ Follows mainStep RanAllowed RanStops Holds fExpectTableInit Ledger.empty allKinds :=
  have hguard : Guarded mainStep HoldsWhen fExpectTableInit allKinds := by decide +kernel
  ⟨hguard, ran_expectations allKinds hguard⟩

/-- A payload is expected, then a connection without payload, which comes. -/
def behindPayload : List (Input Nat) :=
  [.ranRegister [0x05, 0x08] 7, .ranRegisterSccpCrWithoutPayload 8, .ranapConnect ⟨none⟩]

/-- The state after the first two rounds. -/
def twoExpected : ExpectTable Nat :=
  Function.update
    (Function.update fExpectTableInit 0 ⟨some [0x05, 0x08], none, false, some 7⟩)
    1 ⟨none, none, true, some 8⟩

/-- Point code 5 is expected and comes. -/
def pointCodeComes : List (Input Nat) := [.ranRegisterNConnect 5 7, .bssapConnect handoverTo5]

/-- The state after it: the flag is still set. -/
def flagLeft : ExpectTable Nat :=
  Function.update
    (Function.update fExpectTableInit 0 ⟨none, some 5, true, some 7⟩)
    0 ⟨none, none, true, none⟩

/-- No place makes a slot say what such a slot says. -/
theorem not_holds_flagLeft (g : Books Nat) : ¬ Holds flagLeft g := by
  intro h
  have hslot : (⟨none, none, true, none⟩ : ExpectData Nat) = slotOf (g.pending 0) := h 0
  rcases hpending : g.pending 0 with _ | ⟨_, _ | _ | _, _⟩ <;>
    rw [hpending] at hslot <;> exact nomatch hslot

theorem ran_expectations_behindPayload_pointCodeComes :
    ¬ Follows mainStep RanAllowed RanStops Holds fExpectTableInit Ledger.empty behindPayload
      ∧ ¬ Follows mainStep RanAllowed RanStops Holds fExpectTableInit Ledger.empty
        pointCodeComes
      ∧ run mainStep fExpectTableInit pointCodeComes
        = .ok (flagLeft, [[.reply 7], [.handledAt (some 7)]])
      ∧ (flagLeft 0).isFree = false := by
  have hl3 : mainStep (fExpectTableInit : ExpectTable Nat) (.ranRegister [0x05, 0x08] 7)
      = .ok (Function.update fExpectTableInit 0 ⟨some [0x05, 0x08], none, false, some 7⟩,
          [.reply 7]) := rfl
  have hpc : mainStep (fExpectTableInit : ExpectTable Nat) (.ranRegisterNConnect 5 7)
      = .ok (Function.update fExpectTableInit 0 ⟨none, some 5, true, some 7⟩,
          [.reply 7]) := rfl
  refine ⟨not_follows_cons hl3 (fun g₁ _ => ?_), not_follows_cons hpc (fun g₁ _ => ?_),
    rfl, rfl⟩
  · have hno : mainStep (Function.update (fExpectTableInit : ExpectTable Nat) 0
        ⟨some [0x05, 0x08], none, false, some 7⟩) (.ranRegisterSccpCrWithoutPayload 8)
        = .ok (twoExpected, [.reply 8]) := rfl
    refine not_follows_cons hno (fun g₂ hallowed => ?_)
    refine not_follows_error (e := .ttcnError
      "Performing a valueof or send operation on a non-specific template of type octetstring.")
      rfl (fun hstops => ?_)
    cases hallowed with
    | @registered _ kind k hi hfree =>
        obtain ⟨rfl, -⟩ := Prod.mk.inj (Option.some.inj hi)
        have hfit := hstops.2 .withoutPayload .withoutPayload k _ (Function.update_self k _ _)
        exact nomatch hfit
  · have hho : mainStep (Function.update (fExpectTableInit : ExpectTable Nat) 0
        ⟨none, some 5, true, some 7⟩) (.bssapConnect handoverTo5)
        = .ok (flagLeft, [.handledAt (some 7)]) := rfl
    exact not_follows_cons hho (fun g₂ _ h => not_holds_flagLeft g₂ h)

end OsmoRanExpect
