import OsmoTtcn.SlotPoolProofs
import OsmoTtcn.SpecRunProofs
import OsmoTtcn.TitanProofs

/-! # Pagings of the RAN emulation

    Components register for the pagings of an IMSI, with or without a TMSI.  The
    registrations are in a table of 16 slots, and a slot is free when it has no
    IMSI.  In place of no TMSI there is a reserved value, in free slots too.

    A paging is searched for by both of its identities at once.  One that has
    the reserved value as TMSI is taken to be for the first slot that is free or
    has no TMSI; `ran_pagings` says of which runs that is right. -/

namespace OsmoRanImsi

open OsmoTitan SlotTable SlotPool SpecRun RunGuard

-- ── Data ─────────────────────────────────────────────────────────────────────

/-- `hexstring`, digit by digit. -/
abbrev Hexstring := List (Fin 16)

/-- `OCT4` -/
abbrev Oct4 := BitVec 32

/-- 'FFFFFFFF'O: no TMSI. -/
def reserved : Oct4 := 0xFFFFFFFF#32

/-- `ImsiMapping` -/
structure ImsiMapping (Comp : Type) where
  /-- `none`: the null reference. -/
  compRef : Option Comp
  imsi : Option Hexstring
  tmsi : Oct4
  deriving DecidableEq

/-- `ImsiTable` -/
abbrev ImsiTable (Comp : Type) : Type := Fin 16 → ImsiMapping Comp

/-- `f_conn_table_init` -/
def imsiTableInit {Comp : Type} : ImsiTable Comp := fun _ =>
  { compRef := none, imsi := none, tmsi := reserved }

/-- `TemporaryUE_ID` -/
inductive TemporaryUeId where
  | tMsi (tmsi : Oct4)
  | pTmsi (tmsi : Oct4)

/-- What is read of a RANAP PAGING. -/
structure RanapPaging where
  /-- `permanentNAS_UE_ID.iMSI` -/
  imsi : List UInt8
  temporaryUeId : Option TemporaryUeId

/-- What comes to the table, from the components or as a paging. -/
inductive Input (Comp : Type) where
  /-- `f_ran_register_imsi` -/
  | registerImsi (imsi : Hexstring) (tmsiOrOmit : Option Oct4) (hdlr : Comp)
  | unregisterImsi (imsi : Hexstring) (hdlr : Comp)
  | bssmapPaging (imsi : Hexstring) (tMsi : Option Oct4)
  | ranapPaging (ranap : RanapPaging)

/-- What an input is answered with. -/
inductive Output (Comp : Type) where
  | reply (hdlr : Comp)
  | client (client : Comp)
  /-- The message is for the callback of the user, if there is one. -/
  | unitdataCb
  deriving DecidableEq

-- ── Functions ────────────────────────────────────────────────────────────────

/-- Swap nibbles and skip F. -/
def imsiOct2hex (imsi : List UInt8) : Hexstring :=
  imsi.flatMap (fun o =>
    let h0 := Fin.ofNat 16 (o.toNat / 16)
    let h1 := Fin.ofNat 16 o.toNat
    if h0 = 15 then [h1] else [h1, h0])

section Functions

variable {Comp : Type} (t : ImsiTable Comp)

/-- The test of `f_imsi_table_find`. -/
def ImsiMapping.isFor (imsi : Hexstring) (tmsi : Option Oct4) (c : ImsiMapping Comp) : Bool :=
  decide (c.imsi = some imsi) || tmsi.any (fun v => decide (c.tmsi = v))

/-- `f_imsi_table_find` -/
def fImsiTableFind (imsi : Hexstring) (tmsi : Option Oct4) : Option Comp :=
  match find t (ImsiMapping.isFor imsi tmsi) with
  | some i => (t i).compRef
  | none => none

/-- The end of both of the callbacks for common unitdata. -/
def dispatchPaging (imsi : Hexstring) (tmsi : Option Oct4) : Output Comp :=
  match fImsiTableFind t imsi tmsi with
  | some client => .client client
  | none => .unitdataCb

/-- `CommonBssmapUnitdataCallback`, on a PAGING. -/
def commonBssmapUnitdataCallback (imsi : Hexstring) (tMsi : Option Oct4) : Output Comp :=
  dispatchPaging t imsi tMsi

/-- The octets of either kind. -/
def TemporaryUeId.octets : TemporaryUeId → Oct4
  | .tMsi tmsi => tmsi
  | .pTmsi tmsi => tmsi

/-- `CommonRanapUnitdataCallback`, on a PAGING. -/
def commonRanapUnitdataCallback (ranap : RanapPaging) : Output Comp :=
  dispatchPaging t (imsiOct2hex ranap.imsi) (ranap.temporaryUeId.map TemporaryUeId.octets)

/-- `f_create_imsi` -/
def fCreateImsi (imsi : Hexstring) (tmsi : Oct4) (hdlr : Comp) :
    Except Fault (ImsiTable Comp) :=
  (orShutdown (find t (fun c => c.imsi.isNone)) "No space left in ImsiTable").map (fun i =>
    Function.update t i { imsi := some imsi, tmsi := tmsi, compRef := some hdlr })

/-- Resolve omit to a special reserved value. -/
def tmsiOf (tmsiOrOmit : Option Oct4) : Oct4 := tmsiOrOmit.getD reserved

variable [DecidableEq Comp]

/-- `f_destroy_imsi` -/
def fDestroyImsi (imsi : Hexstring) (hdlr : Comp) : Except Fault (ImsiTable Comp) :=
  (orShutdown (find t (fun c => decide (c.imsi = some imsi ∧ c.compRef = some hdlr)))
    "Unable to find to-be-destroyed IMSI in ImsiTable").map (fun i =>
      Function.update t i { compRef := none, imsi := none, tmsi := reserved })

/-- One round of `main`, as far as it is about pagings.  `RanOps.protocol` lets
    messages of one protocol in; here a run may have both. -/
def mainStep (t : ImsiTable Comp) :
    Input Comp → Except Fault (ImsiTable Comp × List (Output Comp))
  | .registerImsi imsi tmsiOrOmit hdlr =>
      (fCreateImsi t imsi (tmsiOf tmsiOrOmit) hdlr).map (fun t' => (t', [.reply hdlr]))
  | .unregisterImsi imsi hdlr =>
      (fDestroyImsi t imsi hdlr).map (fun t' => (t', [.reply hdlr]))
  | .bssmapPaging imsi tMsi => .ok (t, [commonBssmapUnitdataCallback t imsi tMsi])
  | .ranapPaging ranap => .ok (t, [commonRanapUnitdataCallback t ranap])

end Functions

-- ── What the table is for ────────────────────────────────────────────────────

section Spec

variable {Comp : Type}

/-- A component that waits for pagings. -/
structure Registration (Comp : Type) where
  imsi : Hexstring
  tmsi : Option Oct4
  hdlr : Comp
  proper : tmsi ≠ some reserved

/-- A registration is for its IMSI and its TMSI. -/
def Registration.isFor (imsi : Hexstring) (tmsi : Option Oct4) (r : Registration Comp) : Bool :=
  decide (r.imsi = imsi) || tmsi.any (fun v => decide (r.tmsi = some v))

/-- The reserved value is no TMSI. -/
def properTmsi (tmsiOrOmit : Option Oct4) : Option Oct4 :=
  tmsiOrOmit.filter (fun v => decide (v ≠ reserved))

theorem properTmsi_ne (tmsiOrOmit : Option Oct4) : properTmsi tmsiOrOmit ≠ some reserved := by
  intro h
  exact of_decide_eq_true (Option.mem_filter_iff.mp h).2 rfl

theorem properTmsi_getD (tmsiOrOmit : Option Oct4) :
    (properTmsi tmsiOrOmit).getD reserved = tmsiOf tmsiOrOmit := by
  cases tmsiOrOmit with
  | none => rfl
  | some v =>
      by_cases hv : v = reserved
      · rw [hv]
        rfl
      · rw [properTmsi, Option.filter_some, if_pos (decide_eq_true hv)]
        rfl

/-- The identities that a paging has. -/
def Input.paging : Input Comp → Option (Hexstring × Option Oct4)
  | .bssmapPaging imsi tMsi => some (imsi, tMsi)
  | .ranapPaging ranap =>
      some (imsiOct2hex ranap.imsi, ranap.temporaryUeId.map TemporaryUeId.octets)
  | .registerImsi _ _ _ | .unregisterImsi _ _ => none

/-- Where a paging goes: to the component of a registration that has the IMSI or
    the TMSI, and to no component only if there is none. -/
def Delivers (a : Pool 16 (Registration Comp)) (imsi : Hexstring) (tmsi : Option Oct4) :
    Output Comp → Prop
  | .client client => ∃ k r, a k = some r ∧ r.isFor imsi tmsi = true ∧ r.hdlr = client
  | .unitdataCb => NoFit a (Registration.isFor imsi tmsi)
  | .reply _ => False

/-- **THE REGISTRATIONS**: one more takes a free place, one that ends leaves its
    place and all others stay, and pagings change nothing. -/
inductive ImsiAllowed (a : Pool 16 (Registration Comp)) :
    Input Comp → Pool 16 (Registration Comp) → List (Output Comp) → Prop
  | registered {imsi tmsiOrOmit hdlr k} (hfree : a k = none) :
      ImsiAllowed a (.registerImsi imsi tmsiOrOmit hdlr)
        (Function.update a k
          (some ⟨imsi, properTmsi tmsiOrOmit, hdlr, properTmsi_ne tmsiOrOmit⟩)) [.reply hdlr]
  | unregistered {k r} (hr : a k = some r) :
      ImsiAllowed a (.unregisterImsi r.imsi r.hdlr) (Function.update a k none) [.reply r.hdlr]
  | paged {i imsi tmsi out} (hi : i.paging = some (imsi, tmsi))
      (hout : Delivers a imsi tmsi out) : ImsiAllowed a i a [out]

/-- Where the test may end: all places are taken, or what is to end is not there. -/
def ImsiStops (a : Pool 16 (Registration Comp)) : Input Comp → Prop
  | .registerImsi _ _ _ => Crowded a
  | .unregisterImsi imsi hdlr => ∀ k r, a k = some r → ¬ (r.imsi = imsi ∧ r.hdlr = hdlr)
  | .bssmapPaging _ _ | .ranapPaging _ => False

/-- The table is right of a paging with the reserved value: the first slot that
    is free, has no TMSI or has the IMSI is free and nobody has the IMSI, or its
    component is the one of a slot that has the IMSI. -/
def ReservedRight (t : ImsiTable Comp) (imsi : Hexstring) : Prop :=
  ∀ k, (t k).isFor imsi (some reserved) = true →
    (∀ j, j < k → (t j).isFor imsi (some reserved) = false) →
      ((t k).imsi = none ∧ ∀ j, (t j).imsi ≠ some imsi)
        ∨ ∃ j, (t j).imsi = some imsi ∧ (t j).compRef = (t k).compRef

instance [DecidableEq Comp] (t : ImsiTable Comp) (imsi : Hexstring) :
    Decidable (ReservedRight t imsi) :=
  inferInstanceAs (Decidable (∀ k, (t k).isFor imsi (some reserved) = true →
    (∀ j, j < k → (t j).isFor imsi (some reserved) = false) → _ ∨ _))

/-- **WHERE A ROUND IS RIGHT**: a paging has another TMSI than the reserved value,
    or none, or the table is right of it. -/
def HoldsWhen (t : ImsiTable Comp) (i : Input Comp) : Prop :=
  ∀ p ∈ i.paging, p.2 = some reserved → ReservedRight t p.1

instance [DecidableEq Comp] (t : ImsiTable Comp) (i : Input Comp) : Decidable (HoldsWhen t i) :=
  inferInstanceAs (Decidable (∀ p ∈ i.paging, p.2 = some reserved → ReservedRight t p.1))

end Spec

-- ── Slots ────────────────────────────────────────────────────────────────────

section Slots

variable {Comp : Type} {t : ImsiTable Comp} {a : Pool 16 (Registration Comp)}
variable {imsi : Hexstring} {tmsi : Option Oct4}

/-- How a slot says what its place holds. -/
def slotOf : Option (Registration Comp) → ImsiMapping Comp
  | none => { compRef := none, imsi := none, tmsi := reserved }
  | some r => { compRef := some r.hdlr, imsi := some r.imsi, tmsi := r.tmsi.getD reserved }

/-- The slot is the one of its place. -/
def Says (c : ImsiMapping Comp) (o : Option (Registration Comp)) : Prop := c = slotOf o

/-- The table holds the registrations. -/
abbrev Holds (t : ImsiTable Comp) (a : Pool 16 (Registration Comp)) : Prop := Shadows Says t a

theorem holds_init : Holds (imsiTableInit : ImsiTable Comp) (fun _ => none) := fun _ => rfl

theorem Holds.slot (h : Holds t a) (k : Fin 16) : t k = slotOf (a k) := h k

theorem Holds.find (h : Holds t a) {p : ImsiMapping Comp → Bool}
    {q : Option (Registration Comp) → Bool} (hp : ∀ o, p (slotOf o) = q o) :
    find t p = find a q :=
  Shadows.find h (by rintro _ o rfl; exact hp o)

theorem slotOf_free (o : Option (Registration Comp)) : (slotOf o).imsi.isNone = o.isNone := by
  cases o <;> rfl

theorem slotOf_imsi {o : Option (Registration Comp)} :
    (slotOf o).imsi = some imsi ↔ ∃ r, o = some r ∧ r.imsi = imsi := by
  cases o with
  | none => exact iff_of_false nofun (fun ⟨_, h, _⟩ => nomatch h)
  | some r =>
      constructor
      · exact fun h => ⟨r, rfl, Option.some.inj h⟩
      · rintro ⟨_, ⟨⟩, rfl⟩
        rfl

/-- No registration has the reserved value. -/
theorem proper_getD (r : Registration Comp) {v : Oct4} (hv : v ≠ reserved) :
    r.tmsi.getD reserved = v ↔ r.tmsi = some v := by
  cases htmsi : r.tmsi with
  | none => exact iff_of_false (fun h => hv h.symm) (fun h => nomatch h)
  | some w => exact Option.some_inj.symm

/-- **A SEARCH** with another value finds what has one of the identities. -/
theorem slotOf_isFor (htmsi : tmsi ≠ some reserved) (o : Option (Registration Comp)) :
    (slotOf o).isFor imsi tmsi = o.any (Registration.isFor imsi tmsi) := by
  have himsi : ∀ r : Registration Comp,
      decide ((slotOf (some r)).imsi = some imsi) = decide (r.imsi = imsi) :=
    fun r => decide_eq_decide.mpr Option.some_inj
  cases tmsi with
  | none =>
      cases o with
      | none => rfl
      | some r => exact congrArg (fun b => b || false) (himsi r)
  | some v =>
      have hv : v ≠ reserved := fun h => htmsi (congrArg some h)
      cases o with
      | none => exact decide_eq_false (fun h => hv h.symm)
      | some r =>
          have hval : decide ((slotOf (some r)).tmsi = v) = decide (r.tmsi = some v) :=
            decide_eq_decide.mpr (proper_getD r hv)
          exact congrArg₂ (fun b c => b || c) (himsi r) hval

/-- With the reserved value, only the IMSI counts. -/
theorem isFor_reserved (r : Registration Comp) :
    r.isFor imsi (some reserved) = true ↔ r.imsi = imsi := by
  rw [Registration.isFor, Option.any_some, decide_eq_false r.proper, Bool.or_false,
    decide_eq_true_iff]

end Slots

-- ── Rounds ───────────────────────────────────────────────────────────────────

section Rounds

variable {Comp : Type} {t : ImsiTable Comp} {a : Pool 16 (Registration Comp)}
variable {imsi : Hexstring} {tmsi : Option Oct4}

/-- **ANOTHER VALUE, OR NONE**: the paging goes where it should. -/
theorem dispatch_right (h : Holds t a) (htmsi : tmsi ≠ some reserved) :
    Delivers a imsi tmsi (dispatchPaging t imsi tmsi) := by
  have hfind := h.find (p := ImsiMapping.isFor imsi tmsi) (slotOf_isFor htmsi)
  cases hf : find a (fun o => o.any (Registration.isFor imsi tmsi)) with
  | none =>
      have hout : dispatchPaging t imsi tmsi = .unitdataCb := by
        unfold dispatchPaging fImsiTableFind
        rw [hfind, hf]
      rw [hout]
      exact find_fit_none.mp hf
  | some k =>
      obtain ⟨r, hfirst⟩ := find_fit hf
      have hout : dispatchPaging t imsi tmsi = .client r.hdlr := by
        unfold dispatchPaging fImsiTableFind
        rw [hfind, hf]
        dsimp only
        rw [h.slot k, hfirst.1]
        rfl
      rw [hout]
      exact ⟨k, r, hfirst.1, hfirst.2.1, rfl⟩

/-- **THE RESERVED VALUE**: exactly where the table is right of it. -/
theorem dispatch_reserved_iff (h : Holds t a) :
    Delivers a imsi (some reserved) (dispatchPaging t imsi (some reserved))
      ↔ ReservedRight t imsi := by
  unfold dispatchPaging fImsiTableFind
  have hno : (∀ j, (t j).imsi ≠ some imsi) ↔ NoFit a (Registration.isFor imsi (some reserved)) := by
    constructor
    · intro hall k r hr
      refine Bool.eq_false_iff.mpr (fun hfor => hall k ?_)
      rw [h.slot k, hr]
      exact slotOf_imsi.mpr ⟨r, rfl, (isFor_reserved r).mp hfor⟩
    · intro hnofit j hj
      rw [h.slot j] at hj
      obtain ⟨r, hr, himsi⟩ := slotOf_imsi.mp hj
      have hfor := hnofit j r hr
      rw [(isFor_reserved r).mpr himsi] at hfor
      exact nomatch hfor
  cases hf : find t (ImsiMapping.isFor imsi (some reserved)) with
  | none =>
      have hall := find_eq_none.mp hf
      refine iff_of_true (hno.mp (fun j hj => ?_)) (fun k hk => ?_)
      · have hrefused := hall j
        rw [ImsiMapping.isFor, decide_eq_true hj, Bool.true_or] at hrefused
        exact nomatch hrefused
      · rw [hall k] at hk
        exact nomatch hk
  | some k =>
      obtain ⟨hk, hfirst⟩ := find_eq_some.mp hf
      have hright : ReservedRight t imsi ↔ ((t k).imsi = none ∧ ∀ j, (t j).imsi ≠ some imsi)
          ∨ ∃ j, (t j).imsi = some imsi ∧ (t j).compRef = (t k).compRef := by
        constructor
        · exact fun hall => hall k hk hfirst
        · intro hthis k' hk' hfirst'
          have hsame : find t (ImsiMapping.isFor imsi (some reserved)) = some k' :=
            find_eq_some.mpr ⟨hk', hfirst'⟩
          obtain rfl : k = k' := Option.some.inj (hf.symm.trans hsame)
          exact hthis
      rw [hright]
      dsimp only
      cases ha : a k with
      | none =>
          rw [h.slot k, ha]
          refine hno.symm.trans ⟨fun hall => Or.inl ⟨rfl, hall⟩, ?_⟩
          rintro (⟨-, hall⟩ | ⟨j, himsi, hcomp⟩)
          · exact hall
          · rw [h.slot j] at himsi hcomp
            obtain ⟨r, hr, -⟩ := slotOf_imsi.mp himsi
            rw [hr] at hcomp
            exact nomatch hcomp
      | some r =>
          rw [h.slot k, ha]
          constructor
          · rintro ⟨j, r', hr', hfor, hhdlr⟩
            refine Or.inr ⟨j, ?_⟩
            rw [h.slot j, hr']
            exact ⟨slotOf_imsi.mpr ⟨r', rfl, (isFor_reserved r').mp hfor⟩, congrArg some hhdlr⟩
          · rintro (⟨hnone, -⟩ | ⟨j, himsi, hcomp⟩)
            · exact nomatch hnone
            · rw [h.slot j] at himsi hcomp
              obtain ⟨r', hr', himsi'⟩ := slotOf_imsi.mp himsi
              rw [hr'] at hcomp
              exact ⟨j, r', hr', (isFor_reserved r').mpr himsi', Option.some.inj hcomp⟩

variable [DecidableEq Comp]

/-- **A NEW REGISTRATION** takes the first free slot. -/
theorem register_follows (h : Holds t a) (imsi : Hexstring) (tmsiOrOmit : Option Oct4)
    (hdlr : Comp) : StepFollows mainStep ImsiAllowed ImsiStops Holds t a
      (.registerImsi imsi tmsiOrOmit hdlr) := by
  have hfind := h.find (p := fun c => c.imsi.isNone) slotOf_free
  cases hf : find a (fun o => o.isNone) with
  | none =>
      refine stepFollows_error (e := .shutdown "No space left in ImsiTable") ?_
        (find_free_none.mp hf)
      rw [mainStep, fCreateImsi, hfind, hf]
      rfl
  | some k =>
      have hstep : mainStep t (.registerImsi imsi tmsiOrOmit hdlr) = .ok (Function.update t k
            { imsi := some imsi, tmsi := tmsiOf tmsiOrOmit, compRef := some hdlr },
          [.reply hdlr]) := by
        rw [mainStep, fCreateImsi, hfind, hf]
        rfl
      refine stepFollows_ok hstep (.registered (find_free_iff.mp hf).1) (h.update ?_)
      rw [Says, slotOf, properTmsi_getD]

/-- **A REGISTRATION ENDS**: its slot is free again. -/
theorem unregister_follows (h : Holds t a) (imsi : Hexstring) (hdlr : Comp) :
    StepFollows mainStep ImsiAllowed ImsiStops Holds t a (.unregisterImsi imsi hdlr) := by
  have hfind := h.find (p := fun c => decide (c.imsi = some imsi ∧ c.compRef = some hdlr))
    (q := fun o => o.any (fun r => decide (r.imsi = imsi ∧ r.hdlr = hdlr))) (by
      rintro (_ | r)
      · rfl
      · exact decide_eq_decide.mpr (and_congr Option.some_inj Option.some_inj))
  cases hf : find a (fun o => o.any (fun r => decide (r.imsi = imsi ∧ r.hdlr = hdlr))) with
  | none =>
      refine stepFollows_error
        (e := .shutdown "Unable to find to-be-destroyed IMSI in ImsiTable") ?_ (fun k r hr => ?_)
      · rw [mainStep, fDestroyImsi, hfind, hf]
        rfl
      · exact of_decide_eq_false (find_fit_none.mp hf k r hr)
  | some k =>
      obtain ⟨r, hr, hfit, -⟩ := find_fit hf
      obtain ⟨rfl, rfl⟩ := of_decide_eq_true hfit
      refine stepFollows_ok ?_ (.unregistered hr) (h.update rfl)
      rw [mainStep, fDestroyImsi, hfind, hf]
      rfl

omit [DecidableEq Comp] in
/-- What is allowed of a paging. -/
theorem allowed_paging {i : Input Comp} {a' : Pool 16 (Registration Comp)} {out : Output Comp}
    (hi : i.paging = some (imsi, tmsi)) (h : ImsiAllowed a i a' [out]) :
    Delivers a imsi tmsi out := by
  generalize houts : [out] = outs at h
  cases h with
  | registered hfree => exact nomatch hi
  | unregistered hr => exact nomatch hi
  | paged hi' hout =>
      obtain ⟨rfl, rfl⟩ := Prod.mk.inj (Option.some.inj (hi.symm.trans hi'))
      rw [List.head_eq_of_cons_eq houts]
      exact hout

/-- **A PAGING** follows exactly where it is right. -/
theorem paging_follows_iff (h : Holds t a) {i : Input Comp} (hi : i.paging = some (imsi, tmsi))
    (hstep : mainStep t i = .ok (t, [dispatchPaging t imsi tmsi])) :
    StepFollows mainStep ImsiAllowed ImsiStops Holds t a i ↔ HoldsWhen t i := by
  have hdelivers : StepFollows mainStep ImsiAllowed ImsiStops Holds t a i
      ↔ Delivers a imsi tmsi (dispatchPaging t imsi tmsi) := by
    constructor
    · intro hfollows
      rw [StepFollows, hstep] at hfollows
      obtain ⟨a', hallowed, -⟩ := hfollows
      exact allowed_paging hi hallowed
    · exact fun hout => stepFollows_ok hstep (.paged hi hout) h
  rw [hdelivers, HoldsWhen, hi]
  by_cases htmsi : tmsi = some reserved
  · rw [htmsi, dispatch_reserved_iff h]
    constructor
    · rintro hright _ ⟨⟩ -
      exact hright
    · exact fun hall => hall _ rfl rfl
  · refine iff_of_true (dispatch_right h htmsi) ?_
    rintro _ ⟨⟩ hres
    exact absurd hres htmsi

/-- **ONE ROUND** follows exactly where it is right. -/
theorem mainStep_follows_iff (t : ImsiTable Comp) (a : Pool 16 (Registration Comp))
    (i : Input Comp) (h : Holds t a) :
    StepFollows mainStep ImsiAllowed ImsiStops Holds t a i ↔ HoldsWhen t i := by
  cases i with
  | registerImsi imsi tmsiOrOmit hdlr =>
      exact iff_of_true (register_follows h imsi tmsiOrOmit hdlr) (fun p hp => nomatch hp)
  | unregisterImsi imsi hdlr =>
      exact iff_of_true (unregister_follows h imsi hdlr) (fun p hp => nomatch hp)
  | bssmapPaging imsi tMsi => exact paging_follows_iff h rfl rfl
  | ranapPaging ranap => exact paging_follows_iff h rfl rfl

end Rounds

/-- **PAGINGS.**  A run from the empty table goes as the registrations allow in
    every round exactly if every round is right: no paging has the reserved
    value, except where the table happens to be right of it. -/
theorem ran_pagings {Comp : Type} [DecidableEq Comp] (is : List (Input Comp)) :
    Follows mainStep ImsiAllowed ImsiStops Holds imsiTableInit (fun _ => none) is
      ↔ Guarded mainStep HoldsWhen imsiTableInit is :=
  follows_iff_guarded mainStep_follows_iff is imsiTableInit (fun _ => none) holds_init

section Examples

/-- An IMSI. -/
def someImsi : Hexstring := [2, 6, 2, 4, 2]

/-- Two components wait for pagings, the first one no longer; a paging for the
    second one has the reserved value. -/
def hidden : List (Input Nat) :=
  [.registerImsi [1] none 1, .registerImsi someImsi (some 5#32) 2, .unregisterImsi [1] 1,
    .bssmapPaging someImsi (some reserved)]

/-- **A FREE SLOT HIDES A REGISTRATION**: the paging is not delivered. -/
theorem ran_pagings_hidden :
    ¬ Follows mainStep ImsiAllowed ImsiStops Holds imsiTableInit (fun _ => none) hidden := by
  rw [follows_iff_guarded mainStep_follows_iff hidden imsiTableInit (fun _ => none) holds_init]
  decide

end Examples

end OsmoRanImsi
