import OsmoTtcn.GtpEmulationProofs
import OsmoTtcn.KeyedSlotsProofs

/-! # Tunnel identifiers of the GTP emulations

    `GTPv2_Emulation` and `GTPv1U_Emulation` give out tunnel identifiers that
    they draw, and keep in a table who has which.  A drawn identifier is to be
    compared with every entry, and drawn again if there is one with it.

    The comparison is with the entry of the number of the draw, not of the round,
    and `continue` goes on with the search, not with the next draw.  So the first
    draw is always returned (`alloc_eq`).  `tid_allocation` says when an
    allocation is right, and that the tables are right in every run in which no
    draw and no registration meets an identifier of the table. -/

namespace OsmoGtpTid

open OsmoTitan OsmoGtpv2 SlotTable SlotMap KeyedSlots RunGuard SpecRun

/-- A TEIC or a TEID. -/
abbrev Tid : Type := BitVec 32

/-- The two emulations. -/
inductive Emulation where
  | gtpv2
  | gtpv1u
  deriving DecidableEq, Repr

-- ── The code ─────────────────────────────────────────────────────────────────

section Code

variable {Comp : Type}

-- What `isbound(TidTable)` of the whole array is.
variable (isboundTable : Table Tid Comp → Bool)

/-- `isbound(TidTable) and TidTable[i].teic == teic` -/
def sameTid (t : Table Tid Comp) (i : Nat) (tid : Tid) : Except Fault Bool :=
  if isboundTable t then
    if h : i < 256 then
      match (t ⟨i, h⟩).key with
      | none => .error .unbound
      | some k => .ok (k == tid)
    else .error .badIndex
  else .ok false

/-- The rounds of the inner loop, whose counter the body does not look at; both
    ways through the body lead to the next round. -/
def searchTid (t : Table Tid Comp) (i : Nat) (tid : Tid) : (rounds : Nat) → Except Fault Unit
  | 0 => .ok ()
  | rounds + 1 => (sameTid isboundTable t i tid).bind (fun same =>
      if same then searchTid t i tid rounds else searchTid t i tid rounds)

/-- The rounds of the outer loop from `i` on. -/
def drawTid (t : Table Tid Comp) (draws : Nat → Tid) (msg : String) :
    (rounds i : Nat) → Except Fault Tid
  | 0, _ => .error (.shutdown msg)
  | _ + 1, i => (searchTid isboundTable t i (draws i) 256).bind (fun _ =>
      -- we iterated over all entries and found no match: great!
      .ok (draws i))

/-- `f_alloc_teic` of `GTPv2_Emulation`, with what `f_rnd_octstring(4)` gives. -/
def fAllocTeic (t : Table Tid Comp) (draws : Nat → Tid) : Except Fault Tid :=
  drawTid isboundTable t draws "Cannot find unused TEIC after " 100 0

/-- `f_alloc_teid` of `GTPv1U_Emulation` -/
def fAllocTeid (t : Table Tid Comp) (draws : Nat → Tid) : Except Fault Tid :=
  drawTid isboundTable t draws "Cannot find unused TEID after " 100 0

/-- The allocation of an emulation. -/
def Emulation.alloc : Emulation → Table Tid Comp → (Nat → Tid) → Except Fault Tid
  | .gtpv2 => fAllocTeic isboundTable
  | .gtpv1u => fAllocTeid isboundTable

/-- The text of the stop behind the draws. -/
def Emulation.noUnused : Emulation → String
  | .gtpv2 => "Cannot find unused TEIC after "
  | .gtpv1u => "Cannot find unused TEID after "

/-- `f_tid_tbl_add`, the same in both. -/
def fTidAdd (t : Table Tid Comp) (tid : Tid) (vcConn : Comp) : Except Fault (Table Tid Comp) :=
  tblAdd t tid vcConn "No Space in TidTable for "

/-- `f_comp_by_teic` and `f_comp_by_teid` -/
def Emulation.compBy (em : Emulation) (t : Table Tid Comp) (tid : Tid) :
    Except Fault (Option Comp) :=
  match em with
  | .gtpv2 => OsmoGtpv2.compBy t tid "No Component for TEIC "
  | .gtpv1u => OsmoGtpv2.compBy t tid "No Component for TEID "

/-- What happens to the table: a registration, an allocation with what is drawn
    for it, and a message of the peer that bears an identifier. -/
inductive Call (Comp : Type) where
  | register (tid : Tid) (vcConn : Comp)
  | allocate (draws : Nat → Tid) (vcConn : Comp)
  | lookup (tid : Tid)

/-- What a request is answered with. -/
inductive Reply (Comp : Type) where
  | registered
  | allocated (tid : Tid)
  | found (vcConn : Option Comp)
  | unknown
  deriving DecidableEq

/-- The alternatives of `main` for them. -/
def tidStep (em : Emulation) (t : Table Tid Comp) :
    Call Comp → Except Fault (Table Tid Comp × Reply Comp)
  | .register tid vcConn => (fTidAdd t tid vcConn).map (fun t' => (t', .registered))
  | .allocate draws vcConn => (em.alloc isboundTable t draws).bind (fun tid =>
      (fTidAdd t tid vcConn).map (fun t' => (t', .allocated tid)))
  | .lookup tid =>
      if known t tid then (em.compBy t tid).map (fun c => (t, .found c)) else .ok (t, .unknown)

end Code

-- ── What the table is for ────────────────────────────────────────────────────

section Spec

variable {Comp : Type}

/-- **TUNNEL IDENTIFIERS**: each is given to one component only, and a search
    finds that one. -/
inductive TidAllowed : (Tid → Option Comp) → Call Comp → (Tid → Option Comp) →
    Reply Comp → Prop
  | register {g : Tid → Option Comp} {tid : Tid} {c : Comp} (hnew : g tid = none) :
      TidAllowed g (.register tid c) (Function.update g tid (some c)) .registered
  | allocate {g : Tid → Option Comp} {draws : Nat → Tid} {tid : Tid} {c : Comp}
      (hnew : g tid = none) :
      TidAllowed g (.allocate draws c) (Function.update g tid (some c)) (.allocated tid)
  | found {g : Tid → Option Comp} {tid : Tid} {c : Comp} (howner : g tid = some c) :
      TidAllowed g (.lookup tid) g (.found (some c))
  | unknown {g : Tid → Option Comp} {tid : Tid} (hnone : g tid = none) :
      TidAllowed g (.lookup tid) g .unknown

/-- The component that a call adds to the table. -/
def Call.adds : Call Comp → Option Comp
  | .register _ vcConn => some vcConn
  | .allocate _ vcConn => some vcConn
  | .lookup _ => none

/-- With what a run may end: a call that adds an identifier when there are 256, and
    an allocation whose 100 draws are all taken. -/
def TidEnds (em : Emulation) (g : Tid → Option Comp) (call : Call Comp) (e : Fault) : Prop :=
  (call.adds.isSome = true ∧ Full 256 g ∧ e = .shutdown "No Space in TidTable for ")
    ∨ ∃ draws c, call = .allocate draws c ∧ (∀ k, k < 100 → g (draws k) ≠ none)
      ∧ e = .shutdown em.noUnused

/-- The identifiers of the table are distinct, and searches find who has them. -/
structure TidRight (em : Emulation) (t : Table Tid Comp) (g : Tid → Option Comp) : Prop where
  distinct : ∀ i j tid, (t i).key = some tid → (t j).key = some tid → i = j
  known : ∀ tid, known t tid = (g tid).isSome
  owner : ∀ tid c, g tid = some c → em.compBy t tid = .ok (some c)

variable (isboundTable : Table Tid Comp → Bool)

/-- A right allocation: an identifier that is not in the table, or the stop behind
    100 draws that all are. -/
def AllocRight (em : Emulation) (t : Table Tid Comp) (draws : Nat → Tid) : Prop :=
  match em.alloc isboundTable t draws with
  | .ok tid => known t tid = false
  | .error e => e = .shutdown em.noUnused ∧ ∀ k, k < 100 → known t (draws k) = true

/-- There is an entry at least. -/
theorem slots_pos : 0 < 256 := by decide

/-- The first draw is not in the table; and the first entry, with which it is
    compared, is there where it is looked at. -/
def FirstFresh (t : Table Tid Comp) (draws : Nat → Tid) : Prop :=
  known t (draws 0) = false ∧ (isboundTable t = true → (t ⟨0, slots_pos⟩).key ≠ none)

/-- What a call has to meet. -/
def TidGuard (t : Table Tid Comp) : Call Comp → Prop
  | .register tid _ => known t tid = false
  | .allocate draws _ => known t (draws 0) = false
  | .lookup _ => True

end Spec

-- ── One allocation ───────────────────────────────────────────────────────────

section Alloc

variable {Comp : Type} {isboundTable : Table Tid Comp → Bool} {t : Table Tid Comp}

/-- The inner loop asks the entry of the outer one, whatever it counts. -/
theorem searchTid_ok {i : Nat} {tid : Tid} {same : Bool}
    (h : sameTid isboundTable t i tid = .ok same) (rounds : Nat) :
    searchTid isboundTable t i tid rounds = .ok () := by
  induction rounds with
  | zero => rfl
  | succ rounds ih =>
      rw [searchTid, h]
      show (if same = true then _ else _) = _
      rw [ite_self]
      exact ih

/-- **THE FIRST DRAW** is returned, unless there is no first entry to compare it
    with. -/
theorem alloc_eq (em : Emulation) (draws : Nat → Tid) :
    em.alloc isboundTable t draws
      = if isboundTable t = true ∧ (t 0).key = none then .error .unbound
        else .ok (draws 0) := by
  have hdraw : ∀ msg, drawTid isboundTable t draws msg 100 0
      = (searchTid isboundTable t 0 (draws 0) 256).bind (fun _ => .ok (draws 0)) :=
    fun _ => rfl
  have halloc : em.alloc isboundTable t draws
      = (searchTid isboundTable t 0 (draws 0) 256).bind (fun _ => .ok (draws 0)) := by
    cases em with
    | gtpv2 => exact hdraw "Cannot find unused TEIC after "
    | gtpv1u => exact hdraw "Cannot find unused TEID after "
  rw [halloc]
  by_cases hbound : isboundTable t = true
  · cases hkey : (t 0).key with
    | none =>
        have hsame : sameTid isboundTable t 0 (draws 0) = .error .unbound := by
          rw [sameTid, if_pos hbound, dif_pos (by decide)]
          show (match (t 0).key with | none => _ | some k => _) = _
          rw [hkey]
        rw [if_pos ⟨hbound, rfl⟩, searchTid, hsame]
        rfl
    | some k =>
        have hsame : sameTid isboundTable t 0 (draws 0) = .ok (k == draws 0) := by
          rw [sameTid, if_pos hbound, dif_pos (by decide)]
          show (match (t 0).key with | none => _ | some k => _) = _
          rw [hkey]
        rw [if_neg (fun h => nomatch h.2), searchTid_ok hsame]
        rfl
  · have hsame : sameTid isboundTable t 0 (draws 0) = .ok false := by
      rw [sameTid, if_neg hbound]
    rw [if_neg (fun h => hbound h.1), searchTid_ok hsame]
    rfl

/-- **EXACTLY WHEN** an allocation is right, of any table. -/
theorem allocRight_iff (em : Emulation) (draws : Nat → Tid) :
    AllocRight isboundTable em t draws ↔ FirstFresh isboundTable t draws := by
  rw [AllocRight, alloc_eq, FirstFresh]
  by_cases hfirst : isboundTable t = true ∧ (t 0).key = none
  · rw [if_pos hfirst]
    constructor
    · intro h
      exact nomatch h.1
    · intro h
      exact absurd hfirst.2 (h.2 hfirst.1)
  · rw [if_neg hfirst]
    constructor
    · exact fun h => ⟨h, fun hbound hnone => hfirst ⟨hbound, hnone⟩⟩
    · exact fun h => h.1

end Alloc

-- ── Runs ─────────────────────────────────────────────────────────────────────

section Runs

variable {Comp : Type} {isboundTable : Table Tid Comp → Bool} {t : Table Tid Comp}
variable {g : Tid → Option Comp}

/-- The table keeps the map, and is filled from its front. -/
structure TidInv (t : Table Tid Comp) (g : Tid → Option Comp) : Prop where
  keeps : Keeps TableRec.key TableRec.vcConn t g
  front : ∀ i, (t i).key ≠ none → (t 0).key ≠ none

/-- The table starts empty. -/
theorem tidInv_start : TidInv (unboundTable : Table Tid Comp) (fun _ => none) where
  keeps := keeps_empty (fun _ => rfl)
  front := fun _ h => absurd rfl h

/-- An identifier is known if it has an owner. -/
theorem TidInv.known (h : TidInv t g) (tid : Tid) : known t tid = (g tid).isSome :=
  h.keeps.isSome_find tid

/-- The owner of an identifier is found. -/
theorem TidInv.owner (h : TidInv t g) (em : Emulation) {tid : Tid} {c : Comp}
    (hg : g tid = some c) : em.compBy t tid = .ok (some c) := by
  obtain ⟨i, hf, -, hc⟩ := h.keeps.find_some hg
  have hby : ∀ msg, OsmoGtpv2.compBy t tid msg = .ok (some c) := by
    intro msg
    rw [OsmoGtpv2.compBy, findKey, hf, ← hc]
    rfl
  cases em with
  | gtpv2 => exact hby "No Component for TEIC "
  | gtpv1u => exact hby "No Component for TEID "

/-- The invariant says what the specification says of the table. -/
theorem TidInv.right (h : TidInv t g) (em : Emulation) : TidRight em t g where
  distinct := by
    intro i j tid hi hj
    obtain ⟨v, hv⟩ := Option.ne_none_iff_exists'.mp
      (h.keeps.whole i (by rw [hi]; exact Option.some_ne_none _))
    obtain ⟨w, hw⟩ := Option.ne_none_iff_exists'.mp
      (h.keeps.whole j (by rw [hj]; exact Option.some_ne_none _))
    exact (h.keeps.rep.same (held_eq hi hv) (held_eq hj hw)).1
  known := h.known
  owner := fun _ _ hg => h.owner em hg

/-- The first free slot of a table that is filled from its front. -/
theorem front_update {i : Fin 256} {r : TableRec Tid Comp}
    (hf : find t (fun r => r.key.isNone) = some i) (hr : r.key ≠ none) :
    ∀ j, (Function.update t i r j).key ≠ none → (Function.update t i r 0).key ≠ none := by
  intro j _
  by_cases hi : i = 0
  · rw [hi, Function.update_self]
    exact hr
  · rw [Function.update_of_ne (Ne.symm hi)]
    have hpos : (0 : Fin 256) < i := Fin.pos_iff_ne_zero.mpr hi
    have hused := (find_eq_some.mp hf).2 0 hpos
    intro hnone
    rw [hnone] at hused
    exact nomatch hused

/-- **AN IDENTIFIER IS ADDED** that is not in the table, or there is no space. -/
theorem TidInv.add (h : TidInv t g) {tid : Tid} (hnew : OsmoGtpv2.known t tid = false)
    (c : Comp) :
    (∃ t', fTidAdd t tid c = .ok t' ∧ g tid = none
        ∧ TidInv t' (Function.update g tid (some c)))
      ∨ fTidAdd t tid c = .error (.shutdown "No Space in TidTable for ") ∧ Full 256 g := by
  have hg : g tid = none := by
    rw [h.known] at hnew
    exact Option.isNone_iff_eq_none.mp (Option.isSome_eq_false_iff.mp hnew)
  rcases h.keeps.add hg c with ⟨i, hf, hkeeps⟩ | ⟨hf, hfull⟩
  · refine Or.inl ⟨Function.update t i ⟨some tid, some c⟩, ?_, hg, ?_⟩
    · rw [fTidAdd, tblAdd, hf]
      rfl
    · exact ⟨hkeeps ⟨some tid, some c⟩ rfl rfl, front_update hf (Option.some_ne_none tid)⟩
  · refine Or.inr ⟨?_, hfull⟩
    rw [fTidAdd, tblAdd, hf]
    rfl

/-- Some entry is there where the array is bound. -/
def BoundIfAny (isboundTable : Table Tid Comp → Bool) : Prop :=
  ∀ t, isboundTable t = true → ∃ i, (t i).key ≠ none

/-- **ONE CALL** that meets its condition. -/
theorem tidStep_right (hbound : BoundIfAny isboundTable) (em : Emulation) (call : Call Comp)
    (h : TidInv t g) (hguard : TidGuard t call) :
    StepFollowsUntil (tidStep isboundTable em) TidAllowed (TidEnds em) TidInv t g call := by
  cases call with
  | register tid c =>
      rcases h.add hguard c with ⟨t', hadd, hg, hinv⟩ | ⟨hadd, hfull⟩
      · refine Or.inr ⟨t', .registered, _, ?_, .register hg, hinv⟩
        rw [tidStep, hadd]
        rfl
      · refine Or.inl ⟨_, ?_, Or.inl ⟨rfl, hfull, rfl⟩⟩
        rw [tidStep, hadd]
        rfl
  | allocate draws c =>
      have hfirst : FirstFresh isboundTable t draws := by
        refine ⟨hguard, fun hb => ?_⟩
        obtain ⟨i, hi⟩ := hbound t hb
        exact h.front i hi
      have halloc : em.alloc isboundTable t draws = .ok (draws 0) :=
        (alloc_eq em draws).trans (if_neg (fun hnone => hfirst.2 hnone.1 hnone.2))
      have hstep : tidStep isboundTable em t (.allocate draws c)
          = (fTidAdd t (draws 0) c).map (fun t' => (t', .allocated (draws 0))) := by
        rw [tidStep, halloc, Except.bind]
      rcases h.add hguard c with ⟨t', hadd, hg, hinv⟩ | ⟨hadd, hfull⟩
      · refine Or.inr ⟨t', .allocated (draws 0), _, ?_, .allocate hg, hinv⟩
        rw [hstep, hadd]
        rfl
      · refine Or.inl ⟨_, ?_, Or.inl ⟨rfl, hfull, rfl⟩⟩
        rw [hstep, hadd]
        rfl
  | lookup tid =>
      cases hg : g tid with
      | none =>
          have hknown : known t tid = false := by
            rw [h.known, hg]
            rfl
          refine Or.inr ⟨t, .unknown, g, ?_, .unknown hg, h⟩
          rw [tidStep, hknown]
          rfl
      | some c =>
          have hknown : known t tid = true := by
            rw [h.known, hg]
            rfl
          refine Or.inr ⟨t, .found (some c), g, ?_, .found hg, h⟩
          rw [tidStep, if_pos hknown, h.owner em hg]
          rfl

end Runs

/-- **TUNNEL IDENTIFIERS**: an allocation is right exactly if the first draw is not
    in the table; and in every run in which no draw and no registration meets an
    identifier of the table, the identifiers are distinct and searches find who
    has them. -/
theorem tid_allocation {Comp : Type} {isboundTable : Table Tid Comp → Bool}
    (hbound : BoundIfAny isboundTable) (em : Emulation) :
    (∀ (t : Table Tid Comp) (draws : Nat → Tid),
        AllocRight isboundTable em t draws ↔ FirstFresh isboundTable t draws)
      ∧ ∀ calls : List (Call Comp),
        Guarded (tidStep isboundTable em) TidGuard unboundTable calls →
          FollowsUntil (tidStep isboundTable em) TidAllowed (TidEnds em) (TidRight em)
            unboundTable (fun _ => none) calls := by
  refine ⟨fun t draws => allocRight_iff em draws, fun calls hguarded => ?_⟩
  exact FollowsUntil.imp (fun _ _ h => h.right em)
    (followsUntil_of_guarded (fun _ _ call h hcall => tidStep_right hbound em call h hcall)
      calls _ _ tidInv_start hguarded)

/-- An array of which something is bound. -/
def isboundSome (t : Table Tid Nat) : Bool :=
  (List.finRange 256).any (fun i => (t i).key.isSome)

/-- The reading of `isbound` that is asked for. -/
theorem isboundSome_any : BoundIfAny isboundSome := by
  intro t h
  obtain ⟨i, -, hi⟩ := List.any_eq_true.mp h
  exact ⟨i, Option.isSome_iff_ne_none.mp hi⟩

-- ── One registered identifier ────────────────────────────────────────────────

/-- One registered identifier. -/
def oneTid : Table Tid Nat :=
  Function.update unboundTable ⟨0, slots_pos⟩ ⟨some 0x11223344#32, some 0⟩

/-- It is drawn again, and then another. -/
def drawsAgain (i : Nat) : Tid := if i = 0 then 0x11223344#32 else 0x55667788#32

/-- The first entry is taken. -/
theorem oneTid_zero : oneTid 0 = ⟨some 0x11223344#32, some 0⟩ := Function.update_self 0 _ _

/-- The second one is free. -/
theorem oneTid_one : oneTid 1 = ⟨none, none⟩ := Function.update_of_ne (by decide) _ _

/-- One registration makes that table. -/
theorem fTidAdd_oneTid : fTidAdd unboundTable 0x11223344#32 0 = .ok oneTid := by
  have hfind : find (unboundTable : Table Tid Nat) (fun r => r.key.isNone) = some 0 :=
    find_eq_some.mpr ⟨rfl, fun j hj => absurd hj (Fin.not_lt_zero j)⟩
  rw [fTidAdd, tblAdd, hfind]
  rfl

/-- So does one step. -/
theorem tidStep_register (em : Emulation) :
    tidStep isboundSome em unboundTable (.register 0x11223344#32 0)
      = .ok (oneTid, .registered) := by
  rw [tidStep, fTidAdd_oneTid]
  rfl

/-- The other identifier is not in it. -/
theorem oneTid_unknown : known oneTid 0x55667788#32 = false := by
  rw [known, findKey, Option.isSome_eq_false_iff, Option.isNone_iff_eq_none, find_eq_none]
  intro i
  by_cases hi : i = 0
  · rw [hi, oneTid_zero]
    rfl
  · rw [oneTid, Function.update_of_ne (show i ≠ ⟨0, slots_pos⟩ from hi)]
    rfl

/-- A fresh identifier is drawn and returned. -/
theorem tid_allocation_some :
    (AllocRight isboundSome .gtpv2 oneTid (fun _ => 0x55667788#32)
        ↔ FirstFresh isboundSome oneTid (fun _ => 0x55667788#32))
      ∧ FollowsUntil (tidStep isboundSome .gtpv2) TidAllowed (TidEnds .gtpv2)
          (TidRight .gtpv2) unboundTable (fun _ => none)
          [.register 0x11223344#32 0, .allocate (fun _ => 0x55667788#32) 1] := by
  have hguarded : Guarded (tidStep isboundSome .gtpv2) TidGuard unboundTable
      [.register 0x11223344#32 0, .allocate (fun _ => 0x55667788#32) 1] := by
    rw [guarded_cons_ok (tidStep_register .gtpv2)]
    refine ⟨?_, oneTid_unknown, ?_⟩
    · exact Option.isSome_eq_false_iff.mpr
        (Option.isNone_iff_eq_none.mpr (find_eq_none.mpr (fun _ => rfl)))
    · cases tidStep isboundSome .gtpv2 oneTid (.allocate (fun _ => 0x55667788#32) 1) with
      | error e => trivial
      | ok r => trivial
  exact ⟨(tid_allocation isboundSome_any .gtpv2).1 oneTid (fun _ => 0x55667788#32),
    (tid_allocation isboundSome_any .gtpv2).2 _ hguarded⟩

/-- The first identifier is in it. -/
theorem oneTid_known : known oneTid 0x11223344#32 = true := by
  rw [known, findKey, Option.isSome_iff_exists]
  refine ⟨0, find_eq_some.mpr ⟨?_, fun j hj => absurd hj (Fin.not_lt_zero j)⟩⟩
  rw [oneTid_zero]
  rfl

/-- An identifier can be added a second time. -/
theorem fTidAdd_twice : fTidAdd oneTid 0x11223344#32 1
    = .ok (Function.update oneTid 1 ⟨some 0x11223344#32, some 1⟩) := by
  have hfind : find oneTid (fun r => r.key.isNone) = some 1 := by
    refine find_eq_some.mpr ⟨?_, fun j hj => ?_⟩
    · rw [oneTid_one]
      rfl
    · have hj0 : j = 0 := by omega
      rw [hj0, oneTid_zero]
      rfl
  rw [fTidAdd, tblAdd, hfind]
  rfl

/-- An identifier that is taken is returned. -/
theorem alloc_oneTid (em : Emulation) :
    em.alloc isboundSome oneTid drawsAgain = .ok 0x11223344#32 := by
  have hzero : ¬ (isboundSome oneTid = true ∧ (oneTid 0).key = none) := by
    rw [oneTid_zero]
    exact fun h => Option.some_ne_none _ h.2
  exact (alloc_eq em drawsAgain).trans (if_neg hzero)

/-- That is not what the allocation is for. -/
theorem not_allocRight_oneTid (em : Emulation) :
    ¬ AllocRight isboundSome em oneTid drawsAgain := by
  rw [AllocRight, alloc_oneTid]
  intro h
  have hunknown : known oneTid 0x11223344#32 = false := h
  rw [oneTid_known] at hunknown
  cases hunknown

/-- The identifier is then in the table twice. -/
theorem not_followsUntil_again (em : Emulation) :
    ¬ FollowsUntil (tidStep isboundSome em) TidAllowed (TidEnds em) (TidRight em)
        unboundTable (fun _ => none)
        [.register 0x11223344#32 0, .allocate drawsAgain 1] := by
  have halloc : tidStep isboundSome em oneTid (.allocate drawsAgain 1)
      = .ok (Function.update oneTid 1 ⟨some 0x11223344#32, some 1⟩,
          .allocated 0x11223344#32) := by
    rw [tidStep, alloc_oneTid, Except.bind, fTidAdd_twice]
    rfl
  rw [followsUntil_cons_ok (tidStep_register em)]
  rintro ⟨-, g, -, hrest⟩
  rw [followsUntil_cons_ok halloc] at hrest
  obtain ⟨-, g', -, hright⟩ := hrest
  have hsame := hright.distinct 0 1 0x11223344#32
    (by rw [Function.update_of_ne (by decide), oneTid_zero]) (by rw [Function.update_self])
  exact absurd hsame (by decide)

/-- **AN IDENTIFIER IN USE** is given to another component. -/
theorem tid_drawn_again :
    (¬ AllocRight isboundSome .gtpv2 oneTid drawsAgain
        ∧ ¬ AllocRight isboundSome .gtpv1u oneTid drawsAgain)
      ∧ ¬ FollowsUntil (tidStep isboundSome .gtpv2) TidAllowed (TidEnds .gtpv2)
          (TidRight .gtpv2) unboundTable (fun _ => none)
          [.register 0x11223344#32 0, .allocate drawsAgain 1]
      ∧ ¬ FollowsUntil (tidStep isboundSome .gtpv1u) TidAllowed (TidEnds .gtpv1u)
          (TidRight .gtpv1u) unboundTable (fun _ => none)
          [.register 0x11223344#32 0, .allocate drawsAgain 1] :=
  ⟨⟨not_allocRight_oneTid .gtpv2, not_allocRight_oneTid .gtpv1u⟩,
    not_followsUntil_again .gtpv2, not_followsUntil_again .gtpv1u⟩

end OsmoGtpTid
