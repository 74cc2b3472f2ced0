import OsmoTtcn.CountLoopProofs
import OsmoTtcn.IuupEmulationProofs

/-! # What an INIT of IuUP announces

    An INIT lists the RAB flow combinations of an entity: for each its RFCI and
    the lengths of its sub-flows, with LRI on the last, and its IPTI.  How many
    lengths there are for an RFCI is not in the list; a receiver takes it from
    the field in front, the number of sub-flows per RFCI.

    `f_ts_IuUP_INIT` builds the list from its end, and then the IPTIs.
    `fTsIuupInit_loops` shows that its two loops give the two lists of
    `fTsIuupInit`.  Into the field in front it puts the number of RFCIs, so
    that an INIT is right exactly where the two numbers are the same
    (`init_right_iff`). -/

namespace OsmoIuupInit

open OsmoTitan OsmoIuup OsmoIuupEm CountLoop

-- ── The two loops ────────────────────────────────────────────────────────────

/-- `ts_IuUP_InitRfci`, in front of the list that its last field is. -/
def tsIuupInitRfci (lri li : Bool) (rfciId : Fin 64) (len8 : Option (List UInt8))
    (len16 : Option (List UInt16)) (rfci : List IuupInitRfci) : List IuupInitRfci :=
  ⟨lri, li, rfciId, len8, len16⟩ :: rfci

/-- `st.cfg.rab_flow_combs[i]` -/
def combAt (combs : List IuupRabFlowCombination) (i : Int) :
    Except Fault IuupRabFlowCombination :=
  if i < 0 then .error .badIndex
  else match combs[i.toNat]? with
    | none => .error .badIndex
    | some comb => .ok comb

/-- One round of the loop for the RFCI list. -/
def rfciRound (combs : List IuupRabFlowCombination) (remain : Int)
    (rfci : List IuupInitRfci) : Except Fault (List IuupInitRfci) :=
  (combAt combs (remain - 1)).map (fun comb =>
    tsIuupInitRfci (decide (remain = combs.length)) false comb.rfci
      (some comb.subFlowBits) none rfci)

/-- One round of the loop for the IPTI list. -/
def iptiRound (combs : List IuupRabFlowCombination) (i : Int) (iptis : List UInt8) :
    Except Fault (List UInt8) :=
  (combAt combs i).map (fun comb => iptis ++ [comb.ipti])

/-- `f_ts_IuUP_INIT` with its loops.  An RFCI list that is still `omit` is no
    value for the field `rfci`. -/
def fTsIuupInitLoops (cfg : IuupConfig) : Except Fault (IuupPdu IuupBody) :=
  let numRfci := cfg.rabFlowCombs.length
  let dataPduType : Fin 16 := if cfg.dataPduType0 then 0 else 1
  (downTo numRfci 1 (rfciRound cfg.rabFlowCombs) []).bind (fun rfci =>
    (forTo 0 numRfci (iptiRound cfg.rabFlowCombs) []).bind (fun iptis =>
      if rfci = [] then .error .unbound
      else .ok (tsIuupInit
        { spare := 0
          ti := true
          subflowsPerRfci := numRfci
          chainInd := false
          rfci := rfci
          iptis := some iptis
          versionsSupported := 1
          dataPduType := dataPduType
          spare2 := 0 })))

section Loops

variable {combs : List IuupRabFlowCombination}

/-- Inside of the list there is a combination. -/
theorem combAt_nat {i : Nat} (h : i < combs.length) :
    combAt combs (i : Int) = .ok combs[i] := by
  have hnat : ¬ ((i : Int) < 0) := by omega
  rw [combAt, if_neg hnat, Int.toNat_natCast, List.getElem?_eq_getElem h]

/-- The list from its front: `lri` where nothing follows. -/
theorem initRfci_cons (comb : IuupRabFlowCombination)
    (rest : List IuupRabFlowCombination) :
    initRfci (comb :: rest)
      = ⟨decide (rest = []), false, comb.rfci, some comb.subFlowBits, none⟩
        :: initRfci rest := by
  cases rest with
  | nil => rfl
  | cons next rest => rfl

/-- There are RFCIs if there are combinations. -/
theorem initRfci_eq_nil : initRfci combs = [] ↔ combs = [] := by
  cases combs with
  | nil =>
      constructor
      · exact fun _ => rfl
      · exact fun _ => rfl
  | cons comb rest =>
      rw [initRfci_cons]
      constructor
      · intro h
        exact absurd h (List.cons_ne_nil _ _)
      · intro h
        exact absurd h (List.cons_ne_nil _ _)

/-- A round puts the combination before those that are listed. -/
theorem rfciRound_drop {k : Nat} (h : k < combs.length) :
    rfciRound combs ((k : Int) + 1) (initRfci (combs.drop (k + 1)))
      = .ok (initRfci (combs.drop k)) := by
  have hindex : ((k : Int) + 1) - 1 = (k : Int) := by omega
  have hlast : decide ((k : Int) + 1 = combs.length)
      = decide (combs.drop (k + 1) = []) := by
    refine decide_eq_decide.mpr ?_
    rw [List.drop_eq_nil_iff]
    omega
  rw [rfciRound, hindex, combAt_nat h, List.drop_eq_getElem_cons h, initRfci_cons, hlast]
  rfl

/-- From the end of the combinations to their front. -/
theorem rfciLoop_eq :
    downTo combs.length 1 (rfciRound combs) [] = .ok (initRfci combs) := by
  have hstart : [] = initRfci (combs.drop (combs.length : Int).toNat) := by
    rw [Int.toNat_natCast, List.drop_length]
    rfl
  obtain ⟨s, hloop, hs⟩ := @downTo_inv _ _ (rfciRound combs)
    (fun i s => s = initRfci (combs.drop i.toNat)) combs.length 1 [] (by omega)
    (by
      intro i s hlo hhi hs
      obtain ⟨k, rfl⟩ : ∃ k : Nat, i = (k : Int) + 1 := ⟨(i - 1).toNat, by omega⟩
      have hto : ((k : Int) + 1).toNat = k + 1 := by omega
      have hdown : ((k : Int) + 1 - 1).toNat = k := by omega
      rw [hto] at hs
      refine ⟨initRfci (combs.drop k), ?_, ?_⟩
      · rw [hs]
        exact rfciRound_drop (by omega)
      · rw [hdown])
    hstart
  rw [hloop, hs]
  rfl

/-- One round appends one IPTI. -/
theorem iptiRound_take {k : Nat} (h : k < combs.length) :
    iptiRound combs k ((combs.take k).map (fun comb => comb.ipti))
      = .ok ((combs.take (k + 1)).map (fun comb => comb.ipti)) := by
  rw [iptiRound, combAt_nat h, ← List.take_append_getElem h, List.map_append]
  rfl

/-- The loop collects the IPTIs in order. -/
theorem iptiLoop_eq :
    forTo 0 combs.length (iptiRound combs) []
      = .ok (combs.map (fun comb => comb.ipti)) := by
  obtain ⟨s, hloop, hs⟩ := @forTo_inv _ _ (iptiRound combs)
    (fun i s => s = (combs.take i.toNat).map (fun comb => comb.ipti)) 0 combs.length []
    (by omega)
    (by
      intro i s hlo hhi hs
      obtain ⟨k, rfl⟩ : ∃ k : Nat, i = (k : Int) := ⟨i.toNat, by omega⟩
      have hup : ((k : Int) + 1).toNat = k + 1 := by omega
      rw [Int.toNat_natCast] at hs
      refine ⟨_, ?_, rfl⟩
      rw [hs, hup]
      exact iptiRound_take (by omega))
    rfl
  rw [Int.toNat_natCast, List.take_length] at hs
  rw [hloop, hs]

/-- The loops give the lists. -/
theorem fTsIuupInit_loops (cfg : IuupConfig) :
    fTsIuupInit cfg = fTsIuupInitLoops cfg := by
  unfold fTsIuupInit fTsIuupInitLoops
  simp only [rfciLoop_eq, iptiLoop_eq, Except.bind, initRfci_eq_nil]

end Loops

-- ── A right INIT ─────────────────────────────────────────────────────────────

/-- The sub-flow lengths of an RFCI, from the list that `li` announces. -/
def lengthsOf (rfci : IuupInitRfci) : Option (List Nat) :=
  match rfci.li, rfci.len8, rfci.len16 with
  | false, some len8, none => some (len8.map UInt8.toNat)
  | true, none, some len16 => some (len16.map UInt16.toNat)
  | _, _, _ => none

/-- **A RIGHT INIT** for the combinations. -/
structure InitRight (combs : List IuupRabFlowCombination) (init : IuupInit) : Prop where
  rfcis : init.rfci.map (fun rfci => rfci.rfciId) = combs.map (fun comb => comb.rfci)
  last : ∀ (i : Nat) (rfci : IuupInitRfci), init.rfci[i]? = some rfci →
    (rfci.lri = true ↔ i + 1 = init.rfci.length)
  lengths : init.rfci.map lengthsOf
    = combs.map (fun comb => some (comb.subFlowBits.map UInt8.toNat))
  subflows : ∀ comb ∈ combs, init.subflowsPerRfci = comb.subFlowBits.length
  iptis : init.ti = true ∧ init.iptis = some (combs.map (fun comb => comb.ipti))

section Right

variable {combs : List IuupRabFlowCombination}

/-- The RFCIs are those of the combinations, in order. -/
theorem initRfci_rfcis :
    (initRfci combs).map (fun rfci => rfci.rfciId) = combs.map (fun comb => comb.rfci) := by
  induction combs with
  | nil => rfl
  | cons comb rest ih => rw [initRfci_cons, List.map_cons, List.map_cons, ih]

/-- There are as many of them. -/
theorem initRfci_length : (initRfci combs).length = combs.length := by
  have h := congrArg List.length (@initRfci_rfcis combs)
  rw [List.length_map, List.length_map] at h
  exact h

/-- The lengths of the sub-flows are those of the combinations. -/
theorem initRfci_lengths :
    (initRfci combs).map lengthsOf
      = combs.map (fun comb => some (comb.subFlowBits.map UInt8.toNat)) := by
  induction combs with
  | nil => rfl
  | cons comb rest ih =>
      rw [initRfci_cons, List.map_cons, List.map_cons, ih]
      rfl

/-- Only the last one is marked as the last. -/
theorem initRfci_last (i : Nat) (rfci : IuupInitRfci)
    (h : (initRfci combs)[i]? = some rfci) :
    rfci.lri = true ↔ i + 1 = (initRfci combs).length := by
  induction combs generalizing i with
  | nil => exact nomatch h
  | cons comb rest ih =>
      rw [initRfci_cons] at h
      rw [initRfci_length, List.length_cons]
      cases i with
      | zero =>
          have hrfci := Option.some.inj h
          rw [← hrfci]
          show decide (rest = []) = true ↔ _
          rw [decide_eq_true_iff, ← List.length_eq_zero_iff]
          omega
      | succ i =>
          rw [ih i h, initRfci_length]
          omega

/-- Two INITs of one PDU are the same. -/
theorem tsIuupInit_inj {a b : IuupInit} (h : tsIuupInit a = tsIuupInit b) : a = b := by
  injection h with h
  injection h with _ _ _ _ _ _ h
  injection h

/-- What `fTsIuupInit` builds: only the number in front may be wrong. -/
theorem fTsIuupInit_ok {cfg : IuupConfig} (hne : cfg.rabFlowCombs ≠ []) :
    ∃ built, fTsIuupInit cfg = .ok (tsIuupInit built)
      ∧ (InitRight cfg.rabFlowCombs built
        ↔ ∀ comb ∈ cfg.rabFlowCombs, cfg.rabFlowCombs.length = comb.subFlowBits.length) := by
  refine ⟨_, if_neg hne, ?_⟩
  constructor
  · exact fun h => h.subflows
  · intro h
    exact
      { rfcis := initRfci_rfcis
        last := initRfci_last
        lengths := initRfci_lengths
        subflows := h
        iptis := ⟨rfl, rfl⟩ }

end Right

-- ── Where the INIT is right ──────────────────────────────────────────────────

/-- **EXACTLY WHEN** the INIT is right: each combination has as many sub-flows as
    there are combinations. -/
theorem init_right_iff {cfg : IuupConfig} (hne : cfg.rabFlowCombs ≠ []) :
    (∃ init, fTsIuupInit cfg = .ok (tsIuupInit init) ∧ InitRight cfg.rabFlowCombs init)
      ↔ ∀ comb ∈ cfg.rabFlowCombs, cfg.rabFlowCombs.length = comb.subFlowBits.length := by
  obtain ⟨built, hok, hright⟩ := fTsIuupInit_ok hne
  rw [← hright]
  constructor
  · rintro ⟨init, hinit, hr⟩
    rw [hok] at hinit
    have heq := tsIuupInit_inj (Except.ok.inj hinit)
    rw [heq]
    exact hr
  · exact fun hr => ⟨built, hok, hr⟩

/-- `c_IuUP_Config_def` -/
def cIuupConfigDef : IuupConfig where
  activeInit := true
  dataPduType0 := true
  rabFlowCombs := [⟨0, [81, 103, 60], 1⟩, ⟨1, [39, 0, 0], 7⟩, ⟨2, [0, 0, 0], 1⟩]

/-- The INIT of the default configuration. -/
theorem init_right_default :
    ∃ init, fTsIuupInit cIuupConfigDef = .ok (tsIuupInit init)
      ∧ InitRight cIuupConfigDef.rabFlowCombs init :=
  (init_right_iff (by decide)).mpr (by decide)

/-- The default without its last combination: three sub-flows for each of two
    RFCIs, and an INIT with the number two. -/
theorem init_two_of_three :
    ¬ ∃ init, fTsIuupInit
          { cIuupConfigDef with rabFlowCombs := cIuupConfigDef.rabFlowCombs.take 2 }
        = .ok (tsIuupInit init)
      ∧ InitRight (cIuupConfigDef.rabFlowCombs.take 2) init := by
  rintro ⟨init, hinit, hr⟩
  have heq := tsIuupInit_inj (Except.ok.inj hinit)
  have hsubflows := hr.subflows
  rw [← heq] at hsubflows
  exact absurd hsubflows (by decide)

end OsmoIuupInit
