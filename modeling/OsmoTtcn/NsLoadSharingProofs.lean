import OsmoTtcn.NsVcgProofs

/-! # Unitdata requests of an NS entity

    A request of the user goes to one of the NSVCs that the NS-VCG knows as
    unblocked, chosen by the link selector modulo their number.  Nothing looks
    whether there is one: with none, a request that `as_ns_common` takes ends
    the component with a division by zero.

    `load_sharing` says of every reachable state that this is the only way in
    which the choice goes wrong. -/

namespace OsmoNsVcg

open OsmoTitan OsmoNs OsmoNsvc IndexList RunGuard

-- ── The lists ────────────────────────────────────────────────────────────────

section Lists

variable {ct : NsCt Nat}

/-- Each list has the indices of the NSVCs that are unblocked and may carry the
    load, each once. -/
def ListsOk (ct : NsCt Nat) : Prop :=
  ∀ bvci, Indexes (Unblocked (weightOf bvci)) ct.nsvcs (unblockedFor ct bvci)

/-- Both lists are right if each of them is. -/
theorem listsOk_of (hsig : Indexes (Unblocked NSVCConfigurationIP.signallingWeight) ct.nsvcs
      ct.unblockedNsvcsSig)
    (hdata : Indexes (Unblocked NSVCConfigurationIP.dataWeight) ct.nsvcs
      ct.unblockedNsvcsData) : ListsOk ct := by
  intro bvci
  rw [weightOf, unblockedFor]
  by_cases hb : bvci = 0
  · rw [if_pos hb, if_pos hb]
    exact hsig
  · rw [if_neg hb, if_neg hb]
    exact hdata

/-- The list for signalling. -/
theorem ListsOk.sig (h : ListsOk ct) :
    Indexes (Unblocked NSVCConfigurationIP.signallingWeight) ct.nsvcs ct.unblockedNsvcsSig :=
  h 0

/-- The list for data. -/
theorem ListsOk.data (h : ListsOk ct) :
    Indexes (Unblocked NSVCConfigurationIP.dataWeight) ct.nsvcs ct.unblockedNsvcsData :=
  h 1

/-- An NSVC that is added is dead and blocked. -/
theorem ListsOk.add (h : ListsOk ct) (cfg : NSVCConfiguration) (vcConn created : Nat) :
    ListsOk (fNsvcAdd ct cfg vcConn created).1 := by
  obtain ⟨htable, hsig, hdata⟩ := fNsvcAdd_eq ct cfg vcConn created
  have hblocked : ∀ weight : NSVCConfigurationIP → UInt8,
      ¬ Unblocked weight ({ cfg := cfg, vcConn := vcConn, state := .deadBlocked }
        : NsvcTableEntry Nat) := fun _ hu => nomatch hu.1
  refine listsOk_of ?_ ?_
  · rw [htable, hsig]
    exact h.sig.push (hblocked _)
  · rw [htable, hdata]
    exact h.data.push (hblocked _)

/-- **THE LISTS FOLLOW** every change of a state. -/
theorem ListsOk.updateState (h : ListsOk ct) (nsvci : Nsvci) (state : NsvcState) :
    ListsOk (fNsvcUpdateState ct nsvci state) := by
  rw [fNsvcUpdateState_eq]
  cases fNsvcFindIdx ct nsvci with
  | none => exact h
  | some i =>
      have hi : ct.nsvcs[i.val]? = some (ct.nsvcs.get i) := List.getElem?_eq_getElem i.isLt
      exact listsOk_of (relist_indexes h.sig hi state) (relist_indexes h.data hi state)

end Lists

-- ── Every reachable state ────────────────────────────────────────────────────

section Steps

variable {inetAddr : AddressFamily → String → List UInt8} {s s' : NsVcg} {e : NsEvent}
variable {o : List NsSpMsg}

/-- What an NSVC does leaves the tables alone. -/
theorem vcScans_ct {vc : Nat} {c : NsvcCt} {ev : NsvcEvent} {rest : List VcRequest}
    (h : vcScans s vc c ev rest = .ok (s', o)) : s'.ct = s.ct := by
  rw [vcScans] at h
  cases hscan : fScanEvents c ev with
  | none =>
      rw [hscan] at h
      rw [← (Prod.mk.inj (Except.ok.inj h)).1]
  | some r =>
      rw [hscan] at h
      obtain ⟨c', -, heq⟩ := map_ok h
      rw [← (Prod.mk.inj heq).1]

/-- **ONE STEP** leaves the lists right. -/
theorem ListsOk.step (h : ListsOk s.ct) (hstep : nsStep inetAddr s e = .ok (s', o)) :
    ListsOk s'.ct := by
  cases nsStep_cases hstep with
  | stays hs ho =>
      rw [hs]
      exact h
  | scans vc c ev rest hk hrest hev hscan =>
      rw [vcScans_ct hscan]
      exact h
  | hears vc c m rest he hk hsp hreceive =>
      have hct := (receive_hears inetAddr vc _ hreceive).ct
      rw [hct]
      cases heard s.phase m with
      | none => exact h
      | some rx => exact h.updateState rx.nsvci rx.newState
  | requests hframe hphase ho =>
      rw [hframe.ct]
      exact h

/-- The start of the entity. -/
theorem nsStart_listsOk {g : NSConfiguration} (h : nsStart g = .ok s) : ListsOk s.ct := by
  have hloop : ∀ (l : List NSVCConfiguration) (s : NsVcg), ListsOk s.ct →
      ListsOk (l.foldl addNsvc s).ct := by
    intro l
    induction l with
    | nil => exact fun _ h => h
    | cons cfg l ih => exact fun s h => ih (addNsvc s cfg) (h.add cfg _ _)
  have hadded := hloop g.nsvc (noNsvcs g) (listsOk_of indexes_nil indexes_nil)
  rw [nsStart] at h
  by_cases hsns : g.handleSns = true ∧ g.roleSgsn = false
  · rw [if_pos hsns, fSnsOutboundSizeConfig] at h
    obtain ⟨ip, -, h⟩ := bind_ok h
    obtain ⟨s1, hs1, rfl⟩ := map_ok h
    rw [sendToOnly] at hs1
    split at hs1
    · rw [← Except.ok.inj hs1]
      exact hadded
    · cases hs1
  · rw [if_neg hsns] at h
    rw [← Except.ok.inj h]
    exact hadded

/-- What holds in every state that a run leads to. -/
structure Reached (s : NsVcg) : Prop where
  lists : ListsOk s.ct
  nsei : s.ct.nsei = s.gConfig.nsei

/-- Every state of a run was reached. -/
theorem reached_of_run {g : NSConfiguration} {s0 : NsVcg} (hstart : nsStart g = .ok s0)
    {es : List NsEvent} {os : List (List NsSpMsg)}
    (hrun : run (nsStep inetAddr) s0 es = .ok (s, os)) : Reached s := by
  have hinv := run_reports_inv (I := fun s _ => VcgOk s ∧ ListsOk s.ct)
    (fun _ _ _ _ _ hI hstep => ⟨hI.1.step hstep, hI.2.step hstep⟩) es s0 [] s os
    ⟨nsStart_ok hstart, nsStart_listsOk hstart⟩ hrun
  exact ⟨hinv.2, hinv.1.copies.nsei⟩

end Steps

-- ── Requests ─────────────────────────────────────────────────────────────────

section Requests

/-- `NSVC_S_ALIVE_UNBLOCKED` and a weight, as far as the NS-VCG knows. -/
def Usable (s : NsVcg) (bvci : BssgpBvci) (te : NsvcTableEntry Nat) : Prop :=
  te ∈ s.ct.nsvcs ∧ Unblocked (weightOf bvci) te

/-- **THE CHOICE IS TOTAL**: it neither divides by zero nor reads outside a
    list; a request goes to an NSVC that is usable or changes nothing; and
    without such an NSVC it is left, or ends the test with a report. -/
structure ChoiceTotal (inetAddr : AddressFamily → String → List UInt8) (s : NsVcg)
    (req : NsUdReq) : Prop where
  divides : nsStep inetAddr s (.nsSp req)
    ≠ .error (.ttcnError "The right operand of mod operator is zero.")
  inside : nsStep inetAddr s (.nsSp req) ≠ .error .badIndex
  chosen : ∀ s' o, nsStep inetAddr s (.nsSp req) = .ok (s', o) → o = [] ∧ (s' = s
    ∨ ∃ te, Usable s req.bvci te ∧ s' = s.sendTo te.vcConn (.unitdata req))
  refused : (∀ te, ¬ Usable s req.bvci te) →
    nsStep inetAddr s (.nsSp req) = .ok (s, [])
      ∨ ∃ msg, nsStep inetAddr s (.nsSp req) = .error (.shutdown msg)

/-- A request that is distributed finds a usable NSVC. -/
def ChoiceTotalWhen (s : NsVcg) (req : NsUdReq) : Prop :=
  s.phase = .common → req.sdu.isSome = true → req.nsei = s.gConfig.nsei →
    ∃ te, Usable s req.bvci te

variable {inetAddr : AddressFamily → String → List UInt8} {s : NsVcg} {req : NsUdReq}

/-- The list is empty where no NSVC is usable. -/
theorem unblockedFor_eq_nil (h : ListsOk s.ct) {bvci : BssgpBvci}
    (hno : ∀ te, ¬ Usable s bvci te) : unblockedFor s.ct bvci = [] := by
  refine List.eq_nil_iff_forall_not_mem.mpr (fun x hx => ?_)
  obtain ⟨i, -, te, hte, hun⟩ := ((h bvci).mem x).mp hx
  exact hno te ⟨List.mem_of_getElem? hte, hun⟩

/-- **THE CHOICE**, where an NSVC is usable. -/
theorem asNsCommonUdReq_usable (h : ListsOk s.ct) {rx : NsUnitdataRequest}
    (hnsei : rx.nsei = s.ct.nsei) {te : NsvcTableEntry Nat} (hte : Usable s rx.bvci te) :
    ∃ te', Usable s rx.bvci te' ∧ asNsCommonUdReq s.ct rx = .ok te'.vcConn := by
  obtain ⟨i, hi⟩ := List.mem_iff_getElem?.mp hte.1
  have hmem := ((h rx.bvci).mem i).mpr ⟨i, rfl, te, hi, hte.2⟩
  obtain ⟨x, hx, hxmem⟩ := mod_position (List.ne_nil_of_mem hmem) rx.lsp
  obtain ⟨j, rfl, te', hte', hun⟩ := ((h rx.bvci).mem x).mp hxmem
  exact ⟨te', ⟨List.mem_of_getElem? hte', hun⟩,
    udReq_ok_iff.mpr ⟨hnsei, j, te', hx, hte', rfl⟩⟩

/-- Where none is, the number that divides is zero. -/
theorem asNsCommonUdReq_unusable (h : ListsOk s.ct) {rx : NsUnitdataRequest}
    (hnsei : rx.nsei = s.ct.nsei) (hno : ∀ te, ¬ Usable s rx.bvci te) :
    asNsCommonUdReq s.ct rx
      = .error (.ttcnError "The right operand of mod operator is zero.") := by
  have hlen : (unblockedFor s.ct rx.bvci).length = 0 := by
    rw [unblockedFor_eq_nil h hno]
    rfl
  rw [asNsCommonUdReq, if_neg (not_not.mpr hnsei)]
  exact if_pos hlen

/-- A request that comes through goes to a usable NSVC or nowhere. -/
theorem choiceTotal_of_ok {s' : NsVcg} (hstep : nsStep inetAddr s (.nsSp req) = .ok (s', []))
    (hchosen : s' = s
      ∨ ∃ te, Usable s req.bvci te ∧ s' = s.sendTo te.vcConn (.unitdata req))
    (hrefused : (∀ te, ¬ Usable s req.bvci te) → s' = s) : ChoiceTotal inetAddr s req := by
  refine ⟨?_, ?_, ?_, fun hno => Or.inl ?_⟩
  · intro h
    cases hstep.symm.trans h
  · intro h
    cases hstep.symm.trans h
  · intro s'' o hok
    obtain ⟨rfl, rfl⟩ := Prod.mk.inj (Except.ok.inj (hstep.symm.trans hok))
    exact ⟨rfl, hchosen⟩
  · rw [hstep, hrefused hno]

/-- A request that is reported. -/
theorem choiceTotal_of_shutdown {msg : String}
    (hstep : nsStep inetAddr s (.nsSp req) = .error (.shutdown msg)) :
    ChoiceTotal inetAddr s req := by
  refine ⟨?_, ?_, ?_, fun _ => Or.inr ⟨msg, hstep⟩⟩
  · intro h
    cases hstep.symm.trans h
  · intro h
    cases hstep.symm.trans h
  · intro s' o h
    cases hstep.symm.trans h

/-- **ONE REQUEST** in a reachable state. -/
theorem choiceTotal_iff (h : Reached s) :
    ChoiceTotal inetAddr s req ↔ ChoiceTotalWhen s req := by
  by_cases htaken : s.phase = .common ∧ req.sdu.isSome = true
  · have hstep : nsStep inetAddr s (.nsSp req)
        = (asNsCommonUdReq s.ct req.toNsUnitdataRequest).map
          (fun vc => (s.sendTo vc (.unitdata req), [])) := by
      rw [nsStep]
      exact if_pos htaken
    by_cases hnsei : req.nsei = s.gConfig.nsei
    · have hct : req.toNsUnitdataRequest.nsei = s.ct.nsei := hnsei.trans h.nsei.symm
      by_cases husable : ∃ te, Usable s req.bvci te
      · obtain ⟨te, hte⟩ := husable
        obtain ⟨te', hte', hchoice⟩ := asNsCommonUdReq_usable h.lists hct hte
        rw [hchoice] at hstep
        exact iff_of_true (choiceTotal_of_ok hstep (Or.inr ⟨te', hte', rfl⟩)
          (fun hno => absurd hte (hno te))) (fun _ _ _ => ⟨te, hte⟩)
      · have hno : ∀ te, ¬ Usable s req.bvci te := fun te hte => husable ⟨te, hte⟩
        rw [asNsCommonUdReq_unusable h.lists hct hno] at hstep
        exact iff_of_false (fun htotal => htotal.divides hstep)
          (fun hwhen => husable (hwhen htaken.1 htaken.2 hnsei))
    · -- a request for another NSEI is reported
      have hne : req.toNsUnitdataRequest.nsei ≠ s.ct.nsei := fun heq => hnsei (heq.trans h.nsei)
      rw [asNsCommonUdReq, if_pos hne] at hstep
      exact iff_of_true (choiceTotal_of_shutdown hstep) (fun _ _ heq => absurd heq hnsei)
  · -- a request that no alternative takes
    have hstep : nsStep inetAddr s (.nsSp req) = .ok (s, []) := by
      rw [nsStep]
      exact if_neg htaken
    exact iff_of_true (choiceTotal_of_ok hstep (Or.inl rfl) (fun _ => rfl))
      (fun hphase hsdu _ => absurd ⟨hphase, hsdu⟩ htaken)

end Requests

/-- **LOAD SHARING.**  In every state that a run of an entity leads to, and for
    every request, the choice is total exactly if a request that is distributed
    finds an NSVC to go to. -/
theorem load_sharing (inetAddr : AddressFamily → String → List UInt8) (g : NSConfiguration)
    (s0 : NsVcg) (hstart : nsStart g = .ok s0) (es : List NsEvent) (s : NsVcg)
    (os : List (List NsSpMsg)) (hrun : run (nsStep inetAddr) s0 es = .ok (s, os))
    (req : NsUdReq) : ChoiceTotal inetAddr s req ↔ ChoiceTotalWhen s req :=
  choiceTotal_iff (reached_of_run hstart hrun)

section Examples

/-- A request of the user for signalling. -/
def someRequest : NsUdReq where
  bvci := 0
  nsei := 2342
  lsp := 7
  sdu := some [1, 2, 3]
  bssgp := none

/-- A request for another entity right after the start. -/
theorem load_sharing_otherNsei :
    ChoiceTotal (fun _ _ => []) bssStarted { someRequest with nsei := 1 } :=
  (load_sharing (fun _ _ => []) bssConfig bssStarted rfl [] bssStarted [] rfl
    { someRequest with nsei := 1 }).mpr (fun _ _ h => nomatch h)

/-- **NO NSVC YET**: a request right after the start divides by zero. -/
theorem load_sharing_tooEarly : nsStart bssConfig = .ok bssStarted
    ∧ nsStep (fun _ _ => []) bssStarted (.nsSp someRequest)
      = .error (.ttcnError "The right operand of mod operator is zero.")
    ∧ ¬ ChoiceTotal (fun _ _ => []) bssStarted someRequest :=
  ⟨rfl, rfl, fun h => h.divides rfl⟩

end Examples

end OsmoNsVcg
