import OsmoTtcn.NgapEmulationProofs
import OsmoTtcn.S1apEmulationProofs

/-! # UE associations of both emulations

    Two laws that `S1AP_Emulation` and `NGAP_Emulation` share, over all their
    runs.  The test of the ids is exact about a missing id, where the lookup
    takes it for any: `ueAssociation_lookup` has the tables and pairs for which
    both agree, and the messages that get to their association.  And adding and
    deleting an association leave the NAS state and the location of the slot,
    which only the initialisation sets: by `ueAssociation_fresh` a new
    association is fresh if those that the slot had before have left no trace. -/

namespace OsmoUeAssociations

open OsmoTitan OsmoNas RunGuard SlotTable

-- ── Lookup ───────────────────────────────────────────────────────────────────

/-- **THE LOOKUP OF AN ASSOCIATION**: in every run, the lookup is right for the
    pairs of ids that are sound in the table; and a message whose ids are all
    found, and sound, gets to the association that they name.  The AMF role does
    so for messages without a NAS PDU. -/
theorem ueAssociation_lookup {Comp Plain Ul Dl : Type} [DecidableEq Comp] :
    (∀ (p : OsmoS1ap.Params Comp Plain) (is : List (OsmoS1ap.Input Comp Plain)),
      Guarded (OsmoS1ap.mainStep p) (fun s _ =>
        (∀ ids, OsmoS1ap.LookupRight s.table ids
          ↔ TwoIds.Sound OsmoS1ap.idsView s.table ids)
        ∧ ∀ msg ids k, OsmoS1ap.nonUErelated msg = false → OsmoS1ap.FindsIds msg ids →
          TwoIds.Sound OsmoS1ap.idsView s.table ids → OsmoS1ap.Names msg (s.table k) →
            OsmoS1ap.Served p s (s.table k) msg)
      (OsmoS1ap.init p.role) is)
    ∧ ∀ (q : OsmoNgap.Params Comp Ul Dl) (is : List (OsmoNgap.Input Comp Ul)),
      Guarded (OsmoNgap.mainStep q) (fun s _ =>
        (∀ ids, OsmoNgap.LookupRight s.table ids
          ↔ TwoIds.Sound OsmoNgap.idsView s.table ids)
        ∧ ∀ msg ids k, OsmoNgap.nonUErelated msg = false →
          q.role = .ue ∨ OsmoNgap.fNgapGetNasPdu msg = none → OsmoNgap.FindsIds msg ids →
          TwoIds.Sound OsmoNgap.idsView s.table ids → OsmoNgap.Names msg (s.table k) →
            OsmoNgap.Served q s (s.table k) msg)
      (OsmoNgap.init q.role) is := by
  constructor
  · intro p is
    refine guarded_of_inv (I := fun s => OsmoS1ap.Wf s.table ∧ OsmoS1ap.Owned s.table)
      ?_ ?_ is _ ⟨OsmoS1ap.wf_init p.role, OsmoS1ap.owned_init p.role⟩
    · rintro s _ ⟨hwf, howned⟩
      refine ⟨fun ids => OsmoS1ap.lookupRight_iff hwf, ?_⟩
      intro msg ids k hue hfinds hsound hnames
      exact OsmoS1ap.mainStep_served hwf howned hue hfinds hsound hnames
    · rintro s i s' os ⟨hwf, howned⟩ hok
      exact ⟨OsmoS1ap.mainStep_wf i hwf hok, OsmoS1ap.mainStep_owned i howned hok⟩
  · intro q is
    refine guarded_of_inv (I := fun s => OsmoNgap.Owned s.table) ?_ ?_ is _
      (OsmoNgap.owned_init q.role)
    · intro s _ howned
      refine ⟨fun ids => OsmoNgap.lookupRight_iff, ?_⟩
      intro msg ids k hue hrole hfinds hsound hnames
      exact OsmoNgap.mainStep_served howned hue hrole hfinds hsound hnames
    · intro s i s' os howned hok
      exact OsmoNgap.mainStep_owned i howned hok

section Example

open OsmoS1ap

/-- A PLMN. -/
def plmn : List UInt8 := [0x00, 0xf1, 0x10]

/-- An InitialUE of an eNB. -/
def initialUe (enb : EnbUeS1apId) : S1apPdu :=
  { outcome := .initiatingMessage, procedureCode := idInitialUEMessage
    criticality := .ignore
    protocolIEs := [⟨.reject, .enbUeS1apId enb⟩, ⟨.reject, .nasPdu dlTransport⟩,
      ⟨.ignore, .tai ⟨plmn, [0x00, 0x01]⟩⟩, ⟨.ignore, .eutranCgi ⟨plmn, 1⟩⟩,
      ⟨.ignore, .other .rrcEstablishmentCause []⟩] }

/-- A UE-related message of the MME without a NAS PDU. -/
def connEstInd (mme : MmeUeS1apId) (enb : EnbUeS1apId) : S1apPdu :=
  { outcome := .initiatingMessage, procedureCode := idConnectionEstablishmentIndication
    criticality := .reject
    protocolIEs := [⟨.ignore, .mmeUeS1apId mme⟩, ⟨.ignore, .enbUeS1apId enb⟩] }

/-- A UE CONTEXT RELEASE COMMAND for these ids. -/
def ueContextReleaseCmd (ids : UeS1apIds) : S1apPdu :=
  { outcome := .initiatingMessage, procedureCode := idUEContextRelease
    criticality := .reject
    protocolIEs := [⟨.reject, .ueS1apIds ids⟩, ⟨.ignore, .other .cause []⟩] }

/-- The eNB side, with the expect table for new associations. -/
def enbParams : Params Nat (List UInt8) where
  createCb := expectedCreateCallback
  unitdataCb _ := none
  role := .ue
  env := snowEnv
  fKdfNasToken _ _ := []

/-- A UE association that has got both ids. -/
def liveRun : List (Input Nat (List UInt8)) :=
  [.clientS1ap 1 (initialUe 1), .rx (connEstInd 5 1)]

set_option maxRecDepth 8000 in
/-- The MME id alone names the live association, and the test does not know it. -/
theorem liveRun_mmeOnly : ∃ s os, run (mainStep enbParams) (init enbParams.role) liveRun
      = .ok (s, os) ∧ (s.table 0).mmeUeS1apId = some 5
    ∧ fAssocIdByS1apIds s.table (some 5) none = .ok 0
    ∧ mainStep enbParams s (.rx (ueContextReleaseCmd (.mmeUeS1apId 5)))
      = .error (.shutdown "Couldn't find Expect for ") :=
  ⟨_, _, rfl, rfl, rfl, rfl⟩

/-- The ids of a message of the MME are the two at its head. -/
theorem connEstInd_ids (mme : MmeUeS1apId) (enb : EnbUeS1apId) :
    FindsIds (connEstInd mme enb) (some mme, some enb) := by
  refine ⟨rfl, ?_, ?_⟩
  · rintro mme' ⟨e, he, hvalue⟩
    rcases List.mem_cons.mp he with rfl | he
    · simpa using hvalue
    · rw [List.mem_singleton.mp he] at hvalue
      simp at hvalue
  · rintro enb' ⟨e, he, hvalue⟩
    rcases List.mem_cons.mp he with rfl | he
    · simp at hvalue
    · rw [List.mem_singleton.mp he] at hvalue
      simpa using hvalue

set_option maxRecDepth 8000 in
theorem liveRun_sound : ∃ s os, run (mainStep enbParams) (init enbParams.role) liveRun
      = .ok (s, os) ∧ idsView.ids (s.table 0) = (some 5, some 1)
    ∧ (s.table 0).compRef = some 1 ∧ ∀ k, k ≠ 0 → idsView.ids (s.table k) = (none, none) :=
  ⟨_, _, rfl, rfl, rfl, by decide⟩

end Example

/-- The second message with both ids gets to the component as well. -/
theorem ueAssociation_lookup_connEstInd : ∃ s os s',
    run (OsmoS1ap.mainStep enbParams) (OsmoS1ap.init enbParams.role) liveRun = .ok (s, os)
      ∧ OsmoS1ap.mainStep enbParams s (.rx (connEstInd 5 1))
        = .ok (s', [.clientS1ap 1 (connEstInd 5 1)]) := by
  obtain ⟨s, os, hrun, hids, hcomp, hothers⟩ := liveRun_sound
  have hguard := (@ueAssociation_lookup Nat (List UInt8) Unit Unit _).1 enbParams
    (liveRun ++ [.sctpEvent])
  obtain ⟨-, hserved⟩ := hguard.after hrun
  have hsound : TwoIds.Sound OsmoS1ap.idsView s.table (some 5, some 1) := by
    have hfirst : ∀ k, OsmoS1ap.idsView.ids (s.table k) ≠ (none, none) → k = 0 :=
      fun k hk => by_contra (fun hne => hk (hothers k hne))
    refine ⟨fun i j hi hj => ?_, fun i hi => ?_⟩
    · rw [hfirst i (fun hnone => by rw [hnone] at hi; exact nomatch hi),
        hfirst j (fun hnone => by rw [hnone] at hj; exact nomatch hj)]
    · rw [hfirst i (fun hnone => by rw [hnone] at hi; exact nomatch hi), hids]
      exact Option.some_ne_none 1
  have hnames : OsmoS1ap.Names (connEstInd 5 1) (s.table 0) := by
    obtain ⟨hmme, henb⟩ := Prod.mk.inj hids
    refine ⟨Or.inl ⟨5, ⟨_, List.mem_cons_self, Or.inl rfl⟩, hmme⟩, ?_, ?_⟩
    · intro mme hcarries
      exact Or.inr (hmme.trans ((connEstInd_ids 5 1).2.1 mme hcarries))
    · intro enb hcarries
      exact Or.inr (henb.trans ((connEstInd_ids 5 1).2.2 enb hcarries))
  obtain ⟨client, hclient, s', hstep⟩ :=
    hserved (connEstInd 5 1) (some 5, some 1) 0 rfl (connEstInd_ids 5 1) hsound hnames
  rw [hcomp] at hclient
  rw [← Option.some.inj hclient] at hstep
  exact ⟨s, os, s', hrun, hstep⟩

/-- **A RELEASE BY THE MME ID ALONE** does not get to its association. -/
theorem mmeIdAlone_notKnown : ¬ ∀ is, Guarded (OsmoS1ap.mainStep enbParams)
    (fun s _ => (∀ ids, OsmoS1ap.LookupRight s.table ids)
      ∧ ∀ msg k, OsmoS1ap.nonUErelated msg = false → OsmoS1ap.Names msg (s.table k) →
        OsmoS1ap.Served enbParams s (s.table k) msg)
    (OsmoS1ap.init enbParams.role) is := by
  intro h
  obtain ⟨s, os, hrun, hmme, -, hstops⟩ := liveRun_mmeOnly
  obtain ⟨-, hserved⟩ := (h (liveRun ++ [.sctpEvent])).after hrun
  have hcarries : ∀ {mme}, OsmoS1ap.CarriesMme (ueContextReleaseCmd (.mmeUeS1apId 5)) mme →
      mme = 5 := by
    rintro mme ⟨e, he, hvalue⟩
    rcases List.mem_cons.mp he with rfl | he
    · simpa [eq_comm] using hvalue
    · rw [List.mem_singleton.mp he] at hvalue
      simp at hvalue
  have hnames : OsmoS1ap.Names (ueContextReleaseCmd (.mmeUeS1apId 5)) (s.table 0) := by
    refine ⟨Or.inl ⟨5, ⟨_, List.mem_cons_self, Or.inr (Or.inl rfl)⟩, hmme⟩, ?_, ?_⟩
    · intro mme hmme'
      rw [hcarries hmme']
      exact Or.inr hmme
    · rintro enb ⟨e, he, hvalue⟩
      rcases List.mem_cons.mp he with rfl | he
      · simp at hvalue
      · rw [List.mem_singleton.mp he] at hvalue
        simp at hvalue
  obtain ⟨client, -, s', hstep⟩ := hserved _ 0 rfl hnames
  exact nomatch hstops.symm.trans hstep

-- ── Freshness ────────────────────────────────────────────────────────────────

/-- **A NEW ASSOCIATION STARTS CLEAN**: in every run, a new association is fresh if
    no association that its slot had before has used its NAS security state and,
    where the new one gets no location, none has had a location. -/
theorem ueAssociation_fresh {Comp Plain Ul Dl : Type} [DecidableEq Comp] :
    (∀ (p : OsmoS1ap.Params Comp Plain) (is : List (OsmoS1ap.Input Comp Plain)),
      Guarded (recording (OsmoS1ap.mainStep p) (fun s => OsmoS1ap.traces p s.table))
        (fun s i => ∀ s' os k, OsmoS1ap.mainStep p s.1 i = .ok (s', os) →
          OsmoS1ap.Creates s.1.table i → OsmoS1ap.freeSlot s.1.table = some k →
            OsmoS1ap.Unused s.2 k i → OsmoS1ap.Fresh p.role (s'.table k) i)
        (OsmoS1ap.init p.role, []) is)
    ∧ ∀ (q : OsmoNgap.Params Comp Ul Dl) (is : List (OsmoNgap.Input Comp Ul)),
      Guarded (recording (OsmoNgap.mainStep q) (fun s => OsmoNgap.traces q s.table))
        (fun s i => ∀ s' os k, OsmoNgap.mainStep q s.1 i = .ok (s', os) →
          OsmoNgap.Creates s.1.table i → OsmoNgap.freeSlot s.1.table = some k →
            OsmoNgap.Unused s.2 k i → OsmoNgap.Fresh q.role (s'.table k) i)
        (OsmoNgap.init q.role, []) is := by
  constructor
  · intro p is
    refine guarded_recording (I := fun s past => OsmoS1ap.Untouched p.role past s.table)
      ?_ ?_ is (OsmoS1ap.untouched_init p.role)
    · intro s past i huntouched s' os k hok hcreates hfree hunused
      exact OsmoS1ap.mainStep_fresh i huntouched hok hcreates hfree hunused
    · intro s past i s' os huntouched hok
      exact huntouched.changes (OsmoS1ap.mainStep_changes i hok)
  · intro q is
    refine guarded_recording (I := fun s past => OsmoNgap.Untouched q.role past s.table)
      ?_ ?_ is (OsmoNgap.untouched_init q.role)
    · intro s past i huntouched s' os k hok hcreates hfree hunused
      exact OsmoNgap.mainStep_fresh i huntouched hok hcreates hfree hunused
    · intro s past i s' os huntouched hok
      exact huntouched.changes (OsmoNgap.mainStep_changes i hok)

section Example

open OsmoS1ap

/-- An association that gets no keys and ends. -/
def releasedRun : List (Input Nat (List UInt8)) :=
  [.clientS1ap 1 (initialUe 1), .rx (connEstInd 5 1),
    .rx (ueContextReleaseCmd (.ueS1apIdPair 5 1))]

set_option maxRecDepth 8000 in
theorem releasedRun_past : ∃ s os, run (recording (mainStep enbParams)
      (fun s => traces enbParams s.table)) (init enbParams.role, []) releasedRun
        = .ok ((s, [.location 0]), os)
    ∧ freeSlot s.table = some 0
    ∧ ∃ r, mainStep enbParams s (.clientS1ap 2 (initialUe 2)) = .ok r :=
  ⟨_, _, rfl, rfl, _, rfl⟩

/-- The second association takes the slot of the first, which got keys. -/
def reusedRun : List (Input Nat (List UInt8)) :=
  [.clientS1ap 1 (initialUe 1), .config 1 (.setNasKeys kNasInt kNasEnc),
    .rx (ueContextReleaseCmd (.ueS1apIdPair 5 1))]

set_option maxRecDepth 8000 in
theorem reusedRun_keys : ∃ s os s' os', run (mainStep enbParams) (init enbParams.role)
      reusedRun = .ok (s, os)
    ∧ mainStep enbParams s (.clientS1ap 2 (initialUe 2)) = .ok (s', os')
    ∧ freeSlot s.table = some 0 ∧ (s'.table 0).nus.kNasInt = kNasInt :=
  ⟨_, _, _, _, rfl, rfl, rfl, rfl⟩

theorem initialUe_creates (t : S1apAssociationTable Nat) (client : Nat) :
    Creates t (.clientS1ap client (initialUe 2) : Input Nat (List UInt8)) := by
  show trS1apInitialUE.accepts (initialUe 2) = true
  decide

end Example

/-- The second association is fresh in the slot of the first. -/
theorem ueAssociation_fresh_released : ∃ s os s' os',
    run (recording (OsmoS1ap.mainStep enbParams) (fun s => OsmoS1ap.traces enbParams s.table))
        (OsmoS1ap.init enbParams.role, []) releasedRun = .ok (s, os)
      ∧ OsmoS1ap.mainStep enbParams s.1 (.clientS1ap 2 (initialUe 2)) = .ok (s', os')
      ∧ OsmoS1ap.freeSlot s.1.table = some 0
      ∧ OsmoS1ap.Fresh .ue (s'.table 0)
        (.clientS1ap 2 (initialUe 2) : OsmoS1ap.Input Nat (List UInt8)) := by
  obtain ⟨s, os, hrun, hfree, ⟨s', os'⟩, hok⟩ := releasedRun_past
  have hguard := (@ueAssociation_fresh Nat (List UInt8) Unit Unit _).1 enbParams
    (releasedRun ++ [.clientS1ap 2 (initialUe 2)])
  have hunused : OsmoS1ap.Unused [.location 0] 0
      (.clientS1ap 2 (initialUe 2) : OsmoS1ap.Input Nat (List UInt8)) := by
    show OsmoS1ap.Trace.nas 0 ∉ [OsmoS1ap.Trace.location 0]
    decide
  exact ⟨(s, [.location 0]), os, s', os', hrun, hok, hfree,
    hguard.after hrun s' os' 0 hok (initialUe_creates s.table 2) hfree hunused⟩

/-- **KEYS OF AN EARLIER ASSOCIATION** are those of the next one in its slot. -/
theorem keys_reused : ¬ ∀ is, Guarded (OsmoS1ap.mainStep enbParams) (fun s i => ∀ s' os k,
    OsmoS1ap.mainStep enbParams s i = .ok (s', os) → OsmoS1ap.Creates s.table i →
      OsmoS1ap.freeSlot s.table = some k → OsmoS1ap.Fresh enbParams.role (s'.table k) i)
    (OsmoS1ap.init enbParams.role) is := by
  intro h
  obtain ⟨s, os, s', os', hrun, hok, hfree, hkeys⟩ := reusedRun_keys
  have hfresh := (h (reusedRun ++ [.clientS1ap 2 (initialUe 2)])).after hrun s' os' 0 hok
    (initialUe_creates s.table 2) hfree
  have hnus : (s'.table 0).nus = tNasUeState .ue := hfresh.1
  rw [hnus] at hkeys
  exact absurd hkeys (by decide)

end OsmoUeAssociations
