import OsmoTtcn.BssgpClientsProofs
import OsmoTtcn.SpecRunProofs

/-! # Numbers of unacknowledged LLC frames

    A layer 3 message of a client of a BVC is sent in an LLC UI frame.  The entry
    of the client has one counter for each SAPI, which gives the frame its N(U).

    The counter is raised without a wrap, and N(U) has 9 bits: the frame after
    511 cannot be encoded.  `llc_numbers` proves the numbers right of every run
    in which no counter is past 511 when a frame is sent. -/

namespace OsmoLlcNumbers

open OsmoTitan OsmoBssgpClient SlotTable RunGuard SpecRun

-- ── Data ─────────────────────────────────────────────────────────────────────

/-- `LLC_Entity`, less what is not numbered. -/
structure LlcEntity where
  sgsnRole : Bool
  /-- N(U) on transmit side for next PDU -/
  nUTxNext : Nat
  /-- N(U) on receive side, last PDU -/
  nURxLast : Option Nat
  deriving DecidableEq, Repr

/-- `t_LLC_init` -/
def tLlcInit (sgsnRole : Bool) : LlcEntity where
  sgsnRole := sgsnRole
  nUTxNext := 0
  nURxLast := none

/-- `msgs` of a layer 3 PDU. -/
inductive L3Msgs where
  | gprsMm
  | gprsSm
  | sms
  | other
  deriving DecidableEq, Repr

/-- A layer 3 PDU and its encoding. -/
structure L3Pdu where
  msgs : L3Msgs
  l3Enc : List UInt8
  deriving DecidableEq, Repr

/-- `ts_LLC_UI`.  N(U) is a plain number: only the encoder checks that it fits. -/
structure LlcUi where
  sapi : Fin 16
  cr : Bool
  nU : Nat
  encrypted : Bool
  protectedMode : Bool
  informationField : List UInt8
  deriving DecidableEq, Repr

/-- The variables of the BVC as far as its clients are concerned. -/
structure State (Comp : Type) where
  gSgsnRole : Bool
  /-- `g_ptp_bvc_state` is `BVC_S_UNBLOCKED`. -/
  unblocked : Bool
  clientTable : ClientTable tableSize Comp
  /-- `ClientTable[i].llc`; `none`: unbound. -/
  llc : Fin tableSize → Option (Fin 16 → LlcEntity)

/-- A BVC without clients. -/
def stateInit {Comp : Type} (sgsnRole : Bool) : State Comp where
  gSgsnRole := sgsnRole
  unblocked := false
  clientTable := clientTableInit
  llc := fun _ => none

/-- What a round can start with. -/
inductive Input (Comp : Type) where
  /-- A procedure of a client. -/
  | op (op : Op Comp)
  /-- The state of the BVC changes. -/
  | changeState (unblocked : Bool)
  | l3Mt (l3 : L3Pdu) (vcConn : Comp)
  | l3Mo (l3 : L3Pdu) (vcConn : Comp)
  /-- ConnHdlr sends raw LLC. -/
  | llc (llcEnc : List UInt8) (vcConn : Comp)
  /-- ConnHdlr sends BSSGP. -/
  | bssgp (bsPdu : List UInt8)

/-- What a round sends, and on which port. -/
inductive Output where
  | ui (tlli : Tlli) (frame : LlcUi)
  | raw (tlli : Tlli) (llcEnc : List UInt8)
  | bssgp (bsPdu : List UInt8)
  | reply
  deriving DecidableEq, Repr

-- ── Functions ────────────────────────────────────────────────────────────────

/-- `c_LLC_SAPI_LLGMM` -/
def cLlcSapiLlgmm : Fin 16 := 1

/-- `c_LLC_SAPI_LLSMS` -/
def cLlcSapiLlsms : Fin 16 := 7

/-- `f_llc_sapi_by_l3_mo`, `f_llc_sapi_by_l3_mt` -/
def fLlcSapiByL3 : L3Msgs → Except Fault (Fin 16)
  | .gprsMm => .ok cLlcSapiLlgmm
  | .gprsSm => .ok cLlcSapiLlgmm
  | .sms => .ok cLlcSapiLlsms
  | .other => .error (.shutdown "No LLC SAPI for ")

/-- `f_llc_get_n_u_tx` -/
def fLlcGetNUTx (llc : LlcEntity) : Nat × LlcEntity :=
  (llc.nUTxNext, { llc with nUTxNext := llc.nUTxNext + 1 })

/-- `ts_LLC_UI` -/
def tsLlcUi (payload : List UInt8) (sapi : Fin 16) (cr : Bool) (nU : Nat) : LlcUi where
  sapi := sapi
  cr := cr
  nU := nU
  encrypted := false
  protectedMode := false
  informationField := payload

/-- The RAW encoder on the field that may not fit: N(U) has 9 bits. -/
def encodes (frame : LlcUi) : Except Fault Unit :=
  if 512 ≤ frame.nU then .error .rawOverflow else .ok ()

section Functions

variable {Comp : Type} [DecidableEq Comp]

/-- ConnHdlr sends L3: it is encoded and sent as UL_UD or DL_UD. -/
def sendL3 (s : State Comp) (l3 : L3Pdu) (vcConn : Comp) :
    Except Fault (State Comp × List Output) :=
  (fTblIdxByComp s.clientTable vcConn).bind fun idx =>
  (bound (s.clientTable idx).tlli).bind fun tlli =>
  (fLlcSapiByL3 l3.msgs).bind fun sapi =>
  (bound (s.llc idx)).bind fun llc =>
  (encodes (tsLlcUi l3.l3Enc sapi true (fLlcGetNUTx (llc sapi)).1)).map fun _ =>
    ({ s with
        llc := Function.update s.llc idx
          (some (Function.update llc sapi (fLlcGetNUTx (llc sapi)).2)) },
      [.ui tlli (tsLlcUi l3.l3Enc sapi true (fLlcGetNUTx (llc sapi)).1)])

/-- An LLC frame of a client goes out under its TLLI. -/
def sendLlc (s : State Comp) (llcEnc : List UInt8) (vcConn : Comp) :
    Except Fault (State Comp × List Output) :=
  (fTblIdxByComp s.clientTable vcConn).bind fun idx =>
  (bound (s.clientTable idx).tlli).map fun tlli => (s, [.raw tlli llcEnc])

/-- A new entry gets new LLC entities; any other procedure leaves them. -/
def opLlc (s : State Comp) : Op Comp → Fin tableSize → Option (Fin 16 → LlcEntity)
  | .register _ _ _ =>
      (find s.clientTable (fun c => c.compRef.isNone)).elim s.llc
        (fun i => Function.update s.llc i (some (fun _ => tLlcInit s.gSgsnRole)))
  | .unregister _ _ => s.llc
  | .llgmmAssign _ _ _ => s.llc

/-- One round of `f_bssgp_bvc_ScanEvents`, as far as it is about clients. -/
def mainStep (s : State Comp) : Input Comp → Except Fault (State Comp × List Output)
  | .op op => (clientStep s.clientTable op).map fun r =>
      ({ s with clientTable := r.1, llc := opLlc s op }, [.reply])
  | .changeState unblocked => .ok ({ s with unblocked := unblocked }, [])
  | .l3Mt l3 vcConn =>
      if s.unblocked && s.gSgsnRole then sendL3 s l3 vcConn else .ok (s, [])
  | .l3Mo l3 vcConn =>
      if s.unblocked && !s.gSgsnRole then sendL3 s l3 vcConn else .ok (s, [])
  | .llc llcEnc vcConn => if s.unblocked then sendLlc s llcEnc vcConn else .ok (s, [])
  | .bssgp bsPdu => .ok (s, if s.unblocked then [.bssgp bsPdu] else [])

end Functions

-- ── Numbers ──────────────────────────────────────────────────────────────────

/-- The entry that a component sends from, how many UI frames each entry has sent
    on each SAPI, and how many entries were made. -/
structure Senders (Comp : Type) where
  entry : Comp → Option (Fin tableSize)
  sent : Fin tableSize → Fin 16 → Nat
  taken : Nat

section Spec

variable {Comp : Type}

/-- Nobody has sent anything. -/
def Senders.none : Senders Comp := ⟨fun _ => Option.none, fun _ _ => 0, 0⟩

/-- Nothing was sent from the entry. -/
def Senders.Fresh (g : Senders Comp) (k : Fin tableSize) : Prop := ∀ sapi, g.sent k sapi = 0

/-- One more frame. -/
def Senders.bump (g : Senders Comp) (k : Fin tableSize) (sapi : Fin 16) : Senders Comp :=
  { g with
    sent := Function.update g.sent k
      (Function.update (g.sent k) sapi (g.sent k sapi + 1)) }

/-- The frame that is sent, if it is one. -/
def Output.frame : Output → Option LlcUi
  | .ui _ frame => some frame
  | _ => Option.none

/-- The component registers or unregisters. -/
def Input.Concerns (c : Comp) : Input Comp → Prop
  | .op (.register _ _ client) => client = c
  | .op (.unregister _ client) => client = c
  | _ => False

/-- How many entries an input makes. -/
def Input.registers : Input Comp → Nat
  | .op (.register _ _ _) => 1
  | _ => 0

/-- The layer 3 message of a component. -/
def Input.l3Of : Input Comp → Option (L3Pdu × Comp)
  | .l3Mt l3 vcConn => some (l3, vcConn)
  | .l3Mo l3 vcConn => some (l3, vcConn)
  | _ => Option.none

/-- **THE NUMBERS**: frame `n` of an entry on a SAPI has `n` modulo 512.  A
    component stays with its entry until it registers or unregisters, and gets
    an entry only that nothing was sent from. -/
inductive LlcAllowed (g : Senders Comp) :
    Input Comp → Senders Comp → List Output → Prop
  | frame {i l3 c k tlli frame} (hi : i.l3Of = some (l3, c)) (hentry : g.entry c = some k)
      (hsapi : fLlcSapiByL3 l3.msgs = .ok frame.sapi)
      (hnU : frame.nU = g.sent k frame.sapi % 512) :
      LlcAllowed g i (g.bump k frame.sapi) [.ui tlli frame]
  | other {i g' os} (hos : os.filterMap Output.frame = []) (hsent : g'.sent = g.sent)
      (htaken : g'.taken = g.taken + i.registers)
      (hkeep : ∀ c, ¬ i.Concerns c → g'.entry c = g.entry c)
      (hnew : ∀ c k, g'.entry c = some k → g.entry c = some k ∨ g.Fresh k) :
      LlcAllowed g i g' os

/-- With what a round may end: an entry more than there is room for, an IMSI that
    is another's, a component without an entry, and a message of no SAPI; and
    never for its number. -/
def LlcEnds (g : Senders Comp) : Input Comp → Fault → Prop
  | .op (.register _ _ _), _ => tableSize ≤ g.taken
  | .op (.unregister _ _), e => e = .shutdown "Cannot unregister"
  | .op (.llgmmAssign _ _ c), _ => g.entry c = Option.none
  | .changeState _, _ => False
  | .l3Mt l3 c, _ => g.entry c = Option.none ∨ l3.msgs = .other
  | .l3Mo l3 c, _ => g.entry c = Option.none ∨ l3.msgs = .other
  | .llc _ c, _ => g.entry c = Option.none
  | .bssgp _, _ => False

variable [DecidableEq Comp]

/-- The entry that a component sends from. -/
def entryOf (t : ClientTable tableSize Comp) (c : Comp) : Option (Fin tableSize) :=
  find t (fun e => e.compRef == some (some c))

/-- The LLC entities count what their entries sent.  Nothing was sent from an
    entry that is not taken, or that is not the first of its component. -/
structure Books (t : ClientTable tableSize Comp)
    (llc : Fin tableSize → Option (Fin 16 → LlcEntity))
    (sent : Fin tableSize → Fin 16 → Nat) (taken : Nat) : Prop where
  counters : ∀ k ents, llc k = some ents → ∀ sapi, (ents sapi).nUTxNext = sent k sapi
  unused : ∀ k, (t k).compRef = Option.none → ∀ sapi, sent k sapi = 0
  second : ∀ k c, (t k).compRef = some (some c) → entryOf t c ≠ some k →
    ∀ sapi, sent k sapi = 0
  /-- Slots are taken from the front, and stay taken. -/
  front : ∀ k, (t k).compRef = Option.none ↔ taken ≤ k.val
  /-- The entry of a component is whole. -/
  whole : ∀ k c, (t k).compRef = some (some c) → (t k).tlli ≠ Option.none ∧ llc k ≠ Option.none

/-- How the table stands to the senders. -/
structure Counts (s : State Comp) (g : Senders Comp) : Prop where
  entry : ∀ c, g.entry c = entryOf s.clientTable c
  books : Books s.clientTable s.llc g.sent g.taken
  /-- Two components send from two entries. -/
  apart : ∀ c c' k, g.entry c = some k → g.entry c' = some k → c = c'

/-- The layer 3 message that a round sends. -/
def sends (s : State Comp) : Input Comp → Option (L3Pdu × Comp)
  | .l3Mt l3 vcConn => if s.unblocked && s.gSgsnRole then some (l3, vcConn) else Option.none
  | .l3Mo l3 vcConn => if s.unblocked && !s.gSgsnRole then some (l3, vcConn) else Option.none
  | _ => Option.none

/-- The counter for a layer 3 message. -/
def counterFor (s : State Comp) (l3 : L3Pdu) (vcConn : Comp) : Option Nat :=
  (fTblIdxByComp s.clientTable vcConn).toOption.bind fun idx =>
  (fLlcSapiByL3 l3.msgs).toOption.bind fun sapi =>
  (s.llc idx).map fun llc => (llc sapi).nUTxNext

/-- **WHERE A ROUND IS RIGHT**: the counter of a frame that is sent fits. -/
def HoldsWhen (s : State Comp) (i : Input Comp) : Prop :=
  ∀ l3 ∈ sends s i, ∀ n ∈ counterFor s l3.1 l3.2, n < 512

instance (s : State Comp) (i : Input Comp) : Decidable (HoldsWhen s i) :=
  inferInstanceAs (Decidable (∀ l3 ∈ sends s i, ∀ n ∈ counterFor s l3.1 l3.2, n < 512))

end Spec

-- ── Entries ──────────────────────────────────────────────────────────────────

section Entries

variable {Comp : Type} [DecidableEq Comp]

variable {t t' : ClientTable tableSize Comp} {c : Comp} {i k : Fin tableSize}
variable {e : ClientEntity Comp}

/-- The entry of a client is owned by it. -/
theorem entryOf_compRef (h : entryOf t c = some k) : (t k).compRef = some (some c) :=
  eq_of_beq (find_accepts h)

/-- Which entry is whose depends on the owners only. -/
theorem entryOf_congr (h : ∀ k, (t' k).compRef = (t k).compRef) (c : Comp) :
    entryOf t' c = entryOf t c := by
  have hsame : (fun k => (t' k).compRef == some (some c))
      = fun k => (t k).compRef == some (some c) := funext (fun k => by rw [h k])
  rw [entryOf, entryOf, find, find, hsame]

/-- A SAPI is not known for other messages. -/
theorem sapiByL3_error {msgs : L3Msgs} {err : Fault} (h : fLlcSapiByL3 msgs = .error err) :
    msgs = .other := by
  cases msgs with
  | gprsMm => exact nomatch h
  | gprsSm => exact nomatch h
  | sms => exact nomatch h
  | other => rfl

/-- The entry of a client is found. -/
theorem idxByComp_ok : fTblIdxByComp t c = .ok k ↔ entryOf t c = some k := by
  rw [fTblIdxByComp, entryOf]
  cases find t (fun e => e.compRef == some (some c)) with
  | none => simp
  | some i => simp

/-- Who is not found has no entry. -/
theorem idxByComp_error {err : Fault} (h : fTblIdxByComp t c = .error err) :
    entryOf t c = none := by
  cases hentry : entryOf t c with
  | none => rfl
  | some i =>
      rw [idxByComp_ok.mpr hentry] at h
      cases h

variable {llc : Fin tableSize → Option (Fin 16 → LlcEntity)}
variable {sent : Fin tableSize → Fin 16 → Nat} {taken : Nat}

/-- A table with the same components. -/
theorem Books.congr (h : Books t llc sent taken)
    (hsame : ∀ k, (t' k).compRef = (t k).compRef)
    (htlli : ∀ k, (t k).tlli ≠ none → (t' k).tlli ≠ none) : Books t' llc sent taken where
  counters := h.counters
  unused := fun k hk => h.unused k (by rw [← hsame k]; exact hk)
  second := fun k c hk hne => h.second k c (by rw [← hsame k]; exact hk)
    (by rw [← entryOf_congr hsame c]; exact hne)
  front := fun k => by
    rw [hsame k]
    exact h.front k
  whole := fun k c hk => by
    rw [hsame k] at hk
    obtain ⟨hbound, hllc⟩ := h.whole k c hk
    exact ⟨htlli k hbound, hllc⟩

/-- From an entry that names a component nothing was sent, or it is found. -/
theorem Books.known (h : Books t llc sent taken) (hk : (t k).compRef = some (some c)) :
    entryOf t c = some k ∨ ∀ sapi, sent k sapi = 0 := by
  by_cases hentry : entryOf t c = some k
  · exact Or.inl hentry
  · exact Or.inr (h.second k c hk hentry)

/-- A slot that is written with a taken entry leaves the unused ones. -/
theorem Books.unused_update (h : Books t llc sent taken) (he : e.compRef ≠ none) (k : Fin tableSize)
    (hk : (Function.update t i e k).compRef = none) : ∀ sapi, sent k sapi = 0 := by
  by_cases hki : k = i
  · rw [hki, Function.update_self] at hk
    exact absurd hk he
  · rw [Function.update_of_ne hki] at hk
    exact h.unused k hk

/-- The first free slot is the one behind those that are taken. -/
theorem Books.first (h : Books t llc sent taken) (hi : (t i).compRef = none)
    (hfirst : ∀ j, j < i → (t j).compRef ≠ none) : i.val = taken := by
  have hle := (h.front i).mp hi
  by_contra hne
  have hlt : taken < i.val := by omega
  exact hfirst ⟨taken, Nat.lt_trans hlt i.isLt⟩ hlt ((h.front _).mpr (Nat.le_refl taken))

/-- Without a free slot all are taken. -/
theorem Books.full (h : Books t llc sent taken) (hnone : ∀ k, (t k).compRef ≠ none) :
    tableSize ≤ taken := by
  by_contra hlt
  exact hnone ⟨taken, Nat.lt_of_not_le hlt⟩ ((h.front _).mpr (Nat.le_refl taken))

/-- **A NEW ENTRY** starts at 0, in the first slot that was never used. -/
theorem Books.register (h : Books t llc sent taken) (hi : (t i).compRef = none)
    (hfirst : ∀ j, j < i → (t j).compRef ≠ none) (he : e.compRef = some (some c))
    (htlli : e.tlli ≠ none) (role : Bool) : Books (Function.update t i e)
      (Function.update llc i (some (fun _ => tLlcInit role))) sent (taken + 1) := by
  have htaken : e.compRef ≠ none := by
    rw [he]
    exact Option.some_ne_none _
  have hival := h.first hi hfirst
  refine ⟨?_, h.unused_update htaken, ?_, fun k => ?_, ?_⟩
  · intro k ents hents sapi
    by_cases hk : k = i
    · rw [hk, Function.update_self] at hents
      rw [← Option.some.inj hents, hk, h.unused i hi sapi]
      rfl
    · rw [Function.update_of_ne hk] at hents
      exact h.counters k ents hents sapi
  · intro k c' hk hne
    by_cases hki : k = i
    · rw [hki]
      exact h.unused i hi
    · rw [Function.update_of_ne hki] at hk
      refine h.second k c' hk (fun hentry => hne ?_)
      -- The slot is in front of the new one, so it is still found.
      have hlt : k < i := by
        by_contra hge
        have hfree := (h.front k).mpr (hival ▸ not_lt.mp hge)
        rw [hfree] at hk
        exact nomatch hk
      exact (find_update_behind hlt).mpr hentry
  · by_cases hki : k = i
    · rw [hki, Function.update_self]
      exact iff_of_false htaken (by omega)
    · rw [Function.update_of_ne hki, h.front]
      have hne : k.val ≠ i.val := fun heq => hki (Fin.ext heq)
      omega
  · intro k c' hk
    by_cases hki : k = i
    · rw [hki, Function.update_self, Function.update_self]
      exact ⟨htlli, Option.some_ne_none _⟩
    · rw [Function.update_of_ne hki] at hk
      rw [Function.update_of_ne hki, Function.update_of_ne hki]
      exact h.whole k c' hk

/-- **AN ENTRY THAT IS GIVEN UP** stays taken. -/
theorem Books.unregister (h : Books t llc sent taken) (hi : (t i).compRef ≠ none)
    (he : e.compRef = some none) : Books (Function.update t i e) llc sent taken := by
  have hne : ∀ {k c'}, (Function.update t i e k).compRef = some (some c') → k ≠ i := by
    rintro k c' hk rfl
    rw [Function.update_self, he] at hk
    exact nomatch Option.some.inj hk
  have htaken : e.compRef ≠ none := by
    rw [he]
    exact Option.some_ne_none _
  refine ⟨h.counters, h.unused_update htaken, ?_, fun k => ?_, ?_⟩
  · intro k c' hk hno
    have hki := hne hk
    rw [Function.update_of_ne hki] at hk
    refine h.second k c' hk (fun hentry => hno ?_)
    refine find_update_refused_of_some hki ?_ hentry
    rw [he]
    rfl
  · by_cases hki : k = i
    · rw [hki, Function.update_self]
      exact iff_of_false htaken fun hle => hi ((h.front i).mpr hle)
    · rw [Function.update_of_ne hki]
      exact h.front k
  · intro k c' hk
    have hki := hne hk
    rw [Function.update_of_ne hki] at hk ⊢
    exact h.whole k c' hk

/-- **ONE MORE FRAME** of the entry of a component. -/
theorem Books.send (h : Books t llc sent taken) (hk : entryOf t c = some k)
    {ents : Fin 16 → LlcEntity} (hents : llc k = some ents) (sapi : Fin 16) :
    Books t
      (Function.update llc k (some (Function.update ents sapi (fLlcGetNUTx (ents sapi)).2)))
      (Function.update sent k (Function.update (sent k) sapi (sent k sapi + 1))) taken := by
  have hcomp := entryOf_compRef hk
  constructor
  · intro j ents' hj sapi'
    by_cases hjk : j = k
    · rw [hjk, Function.update_self] at hj
      rw [hjk, Function.update_self, ← Option.some.inj hj]
      by_cases hs : sapi' = sapi
      · rw [hs, Function.update_self, Function.update_self]
        exact congrArg (· + 1) (h.counters k ents hents sapi)
      · rw [Function.update_of_ne hs, Function.update_of_ne hs]
        exact h.counters k ents hents sapi'
    · rw [Function.update_of_ne hjk] at hj ⊢
      exact h.counters j ents' hj sapi'
  · intro j hj
    have hjk : j ≠ k := by
      rintro rfl
      rw [hcomp] at hj
      exact nomatch hj
    rw [Function.update_of_ne hjk]
    exact h.unused j hj
  · intro j c' hj hno
    have hjk : j ≠ k := by
      rintro rfl
      rw [hcomp] at hj
      rw [← Option.some.inj (Option.some.inj hj)] at hno
      exact hno hk
    rw [Function.update_of_ne hjk]
    exact h.second j c' hj hno
  · exact h.front
  · intro j c' hj
    obtain ⟨hbound, hllc⟩ := h.whole j c' hj
    refine ⟨hbound, ?_⟩
    by_cases hjk : j = k
    · rw [hjk, Function.update_self]
      exact Option.some_ne_none _
    · rw [Function.update_of_ne hjk]
      exact hllc

end Entries

-- ── Rounds ───────────────────────────────────────────────────────────────────

section Rounds

variable {Comp : Type} [DecidableEq Comp] {s s' : State Comp} {g g' : Senders Comp}

/-- Books and entries are all there is to it. -/
theorem Counts.of_books (hentry : ∀ c, g.entry c = entryOf s.clientTable c)
    (hbooks : Books s.clientTable s.llc g.sent g.taken) : Counts s g where
  entry := hentry
  books := hbooks
  apart := by
    intro c c' k hc hc'
    rw [hentry] at hc hc'
    have heq := (entryOf_compRef hc).symm.trans (entryOf_compRef hc')
    exact Option.some.inj (Option.some.inj heq)

/-- At the start nothing was numbered. -/
theorem counts_init (sgsnRole : Bool) : Counts (stateInit sgsnRole : State Comp) .none := by
  refine .of_books (fun c => ?_) ⟨nofun, fun _ _ _ => rfl, nofun,
    fun k => iff_of_true rfl (Nat.zero_le k.val), nofun⟩
  exact (find_eq_none.mpr (fun _ => rfl)).symm

/-- A round that ends the component for another reason, or is allowed. -/
abbrev RoundRight (g : Senders Comp) (i : Input Comp)
    (r : Except Fault (State Comp × List Output)) : Prop :=
  (∃ e, r = .error e ∧ LlcEnds g i e)
    ∨ ∃ s' os g', r = .ok (s', os) ∧ LlcAllowed g i g' os ∧ Counts s' g'

/-- A round that sends no UI frame and leaves the components of the table. -/
theorem roundRight_quiet {i : Input Comp} {os : List Output} (h : Counts s g)
    (hi : i.registers = 0) (hos : os.filterMap Output.frame = [])
    (hsame : ∀ k, (s'.clientTable k).compRef = (s.clientTable k).compRef)
    (htlli : ∀ k, (s.clientTable k).tlli ≠ none → (s'.clientTable k).tlli ≠ none)
    (hllc : s'.llc = s.llc) : RoundRight g i (.ok (s', os)) := by
  have htaken : g.taken = g.taken + i.registers := by rw [hi, Nat.add_zero]
  refine Or.inr ⟨s', os, g, rfl, .other hos rfl htaken (fun _ _ => rfl) (fun _ _ => Or.inl), ?_⟩
  refine .of_books (fun c => ?_) ?_
  · rw [h.entry, entryOf_congr hsame]
  · rw [hllc]
    exact h.books.congr hsame htlli

/-- A round that changes which components the table has. -/
theorem roundRight_entries {i : Input Comp} {os : List Output} (h : Counts s g)
    (hos : os.filterMap Output.frame = [])
    (hkeep : ∀ c, ¬ i.Concerns c →
      entryOf s'.clientTable c = entryOf s.clientTable c)
    (hnew : ∀ c k, entryOf s'.clientTable c = some k →
      entryOf s.clientTable c = some k ∨ g.Fresh k)
    (hbooks : Books s'.clientTable s'.llc g.sent (g.taken + i.registers)) :
    RoundRight g i (.ok (s', os)) := by
  refine Or.inr ⟨s', os, ⟨entryOf s'.clientTable, g.sent, g.taken + i.registers⟩, rfl,
    .other hos rfl rfl (fun c hc => ?_) (fun c k hk => ?_), .of_books (fun _ => rfl) hbooks⟩
  · exact (hkeep c hc).trans (h.entry c).symm
  · rw [h.entry]
    exact hnew c k hk

/-- A new client starts at zero. -/
theorem register_right (h : Counts s g) (imsi : Imsi) (tlli : Tlli) (client : Comp) :
    RoundRight g (.op (.register imsi tlli client))
      (mainStep s (.op (.register imsi tlli client))) := by
  rw [mainStep, clientStep, fTblClientAdd, opLlc]
  cases hf : find s.clientTable (fun c => c.compRef.isNone) with
  | none =>
      refine Or.inl ⟨_, rfl, h.books.full fun k hk => ?_⟩
      have hno := find_eq_none.mp hf k
      rw [hk] at hno
      cases hno
  | some i =>
      obtain ⟨hfree, hbefore⟩ := find_eq_some.mp hf
      have hi : (s.clientTable i).compRef = none := Option.isNone_iff_eq_none.mp hfree
      have hfirst : ∀ j, j < i → (s.clientTable j).compRef ≠ none := by
        intro j hj hnone
        have hno := hbefore j hj
        rw [hnone] at hno
        cases hno
      refine roundRight_entries h rfl (fun c hc => ?_) (fun c k hk => ?_)
        (h.books.register hi hfirst rfl (Option.some_ne_none tlli) s.gSgsnRole)
      · refine find_update_refused ?_ ?_
        · rw [hi]
          rfl
        · exact beq_false_of_ne (fun heq => hc (Option.some.inj (Option.some.inj heq)))
      · by_cases hki : k = i
        · rw [hki]
          exact Or.inr (h.books.unused i hi)
        · have hcomp := entryOf_compRef hk
          dsimp only at hcomp
          rw [Function.update_of_ne hki] at hcomp
          exact h.books.known hcomp

/-- A client that leaves takes its numbers along. -/
theorem unregister_right (h : Counts s g) (imsi : Imsi) (client : Comp) :
    RoundRight g (.op (.unregister imsi client))
      (mainStep s (.op (.unregister imsi client))) := by
  rw [mainStep, clientStep, fTblClientDel, opLlc]
  cases hf : find s.clientTable (fun c => c.imsi == some imsi) with
  | none => exact roundRight_quiet h rfl rfl (fun _ => rfl) (fun _ hk => hk) rfl
  | some i =>
      dsimp only
      by_cases hother : (s.clientTable i).compRef ≠ some (some client)
      · rw [if_pos hother]
        exact Or.inl ⟨_, rfl, rfl⟩
      · rw [if_neg hother]
        have hi : (s.clientTable i).compRef = some (some client) := not_not.mp hother
        have htaken : (s.clientTable i).compRef ≠ none := by
          rw [hi]
          exact Option.some_ne_none _
        refine roundRight_entries h rfl (fun c hc => ?_) (fun c k hk => ?_)
          (h.books.unregister htaken rfl)
        · refine find_update_refused ?_ rfl
          rw [hi]
          exact beq_false_of_ne (fun heq => hc (Option.some.inj (Option.some.inj heq)))
        · have hcomp := entryOf_compRef hk
          dsimp only at hcomp
          have hki : k ≠ i := by
            rintro rfl
            rw [Function.update_self] at hcomp
            cases Option.some.inj hcomp
          rw [Function.update_of_ne hki] at hcomp
          exact h.books.known hcomp

omit [DecidableEq Comp] in
/-- A new TLLI does not change the owner. -/
theorem llgmmAssign_compRef (tlliOld tlliNew : Tlli) (e : ClientEntity Comp) :
    (e.llgmmAssign tlliOld tlliNew).compRef = e.compRef := by
  rw [ClientEntity.llgmmAssign]
  split
  · rfl
  · split
    · rfl
    · split <;> rfl

omit [DecidableEq Comp] in
/-- An entry with a TLLI keeps one. -/
theorem llgmmAssign_tlli (tlliOld tlliNew : Tlli) {e : ClientEntity Comp}
    (h : e.tlli ≠ none) : (e.llgmmAssign tlliOld tlliNew).tlli ≠ none := by
  rw [ClientEntity.llgmmAssign]
  split
  · exact Option.some_ne_none _
  · split
    · exact Option.some_ne_none _
    · split
      · exact h
      · exact h

/-- **LLGMM-ASSIGN** leaves the entries and their counters. -/
theorem llgmmAssign_right (h : Counts s g) (tlliOld tlliNew : Tlli) (client : Comp) :
    RoundRight g (.op (.llgmmAssign tlliOld tlliNew client))
      (mainStep s (.op (.llgmmAssign tlliOld tlliNew client))) := by
  rw [mainStep, clientStep, fTblClientLlgmmAssign, opLlc]
  cases hidx : fTblIdxByComp s.clientTable client with
  | error err => exact Or.inl ⟨err, rfl, (h.entry client).trans (idxByComp_error hidx)⟩
  | ok i =>
      refine roundRight_quiet h rfl rfl (fun k => ?_) (fun k hk => ?_) rfl
      · show (Function.update s.clientTable i _ k).compRef = _
        by_cases hki : k = i
        · rw [hki, Function.update_self, llgmmAssign_compRef]
        · rw [Function.update_of_ne hki]
      · show (Function.update s.clientTable i _ k).tlli ≠ none
        by_cases hki : k = i
        · rw [hki] at hk ⊢
          rw [Function.update_self]
          exact llgmmAssign_tlli tlliOld tlliNew hk
        · rw [Function.update_of_ne hki]
          exact hk

/-- A layer 3 message for which all is known ends in the encoder, or is sent. -/
theorem sendL3_eq {l3 : L3Pdu} {vcConn : Comp} {k : Fin tableSize}
    {tlli : Tlli} {sapi : Fin 16} {ents : Fin 16 → LlcEntity}
    (hidx : fTblIdxByComp s.clientTable vcConn = .ok k)
    (htlli : (s.clientTable k).tlli = some tlli) (hsapi : fLlcSapiByL3 l3.msgs = .ok sapi)
    (hents : s.llc k = some ents) :
    sendL3 s l3 vcConn
      = (encodes (tsLlcUi l3.l3Enc sapi true (ents sapi).nUTxNext)).map (fun _ =>
        ({ s with
            llc := Function.update s.llc k
              (some (Function.update ents sapi (fLlcGetNUTx (ents sapi)).2)) },
          [.ui tlli (tsLlcUi l3.l3Enc sapi true (ents sapi).nUTxNext)])) := by
  rw [sendL3, hidx]
  dsimp only [Except.bind]
  rw [htlli]
  dsimp only [bound]
  rw [hsapi]
  dsimp only
  rw [hents]
  rfl

/-- **A LAYER 3 MESSAGE** is sent with the number that is due, unless its client
    has no entry or it is of no SAPI. -/
theorem sendL3_right (h : Counts s g) {i : Input Comp} {l3 : L3Pdu} {vcConn : Comp}
    (hi : i.l3Of = some (l3, vcConn))
    (hends : g.entry vcConn = none ∨ l3.msgs = .other → ∀ e, LlcEnds g i e)
    (hfit : ∀ n ∈ counterFor s l3 vcConn, n < 512) :
    RoundRight g i (sendL3 s l3 vcConn) := by
  cases hidx : fTblIdxByComp s.clientTable vcConn with
  | error err =>
      exact Or.inl ⟨err, by simp only [sendL3, hidx, Except.bind],
        hends (Or.inl ((h.entry vcConn).trans (idxByComp_error hidx))) err⟩
  | ok k =>
  obtain ⟨hbound, hllc⟩ := h.books.whole k vcConn (entryOf_compRef (idxByComp_ok.mp hidx))
  obtain ⟨tlli, htlli⟩ := Option.ne_none_iff_exists'.mp hbound
  obtain ⟨ents, hents⟩ := Option.ne_none_iff_exists'.mp hllc
  cases hsapi : fLlcSapiByL3 l3.msgs with
  | error err =>
      exact Or.inl ⟨err, by simp only [sendL3, hidx, htlli, hsapi, bound, Except.bind],
        hends (Or.inr (sapiByL3_error hsapi)) err⟩
  | ok sapi =>
  have hentry := idxByComp_ok.mp hidx
  have hlt : (ents sapi).nUTxNext < 512 := by
    refine hfit _ ?_
    rw [counterFor, hidx, hsapi]
    dsimp only [Except.toOption, Option.bind]
    rw [hents]
    exact rfl
  have henc : encodes (tsLlcUi l3.l3Enc sapi true (ents sapi).nUTxNext) = .ok () :=
    if_neg (Nat.not_le.mpr hlt)
  have hcount := h.books.counters k ents hents sapi
  have hallowed : LlcAllowed g i
      (g.bump k (tsLlcUi l3.l3Enc sapi true (ents sapi).nUTxNext).sapi)
      [.ui tlli (tsLlcUi l3.l3Enc sapi true (ents sapi).nUTxNext)] := by
    refine .frame hi (by rw [h.entry, hentry]) hsapi ?_
    show (ents sapi).nUTxNext = g.sent k sapi % 512
    rw [← hcount, Nat.mod_eq_of_lt hlt]
  rw [sendL3_eq hidx htlli hsapi hents, henc]
  exact Or.inr ⟨_, _, g.bump k sapi, rfl, hallowed,
    .of_books h.entry (h.books.send hentry hents sapi)⟩

/-- **ONE ROUND** where it is right. -/
theorem mainStep_right (i : Input Comp) (h : Counts s g) (hwhen : HoldsWhen s i) :
    RoundRight g i (mainStep s i) := by
  have hquiet : ∀ {i : Input Comp} {os : List Output}, os.filterMap Output.frame = [] →
      i.registers = 0 → RoundRight g i (.ok (s, os)) :=
    fun hos hi => roundRight_quiet h hi hos (fun _ => rfl) (fun _ hk => hk) rfl
  cases i with
  | op op =>
      cases op with
      | register imsi tlli client => exact register_right h imsi tlli client
      | unregister imsi client => exact unregister_right h imsi client
      | llgmmAssign tlliOld tlliNew client => exact llgmmAssign_right h tlliOld tlliNew client
  | changeState unblocked => exact roundRight_quiet h rfl rfl (fun _ => rfl) (fun _ hk => hk) rfl
  | l3Mt l3 vcConn =>
      rw [mainStep]
      by_cases hsend : (s.unblocked && s.gSgsnRole) = true
      · rw [if_pos hsend]
        exact sendL3_right h rfl (fun hno _ => hno) (hwhen (l3, vcConn) (if_pos hsend))
      · rw [if_neg hsend]
        exact hquiet rfl rfl
  | l3Mo l3 vcConn =>
      rw [mainStep]
      by_cases hsend : (s.unblocked && !s.gSgsnRole) = true
      · rw [if_pos hsend]
        exact sendL3_right h rfl (fun hno _ => hno) (hwhen (l3, vcConn) (if_pos hsend))
      · rw [if_neg hsend]
        exact hquiet rfl rfl
  | llc llcEnc vcConn =>
      rw [mainStep]
      by_cases hun : s.unblocked = true
      · rw [if_pos hun, sendLlc]
        cases hidx : fTblIdxByComp s.clientTable vcConn with
        | error err => exact Or.inl ⟨err, rfl, (h.entry vcConn).trans (idxByComp_error hidx)⟩
        | ok k =>
            obtain ⟨hbound, -⟩ :=
              h.books.whole k vcConn (entryOf_compRef (idxByComp_ok.mp hidx))
            obtain ⟨tlli, htlli⟩ := Option.ne_none_iff_exists'.mp hbound
            dsimp only [Except.bind]
            rw [htlli]
            exact hquiet rfl rfl
      · rw [if_neg hun]
        exact hquiet rfl rfl
  | bssgp bsPdu =>
      rw [mainStep]
      refine hquiet ?_ rfl
      cases s.unblocked <;> rfl

end Rounds

-- ── Runs ─────────────────────────────────────────────────────────────────────

/-- **NUMBERS OF UI FRAMES**: in a run whose rounds are right, the frames of
    every entry are numbered on every SAPI from 0, modulo 512, and no number is
    refused by the encoder. -/
theorem llc_numbers {Comp : Type} [DecidableEq Comp] (sgsnRole : Bool)
    (is : List (Input Comp)) (hguard : Guarded mainStep HoldsWhen (stateInit sgsnRole) is) :
    FollowsUntil mainStep LlcAllowed LlcEnds Counts (stateInit sgsnRole) Senders.none is :=
  followsUntil_of_guarded (fun _ _ i h hwhen => mainStep_right i h hwhen) is _ _
    (counts_init sgsnRole) hguard

/-- An ATTACH REQUEST. -/
def attachRequest : L3Pdu := ⟨.gprsMm, [0x08, 0x01]⟩

/-- A short message. -/
def shortMessage : L3Pdu := ⟨.sms, [0x09, 0x01]⟩

/-- A client on two SAPIs, a new TLLI, and another client. -/
def twoClients : List (Input Nat) :=
  [.changeState true, .op (.register [2, 6, 2] 0x11 7), .l3Mo attachRequest 7,
   .l3Mo shortMessage 7, .op (.llgmmAssign unassigned 0x12 7), .l3Mo attachRequest 7,
   .op (.register [2, 6, 3] 0x13 8), .l3Mo attachRequest 8, .op (.unregister [2, 6, 2] 7)]

/-- Two clients, numbered each by itself. -/
theorem llc_numbers_twoClients :
    Guarded mainStep HoldsWhen (stateInit false) twoClients
      ∧ FollowsUntil mainStep LlcAllowed LlcEnds Counts (stateInit false) Senders.none
        twoClients :=
  have hguard : Guarded mainStep HoldsWhen (stateInit false) twoClients := by decide +kernel
  ⟨hguard, llc_numbers false twoClients hguard⟩

section Wrap

variable {Comp : Type} [DecidableEq Comp] {s : State Comp} {client : Comp}

/-- The client has an entry whose next number for mobility management is `n`. -/
structure NextIs (s : State Comp) (client : Comp) (n : Nat) : Prop where
  unblocked : s.unblocked = true
  role : s.gSgsnRole = false
  entry : ∃ k tlli ents, fTblIdxByComp s.clientTable client = .ok k
    ∧ (s.clientTable k).tlli = some tlli ∧ s.llc k = some ents
    ∧ (ents cLlcSapiLlgmm).nUTxNext = n

/-- A message of a client that has an entry. -/
theorem attach_eq {n : Nat} (h : NextIs s client n) : ∃ k tlli ents,
    fTblIdxByComp s.clientTable client = .ok k ∧ (s.clientTable k).tlli = some tlli
      ∧ (ents cLlcSapiLlgmm).nUTxNext = n
      ∧ mainStep s (.l3Mo attachRequest client)
        = (encodes (tsLlcUi attachRequest.l3Enc cLlcSapiLlgmm true n)).map (fun _ =>
          ({ s with
              llc := Function.update s.llc k
                (some (Function.update ents cLlcSapiLlgmm
                  (fLlcGetNUTx (ents cLlcSapiLlgmm)).2)) },
            [.ui tlli (tsLlcUi attachRequest.l3Enc cLlcSapiLlgmm true n)])) := by
  obtain ⟨k, tlli, ents, hidx, htlli, hents, rfl⟩ := h.entry
  refine ⟨k, tlli, ents, hidx, htlli, rfl, ?_⟩
  have hsend : mainStep s (.l3Mo attachRequest client) = sendL3 s attachRequest client := by
    rw [mainStep, h.unblocked, h.role]
    rfl
  rw [hsend, sendL3_eq hidx htlli (show fLlcSapiByL3 attachRequest.msgs = _ from rfl) hents]

/-- Below 512 the next frame has the next number. -/
theorem attach_next {n : Nat} (h : NextIs s client n) (hn : n < 512) : ∃ s' os,
    mainStep s (.l3Mo attachRequest client) = .ok (s', os) ∧ NextIs s' client (n + 1) := by
  obtain ⟨k, tlli, ents, hidx, htlli, hents, hstep⟩ := attach_eq h
  have henc : encodes (tsLlcUi attachRequest.l3Enc cLlcSapiLlgmm true n) = .ok () :=
    if_neg (Nat.not_le.mpr hn)
  rw [henc] at hstep
  refine ⟨_, _, hstep, h.unblocked, h.role, k, tlli, _, hidx, htlli,
    Function.update_self k _ _, ?_⟩
  rw [Function.update_self]
  exact congrArg (· + 1) hents

/-- At 512 the number does not fit. -/
theorem attach_overflow (h : NextIs s client 512) :
    mainStep s (.l3Mo attachRequest client) = .error .rawOverflow := by
  obtain ⟨k, tlli, ents, -, -, -, hstep⟩ := attach_eq h
  exact hstep

/-- So many frames as there are numbers left. -/
theorem run_attach (client : Comp) : ∀ (n m : Nat) (s : State Comp), NextIs s client m →
    m + n ≤ 512 → ∃ s' os,
    run mainStep s (List.replicate n (.l3Mo attachRequest client)) = .ok (s', os)
      ∧ NextIs s' client (m + n) := by
  intro n
  induction n with
  | zero => exact fun m s h _ => ⟨s, [], rfl, h⟩
  | succ n ih =>
      intro m s h hle
      obtain ⟨s₁, os₁, hstep, h₁⟩ := attach_next h (by omega)
      obtain ⟨s₂, os₂, hrun, h₂⟩ := ih (m + 1) s₁ h₁ (by omega)
      refine ⟨s₂, os₁ :: os₂, ?_, by rw [show m + (n + 1) = m + 1 + n by omega]; exact h₂⟩
      rw [List.replicate_succ, run, hstep]
      dsimp only
      rw [hrun]
      rfl

end Wrap

/-- A client registers, and sends one message more than there are numbers. -/
def tooMany : List (Input Nat) :=
  .changeState true :: .op (.register [2, 6, 2] 0x11 7) ::
    (List.replicate 512 (.l3Mo attachRequest 7) ++ [.l3Mo attachRequest 7])

/-- The state after the registration. -/
def oneClient : State Nat where
  gSgsnRole := false
  unblocked := true
  clientTable := Function.update clientTableInit 0
    { tlli := some 0x11, tlliOld := none, imsi := some [2, 6, 2], compRef := some (some 7) }
  llc := Function.update (fun _ => none) 0 (some (fun _ => tLlcInit false))

/-- **THE 513TH FRAME** is not sent. -/
theorem llc_numbers_tooMany :
    ¬ FollowsUntil mainStep LlcAllowed LlcEnds Counts (stateInit false) Senders.none
      tooMany := by
  intro h
  have hregister : mainStep { stateInit false with unblocked := true }
      (.op (.register [2, 6, 2] 0x11 7)) = .ok (oneClient, [.reply]) := rfl
  obtain ⟨-, g₁, -, h⟩ := (followsUntil_cons_ok rfl).mp h
  obtain ⟨-, g₂, -, h⟩ := (followsUntil_cons_ok hregister).mp h
  have hnone : NextIs oneClient 7 0 :=
    ⟨rfl, rfl, 0, 0x11, fun _ => tLlcInit false, rfl, rfl, rfl, rfl⟩
  obtain ⟨s', os, hrun, hnext⟩ := run_attach 7 512 0 oneClient hnone (Nat.le_refl _)
  obtain ⟨g', hcounts, hends⟩ := h.ends hrun (attach_overflow hnext)
  obtain ⟨k, -, -, hidx, -⟩ := hnext.entry
  -- the client has an entry, and a SAPI
  rcases hends with hno | hother
  · rw [hcounts.entry, idxByComp_ok.mp hidx] at hno
    cases hno
  · cases hother

end OsmoLlcNumbers
