import Mathlib.Data.Finset.Card
import OsmoTtcn.RslEmulationProofs
import OsmoTtcn.SlotLogProofs

/-! # The last activation of a channel

    As a BTS, `main` keeps for every pair of transceiver and channel the last
    CHANNEL ACTIVATION that it took from `IPA_PT`.  A pair that is there is
    overwritten; a new one takes the first free entry, which is behind all
    others, so the table is the list of the pairs in the order in which they
    came first.

    As a BSC, `main` hands a CHANNEL ACTIVATION to the client of the channel
    like any other message of a dedicated channel, and keeps none. -/

namespace OsmoRsl

open OsmoTitan SlotTable SlotLog

-- ── Activations ──────────────────────────────────────────────────────────────

section Defs

variable {n : Nat} {Comp ChanNr Body : Type}

/-- A CHANNEL ACTIVATION, and what it was received for. -/
structure Activation (ChanNr Body : Type) where
  trxNr : Nat
  chanNr : ChanNr
  chanAct : RslMessage ChanNr Body

/-- The transceiver and the channel. -/
def Activation.pair (a : Activation ChanNr Body) : Nat × ChanNr := (a.trxNr, a.chanNr)

/-- The activation that a message is, if it is one. -/
def activationOf (rxRsl : AspRslUnitdata (RslMessage ChanNr Body)) :
    Option (Activation ChanNr Body) :=
  match rxRsl.rsl.kind with
  | .chanActiv => rxRsl.rsl.chanNr.map (fun chanNr =>
      { trxNr := fTrxByStreamId rxRsl.streamId, chanNr := chanNr, chanAct := rxRsl.rsl })
  | _ => none

/-- The CHANNEL ACTIVATION that `main` takes in a round.  A BSC leaves it in the
    port while it is suspended. -/
def activationTaken (btsRole : Bool) (s : State n Comp ChanNr Body) :
    Event Comp ChanNr Body → Option (Activation ChanNr Body)
  | .rxIpa =>
      match s.ipaPt with
      | .ud rxRsl :: _ => if btsRole || !s.dchanSuspended then activationOf rxRsl else none
      | _ => none
  | _ => none

variable [DecidableEq ChanNr]

/-- The latest of the activations of a pair. -/
def lastActivation (acts : List (Activation ChanNr Body)) (trxNr : Nat) (chanNr : ChanNr) :
    Option (Activation ChanNr Body) :=
  lookup Activation.pair (trxNr, chanNr) acts.reverse

/-- How many pairs are activated. -/
def pairsOf (acts : List (Activation ChanNr Body)) : Nat :=
  (acts.map Activation.pair).toFinset.card

/-- What `f_lookup_last_act` should give. -/
def lookedUp (a : Option (Activation ChanNr Body)) : Except Fault (RslMessage ChanNr Body) :=
  match a with
  | some a => .ok a.chanAct
  | none => .error (.ttcnError "No LastActTable entry found for TRX ")

variable [DecidableEq Comp]

/-- The states of a run of `main`, with the activations that it took. -/
inductive LastActRun (btsRole : Bool) :
    State n Comp ChanNr Body → List (Activation ChanNr Body) → Prop where
  | init : LastActRun btsRole State.init []
  | round {s s' : State n Comp ChanNr Body} {acts : List (Activation ChanNr Body)}
      {e : Event Comp ChanNr Body} {outs : List (Output Comp ChanNr Body)} :
      LastActRun btsRole s acts → mainStep btsRole s e = .ok (s', outs) →
        LastActRun btsRole s' (acts ++ (activationTaken btsRole s e).toList)

end Defs

-- ── The table ────────────────────────────────────────────────────────────────

section Table

variable {n : Nat} {ChanNr Body : Type} [DecidableEq ChanNr]
variable {acts : List (Activation ChanNr Body)} {l : LastActTable n ChanNr Body}
variable {trxNr : Nat} {chanNr : ChanNr}

theorem lastActivation_append (acts : List (Activation ChanNr Body))
    (a : Activation ChanNr Body) (trxNr : Nat) (chanNr : ChanNr) :
    lastActivation (acts ++ [a]) trxNr chanNr
      = if (trxNr, chanNr) = a.pair then some a else lastActivation acts trxNr chanNr := by
  rw [lastActivation, List.reverse_append, List.reverse_singleton, List.singleton_append]
  by_cases hk : (trxNr, chanNr) = a.pair
  · rw [if_pos hk, lookup_cons_pos hk.symm]
  · rw [if_neg hk, lookup_cons_neg (fun h => hk h.symm), lastActivation]

/-- One more pair, or the pairs there were. -/
theorem pairsOf_append (acts : List (Activation ChanNr Body)) (a : Activation ChanNr Body) :
    pairsOf (acts ++ [a]) = if (lastActivation acts a.trxNr a.chanNr).isSome
      then pairsOf acts else pairsOf acts + 1 := by
  have hinsert : ((acts ++ [a]).map Activation.pair).toFinset
      = insert a.pair (acts.map Activation.pair).toFinset := by
    ext k
    rw [List.mem_toFinset, List.map_append, List.mem_append, Finset.mem_insert,
      List.mem_toFinset, or_comm, List.map_singleton, List.mem_singleton]
  rw [pairsOf, hinsert]
  cases hlast : lastActivation acts a.trxNr a.chanNr with
  | none =>
      have hno : a.pair ∉ (acts.map Activation.pair).toFinset := by
        rw [List.mem_toFinset, List.mem_map]
        rintro ⟨b, hb, hpair⟩
        exact List.find?_eq_none.mp hlast b (List.mem_reverse.mpr hb) (decide_eq_true hpair)
      rw [Finset.card_insert_of_notMem hno]
      rfl
  | some b =>
      have hb : b ∈ acts := List.mem_reverse.mp (List.mem_of_find?_eq_some hlast)
      have hpair : decide (b.pair = a.pair) = true :=
        List.find?_some (p := fun d => decide (Activation.pair d = a.pair)) hlast
      have hmem : a.pair ∈ (acts.map Activation.pair).toFinset := by
        rw [List.mem_toFinset, ← of_decide_eq_true hpair]
        exact List.mem_map_of_mem hb
      rw [Finset.insert_eq_of_mem hmem]
      rfl

/-- What an entry holds. -/
def lastActSlot : Option (Activation ChanNr Body) → LastActData ChanNr Body
  | none => { trxNr := none, chanNr := none, chanAct := none }
  | some a => { trxNr := some a.trxNr, chanNr := some a.chanNr, chanAct := some a.chanAct }

/-- **THE TABLE IS A RECORD**: its entries give for every pair the last of the
    activations, one entry a pair. -/
def Recorded (acts : List (Activation ChanNr Body)) (l : LastActTable n ChanNr Body) : Prop :=
  ∃ entries, Logs lastActSlot l entries
    ∧ (∀ trxNr chanNr, lookup Activation.pair (trxNr, chanNr) entries
        = lastActivation acts trxNr chanNr)
    ∧ entries.length = pairsOf acts

theorem recorded_init {Comp : Type} :
    Recorded [] (State.init : State n Comp ChanNr Body).lastActTable :=
  ⟨[], logs_empty (fun _ => rfl), fun _ _ => rfl, rfl⟩

/-- The test of the lookup, on what an entry holds. -/
theorem lookup_accepts (o : Option (Activation ChanNr Body)) :
    decide ((lastActSlot o).chanNr = some chanNr ∧ (lastActSlot o).trxNr = some trxNr)
      = o.any (fun a => decide (a.pair = (trxNr, chanNr))) := by
  cases o with
  | none => exact decide_eq_false (fun h => nomatch h.1)
  | some a =>
      refine decide_eq_decide.mpr ?_
      rw [lastActSlot, Option.some_inj, Option.some_inj, Activation.pair, Prod.mk.injEq, and_comm]

/-- The test of the recording: a free entry, or the one of the pair. -/
theorem store_accepts (o : Option (Activation ChanNr Body)) :
    ((lastActSlot o).chanNr.isNone
        || decide ((lastActSlot o).chanNr = some chanNr ∧ (lastActSlot o).trxNr = some trxNr))
      = o.all (fun a => decide (a.pair = (trxNr, chanNr))) := by
  rw [lookup_accepts]
  cases o with
  | none => rfl
  | some a => rfl

/-- **THE LOOKUP** gives the last activation of the pair. -/
theorem Recorded.lookup (h : Recorded acts l) (trxNr : Nat) (chanNr : ChanNr) :
    fLookupLastAct l trxNr chanNr = lookedUp (lastActivation acts trxNr chanNr) := by
  obtain ⟨entries, hlogs, hlast, -⟩ := h
  rw [← hlast, fLookupLastAct]
  cases hfound : SlotLog.lookup Activation.pair (trxNr, chanNr) entries with
  | none =>
      rw [hlogs.find_none lookup_accepts hfound]
      rfl
  | some a =>
      obtain ⟨i, hi, hslot⟩ := hlogs.find_some (p := fun c : LastActData ChanNr Body =>
        decide (c.chanNr = some chanNr ∧ c.trxNr = some trxNr)) lookup_accepts hfound
      rw [hi]
      dsimp only
      rw [hslot]
      rfl

/-- **RECORDING** fails only where the pair is one more than the table holds. -/
theorem Recorded.store (h : Recorded acts l) (a : Activation ChanNr Body) :
    (∃ l', fStoreLastActData l a.trxNr a.chanNr a.chanAct = .ok l'
        ∧ Recorded (acts ++ [a]) l' ∧ pairsOf (acts ++ [a]) ≤ n)
      ∨ fStoreLastActData l a.trxNr a.chanNr a.chanAct
          = .error (.ttcnError "No space left in LastActTable to store chan_act for ")
        ∧ n < pairsOf (acts ++ [a]) := by
  obtain ⟨entries, hlogs, hlast, hlen⟩ := h
  have hlength : (upsert Activation.pair a entries).length = pairsOf (acts ++ [a]) := by
    rw [length_upsert, pairsOf_append, ← hlast]
    cases hfound : SlotLog.lookup Activation.pair (a.trxNr, a.chanNr) entries with
    | none =>
        have hplace : place Activation.pair a.pair entries = entries.length :=
          place_of_lookup_none hfound
        rw [hplace, ← hlen, max_eq_right (Nat.le_succ _)]
        rfl
    | some b =>
        have hplace : place Activation.pair a.pair entries < entries.length :=
          place_of_lookup_some hfound
        rw [max_eq_left hplace, hlen]
        rfl
  rcases hlogs.upsert (e := a) (p := fun c : LastActData ChanNr Body => c.chanNr.isNone
      || decide (c.chanNr = some a.chanNr ∧ c.trxNr = some a.trxNr)) store_accepts with
    ⟨i, hi, hlogs'⟩ | ⟨hnone, hfull⟩
  · have hstore : fStoreLastActData l a.trxNr a.chanNr a.chanAct
        = .ok (Function.update l i (lastActSlot (some a))) := by
      rw [fStoreLastActData, hi]
      rfl
    refine Or.inl ⟨_, hstore, ⟨_, hlogs', fun trxNr chanNr => ?_, hlength⟩,
      hlength ▸ hlogs'.fits⟩
    rw [lookup_upsert, lastActivation_append, hlast]
  · exact Or.inr ⟨by rw [fStoreLastActData, hnone], hlength ▸ hfull⟩

end Table

-- ── Rounds ───────────────────────────────────────────────────────────────────

section Rounds

variable {n : Nat} {Comp ChanNr Body : Type} {btsRole : Bool}
variable {s s' : State n Comp ChanNr Body} {rxRsl : AspRslUnitdata (RslMessage ChanNr Body)}

/-- The round leaves the table as it is, if it comes to an end. -/
def KeepsLast (s : State n Comp ChanNr Body)
    (x : Except Fault (Next n Comp ChanNr Body)) : Prop :=
  ∀ r, x = .ok r → r.1.lastActTable = s.lastActTable

theorem keepsLast_ok {r : Next n Comp ChanNr Body} (h : r.1.lastActTable = s.lastActTable) :
    KeepsLast s (.ok r) := by
  rintro _ ⟨⟩
  exact h

theorem keepsLast_error (e : Fault) : KeepsLast s (.error e) := fun _ h => nomatch h

theorem keepsLast_map {α : Type} {x : Except Fault α} {f : α → Next n Comp ChanNr Body}
    (h : ∀ a, x = .ok a → (f a).1.lastActTable = s.lastActTable) : KeepsLast s (x.map f) := by
  intro r hr
  obtain ⟨a, ha, rfl⟩ := map_ok hr
  exact h a ha

theorem keepsLast_bind {α : Type} {x : Except Fault α}
    {f : α → Except Fault (Next n Comp ChanNr Body)} (h : ∀ a, KeepsLast s (f a)) :
    KeepsLast s (x.bind f) := by
  intro r hr
  obtain ⟨a, -, ha⟩ := bind_ok hr
  exact h a r ha

theorem rxEvent_keepsLast {evt : AspIpaEvent} {x : Except Fault (Next n Comp ChanNr Body)}
    (h : rxEvent s evt btsRole = some x) : KeepsLast s x := by
  have hregister : ∀ r, fTrxConnMapRegister s evt.connId evt.idResp = .ok r →
      r.1.lastActTable = s.lastActTable := by
    intro r hr
    rw [fTrxConnMapRegister] at hr
    split at hr
    · exact nomatch hr
    · split at hr
      · exact nomatch hr
      · split at hr
        · split at hr
          · exact nomatch hr
          · obtain ⟨sid, -, rfl⟩ := map_ok hr
            rfl
        · exact nomatch hr
  have hunregister : ∀ r, fTrxConnMapUnregister s evt.connId = .ok r →
      r.1.lastActTable = s.lastActTable := by
    intro r hr
    rw [fTrxConnMapUnregister] at hr
    split at hr
    · obtain ⟨sid, -, rfl⟩ := map_ok hr
      rfl
    · exact nomatch hr
  unfold rxEvent at h
  split at h
  · exact Option.some.inj h ▸ keepsLast_ok rfl
  · exact Option.some.inj h ▸ keepsLast_map hregister
  · split at h
    · exact nomatch h
    · exact Option.some.inj h ▸ keepsLast_error _
  · exact Option.some.inj h ▸ keepsLast_map hunregister
  · exact Option.some.inj h ▸ keepsLast_ok rfl
  · exact Option.some.inj h ▸ keepsLast_ok rfl

theorem rxImmAssign_keepsLast (rr : Option (GsmRrPayload ChanNr)) :
    KeepsLast s (rxImmAssign s rxRsl rr) := by
  rcases rr with _ | ⟨ra, chanNr⟩ | ⟨ras⟩ | _
  · exact keepsLast_error _
  · rw [rxImmAssign]
    cases fCidByRaFn s.connectionTable ra 23 with
    | none => exact keepsLast_error _
    | some cid => exact keepsLast_map (fun _ _ => rfl)
  · exact keepsLast_map (fun _ _ => rfl)
  · exact keepsLast_ok rfl

theorem rxChanRqd_keepsLast (ra : UInt8) (frameNr : RslIeFrameNumber) :
    KeepsLast s (rxChanRqd s rxRsl ra frameNr) := by
  rw [rxChanRqd]
  cases fCidByRaFn2 s.connectionTable ra frameNr with
  | none => exact keepsLast_ok rfl
  | some cid => exact keepsLast_map (fun _ _ => rfl)

variable [DecidableEq ChanNr]

theorem rxDchan_keepsLast : KeepsLast s (rxDchan s rxRsl) := by
  refine keepsLast_bind (fun cid => ?_)
  cases cid with
  | some cid => exact keepsLast_bind (fun out => keepsLast_ok rfl)
  | none =>
      dsimp only
      by_cases henabled : s.waitQueueEnabled = true
      · rw [if_pos henabled]
        exact keepsLast_ok rfl
      · rw [if_neg henabled]
        exact keepsLast_error _

/-- **A CHANNEL ACTIVATION** is recorded, if the table takes it. -/
theorem rxChanActiv_eq {a : Activation ChanNr Body} (h : activationOf rxRsl = some a) :
    rxRslUd s rxRsl true = some (rxChanActiv s rxRsl)
      ∧ ∃ outs, rxChanActiv s rxRsl = (fStoreLastActData s.lastActTable a.trxNr a.chanNr
          a.chanAct).map (fun l => ({ s with lastActTable := l }, outs)) := by
  unfold activationOf at h
  split at h
  · next hkind =>
      obtain ⟨chanNr, hchan, rfl⟩ := Option.map_eq_some_iff.mp h
      refine ⟨by simp only [rxRslUd, hkind], ?_⟩
      rw [rxChanActiv, chanNrOf, hchan]
      exact ⟨_, rfl⟩
  · exact nomatch h

/-- Any other message leaves the table. -/
theorem rxRslUd_keepsLast {x : Except Fault (Next n Comp ChanNr Body)}
    (hno : btsRole = true → activationOf rxRsl = none)
    (h : rxRslUd s rxRsl btsRole = some x) : KeepsLast s x := by
  have hdchan : (if s.dchanSuspended then none else some (rxDchan s rxRsl)) = some x →
      KeepsLast s x := by
    intro hx
    split at hx
    · exact nomatch hx
    · exact Option.some.inj hx ▸ rxDchan_keepsLast
  unfold rxRslUd at h
  split at h
  · exact Option.some.inj h ▸ rxImmAssign_keepsLast _
  · exact Option.some.inj h ▸ rxChanRqd_keepsLast _ _
  · exact Option.some.inj h ▸ keepsLast_ok rfl
  · exact Option.some.inj h ▸ keepsLast_ok rfl
  · exact Option.some.inj h ▸ keepsLast_ok rfl
  · exact Option.some.inj h ▸ keepsLast_ok rfl
  · exact Option.some.inj h ▸ keepsLast_ok rfl
  · exact Option.some.inj h ▸ keepsLast_ok rfl
  · next hkind =>
      -- without a channel number, which cannot be recorded
      have hchan : rxRsl.rsl.chanNr = none := by
        have hnone := hno rfl
        rw [activationOf, hkind] at hnone
        exact Option.map_eq_none_iff.mp hnone
      rw [← Option.some.inj h, rxChanActiv, chanNrOf, hchan]
      exact keepsLast_error _
  · exact hdchan h
  · exact hdchan h
  · split at h
    · exact nomatch h
    · exact Option.some.inj h ▸ keepsLast_error _

/-- A look at the port leaves the table, unless a CHANNEL ACTIVATION is taken. -/
theorem rxIpa_keepsLast
    (hno : btsRole = true → activationTaken btsRole s (.rxIpa : Event Comp ChanNr Body) = none) :
    KeepsLast s (rxIpa s btsRole) := by
  rw [rxIpa]
  unfold activationTaken at hno
  cases hport : s.ipaPt with
  | nil => exact keepsLast_ok rfl
  | cons pdu rest =>
      rw [hport] at hno
      cases pdu with
      | event evt =>
          cases htaken : rxEvent { s with ipaPt := rest } evt btsRole with
          | none =>
              simp only [htaken]
              exact keepsLast_ok rfl
          | some x =>
              have hkeep : KeepsLast { s with ipaPt := rest } x := rxEvent_keepsLast htaken
              simp only [htaken]
              exact hkeep
      | ud rxRsl =>
          have hno' : btsRole = true → activationOf rxRsl = none := by
            rintro rfl
            exact hno rfl
          cases htaken : rxRslUd { s with ipaPt := rest } rxRsl btsRole with
          | none =>
              simp only [htaken]
              exact keepsLast_ok rfl
          | some x =>
              have hkeep : KeepsLast { s with ipaPt := rest } x := rxRslUd_keepsLast hno' htaken
              simp only [htaken]
              exact hkeep

variable [DecidableEq Comp]

/-- **ROUNDS THAT TAKE NO CHANNEL ACTIVATION** leave the table. -/
theorem mainStep_keepsLast {e : Event Comp ChanNr Body}
    (hno : btsRole = true → activationTaken btsRole s e = none) :
    KeepsLast s (mainStep btsRole s e) := by
  have htx : ∀ streamId (rsl : RslMessage ChanNr Body),
      KeepsLast s (txIpa s btsRole streamId rsl) := by
    intro streamId rsl
    rw [txIpa]
    split
    · exact keepsLast_ok rfl
    · exact keepsLast_map (fun _ _ => rfl)
  cases e with
  | arrive pdu => exact keepsLast_ok rfl
  | rxIpa => exact rxIpa_keepsLast hno
  | clientChanRqd client ra fn =>
      refine keepsLast_bind (fun table => ?_)
      cases btsRole with
      | false => exact keepsLast_ok rfl
      | true =>
          cases fn with
          | some fn => exact keepsLast_ok rfl
          | none => exact keepsLast_error _
  | clientMsg client rsl =>
      refine keepsLast_bind (fun cid => ?_)
      cases (s.connectionTable cid).streamId with
      | some streamId => exact htx streamId rsl
      | none => exact keepsLast_error _
  | unitdata ud => exact htx ud.streamId ud.rsl
  | register trxNr chanNr hdlr => exact keepsLast_map (fun _ _ => rfl)
  | unregister trxNr chanNr hdlr => exact keepsLast_map (fun _ _ => rfl)
  | suspend suspend client => exact keepsLast_ok rfl
  | waitQueue enable client =>
      rw [mainStep.eq_def]
      cases enable <;> cases s.waitQueueEnabled <;> dsimp only
      case false.true => exact keepsLast_map (fun _ _ => rfl)
      all_goals exact keepsLast_ok rfl
  | getLastAct trxNr chanNr client => exact keepsLast_map (fun _ _ => rfl)
  | setAutoChanActAck enable client => exact keepsLast_ok rfl

/-- **A ROUND THAT TAKES ONE** records it, and does nothing else to the table. -/
theorem mainStep_records {e : Event Comp ChanNr Body} {a : Activation ChanNr Body}
    (h : activationTaken true s e = some a) : ∃ f : LastActTable n ChanNr Body →
      Next n Comp ChanNr Body, (∀ l, (f l).1.lastActTable = l)
        ∧ mainStep true s e
          = (fStoreLastActData s.lastActTable a.trxNr a.chanNr a.chanAct).map f := by
  unfold activationTaken at h
  split at h
  · split at h
    · next rxRsl rest hport =>
        obtain ⟨htaken, outs, hstore⟩ := rxChanActiv_eq (s := { s with ipaPt := rest }) h
        refine ⟨fun l => ({ s with ipaPt := rest, lastActTable := l }, outs), fun _ => rfl, ?_⟩
        rw [mainStep, rxIpa, hport]
        dsimp only
        rw [htaken]
        exact hstore
    · exact nomatch h
  · exact nomatch h

/-- **THE INVARIANT**, as a BTS. -/
theorem recorded_of_run {acts : List (Activation ChanNr Body)} (h : LastActRun true s acts) :
    Recorded acts s.lastActTable := by
  induction h with
  | init => exact recorded_init
  | @round s s' acts e outs _ hstep ih =>
      cases htaken : activationTaken true s e with
      | none =>
          have hkeep := mainStep_keepsLast (fun _ => htaken) _ hstep
          rw [Option.toList_none, List.append_nil, hkeep]
          exact ih
      | some a =>
          obtain ⟨f, hf, heq⟩ := mainStep_records htaken
          rw [heq] at hstep
          obtain ⟨l, hl, hfl⟩ := map_ok hstep
          have htable : s'.lastActTable = l := by rw [← hf l, hfl]
          rw [htable]
          rcases ih.store a with ⟨l', hl', hrecorded, -⟩ | ⟨herror, -⟩
          · rw [hl'] at hl
            exact Except.ok.inj hl ▸ hrecorded
          · rw [herror] at hl
            exact nomatch hl

/-- As a BSC, the table stays empty. -/
theorem lastActTable_of_run {acts : List (Activation ChanNr Body)}
    (h : LastActRun false s acts) :
    Recorded ([] : List (Activation ChanNr Body)) s.lastActTable := by
  induction h with
  | init => exact recorded_init
  | round _ hstep ih =>
      have hkeep := mainStep_keepsLast (fun hbts : false = true => nomatch hbts) _ hstep
      rw [hkeep]
      exact ih

end Rounds

-- ── The record ───────────────────────────────────────────────────────────────

/-- **THE LAST ACTIVATION.**  In every run of a BTS a CHANNEL ACTIVATION is
    recorded as long as the pairs are no more than the entries, and the lookup
    gives the latest of the pair; one that is recorded leaves what the lookup
    gives of all other pairs.  A BSC records none. -/
theorem last_activation {n : Nat} {Comp ChanNr Body : Type} [DecidableEq Comp]
    [DecidableEq ChanNr] (s : State n Comp ChanNr Body) (acts : List (Activation ChanNr Body)) :
    (LastActRun true s acts →
      (∀ trxNr chanNr, fLookupLastAct s.lastActTable trxNr chanNr
        = lookedUp (lastActivation acts trxNr chanNr))
      ∧ ∀ e a, activationTaken true s e = some a →
        ((∃ r, mainStep true s e = .ok r) ↔ pairsOf (acts ++ [a]) ≤ n)
        ∧ ∀ s' outs, mainStep true s e = .ok (s', outs) →
          fLookupLastAct s'.lastActTable a.trxNr a.chanNr = .ok a.chanAct
          ∧ ∀ trxNr chanNr, (trxNr, chanNr) ≠ a.pair →
            fLookupLastAct s'.lastActTable trxNr chanNr
              = fLookupLastAct s.lastActTable trxNr chanNr)
    ∧ (LastActRun false s acts → ∀ trxNr chanNr,
        fLookupLastAct s.lastActTable trxNr chanNr
          = .error (.ttcnError "No LastActTable entry found for TRX ")) := by
  constructor
  · intro hrun
    have hrecorded := recorded_of_run hrun
    refine ⟨hrecorded.lookup, fun e a htaken => ⟨?_, fun s' outs hstep => ?_⟩⟩
    · obtain ⟨f, -, heq⟩ := mainStep_records htaken
      rw [heq]
      rcases hrecorded.store a with ⟨l, hl, -, hfits⟩ | ⟨herror, hfull⟩
      · rw [hl]
        exact iff_of_true ⟨f l, rfl⟩ hfits
      · rw [herror]
        exact iff_of_false (fun ⟨r, hr⟩ => nomatch hr) (Nat.not_le_of_lt hfull)
    · have hrecorded' : Recorded (acts ++ [a]) s'.lastActTable := by
        have hnext := recorded_of_run (hrun.round hstep)
        rw [htaken] at hnext
        exact hnext
      constructor
      · have hpair : (a.trxNr, a.chanNr) = a.pair := rfl
        rw [hrecorded'.lookup, lastActivation_append, if_pos hpair]
        rfl
      · intro trxNr chanNr hne
        rw [hrecorded'.lookup, hrecorded.lookup, lastActivation_append, if_neg hne]
  · intro hrun trxNr chanNr
    rw [(lastActTable_of_run hrun).lookup]
    rfl

section Examples

/-- Channel 5 of the first transceiver is activated. -/
def chanActiv (body : Nat) : AspRslUnitdata (RslMessage Nat Nat) where
  connId := none
  streamId := .rslTrx0
  rsl := { kind := .chanActiv, chanNr := some 5, body := body }

/-- An activation of the channel of the runs. -/
def chanActivation (body : Nat) : Activation Nat Nat := ⟨0, 5, (chanActiv body).rsl⟩

/-- The second activation of the channel is the one that is looked up, and
    another channel has none. -/
theorem last_activation_twice : ∃ s : State tableSize Nat Nat Nat,
    LastActRun true s [chanActivation 1, chanActivation 2]
      ∧ fLookupLastAct s.lastActTable 0 5 = .ok (chanActiv 2).rsl
      ∧ fLookupLastAct s.lastActTable 0 6
        = .error (.ttcnError "No LastActTable entry found for TRX ") := by
  have hinit : LastActRun true (State.init : State tableSize Nat Nat Nat) [] := .init
  have harrive := hinit.round (e := .arrive (.ud (chanActiv 1))) rfl
  have hfirst := harrive.round (e := .rxIpa) rfl
  have hagain := hfirst.round (e := .arrive (.ud (chanActiv 2))) rfl
  have hrun := hagain.round (e := .rxIpa) rfl
  have hlookup := ((last_activation _ _).1 hrun).1
  exact ⟨_, hrun, hlookup 0 5, hlookup 0 6⟩

/-- **A BSC RECORDS NONE**: the client of the channel gets the activation, and
    the lookup finds nothing. -/
theorem last_activation_bsc : ¬ ∀ (btsRole : Bool) (s : State tableSize Nat Nat Nat) acts,
    LastActRun btsRole s acts → pairsOf acts ≤ tableSize → ∀ trxNr chanNr,
      fLookupLastAct s.lastActTable trxNr chanNr
        = lookedUp (lastActivation acts trxNr chanNr) := by
  intro h
  have hinit : LastActRun false (State.init : State tableSize Nat Nat Nat) [] := .init
  have hregister := hinit.round (e := .register 0 5 7) rfl
  have harrive := hregister.round (e := .arrive (.ud (chanActiv 1))) rfl
  have hrun := harrive.round (e := .rxIpa) rfl
  exact nomatch h false _ _ hrun (by decide) 0 5

end Examples

end OsmoRsl
