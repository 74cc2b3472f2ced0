import Mathlib.Algebra.GroupWithZero.Nat
import Mathlib.Data.List.Basic
import Mathlib.Tactic.Common

/-! # Reflected cyclic redundancy checks

    The register of a reflected CRC is shifted down, and its bits are sent from
    the lowest up.  Everything rests on two facts about a run of the register:
    it is linear (`run_xor`), and a register that is fed its own bits runs empty
    (`run_lowBits`).

    From them follow the walk with a table (`run_chunk`) and the detection of
    bursts: two codewords that differ only in as many consecutive bits as the
    register has are the same (`codeword_unique`). -/

namespace ReflectedCrc

variable {w : Nat}

-- ── The register ─────────────────────────────────────────────────────────────

/-- One bit of the message. -/
def step (poly reg : BitVec w) (bit : Bool) : BitVec w :=
  if reg.getLsbD 0 ^^ bit then (reg >>> 1) ^^^ poly else reg >>> 1

/-- The bits of a message, the first one first. -/
def run (poly reg : BitVec w) (msg : List Bool) : BitVec w := msg.foldl (step poly) reg

/-- The `n` low bits of a word, the lowest one first. -/
def lowBits (n : Nat) (x : BitVec w) : List Bool := (List.range n).map x.getLsbD

/-- Where two messages of one length differ. -/
def xorBits (a b : List Bool) : List Bool := List.zipWith (· ^^ ·) a b

variable {poly : BitVec w}

@[simp] theorem run_nil (reg : BitVec w) : run poly reg [] = reg := rfl

theorem run_cons (reg : BitVec w) (b : Bool) (msg : List Bool) :
    run poly reg (b :: msg) = run poly (step poly reg b) msg := rfl

/-- A message is run part by part. -/
theorem run_append (reg : BitVec w) (msg msg' : List Bool) :
    run poly reg (msg ++ msg') = run poly (run poly reg msg) msg' := List.foldl_append

@[simp] theorem lowBits_length (n : Nat) (x : BitVec w) : (lowBits n x).length = n := by
  rw [lowBits, List.length_map, List.length_range]

/-- The lowest bit comes first. -/
theorem lowBits_succ (n : Nat) (x : BitVec w) :
    lowBits (n + 1) x = x.getLsbD 0 :: lowBits n (x >>> 1) := by
  rw [lowBits, List.range_succ_eq_map, List.map_cons, List.map_map, lowBits]
  refine congrArg _ (List.map_congr_left (fun i _ => ?_))
  rw [BitVec.getLsbD_ushiftRight, Nat.add_comm]
  rfl

theorem lowBits_setWidth {n v : Nat} (x : BitVec w) (h : n ≤ v) :
    lowBits n (x.setWidth v) = lowBits n x := by
  refine List.map_congr_left (fun i hi => ?_)
  have hi' := List.mem_range.mp hi
  rw [BitVec.getLsbD_setWidth, decide_eq_true (Nat.lt_of_lt_of_le hi' h), Bool.true_and]

/-- The low bits of a word make the word. -/
theorem lowBits_inj {x y : BitVec w} (h : lowBits w x = lowBits w y) : x = y := by
  refine BitVec.eq_of_getLsbD_eq (fun i hi => ?_)
  have hbit : (lowBits w x)[i]? = (lowBits w y)[i]? := by rw [h]
  rw [lowBits, lowBits, List.getElem?_map, List.getElem?_map, List.getElem?_range hi] at hbit
  exact Option.some.inj hbit

/-- The low bits part by part. -/
theorem lowBits_add (m n : Nat) (x : BitVec w) :
    lowBits (m + n) x = lowBits m x ++ lowBits n (x >>> m) := by
  induction m generalizing x with
  | zero => rw [Nat.zero_add, BitVec.ushiftRight_zero]; rfl
  | succ m ih =>
      rw [Nat.succ_add, lowBits_succ, lowBits_succ, ih, ← BitVec.shiftRight_add, Nat.add_comm 1 m]
      rfl

/-- The bits of a sum are the sums of the bits. -/
theorem lowBits_xor (n : Nat) (x y : BitVec w) :
    lowBits n (x ^^^ y) = xorBits (lowBits n x) (lowBits n y) := by
  induction n generalizing x y with
  | zero => rfl
  | succ n ih =>
      rw [lowBits_succ, lowBits_succ, lowBits_succ, BitVec.ushiftRight_xor_distrib, ih,
          BitVec.getLsbD_xor]
      rfl

/-- What is added twice does nothing. -/
theorem xorBits_cancel {a : List Bool} : ∀ {b : List Bool}, a.length = b.length →
    xorBits a (xorBits a b) = b := by
  induction a with
  | nil =>
      intro b h
      rw [List.length_eq_zero_iff.mp h.symm]
      rfl
  | cons c a ih =>
      intro b h
      cases b with
      | nil => exact nomatch h
      | cons d b =>
          have hd : (c ^^ (c ^^ d)) = d := by cases c <;> cases d <;> rfl
          show (c ^^ (c ^^ d)) :: xorBits a (xorBits a b) = d :: b
          rw [hd, ih (Nat.succ.inj h)]

-- ── Linearity ────────────────────────────────────────────────────────────────

/-- **A STEP IS LINEAR**. -/
theorem step_xor (a b : BitVec w) (x y : Bool) :
    step poly (a ^^^ b) (x ^^ y) = step poly a x ^^^ step poly b y := by
  have hsplit : ((a ^^^ b).getLsbD 0 ^^ (x ^^ y))
      = ((a.getLsbD 0 ^^ x) ^^ (b.getLsbD 0 ^^ y)) := by
    rw [BitVec.getLsbD_xor]
    cases a.getLsbD 0 <;> cases b.getLsbD 0 <;> cases x <;> cases y <;> rfl
  rw [step, hsplit, step, step, BitVec.ushiftRight_xor_distrib]
  cases a.getLsbD 0 ^^ x <;> cases b.getLsbD 0 ^^ y
  · rfl
  · exact BitVec.xor_assoc _ _ _
  · show (a >>> 1 ^^^ b >>> 1) ^^^ poly = (a >>> 1 ^^^ poly) ^^^ b >>> 1
    rw [BitVec.xor_assoc, BitVec.xor_comm (b >>> 1), ← BitVec.xor_assoc]
  · show a >>> 1 ^^^ b >>> 1 = (a >>> 1 ^^^ poly) ^^^ (b >>> 1 ^^^ poly)
    rw [BitVec.xor_comm (b >>> 1) poly, BitVec.xor_assoc, ← BitVec.xor_assoc poly poly,
        BitVec.xor_self, BitVec.zero_xor]

/-- **LINEARITY**: the runs of two messages of one length add up. -/
theorem run_xor : ∀ {msg msg' : List Bool} (a b : BitVec w), msg.length = msg'.length →
    run poly (a ^^^ b) (xorBits msg msg') = run poly a msg ^^^ run poly b msg' := by
  intro msg
  induction msg with
  | nil =>
      intro msg' a b hlen
      rw [List.length_eq_zero_iff.mp hlen.symm]
      rfl
  | cons x msg ih =>
      intro msg' a b hlen
      cases msg' with
      | nil => exact nomatch hlen
      | cons y msg' =>
          rw [xorBits, List.zipWith_cons_cons, run_cons, run_cons, run_cons, step_xor]
          exact ih _ _ (Nat.succ.inj hlen)

/-- **A REGISTER FED ITS OWN BITS** is shifted out. -/
theorem run_lowBits (n : Nat) (x : BitVec w) : run poly x (lowBits n x) = x >>> n := by
  induction n generalizing x with
  | zero => exact (BitVec.ushiftRight_zero x).symm
  | succ n ih =>
      have hstep : step poly x (x.getLsbD 0) = x >>> 1 := by
        rw [step, Bool.xor_self]
        exact if_neg Bool.false_ne_true
      rw [lowBits_succ, run_cons, hstep, ih, ← BitVec.shiftRight_add, Nat.add_comm]

/-- **A CHUNK AT A TIME**: the low bits of the register and those of the message
    go through the register of the table, the rest is shifted. -/
theorem run_chunk {n : Nat} {reg x : BitVec w} {msg : List Bool}
    (hx : lowBits n x = xorBits (lowBits n reg) msg) (hlen : msg.length = n)
    (hhigh : x >>> n = 0#w) :
    run poly reg msg = (reg >>> n) ^^^ run poly x (lowBits n 0#w) := by
  have hreg : reg = (reg ^^^ x) ^^^ x := by
    rw [BitVec.xor_assoc, BitVec.xor_self, BitVec.xor_zero]
  have hmsg : msg = xorBits (lowBits n (reg ^^^ x)) (lowBits n 0#w) := by
    rw [← lowBits_xor, BitVec.xor_zero, lowBits_xor, hx]
    exact (xorBits_cancel ((lowBits_length n reg).trans hlen.symm)).symm
  have hshift : (reg ^^^ x) >>> n = reg >>> n := by
    rw [BitVec.ushiftRight_xor_distrib, hhigh]
    exact BitVec.xor_zero
  calc run poly reg msg
      = run poly ((reg ^^^ x) ^^^ x)
          (xorBits (lowBits n (reg ^^^ x)) (lowBits n 0#w)) := by rw [← hreg, ← hmsg]
    _ = run poly (reg ^^^ x) (lowBits n (reg ^^^ x)) ^^^ run poly x (lowBits n 0#w) :=
        run_xor _ _ ((lowBits_length n _).trans (lowBits_length n _).symm)
    _ = (reg >>> n) ^^^ run poly x (lowBits n 0#w) := by rw [run_lowBits, hshift]

-- ── Codewords and bursts ─────────────────────────────────────────────────────

/-- A message and its check bits: the complement of the register. -/
def codeword (poly init : BitVec w) (msg : List Bool) : List Bool :=
  msg ++ lowBits w (~~~ run poly init msg)

/-- Two messages agree but for `n` consecutive bits. -/
def WithinBurst (n : Nat) (a b : List Bool) : Prop :=
  ∃ k, ∀ i, i < k ∨ k + n ≤ i → a[i]? = b[i]?

/-- Zeros leave a register of zeros alone. -/
theorem run_zero {zeros : List Bool} (h : ∀ b ∈ zeros, b = false) :
    run poly 0#w zeros = 0#w := by
  induction zeros with
  | nil => rfl
  | cons b zeros ih =>
      obtain ⟨rfl, htail⟩ := List.forall_mem_cons.mp h
      have hstep : step poly 0#w false = 0#w := by
        rw [step, BitVec.getLsbD_zero]
        exact (if_neg Bool.false_ne_true).trans BitVec.zero_ushiftRight
      rw [run_cons, hstep]
      exact ih htail

/-- **BACK FROM THE EMPTY REGISTER**: it was fed its own bits, for as long as it
    is. -/
theorem lowBits_of_run_zero (hmsb : poly.msb = true) : ∀ {msg : List Bool} {reg : BitVec w},
    msg.length ≤ w → run poly reg msg = 0#w →
    msg = lowBits msg.length reg ∧ reg.toNat < 2 ^ msg.length := by
  intro msg
  induction msg with
  | nil =>
      intro reg _ h
      rw [run_nil] at h
      rw [h]
      exact ⟨rfl, Nat.one_pos⟩
  | cons b msg ih =>
      intro reg hlen h
      have hlen' : msg.length < w := hlen
      obtain ⟨hmsg, hlt⟩ := ih (Nat.le_of_lt hlen') h
      have hsmall : (step poly reg b).toNat < 2 ^ (w - 1) :=
        Nat.lt_of_lt_of_le hlt (Nat.pow_le_pow_right (by decide) (by omega))
      have hnot : (reg.getLsbD 0 ^^ b) = false := by
        by_contra hset
        have htop : (step poly reg b).msb = true := by
          rw [step, if_pos (eq_true_of_ne_false hset), BitVec.msb_xor, hmsb,
              BitVec.msb_ushiftRight]
          rfl
        have hbig := BitVec.le_toNat_of_msb_true htop
        omega
      have hbit : reg.getLsbD 0 = b := by
        revert hnot
        cases reg.getLsbD 0 <;> cases b <;> decide
      have hstep : step poly reg b = reg >>> 1 := by
        rw [step, hnot]
        exact if_neg Bool.false_ne_true
      rw [hstep] at hmsg hlt
      refine ⟨?_, ?_⟩
      · rw [List.length_cons, lowBits_succ, hbit, ← hmsg]
      · rw [BitVec.toNat_ushiftRight, Nat.shiftRight_eq_div_pow] at hlt
        rw [List.length_cons, Nat.pow_succ]
        omega

/-- Bits of an empty register are not set. -/
theorem lowBits_zero {n : Nat} : ∀ b ∈ lowBits n 0#w, b = false := by
  intro b hb
  obtain ⟨i, -, rfl⟩ := List.mem_map.mp hb
  exact BitVec.getLsbD_zero

/-- Zeros behind a register that is not empty do not empty it. -/
theorem eq_zero_of_run_zeros (hmsb : poly.msb = true) {zeros : List Bool} :
    ∀ {reg : BitVec w}, (∀ b ∈ zeros, b = false) → run poly reg zeros = 0#w → reg = 0#w := by
  have hw : 0 < w := by
    rcases Nat.eq_zero_or_pos w with rfl | hpos
    · rw [BitVec.eq_nil poly] at hmsb
      exact nomatch hmsb
    · exact hpos
  induction zeros with
  | nil => exact fun _ h => h
  | cons b zeros ih =>
      intro reg hz hrun
      obtain ⟨rfl, htail⟩ := List.forall_mem_cons.mp hz
      have hnext : run poly reg [false] = 0#w := ih htail hrun
      have hshort : [false].length ≤ w := hw
      obtain ⟨hlow, hlt⟩ := lowBits_of_run_zero hmsb hshort hnext
      have hbit : reg.toNat.testBit 0 = false := (List.cons.inj hlow).1.symm
      have hlt2 : reg.toNat < 2 := hlt
      refine BitVec.eq_of_toNat_eq ?_
      rw [Nat.testBit_zero] at hbit
      have hodd := of_decide_eq_false hbit
      rw [BitVec.toNat_ofNat, Nat.zero_mod]
      omega

/-- **A SHORT BURST** does not leave the register empty. -/
theorem burst_zero (hmsb : poly.msb = true) {pre mid post : List Bool}
    (hpre : ∀ b ∈ pre, b = false) (hpost : ∀ b ∈ post, b = false) (hmid : mid.length ≤ w)
    (h : run poly 0#w (pre ++ (mid ++ post)) = 0#w) : ∀ b ∈ mid, b = false := by
  rw [run_append, run_zero hpre, run_append] at h
  have hempty := eq_zero_of_run_zeros hmsb hpost h
  rw [(lowBits_of_run_zero hmsb hmid hempty).1]
  exact lowBits_zero

theorem xorBits_self (a : List Bool) : ∀ b ∈ xorBits a a, b = false := by
  induction a with
  | nil => exact fun _ h => nomatch h
  | cons c a ih => exact List.forall_mem_cons.mpr ⟨Bool.xor_self c, ih⟩

/-- Messages whose sum is zero are the same. -/
theorem eq_of_xorBits {a : List Bool} : ∀ {b : List Bool}, a.length = b.length →
    (∀ c ∈ xorBits a b, c = false) → a = b := by
  induction a with
  | nil => exact fun h _ => (List.length_eq_zero_iff.mp h.symm).symm
  | cons c a ih =>
      intro b hlen h
      cases b with
      | nil => exact nomatch hlen
      | cons d b =>
          obtain ⟨hhead, htail⟩ := List.forall_mem_cons.mp h
          have hcd : c = d := by
            revert hhead
            cases c <;> cases d <;> decide
          rw [hcd, ih (Nat.succ.inj hlen) htail]

/-- The register is linear, and runs empty over the difference of two
    codewords. -/
theorem run_xor_codewords {init : BitVec w} {msg msg' : List Bool}
    (hlen : msg.length = msg'.length) :
    run poly 0#w (xorBits (codeword poly init msg) (codeword poly init msg')) = 0#w := by
  have hsplit : xorBits (codeword poly init msg) (codeword poly init msg')
      = xorBits msg msg' ++ lowBits w (run poly init msg ^^^ run poly init msg') := by
    have hnot : ∀ x y : BitVec w, ~~~ x ^^^ ~~~ y = x ^^^ y := by
      intro x y
      rw [← BitVec.not_xor_left, ← BitVec.not_xor_right, BitVec.not_not]
    rw [codeword, codeword, xorBits, List.zipWith_append hlen, ← hnot, lowBits_xor]
    rfl
  have hmsg : run poly 0#w (xorBits msg msg')
      = run poly init msg ^^^ run poly init msg' := by
    rw [← run_xor init init hlen, BitVec.xor_self]
  rw [hsplit, run_append, hmsg, run_lowBits]
  exact BitVec.ushiftRight_eq_zero (Nat.le_refl w)

/-- **BURSTS ARE DETECTED**: two codewords of one length that agree but for as
    many consecutive bits as the register has are the same. -/
theorem codeword_unique (hmsb : poly.msb = true) {init : BitVec w} {msg msg' : List Bool}
    (hlen : msg.length = msg'.length)
    (hburst : WithinBurst w (codeword poly init msg) (codeword poly init msg')) :
    codeword poly init msg = codeword poly init msg' := by
  obtain ⟨k, hburst⟩ := hburst
  have hrun := @run_xor_codewords _ poly init _ _ hlen
  have hlenCw : (codeword poly init msg).length = (codeword poly init msg').length := by
    rw [codeword, codeword, List.length_append, List.length_append, hlen, lowBits_length,
        lowBits_length]
  generalize codeword poly init msg = a at *
  generalize codeword poly init msg' = b at *
  have hpre : a.take k = b.take k := by
    refine List.ext_getElem? (fun i => ?_)
    rw [List.getElem?_take, List.getElem?_take]
    split
    · exact hburst i (Or.inl ‹_›)
    · rfl
  have hpost : (a.drop k).drop w = (b.drop k).drop w := by
    refine List.ext_getElem? (fun i => ?_)
    rw [List.drop_drop, List.drop_drop, List.getElem?_drop, List.getElem?_drop]
    exact hburst _ (Or.inr (Nat.le_add_right _ _))
  have hparts : xorBits a b = xorBits (a.take k) (b.take k)
      ++ (xorBits ((a.drop k).take w) ((b.drop k).take w)
        ++ xorBits ((a.drop k).drop w) ((b.drop k).drop w)) := by
    simp only [xorBits, ← List.take_zipWith, ← List.drop_zipWith, List.take_append_drop]
  have hmidLen : (xorBits ((a.drop k).take w) ((b.drop k).take w)).length ≤ w := by
    rw [xorBits, List.length_zipWith, List.length_take]
    omega
  rw [hparts, hpre, hpost] at hrun
  have hmid := burst_zero hmsb (xorBits_self _) (xorBits_self _) hmidLen hrun
  have hmidEq : (a.drop k).take w = (b.drop k).take w := by
    refine eq_of_xorBits ?_ hmid
    simp only [List.length_take, List.length_drop, hlenCw]
  calc a = a.take k ++ ((a.drop k).take w ++ (a.drop k).drop w) := by
        rw [List.take_append_drop, List.take_append_drop]
    _ = b.take k ++ ((b.drop k).take w ++ (b.drop k).drop w) := by rw [hpre, hmidEq, hpost]
    _ = b := by rw [List.take_append_drop, List.take_append_drop]

/-- A change of some consecutive bits. -/
theorem withinBurst_append {pre mid mid' post : List Bool} {n : Nat}
    (hlen : mid.length = mid'.length) (hn : mid.length ≤ n) :
    WithinBurst n (pre ++ (mid ++ post)) (pre ++ (mid' ++ post)) := by
  refine ⟨pre.length, fun i hi => ?_⟩
  rcases hi with hlt | hge
  · rw [List.getElem?_append_left hlt, List.getElem?_append_left hlt]
  · rw [List.getElem?_append_right (by omega), List.getElem?_append_right (by omega),
        List.getElem?_append_right (by omega), List.getElem?_append_right (by omega), hlen]

end ReflectedCrc
