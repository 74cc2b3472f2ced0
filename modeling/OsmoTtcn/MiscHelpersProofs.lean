import OsmoTtcn.NumberTextProofs
import OsmoTtcn.TextPiecesProofs
import OsmoTtcn.WhileLoopProofs

/-! # The helpers for texts

    `Misc_Helpers` counts, cuts and replaces by a search for the next place of a
    pattern.  The search, `f_strstr`, is not of the repository; `Strstr` is what
    is known of it.

    `text_functions` says what the helpers return: the places, the pieces that
    are not empty, the pieces with something else between them. -/

namespace OsmoMisc

open OsmoTitan WhileLoop TextPieces

/-- What ends a string of C. -/
def nul : Char := Char.ofNat 0

/-- `substr` of a charstring. -/
def substrText (s : Charstring) (index n : Int) : Except Fault Charstring :=
  if 0 ≤ index ∧ 0 ≤ n ∧ index + n ≤ s.length then
    .ok ((s.drop index.toNat).take n.toNat)
  else .error .badIndex

-- ── Functions ────────────────────────────────────────────────────────────────

/-- `f_str_startswith` -/
def fStrStartswith (str token : Charstring) : Except Fault Bool :=
  if str.length < token.length then .ok false
  else (substrText str 0 token.length).map fun strStart => decide (strStart = token)

/-- `f_str_endswith` -/
def fStrEndswith (str token : Charstring) : Except Fault Bool :=
  if str.length < token.length then .ok false
  else (substrText str (str.length - token.length) token.length).map fun strEnd =>
    decide (strEnd = token)

section Search

variable (fStrstr : Charstring → Charstring → Int → Int)

/-- The loop of `f_strstr_count`, for a number of rounds. -/
def strstrCountFrom (str subStr : Charstring) : Nat → Int → Int → Except Fault Int
  | 0, _, _ => .error .outOfFuel
  | n + 1, pos, count =>
      let place := fStrstr str subStr pos
      if place < 0 then .ok count
      else strstrCountFrom str subStr n (place + 1) (count + 1)

/-- Return a count of how many times sub_str occurs in str. -/
def fStrstrCount (str subStr : Charstring) : Except Fault Int :=
  strstrCountFrom fStrstr str subStr (str.length + 1) 0 0

/-- `f_str_replace`, for a depth of the recursion. -/
def strReplaceUpTo (find repl : Charstring) : Nat → Charstring → Except Fault Charstring
  | 0, _ => .error .outOfFuel
  | n + 1, str =>
      let pos := fStrstr str find 0
      if pos < 0 then .ok str
      else
        (substrText str 0 pos).bind fun before =>
        let suffixPos := pos + find.length
        (substrText str suffixPos (str.length - suffixPos)).bind fun suffix =>
        (strReplaceUpTo find repl n suffix).map fun rest => before ++ repl ++ rest

/-- Replace all matches of token "find" with "repl" in "str" -/
def fStrReplace (str find repl : Charstring) : Except Fault Charstring :=
  strReplaceUpTo fStrstr find repl (str.length + 1) str

/-- The position and the parts. -/
abbrev SplitState : Type := Int × List Charstring

/-- The condition of the loop. -/
def splitGoing (str : Charstring) (s : SplitState) : Bool := decide (s.1 < str.length)

/-- The body of the loop: the next part ends at the next delimiter. -/
def splitRound (str delim : Charstring) : SplitState → Except Fault SplitState
  | (pos, parts) =>
      let place := fStrstr str delim pos
      let delimPos : Int := if place < 0 then str.length else place
      if delimPos > pos then
        (substrText str pos (delimPos - pos)).map fun part =>
          (delimPos + delim.length, parts ++ [part])
      else .ok (delimPos + delim.length, parts)

/-- `f_str_split` -/
def fStrSplit (str delim : Charstring) : Except Fault (List Charstring) :=
  match loop (splitGoing str) (splitRound fStrstr str delim) str.length (0, []) with
  | some r => r.map Prod.snd
  | none => .error .outOfFuel

/-- `f_strstr`: the first place at the position or behind it, or a negative
    number. -/
def Strstr : Prop := ∀ (str sub : Charstring) (pos : Nat), nul ∉ str → nul ∉ sub → sub ≠ [] →
  pos ≤ str.length →
    match firstAt sub (str.drop pos) with
    | some i => fStrstr str sub pos = pos + i
    | none => fStrstr str sub pos < 0

end Search

-- ── Parts of a text ──────────────────────────────────────────────────────────

/-- A part that is inside is cut out. -/
theorem substrText_ok {s : Charstring} {index n : Nat} (h : index + n ≤ s.length) :
    substrText s index n = .ok ((s.drop index).take n) :=
  if_pos (by omega)

/-- What is in the middle. -/
theorem substrText_mid (before part behind : Charstring) :
    substrText (before ++ (part ++ behind)) before.length part.length = .ok part := by
  rw [substrText_ok, List.drop_left, List.take_left]
  rw [List.length_append, List.length_append]
  omega

/-- **A PREFIX** is recognised. -/
theorem fStrStartswith_eq (str token : Charstring) :
    fStrStartswith str token = .ok (decide (token <+: str)) := by
  rw [fStrStartswith]
  by_cases hlen : str.length < token.length
  · rw [if_pos hlen, decide_eq_false fun h => Nat.not_le.mpr hlen h.length_le]
  · have hsub : substrText str 0 token.length = .ok (str.take token.length) :=
      if_pos (by omega)
    rw [if_neg hlen, hsub]
    exact congrArg Except.ok
      (decide_eq_decide.mpr (eq_comm.trans List.prefix_iff_eq_take.symm))

/-- **A SUFFIX** is recognised. -/
theorem fStrEndswith_eq (str token : Charstring) :
    fStrEndswith str token = .ok (decide (token <:+ str)) := by
  rw [fStrEndswith]
  by_cases hlen : str.length < token.length
  · rw [if_pos hlen, decide_eq_false fun h => Nat.not_le.mpr hlen h.length_le]
  · have hpos : (str.length : Int) - token.length = (str.length - token.length : Nat) := by omega
    have hend : (str.drop (str.length - token.length)).length = token.length := by
      rw [List.length_drop]
      omega
    rw [if_neg hlen, hpos, substrText_ok (by omega), List.take_of_length_le (Nat.le_of_eq hend)]
    exact congrArg Except.ok
      (decide_eq_decide.mpr (eq_comm.trans List.suffix_iff_eq_drop.symm))

-- ── The loops ────────────────────────────────────────────────────────────────

section Loops

variable {fStrstr : Charstring → Charstring → Int → Int} (hstrstr : Strstr fStrstr)
variable {str delim before : Charstring}

include hstrstr

/-- The first place from a position on is found. -/
theorem strstr_some (before : Charstring) {i : Nat} (hstr : nul ∉ before ++ str)
    (hnul : nul ∉ delim) (hd : delim ≠ []) (h : firstAt delim str = some i) :
    fStrstr (before ++ str) delim before.length = before.length + i := by
  have hfind := hstrstr (before ++ str) delim before.length hstr hnul hd
    (by rw [List.length_append]; omega)
  rw [List.drop_left, h] at hfind
  exact hfind

/-- Where there is none the search fails. -/
theorem strstr_none (before : Charstring) (hstr : nul ∉ before ++ str) (hnul : nul ∉ delim)
    (hd : delim ≠ []) (h : firstAt delim str = none) :
    fStrstr (before ++ str) delim before.length < 0 := by
  have hfind := hstrstr (before ++ str) delim before.length hstr hnul hd
    (by rw [List.length_append]; omega)
  rw [List.drop_left, h] at hfind
  exact hfind

/-- From the position on, every place counts. -/
theorem strstrCountFrom_eq (hnul : nul ∉ delim) (hd : delim ≠ []) :
    ∀ (n : Nat) (before str : Charstring) (count : Int), nul ∉ before ++ str → str.length < n →
      strstrCountFrom fStrstr (before ++ str) delim n before.length count
        = .ok (count + occurrences delim str) := by
  intro n
  induction n with
  | zero => exact fun _ _ _ _ h => absurd h (Nat.not_lt_zero _)
  | succ n ih =>
      intro before str count hstr hn
      rw [strstrCountFrom]
      cases hfirst : firstAt delim str with
      | none =>
          rw [if_pos (strstr_none hstrstr before hstr hnul hd hfirst), occurrences_none hfirst]
          exact congrArg Except.ok (Int.add_zero count).symm
      | some i =>
          have hplace := strstr_some hstrstr before hstr hnul hd hfirst
          have hi : i < str.length := by
            obtain ⟨hwhere, -⟩ := firstAt_some.mp hfirst
            have hlen := congrArg List.length hwhere.split
            have hpos := List.length_pos_of_ne_nil hd
            rw [List.length_append, List.length_append, List.length_take] at hlen
            omega
          -- what is behind the place, and what is in front of it
          have hcut : before ++ str = (before ++ str.take (i + 1)) ++ str.drop (i + 1) := by
            rw [List.append_assoc, List.take_append_drop]
          have hlen : (before ++ str.take (i + 1)).length = before.length + (i + 1) := by
            rw [List.length_append, List.length_take]
            omega
          have hrest := ih (before ++ str.take (i + 1)) (str.drop (i + 1)) (count + 1)
            (hcut ▸ hstr) (by rw [List.length_drop]; omega)
          rw [← hcut, hlen] at hrest
          rw [hplace, if_neg (by omega), occurrences_some hd hfirst]
          push_cast at hrest ⊢
          rw [Int.add_assoc, hrest, Int.add_assoc]

/-- **COUNTING**: `f_strstr_count` counts every place. -/
theorem fStrstrCount_eq (hstr : nul ∉ str) (hnul : nul ∉ delim) (hd : delim ≠ []) :
    fStrstrCount fStrstr str delim = .ok (occurrences delim str) := by
  have h := strstrCountFrom_eq hstrstr hnul hd (str.length + 1) [] str 0 hstr (Nat.lt_succ_self _)
  rw [Int.zero_add] at h
  exact h

/-- **REPLACING**: the pieces stay as they are. -/
theorem strReplaceUpTo_eq (repl : Charstring) (hnul : nul ∉ delim) (hd : delim ≠ [])
    {ps : List Charstring} (hps : Pieces delim str ps) :
    ∀ n, nul ∉ str → str.length < n →
      strReplaceUpTo fStrstr delim repl n str = .ok (repl.intercalate ps) := by
  induction hps with
  | last hnone =>
      intro n hstr hn
      obtain ⟨n, rfl⟩ := Nat.exists_eq_add_one_of_ne_zero (Nat.ne_of_gt (Nat.zero_lt_of_lt hn))
      have hplace := strstr_none hstrstr [] hstr hnul hd (firstAt_none.mpr hnone)
      rw [strReplaceUpTo]
      dsimp only
      rw [List.intercalate_singleton]
      exact if_pos hplace
  | @cut p s ps hclean hps ih =>
      intro n hstr hn
      obtain ⟨n, rfl⟩ := Nat.exists_eq_add_one_of_ne_zero (Nat.ne_of_gt (Nat.zero_lt_of_lt hn))
      have hpos := List.length_pos_of_ne_nil hd
      have hplace : fStrstr (p ++ delim ++ s) delim 0 = p.length := by
        have h := strstr_some hstrstr [] hstr hnul hd (hclean.firstAt s)
        simpa using h
      have hbefore : substrText (p ++ delim ++ s) 0 p.length = .ok p := by
        have h := substrText_mid [] p (delim ++ s)
        rw [List.nil_append, ← List.append_assoc] at h
        exact h
      have hlen : (p ++ delim ++ s).length = p.length + delim.length + s.length := by
        rw [List.length_append, List.length_append]
      have hsuffix : substrText (p ++ delim ++ s) ((p.length : Int) + delim.length)
          ((p ++ delim ++ s).length - ((p.length : Int) + delim.length)) = .ok s := by
        have h := substrText_mid (p ++ delim) s []
        rw [List.append_nil, List.length_append] at h
        rw [hlen, ← h]
        congr 1
        omega
      have hrest := ih n (fun hmem => hstr (List.mem_append_right _ hmem)) (by omega)
      rw [strReplaceUpTo]
      dsimp only
      rw [hplace, if_neg (by omega), hbefore]
      show (substrText _ _ _).bind _ = _
      rw [hsuffix]
      show (strReplaceUpTo _ _ _ _ _).map _ = _
      rw [hrest, List.intercalate_cons_of_ne_nil hps.ne_nil]
      rfl

/-- Replacing puts the other text between the parts. -/
theorem fStrReplace_eq (repl : Charstring) (hstr : nul ∉ str) (hnul : nul ∉ delim)
    (hd : delim ≠ []) {ps : List Charstring} (hps : Pieces delim str ps) :
    fStrReplace fStrstr str delim repl = .ok (repl.intercalate ps) :=
  strReplaceUpTo_eq hstrstr repl hnul hd hps _ hstr (Nat.lt_succ_self _)

omit hstrstr in
/-- One round at a piece that goes on to the place `stop`. -/
theorem splitRound_eq (fStrstr : Charstring → Charstring → Int → Int)
    (before part behind delim : Charstring) {stop : Int} (parts : List Charstring)
    (hstop : stop = before.length + part.length)
    (hplace : (if fStrstr (before ++ (part ++ behind)) delim before.length < 0 then
        ((before ++ (part ++ behind)).length : Int)
      else fStrstr (before ++ (part ++ behind)) delim before.length) = stop) :
    splitRound fStrstr (before ++ (part ++ behind)) delim (before.length, parts)
      = .ok (stop + delim.length, parts ++ [part].filter fun p => decide (p ≠ [])) := by
  rw [splitRound, hplace]
  by_cases hpart : part = []
  · rw [if_neg (by rw [hstop, hpart]; exact Int.lt_irrefl _), hpart]
    exact congrArg (fun ps => Except.ok (stop + (delim.length : Int), ps)) (List.append_nil _).symm
  · have hpos := List.length_pos_of_ne_nil hpart
    have hsub : stop - before.length = part.length := by omega
    have hkeep : [part].filter (fun p => decide (p ≠ [])) = [part] :=
      List.filter_cons_of_pos (decide_eq_true hpart)
    rw [if_pos (by omega), hsub, substrText_mid, hkeep]
    rfl

/-- **CUTTING**: every piece but the empty ones. -/
theorem splitLoop_eq (hnul : nul ∉ delim) (hd : delim ≠ []) {ps : List Charstring}
    (hps : Pieces delim str ps) : ∀ (n : Nat) (before : Charstring) (parts : List Charstring),
      nul ∉ before ++ str → str.length ≤ n →
      ∃ pos, loop (splitGoing (before ++ str)) (splitRound fStrstr (before ++ str) delim) n
        (before.length, parts)
        = some (.ok (pos, parts ++ ps.filter fun p => decide (p ≠ []))) := by
  have hpos := List.length_pos_of_ne_nil hd
  induction hps with
  | @last str hnone =>
      intro n before parts hstr hn
      by_cases hempty : str = []
      · have hdone : splitGoing (before ++ str) ((before.length : Int), parts) = false := by
          rw [hempty, List.append_nil]
          exact decide_eq_false (Int.lt_irrefl _)
        have hgone : [str].filter (fun p => decide (p ≠ [])) = [] := by
          rw [hempty]
          rfl
        exact ⟨before.length, by rw [loop_done hdone, hgone, List.append_nil]⟩
      · have hlen := List.length_pos_of_ne_nil hempty
        obtain ⟨n, rfl⟩ := Nat.exists_eq_add_one_of_ne_zero (n := n) (by omega)
        have hgoing : splitGoing (before ++ str) ((before.length : Int), parts) = true :=
          decide_eq_true (by rw [List.length_append]; omega)
        have hplace := strstr_none hstrstr before hstr hnul hd (firstAt_none.mpr hnone)
        have hround := splitRound_eq fStrstr before str [] delim parts rfl
          (by rw [List.append_nil, if_pos hplace, List.length_append]; rfl)
        rw [List.append_nil] at hround
        have hdone : splitGoing (before ++ str) ((before.length : Int) + str.length + delim.length,
            parts ++ [str].filter fun p => decide (p ≠ [])) = false :=
          decide_eq_false (by rw [List.length_append]; omega)
        exact ⟨_, by rw [loop_ok hgoing hround, loop_done hdone]⟩
  | @cut p s ps hclean hps ih =>
      intro n before parts hstr hn
      have hlen : (p ++ delim ++ s).length = p.length + delim.length + s.length := by
        rw [List.length_append, List.length_append]
      obtain ⟨n, rfl⟩ := Nat.exists_eq_add_one_of_ne_zero (n := n) (by omega)
      have hgoing :
          splitGoing (before ++ (p ++ delim ++ s)) ((before.length : Int), parts) = true :=
        decide_eq_true (by rw [List.length_append]; omega)
      have hplace := strstr_some hstrstr before hstr hnul hd (hclean.firstAt s)
      have hround := splitRound_eq fStrstr before p (delim ++ s) delim parts rfl
        (by rw [← List.append_assoc p, hplace, if_neg (by omega)])
      rw [← List.append_assoc p] at hround
      -- the round ends behind the delimiter
      have hcut : before ++ (p ++ delim ++ s) = (before ++ p ++ delim) ++ s := by
        rw [List.append_assoc p, List.append_assoc before, List.append_assoc before,
          List.append_assoc p]
      have hnext : ((before.length : Int) + p.length) + delim.length
          = (before ++ p ++ delim).length := by
        rw [List.length_append, List.length_append]
        push_cast
        rfl
      obtain ⟨pos, hrest⟩ := ih n (before ++ p ++ delim)
        (parts ++ [p].filter fun p => decide (p ≠ [])) (hcut ▸ hstr) (by omega)
      refine ⟨pos, ?_⟩
      rw [loop_ok hgoing hround, hnext, hcut, hrest, List.append_assoc, ← List.filter_append]
      rfl

/-- Splitting gives the parts. -/
theorem fStrSplit_eq (hstr : nul ∉ str) (hnul : nul ∉ delim) (hd : delim ≠ [])
    {ps : List Charstring} (hps : Pieces delim str ps) :
    fStrSplit fStrstr str delim = .ok (ps.filter fun p => decide (p ≠ [])) := by
  obtain ⟨pos, hloop⟩ := splitLoop_eq hstrstr hnul hd hps str.length [] [] hstr (Nat.le_refl _)
  have hcut : loop (splitGoing str) (splitRound fStrstr str delim) str.length (0, [])
      = some (.ok (pos, ps.filter fun p => decide (p ≠ []))) := hloop
  rw [fStrSplit, hcut]
  rfl

/-- Texts without the character, with the character between them. -/
theorem fStrSplit_joined {c : Char} (hc : c ≠ nul) {ps : List Charstring} (hne : ps ≠ [])
    (hps : ∀ p ∈ ps, c ∉ p) (hnul : ∀ p ∈ ps, nul ∉ p) :
    fStrSplit fStrstr ([c].intercalate ps) [c] = .ok (ps.filter fun p => decide (p ≠ [])) := by
  have hnotc : nul ∉ [c] := fun h => hc (List.mem_singleton.mp h).symm
  refine fStrSplit_eq hstrstr (fun h => ?_) hnotc (List.cons_ne_nil c []) (pieces_singleton hne hps)
  rcases mem_intercalate h with h | ⟨p, hp, h⟩
  · exact hnotc h
  · exact hnul p hp h

/-- **THE TEXT FUNCTIONS**, for every text and every token that is not empty:
    they count every place of it, cut the text at it into the pieces that are
    not empty, and put something else between the pieces.  A character that the
    text does not have can be replaced back. -/
theorem text_functions (hstr : nul ∉ str) (hnul : nul ∉ delim) (hd : delim ≠ []) :
    fStrStartswith str delim = .ok (decide (delim <+: str))
    ∧ fStrEndswith str delim = .ok (decide (delim <:+ str))
    ∧ fStrstrCount fStrstr str delim = .ok (occurrences delim str)
    ∧ ∃ ps, Pieces delim str ps
      ∧ fStrSplit fStrstr str delim = .ok (ps.filter fun p => decide (p ≠ []))
      ∧ (∀ repl, fStrReplace fStrstr str delim repl = .ok (repl.intercalate ps))
      ∧ ∀ c, c ≠ nul → c ∉ str → (fStrReplace fStrstr str delim [c]).bind
          (fun s => fStrReplace fStrstr s [c] delim) = .ok str := by
  obtain ⟨ps, hps⟩ := exists_pieces hd str
  refine ⟨fStrStartswith_eq str delim, fStrEndswith_eq str delim,
    fStrstrCount_eq hstrstr hstr hnul hd, ps, hps, fStrSplit_eq hstrstr hstr hnul hd hps,
    fun repl => fStrReplace_eq hstrstr repl hstr hnul hd hps, fun c hc hcstr => ?_⟩
  have hnotc : nul ∉ [c] := fun h => hc (List.mem_singleton.mp h).symm
  have hback := pieces_singleton hps.ne_nil fun p hp hcp => hcstr (hps.mem hp hcp)
  rw [fStrReplace_eq hstrstr [c] hstr hnul hd hps]
  show fStrReplace fStrstr ([c].intercalate ps) [c] delim = .ok str
  rw [fStrReplace_eq hstrstr delim (fun h => ?_) hnotc (List.cons_ne_nil c []) hback,
    hps.intercalate]
  rcases mem_intercalate h with h | ⟨p, hp, h⟩
  · exact hnotc h
  · exact hstr (hps.mem hp h)

end Loops

/-- The search from the position on, and −1 where there is nothing. -/
def strstrOf (str sub : Charstring) (pos : Int) : Int :=
  match firstAt sub (str.drop pos.toNat) with
  | some i => pos + i
  | none => -1

/-- The concrete search is `strstr`. -/
theorem strstrOf_strstr : Strstr strstrOf := by
  intro str sub pos _ _ _ _
  rw [strstrOf, Int.toNat_natCast]
  cases firstAt sub (str.drop pos) with
  | none => exact Int.negSucc_lt_zero 0
  | some i => rfl

/-- A line with an empty part in its middle. -/
theorem text_functions_csv :
    fStrStartswith "a,,b".toList ",".toList = .ok (decide (",".toList <+: "a,,b".toList))
    ∧ fStrEndswith "a,,b".toList ",".toList = .ok (decide (",".toList <:+ "a,,b".toList))
    ∧ fStrstrCount strstrOf "a,,b".toList ",".toList = .ok (occurrences ",".toList "a,,b".toList)
    ∧ ∃ ps, Pieces ",".toList "a,,b".toList ps
      ∧ fStrSplit strstrOf "a,,b".toList ",".toList = .ok (ps.filter fun p => decide (p ≠ []))
      ∧ (∀ repl, fStrReplace strstrOf "a,,b".toList ",".toList repl = .ok (repl.intercalate ps))
      ∧ ∀ c, c ≠ nul → c ∉ "a,,b".toList →
          (fStrReplace strstrOf "a,,b".toList ",".toList [c]).bind
            (fun s => fStrReplace strstrOf s [c] ",".toList) = .ok "a,,b".toList :=
  text_functions strstrOf_strstr (by decide) (by decide) (by decide)

end OsmoMisc
