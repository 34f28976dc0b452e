import ProfileOperator.Proofs.Flag.Cuts

/-!
# Two splits in one pass

A text that is split at one delimiter, and each of its parts at another, comes out as if it were read
once from left to right with one state for both delimiters.  Each part is read from the start again,
but at its beginning the reading of the whole text has no span open and no backslash behind it either.
-/

namespace ProfileOperator

namespace Flag

/-! ### One reading for several delimiters -/

/-- The state behind a character, for a reader that turns at every quote mark that is not escaped. -/
def SplitState.track (s : SplitState) (c : Char) : SplitState where
  quote := if isQuote c && s.prev != some '\\' then turn s.quote c else s.quote
  prev := some c

/-- A token ends at each of the delimiters that is met with no span open. -/
def tokensFrom (isDelimiter : Char -> Bool) (s : SplitState) : List Char -> List (List Char)
  | [] => [[]]
  | c :: cs =>
      if isDelimiter c && s.quote.isNone then [] :: tokensFrom isDelimiter (s.track c) cs
      else consFirst c (tokensFrom isDelimiter (s.track c) cs)

def tokens (isDelimiter : Char -> Bool) (text : List Char) : List (List Char) :=
  tokensFrom isDelimiter .start text

theorem tokensFrom_ne_nil (isDelimiter : Char -> Bool) (s : SplitState) (cs : List Char) :
    tokensFrom isDelimiter s cs ≠ [] := by
  cases cs with
  | nil => simp [tokensFrom]
  | cons c cs =>
      rw [tokensFrom]
      split
      · simp
      · exact consFirst_ne_nil c _

theorem SplitState.step_eq_track {d : Char} (hd : isQuote d = false) (s : SplitState) (c : Char) :
    s.step d c = s.track c := by
  by_cases hcut : s.cuts d c = true
  · have hcd : c = d := (SplitState.cuts_iff.1 hcut).1
    simp [SplitState.step, SplitState.track, hcd, hd]
  · simp [SplitState.step, SplitState.track, hcut]

theorem breaksAt_tokensFrom_iff {isDelimiter : Char -> Bool} {s : SplitState} {cs : List Char}
    {i : Nat} : BreaksAt (tokensFrom isDelimiter s cs) i ↔
      (∃ c, cs[i]? = some c ∧ isDelimiter c = true) ∧
        ((cs.take i).foldl SplitState.track s).quote = none := by
  induction cs generalizing s i with
  | nil => exact iff_of_false not_breaksAt_singleton (by simp)
  | cons c cs ih =>
      have hne := tokensFrom_ne_nil isDelimiter (s.track c) cs
      rw [tokensFrom]
      by_cases hends : (isDelimiter c && s.quote.isNone) = true
      · rw [if_pos hends]
        cases i with
        | zero => simpa [breaksAt_nil_cons_zero hne] using hends
        | succ i => simp [breaksAt_nil_cons_succ, ih]
      · rw [if_neg hends]
        cases i with
        | zero => simpa [not_breaksAt_consFirst_zero hne] using hends
        | succ i => simp [breaksAt_consFirst_succ hne, ih]

/-! ### The marks of the whole text -/

theorem countsAt_eq_markAt {d : Char} (hd : isQuote d = false) (text : List Char) :
    CountsAt d text = MarkAt text := by
  funext i q
  refine propext ⟨CountsAt.toMarkAt, fun h => { h with uncut := ?_ }⟩
  intro hcut
  have hdq : d = q := Option.some.inj ((cutsAt_iff.1 hcut).1.symm.trans h.mark)
  rw [hdq, h.isQuote] at hd
  cases hd

theorem foldl_track_eq_run {d : Char} (hd : isQuote d = false) (s : SplitState) (cs : List Char) :
    cs.foldl SplitState.track s = s.run d cs := by
  have hstep : SplitState.track = SplitState.step d := by
    funext s c
    exact (SplitState.step_eq_track hd s c).symm
  rw [hstep, SplitState.run]

theorem breaksAt_tokens_iff {isDelimiter : Char -> Bool} {text : List Char} {i : Nat} :
    BreaksAt (tokens isDelimiter text) i ↔
      (∃ c, text[i]? = some c ∧ isDelimiter c = true) ∧ ∀ q, ¬IsOpen (MarkAt text) i q := by
  -- The rules of splitting at any character that is no quote mark are those of the one reading.
  have hmark : isQuote ',' = false := by
    decide
  rw [tokens, breaksAt_tokensFrom_iff, foldl_track_eq_run hmark,
    (tracks_countsAt ',' text).quote_eq_none_iff, countsAt_eq_markAt hmark]

/-! ### The second split inside the first -/

section

variable {d e : Char}

/--
The first part of the outer split may begin anywhere, so its inner split goes on from the state of the
whole text; behind a cut both start afresh.
-/
theorem splitFrom_flatMap_split (hd : isQuote d = false) (hback : d ≠ '\\') (he : isQuote e = false)
    {s : SplitState} {cs part : List Char} {rest : List (List Char)}
    (h : splitFrom d s cs = part :: rest) :
    splitFrom e s part ++ rest.flatMap (split e) = tokensFrom (fun c => c == d || c == e) s cs := by
  induction cs generalizing s part rest with
  | nil =>
      rw [splitFrom, List.cons.injEq] at h
      obtain ⟨rfl, rfl⟩ := h
      rfl
  | cons c cs ih =>
      obtain ⟨first, others, hparts⟩ := List.exists_cons_of_ne_nil (splitFrom_ne_nil d (s.step d c) cs)
      have hinner := ih hparts
      rw [SplitState.step_eq_track hd] at hparts hinner
      rw [splitFrom, SplitState.step_eq_track hd, hparts] at h
      rw [tokensFrom, ← hinner]
      by_cases hcut : s.cuts d c = true
      · -- Behind a cut of the outer split the state is as good as the one at the start.
        rw [if_pos hcut, List.cons.injEq] at h
        obtain ⟨rfl, rfl⟩ := h
        obtain ⟨rfl, hclosed⟩ := SplitState.cuts_iff.1 hcut
        have hends : ((c == c || c == e) && s.quote.isNone) = true := by
          simp [hclosed]
        have hfresh : (s.track c).Fresh := by
          rw [← SplitState.step_eq_track hd]
          exact SplitState.fresh_step_delimiter hback hclosed
        rw [if_pos hends, List.flatMap_cons, ← splitFrom_of_fresh hfresh]
        rfl
      · -- The part goes on, and the inner split ends a token just where the one reading does.
        rw [if_neg hcut, consFirst, List.cons.injEq] at h
        obtain ⟨rfl, rfl⟩ := h
        have hcuts : ((c == d || c == e) && s.quote.isNone) = s.cuts e c := by
          rw [Bool.not_eq_true, SplitState.cuts] at hcut
          rw [Bool.and_or_distrib_right, hcut, Bool.false_or, SplitState.cuts]
        rw [splitFrom, SplitState.step_eq_track he, hcuts]
        by_cases hinnercut : s.cuts e c = true
        · rw [if_pos hinnercut, if_pos hinnercut, List.cons_append]
        · rw [if_neg hinnercut, if_neg hinnercut, consFirst_append c (splitFrom_ne_nil e _ first)]

theorem flatMap_split_eq_tokens (hd : isQuote d = false) (hback : d ≠ '\\') (he : isQuote e = false)
    (text : List Char) :
    (split d text).flatMap (split e) = tokens (fun c => c == d || c == e) text := by
  obtain ⟨part, rest, hparts⟩ := List.exists_cons_of_ne_nil (split_ne_nil d text)
  rw [hparts, List.flatMap_cons, tokens, ← splitFrom_flatMap_split hd hback he hparts]
  rfl

/--
Splitting a text at one delimiter and then every part at another ends a token exactly at the delimiters
that lie in no span of the whole text.  Every part of the first split but the last leaves no span open,
and the tokens are those of one reading with one state.
-/
theorem nested_split_is_one_pass (hd : isQuote d = false) (hback : d ≠ '\\') (he : isQuote e = false)
    (text : List Char) :
    (∀ i, BreaksAt ((split d text).flatMap (split e)) i ↔
      (text[i]? = some d ∨ text[i]? = some e) ∧ ∀ q, ¬IsOpen (MarkAt text) i q) ∧
    (∀ part ∈ (split d text).dropLast, ∀ q, ¬IsOpen (MarkAt part) part.length q) ∧
    (split d text).flatMap (split e) = tokens (fun c => c == d || c == e) text := by
  have hscan := flatMap_split_eq_tokens hd hback he text
  refine ⟨?_, ?_, hscan⟩
  · intro i
    rw [hscan, breaksAt_tokens_iff]
    refine and_congr_left fun _ => ?_
    simp [and_or_left, exists_or]
  · intro part hpart
    rw [← countsAt_eq_markAt hd]
    exact quote_run_split_eq_none_iff.1 (closed_of_mem_dropLast_split hback hpart)

end

/-- Both delimiters inside of spans, behind a backslash and behind an escaped mark; a span left open. -/
theorem nested_split_is_one_pass_open :
    (split ',' "a.'x,y.z'\\,.b\\',c.\x22d.e".toList).flatMap (split '.') =
        ["a", "'x,y.z'\\", "", "b\\'", "c", "\x22d.e"].map String.toList ∧
      ¬BreaksAt ((split ',' "a.'x,y.z'\\,.b\\',c.\x22d.e".toList).flatMap (split '.')) 6 := by
  obtain ⟨hbreaks, _, hscan⟩ := nested_split_is_one_pass (d := ',') (e := '.') (by decide) (by decide)
    (by decide) "a.'x,y.z'\\,.b\\',c.\x22d.e".toList
  constructor
  · rw [hscan]
    decide
  · rw [hbreaks]
    intro h
    have hopen : (SplitState.start.run ',' ("a.'x,y.z'\\,.b\\',c.\x22d.e".toList.take 6)).quote =
        some '\x27' := by
      decide
    rw [(tracks_countsAt _ _).quote_eq_some_iff, countsAt_eq_markAt (by decide)] at hopen
    exact h.2 _ hopen

end Flag

end ProfileOperator
