import ProfileOperator.Proofs.Flag.Marks
import ProfileOperator.Proofs.Flag.Parts

/-!
# Where splitting cuts

A text is cut at the delimiters in front of which no span is open.  To splitting a quote mark counts
unless it is itself a cut or stands right behind a backslash, and the spans between the marks that
count are made as all spans are.  Every part is therefore uncut when it is read alone, and all of them
but the last leave no span open.
-/

namespace ProfileOperator

namespace Flag

/-! ### The marks that count -/

/-- A quote mark that does not stand right behind a backslash. -/
structure MarkAt (text : List Char) (i : Nat) (q : Char) : Prop where
  mark : text[i]? = some q
  isQuote : isQuote q = true
  unescaped : ∀ k, k + 1 = i -> text[k]? ≠ some '\\'

/-- A quote mark that counts when the text is split: it is no cut and is not escaped. -/
structure CountsAt (d : Char) (text : List Char) (i : Nat) (q : Char) : Prop extends
    MarkAt text i q where
  uncut : ¬CutsAt d text i

theorem SplitState.run_append_singleton (d : Char) (s : SplitState) (cs : List Char) (c : Char) :
    s.run d (cs ++ [c]) = (s.run d cs).step d c :=
  s.run_append d cs [c]

theorem prev_run_take_ne_iff {d c : Char} {text : List Char} {i : Nat} (hc : text[i]? = some c) :
    (SplitState.start.run d (text.take i)).prev ≠ some '\\' ↔
      ∀ k, k + 1 = i -> text[k]? ≠ some '\\' := by
  rw [prev_run]
  cases i with
  | zero => simp [SplitState.start]
  | succ i =>
      have hi : i < text.length := by
        have hlt := (List.getElem?_eq_some_iff.1 hc).1
        omega
      have hbefore : text[i]? = some text[i] := List.getElem?_eq_getElem hi
      rw [List.take_succ_eq_append_getElem hi, List.getLast?_concat, Option.some_or, ← hbefore]
      constructor
      · intro h k hk
        rwa [Nat.add_right_cancel hk]
      · intro h
        exact h i rfl

theorem countsAt_iff {d c q : Char} {text : List Char} {i : Nat} (hc : text[i]? = some c) :
    CountsAt d text i q ↔ c = q ∧
      ((SplitState.start.run d (text.take i)).cuts d c = false ∧ isQuote c = true ∧
        (SplitState.start.run d (text.take i)).prev ≠ some '\\') := by
  have hcuts : (SplitState.start.run d (text.take i)).cuts d c = false ↔ ¬CutsAt d text i := by
    rw [cutsAt_iff, hc, Option.some.injEq, ← SplitState.cuts_iff, Bool.not_eq_true]
  rw [hcuts, prev_run_take_ne_iff hc]
  constructor
  · intro h
    have hcq : c = q := Option.some.inj (hc.symm.trans h.mark)
    subst hcq
    exact ⟨rfl, h.uncut, h.isQuote, h.unescaped⟩
  · intro h
    obtain ⟨rfl, huncut, hquote, hescape⟩ := h
    exact { mark := hc, isQuote := hquote, unescaped := hescape, uncut := huncut }

theorem tracks_countsAt (d : Char) (text : List Char) :
    Tracks (CountsAt d text) fun i => (SplitState.start.run d (text.take i)).quote where
  start := rfl
  single := by
    intro i q mark hq hmark
    exact Option.some.inj (hq.mark.symm.trans hmark.mark)
  turn := by
    intro i q hq
    obtain ⟨_, hcuts, hquote, hprev⟩ := (countsAt_iff hq.mark).1 hq
    rw [List.take_add_one, hq.mark, Option.toList_some, SplitState.run_append_singleton]
    simp [SplitState.step, hcuts, hquote, hprev]
  stay := by
    intro i hnone
    rw [List.take_add_one]
    cases hc : text[i]? with
    | none => simp
    | some c =>
        have hc := mt (countsAt_iff hc).2 (hnone c)
        rw [Option.toList_some, SplitState.run_append_singleton]
        simp only [SplitState.step]
        split
        · rfl
        · next hcuts =>
            rw [if_neg]
            simpa [hcuts] using hc

theorem quote_run_split_eq_none_iff {d : Char} {text : List Char} :
    (SplitState.start.run d text).quote = none ↔
      ∀ q, ¬IsOpen (CountsAt d text) text.length q := by
  have htracks := (tracks_countsAt d text).quote_eq_none_iff (i := text.length)
  rwa [List.take_length] at htracks

/-- A text is cut exactly at the delimiters that lie in no span. -/
theorem cutsAt_iff_not_isOpen {d : Char} {text : List Char} {i : Nat} :
    CutsAt d text i ↔ text[i]? = some d ∧ ∀ q, ¬IsOpen (CountsAt d text) i q := by
  rw [cutsAt_iff, (tracks_countsAt d text).quote_eq_none_iff]

/-! ### Part by part -/

theorem splitFrom_eq_cons {d : Char} {s : SplitState} {cs part : List Char}
    {rest : List (List Char)} (h : splitFrom d s cs = part :: rest) :
    Uncut d s part ∧ ((rest = [] ∧ cs = part) ∨ ∃ behind, cs = part ++ d :: behind ∧
      (s.run d part).quote = none ∧ rest = splitFrom d ((s.run d part).step d d) behind) := by
  induction cs generalizing s part with
  | nil =>
      rw [splitFrom, List.cons.injEq] at h
      obtain ⟨rfl, rfl⟩ := h
      exact ⟨trivial, .inl ⟨rfl, rfl⟩⟩
  | cons c cs ih =>
      rw [splitFrom] at h
      by_cases hcut : s.cuts d c = true
      · rw [if_pos hcut, List.cons.injEq] at h
        obtain ⟨rfl, rfl⟩ := h
        obtain ⟨rfl, hclosed⟩ := SplitState.cuts_iff.1 hcut
        exact ⟨trivial, .inr ⟨cs, rfl, hclosed, rfl⟩⟩
      · rw [if_neg hcut] at h
        cases hparts : splitFrom d (s.step d c) cs with
        | nil => exact absurd hparts (splitFrom_ne_nil d _ cs)
        | cons first others =>
            rw [hparts, consFirst, List.cons.injEq] at h
            obtain ⟨rfl, rfl⟩ := h
            obtain ⟨huncut, hrest⟩ := ih hparts
            refine ⟨⟨by simpa using hcut, huncut⟩, ?_⟩
            rcases hrest with ⟨hnil, rfl⟩ | ⟨behind, rfl, hclosed, hbehind⟩
            · exact .inl ⟨hnil, rfl⟩
            · exact .inr ⟨behind, rfl, hclosed, hbehind⟩

/-- A delimiter that is no backslash leaves nothing behind, so every part is read as from the start. -/
theorem split_eq_cons {d : Char} (hd : d ≠ '\\') {cs part : List Char} {rest : List (List Char)}
    (h : split d cs = part :: rest) :
    Uncut d .start part ∧ ((rest = [] ∧ cs = part) ∨ ∃ behind, cs = part ++ d :: behind ∧
      (SplitState.start.run d part).quote = none ∧ rest = split d behind) := by
  obtain ⟨huncut, hlast | ⟨behind, hcs, hclosed, hrest⟩⟩ := splitFrom_eq_cons h
  · exact ⟨huncut, .inl hlast⟩
  · rw [splitFrom_of_fresh (SplitState.fresh_step_delimiter hd hclosed)] at hrest
    exact ⟨huncut, .inr ⟨behind, hcs, hclosed, hrest⟩⟩

theorem uncut_of_mem_split {d : Char} (hd : d ≠ '\\') {cs part : List Char}
    (h : part ∈ split d cs) : Uncut d .start part := by
  generalize hparts : split d cs = parts at h
  induction parts generalizing cs with
  | nil => exact absurd h List.not_mem_nil
  | cons first rest ih =>
      obtain ⟨huncut, hlast⟩ := split_eq_cons hd hparts
      rcases List.mem_cons.1 h with rfl | hmem
      · exact huncut
      · rcases hlast with ⟨rfl, _⟩ | ⟨behind, _, _, hrest⟩
        · exact absurd hmem List.not_mem_nil
        · exact ih hrest.symm hmem

theorem closed_of_mem_dropLast_split {d : Char} (hd : d ≠ '\\') {cs part : List Char}
    (h : part ∈ (split d cs).dropLast) : (SplitState.start.run d part).quote = none := by
  generalize hparts : split d cs = parts at h
  induction parts generalizing cs with
  | nil => exact absurd h List.not_mem_nil
  | cons first rest ih =>
      obtain ⟨_, ⟨rfl, _⟩ | ⟨behind, _, hclosed, hrest⟩⟩ := split_eq_cons hd hparts
      · exact absurd h List.not_mem_nil
      · rw [List.dropLast_cons_of_ne_nil (hrest ▸ split_ne_nil d behind)] at h
        rcases List.mem_cons.1 h with rfl | hmem
        · exact hclosed
        · exact ih hrest.symm hmem

/--
Splitting cuts a text exactly at the delimiters that lie in no span, and loses nothing.  With a
delimiter that is no backslash the parts are split no further, and two texts with the delimiter between
them are split one by one, if the first leaves no span open.
-/
theorem split_cuts_outside_spans (d : Char) (text : List Char) :
    split d text ≠ [] ∧ List.intercalate [d] (split d text) = text ∧
      (∀ i, CutsAt d text i ↔ text[i]? = some d ∧ ∀ q, ¬IsOpen (CountsAt d text) i q) ∧
      (d ≠ '\\' ->
        (∀ part ∈ split d text, split d part = [part]) ∧
        ((∀ q, ¬IsOpen (CountsAt d text) text.length q) -> ∀ behind,
          split d (text ++ d :: behind) = split d text ++ split d behind)) := by
  refine ⟨split_ne_nil d text, intercalate_split d text, fun i => cutsAt_iff_not_isOpen, ?_⟩
  intro hd
  constructor
  · intro part hpart
    exact splitFrom_of_uncut (uncut_of_mem_split hd hpart)
  · intro hclosed behind
    exact split_append hd behind (quote_run_split_eq_none_iff.2 hclosed)

/-- The delimiter is a quote mark: it cuts outside of spans and is plain text inside of one. -/
theorem split_cuts_outside_spans_mark :
    split '\x27' "a\x22b'c\\\x22\x22\\'".toList = ["a\x22b'c\\\x22\x22\\".toList, []] ∧
      split '\x27' ("a\x22b'c\\\x22\x22\\'".toList ++ '\x27' :: "\x22d".toList) =
        ["a\x22b'c\\\x22\x22\\".toList, [], "\x22d".toList] := by
  have hparts : split '\x27' "a\x22b'c\\\x22\x22\\'".toList =
      ["a\x22b'c\\\x22\x22\\".toList, []] := by
    decide
  have hclosed : (SplitState.start.run '\x27' "a\x22b'c\\\x22\x22\\'".toList).quote = none := by
    decide
  obtain ⟨_, _, _, hmore⟩ := split_cuts_outside_spans '\x27' "a\x22b'c\\\x22\x22\\'".toList
  obtain ⟨_, happend⟩ := hmore (by decide)
  rw [happend (quote_run_split_eq_none_iff.1 hclosed), hparts]
  exact ⟨rfl, by decide⟩

end Flag

end ProfileOperator
