import ProfileOperator.Proofs.Flag.Grouping
import ProfileOperator.Proofs.Flag.Stripping

/-!
# White space that makes no difference

A flag may be laid out over several lines and with blanks between its parts.  A line feed may stand
anywhere; any other white space may stand wherever reading has no span open and no escape pending.
What is read is the same with and without it, and so is what is refused: a report quotes the text that
is left, not the text that was typed.
-/

namespace ProfileOperator

namespace Flag

theorem strip_append_blanks {cs blanks : List Char} (hcs : StripState.start.run cs = .start)
    (hblanks : ∀ c ∈ blanks, Text.isBlank c = true) (ds : List Char) :
    strip (cs ++ (blanks ++ ds)) = strip (cs ++ ds) := by
  have hsettles := settles_blank hblanks
  have hrun : StripState.start.run (cs ++ (blanks ++ ds)) = StripState.start.run (cs ++ ds) := by
    rw [StripState.run_append, StripState.run_append, StripState.run_append, hcs, hsettles.run]
  have hkept : kept .start (cs ++ (blanks ++ ds)) = kept .start (cs ++ ds) := by
    rw [kept_append, kept_append, kept_append, hcs, hsettles.kept, hsettles.run, List.nil_append]
  rw [strip, strip, hrun, hkept]

theorem parse_congr {a b : String}
    (h : strip (a.toList.filter (· ≠ '\n')) = strip (b.toList.filter (· ≠ '\n'))) :
    parse a = parse b := by
  rw [parse, parse, h]

/--
White space makes no difference to what a flag is read as, or to why it is refused: a line feed
wherever it stands, and any other where no span is open and no escape is pending.
-/
theorem parse_insert_blank {u v : String} {w : Char} (hblank : Text.isBlank w = true)
    (hplace : w = '\n' ∨
      (StripState.start.run (u.toList.filter (· ≠ '\n'))).quote = none ∧
        (StripState.start.run (u.toList.filter (· ≠ '\n'))).escaped = false) :
    parse (u ++ String.singleton w ++ v) = parse (u ++ v) := by
  apply parse_congr
  simp only [String.toList_append, String.toList_singleton, List.filter_append, List.append_assoc]
  -- A line feed is gone before stripping starts; other white space is dropped by stripping.
  by_cases hline : w = '\n'
  · have hdropped : [w].filter (· ≠ '\n') = [] := by
      simp [hline]
    rw [hdropped, List.nil_append]
  · have hstart : StripState.start.run (u.toList.filter (· ≠ '\n')) = .start := by
      obtain ⟨hquote, hescaped⟩ := hplace.resolve_left hline
      generalize StripState.start.run (u.toList.filter (· ≠ '\n')) = s at hquote hescaped
      cases s
      cases hquote
      cases hescaped
      rfl
    refine strip_append_blanks hstart ?_ _
    intro c hc
    rwa [List.mem_singleton.1 (List.mem_filter.1 hc).1]

/-- A line feed between a backslash and a quote mark inside a span, a wide blank inside a bad entry. -/
theorem parse_insert_blank_hidden :
    parse ("a.labels.x='\\" ++ String.singleton '\n' ++ "' y'") =
        parse ("a.labels.x='\\" ++ "' y'") ∧
      parse ("a.labels.x='1',b\\\\" ++ String.singleton '\u3000' ++ "ad") =
        .error (.malformedEntry "b\\\\ad") :=
  ⟨parse_insert_blank (by decide) (.inl rfl),
    (parse_insert_blank (by decide) (.inr ⟨by decide, by decide⟩)).trans (by decide +kernel)⟩

end Flag

end ProfileOperator
