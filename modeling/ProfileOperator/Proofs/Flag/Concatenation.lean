import ProfileOperator.Proofs.Flag.Grouping
import ProfileOperator.Proofs.Flag.Spans
import ProfileOperator.Proofs.Flag.Stripping

/-!
# Two flags in one

A text that leaves no span open can be continued behind a comma by any other text: what is read of
both together is what is read of each, the values of the first before those of the second.  The
comma takes up an escape that is left over at the end of the first text, so nothing of its reading is
carried across.
-/

namespace ProfileOperator

namespace Flag

theorem strip_comma {cs left : List Char} (h : strip cs = .ok left) (ds : List Char) :
    strip (cs ++ ',' :: ds) = (strip ds).map fun right => left ++ ',' :: right := by
  obtain ⟨hclosed, rfl⟩ := strip_eq_ok_iff.1 h
  have hstep : (StripState.start.run cs).step ',' = .start :=
    step_of_closed hclosed (by decide) (by decide)
  have hkeep : keeps .start ',' = true := by
    decide
  rw [strip, StripState.run_append, kept_append, StripState.run_cons, kept, hstep, if_pos hkeep,
    strip]
  cases (StripState.start.run ds).quote with
  | none => rfl
  | some mark => rfl

theorem entryTexts_comma {left : List Char} (hclosed : (SplitState.start.run ',' left).quote = none)
    (right : List Char) :
    entryTexts (left ++ ',' :: right) = entryTexts left ++ entryTexts right := by
  have hsplit := split_append (d := ',') (by decide) right hclosed
  rw [entryTexts, show entryDelimiter = ',' from rfl, hsplit, List.filter_append]
  rfl

/-! ### Trees of two lists of entries -/

theorem values_ofEntries_append (first second : List Entry) (selector : String) (field : Field) :
    (SelectorTree.ofEntries (first ++ second)).values selector field =
      (SelectorTree.ofEntries first).values selector field ++
        (SelectorTree.ofEntries second).values selector field := by
  rw [values_ofEntries, List.filter_append, List.map_append, ← values_ofEntries,
    ← values_ofEntries]

theorem mem_names_ofEntries_append (first second : List Entry) (selector : String) :
    selector ∈ (SelectorTree.ofEntries (first ++ second)).names ↔
      selector ∈ (SelectorTree.ofEntries first).names ∨
        selector ∈ (SelectorTree.ofEntries second).names := by
  rw [mem_names_ofEntries_iff, mem_names_ofEntries_iff, mem_names_ofEntries_iff,
    values_ofEntries_append, Ne, List.append_eq_nil_iff, Classical.not_and_iff_not_or_not]

/-! ### Texts -/

theorem filter_comma (a b : String) :
    (a ++ "," ++ b).toList.filter (· ≠ '\n') =
      a.toList.filter (· ≠ '\n') ++ ',' :: b.toList.filter (· ≠ '\n') := by
  simp

/--
Behind a text that leaves no span open to splitting, a comma ends one flag and begins another.  What
both give is put together selector by selector, and an entry that is malformed is found as before.
-/
theorem parse_comma {a b : String} {left : List Char}
    (hstrip : strip (a.toList.filter (· ≠ '\n')) = .ok left)
    (hclosed : (SplitState.start.run ',' left).quote = none) :
    (∀ first second, parse a = .ok first -> parse b = .ok second ->
      ∃ tree, parse (a ++ "," ++ b) = .ok tree ∧
        (∀ selector field, tree.values selector field =
          first.values selector field ++ second.values selector field) ∧
        ∀ selector, selector ∈ tree.names ↔
          selector ∈ first.names ∨ selector ∈ second.names) ∧
    ∀ entry right, parse a = .error (.malformedEntry entry) ->
      strip (b.toList.filter (· ≠ '\n')) = .ok right ->
        parse (a ++ "," ++ b) = .error (.malformedEntry entry) := by
  have hboth : ∀ right, strip (b.toList.filter (· ≠ '\n')) = .ok right ->
      strip ((a ++ "," ++ b).toList.filter (· ≠ '\n')) = .ok (left ++ ',' :: right) := by
    intro right hright
    rw [filter_comma, strip_comma hstrip, hright]
    rfl
  constructor
  · intro first second hfirst hsecond
    obtain ⟨left', hleft, entries, hentries, rfl⟩ := parse_eq_ok_iff.1 hfirst
    obtain ⟨right, hright, others, hothers, rfl⟩ := parse_eq_ok_iff.1 hsecond
    cases hstrip.symm.trans hleft
    refine ⟨.ofEntries (entries ++ others), ?_, values_ofEntries_append entries others,
      mem_names_ofEntries_append entries others⟩
    rw [parse_of_strip (hboth right hright), entryTexts_comma hclosed, List.mapM_append, hentries,
      hothers]
    rfl
  · intro entry right hfirst hright
    rw [parse_of_strip hstrip] at hfirst
    rw [parse_of_strip (hboth right hright), entryTexts_comma hclosed, List.mapM_append]
    cases hentries : (entryTexts left).mapM Entry.read with
    | error e =>
        rw [hentries] at hfirst
        cases hfirst
        rfl
    | ok entries =>
        rw [hentries] at hfirst
        cases hfirst

/-- A backslash at the end of the first text, a quote mark at the start of the second. -/
theorem parse_comma_escape :
    ∃ tree, parse ("b.labels.x=1\\" ++ "," ++ "'q'.labels.y,b.labels.z") = .ok tree ∧
      tree.values "b" .labels = ["x=1\\", "z"] := by
  have hstrip : strip ("b.labels.x=1\\".toList.filter (· ≠ '\n')) =
      .ok "b.labels.x=1\\".toList := by
    decide
  have hfirst : ∃ tree, parse "b.labels.x=1\\" = .ok tree ∧
      tree.values "b" .labels = ["x=1\\"] :=
    ⟨_, rfl, by decide +kernel⟩
  have hsecond : ∃ tree, parse "'q'.labels.y,b.labels.z" = .ok tree ∧
      tree.values "b" .labels = ["z"] :=
    ⟨_, rfl, by decide +kernel⟩
  obtain ⟨first, hfirst, hx⟩ := hfirst
  obtain ⟨second, hsecond, hz⟩ := hsecond
  obtain ⟨tree, htree, hvalues, _⟩ :=
    (parse_comma hstrip (by decide)).1 first second hfirst hsecond
  refine ⟨tree, htree, ?_⟩
  rw [hvalues, hx, hz]
  rfl

end Flag

end ProfileOperator
