import ProfileOperator.Proofs.Flag.Sighting

/-!
# Dropping blanks twice

A backslash outside of spans makes the blank behind it literal, and the blank is dropped all the
same.  With the blank gone the backslash stands before something else, and what is left may be quoted
in other places than the text was.  This happens at the quote marks outside of spans and nowhere else:
the text and what is left of it have the same spans exactly if each of these marks is escaped with the
blanks in front of it just as without them.  Then stripping once more changes nothing.
-/

namespace ProfileOperator

namespace Flag

/--
Passing over the blanks in front of them, no quote mark outside of spans becomes escaped that was not,
and none that was escaped becomes live.
-/
def KeepsEscapes (cs : List Char) : Prop :=
  ∀ i (h : i < cs.length), isQuote cs[i] = true ->
    (StripState.start.run (cs.take i)).quote = none ->
      (Even (backslashRun (cs.take i)) ↔ Even (backslashRun (withoutBlanks (cs.take i))))

instance (cs : List Char) : Decidable (KeepsEscapes cs) :=
  inferInstanceAs (Decidable (∀ i (h : i < cs.length), isQuote cs[i] = true -> _))

/-- No blank outside of spans is literal because of a backslash. -/
def EscapesNoBlank (cs : List Char) : Prop :=
  ∀ i (h : i < cs.length), Text.isBlank cs[i] = true ->
    (StripState.start.run (cs.take i)).quote = none -> Even (backslashRun (cs.take i))

/-- The spans of a text are those of what is left of it. -/
def KeepsSpans (cs : List Char) : Prop :=
  StripState.start.sightings (kept .start cs) = keptSightings cs

/-! ### Runs of backslashes across blanks -/

theorem withoutBlanks_append_singleton (cs : List Char) (c : Char) :
    withoutBlanks (cs ++ [c]) = withoutBlanks cs ++ if Text.isBlank c then [] else [c] := by
  cases hblank : Text.isBlank c with
  | true => simp [withoutBlanks, hblank]
  | false => simp [withoutBlanks, hblank]

theorem backslashRun_kept {cs : List Char} (h : (StripState.start.run cs).quote = none) :
    backslashRun (kept .start cs) = backslashRun (withoutBlanks cs) := by
  induction cs using List.reverseRecOn with
  | nil => rfl
  | append_singleton front c ih =>
      rw [StripState.run_append_singleton] at h
      rw [kept_append_singleton, withoutBlanks_append_singleton]
      cases hblank : Text.isBlank c with
      | true =>
          have hdropped : keeps ((StripState.start.run front).step c) c = false := by
            simp [keeps, h, hblank]
          rw [quote_step_of_not_isQuote (not_isQuote_of_isBlank hblank)] at h
          simpa [hdropped] using ih h
      | false =>
          have hkept : keeps ((StripState.start.run front).step c) c = true := by
            simp [keeps, hblank]
          rw [if_pos hkept, if_neg Bool.false_ne_true, backslashRun_append_singleton,
            backslashRun_append_singleton]
          by_cases hc : c = '\\'
          · rw [hc, quote_step_backslash] at h
            rw [if_pos hc, if_pos hc, ih h]
          · rw [if_neg hc, if_neg hc]

theorem EscapesNoBlank.even_iff {cs : List Char} (h : EscapesNoBlank cs) {i : Nat}
    (hi : i ≤ cs.length) (hnone : (StripState.start.run (cs.take i)).quote = none) :
    Even (backslashRun (cs.take i)) ↔ Even (backslashRun (withoutBlanks (cs.take i))) := by
  induction i with
  | zero => simp [withoutBlanks]
  | succ i ih =>
      have hescaped := h i (by omega)
      rw [List.take_succ_eq_append_getElem (by omega)] at hnone ⊢
      rw [StripState.run_append_singleton] at hnone
      rw [withoutBlanks_append_singleton, backslashRun_append_singleton]
      generalize cs[i] = c at hescaped hnone
      cases hblank : Text.isBlank c with
      | true =>
          rw [quote_step_of_not_isQuote (not_isQuote_of_isBlank hblank)] at hnone
          have hback := not_backslash_of_isBlank hblank
          have heven := (ih (by omega) hnone).1 (hescaped hblank hnone)
          simpa [hback] using heven
      | false =>
          rw [if_neg Bool.false_ne_true, backslashRun_append_singleton]
          by_cases hc : c = '\\'
          · rw [hc, quote_step_backslash] at hnone
            rw [if_pos hc, if_pos hc, Nat.even_add_one, Nat.even_add_one,
              ih (by omega) hnone]
          · rw [if_neg hc, if_neg hc]

theorem EscapesNoBlank.keepsEscapes {cs : List Char} (h : EscapesNoBlank cs) : KeepsEscapes cs :=
  fun _ hi _ hnone => h.even_iff (Nat.le_of_lt hi) hnone

/-! ### The second reading beside the first -/

/-- The second reading is in the span of the first, and inside of spans in its state. -/
structure StripState.Mirrors (p s : StripState) : Prop where
  quote : p.quote = s.quote
  escaped : s.quote ≠ none -> p.escaped = s.escaped

theorem StripState.Mirrors.step_kept {p s : StripState} {c : Char} (h : p.Mirrors s)
    (hc : isQuote c = true -> s.quote = none -> p.escaped = s.escaped) :
    (p.step c).Mirrors (s.step c) := by
  by_cases hsame : p.escaped = s.escaped
  · have hstate : p = s := by
      have hquote := h.quote
      cases p
      cases s
      simp_all
    rw [hstate]
    exact ⟨rfl, fun _ => rfl⟩
  · -- The readings differ in an escape outside of spans at most, and it escapes no quote mark.
    have hnone : s.quote = none := by
      by_contra hopen
      exact hsame (h.escaped hopen)
    have hquote : isQuote c = false := by
      cases hq : isQuote c with
      | false => rfl
      | true => exact absurd (hc hq hnone) hsame
    have hp := quote_step_of_not_isQuote hquote p
    have hs := quote_step_of_not_isQuote hquote s
    exact ⟨by rw [hp, hs, h.quote], fun hopen => absurd (hs.trans hnone) hopen⟩

theorem StripState.Mirrors.step_dropped {p s : StripState} {c : Char} (h : p.Mirrors s)
    (hdropped : keeps (s.step c) c = false) : p.Mirrors (s.step c) := by
  obtain ⟨_, hbefore, hbehind⟩ := quote_of_dropped hdropped
  exact ⟨by rw [h.quote, hbefore, hbehind], fun hopen => absurd hbehind hopen⟩

theorem escaped_eq_iff {cs ds : List Char} :
    (StripState.start.run cs).escaped = (StripState.start.run ds).escaped ↔
      (Even (backslashRun cs) ↔ Even (backslashRun ds)) := by
  rw [Bool.eq_iff_iff, escaped_run_iff, escaped_run_iff, not_iff_not]

theorem KeepsEscapes.mirrors {cs : List Char} (h : KeepsEscapes cs) :
    (StripState.start.run (kept .start cs)).Mirrors (StripState.start.run cs) ∧
      KeepsSpans cs := by
  apply sightings_kept_of_related StripState.Mirrors
  · exact fun _ _ hmirrors => hmirrors.quote
  · exact ⟨rfl, fun _ => rfl⟩
  · rintro i hi p s rfl rfl hmirrors -
    apply hmirrors.step_kept
    intro hquote hnone
    have heven := h i hi hquote hnone
    rw [← backslashRun_kept hnone, ← escaped_eq_iff] at heven
    exact heven.symm
  · rintro i hi p s rfl hmirrors hdropped
    exact hmirrors.step_dropped hdropped

/-! ### What the same spans say about the marks -/

theorem KeepsSpans.of_append {cs ds : List Char} (h : KeepsSpans (cs ++ ds)) : KeepsSpans cs := by
  rw [KeepsSpans, kept_append, keptSightings_append, StripState.sightings_append] at h
  refine List.append_inj_left h ?_
  rw [length_keptSightings, StripState.sightings, length_sightings]

theorem escaped_iff_quote_step {s : StripState} {q : Char} (hq : isQuote q = true)
    (hnone : s.quote = none) : s.escaped = true ↔ (s.step q).quote = none := by
  cases hescaped : s.escaped with
  | true => simp [StripState.step, hescaped, hnone]
  | false => simp [StripState.step, hescaped, hnone, hq]

theorem KeepsSpans.keepsEscapes {cs : List Char} (h : KeepsSpans cs) : KeepsEscapes cs := by
  intro i hi hquote hnone
  have hsplit : cs = cs.take i ++ [cs[i]] ++ cs.drop (i + 1) := by
    rw [← List.take_succ_eq_append_getElem hi, List.take_append_drop]
  rw [hsplit] at h
  have hlast := h.of_append
  have hfront := hlast.of_append
  have hkept : keeps ((StripState.start.run (cs.take i)).step cs[i]) cs[i] = true := by
    simp [keeps, not_isBlank_of_isQuote hquote]
  rw [KeepsSpans, kept_append_singleton, keptSightings_append_singleton, if_pos hkept, if_pos hkept,
    StripState.sightings_append, StripState.sightings_singleton, hfront,
    List.append_cancel_left_eq, List.cons.injEq, Sighting.mk.injEq] at hlast
  obtain ⟨⟨_, hbefore, hbehind⟩, _⟩ := hlast
  have hescaped : (StripState.start.run (kept .start (cs.take i))).escaped =
      (StripState.start.run (cs.take i)).escaped := by
    rw [Bool.eq_iff_iff, escaped_iff_quote_step hquote (hbefore.trans hnone),
      escaped_iff_quote_step hquote hnone, hbehind]
  rw [escaped_eq_iff, backslashRun_kept hnone] at hescaped
  exact hescaped.symm

/-! ### Stripping once more -/

theorem KeepsSpans.kept_kept {cs : List Char} (h : KeepsSpans cs) :
    kept .start (kept .start cs) = kept .start cs := by
  -- What is kept is kept for what is seen of it, and the same is seen of it again.
  rw [kept_eq_map_char .start (kept .start cs), h, keptSightings, List.filter_filter]
  simp only [Bool.and_self]
  exact (kept_eq_map_char .start cs).symm

/--
What is left of a text is seen in the spans in which it was seen before exactly if every quote mark
outside of spans is escaped with the blanks in front of it just as without them.  Stripping what is
left then changes nothing.  It is so wherever no blank outside of spans is escaped.
-/
theorem strip_keeps_spans_iff {cs left : List Char} (h : strip cs = .ok left) :
    (StripState.start.sightings left = keptSightings cs ↔ KeepsEscapes cs) ∧
      (KeepsEscapes cs -> strip left = .ok left) ∧
      (EscapesNoBlank cs -> KeepsEscapes cs) := by
  obtain ⟨hclosed, rfl⟩ := strip_eq_ok_iff.1 h
  refine ⟨⟨KeepsSpans.keepsEscapes, fun hkeeps => hkeeps.mirrors.2⟩, ?_,
    EscapesNoBlank.keepsEscapes⟩
  intro hkeeps
  obtain ⟨hmirrors, hspans⟩ := hkeeps.mirrors
  rw [strip_eq_ok_iff]
  exact ⟨by rw [hmirrors.quote, hclosed], KeepsSpans.kept_kept hspans⟩

/-- Two escaped blanks, whose backslashes cancel each other, in front of a quoted text. -/
theorem strip_keeps_spans_cancelled :
    strip "\\ \\ 'x y' z".toList = .ok "\\\\'x y'z".toList ∧
      KeepsEscapes "\\ \\ 'x y' z".toList ∧
      strip "\\\\'x y'z".toList = .ok "\\\\'x y'z".toList := by
  have hstrip : strip "\\ \\ 'x y' z".toList = .ok "\\\\'x y'z".toList := by
    decide
  have hkeeps : KeepsEscapes "\\ \\ 'x y' z".toList := by
    decide
  exact ⟨hstrip, hkeeps, (strip_keeps_spans_iff hstrip).2.1 hkeeps⟩

/-- An escaped blank in front of a quoted text: with the blank gone, the opening mark is escaped. -/
theorem strip_loses_span_behind_escaped_blank :
    strip "\\ 'x'".toList = .ok "\\'x'".toList ∧
      StripState.start.sightings "\\'x'".toList ≠ keptSightings "\\ 'x'".toList ∧
      strip "\\'x'".toList = .error '\x27' := by
  decide

end Flag

end ProfileOperator
