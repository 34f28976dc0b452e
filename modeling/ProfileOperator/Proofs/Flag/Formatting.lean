import Mathlib.Data.List.Induction
import ProfileOperator.Proofs.Flag.Sighting
import ProfileOperator.Proofs.Flag.Spans

/-!
# Blanks that lie in no span

What dropping blanks amounts to can be said of the text as it stands: it succeeds if every span that
opens also ends, and takes out just the white space that lies in no span.  Otherwise it gives the mark
of the one span that never ends.
-/

namespace ProfileOperator

namespace Flag

/-- The position lies in a span, the marks that open and end it included. -/
def InSpan (text : List Char) (i : Nat) : Prop :=
  ∃ q, OpensAt text i q ∨ OpenAt text i q

theorem inSpan_iff {text : List Char} {i : Nat} :
    InSpan text i ↔ (StripState.start.run (text.take i)).quote.isSome = true ∨
      (StripState.start.run (text.take (i + 1))).quote.isSome = true := by
  simp only [Option.isSome_iff_exists, quote_run_take_iff, openAt_iff_isOpen, isOpen_succ, InSpan,
    opensAt_iff_opens]
  constructor
  · intro h
    obtain ⟨q, hopens | hopen⟩ := h
    · exact .inr ⟨q, .inl hopens⟩
    · exact .inl ⟨q, hopen⟩
  · intro h
    rcases h with ⟨q, hopen⟩ | ⟨q, hopens | ⟨hopen, _⟩⟩
    · exact ⟨q, .inr hopen⟩
    · exact ⟨q, .inl hopens⟩
    · exact ⟨q, .inr hopen⟩

instance (text : List Char) : DecidablePred (InSpan text) :=
  fun _ => decidable_of_iff _ inSpan_iff.symm

/-- The text without the white space that lies in no span; everything else stays, in its order. -/
def withoutFormatting (text : List Char) : List Char :=
  (text.zipIdx.filter fun a => !Text.isBlank a.1 || decide (InSpan text a.2)).map (·.1)

theorem inSpan_append {text : List Char} (more : List Char) {i : Nat} (h : i < text.length) :
    InSpan (text ++ more) i ↔ InSpan text i := by
  have hfront : (text ++ more).take i = text.take i := List.take_append_of_le_length (by omega)
  have hbehind : (text ++ more).take (i + 1) = text.take (i + 1) :=
    List.take_append_of_le_length (by omega)
  rw [inSpan_iff, inSpan_iff, hfront, hbehind]

theorem keeps_eq (front : List Char) (c : Char) :
    keeps ((StripState.start.run front).step c) c =
      (!Text.isBlank c || decide (InSpan (front ++ [c]) front.length)) := by
  have hspan : InSpan (front ++ [c]) front.length ↔
      (StripState.start.run front).quote.isSome = true ∨
        ((StripState.start.run front).step c).quote.isSome = true := by
    rw [inSpan_iff, List.take_left, List.take_of_length_le (by simp),
      StripState.run_append_singleton]
  cases hblank : Text.isBlank c with
  | false => simp [keeps, hblank]
  | true =>
      have hsame := quote_step_of_not_isQuote (not_isQuote_of_isBlank hblank)
        (StripState.start.run front)
      simp [keeps, hblank, hspan, hsame]

theorem withoutFormatting_append_singleton (front : List Char) (c : Char) :
    withoutFormatting (front ++ [c]) = withoutFormatting front ++
      if keeps ((StripState.start.run front).step c) c then [c] else [] := by
  have hfront : ∀ a ∈ front.zipIdx,
      (!Text.isBlank a.1 || decide (InSpan (front ++ [c]) a.2)) =
        (!Text.isBlank a.1 || decide (InSpan front a.2)) := by
    intro a ha
    have hlt : a.2 < front.length := by
      simpa using (List.mem_zipIdx ha).2.1
    rw [decide_eq_decide.2 (inSpan_append [c] hlt)]
  rw [withoutFormatting, List.zipIdx_append, List.filter_append, List.map_append,
    List.filter_congr hfront, keeps_eq, withoutFormatting]
  congr 1
  simp only [List.zipIdx_singleton, Nat.zero_add, List.filter_cons, List.filter_nil]
  split <;> rfl

theorem kept_eq_withoutFormatting (text : List Char) : kept .start text = withoutFormatting text := by
  induction text using List.reverseRecOn with
  | nil => rfl
  | append_singleton front c ih =>
      rw [kept_append_singleton, withoutFormatting_append_singleton, ih]

theorem quote_run_eq_none_iff {text : List Char} :
    (StripState.start.run text).quote = none ↔
      ∀ i q, OpensAt text i q -> ∃ j, i < j ∧ LiveAt text j q := by
  have hend : (StripState.start.run text).quote = none ↔ ∀ q, ¬Unclosed text q := by
    rw [Option.eq_none_iff_forall_ne_some]
    refine forall_congr' fun q => not_congr ?_
    rw [unclosed_iff, ← quote_run_take_iff, List.take_length]
  rw [hend]
  constructor
  · intro h i q hopens
    by_contra hnone
    exact h q ⟨i, hopens, fun j hij hj => hnone ⟨j, hij, hj⟩⟩
  · intro h q hunclosed
    obtain ⟨i, hopens, hlive⟩ := hunclosed
    obtain ⟨j, hij, hj⟩ := h i q hopens
    exact hlive j hij hj

/--
Dropping blanks succeeds exactly if every span that opens also ends, and then leaves the text without
the white space that lies in no span.  Otherwise it gives the mark of the span that never ends.
-/
theorem strip_drops_blanks_outside_spans (text : List Char) :
    (∀ left, strip text = .ok left ↔
      (∀ i q, OpensAt text i q -> ∃ j, i < j ∧ LiveAt text j q) ∧
        left = withoutFormatting text) ∧
    ∀ q, strip text = .error q ↔
      ∃ i, OpensAt text i q ∧ ∀ j, i < j -> ¬LiveAt text j q := by
  constructor
  · intro left
    rw [strip_eq_ok_iff, quote_run_eq_none_iff, kept_eq_withoutFormatting, eq_comm (a := left)]
  · intro q
    exact strip_eq_error_iff

/-- An escaped mark outside of spans, one inside, another kind of mark inside, and an escaped blank. -/
example : withoutFormatting " \\' a '\\' \x22 b' \\ c".toList = "\\'a'\\' \x22 b'\\c".toList := by
  decide

end Flag

end ProfileOperator
