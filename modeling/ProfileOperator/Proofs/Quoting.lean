import Mathlib.Data.List.Basic
import ProfileOperator.Proofs.Numerals
import ProfileOperator.Text.Quoted

/-!
# Quoted texts that are read back

Between quotation marks every character is written as a piece that shows where it ends.  So a quoted text
can be read back, and no two texts are quoted alike.  A text without anything to escape is shown as it is.
-/

namespace ProfileOperator

namespace Text

/-- The character that stands behind a backslash for itself or for one that has no sign of its own. -/
def unescaped : Char -> Char
  | '0' => '\x00'
  | 't' => '\t'
  | 'r' => '\r'
  | 'n' => '\n'
  | c => c

def readEscaped : List Char -> Option (Char × List Char)
  | '\\' :: 'u' :: '\x7b' :: rest =>
      some (Char.ofNat (numeralValue 16 (spanDigits 16 rest).1), (spanDigits 16 rest).2.drop 1)
  | '\\' :: c :: rest => some (unescaped c, rest)
  | c :: rest => some (c, rest)
  | [] => none

theorem readEscaped_codePointEscape (c : Char) (rest : List Char) :
    readEscaped (codePointEscape c ++ rest) = some (c, rest) := by
  have hspan : spanDigits 16 (Nat.toDigits 16 c.toNat ++ '\x7d' :: rest) =
      (Nat.toDigits 16 c.toNat, '\x7d' :: rest) :=
    spanDigits_toDigits (by decide) (by decide) _ (endsDigits_cons (by decide) rest)
  have hvalue : numeralValue 16 (Nat.toDigits 16 c.toNat) = c.toNat :=
    numeralValue_toDigits (by decide) (by decide) _
  simp only [codePointEscape, List.cons_append, List.nil_append, List.append_assoc, readEscaped, hspan,
    hvalue, Char.ofNat_toNat, List.drop_one, List.tail_cons]

theorem readEscaped_escapeChar (c : Char) (rest : List Char) :
    readEscaped (escapeChar doubleQuote c ++ rest) = some (c, rest) := by
  unfold escapeChar
  split_ifs with hnull htab hreturn hfeed hspecial hprintable
  · subst hnull
    rfl
  · subst htab
    rfl
  · subst hreturn
    rfl
  · subst hfeed
    rfl
  · rcases hspecial with rfl | rfl
    · rfl
    · rfl
  · have hback : c ≠ '\\' := fun h => hspecial (Or.inl h)
    rw [List.singleton_append, readEscaped]
    · rintro _ rfl
      exact absurd rfl hback
    · rintro _ _ rfl
      exact absurd rfl hback
  · exact readEscaped_codePointEscape c rest

theorem flatMap_escapeChar_injective :
    Function.Injective (List.flatMap (escapeChar doubleQuote)) := by
  intro cs ds h
  -- Both texts are read from their starts, so they go on alike for as long as one of them does.
  have hread : ∀ (c : Char) (cs : List Char),
      readEscaped ((c :: cs).flatMap (escapeChar doubleQuote)) =
        some (c, cs.flatMap (escapeChar doubleQuote)) := by
    intro c cs
    rw [List.flatMap_cons, readEscaped_escapeChar]
  induction cs generalizing ds with
  | nil =>
      cases ds with
      | nil => rfl
      | cons d ds =>
          have hd := hread d ds
          rw [← h] at hd
          cases hd
  | cons c cs ih =>
      have hc := hread c cs
      rw [h] at hc
      cases ds with
      | nil => cases hc
      | cons d ds =>
          rw [hread d ds] at hc
          obtain ⟨rfl, hrest⟩ := Prod.mk.inj (Option.some.inj hc)
          rw [ih hrest.symm]

/-- What is quoted determines the text. -/
theorem quoted_injective : Function.Injective quoted := by
  intro s t h
  have hmarks := String.ofList_injective h
  have hinner := List.append_cancel_right (List.cons.inj hmarks).2
  exact String.toList_injective (flatMap_escapeChar_injective hinner)

/-- A wording around a quoted text shows which one it is. -/
theorem quoted_between_iff (front back shown given : String) :
    front ++ quoted given ++ back = front ++ quoted shown ++ back ↔ shown = given := by
  rw [String.append_left_inj, String.append_right_inj, quoted_injective.eq_iff, eq_comm]

/-- A character that is shown as itself between quotation marks. -/
def IsPlain (c : Char) : Prop :=
  isPrintable c = true ∧ c ≠ '\\' ∧ c ≠ doubleQuote

instance (c : Char) : Decidable (IsPlain c) :=
  inferInstanceAs (Decidable (_ ∧ _))

theorem escapeChar_of_isPlain {c : Char} (h : IsPlain c) : escapeChar doubleQuote c = [c] := by
  obtain ⟨hprintable, hback, hmark⟩ := h
  have hsign : ∀ d : Char, isPrintable d = false -> c ≠ d := by
    rintro d hd rfl
    rw [hprintable] at hd
    cases hd
  rw [escapeChar, if_neg (hsign _ (by decide)), if_neg (hsign _ (by decide)),
    if_neg (hsign _ (by decide)), if_neg (hsign _ (by decide)), if_neg (not_or.2 ⟨hback, hmark⟩),
    if_pos hprintable]

theorem quoted_of_isPlain {s : String} (h : ∀ c ∈ s.toList, IsPlain c) :
    quoted s = "\"" ++ s ++ "\"" := by
  have hinner : s.toList.flatMap (escapeChar doubleQuote) = s.toList := by
    rw [List.flatMap_congr fun c hc => escapeChar_of_isPlain (h c hc), List.flatMap_singleton']
  rw [quoted, hinner]
  apply String.toList_injective
  simp [doubleQuote]

theorem quoted_between_of_isPlain (front back : String) {s : String} (h : ∀ c ∈ s.toList, IsPlain c) :
    front ++ quoted s ++ back = front ++ "\"" ++ s ++ ("\"" ++ back) := by
  simp only [quoted_of_isPlain h, String.append_assoc]

end Text

end ProfileOperator
