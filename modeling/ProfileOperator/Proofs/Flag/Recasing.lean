import Mathlib.Data.List.Forall2
import ProfileOperator.Proofs.Flag.Spelling

/-!
# Letters of the other case

No letter of ASCII has a meaning to stripping or to splitting.  Texts that differ only in the case of
such letters therefore keep the same characters and are cut in the same places, and parts of ASCII have
the same lower-case form.
-/

namespace ProfileOperator

/-! ### Characters of ASCII -/

namespace Text

def IsAscii (cs : List Char) : Prop :=
  ∀ c ∈ cs, c.toNat < 0x80

-- Character by character of the text, where search would go through all characters there are.
instance (cs : List Char) : Decidable (IsAscii cs) :=
  List.decidableBAll _ cs

theorem simpleLower_of_ascii {c : Char} (hc : c.toNat < 0x80) : simpleLower c = c.toLower :=
  forall_ascii (P := fun c => simpleLower c = c.toLower) (by decide +kernel) hc

theorem lowerFrom_of_ascii (before : List Char) {cs : List Char} (h : IsAscii cs) :
    lowerFrom before cs = cs.map Char.toLower := by
  induction cs generalizing before with
  | nil => rfl
  | cons c rest ih =>
      obtain ⟨hc, hrest⟩ := List.forall_mem_cons.1 h
      have hdotted : c ≠ '\u0130' := by
        rintro rfl
        exact absurd hc (by decide)
      have hsigma : c ≠ '\u03a3' := by
        rintro rfl
        exact absurd hc (by decide)
      rw [lowerFrom_cons, ih _ hrest, lowerAt, if_neg hdotted, if_neg hsigma,
        simpleLower_of_ascii hc]
      rfl

theorem lowercase_of_ascii {cs : List Char} (h : IsAscii cs) :
    lowercase cs = cs.map Char.toLower :=
  lowerFrom_of_ascii [] h

end Text

namespace Flag

/-! ### Letters -/

/-- The characters are the same but for the case of a letter of ASCII. -/
def SameLetter (a b : Char) : Prop :=
  a.toLower = b.toLower

instance : DecidableRel SameLetter :=
  fun a b => inferInstanceAs (Decidable (a.toLower = b.toLower))

theorem toNat_lt_of_isAlpha {c : Char} (h : c.isAlpha = true) : c.toNat < 0x80 := by
  have hletter : c.isUpper = true ∨ c.isLower = true := Bool.or_eq_true_iff.1 h
  cases hletter with
  | inl hupper =>
      have hcode : c.toNat ≤ 0x5a := UInt32.le_iff_toNat_le.1 (of_decide_eq_true hupper).2
      omega
  | inr hlower =>
      have hcode : c.toNat ≤ 0x7a := 
        UInt32.le_iff_toNat_le.1 (of_decide_eq_true (Bool.and_eq_true_iff.1 hlower).2)
      omega

/-- A letter is neither kept nor cut at for a reason of its own. -/
theorem isInert_of_isAlpha {c : Char} (h : c.isAlpha = true) :
    IsInert c ∧ c ≠ '.' ∧ c ≠ '\n' :=
  Text.forall_ascii (P := fun c => c.isAlpha = true -> IsInert c ∧ c ≠ '.' ∧ c ≠ '\n')
    (by decide +kernel) (toNat_lt_of_isAlpha h) h

theorem toLower_eq_or_isAlpha (c : Char) :
    c.toLower = c ∨ (c.isAlpha = true ∧ c.toLower.isAlpha = true) := by
  by_cases hascii : c.toNat < 0x80
  · exact Text.forall_ascii
      (P := fun c => c.toLower = c ∨ (c.isAlpha = true ∧ c.toLower.isAlpha = true))
      (by decide +kernel) hascii
  · refine .inl (dif_neg ?_)
    rintro ⟨_, hle⟩
    have hcode : c.toNat ≤ 0x5a := UInt32.le_iff_toNat_le.1 hle
    omega

theorem SameLetter.eq_or_isAlpha {a b : Char} (h : SameLetter a b) :
    a = b ∨ (a.isAlpha = true ∧ b.isAlpha = true) := by
  have hsame : a.toLower = b.toLower := h
  rcases toLower_eq_or_isAlpha a with ha | ⟨ha, halower⟩
  · rcases toLower_eq_or_isAlpha b with hb | ⟨hb, hblower⟩
    · exact .inl (by rw [← ha, hsame, hb])
    · exact .inr ⟨by rwa [← ha, hsame], hb⟩
  · rcases toLower_eq_or_isAlpha b with hb | ⟨hb, _⟩
    · exact .inr ⟨ha, by rwa [← hb, ← hsame]⟩
    · exact .inr ⟨ha, hb⟩

theorem SameLetter.toNat_lt {a b : Char} (h : SameLetter a b) (ha : a.toNat < 0x80) :
    b.toNat < 0x80 := by
  obtain rfl | ⟨_, hb⟩ := h.eq_or_isAlpha
  · exact ha
  · exact toNat_lt_of_isAlpha hb

/-- The texts are the same but for the case of letters of ASCII. -/
def SameLetters (cs ds : List Char) : Prop :=
  List.Forall₂ SameLetter cs ds

instance : DecidableRel SameLetters :=
  fun cs ds => inferInstanceAs (Decidable (List.Forall₂ SameLetter cs ds))

theorem SameLetters.map_toLower {cs ds : List Char} (h : SameLetters cs ds) :
    cs.map Char.toLower = ds.map Char.toLower := by
  rw [← List.forall₂_eq_eq_eq, List.forall₂_map_left_iff, List.forall₂_map_right_iff]
  exact h

theorem SameLetters.isAscii {cs ds : List Char} (h : SameLetters cs ds)
    (hascii : Text.IsAscii cs) : Text.IsAscii ds := by
  induction h with
  | nil => exact hascii
  | cons hab _ ih =>
      obtain ⟨ha, hrest⟩ := List.forall_mem_cons.1 hascii
      exact List.forall_mem_cons.2 ⟨hab.toNat_lt ha, ih hrest⟩

theorem SameLetters.lowercase_eq {cs ds : List Char} (h : SameLetters cs ds)
    (hascii : Text.IsAscii cs) : Text.lowercase cs = Text.lowercase ds := by
  rw [Text.lowercase_of_ascii hascii, Text.lowercase_of_ascii (h.isAscii hascii), h.map_toLower]

/-! ### Stripping -/

theorem SameLetter.step_eq {a b : Char} (h : SameLetter a b) (s : StripState) :
    s.step a = s.step b := by
  obtain rfl | ⟨ha, hb⟩ := h.eq_or_isAlpha
  · rfl
  · obtain ⟨⟨_, hquote, hback, _⟩, _⟩ := isInert_of_isAlpha ha
    obtain ⟨⟨_, hquote', hback', _⟩, _⟩ := isInert_of_isAlpha hb
    simp [StripState.step, hquote, beq_false_of_ne hback, hquote', beq_false_of_ne hback']

theorem SameLetter.keeps_eq {a b : Char} (h : SameLetter a b) (s : StripState) :
    keeps s a = keeps s b := by
  obtain rfl | ⟨ha, hb⟩ := h.eq_or_isAlpha
  · rfl
  · obtain ⟨⟨_, _, _, hblank⟩, _⟩ := isInert_of_isAlpha ha
    obtain ⟨⟨_, _, _, hblank'⟩, _⟩ := isInert_of_isAlpha hb
    rw [keeps, keeps, hblank, hblank']

theorem SameLetters.kept {cs ds : List Char} (h : SameLetters cs ds) (s : StripState) :
    SameLetters (kept s cs) (kept s ds) := by
  induction h generalizing s with
  | nil => exact .nil
  | @cons a b cs ds hab _ ih =>
      rw [Flag.kept, Flag.kept, ← hab.step_eq s, ← hab.keeps_eq]
      split
      · exact .cons hab (ih _)
      · exact ih _

theorem SameLetters.dropLineFeeds {cs ds : List Char} (h : SameLetters cs ds) :
    SameLetters (cs.filter (· ≠ '\n')) (ds.filter (· ≠ '\n')) := by
  induction h with
  | nil => exact .nil
  | @cons a b cs ds hab _ ih =>
      have hsame : decide (a ≠ '\n') = decide (b ≠ '\n') := by
        obtain rfl | ⟨ha, hb⟩ := hab.eq_or_isAlpha
        · rfl
        · rw [decide_eq_true (isInert_of_isAlpha ha).2.2,
            decide_eq_true (isInert_of_isAlpha hb).2.2]
      rw [List.filter_cons, List.filter_cons, hsame]
      split
      · exact .cons hab ih
      · exact ih

/-! ### Splitting -/

/-- The states open the same spans and take the same quote marks for literal. -/
structure SplitState.Alike (s t : SplitState) : Prop where
  quote : s.quote = t.quote
  prev : s.prev = some '\\' ↔ t.prev = some '\\'

theorem SplitState.Alike.refl (s : SplitState) : s.Alike s where
  quote := rfl
  prev := Iff.rfl

theorem SplitState.Alike.cuts {d : Char} (hd : d.isAlpha = false) {s t : SplitState}
    (hst : s.Alike t) {a b : Char} (hab : SameLetter a b) : s.cuts d a = t.cuts d b := by
  have hdelimiter : (a == d) = (b == d) := by
    obtain rfl | ⟨ha, hb⟩ := hab.eq_or_isAlpha
    · rfl
    · have hne : ∀ c : Char, c.isAlpha = true -> (c == d) = false := by
        intro c hc
        apply beq_false_of_ne
        rintro rfl
        rw [hd] at hc
        cases hc
      rw [hne a ha, hne b hb]
  rw [SplitState.cuts, SplitState.cuts, hdelimiter, hst.quote]

theorem SplitState.Alike.step {d : Char} (hd : d.isAlpha = false) {s t : SplitState}
    (hst : s.Alike t) {a b : Char} (hab : SameLetter a b) : (s.step d a).Alike (t.step d b) := by
  have hcuts := hst.cuts hd hab
  have hprev : (s.prev != some '\\') = (t.prev != some '\\') := by
    rw [Bool.eq_iff_iff, bne_iff_ne, bne_iff_ne]
    exact not_congr hst.prev
  obtain rfl | ⟨ha, hb⟩ := hab.eq_or_isAlpha
  · constructor
    · simp only [SplitState.step, hcuts, hprev, hst.quote]
    · rfl
  · obtain ⟨⟨_, hquote, hback, _⟩, _⟩ := isInert_of_isAlpha ha
    obtain ⟨⟨_, hquote', hback', _⟩, _⟩ := isInert_of_isAlpha hb
    constructor
    · simp [SplitState.step, hquote, hquote', hst.quote]
    · simp [SplitState.step, hback, hback']

theorem sameLetters_consFirst {a b : Char} (hab : SameLetter a b) {ps qs : List (List Char)}
    (h : List.Forall₂ SameLetters ps qs) :
    List.Forall₂ SameLetters (consFirst a ps) (consFirst b qs) := by
  cases h with
  | nil => exact .cons (.cons hab .nil) .nil
  | cons hpart hparts => exact .cons (.cons hab hpart) hparts

theorem SameLetters.splitFrom {d : Char} (hd : d.isAlpha = false) {cs ds : List Char}
    (h : SameLetters cs ds) {s t : SplitState} (hst : s.Alike t) :
    List.Forall₂ SameLetters (splitFrom d s cs) (splitFrom d t ds) := by
  induction h generalizing s t with
  | nil => exact .cons .nil .nil
  | @cons a b cs ds hab _ ih =>
      have hrest := ih (hst.step hd hab)
      rw [Flag.splitFrom, Flag.splitFrom, ← hst.cuts hd hab]
      split
      · exact .cons .nil hrest
      · exact sameLetters_consFirst hab hrest

theorem SameLetters.split {d : Char} (hd : d.isAlpha = false) {cs ds : List Char}
    (h : SameLetters cs ds) : List.Forall₂ SameLetters (split d cs) (split d ds) :=
  h.splitFrom hd (.refl .start)

theorem SameLetters.partOf {cs ds : List Char} (h : SameLetters cs ds) (i : Nat) :
    SameLetters (partOf i cs) (partOf i ds) := by
  rw [Flag.partOf, Flag.partOf]
  have hparts : List.Forall₂ SameLetters (Flag.split '.' cs) (Flag.split '.' ds) :=
    h.split (by decide)
  generalize Flag.split '.' cs = parts at hparts
  generalize Flag.split '.' ds = parts' at hparts
  induction hparts generalizing i with
  | nil => exact .nil
  | cons hpart _ ih =>
      cases i with
      | zero => exact hpart
      | succ i => exact ih i

end Flag

end ProfileOperator
