import Mathlib.Order.Basic
import ProfileOperator.Template

/-!
# Names of resources

The check of a selector accepts exactly the DNS-1123 labels, which are described here by their regular
expression.  Such a name is its own lower-case form and holds nothing that the flag gives a meaning to.
-/

namespace ProfileOperator

/-- A lower-case letter or a digit of ASCII. -/
def IsAlphanumeric (c : Char) : Prop :=
  ('a' ≤ c ∧ c ≤ 'z') ∨ ('0' ≤ c ∧ c ≤ '9')

/-- The text matches `[a-z0-9]([-a-z0-9]*[a-z0-9])?` and has at most 63 characters. -/
structure IsDns1123Label (name : String) : Prop where
  short : name.length ≤ 63
  shape : ∃ first, IsAlphanumeric first ∧
    (name.toList = [first] ∨
      ∃ middle last, name.toList = first :: (middle ++ [last]) ∧
        (∀ c ∈ middle, IsAlphanumeric c ∨ c = '-') ∧ IsAlphanumeric last)

theorem isNameEnd_iff (c : Char) : isNameEnd c = true ↔ IsAlphanumeric c := by
  unfold isNameEnd IsAlphanumeric
  change (decide ('a' ≤ c) && decide (c ≤ 'z') || decide ('0' ≤ c) && decide (c ≤ '9')) = true ↔ _
  simp only [Bool.or_eq_true, Bool.and_eq_true, decide_eq_true_eq]

theorem isNameChar_iff (c : Char) : isNameChar c = true ↔ IsAlphanumeric c ∨ c = '-' := by
  simp [isNameChar, isNameEnd_iff]

theorem getLast_between (first last : Char) (middle : List Char) :
    (first :: (middle ++ [last])).getLast (List.cons_ne_nil _ _) = last := by
  rw [List.getLast_cons (by simp), List.getLast_concat]

/-- The check of a selector is the regular expression. -/
theorem isDnsLabel_iff (name : String) : isDnsLabel name = true ↔ IsDns1123Label name := by
  unfold isDnsLabel
  cases hname : name.toList with
  | nil =>
      constructor
      · intro h
        cases h
      · intro h
        obtain ⟨first, _, hshape | ⟨middle, last, hshape, _⟩⟩ := h.shape
        · simp [hname] at hshape
        · simp [hname] at hshape
  | cons c cs =>
      have hlength : name.length = (c :: cs).length := by
        rw [← String.length_toList, hname]
      simp only [Bool.and_eq_true, decide_eq_true_eq, List.all_eq_true, isNameEnd_iff,
        isNameChar_iff]
      constructor
      · rintro ⟨⟨⟨hshort, hall⟩, hfirst⟩, hlast⟩
        refine ⟨by rw [hlength]; exact hshort, c, hfirst, ?_⟩
        rcases List.eq_nil_or_concat cs with rfl | ⟨middle, last, hcs⟩
        · exact Or.inl hname
        · rw [List.concat_eq_append] at hcs
          subst hcs
          refine Or.inr ⟨middle, last, hname, fun x hx => hall x ?_, ?_⟩
          · simp [hx]
          · rwa [getLast_between] at hlast
      · intro h
        obtain ⟨first, hfirst, hshape⟩ := h.shape
        have hshort : (c :: cs).length ≤ maxNameLength := hlength ▸ h.short
        rw [hname] at hshape
        rcases hshape with hone | ⟨middle, last, hmany, hmiddle, hlast⟩
        · cases hone
          refine ⟨⟨⟨hshort, ?_⟩, hfirst⟩, by simpa using hfirst⟩
          intro x hx
          rw [List.mem_singleton.1 hx]
          exact Or.inl hfirst
        · cases hmany
          refine ⟨⟨⟨hshort, ?_⟩, hfirst⟩, by rwa [getLast_between]⟩
          intro x hx
          rcases List.mem_cons.1 hx with rfl | hx
          · exact Or.inl hfirst
          · rcases List.mem_append.1 hx with hx | hx
            · exact hmiddle x hx
            · rw [List.mem_singleton.1 hx]
              exact Or.inl hlast

instance (name : String) : Decidable (IsDns1123Label name) :=
  decidable_of_iff _ (isDnsLabel_iff name)

theorem IsDns1123Label.mem {name : String} (h : IsDns1123Label name) {c : Char}
    (hc : c ∈ name.toList) : IsAlphanumeric c ∨ c = '-' := by
  have hlabel := (isDnsLabel_iff name).2 h
  unfold isDnsLabel at hlabel
  cases hname : name.toList with
  | nil =>
      rw [hname] at hc
      exact absurd hc List.not_mem_nil
  | cons first rest =>
      rw [hname] at hc hlabel
      simp only [Bool.and_eq_true, List.all_eq_true] at hlabel
      exact (isNameChar_iff c).1 (hlabel.1.1.2 c hc)

theorem IsDns1123Label.toList_ne_nil {name : String} (h : IsDns1123Label name) :
    name.toList ≠ [] := by
  obtain ⟨first, _, hshape | ⟨middle, last, hshape, _⟩⟩ := h.shape
  · simp [hshape]
  · simp [hshape]

/-! ### The characters of names -/

theorem toNat_of_name {c : Char} (h : IsAlphanumeric c ∨ c = '-') :
    c.toNat = 0x2d ∨ (0x30 ≤ c.toNat ∧ c.toNat ≤ 0x39) ∨ (0x61 ≤ c.toNat ∧ c.toNat ≤ 0x7a) := by
  rcases h with h | rfl
  · change (0x61 ≤ c.toNat ∧ c.toNat ≤ 0x7a) ∨ (0x30 ≤ c.toNat ∧ c.toNat ≤ 0x39) at h
    omega
  · exact Or.inl rfl

namespace Text

/-- Of ASCII only the capital letters are mapped to another character. -/
theorem caseRuns_beyond_capitals :
    ∀ run ∈ caseRuns, (run.first = 0x41 ∧ run.last = 0x5a) ∨ 0x7b ≤ run.first := by
  decide +kernel

theorem simpleLower_of_name {c : Char} (h : IsAlphanumeric c ∨ c = '-') : simpleLower c = c := by
  have hnone : caseRuns.find? (·.contains c) = none := by
    rw [List.find?_eq_none]
    intro run hrun hcontains
    simp only [CaseRun.contains, Bool.and_eq_true, decide_eq_true_eq] at hcontains
    have hcode := toNat_of_name h
    have hrange := caseRuns_beyond_capitals run hrun
    omega
  rw [simpleLower, hnone]

theorem lowerFrom_of_name (before : List Char) {cs : List Char}
    (h : ∀ c ∈ cs, IsAlphanumeric c ∨ c = '-') : lowerFrom before cs = cs := by
  induction cs generalizing before with
  | nil => rfl
  | cons c rest ih =>
      have hc := h c List.mem_cons_self
      have hcode := toNat_of_name hc
      have hdotted : c ≠ '\u0130' := by
        rintro rfl
        exact absurd hcode (by decide)
      have hsigma : c ≠ '\u03a3' := by
        rintro rfl
        exact absurd hcode (by decide)
      rw [lowerFrom_cons, ih _ fun x hx => h x (List.mem_cons_of_mem c hx), lowerAt,
        if_neg hdotted, if_neg hsigma, simpleLower_of_name hc, List.singleton_append]

/-- A name of a resource is its own lower-case form. -/
theorem lowercase_of_name {cs : List Char} (h : ∀ c ∈ cs, IsAlphanumeric c ∨ c = '-') :
    lowercase cs = cs :=
  lowerFrom_of_name [] h

end Text

end ProfileOperator
