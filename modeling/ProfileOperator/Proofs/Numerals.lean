import Mathlib.Data.Nat.Digits.Defs
import ProfileOperator.Text.Numeral

/-!
# Numerals that are read back

The digits of a number, in any base that has digits, are read as the number again, and reading stops
where they end if no further digit follows.  Numerals are written without leading zeros.
-/

namespace ProfileOperator

namespace Text

variable {base : Nat}

theorem digitValue_digitChar : ∀ d < 16, digitValue d.digitChar = d := by
  decide

/-- Numerals grow digit by digit at their end, and none but zero itself starts from zero. -/
theorem toDigits_induction (hbase : 1 < base) {P : Nat -> List Char -> Prop}
    (digit : ∀ d < base, P d [d.digitChar])
    (append : ∀ n d, 0 < n -> d < base -> P n (Nat.toDigits base n) ->
      P (n * base + d) (Nat.toDigits base n ++ [d.digitChar]))
    (n : Nat) : P n (Nat.toDigits base n) := by
  induction n using Nat.strongRecOn with
  | ind n ih =>
      by_cases hlt : n < base
      · rw [Nat.toDigits_of_lt_base hlt]
        exact digit n hlt
      · have hle : base ≤ n := Nat.le_of_not_lt hlt
        have hpos : 0 < n / base := Nat.div_pos hle (by omega)
        have hgrown := append (n / base) (n % base) hpos (Nat.mod_lt n (by omega))
          (ih _ (Nat.div_lt_self (by omega) hbase))
        rwa [Nat.div_add_mod', ← Nat.toDigits_of_base_le hbase hle] at hgrown

/-- What holds of the digits of a base holds of every character of a numeral. -/
theorem forall_mem_toDigits (hbase : 1 < base) {P : Char -> Prop} (h : ∀ d < base, P d.digitChar)
    (n : Nat) : ∀ c ∈ Nat.toDigits base n, P c := by
  refine toDigits_induction hbase (P := fun _ digits => ∀ c ∈ digits, P c) ?_ ?_ n
  · simpa using h
  · intro n d _ hd ih c hc
    rcases List.mem_append.1 hc with hc | hc
    · exact ih c hc
    · rw [List.mem_singleton.1 hc]
      exact h d hd

theorem exists_toDigits_eq_cons (base : Nat) (hbase : 1 < base) {P : Char -> Prop}
    (h : ∀ d < base, P d.digitChar) (n : Nat) :
    ∃ c cs, Nat.toDigits base n = c :: cs ∧ P c := by
  obtain ⟨c, cs, hdigits⟩ := List.exists_cons_of_ne_nil (Nat.toDigits_ne_nil (n := n) (b := base))
  exact ⟨c, cs, hdigits, forall_mem_toDigits hbase h n c (hdigits ▸ List.mem_cons_self)⟩

theorem isDigit_of_mem_toDigits (hbase : 1 < base) (hmost : base ≤ 16) {n : Nat} :
    ∀ c ∈ Nat.toDigits base n, isDigit base c = true := by
  refine forall_mem_toDigits hbase ?_ n
  intro d hd
  rw [isDigit, digitValue_digitChar d (by omega)]
  exact decide_eq_true hd

theorem numeralValue_toDigits (hbase : 1 < base) (hmost : base ≤ 16) (n : Nat) :
    numeralValue base (Nat.toDigits base n) = n := by
  refine toDigits_induction hbase (P := fun n digits => numeralValue base digits = n) ?_ ?_ n
  · intro d hd
    simp [numeralValue, digitValue_digitChar d (by omega)]
  · intro n d _ hd ih
    rw [numeralValue_append_singleton, ih, digitValue_digitChar d (by omega)]

/-- No zero stands in front of other digits. -/
theorem head?_toDigits_ne_zero (hbase : 1 < base) {n : Nat} (hn : 0 < n) :
    (Nat.toDigits base n).head? ≠ some '0' := by
  refine toDigits_induction hbase
    (P := fun n digits => 0 < n -> digits.head? ≠ some '0') ?_ ?_ n hn
  · intro d _ hd
    rw [List.head?_cons, Ne, Option.some.injEq, Nat.digitChar_eq_zero]
    omega
  · intro n d hn _ ih _
    obtain ⟨c, cs, hdigits⟩ := List.exists_cons_of_ne_nil (Nat.toDigits_ne_nil (n := n) (b := base))
    rw [hdigits] at ih ⊢
    exact ih hn

/-- The text does not go on with a digit. -/
def EndsDigits (base : Nat) (rest : List Char) : Prop :=
  ∀ c ∈ rest.head?, isDigit base c = false

theorem endsDigits_cons {c : Char} (h : isDigit base c = false) (rest : List Char) :
    EndsDigits base (c :: rest) := by
  rintro _ ⟨⟩
  exact h

theorem isDigit_eq_false_of_le {small : Nat} (hle : small ≤ base) {c : Char}
    (h : isDigit base c = false) : isDigit small c = false := by
  simp only [isDigit, decide_eq_false_iff_not] at h ⊢
  omega

theorem EndsDigits.of_le {small : Nat} {rest : List Char} (h : EndsDigits base rest)
    (hle : small ≤ base) : EndsDigits small rest :=
  fun c hc => isDigit_eq_false_of_le hle (h c hc)

theorem EndsDigits.spanDigits_eq {rest : List Char} (h : EndsDigits base rest) :
    spanDigits base rest = ([], rest) := by
  cases rest with
  | nil => rfl
  | cons c more => simp [spanDigits, h c rfl]

theorem spanDigits_append_of_forall {digits rest : List Char}
    (hdigits : ∀ c ∈ digits, isDigit base c = true) (hend : EndsDigits base rest) :
    spanDigits base (digits ++ rest) = (digits, rest) := by
  have hrest := hend.spanDigits_eq
  simp only [spanDigits, Prod.mk.injEq] at hrest ⊢
  rw [List.takeWhile_append_of_pos hdigits, List.dropWhile_append_of_pos hdigits, hrest.1, hrest.2,
    List.append_nil]
  exact ⟨rfl, rfl⟩

theorem spanDigits_toDigits (hbase : 1 < base) (hmost : base ≤ 16) (n : Nat) {rest : List Char}
    (hend : EndsDigits base rest) :
    spanDigits base (Nat.toDigits base n ++ rest) = (Nat.toDigits base n, rest) :=
  spanDigits_append_of_forall (isDigit_of_mem_toDigits hbase hmost) hend

end Text

end ProfileOperator
