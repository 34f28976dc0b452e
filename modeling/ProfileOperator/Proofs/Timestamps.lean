import Mathlib.Data.List.Basic
import Mathlib.Data.Nat.Digits.Defs
import ProfileOperator.Proofs.Numerals
import ProfileOperator.Time.Reader

/-!
# Time stamps that are read back

The printed form of a point in time is read as the same point: its numbers are padded to the widths
that the reader takes, or end where no digit follows, and the fraction ends in zeros where it is cut.
-/

namespace ProfileOperator

/-! ### Numerals -/

namespace Text

def AllDigits (cs : List Char) : Prop :=
  ∀ c ∈ cs, isDigit 10 c = true

theorem isDigit_iff (c : Char) : isDigit 10 c = true ↔ '0' ≤ c ∧ c ≤ '9' := by
  rw [isDigit, decide_eq_true_iff, digitValue]
  split
  · next hdigit =>
      have hcode : c.toNat ≤ 0x39 := UInt32.le_iff_toNat_le.1 hdigit.2
      have hzero : '0'.toNat = 0x30 := rfl
      exact iff_of_true (by omega) hdigit
  · next hother =>
      refine iff_of_false ?_ hother
      split
      · omega
      · split
        · omega
        · omega

theorem allDigits_toDigits (n : Nat) : AllDigits (Nat.toDigits 10 n) :=
  isDigit_of_mem_toDigits (by decide) (by decide)

theorem numeralValue_zeros_append (count : Nat) (digits : List Char) :
    numeralValue 10 (List.replicate count '0' ++ digits) = numeralValue 10 digits := by
  induction count with
  | zero => rfl
  | succ count ih => exact ih

theorem numeralValue_padded (width n : Nat) : numeralValue 10 (padded width n) = n := by
  rw [padded, numeralValue_zeros_append, numeralValue_toDigits (by decide) (by decide)]

theorem allDigits_padded (width n : Nat) : AllDigits (padded width n) := by
  intro c hc
  rcases List.mem_append.1 hc with hzero | hdigit
  · rw [(List.mem_replicate.1 hzero).2]
    decide
  · exact allDigits_toDigits n c hdigit

theorem padded_ne_nil (width n : Nat) : padded width n ≠ [] :=
  List.append_ne_nil_of_right_ne_nil _ Nat.toDigits_ne_nil

theorem length_padded {width n : Nat} (hwidth : 0 < width) (h : n < 10 ^ width) :
    (padded width n).length = width := by
  have hlength := (Nat.length_toDigits_le_iff (b := 10) (by decide) hwidth).2 h
  rw [padded, List.length_append, List.length_replicate]
  omega

/-- A digit is neither blank nor one of the signs that a year may have. -/
theorem plain_of_isDigit {c : Char} (h : isDigit 10 c = true) :
    isBlank c = false ∧ c ≠ '-' ∧ c ≠ '+' := by
  have hcode : c.toNat ≤ 0x39 := UInt32.le_iff_toNat_le.1 ((isDigit_iff c).1 h).2
  exact forall_ascii (P := fun c => isDigit 10 c = true -> isBlank c = false ∧ c ≠ '-' ∧ c ≠ '+')
    (by decide +kernel) (by omega) h

end Text

namespace Time

open ProfileOperator.Text (AllDigits padded allDigits_padded padded_ne_nil numeralValue_padded)

/-! ### Numbers -/

/-- The text does not go on with a digit. -/
def EndsNumber (rest : List Char) : Prop :=
  ∀ c ∈ rest.head?, Text.isDigit 10 c = false

theorem takeWhile_take_append {digits rest : List Char} {most : Nat} (hall : AllDigits digits)
    (hmost : digits.length ≤ most) (hend : digits.length = most ∨ EndsNumber rest) :
    ((digits ++ rest).take most).takeWhile (Text.isDigit 10) = digits := by
  have hnone : (rest.take (most - digits.length)).takeWhile (Text.isDigit 10) = [] := by
    rcases hend with hfull | hstop
    · rw [hfull, Nat.sub_self, List.take_zero, List.takeWhile_nil]
    · cases rest with
      | nil => rw [List.take_nil, List.takeWhile_nil]
      | cons c more =>
          cases most - digits.length with
          | zero => rfl
          | succ left =>
              rw [List.take_succ_cons, List.takeWhile_cons, hstop c rfl]
              rfl
  rw [List.take_append, List.take_of_length_le hmost, List.takeWhile_append_of_pos hall, hnone,
    List.append_nil]

theorem readNumber_append {digits rest : List Char} {most : Nat} (hall : AllDigits digits)
    (hne : digits ≠ []) (hmost : digits.length ≤ most)
    (hend : digits.length = most ∨ EndsNumber rest) :
    readNumber most (digits ++ rest) = some (Text.numeralValue 10 digits, rest) := by
  rw [readNumber, takeWhile_take_append hall hmost hend]
  split
  · exact absurd rfl hne
  · rw [List.drop_left]

theorem readNumber_padded {width n : Nat} (hwidth : 0 < width) (h : n < 10 ^ width)
    (rest : List Char) : readNumber width (padded width n ++ rest) = some (n, rest) := by
  have hlength := Text.length_padded hwidth h
  rw [readNumber_append (allDigits_padded width n) (padded_ne_nil width n) hlength.le
    (.inl hlength), numeralValue_padded]

theorem readLong_padded (width n : Nat) {rest : List Char} (hend : EndsNumber rest) :
    readLong (padded width n ++ rest) = some (n, rest) := by
  rw [readLong, readNumber_append (allDigits_padded width n) (padded_ne_nil width n) (by simp)
    (.inr hend), numeralValue_padded]

theorem exists_padded_eq_cons (width n : Nat) :
    ∃ c cs, padded width n = c :: cs ∧ Text.isDigit 10 c = true := by
  cases hdigits : padded width n with
  | nil => exact absurd hdigits (padded_ne_nil width n)
  | cons c cs =>
      exact ⟨c, cs, rfl, allDigits_padded width n c (hdigits ▸ List.mem_cons_self)⟩

theorem skipBlanks_cons {c : Char} (h : Text.isBlank c = false) (cs : List Char) :
    skipBlanks (c :: cs) = c :: cs := by
  rw [skipBlanks, List.dropWhile_cons_of_neg (by simpa using h)]

theorem skipBlanks_padded (width n : Nat) (rest : List Char) :
    skipBlanks (padded width n ++ rest) = padded width n ++ rest := by
  obtain ⟨c, cs, hpadded, hdigit⟩ := exists_padded_eq_cons width n
  rw [hpadded, List.cons_append, skipBlanks_cons (Text.plain_of_isDigit hdigit).1]

/-- A number behind a mark is reached without skipping anything. -/
theorem readMark_padded (mark : Char) (hmark : Text.isBlank mark = false) (width n : Nat)
    (rest : List Char) :
    readMark mark (mark :: (padded width n ++ rest)) = some (padded width n ++ rest) := by
  rw [readMark, skipBlanks_cons hmark]
  simp only [if_true, skipBlanks_padded]

/-! ### Dates -/

theorem readYear_yearChars (year : Int) {rest : List Char} (hend : EndsNumber rest) :
    readYear (Instant.yearChars year ++ rest) = some (year, rest) := by
  unfold Instant.yearChars
  split
  · next hrange =>
      obtain ⟨c, cs, hpadded, hdigit⟩ := exists_padded_eq_cons 4 year.toNat
      obtain ⟨_, hminus, hplus⟩ := Text.plain_of_isDigit hdigit
      have hread : readNumber 4 (padded 4 year.toNat ++ rest) = some (year.toNat, rest) :=
        readNumber_padded (by decide) (by omega) rest
      rw [hpadded, List.cons_append] at hread ⊢
      rw [readYear.eq_3 _ (by simpa using hminus) (by simpa using hplus), hread]
      simp only [Option.map_some, Int.toNat_of_nonneg hrange.1]
  · next hrange =>
      split
      · next hneg =>
          simp only [List.cons_append, readYear, readLong_padded 4 year.natAbs hend,
            Option.map_some]
          congr 2
          omega
      · next hpos =>
          simp only [List.cons_append, readYear, readLong_padded 4 year.natAbs hend,
            Option.map_some]
          congr 2
          omega

theorem skipBlanks_yearChars (year : Int) (rest : List Char) :
    skipBlanks (Instant.yearChars year ++ rest) = Instant.yearChars year ++ rest := by
  unfold Instant.yearChars
  split
  · exact skipBlanks_padded 4 _ rest
  · split
    · exact skipBlanks_cons (by decide) _
    · exact skipBlanks_cons (by decide) _

theorem endsNumber_cons {c : Char} (h : Text.isDigit 10 c = false) (rest : List Char) :
    EndsNumber (c :: rest) := by
  rintro _ ⟨⟩
  exact h

theorem daysIn_le (year : Int) (month : Nat) : daysIn year month ≤ 31 := by
  unfold daysIn
  split
  · split <;> omega
  · split <;> omega

theorem twoDigits_of_isValid {d : Date} (hd : d.isValid = true) :
    d.month < 10 ^ 2 ∧ d.day < 10 ^ 2 := by
  simp only [Date.isValid, Bool.and_eq_true, decide_eq_true_eq] at hd
  have hdays := daysIn_le d.year d.month
  omega

theorem readDate_dateChars {d : Date} (hd : d.isValid = true) (rest : List Char) :
    readDate (Instant.dateChars d ++ rest) = some (d, rest) := by
  obtain ⟨hmonth, hday⟩ := twoDigits_of_isValid hd
  have hend : EndsNumber ('-' :: (padded 2 d.month ++ '-' :: (padded 2 d.day ++ rest))) :=
    endsNumber_cons (by decide) _
  have hyear := readYear_yearChars d.year hend
  rw [Instant.dateChars, List.append_assoc, List.cons_append, List.append_assoc, List.cons_append,
    readDate, skipBlanks_yearChars, hyear]
  simp only [Option.bind_eq_bind, Option.bind_some, readMark_padded '-' (by decide),
    readNumber_padded (by decide) hmonth, readNumber_padded (by decide) hday]

/-! ### Times of day -/

theorem readFraction_padded {width n : Nat} (hwidth : 0 < width) (hmost : width ≤ 9)
    (h : n < 10 ^ width) :
    readFraction ('.' :: padded width n ++ ['Z']) = some (n * 10 ^ (9 - width), ['Z']) := by
  have hlength := Text.length_padded hwidth h
  have hdigits : ((padded width n ++ ['Z']).take 9).takeWhile (Text.isDigit 10) = padded width n :=
    takeWhile_take_append (allDigits_padded width n) (by omega)
      (.inr (endsNumber_cons (by decide) []))
  rw [List.cons_append, readFraction, hdigits]
  split
  · next hnil => exact absurd hnil (padded_ne_nil width n)
  · rw [numeralValue_padded, hlength, List.drop_left' hlength]
    rfl

/-- The digits that the fraction is cut to lose nothing. -/
theorem readFraction_fractionChars {nanosecond : Nat} (h : nanosecond < 1000000000) :
    readFraction (Instant.fractionChars nanosecond ++ ['Z']) = some (nanosecond, ['Z']) := by
  unfold Instant.fractionChars
  split
  · next hzero =>
      rw [hzero]
      rfl
  · split
    · next hmillis =>
        have hvalue : nanosecond / 1000000 * 10 ^ (9 - 3) = nanosecond := by omega
        rw [readFraction_padded (by decide) (by decide) (by omega), hvalue]
    · split
      · next hmicros =>
          have hvalue : nanosecond / 1000 * 10 ^ (9 - 6) = nanosecond := by omega
          rw [readFraction_padded (by decide) (by decide) (by omega), hvalue]
      · rw [readFraction_padded (by decide) (by decide) (by omega), Nat.sub_self, Nat.pow_zero,
          Nat.mul_one]

theorem readTime_clockChars {t : TimeOfDay} (ht : t.isValid = true) :
    readTime (Instant.clockChars t ++ Instant.fractionChars t.nanosecond ++ ['Z']) =
      some (t, ['Z']) := by
  simp only [TimeOfDay.isValid, Bool.and_eq_true, decide_eq_true_eq] at ht
  obtain ⟨⟨⟨hhour, hminute⟩, hsecond⟩, hnanosecond⟩ := ht
  rw [Instant.clockChars]
  simp only [List.append_assoc, List.cons_append]
  rw [readTime, skipBlanks_padded, readNumber_padded (by decide) (by omega)]
  simp only [Option.bind_eq_bind, Option.bind_some]
  rw [readMark_padded ':' (by decide)]
  simp only [Option.bind_some]
  rw [readNumber_padded (by decide) (by omega)]
  simp only [Option.bind_some]
  rw [readMark_padded ':' (by decide)]
  simp only [Option.bind_some]
  rw [readNumber_padded (by decide) (by omega)]
  simp only [Option.bind_some]
  rw [readFraction_fractionChars hnanosecond]
  rfl

/-! ### Points in time -/

theorem Instant.minus?_zero (t : Instant) : t.minus? 0 = some t := by
  have ht := t.valid.2
  simp only [TimeOfDay.isValid, Bool.and_eq_true, decide_eq_true_eq] at ht
  obtain ⟨⟨⟨hhour, hminute⟩, _⟩, _⟩ := ht
  have hminutes : (t.time.hour * 60 + t.time.minute - 0 : Int) =
      (t.time.hour * 60 + t.time.minute : Nat) := by
    omega
  have hleft : ((t.time.hour * 60 + t.time.minute : Nat) % 1440 : Int).toNat =
      t.time.hour * 60 + t.time.minute := by
    omega
  have hday : (t.time.hour * 60 + t.time.minute : Nat) / 60 = t.time.hour := by
    omega
  have hrest : (t.time.hour * 60 + t.time.minute : Nat) % 60 = t.time.minute := by
    omega
  simp only [minus?, hminutes, hleft, hday, hrest]
  rw [if_neg (by omega), if_pos (by omega)]
  exact of?_date_time t

/-- A point in time is read back from its printed form. -/
theorem Instant.parse?_text (t : Instant) : parse? t.text = some t := by
  have hdate := readDate_dateChars t.valid.1
    ('T' :: (clockChars t.time ++ fractionChars t.time.nanosecond ++ ['Z']))
  have htime := readTime_clockChars t.valid.2
  unfold parse?
  rw [text, String.toList_ofList]
  simp only [List.append_assoc, List.cons_append] at hdate htime ⊢
  rw [hdate]
  simp only [Option.bind_eq_bind, Option.bind_some, readTimeMark, true_or, if_true]
  rw [htime]
  have hoffset : readOffset (skipBlanks ['Z']) = some (0, []) := by
    decide
  simp only [Option.bind_some, hoffset, of?_date_time]
  rw [if_pos (by decide), minus?_zero]

/-- The point in time without what is less than a second. -/
def Instant.inSeconds (t : Instant) : Instant where
  date := t.date
  time := { t.time with nanosecond := 0 }
  valid := ⟨t.valid.1, by
    have h := t.valid.2
    simp only [TimeOfDay.isValid, Bool.and_eq_true, decide_eq_true_eq] at h ⊢
    exact ⟨h.1, by decide⟩⟩

theorem Instant.parse?_secondsText (t : Instant) : parse? t.secondsText = some t.inSeconds := by
  have htext : t.inSeconds.text = t.secondsText := by
    simp [text, secondsText, inSeconds, fractionChars, clockChars]
  rw [← htext, parse?_text]

end Time

end ProfileOperator
