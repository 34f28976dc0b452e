import ProfileOperator.Json.Printer
import ProfileOperator.Json.Reader
import ProfileOperator.Proofs.Numerals
import ProfileOperator.Text.Range

/-!
# Compact text that is read back

What is printed without blanks is read as the value that was printed.  Every character of a string is
escaped into a piece that shows where it ends, every value ends where what follows it cannot belong to
it, and the text is longer than the reader needs to go deep.  So two values never share a text.
-/

namespace ProfileOperator

namespace Json

/-! ### Strings -/

/-- The three ways in which a character is written between quotation marks. -/
inductive Escaped (c : Char) : List Char -> Prop where
  | short (e : Char) (h : shortEscape? e = some c) : Escaped c ['\\', e]
  | control (high low : Char) (hdigits : ['0', '0', high, low].all (Text.isDigit 16) = true)
      (hvalue : Text.numeralValue 16 ['0', '0', high, low] = c.toNat) (hcode : c.toNat < 0x20) :
      Escaped c ['\\', 'u', '0', '0', high, low]
  | plain (hquote : c ≠ '\x22') (hback : c ≠ '\\') (hcode : ¬c.toNat < 0x20) : Escaped c [c]

theorem escaped_control {c : Char} (h : c.toNat < 0x20) :
    Escaped c (['\\', 'u', '0', '0'] ++ controlDigits c) := by
  have hdigits : controlDigits c = [(c.toNat / 16).digitChar, (c.toNat % 16).digitChar] :=
    Text.forall_ascii (P := fun c => c.toNat < 0x20 ->
      controlDigits c = [(c.toNat / 16).digitChar, (c.toNat % 16).digitChar])
      (by decide) (by omega) h
  -- The first two digits are always zeros, so there are no more than 32 texts to look at.
  have hread : ∀ n < 0x20,
      ['0', '0', (n / 16).digitChar, (n % 16).digitChar].all (Text.isDigit 16) = true ∧
        Text.numeralValue 16 ['0', '0', (n / 16).digitChar, (n % 16).digitChar] = n := by
    decide
  rw [hdigits]
  exact .control _ _ (hread c.toNat h).1 (hread c.toNat h).2 h

theorem escaped_escapeChar (c : Char) : Escaped c (escapeChar c) := by
  unfold escapeChar
  split
  · next h => exact .short '\x22' (by rw [h]; rfl)
  · next hquote =>
      split
      · next h => exact .short '\\' (by rw [h]; rfl)
      · next hback =>
          split
          · next h => exact .short 'b' (by rw [h]; rfl)
          · split
            · next h => exact .short 'f' (by rw [h]; rfl)
            · split
              · next h => exact .short 'n' (by rw [h]; rfl)
              · split
                · next h => exact .short 'r' (by rw [h]; rfl)
                · split
                  · next h => exact .short 't' (by rw [h]; rfl)
                  · split
                    · next hcode => exact escaped_control hcode
                    · next hcode => exact .plain hquote hback hcode

/-- A character is read back from what it is written as, and then the rest is read. -/
theorem readString_escaped {c : Char} {escaped : List Char} (h : Escaped c escaped)
    (surrogates : Surrogates) (fuel : Nat) (rest : List Char) :
    readString surrogates (fuel + 1) (escaped ++ rest) =
      (readString surrogates fuel rest).map fun read => (c :: read.1, read.2) := by
  cases h with
  | short e h =>
      have he : e ≠ 'u' := by
        rintro rfl
        cases h
      rw [List.cons_append, List.singleton_append, readString.eq_5 _ _ _ _ _ he,
        if_neg (by decide), if_pos rfl, h, Option.bind_eq_bind, Option.bind_some]
      cases readString surrogates fuel rest with
      | none => rfl
      | some read => rfl
  | control high low hdigits hvalue hcode =>
      have hunit : readUnit ('0' :: '0' :: high :: low :: rest) = some (c.toNat, rest) := by
        rw [readUnit, if_pos hdigits, hvalue]
      have hpoint : readCodePoint surrogates ('0' :: '0' :: high :: low :: rest) =
          some (c, rest) := by
        rw [readCodePoint, hunit, Option.bind_eq_bind, Option.bind_some]
        simp only
        rw [if_pos (.inl (by omega)), Char.ofNat_toNat]
      simp only [List.cons_append, List.nil_append]
      rw [readString, if_neg (by decide), if_pos rfl, hpoint, Option.bind_eq_bind, Option.bind_some]
      simp only
      cases readString surrogates fuel rest with
      | none => rfl
      | some read => rfl
  | plain hquote hback hcode =>
      rw [List.singleton_append, readString.eq_def]
      simp only [if_neg hquote, if_neg hback, if_neg hcode]
      cases readString surrogates fuel rest with
      | none => rfl
      | some read => rfl

theorem readString_flatMap (surrogates : Surrogates) {fuel : Nat} {cs : List Char}
    (hfuel : cs.length < fuel) (rest : List Char) :
    readString surrogates fuel (cs.flatMap escapeChar ++ '\x22' :: rest) = some (cs, rest) := by
  induction cs generalizing fuel with
  | nil =>
      obtain ⟨fuel, rfl⟩ := Nat.exists_eq_add_of_lt hfuel
      simp [readString]
  | cons c cs ih =>
      obtain ⟨left, rfl⟩ : ∃ left, fuel = left + 1 := ⟨fuel - 1, by omega⟩
      rw [List.flatMap_cons, List.append_assoc, readString_escaped (escaped_escapeChar c),
        ih (by simpa using hfuel)]
      rfl

theorem Escaped.length_pos {c : Char} {escaped : List Char} (h : Escaped c escaped) :
    0 < escaped.length := by
  cases h with
  | short => exact Nat.succ_pos _
  | control => exact Nat.succ_pos _
  | plain => exact Nat.succ_pos _

theorem length_le_flatMap_escapeChar (cs : List Char) :
    cs.length ≤ (cs.flatMap escapeChar).length := by
  induction cs with
  | nil => exact Nat.le_refl 0
  | cons c cs ih =>
      have hpos := (escaped_escapeChar c).length_pos
      rw [List.flatMap_cons, List.length_append, List.length_cons]
      omega

theorem stringText_append (s : String) (rest : List Char) :
    stringText s ++ rest = '\x22' :: (s.toList.flatMap escapeChar ++ '\x22' :: rest) := by
  simp [stringText]

/-- The fuel that the reader gives itself is enough for any string. -/
theorem readString_text (surrogates : Surrogates) (s : String) (rest : List Char) :
    readString surrogates ((s.toList.flatMap escapeChar ++ '\x22' :: rest).length + 1)
        (s.toList.flatMap escapeChar ++ '\x22' :: rest) = some (s.toList, rest) := by
  have hlength := length_le_flatMap_escapeChar s.toList
  apply readString_flatMap
  rw [List.length_append]
  omega

/-! ### Numbers -/

theorem readDigits_toDigits (n : Nat) {rest : List Char} (hend : Text.EndsDigits 10 rest) :
    readDigits (Nat.toDigits 10 n ++ rest) = some (Nat.toDigits 10 n, rest) := by
  obtain ⟨d, ds, hdigits⟩ := List.exists_cons_of_ne_nil (Nat.toDigits_ne_nil (n := n) (b := 10))
  rw [readDigits, Text.spanDigits_toDigits (by decide) (by decide) n hend, hdigits]

theorem readWhole_toDigits (n : Nat) {rest : List Char} (hend : Text.EndsDigits 10 rest) :
    readWhole (Nat.toDigits 10 n ++ rest) = some (Nat.toDigits 10 n, rest) := by
  have hzero : ¬((Nat.toDigits 10 n).head? = some '0' ∧ (Nat.toDigits 10 n).length ≠ 1) := by
    rintro ⟨hhead, hlength⟩
    cases n with
    | zero => exact hlength rfl
    | succ n => exact Text.head?_toDigits_ne_zero (by decide) (Nat.succ_pos n) hhead
  rw [readWhole, readDigits_toDigits n hend, Option.bind_eq_bind, Option.bind_some]
  simp only [if_neg hzero]

/-- What may follow a value: a comma or the end of what the value stands in. -/
def EndsValue (rest : List Char) : Prop :=
  ∀ c ∈ rest.head?, c = ',' ∨ c = ']' ∨ c = '\x7d'

theorem endsDigits_of_endsValue {rest : List Char} (h : EndsValue rest) :
    Text.EndsDigits 10 rest := by
  intro c hc
  rcases h c hc with rfl | rfl | rfl
  · decide
  · decide
  · decide

theorem readFraction_of_ne {rest : List Char} (h : rest.head? ≠ some '.') :
    readFraction rest = some ([], rest) := by
  unfold readFraction
  split
  · exact absurd rfl h
  · rfl

theorem readExponent_of_endsValue {rest : List Char} (h : EndsValue rest) :
    readExponent rest = some (none, rest) := by
  cases rest with
  | nil => rfl
  | cons c rest =>
      rcases h c rfl with rfl | rfl | rfl
      · rfl
      · rfl
      · rfl

theorem readExponent_wholeText (i : Int) {rest : List Char} (h : EndsValue rest) :
    readExponent ('e' :: (wholeText i ++ rest)) = some (some i, rest) := by
  have hread := readDigits_toDigits i.natAbs (endsDigits_of_endsValue h)
  have hvalue : Text.numeralValue 10 (Nat.toDigits 10 i.natAbs) = i.natAbs :=
    Text.numeralValue_toDigits (by decide) (by decide) i.natAbs
  unfold wholeText
  split
  · next hneg =>
      rw [List.cons_append, readExponent, if_pos (.inl rfl), hread, Option.map_some]
      simp only [hvalue]
      congr 3
      omega
  · next hpos =>
      obtain ⟨d, ds, hdigits, hminus, hplus⟩ := Text.exists_toDigits_eq_cons 10 (by decide)
        (P := fun d => d ≠ '-' ∧ d ≠ '+') (by decide) i.natAbs
      rw [readExponent.eq_4 _ _ (by simp [hdigits, hminus]) (by simp [hdigits, hplus]),
        if_pos (.inl rfl), hread, Option.map_some]
      simp only [hvalue]
      congr 3
      omega

/-- A number with its sign in front, followed by what reads as an exponent or as none. -/
theorem readNumber_toDigits (negative : Bool) (n : Nat) {tail rest : List Char}
    {exponent : Option Int} (hend : Text.EndsDigits 10 tail) (hpoint : tail.head? ≠ some '.')
    (hexponent : readExponent tail = some (exponent, rest)) :
    readNumber ((if negative then ['-'] else []) ++ (Nat.toDigits 10 n ++ tail)) =
      some (literalNumber negative (Nat.toDigits 10 n) [] exponent, rest) := by
  have hwhole := readWhole_toDigits n hend
  have hfraction := readFraction_of_ne hpoint
  -- The equation lemma of the definition runs into the recursion limit.
  delta readNumber
  cases negative with
  | true =>
      simp only [if_true, List.singleton_append]
      rw [hwhole, Option.bind_eq_bind, Option.bind_some]
      simp only [hfraction, hexponent, Option.bind_eq_bind, Option.bind_some]
  | false =>
      obtain ⟨d, ds, hdigits, hminus⟩ := Text.exists_toDigits_eq_cons 10 (by decide)
        (P := fun d => d ≠ '-') (by decide) n
      simp only [Bool.false_eq_true, if_false, List.nil_append]
      split
      · next heq =>
          rw [hdigits] at heq
          exact absurd (List.cons.inj heq).1 hminus
      · rw [hwhole]
        simp only [hfraction, hexponent, Option.bind_eq_bind, Option.bind_some]

theorem wholeText_eq (i : Int) :
    wholeText i = (if decide (i < 0) then ['-'] else []) ++ Nat.toDigits 10 i.natAbs := by
  by_cases hneg : i < 0
  · simp [wholeText, hneg]
  · simp [wholeText, hneg]

theorem literalNumber_whole {i : Int} (h : isMachineWhole i = true) :
    literalNumber (decide (i < 0)) (Nat.toDigits 10 i.natAbs) [] none = .whole i := by
  have hvalue : (if decide (i < 0) = true then -(i.natAbs : Int) else i.natAbs) = i := by
    by_cases hneg : i < 0
    · rw [if_pos (decide_eq_true hneg)]
      omega
    · rw [if_neg (by simpa using hneg)]
      omega
  simp only [literalNumber, List.append_nil, Text.numeralValue_toDigits (by decide : 1 < 10)
    (by decide), hvalue]
  rw [if_pos ⟨trivial, trivial, h, by simp; omega⟩]

theorem readNumber_whole {i : Int} (h : isMachineWhole i = true) {rest : List Char}
    (hend : EndsValue rest) : readNumber (wholeText i ++ rest) = some (.whole i, rest) := by
  have hpoint : rest.head? ≠ some '.' := by
    intro hpoint
    exact absurd (hend '.' hpoint) (by decide)
  rw [wholeText_eq, List.append_assoc, readNumber_toDigits _ _ (endsDigits_of_endsValue hend) hpoint
    (readExponent_of_endsValue hend), literalNumber_whole h]

theorem readNumber_decimal (negative : Bool) (coefficient : Nat) (exponent : Int)
    {rest : List Char} (hend : EndsValue rest) :
    readNumber (numberText (.decimal negative coefficient exponent) ++ rest) =
      some (.decimal negative coefficient exponent, rest) := by
  have hexponent := readExponent_wholeText exponent hend
  simp only [numberText, List.append_assoc, List.cons_append]
  rw [readNumber_toDigits negative coefficient (Text.endsDigits_cons (by decide) _) (by simp)
    hexponent, literalNumber, if_neg (by simp)]
  simp [Text.numeralValue_toDigits]

/-! ### Values -/

/-- No whole number stands in the value that is too large for a machine, for it is read as a decimal. -/
inductive InRange : Json -> Prop where
  | null : InRange .null
  | bool (value : Bool) : InRange (.bool value)
  | whole (value : Int) (h : isMachineWhole value = true) : InRange (.number (.whole value))
  | decimal (negative : Bool) (coefficient : Nat) (exponent : Int) :
      InRange (.number (.decimal negative coefficient exponent))
  | string (value : String) : InRange (.string value)
  | array (items : List Json) (h : ∀ item ∈ items, InRange item) : InRange (.array items)
  | object (fields : List (String × Json)) (h : ∀ field ∈ fields, InRange field.2) :
      InRange (.object fields)

/--
The compact text of the value is read as the value, wherever a value may end.  Reading takes one unit of
fuel for a value and one for a place in a list, and either of them has a character of its own.
-/
def Recovers (surrogates : Surrogates) (value : Json) : Prop :=
  ∀ fuel rest, 2 * value.chars.length ≤ fuel -> EndsValue rest ->
    readValue surrogates fuel (value.chars ++ rest) = some (value, rest)

theorem skipBlanks_cons {c : Char} (h : isBlank c = false) (cs : List Char) :
    skipBlanks (c :: cs) = c :: cs := by
  rw [skipBlanks, List.dropWhile_cons_of_neg (by simpa using h)]

/-- A character that a number may start with, but neither another value nor the end of an array. -/
def OpensNumber (c : Char) : Prop :=
  c ∉ ['\x22', '[', '\x7b', 'n', 't', 'f', ']'] ∧ isBlank c = false

instance : DecidablePred OpensNumber := fun _ => inferInstanceAs (Decidable (_ ∧ _))

theorem exists_numberText_eq_cons (number : JsonNumber) :
    ∃ c cs, numberText number = c :: cs ∧ OpensNumber c := by
  have hsigned : ∀ (negative : Bool) (n : Nat) (tail : List Char),
      ∃ c cs, (if negative then ['-'] else []) ++ (Nat.toDigits 10 n ++ tail) = c :: cs ∧
        OpensNumber c := by
    intro negative n tail
    cases negative with
    | true => exact ⟨'-', _, rfl, by decide⟩
    | false =>
        obtain ⟨d, ds, hdigits, hopens⟩ := Text.exists_toDigits_eq_cons 10 (by decide)
          (P := OpensNumber) (by decide) n
        exact ⟨d, ds ++ tail, by simp [hdigits], hopens⟩
  cases number with
  | whole value =>
      simpa [numberText, wholeText_eq] using hsigned (decide (value < 0)) value.natAbs []
  | decimal negative coefficient exponent =>
      simpa [numberText] using hsigned negative coefficient ('e' :: wholeText exponent)

theorem exists_chars_eq_cons (value : Json) :
    ∃ c cs, value.chars = c :: cs ∧ isBlank c = false ∧ c ≠ ']' := by
  cases value with
  | null => exact ⟨'n', _, rfl, by decide, by decide⟩
  | bool value =>
      cases value with
      | true => exact ⟨'t', _, rfl, by decide, by decide⟩
      | false => exact ⟨'f', _, rfl, by decide, by decide⟩
  | number number =>
      obtain ⟨c, cs, hchars, hopens, hblank⟩ := exists_numberText_eq_cons number
      exact ⟨c, cs, hchars, hblank, fun hc => hopens (by simp [hc])⟩
  | string value => exact ⟨'\x22', _, rfl, by decide, by decide⟩
  | array items => exact ⟨'[', _, rfl, by decide, by decide⟩
  | object fields => exact ⟨'\x7b', _, rfl, by decide, by decide⟩

theorem skipBlanks_chars (value : Json) (rest : List Char) :
    skipBlanks (value.chars ++ rest) = value.chars ++ rest := by
  obtain ⟨c, cs, hchars, hblank, _⟩ := exists_chars_eq_cons value
  rw [hchars, List.cons_append, skipBlanks_cons hblank]

theorem length_chars_pos (value : Json) : 0 < value.chars.length := by
  obtain ⟨c, cs, hchars, _⟩ := exists_chars_eq_cons value
  rw [hchars]
  exact Nat.succ_pos _

variable {surrogates : Surrogates}

theorem exists_fuel {value : Json} {fuel : Nat} (h : 2 * value.chars.length ≤ fuel) :
    ∃ left, fuel = left + 1 := by
  have hpos := length_chars_pos value
  exact ⟨fuel - 1, by omega⟩

theorem recovers_null : Recovers surrogates .null := by
  intro fuel rest hfuel _
  obtain ⟨left, rfl⟩ := exists_fuel hfuel
  rfl

theorem recovers_bool (value : Bool) : Recovers surrogates (.bool value) := by
  intro fuel rest hfuel _
  obtain ⟨left, rfl⟩ := exists_fuel hfuel
  cases value with
  | true => rfl
  | false => rfl

theorem recovers_number {number : JsonNumber}
    (h : ∀ {rest}, EndsValue rest -> readNumber (numberText number ++ rest) = some (number, rest)) :
    Recovers surrogates (.number number) := by
  intro fuel rest hfuel hend
  obtain ⟨left, rfl⟩ := exists_fuel hfuel
  obtain ⟨c, cs, hchars, hopens, _⟩ := exists_numberText_eq_cons number
  have hread := h hend
  simp only [List.mem_cons, not_or] at hopens
  obtain ⟨hstring, harray, hobject, hnull, htrue, hfalse, _⟩ := hopens
  rw [chars, hchars, List.cons_append] at *
  rw [readValue, if_neg hstring, if_neg harray, if_neg hobject, if_neg hnull, if_neg htrue,
    if_neg hfalse, hread, Option.map_some]

theorem recovers_string (s : String) : Recovers surrogates (.string s) := by
  intro fuel rest hfuel _
  obtain ⟨left, rfl⟩ := exists_fuel hfuel
  rw [chars, stringText_append, readValue, if_pos rfl, readString_text, Option.map_some]
  simp only [String.ofList_toList]

theorem endsValue_cons {c : Char} (h : c = ',' ∨ c = ']' ∨ c = '\x7d') (rest : List Char) :
    EndsValue (c :: rest) := by
  rintro _ ⟨⟩
  exact h

theorem exists_itemChars_eq_append (item : Json) (others : List Json) :
    ∃ more, itemChars (item :: others) = item.chars ++ more := by
  cases others with
  | nil => exact ⟨[], by rw [itemChars, List.append_nil]⟩
  | cons next others => exact ⟨_, by rw [itemChars]⟩

theorem exists_fieldChars_eq_append (key : String) (value : Json)
    (others : List (String × Json)) :
    ∃ more, fieldChars ((key, value) :: others) = '\x22' :: more := by
  cases others with
  | nil => exact ⟨_, by rw [fieldChars, stringText_append]⟩
  | cons next others => exact ⟨_, by rw [fieldChars, List.append_assoc, stringText_append]⟩

theorem skipBlanks_itemChars (item : Json) (others : List Json) (rest : List Char) :
    skipBlanks (itemChars (item :: others) ++ rest) = itemChars (item :: others) ++ rest := by
  obtain ⟨more, hmore⟩ := exists_itemChars_eq_append item others
  rw [hmore, List.append_assoc, skipBlanks_chars]

theorem skipBlanks_fieldChars (field : String × Json) (others : List (String × Json))
    (rest : List Char) :
    skipBlanks (fieldChars (field :: others) ++ rest) = fieldChars (field :: others) ++ rest := by
  obtain ⟨more, hmore⟩ := exists_fieldChars_eq_append field.1 field.2 others
  rw [hmore, List.cons_append, skipBlanks_cons (by decide)]

theorem readItems_itemChars {items : List Json} (hne : items ≠ [])
    (h : ∀ item ∈ items, Recovers surrogates item) {fuel : Nat}
    (hfuel : 2 * (itemChars items).length < fuel) (rest : List Char) :
    readItems surrogates fuel (itemChars items ++ ']' :: rest) = some (items, rest) := by
  induction items generalizing fuel with
  | nil => exact absurd rfl hne
  | cons item others ih =>
      obtain ⟨hitem, hothers⟩ := List.forall_mem_cons.1 h
      obtain ⟨left, rfl⟩ : ∃ left, fuel = left + 1 := ⟨fuel - 1, by omega⟩
      cases others with
      | nil =>
          rw [itemChars] at hfuel ⊢
          rw [readItems, hitem left _ (by omega) (endsValue_cons (by decide) rest)]
          rfl
      | cons next others =>
          rw [itemChars] at hfuel ⊢
          simp only [List.length_append, List.length_cons] at hfuel
          have hmore : readItems surrogates left (itemChars (next :: others) ++ ']' :: rest) =
              some (next :: others, rest) :=
            ih (List.cons_ne_nil _ _) hothers (by omega)
          rw [List.append_assoc, List.cons_append, readItems,
            hitem left _ (by omega) (endsValue_cons (by decide) _), Option.bind_eq_bind,
            Option.bind_some]
          simp only [skipBlanks_cons (c := ',') (by decide), skipBlanks_itemChars, hmore,
            Option.bind_eq_bind, Option.bind_some]

theorem readFields_field {value : Json} (h : Recovers surrogates value) {fuel : Nat}
    (hfuel : 2 * value.chars.length ≤ fuel) (key : String) {tail : List Char}
    (htail : EndsValue tail) :
    readFields surrogates (fuel + 1) (stringText key ++ ':' :: (value.chars ++ tail)) =
      match skipBlanks tail with
      | '\x7d' :: rest => some ([(key, value)], rest)
      | ',' :: rest => do
          let (fields, rest) ← readFields surrogates fuel (skipBlanks rest)
          some ((key, value) :: fields, rest)
      | _ => none := by
  rw [stringText_append, readFields, readString_text, Option.bind_eq_bind, Option.bind_some]
  simp only [skipBlanks_cons (c := ':') (by decide), skipBlanks_chars, String.ofList_toList]
  rewrite [h fuel tail hfuel htail, Option.bind_eq_bind, Option.bind_some]
  rfl

theorem readFields_fieldChars {fields : List (String × Json)} (hne : fields ≠ [])
    (h : ∀ field ∈ fields, Recovers surrogates field.2) {fuel : Nat}
    (hfuel : 2 * (fieldChars fields).length < fuel) (rest : List Char) :
    readFields surrogates fuel (fieldChars fields ++ '\x7d' :: rest) = some (fields, rest) := by
  induction fields generalizing fuel with
  | nil => exact absurd rfl hne
  | cons field others ih =>
      obtain ⟨key, value⟩ := field
      obtain ⟨hfield, hothers⟩ := List.forall_mem_cons.1 h
      have hvalue : Recovers surrogates value := hfield
      obtain ⟨left, rfl⟩ : ∃ left, fuel = left + 1 := ⟨fuel - 1, by omega⟩
      cases others with
      | nil =>
          rw [fieldChars] at hfuel ⊢
          simp only [List.length_append, List.length_cons] at hfuel
          rw [List.append_assoc, List.cons_append, readFields_field hvalue (by omega) key
            (endsValue_cons (by decide) rest)]
          rfl
      | cons next others =>
          rw [fieldChars] at hfuel ⊢
          simp only [List.length_append, List.length_cons] at hfuel
          have hmore : readFields surrogates left (fieldChars (next :: others) ++ '\x7d' :: rest) =
              some (next :: others, rest) :=
            ih (List.cons_ne_nil _ _) hothers (by omega)
          simp only [List.append_assoc, List.cons_append]
          rw [readFields_field hvalue (by omega) key (endsValue_cons (by decide) _),
            skipBlanks_cons (by decide)]
          simp only [skipBlanks_fieldChars, hmore, Option.bind_eq_bind, Option.bind_some]

theorem recovers_array {items : List Json} (h : ∀ item ∈ items, Recovers surrogates item) :
    Recovers surrogates (.array items) := by
  intro fuel rest hfuel _
  obtain ⟨left, rfl⟩ := exists_fuel hfuel
  simp only [chars, List.length_append, List.length_cons, List.cons_append] at hfuel ⊢
  rw [readValue, if_neg (by decide), if_pos rfl]
  cases items with
  | nil => rfl
  | cons item others =>
      have hread : readItems surrogates left (itemChars (item :: others) ++ ']' :: rest) =
          some (item :: others, rest) :=
        readItems_itemChars (List.cons_ne_nil item others) h (by omega) rest
      rw [List.append_assoc, skipBlanks_itemChars]
      split
      · next hclosed =>
          -- The reader looks for the end of an empty array first, which no value starts with.
          obtain ⟨more, hmore⟩ := exists_itemChars_eq_append item others
          obtain ⟨c, cs, hchars, _, hc⟩ := exists_chars_eq_cons item
          rw [hmore, hchars] at hclosed
          exact absurd (List.cons.inj hclosed).1 hc
      · rw [List.singleton_append, hread, Option.map_some]

theorem recovers_object {fields : List (String × Json)}
    (h : ∀ field ∈ fields, Recovers surrogates field.2) : Recovers surrogates (.object fields) := by
  intro fuel rest hfuel _
  obtain ⟨left, rfl⟩ := exists_fuel hfuel
  simp only [chars, List.length_append, List.length_cons, List.cons_append] at hfuel ⊢
  rw [readValue, if_neg (by decide), if_neg (by decide), if_pos rfl]
  cases fields with
  | nil => rfl
  | cons field others =>
      have hread : readFields surrogates left (fieldChars (field :: others) ++ '\x7d' :: rest) =
          some (field :: others, rest) :=
        readFields_fieldChars (List.cons_ne_nil field others) h (by omega) rest
      rw [List.append_assoc, skipBlanks_fieldChars]
      split
      · next hclosed =>
          obtain ⟨more, hmore⟩ := exists_fieldChars_eq_append field.1 field.2 others
          rw [hmore] at hclosed
          exact absurd (List.cons.inj hclosed).1 (by decide)
      · rw [List.singleton_append, hread, Option.map_some]

theorem InRange.recovers {value : Json} (h : InRange value) (surrogates : Surrogates) :
    Recovers surrogates value := by
  induction h with
  | null => exact recovers_null
  | bool value => exact recovers_bool value
  | whole value h => exact recovers_number (readNumber_whole h)
  | decimal negative coefficient exponent =>
      exact recovers_number (readNumber_decimal negative coefficient exponent)
  | string value => exact recovers_string value
  | array items _ ih => exact recovers_array ih
  | object fields _ ih => exact recovers_object ih

/-- Nothing is lost in the compact text. -/
theorem parse?_compact {value : Json} (h : InRange value) : parse? value.compact = some value := by
  have hskip : skipBlanks value.chars = value.chars := by
    have hskip := skipBlanks_chars value []
    rwa [List.append_nil] at hskip
  have hread : readValue .paired (2 * value.chars.length + 2) value.chars = some (value, []) := by
    have hread := h.recovers .paired (2 * value.chars.length + 2) [] (by omega) (by rintro _ ⟨⟩)
    rwa [List.append_nil] at hread
  rw [parse?, readWhole?, compact, String.toList_ofList, hskip]
  simp only [hread, Option.bind_eq_bind, Option.bind_some]
  exact if_pos rfl

theorem compact_injective {first second : Json} (hfirst : InRange first)
    (hsecond : InRange second) (h : first.compact = second.compact) : first = second := by
  have hread := parse?_compact hfirst
  rw [h, parse?_compact hsecond] at hread
  exact (Option.some.inj hread).symm

end Json

end ProfileOperator
