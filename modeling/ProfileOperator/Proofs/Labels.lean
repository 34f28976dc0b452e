import Mathlib.Data.List.TakeWhile
import ProfileOperator.Template

/-!
# Labels as they are written

A label is written as a key and a value on the two sides of an equals sign, with or without a pair of
quote marks around either of them.  The first equals sign counts, one pair of quote marks is taken off
each side, and the key must not be empty then.
-/

namespace ProfileOperator

/-! ### Quote marks around a text -/

theorem unquote_quoted {mark : Char} (cs : List Char) (hmark : Flag.isQuote mark = true) :
    unquote (mark :: (cs ++ [mark])) = cs := by
  rw [unquote, if_pos ⟨hmark, List.getLast?_concat⟩, List.dropLast_concat]

/-- A pair of equal quote marks around a text is taken off once; without one the text stays. -/
inductive Unwraps : List Char -> List Char -> Prop where
  | quoted (mark : Char) (inner : List Char) (h : Flag.isQuote mark = true) :
      Unwraps (mark :: (inner ++ [mark])) inner
  | bare (text : List Char)
      (h : ∀ mark inner, Flag.isQuote mark = true -> text ≠ mark :: (inner ++ [mark])) :
      Unwraps text text

theorem Unwraps.of_not_isQuote {text : List Char} (h : ∀ c ∈ text, Flag.isQuote c = false) :
    Unwraps text text := by
  refine .bare text ?_
  intro mark inner hmark htext
  rw [h mark (htext ▸ List.mem_cons_self)] at hmark
  cases hmark

theorem unwraps_unquote (text : List Char) : Unwraps text (unquote text) := by
  cases text with
  | nil => exact .bare [] (by simp)
  | cons c rest =>
      rw [unquote]
      by_cases hpair : Flag.isQuote c = true ∧ rest.getLast? = some c
      · obtain ⟨inner, rfl⟩ := List.getLast?_eq_some_iff.1 hpair.2
        rw [if_pos hpair, List.dropLast_concat]
        exact .quoted c inner hpair.1
      · rw [if_neg hpair]
        refine .bare (c :: rest) ?_
        intro mark inner hmark htext
        obtain ⟨rfl, rfl⟩ := List.cons.inj htext
        exact hpair ⟨hmark, List.getLast?_concat⟩

theorem unquote_eq_iff {text inner : List Char} : unquote text = inner ↔ Unwraps text inner := by
  constructor
  · intro h
    exact h ▸ unwraps_unquote text
  · intro h
    cases h with
    | quoted mark _ hmark => exact unquote_quoted inner hmark
    | bare _ hbare =>
        -- Had a pair been taken off, the text would be quoted after all.
        generalize htext : unquote text = left
        have hleft := unwraps_unquote text
        rw [htext] at hleft
        cases hleft with
        | quoted mark _ hmark => exact absurd rfl (hbare mark left hmark)
        | bare _ _ => rfl

/-! ### The two sides of a label -/

/-- The two sides of the first equals sign. -/
structure Sides (value : String) (left right : List Char) : Prop where
  text : value.toList = left ++ '=' :: right
  first : '=' ∉ left

theorem exists_sides {value : String} (h : '=' ∈ value.toList) :
    ∃ left right, Sides value left right := by
  obtain ⟨left, right, htext, hfirst⟩ := List.eq_append_cons_of_mem h
  exact ⟨left, right, htext, hfirst⟩

theorem readLabel_of_sides {value : String} {left right : List Char} (h : Sides value left right) :
    readLabel value =
      if unquote left = [] then .error (.emptyLabelKey value)
      else .ok (String.ofList (unquote left), String.ofList (unquote right)) := by
  have hbefore : ∀ c ∈ left, decide (c ≠ '=') = true := by
    intro c hc
    exact decide_eq_true fun heq => h.first (heq ▸ hc)
  have hright : value.toList.dropWhile (· ≠ '=') = '=' :: right := by
    rw [h.text, List.dropWhile_append_of_pos hbefore]
    rfl
  have hleft : value.toList.takeWhile (· ≠ '=') = left := by
    rw [h.text, List.takeWhile_append_of_pos hbefore]
    exact List.append_nil left
  unfold readLabel
  rw [hright, hleft]
  cases unquote left with
  | nil => rfl
  | cons c rest => rfl

theorem readLabel_of_not_mem {value : String} (h : '=' ∉ value.toList) :
    readLabel value = .error (.labelWithoutEquals value) := by
  have hnone : value.toList.dropWhile (· ≠ '=') = [] := by
    rw [List.dropWhile_eq_nil_iff]
    intro c hc
    exact decide_eq_true fun heq => h (heq ▸ hc)
  rw [readLabel, hnone]

/-- The value writes the label: its key and its value, each without the quote marks around it. -/
def Writes (value key val : String) : Prop :=
  key ≠ "" ∧ ∃ left right, Sides value left right ∧ Unwraps left key.toList ∧
    Unwraps right val.toList

/-- The value has an equals sign, and in front of the first one a key that is not empty. -/
def IsLabel (value : String) : Prop :=
  ∃ left right key, Sides value left right ∧ Unwraps left key ∧ key ≠ []

/-- What is wrong with a value that is no label. -/
inductive LabelFault (value : String) : ConfigError -> Prop where
  | withoutEquals (h : '=' ∉ value.toList) : LabelFault value (.labelWithoutEquals value)
  | emptyKey {left right : List Char} (h : Sides value left right) (hkey : Unwraps left []) :
      LabelFault value (.emptyLabelKey value)

theorem readLabel_eq_ok_iff {value key val : String} :
    readLabel value = .ok (key, val) ↔ Writes value key val := by
  constructor
  · intro h
    by_cases hmem : '=' ∈ value.toList
    · obtain ⟨left, right, hsides⟩ := exists_sides hmem
      rw [readLabel_of_sides hsides] at h
      split at h
      · cases h
      · next hne =>
          cases h
          refine ⟨?_, left, right, hsides, ?_, ?_⟩
          · rw [Ne, ← String.toList_eq_nil_iff, String.toList_ofList]
            exact hne
          · rw [String.toList_ofList]
            exact unwraps_unquote left
          · rw [String.toList_ofList]
            exact unwraps_unquote right
    · rw [readLabel_of_not_mem hmem] at h
      cases h
  · intro h
    obtain ⟨hkey, left, right, hsides, hleft, hright⟩ := h
    rw [readLabel_of_sides hsides, unquote_eq_iff.2 hleft, unquote_eq_iff.2 hright,
      if_neg (mt String.toList_eq_nil_iff.1 hkey), String.ofList_toList, String.ofList_toList]

theorem readLabel_eq_error_iff {value : String} {e : ConfigError} :
    readLabel value = .error e ↔ LabelFault value e := by
  constructor
  · intro h
    by_cases hmem : '=' ∈ value.toList
    · obtain ⟨left, right, hsides⟩ := exists_sides hmem
      rw [readLabel_of_sides hsides] at h
      split at h
      · next hnil =>
          cases h
          exact .emptyKey hsides (unquote_eq_iff.1 hnil)
      · cases h
    · rw [readLabel_of_not_mem hmem] at h
      cases h
      exact .withoutEquals hmem
  · intro h
    cases h with
    | withoutEquals hmem => exact readLabel_of_not_mem hmem
    | emptyKey hsides hkey => rw [readLabel_of_sides hsides, if_pos (unquote_eq_iff.2 hkey)]

theorem exists_readLabel_eq_ok_iff {value : String} :
    (∃ label, readLabel value = .ok label) ↔ IsLabel value := by
  constructor
  · intro h
    obtain ⟨⟨key, val⟩, hread⟩ := h
    obtain ⟨hkey, left, right, hsides, hleft, _⟩ := readLabel_eq_ok_iff.1 hread
    exact ⟨left, right, key.toList, hsides, hleft, mt String.toList_eq_nil_iff.1 hkey⟩
  · intro h
    obtain ⟨left, right, key, hsides, hleft, hkey⟩ := h
    rw [readLabel_of_sides hsides, unquote_eq_iff.2 hleft, if_neg hkey]
    exact ⟨_, rfl⟩

instance (value key val : String) : Decidable (Writes value key val) :=
  decidable_of_iff _ readLabel_eq_ok_iff

instance : DecidablePred IsLabel := fun value =>
  decidable_of_iff ((readLabel value).toOption.isSome = true) (by
    rw [← exists_readLabel_eq_ok_iff]
    cases readLabel value with
    | error e => simp [Except.toOption]
    | ok label => simp [Except.toOption])

/-! ### Labels one after the other -/

/-- Values are read one by one, and what is read is then taken in from the first to the last. -/
theorem foldlM_addLabel_eq (values : List String) (labels : Dict String) :
    values.foldlM addLabel labels =
      (values.mapM readLabel).map (·.foldl (fun d a => d.insert a.1 a.2) labels) := by
  induction values generalizing labels with
  | nil => rfl
  | cons value rest ih =>
      rw [List.foldlM_cons, List.mapM_cons, addLabel]
      cases readLabel value with
      | error e => rfl
      | ok label =>
          change rest.foldlM addLabel (labels.insert label.1 label.2) = _
          rw [ih]
          cases rest.mapM readLabel with
          | error e => rfl
          | ok others => rfl

/-! ### Labels that are written and read back -/

/-- At least two characters, and the same quote mark at both ends. -/
def IsEnclosed (text : String) : Prop :=
  2 ≤ text.length ∧ ∃ mark, Flag.isQuote mark = true ∧
    text.toList.head? = some mark ∧ text.toList.getLast? = some mark

def between (first last : Char) (text : String) : String :=
  String.singleton first ++ text ++ String.singleton last

/-- How a side of a label is written: between quote marks, or bare if it does not look so already. -/
inductive WrittenAs (text : String) : String -> Prop where
  | enclosed (mark : Char) (h : Flag.isQuote mark = true) : WrittenAs text (between mark mark text)
  | bare (h : ¬IsEnclosed text) : WrittenAs text text

theorem toList_between (first last : Char) (text : String) :
    (between first last text).toList = first :: (text.toList ++ [last]) := by
  simp [between]

theorem between_ne_empty (first last : Char) (text : String) : between first last text ≠ "" := by
  rw [Ne, ← String.toList_inj, toList_between]
  exact List.cons_ne_nil _ _

theorem isEnclosed_iff {text : String} :
    IsEnclosed text ↔
      ∃ mark inner, Flag.isQuote mark = true ∧ text.toList = mark :: (inner ++ [mark]) := by
  rw [IsEnclosed, ← String.length_toList]
  constructor
  · rintro ⟨hlength, mark, hmark, hhead, hlast⟩
    cases htext : text.toList with
    | nil => simp [htext] at hhead
    | cons c rest =>
        have hrest : rest ≠ [] := by
          rintro rfl
          simp [htext] at hlength
        rw [htext, List.head?_cons] at hhead
        rw [htext, List.getLast?_cons_of_ne_nil hrest, List.getLast?_eq_some_iff] at hlast
        obtain ⟨inner, hinner⟩ := hlast
        exact ⟨mark, inner, hmark, by rw [Option.some.inj hhead, hinner]⟩
  · rintro ⟨mark, inner, hmark, htext⟩
    rw [htext]
    refine ⟨by simp, mark, hmark, rfl, ?_⟩
    rw [← List.cons_append, List.getLast?_concat]

theorem WrittenAs.unwraps {text written : String} (h : WrittenAs text written) :
    Unwraps written.toList text.toList := by
  cases h with
  | enclosed mark hmark =>
      rw [toList_between]
      exact .quoted mark text.toList hmark
  | bare hbare =>
      refine .bare text.toList ?_
      intro mark inner hmark htext
      exact hbare (isEnclosed_iff.2 ⟨mark, inner, hmark, htext⟩)

theorem writtenAs_of_unwraps {left : List Char} {text : String} (h : Unwraps left text.toList) :
    WrittenAs text (String.ofList left) := by
  generalize hinner : text.toList = inner at h
  cases h with
  | quoted mark _ hmark =>
      have hleft : String.ofList (mark :: (inner ++ [mark])) = between mark mark text := by
        rw [← String.toList_inj, String.toList_ofList, toList_between, hinner]
      rw [hleft]
      exact .enclosed mark hmark
  | bare _ hbare =>
      rw [← hinner, String.ofList_toList]
      refine .bare ?_
      rw [isEnclosed_iff, hinner]
      rintro ⟨mark, inner, hmark, htext⟩
      exact hbare mark inner hmark htext

/-- A lone quote mark is not taken for two. -/
theorem not_isEnclosed_singleton (mark : Char) : ¬IsEnclosed (String.singleton mark) := by
  rintro ⟨hlength, _⟩
  simp at hlength

theorem not_isEnclosed_between {first last : Char} (h : first ≠ last) (text : String) :
    ¬IsEnclosed (between first last text) := by
  rintro ⟨_, mark, _, hhead, hlast⟩
  rw [toList_between, List.head?_cons] at hhead
  rw [toList_between, ← List.cons_append, List.getLast?_concat] at hlast
  exact h ((Option.some.inj hhead).trans (Option.some.inj hlast).symm)

/-! Quote marks are no equals signs, so the first equals sign is the same with and without them. -/

theorem ne_equals_of_isQuote {mark : Char} (h : Flag.isQuote mark = true) : '=' ≠ mark := by
  rintro rfl
  exact absurd h (by decide)

theorem equals_mem_between_iff {first last : Char} (hfirst : Flag.isQuote first = true)
    (hlast : Flag.isQuote last = true) {text : String} :
    '=' ∈ (between first last text).toList ↔ '=' ∈ text.toList := by
  simp [toList_between, ne_equals_of_isQuote hfirst, ne_equals_of_isQuote hlast]

theorem WrittenAs.equals_mem_iff {text written : String} (h : WrittenAs text written) :
    '=' ∈ written.toList ↔ '=' ∈ text.toList := by
  cases h with
  | enclosed mark hmark => exact equals_mem_between_iff hmark hmark
  | bare _ => exact Iff.rfl

theorem Sides.of_append {left right : String} (h : '=' ∉ left.toList) :
    Sides (left ++ "=" ++ right) left.toList right.toList where
  text := by simp
  first := h

theorem readLabel_of_writtenAs {k v k' v' : String} (hk : k ≠ "") (hfirst : '=' ∉ k.toList)
    (hkey : WrittenAs k k') (hval : WrittenAs v v') : readLabel (k' ++ "=" ++ v') = .ok (k, v) := by
  have hsides : Sides (k' ++ "=" ++ v') k'.toList v'.toList :=
    .of_append (mt hkey.equals_mem_iff.1 hfirst)
  exact readLabel_eq_ok_iff.2 ⟨hk, _, _, hsides, hkey.unwraps, hval.unwraps⟩

theorem exists_writtenAs_of_readLabel {w k v : String} (h : readLabel w = .ok (k, v)) :
    ∃ k' v', w = k' ++ "=" ++ v' ∧ '=' ∉ k'.toList ∧ WrittenAs k k' ∧ WrittenAs v v' := by
  obtain ⟨_, left, right, hsides, hleft, hright⟩ := readLabel_eq_ok_iff.1 h
  refine ⟨String.ofList left, String.ofList right, ?_, ?_, writtenAs_of_unwraps hleft,
    writtenAs_of_unwraps hright⟩
  · rw [← String.toList_inj, hsides.text]
    simp
  · rw [String.toList_ofList]
    exact hsides.first

/--
A label is read as what was written, however the quote marks were chosen, and whatever is read was
written so.  So a lone quote mark stays, of two layers only the outer one is taken off, and marks that
differ stay as well.
-/
theorem readLabel_undoes_quoting :
    (∀ k v k' v', k ≠ "" -> '=' ∉ k.toList -> WrittenAs k k' -> WrittenAs v v' ->
      readLabel (k' ++ "=" ++ v') = .ok (k, v)) ∧
    (∀ w k v, readLabel w = .ok (k, v) ->
      k ≠ "" ∧ '=' ∉ k.toList ∧ ∃ k' v', w = k' ++ "=" ++ v' ∧ '=' ∉ k'.toList ∧
        WrittenAs k k' ∧ WrittenAs v v') ∧
    ∀ mark other key val, Flag.isQuote mark = true -> Flag.isQuote other = true ->
      '=' ∉ key.toList ->
        readLabel (String.singleton mark ++ "=" ++ String.singleton other) =
          .ok (String.singleton mark, String.singleton other) ∧
        readLabel (between mark mark (between other other key) ++ "=" ++
            between mark mark (between other other val)) =
          .ok (between other other key, between other other val) ∧
        (mark ≠ other ->
          readLabel (between mark other key ++ "=" ++ between mark other val) =
            .ok (between mark other key, between mark other val)) := by
  refine ⟨fun k v k' v' => readLabel_of_writtenAs, ?_, ?_⟩
  · intro w k v hread
    obtain ⟨k', v', hw, hfirst, hkey, hval⟩ := exists_writtenAs_of_readLabel hread
    exact ⟨(readLabel_eq_ok_iff.1 hread).1, mt hkey.equals_mem_iff.2 hfirst, k', v', hw, hfirst,
      hkey, hval⟩
  · intro mark other key val hmark hother hkey
    refine ⟨?lone, ?nested, ?mixed⟩
    case lone =>
      exact readLabel_of_writtenAs (by simp [← String.toList_inj])
        (by simpa using ne_equals_of_isQuote hmark) (.bare (not_isEnclosed_singleton mark))
        (.bare (not_isEnclosed_singleton other))
    case nested =>
      exact readLabel_of_writtenAs (between_ne_empty other other key)
        (mt (equals_mem_between_iff hother hother).1 hkey) (.enclosed mark hmark)
        (.enclosed mark hmark)
    case mixed =>
      intro hdiffer
      exact readLabel_of_writtenAs (between_ne_empty mark other key)
        (mt (equals_mem_between_iff hmark hother).1 hkey) (.bare (not_isEnclosed_between hdiffer key))
        (.bare (not_isEnclosed_between hdiffer val))

/-- Two layers around the key, and an equals sign and a mark of another kind in the value. -/
theorem readLabel_undoes_quoting_twice :
    readLabel (between '\x27' '\x27' "\x60a\x60" ++ "=" ++ between '\x22' '\x22' "b='") =
      .ok ("\x60a\x60", "b='") :=
  readLabel_undoes_quoting.1 "\x60a\x60" "b='" _ _ (by decide) (by decide)
    (.enclosed '\x27' (by decide)) (.enclosed '\x22' (by decide))

end ProfileOperator
