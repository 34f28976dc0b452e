import ProfileOperator.Proofs.Flag.Grouping
import ProfileOperator.Proofs.Flag.Stripping
import ProfileOperator.Proofs.Naming

/-!
# Spelling entries out

An entry for a label can be written with its value in quotes and with formatting blanks around it.  The
text of a list of such entries is read back entry by entry, whatever the quoted values hold.
-/

namespace ProfileOperator

namespace Flag

/-- An entry for a label as it can be written. -/
structure Spelling where
  selector : String
  key : String
  value : String
  /-- The quote mark on both sides of the value. -/
  mark : Char
  /-- The blanks in front of the entry. -/
  before : String
  /-- The blanks behind the entry. -/
  after : String
deriving DecidableEq

namespace Spelling

/-- The value between its quote marks. -/
def quotedValue (w : Spelling) : List Char :=
  w.mark :: (w.value.toList ++ [w.mark])

def head (w : Spelling) : List Char :=
  w.selector.toList ++ ".labels.".toList ++ w.key.toList ++ ['=']

/-- The entry without the blanks around it. -/
def bare (w : Spelling) : List Char :=
  w.head ++ w.quotedValue

def text (w : Spelling) : String :=
  w.before ++ String.ofList w.bare ++ w.after

/-- A character that may stand in the key of a label. -/
def IsKeyChar (c : Char) : Prop :=
  c ≠ '=' ∧ c ≠ ',' ∧ isQuote c = false ∧ c ≠ '\\' ∧ Text.isBlank c = false

instance : DecidablePred IsKeyChar :=
  fun c => inferInstanceAs (Decidable (c ≠ '=' ∧ _))

/--
The selector names a resource, the key is plain, and the quote mark fits the value, which may hold
anything else: delimiters, blanks, backslashes and the other quote marks.
-/
structure Proper (w : Spelling) : Prop where
  selector : IsDns1123Label w.selector
  key_ne_empty : w.key ≠ ""
  key : ∀ c ∈ w.key.toList, IsKeyChar c
  mark : isQuote w.mark = true
  mark_not_mem : w.mark ∉ w.value.toList
  lineFeed_not_mem : '\n' ∉ w.value.toList
  backslash_not_last : w.value.toList.getLast? ≠ some '\\'
  before : ∀ c ∈ w.before.toList, Text.isBlank c = true
  after : ∀ c ∈ w.after.toList, Text.isBlank c = true

theorem proper_iff (w : Spelling) :
    w.Proper ↔ IsDns1123Label w.selector ∧ w.key ≠ "" ∧
      w.key.toList.all (fun c => IsKeyChar c) = true ∧ isQuote w.mark = true ∧
      w.mark ∉ w.value.toList ∧ '\n' ∉ w.value.toList ∧
      w.value.toList.getLast? ≠ some '\\' ∧ w.before.toList.all Text.isBlank = true ∧
      w.after.toList.all Text.isBlank = true := by
  simp only [List.all_eq_true, decide_eq_true_iff]
  constructor
  · intro h
    exact ⟨h.selector, h.key_ne_empty, h.key, h.mark, h.mark_not_mem, h.lineFeed_not_mem,
      h.backslash_not_last, h.before, h.after⟩
  · rintro ⟨h₁, h₂, h₃, h₄, h₅, h₆, h₇, h₈, h₉⟩
    exact ⟨h₁, h₂, h₃, h₄, h₅, h₆, h₇, h₈, h₉⟩

instance (w : Spelling) : Decidable w.Proper :=
  decidable_of_iff _ w.proper_iff.symm

def label (w : Spelling) : String :=
  String.ofList (w.key.toList ++ '=' :: w.quotedValue)

def entry (w : Spelling) : Entry where
  selector := w.selector
  field := "labels"
  value := w.label

end Spelling

def flagText (ws : List Spelling) : String :=
  String.intercalate "," (ws.map Spelling.text)

/-! ### Plain characters -/

/-- A character that neither stripping nor splitting into entries treats in a special way. -/
def IsInert (c : Char) : Prop :=
  c ≠ ',' ∧ isQuote c = false ∧ c ≠ '\\' ∧ Text.isBlank c = false

instance : DecidablePred IsInert :=
  fun c => inferInstanceAs (Decidable (c ≠ ',' ∧ _))

theorem isQuote_eq_false_of_toNat {c : Char} (hback : c.toNat ≠ 0x60) (hdouble : c.toNat ≠ 0x22)
    (hsingle : c.toNat ≠ 0x27) : isQuote c = false := by
  have hne : ∀ mark : Char, c.toNat ≠ mark.toNat -> c ≠ mark := by
    rintro mark h rfl
    exact h rfl
  simp only [isQuote, quoteMarks, List.contains_cons, List.contains_nil, Bool.or_false,
    Bool.or_eq_false_iff, beq_eq_false_iff_ne]
  exact ⟨hne _ hback, hne _ hdouble, hne _ hsingle⟩

theorem isInert_of_name {c : Char} (h : IsAlphanumeric c ∨ c = '-') : IsInert c ∧ c ≠ '.' := by
  have hcode := toNat_of_name h
  have hblank : Text.isBlank c = false := by
    simp only [Text.isBlank, Text.blankRanges, Text.inRanges_cons, Text.inRanges_nil,
      Bool.or_false, Bool.or_eq_false_iff, Bool.and_eq_false_iff, decide_eq_false_iff_not]
    omega
  have hquote := isQuote_eq_false_of_toNat (c := c) (by omega) (by omega) (by omega)
  refine ⟨⟨?_, hquote, ?_, hblank⟩, ?_⟩
  · rintro rfl
    exact absurd hcode (by decide)
  · rintro rfl
    exact absurd hcode (by decide)
  · rintro rfl
    exact absurd hcode (by decide)

namespace Spelling

variable {w : Spelling}

theorem isInert_of_mem_head (hw : w.Proper) {c : Char} (hc : c ∈ w.head) : IsInert c := by
  simp only [head, List.mem_append, List.mem_singleton] at hc
  rcases hc with ((hc | hc) | hc) | rfl
  · exact (isInert_of_name (hw.selector.mem hc)).1
  · have hall : ".labels.".toList.all (fun x => IsInert x) = true := by decide
    exact of_decide_eq_true (List.all_eq_true.1 hall c hc)
  · obtain ⟨_, hcomma, hquote, hback, hblank⟩ := hw.key c hc
    exact ⟨hcomma, hquote, hback, hblank⟩
  · exact ⟨by decide, by decide, by decide, by decide⟩

theorem bare_ne_nil (w : Spelling) : w.bare ≠ [] := by
  simp [bare, quotedValue]

/-! ### Line breaks and blanks -/

theorem lineFeed_not_mem_bare (hw : w.Proper) : '\n' ∉ w.bare := by
  intro hmem
  rcases List.mem_append.1 hmem with hhead | hvalue
  · obtain ⟨_, _, _, hblank⟩ := isInert_of_mem_head hw hhead
    exact absurd hblank (by decide)
  · have hmark : '\n' ≠ w.mark := by
      intro e
      exact absurd hw.mark (by rw [← e]; decide)
    rcases List.mem_cons.1 hvalue with e | hvalue
    · exact hmark e
    · rcases List.mem_append.1 hvalue with hvalue | hvalue
      · exact hw.lineFeed_not_mem hvalue
      · exact hmark (List.mem_singleton.1 hvalue)

theorem settles_bare (hw : w.Proper) : Settles w.bare w.bare := by
  have hhead : Settles w.head w.head := settles_plain fun _ hc => (isInert_of_mem_head hw hc).2
  exact hhead.append (settles_quoted hw.mark hw.mark_not_mem hw.backslash_not_last)

theorem settles_text (hw : w.Proper) :
    Settles (w.text.toList.filter (· ≠ '\n')) w.bare := by
  have hbare : w.bare.filter (· ≠ '\n') = w.bare := by
    rw [List.filter_eq_self]
    intro c hc
    rw [decide_eq_true_iff]
    rintro rfl
    exact lineFeed_not_mem_bare hw hc
  have hbefore : Settles (w.before.toList.filter (· ≠ '\n')) [] :=
    settles_blank fun c hc => hw.before c (List.mem_filter.1 hc).1
  have hafter : Settles (w.after.toList.filter (· ≠ '\n')) [] :=
    settles_blank fun c hc => hw.after c (List.mem_filter.1 hc).1
  have hall := (hbefore.append (settles_bare hw)).append hafter
  rw [List.nil_append, List.append_nil] at hall
  rw [text, String.toList_append, String.toList_append, String.toList_ofList, List.filter_append,
    List.filter_append, hbare]
  exact hall

end Spelling

/-- Stripping works through the entries one by one: the commas between them are plain text. -/
theorem settles_intercalate {ws : List Spelling} (hws : ∀ w ∈ ws, w.Proper) :
    Settles ((List.intercalate [','] (ws.map fun w => w.text.toList)).filter (· ≠ '\n'))
      (List.intercalate [','] (ws.map Spelling.bare)) := by
  induction ws with
  | nil => exact Settles.nil
  | cons w rest ih =>
      have hfirst := Spelling.settles_text (hws w List.mem_cons_self)
      have hrest := ih fun x hx => hws x (List.mem_cons_of_mem w hx)
      cases rest with
      | nil => simpa using hfirst
      | cons next more =>
          have hcomma : Settles [','] [','] := by
            apply settles_plain
            intro c hc
            rw [List.mem_singleton.1 hc]
            exact ⟨by decide, by decide, by decide⟩
          have hall := (hfirst.append hcomma).append hrest
          rw [List.map_cons, List.map_cons, List.intercalate_cons_cons, List.filter_append,
            List.filter_append]
          rw [List.map_cons, List.map_cons, List.intercalate_cons_cons]
          exact hall

theorem strip_flagText {ws : List Spelling} (hws : ∀ w ∈ ws, w.Proper) :
    strip ((flagText ws).toList.filter (· ≠ '\n')) =
      .ok (List.intercalate [','] (ws.map Spelling.bare)) := by
  have htext : (flagText ws).toList = List.intercalate [','] (ws.map fun w => w.text.toList) := by
    rw [flagText, String.toList_intercalate, List.map_map]
    rfl
  rw [htext]
  exact (settles_intercalate hws).strip_eq

/-! ### Entries -/

theorem Spelling.isClosed_bare {w : Spelling} (hw : w.Proper) : IsClosed ',' w.bare := by
  have hhead : IsClosed ',' w.head := by
    apply isClosed_of_isPlain
    intro c hc
    obtain ⟨hcomma, hquote, hback, _⟩ := isInert_of_mem_head hw hc
    exact ⟨hcomma, hquote, hback⟩
  have hmark : w.mark ≠ ',' := by
    intro e
    exact absurd hw.mark (by rw [e]; decide)
  have hquoted : IsClosed ',' w.quotedValue := fun s hs =>
    uncut_quoted hs hw.mark hmark hw.mark_not_mem hw.backslash_not_last
  exact hhead.append hquoted

theorem entryTexts_intercalate {ws : List Spelling} (hws : ∀ w ∈ ws, w.Proper) :
    entryTexts (List.intercalate [','] (ws.map Spelling.bare)) = ws.map Spelling.bare := by
  cases ws with
  | nil => rfl
  | cons w rest =>
      have hclosed : ∀ p ∈ (w :: rest).map Spelling.bare, IsClosed ',' p := by
        intro p hp
        obtain ⟨x, hx, rfl⟩ := List.mem_map.1 hp
        exact Spelling.isClosed_bare (hws x hx)
      rw [entryTexts, show entryDelimiter = ',' from rfl,
        split_intercalate (by decide) (by simp) hclosed, List.filter_eq_self]
      intro p hp
      obtain ⟨x, _, rfl⟩ := List.mem_map.1 hp
      simpa using Spelling.bare_ne_nil x

/-- The dots of the key and of the quoted value stay as they are: only the first two end a part. -/
theorem Spelling.read_bare {w : Spelling} (hw : w.Proper) : Entry.read w.bare = .ok w.entry := by
  have hselector : IsPlain '.' w.selector.toList := by
    intro c hc
    obtain ⟨⟨_, hquote, hback, _⟩, hdot⟩ := isInert_of_name (hw.selector.mem hc)
    exact ⟨hdot, hquote, hback⟩
  have hlabels : IsPlain '.' "labels".toList := by
    intro c hc
    have hall : "labels".toList.all (fun x => x ≠ '.' ∧ isQuote x = false ∧ x ≠ '\\') = true := by
      decide
    exact of_decide_eq_true (List.all_eq_true.1 hall c hc)
  obtain ⟨hfirst, hfresh⟩ := uncut_of_isPlain SplitState.fresh_start hselector
  have hnext := SplitState.fresh_step_delimiter (d := '.') (by decide) hfresh.outside
  obtain ⟨hsecond, hfresh'⟩ := uncut_of_isPlain hnext hlabels
  have hbare : w.bare = w.selector.toList ++ '.' ::
      ("labels".toList ++ '.' :: (w.key.toList ++ '=' :: w.quotedValue)) := by
    simp [bare, head]
  have hsplit := splitFrom_delimiter
    ("labels".toList ++ '.' :: (w.key.toList ++ '=' :: w.quotedValue)) hfirst hfresh.outside
  rw [splitFrom_delimiter _ hsecond hfresh'.outside, ← hbare] at hsplit
  have hlower : Text.lowercase w.selector.toList = w.selector.toList :=
    Text.lowercase_of_name fun c hc => hw.selector.mem hc
  have hfield : Text.lowercase "labels".toList = "labels".toList := by decide +kernel
  unfold Entry.read
  rw [split, show partDelimiter = '.' from rfl, hsplit]
  simp only [hw.selector.toList_ne_nil, intercalate_splitFrom, hlower, hfield,
    String.ofList_toList]
  rfl

theorem parse_flagText {ws : List Spelling} (hws : ∀ w ∈ ws, w.Proper) :
    parse (flagText ws) = .ok (.ofEntries (ws.map Spelling.entry)) := by
  rw [parse_eq_ok_iff]
  refine ⟨_, strip_flagText hws, ws.map Spelling.entry, ?_, rfl⟩
  rw [entryTexts_intercalate hws, Checked.mapM_eq_ok_iff, List.forall₂_map_left_iff,
    List.forall₂_map_right_iff, List.forall₂_same]
  intro w hw
  exact Spelling.read_bare (hws w hw)

theorem values_spellings (ws : List Spelling) (name : String) :
    (SelectorTree.ofEntries (ws.map Spelling.entry)).values name .labels =
      (ws.filter fun w => w.selector = name).map Spelling.label := by
  rw [values_ofEntries, List.filter_map, List.map_map]
  have hsame : ((fun e : Entry => decide (e.selector = name ∧
      Field.ofName? e.field = some .labels)) ∘ Spelling.entry) =
      fun w => decide (w.selector = name) := by
    funext w
    exact decide_eq_decide.2 (and_iff_left rfl)
  rw [hsame]
  rfl

theorem SelectorTree.mem_names_spellings {ws : List Spelling} {name : String} :
    name ∈ (SelectorTree.ofEntries (ws.map Spelling.entry)).names ↔
      ∃ w ∈ ws, w.selector = name := by
  rw [mem_names_ofEntries_iff, values_spellings, Ne, List.map_eq_nil_iff, List.filter_eq_nil_iff]
  simp

end Flag

end ProfileOperator
