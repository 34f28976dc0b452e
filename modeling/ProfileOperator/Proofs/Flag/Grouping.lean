import Mathlib.Data.List.Dedup
import Mathlib.Algebra.BigOperators.Group.List.Lemmas
import Mathlib.Algebra.GroupWithZero.Nat
import ProfileOperator.Flag.SelectorTree
import ProfileOperator.Proofs.Checked
import ProfileOperator.Proofs.Flag.Parts

/-!
# What becomes of every entry

The tree of a flag holds exactly the values of its `labels` entries: each under its own selector, in the
order of the text, and each once.  Here an entry is described by its text alone, by the parts between the
dots outside of quoted spans and by what stands behind the second of these dots.
-/

namespace ProfileOperator

namespace Flag

/-! ### Entries as texts -/

/-- A part of an entry; there is nothing where the entry has fewer parts. -/
def partOf (i : Nat) (entry : List Char) : List Char :=
  (split '.' entry).getD i []

def lowerPart (i : Nat) (entry : List Char) : String :=
  String.ofList (Text.lowercase (partOf i entry))

/-- What stands behind the second dot that separates parts, as it is written. -/
def remainder (entry : List Char) : List Char :=
  entry.drop ((partOf 0 entry).length + 1 + (partOf 1 entry).length + 1)

/-- The entry gives a label to a selector. -/
def Labels (selector : String) (entry : List Char) : Prop :=
  lowerPart 0 entry = selector ∧ lowerPart 1 entry = "labels"

instance (selector : String) : DecidablePred (Labels selector) :=
  fun entry => inferInstanceAs (Decidable (lowerPart 0 entry = selector ∧ _))

def spelledEntry (entry : List Char) : Entry where
  selector := lowerPart 0 entry
  field := lowerPart 1 entry
  value := String.ofList (remainder entry)

theorem intercalate_eq_drop {entry selector field : List Char} {rest : List (List Char)}
    (h : split '.' entry = selector :: field :: rest) :
    List.intercalate ['.'] rest = entry.drop (selector.length + 1 + field.length + 1) := by
  have hjoin := intercalate_split '.' entry
  rw [h, List.intercalate_cons_cons] at hjoin
  cases rest with
  | nil =>
      rw [List.intercalate_singleton] at hjoin
      rw [← hjoin, List.intercalate_nil, eq_comm, List.drop_eq_nil_iff]
      simp only [List.length_append, List.length_singleton]
      omega
  | cons part more =>
      rw [List.intercalate_cons_cons] at hjoin
      have hsplit : entry = (selector ++ ['.'] ++ (field ++ ['.'])) ++
          List.intercalate ['.'] (part :: more) := by
        rw [← hjoin]
        simp only [List.append_assoc]
      have hlength : (selector ++ ['.'] ++ (field ++ ['.'])).length =
          selector.length + 1 + field.length + 1 := by
        simp only [List.length_append, List.length_singleton]
        omega
      rw [← hlength, hsplit, List.drop_left]

theorem read_eq_ok_iff {text : List Char} {entry : Entry} :
    Entry.read text = .ok entry ↔
      partOf 0 text ≠ [] ∧ partOf 1 text ≠ [] ∧ entry = spelledEntry text := by
  unfold Entry.read
  cases hparts : split partDelimiter text with
  | nil => exact absurd hparts (split_ne_nil _ _)
  | cons selector rest =>
      have hzero : partOf 0 text = selector := by
        rw [partOf, show split '.' text = _ from hparts, List.getD_cons_zero]
      cases rest with
      | nil =>
          have hone : partOf 1 text = [] := by
            rw [partOf, show split '.' text = _ from hparts]
            rfl
          simp [hone]
      | cons field value =>
          have hone : partOf 1 text = field := by
            rw [partOf, show split '.' text = _ from hparts]
            rfl
          have hvalue : List.intercalate [partDelimiter] value = remainder text := by
            rw [remainder, hzero, hone]
            exact intercalate_eq_drop hparts
          dsimp only
          rw [hzero, hone, hvalue]
          by_cases hempty : selector = [] ∨ field = []
          · rw [if_pos hempty]
            constructor
            · intro h
              cases h
            · rintro ⟨hselector, hfield, _⟩
              exact absurd hempty (not_or.2 ⟨hselector, hfield⟩)
          · rw [if_neg hempty, Except.ok.injEq, spelledEntry, lowerPart, lowerPart, hzero, hone]
            obtain ⟨hselector, hfield⟩ := not_or.1 hempty
            constructor
            · rintro rfl
              exact ⟨hselector, hfield, rfl⟩
            · rintro ⟨_, _, rfl⟩
              rfl

theorem parse_of_strip_error {raw : String} {mark : Char}
    (h : strip (raw.toList.filter (· ≠ '\n')) = .error mark) :
    parse raw = .error (.unclosedQuote mark) := by
  rw [parse, h]

theorem parse_of_strip {raw : String} {stripped : List Char}
    (h : strip (raw.toList.filter (· ≠ '\n')) = .ok stripped) :
    parse raw =
      (entryTexts stripped).mapM Entry.read >>= fun entries => .ok (.ofEntries entries) := by
  rw [parse, h]

theorem parse_eq_ok_iff {raw : String} {tree : SelectorTree} :
    parse raw = .ok tree ↔
      ∃ stripped, strip (raw.toList.filter (· ≠ '\n')) = .ok stripped ∧
        ∃ entries, (entryTexts stripped).mapM Entry.read = .ok entries ∧
          tree = .ofEntries entries := by
  cases hstrip : strip (raw.toList.filter (· ≠ '\n')) with
  | error mark =>
      rw [parse_of_strip_error hstrip]
      constructor
      · intro h
        cases h
      · rintro ⟨_, h, _⟩
        cases h
  | ok stripped =>
      rw [parse_of_strip hstrip, Checked.bind_eq_ok_iff]
      constructor
      · rintro ⟨entries, hentries, h⟩
        cases h
        exact ⟨stripped, rfl, entries, hentries, rfl⟩
      · rintro ⟨_, h, entries, hentries, rfl⟩
        cases h
        exact ⟨entries, hentries, rfl⟩

/-! ### Grouping -/

theorem get_foldl_add (entries : List Entry) (values : FieldValues) (field : Field) :
    (entries.foldl FieldValues.add values).get field = values.get field ++
      (entries.filter fun entry => Field.ofName? entry.field = some field).map (·.value) := by
  induction entries generalizing values with
  | nil => simp
  | cons entry rest ih =>
      rw [List.foldl_cons, ih, FieldValues.get_add, List.append_assoc]
      by_cases hfield : Field.ofName? entry.field = some field
      · rw [if_pos hfield, List.filter_cons_of_pos (by simpa using hfield)]
        rfl
      · rw [if_neg hfield, List.filter_cons_of_neg (by simpa using hfield)]
        rfl

theorem get_ofEntries (selector : String) (entries : List Entry) (field : Field) :
    (FieldValues.ofEntries selector entries).get field =
      (entries.filter fun entry =>
        entry.selector = selector ∧ Field.ofName? entry.field = some field).map (·.value) := by
  rw [FieldValues.ofEntries, get_foldl_add, List.filter_filter]
  have hnone : (({} : FieldValues).get field) = [] := by
    cases field
    rfl
  rw [hnone, List.nil_append]
  congr 2
  funext entry
  rw [Bool.and_comm]
  simp

theorem get?_foldl_insert (given : String -> FieldValues) (selectors : List String)
    (tree : SelectorTree) (selector : String) :
    (selectors.foldl (fun tree selector => tree.insert selector (given selector)) tree).get?
        selector =
      if selector ∈ selectors ∧ (given selector).isEmpty = false then some (given selector)
      else tree.get? selector := by
  -- The values do not depend on the tree, so it does not matter when a selector is inserted.
  induction selectors generalizing tree with
  | nil => simp
  | cons first rest ih =>
      rw [List.foldl_cons, ih, SelectorTree.get?_insert]
      by_cases hempty : (given selector).isEmpty = false
      · by_cases hrest : selector ∈ rest
        · simp [hrest, hempty]
        · by_cases hfirst : selector = first
          · subst hfirst
            simp [hempty]
          · simp [hrest, hfirst]
      · have hfirst : ¬(selector = first ∧ (given first).isEmpty = false) := by
          rintro ⟨rfl, h⟩
          exact hempty h
        rw [if_neg (fun h => hempty h.2), if_neg hfirst, if_neg (fun h => hempty h.2)]

/-- A selector is in the tree exactly if its entries give it a value, and then with all of them. -/
theorem get?_ofEntries (entries : List Entry) (selector : String) :
    (SelectorTree.ofEntries entries).get? selector =
      if (FieldValues.ofEntries selector entries).isEmpty = false then
        some (.ofEntries selector entries)
      else none := by
  rw [SelectorTree.ofEntries, get?_foldl_insert (fun selector => .ofEntries selector entries)]
  by_cases hmem : selector ∈ (entries.map (·.selector)).eraseDups
  · simp only [hmem, true_and]
    rfl
  · have hnone : entries.filter (fun entry => entry.selector = selector) = [] := by
      rw [List.filter_eq_nil_iff]
      intro entry hentry hselector
      apply hmem
      rw [List.mem_eraseDups, List.mem_map]
      exact ⟨entry, hentry, by simpa using hselector⟩
    have hempty : (FieldValues.ofEntries selector entries).isEmpty = true := by
      rw [FieldValues.ofEntries, hnone]
      rfl
    simp only [hmem, hempty, false_and]
    rfl

theorem values_ofEntries (entries : List Entry) (selector : String) (field : Field) :
    (SelectorTree.ofEntries entries).values selector field =
      (entries.filter fun entry =>
        entry.selector = selector ∧ Field.ofName? entry.field = some field).map (·.value) := by
  rw [← get_ofEntries, SelectorTree.values, get?_ofEntries]
  by_cases hempty : (FieldValues.ofEntries selector entries).isEmpty = false
  · rw [if_pos hempty]
  · rw [if_neg hempty]
    have hvalues := (FieldValues.isEmpty_iff _).1 (by simpa using hempty) field
    exact hvalues.symm

/-! ### From the text to the tree -/

theorem ofName?_eq_labels_iff (name : String) :
    Field.ofName? name = some .labels ↔ name = "labels" := by
  by_cases h : name = "labels"
  · subst h
    simp [Field.ofName?, Field.all, Field.name]
  · have hne : ¬"labels" = name := fun e => h e.symm
    simp [Field.ofName?, Field.all, Field.name, h, hne]

theorem tree_eq_ofEntries {raw : String} {tree : SelectorTree} (h : parse raw = .ok tree) :
    ∃ stripped, strip (raw.toList.filter (· ≠ '\n')) = .ok stripped ∧
      tree = .ofEntries ((entryTexts stripped).map spelledEntry) := by
  obtain ⟨stripped, hstrip, entries, hentries, rfl⟩ := parse_eq_ok_iff.1 h
  have hspelled := Checked.mapM_eq_map (fun _ _ hread => (read_eq_ok_iff.1 hread).2.2) hentries
  exact ⟨stripped, hstrip, by rw [hspelled]⟩

theorem values_spelled (texts : List (List Char)) (selector : String) :
    (SelectorTree.ofEntries (texts.map spelledEntry)).values selector .labels =
      (texts.filter (Labels selector)).map fun text => String.ofList (remainder text) := by
  rw [values_ofEntries, List.filter_map, List.map_map]
  have hsame : ((fun entry : Entry => decide (entry.selector = selector ∧
      Field.ofName? entry.field = some .labels)) ∘ spelledEntry) =
      fun text => decide (Labels selector text) := by
    funext text
    exact decide_eq_decide.2 (and_congr_right' (ofName?_eq_labels_iff _))
  rw [hsame]
  rfl

theorem isSome_get?_iff (entries : List Entry) (selector : String) :
    ((SelectorTree.ofEntries entries).get? selector).isSome = true ↔
      (SelectorTree.ofEntries entries).values selector .labels ≠ [] := by
  have hget := get?_ofEntries entries selector
  by_cases hempty : (FieldValues.ofEntries selector entries).isEmpty = false
  · rw [if_pos hempty] at hget
    have hvalues : ¬∀ field, (FieldValues.ofEntries selector entries).get field = [] := by
      rw [← FieldValues.isEmpty_iff, hempty]
      simp
    rw [SelectorTree.values, hget]
    refine ⟨fun _ hnil => hvalues fun field => ?_, fun _ => rfl⟩
    cases field
    exact hnil
  · rw [if_neg hempty] at hget
    simp [SelectorTree.values, hget]

theorem mem_names_ofEntries_iff {entries : List Entry} {selector : String} :
    selector ∈ (SelectorTree.ofEntries entries).names ↔
      (SelectorTree.ofEntries entries).values selector .labels ≠ [] := by
  rw [SelectorTree.names, Dict.mem_keys_iff]
  exact isSome_get?_iff entries selector

theorem sum_count_of_nodup {names all : List String} (hnodup : names.Nodup)
    (hmem : ∀ s, s ∈ names ↔ s ∈ all) : (names.map fun s => all.count s).sum = all.length := by
  have hperm : names.Perm all.dedup := by
    rw [List.perm_ext_iff_of_nodup hnodup (List.nodup_dedup all)]
    intro s
    rw [List.mem_dedup, hmem]
  rw [(hperm.map _).sum_eq, List.sum_map_count_dedup_eq_length]

theorem length_filter_labels (texts : List (List Char)) (selector : String) :
    (texts.filter (Labels selector)).length =
      ((texts.filter fun text => lowerPart 1 text = "labels").map (lowerPart 0)).count
        selector := by
  rw [List.count_eq_countP, List.countP_map, List.countP_filter, List.countP_eq_length_filter]
  congr 2
  funext text
  rw [Bool.eq_iff_iff, decide_eq_true_iff]
  simp [Labels]

/--
Nothing of a text that is read gets lost, is doubled or goes to another selector: the tree gives every
selector the remainders of its own `labels` entries, in their order, and has no other values.
-/
theorem parse_groups_labels {raw : String} {tree : SelectorTree} (h : parse raw = .ok tree) :
    ∃ stripped, strip (raw.toList.filter (· ≠ '\n')) = .ok stripped ∧
      let texts := (split ',' stripped).filter (· ≠ [])
      (∀ selector, tree.values selector .labels =
        (texts.filter (Labels selector)).map fun text => String.ofList (remainder text)) ∧
      (∀ selector, (tree.get? selector).isSome = true ↔ texts.filter (Labels selector) ≠ []) ∧
      tree.names.Pairwise (· < ·) ∧
      (tree.names.map fun selector => (tree.values selector .labels).length).sum =
        (texts.filter fun text => lowerPart 1 text = "labels").length := by
  obtain ⟨stripped, hstrip, htree⟩ := tree_eq_ofEntries h
  refine ⟨stripped, hstrip, ?_⟩
  intro texts
  have hvalues : ∀ selector, tree.values selector .labels =
      (texts.filter (Labels selector)).map fun text => String.ofList (remainder text) := by
    intro selector
    rw [htree, values_spelled]
    rfl
  have hsome : ∀ selector,
      (tree.get? selector).isSome = true ↔ texts.filter (Labels selector) ≠ [] := by
    intro selector
    rw [htree, isSome_get?_iff, ← htree, hvalues, Ne, List.map_eq_nil_iff]
  refine ⟨hvalues, hsome, tree.selectors.sorted_keys, ?_⟩
  let selectors := (texts.filter fun text => lowerPart 1 text = "labels").map (lowerPart 0)
  have hcount : ∀ selector,
      (tree.values selector .labels).length = selectors.count selector := by
    intro selector
    rw [hvalues, List.length_map, length_filter_labels]
  have hmem : ∀ selector, selector ∈ tree.names ↔ selector ∈ selectors := by
    intro selector
    rw [SelectorTree.names, Dict.mem_keys_iff, ← List.count_pos_iff, ← hcount, hvalues,
      List.length_map, List.length_pos_iff]
    exact hsome selector
  have hsum := sum_count_of_nodup tree.selectors.nodup_keys hmem
  rw [List.length_map] at hsum
  simp only [hcount]
  exact hsum

/-- Two spellings of one selector, a comma inside of quotes, an unknown field and an empty entry. -/
theorem parse_groups_labels_interleaved :
    ∃ tree, parse "B.labels.x=1,a.Labels.k.v='p,q',b.env.z,,b.LABELS" = .ok tree ∧
      tree.values "b" .labels = ["x=1", ""] ∧
      (tree.names.map fun selector => (tree.values selector .labels).length).sum = 3 := by
  have hparse : ∃ tree, parse "B.labels.x=1,a.Labels.k.v='p,q',b.env.z,,b.LABELS" = .ok tree :=
    ⟨_, rfl⟩
  obtain ⟨tree, h⟩ := hparse
  obtain ⟨stripped, hstrip, hvalues, _, _, hsum⟩ := parse_groups_labels h
  have htext : stripped = "B.labels.x=1,a.Labels.k.v='p,q',b.env.z,,b.LABELS".toList := by
    have hsame : strip ("B.labels.x=1,a.Labels.k.v='p,q',b.env.z,,b.LABELS".toList.filter
        (· ≠ '\n')) = .ok "B.labels.x=1,a.Labels.k.v='p,q',b.env.z,,b.LABELS".toList := by
      decide +kernel
    exact Except.ok.inj (hstrip.symm.trans hsame)
  subst htext
  refine ⟨tree, h, ?_, ?_⟩
  · rw [hvalues]
    decide +kernel
  · rw [hsum]
    decide +kernel

end Flag

end ProfileOperator
