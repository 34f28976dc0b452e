import ProfileOperator.Proofs.Flag.Concatenation
import ProfileOperator.Proofs.Flag.Recasing
import ProfileOperator.Proofs.Templates

/-!
# Entries in another arrangement

What a list of entries configures does not depend on how the entries of different keys are arranged.
Two lists give the same templates if every selector has the same labels in both and if of any one of its
keys they come in the same order, so that the last one is the same.
-/

namespace ProfileOperator

/-! ### Values in another order -/

/-- The values are the same ones, and those of any one key come in the same order. -/
structure SameLabels (values others : List String) : Prop where
  perm : values.Perm others
  order : ∀ key, values.filter (HasKey key) = others.filter (HasKey key)

theorem SameLabels.refl (values : List String) : SameLabels values values where
  perm := .refl values
  order _ := rfl

theorem SameLabels.trans {first second third : List String} (h : SameLabels first second)
    (h' : SameLabels second third) : SameLabels first third where
  perm := h.perm.trans h'.perm
  order key := (h.order key).trans (h'.order key)

theorem filter_labelOf? (values : List String) (key : String) :
    (values.filterMap labelOf?).filter (fun label => label.1 = key) =
      (values.filter (HasKey key)).filterMap labelOf? := by
  rw [List.filter_filterMap, List.filterMap_filter]
  congr 1
  funext value
  by_cases hkey : HasKey key value
  · obtain ⟨label, hlabel, hfirst⟩ := Option.map_eq_some_iff.1 hkey
    rw [if_pos (decide_eq_true hkey), hlabel]
    exact Option.filter_some_pos (decide_eq_true hfirst)
  · rw [if_neg (by simpa using hkey), Option.filter_eq_none_iff]
    intro label hlabel hfirst
    exact hkey (Option.map_eq_some_iff.2 ⟨label, hlabel, of_decide_eq_true hfirst⟩)

/-- Of the labels of one key the last one stays, wherever the others are. -/
theorem SameLabels.ofList_eq {values others : List String} (h : SameLabels values others) :
    Dict.ofList (values.filterMap labelOf?) = Dict.ofList (others.filterMap labelOf?) := by
  apply Dict.ext_get?
  intro key
  rw [Dict.get?_ofList, Dict.get?_ofList, ← Dict.lookup_filter_eq, ← Dict.lookup_filter_eq key
    (others.filterMap labelOf?).reverse, List.filter_reverse, List.filter_reverse, filter_labelOf?,
    filter_labelOf?, h.order]

namespace Template

theorem ofSelector_congr {values others : List String} (h : SameLabels values others)
    {name : String} {t : Template} : ofSelector name values = .ok t ↔ ofSelector name others = .ok t := by
  rw [ofSelector_eq_ok_iff, ofSelector_eq_ok_iff, h.ofList_eq]
  simp only [h.perm.mem_iff]

theorem ofTree_congr {tree other : Flag.SelectorTree} (hnames : tree.names = other.names)
    (h : ∀ name, SameLabels (tree.values name .labels) (other.values name .labels))
    {templates : List Template} : ofTree tree = .ok templates ↔ ofTree other = .ok templates := by
  rw [ofTree_eq_ok_iff, ofTree_eq_ok_iff, hnames]
  simp only [ofSelector_congr (h _)]

end Template

namespace Flag

/-! ### Lists of entries -/

/-- A text as it is split, without line breaks and formatting blanks. -/
def strippedText (text : String) : List Char :=
  kept .start (text.toList.filter (· ≠ '\n'))

/-- The text is accepted on its own, and a comma behind it ends it and nothing before. -/
structure IsEntry (text : String) : Prop where
  accepted : ∃ tree, parse text = .ok tree
  /-- No comma stands outside of quoted spans. -/
  uncut : ∀ i, (strippedText text)[i]? = some ',' ->
    (SplitState.start.run ',' ((strippedText text).take i)).quote ≠ none
  closed : (SplitState.start.run ',' (strippedText text)).quote = none

theorem isEntry_iff (text : String) :
    IsEntry text ↔ (parse text).isOk = true ∧ split ',' (strippedText text) = [strippedText text] ∧
      (SplitState.start.run ',' (strippedText text)).quote = none := by
  have hok : (∃ tree, parse text = .ok tree) ↔ (parse text).isOk = true := by
    cases parse text with
    | error e => simp [Except.isOk, Except.toBool]
    | ok tree => simp [Except.isOk, Except.toBool]
  rw [← hok, split_eq_singleton_iff]
  constructor
  · intro h
    exact ⟨h.accepted, h.uncut, h.closed⟩
  · rintro ⟨haccepted, huncut, hclosed⟩
    exact ⟨haccepted, huncut, hclosed⟩

instance : DecidablePred IsEntry :=
  fun text => decidable_of_iff _ (isEntry_iff text).symm

namespace IsEntry

variable {text : String}

theorem strip_eq (h : IsEntry text) :
    strip (text.toList.filter (· ≠ '\n')) = .ok (strippedText text) := by
  obtain ⟨tree, htree⟩ := h.accepted
  obtain ⟨stripped, hstrip, _⟩ := parse_eq_ok_iff.1 htree
  rw [hstrip, ← (strip_eq_ok_iff.1 hstrip).2]
  rfl

theorem entryTexts_eq (h : IsEntry text) :
    entryTexts (strippedText text) = [strippedText text].filter (· ≠ []) := by
  rw [entryTexts, show entryDelimiter = ',' from rfl, split_eq_singleton_iff.2 h.uncut]

theorem read_eq (h : IsEntry text) (hne : strippedText text ≠ []) :
    Entry.read (strippedText text) = .ok (spelledEntry (strippedText text)) := by
  obtain ⟨tree, htree⟩ := h.accepted
  obtain ⟨_, hstrip, entries, hentries, _⟩ := parse_eq_ok_iff.1 htree
  cases h.strip_eq.symm.trans hstrip
  rw [h.entryTexts_eq, List.filter_eq_self.2 (by simpa using hne)] at hentries
  obtain ⟨entry, hread⟩ := Checked.exists_mapM_eq_ok_iff.1 ⟨entries, hentries⟩ _
    List.mem_cons_self
  rw [hread, (read_eq_ok_iff.1 hread).2.2]

end IsEntry

theorem strip_intercalate {texts : List String} (h : ∀ text ∈ texts, IsEntry text) :
    strip ((String.intercalate "," texts).toList.filter (· ≠ '\n')) =
      .ok (List.intercalate [','] (texts.map strippedText)) := by
  induction texts with
  | nil => rfl
  | cons text rest ih =>
      obtain ⟨htext, hrest⟩ := List.forall_mem_cons.1 h
      cases rest with
      | nil =>
          rw [String.intercalate_singleton, htext.strip_eq, List.map_singleton,
            List.intercalate_singleton]
      | cons next more =>
          rw [String.intercalate_cons_cons, filter_comma, strip_comma htext.strip_eq, ih hrest]
          simp only [List.map_cons, List.intercalate_cons_cons, List.append_assoc]
          rfl

theorem entryTexts_intercalate_texts {texts : List String} (h : ∀ text ∈ texts, IsEntry text) :
    entryTexts (List.intercalate [','] (texts.map strippedText)) =
      (texts.map strippedText).filter (· ≠ []) := by
  induction texts with
  | nil => rfl
  | cons text rest ih =>
      obtain ⟨htext, hrest⟩ := List.forall_mem_cons.1 h
      cases rest with
      | nil => rw [List.map_singleton, List.intercalate_singleton, htext.entryTexts_eq]
      | cons next more =>
          rw [List.map_cons, List.map_cons, List.intercalate_cons_cons, List.append_assoc,
            List.singleton_append, entryTexts_comma htext.closed, htext.entryTexts_eq,
            ← List.map_cons, ih hrest, ← List.filter_append, List.singleton_append]

def treeOf (texts : List String) : SelectorTree :=
  .ofEntries (((texts.map strippedText).filter (· ≠ [])).map spelledEntry)

theorem parse_intercalate {texts : List String} (h : ∀ text ∈ texts, IsEntry text) :
    parse (String.intercalate "," texts) = .ok (treeOf texts) := by
  rw [parse_eq_ok_iff]
  refine ⟨_, strip_intercalate h, _, ?_, rfl⟩
  rw [entryTexts_intercalate_texts h, Checked.mapM_eq_ok_iff, List.forall₂_map_right_iff,
    List.forall₂_same]
  intro part hpart
  obtain ⟨hmem, hne⟩ := List.mem_filter.1 hpart
  obtain ⟨text, htext, rfl⟩ := List.mem_map.1 hmem
  exact (h text htext).read_eq (by simpa using hne)

/-! ### The values of a list of entries -/

def valueText (text : String) : String :=
  String.ofList (remainder (strippedText text))

/-- The values that the entries give to a selector, in their order. -/
def labelValues (texts : List String) (selector : String) : List String :=
  (texts.filter fun text => Labels selector (strippedText text)).map valueText

theorem values_treeOf (texts : List String) (selector : String) :
    (treeOf texts).values selector .labels = labelValues texts selector := by
  have hnonempty : ∀ part : List Char,
      (decide (Labels selector part) && decide (part ≠ [])) = decide (Labels selector part) := by
    intro part
    by_cases hpart : part = []
    · subst hpart
      have hnot : ¬Labels selector [] := fun h => absurd h.2 (by decide)
      simp [hnot]
    · simp [hpart]
  rw [treeOf, values_spelled, List.filter_filter, labelValues]
  simp only [hnonempty]
  rw [List.filter_map, List.map_map]
  rfl

theorem names_treeOf_eq {first second : List String}
    (h : ∀ selector, (labelValues first selector).Perm (labelValues second selector)) :
    (treeOf first).names = (treeOf second).names := by
  have hmem : ∀ texts selector,
      selector ∈ (treeOf texts).names ↔ labelValues texts selector ≠ [] := by
    intro texts selector
    rw [← values_treeOf]
    exact mem_names_ofEntries_iff
  apply Dict.keys_ext
  intro selector
  have hnil : labelValues first selector = [] ↔ labelValues second selector = [] :=
    ⟨fun e => (e ▸ h selector).nil_eq.symm, fun e => (e ▸ h selector).eq_nil⟩
  exact (hmem first selector).trans ((not_congr hnil).trans (hmem second selector).symm)

/-! ### Arrangements -/

/-- The entry gives the selector a label with the key. -/
def Sets (selector key text : String) : Prop :=
  Labels selector (strippedText text) ∧ HasKey key (valueText text)

instance (selector key : String) : DecidablePred (Sets selector key) :=
  fun text => inferInstanceAs (Decidable (Labels selector (strippedText text) ∧ _))

def IsLabelEntry (text : String) : Prop :=
  lowerPart 1 (strippedText text) = "labels"

instance : DecidablePred IsLabelEntry :=
  fun text => inferInstanceAs (Decidable (lowerPart 1 (strippedText text) = "labels"))

/--
The texts differ in the case of letters only, and that in the selector or in the field, of which the
ones that differ are all ASCII.
-/
structure Recased (text other : String) : Prop where
  letters : SameLetters text.toList other.toList
  names : ∀ i < 2, partOf i (strippedText text) = partOf i (strippedText other) ∨
    Text.IsAscii (partOf i (strippedText text))
  value : valueText text = valueText other

theorem recased_iff (text other : String) :
    Recased text other ↔ SameLetters text.toList other.toList ∧
      (∀ i < 2, partOf i (strippedText text) = partOf i (strippedText other) ∨
        Text.IsAscii (partOf i (strippedText text))) ∧ valueText text = valueText other := by
  constructor
  · intro h
    exact ⟨h.letters, h.names, h.value⟩
  · rintro ⟨hletters, hnames, hvalue⟩
    exact ⟨hletters, hnames, hvalue⟩

instance : DecidableRel Recased :=
  fun text other => decidable_of_iff _ (recased_iff text other).symm

/--
The second list is another arrangement of the first: labels of one selector and key stay in their order,
entries of other fields come and go, and names are written in other letters.
-/
inductive Rearranged : List String -> List String -> Prop where
  | permuted {first second : List String} (perm : first.Perm second)
      (order : ∀ selector key,
        first.filter (Sets selector key) = second.filter (Sets selector key)) :
      Rearranged first second
  | inserted (front back : List String) {text : String} (unlabelled : ¬IsLabelEntry text) :
      Rearranged (front ++ back) (front ++ text :: back)
  | deleted (front back : List String) {text : String} (unlabelled : ¬IsLabelEntry text) :
      Rearranged (front ++ text :: back) (front ++ back)
  | recased (front back : List String) {text other : String} (recased : Recased text other) :
      Rearranged (front ++ text :: back) (front ++ other :: back)
  | trans {first second third : List String} (before : Rearranged first second)
      (after : Rearranged second third) : Rearranged first third

theorem Recased.lowerPart_eq {text other : String} (h : Recased text other) {i : Nat} (hi : i < 2) :
    lowerPart i (strippedText text) = lowerPart i (strippedText other) := by
  rw [lowerPart, lowerPart]
  rcases h.names i hi with hsame | hascii
  · rw [hsame]
  · have hstripped : SameLetters (strippedText text) (strippedText other) :=
      h.letters.dropLineFeeds.kept .start
    rw [(hstripped.partOf i).lowercase_eq hascii]

theorem Recased.labels_iff {text other : String} (h : Recased text other) (selector : String) :
    Labels selector (strippedText text) ↔ Labels selector (strippedText other) := by
  rw [Labels, Labels, h.lowerPart_eq (by omega), h.lowerPart_eq (by omega)]

theorem labelValues_append (first second : List String) (selector : String) :
    labelValues (first ++ second) selector =
      labelValues first selector ++ labelValues second selector := by
  rw [labelValues, List.filter_append, List.map_append]
  rfl

theorem labelValues_cons (text : String) (rest : List String) (selector : String) :
    labelValues (text :: rest) selector =
      if Labels selector (strippedText text) then valueText text :: labelValues rest selector
      else labelValues rest selector := by
  rw [labelValues, List.filter_cons]
  by_cases hlabels : Labels selector (strippedText text)
  · simp only [hlabels, decide_true, if_true, List.map_cons, labelValues]
  · simp only [hlabels, decide_false, if_false, labelValues, Bool.false_eq_true]

/-- An entry of another field gives nothing to any selector. -/
theorem labelValues_insert (front back : List String) {text : String} (h : ¬IsLabelEntry text)
    (selector : String) :
    labelValues (front ++ text :: back) selector = labelValues (front ++ back) selector := by
  have hlabels : ¬Labels selector (strippedText text) := fun hl => h hl.2
  rw [labelValues_append, labelValues_cons, if_neg hlabels, labelValues_append]

theorem filter_labelValues (texts : List String) (selector key : String) :
    (labelValues texts selector).filter (HasKey key) =
      (texts.filter (Sets selector key)).map valueText := by
  rw [labelValues, List.filter_map, List.filter_filter]
  have hsets : ∀ text, (decide (HasKey key (valueText text)) &&
      decide (Labels selector (strippedText text))) = decide (Sets selector key text) := by
    intro text
    rw [← Bool.decide_and]
    exact decide_eq_decide.2 and_comm
  simp only [Function.comp_apply, hsets]

/-- No rearrangement changes the labels of a selector. -/
theorem Rearranged.sameLabels {first second : List String} (h : Rearranged first second)
    (selector : String) : SameLabels (labelValues first selector) (labelValues second selector) := by
  induction h with
  | permuted perm order =>
      exact {
        perm := (perm.filter _).map _
        order := by
          intro key
          rw [filter_labelValues, filter_labelValues, order] }
  | inserted front back unlabelled =>
      rw [labelValues_insert front back unlabelled]
      exact .refl _
  | deleted front back unlabelled =>
      rw [labelValues_insert front back unlabelled]
      exact .refl _
  | recased front back recased =>
      rw [labelValues_append, labelValues_append, labelValues_cons, labelValues_cons,
        recased.value]
      simp only [recased.labels_iff selector]
      exact .refl _
  | trans _ _ ih₁ ih₂ => exact ih₁.trans ih₂

end Flag

namespace CommandLine

open ProfileOperator.Flag (IsEntry Rearranged)

theorem exists_ofOptions_iff {texts : List String} (h : ∀ text ∈ texts, IsEntry text)
    (address : Net.SocketAddress) (templates : List Template) :
    (∃ c, Configuration.ofOptions
        { metricsAddress := address, podDefaults := String.intercalate "," texts } = .ok c ∧
      c.templates = templates) ↔ Template.ofTree (Flag.treeOf texts) = .ok templates := by
  simp only [ofOptions_eq_ok_iff, Flag.parse_intercalate h]
  constructor
  · rintro ⟨c, ⟨htree, htemplates, _⟩, rfl⟩
    rwa [Except.ok.inj htree]
  · intro htemplates
    exact ⟨{ metricsAddress := address, podDefaults := Flag.treeOf texts, templates := templates },
      ⟨rfl, htemplates, rfl⟩, rfl⟩

/--
Two lists of entries that are arrangements of each other configure the same templates, or neither of
them is accepted.
-/
theorem ofOptions_rearranged {first second : List String} (hfirst : ∀ text ∈ first, IsEntry text)
    (hsecond : ∀ text ∈ second, IsEntry text) (h : Rearranged first second)
    (address : Net.SocketAddress) (templates : List Template) :
    (∃ c, Configuration.ofOptions
        { metricsAddress := address, podDefaults := String.intercalate "," first } = .ok c ∧
      c.templates = templates) ↔
    ∃ c, Configuration.ofOptions
        { metricsAddress := address, podDefaults := String.intercalate "," second } = .ok c ∧
      c.templates = templates := by
  rw [exists_ofOptions_iff hfirst, exists_ofOptions_iff hsecond]
  apply Template.ofTree_congr
  · exact Flag.names_treeOf_eq fun selector => (h.sameLabels selector).perm
  · intro selector
    rw [Flag.values_treeOf, Flag.values_treeOf]
    exact h.sameLabels selector

/-- Two labels of one key keep their places behind each other, and other entries move around them. -/
theorem ofOptions_rearranged_interleaved :
    let first := ["B.labels.x=1", "a.labels.k='p,q'", "b.labels.'x'=2"]
    let second := ["a.LABELS.k='p,q'", "B.labels.x=1", "C_.env.z", "b.labels.'x'=2"]
    (∀ text ∈ first, IsEntry text) ∧ (∀ text ∈ second, IsEntry text) ∧ Rearranged first second ∧
      ∃ c, Configuration.ofOptions
          { metricsAddress := defaultAddress, podDefaults := String.intercalate "," second } = .ok c ∧
        c.templates = [
          { name := "a", labels := .single "k" "p,q" },
          { name := "b", labels := .single "x" "2" }] := by
  intro first second
  have hfirst : ∀ text ∈ first, IsEntry text := by
    decide +kernel
  have hsecond : ∀ text ∈ second, IsEntry text := by
    decide +kernel
  have hpermuted : Rearranged first ["a.labels.k='p,q'", "B.labels.x=1", "b.labels.'x'=2"] := by
    refine .permuted (.swap _ _ _) ?_
    intro selector key
    have hother : Flag.Sets selector key "B.labels.x=1" ->
        ¬Flag.Sets selector key "a.labels.k='p,q'" := by
      rintro ⟨⟨rfl, _⟩, _⟩ ⟨⟨hselector, _⟩, _⟩
      exact absurd hselector (by decide +kernel)
    by_cases hb : Flag.Sets selector key "B.labels.x=1"
    · simp [first, List.filter_cons, hb, hother hb]
    · simp [first, List.filter_cons, hb]
  have hrecased : Rearranged ["a.labels.k='p,q'", "B.labels.x=1", "b.labels.'x'=2"]
      ["a.LABELS.k='p,q'", "B.labels.x=1", "b.labels.'x'=2"] :=
    .recased [] _ (by decide +kernel)
  have hinserted : Rearranged ["a.LABELS.k='p,q'", "B.labels.x=1", "b.labels.'x'=2"] second :=
    .inserted ["a.LABELS.k='p,q'", "B.labels.x=1"] ["b.labels.'x'=2"] (by decide +kernel)
  have hrearranged := (hpermuted.trans hrecased).trans hinserted
  refine ⟨hfirst, hsecond, hrearranged, ?_⟩
  have htext : String.intercalate "," first =
      "B.labels.x=1,a.labels.k='p,q',b.labels.'x'=2" := by
    decide +kernel
  have hok : ∃ c, Configuration.ofOptions {
        metricsAddress := defaultAddress
        podDefaults := "B.labels.x=1,a.labels.k='p,q',b.labels.'x'=2" } = .ok c ∧
      c.templates = [
        { name := "a", labels := .single "k" "p,q" },
        { name := "b", labels := .single "x" "2" }] :=
    ⟨_, rfl, by decide +kernel⟩
  rw [← htext] at hok
  exact (ofOptions_rearranged hfirst hsecond hrearranged _ _).1 hok

end CommandLine

end ProfileOperator
