import Mathlib.Data.List.Induction
import ProfileOperator.Proofs.Labels
import ProfileOperator.Proofs.Templates

/-!
# Selector by selector

Templates are made of a tree exactly if every selector of it names a resource and every value is a
label.  Of the labels of one key the last one stays.  Otherwise the smallest selector with a fault is
reported, its name before its values and of these the leftmost; no other selector is looked at then.
-/

namespace ProfileOperator

/-! ### The last label of a key -/

/-- Of the values that write a label of the key this label is the last one. -/
def LastWrites (values : List String) (key val : String) : Prop :=
  ∃ front value back, values = front ++ value :: back ∧ Writes value key val ∧
    ∀ later ∈ back, ∀ other, ¬Writes later key other

theorem labelOf?_eq_some_iff {value key val : String} :
    labelOf? value = some (key, val) ↔ Writes value key val := by
  rw [labelOf?, ← readLabel_eq_ok_iff]
  cases readLabel value with
  | error e => simp [Except.toOption]
  | ok label => simp [Except.toOption]

theorem not_lastWrites_nil {key val : String} : ¬LastWrites [] key val := by
  simp [LastWrites]

theorem lastWrites_append_singleton {values : List String} {value key val : String} :
    LastWrites (values ++ [value]) key val ↔
      Writes value key val ∨ ((∀ other, ¬Writes value key other) ∧ LastWrites values key val) := by
  constructor
  · intro h
    obtain ⟨front, last, back, hvalues, hwrites, hback⟩ := h
    rcases List.eq_nil_or_concat back with rfl | ⟨middle, later, rfl⟩
    · obtain ⟨_, hlast⟩ := List.append_inj' hvalues rfl
      rw [List.cons.injEq] at hlast
      exact .inl (hlast.1 ▸ hwrites)
    · rw [List.concat_eq_append, ← List.cons_append, ← List.append_assoc] at hvalues
      obtain ⟨hfront, hlast⟩ := List.append_inj' hvalues rfl
      rw [List.cons.injEq] at hlast
      refine .inr ⟨?_, front, last, middle, hfront, hwrites, ?_⟩
      · exact hlast.1 ▸ hback later (by simp)
      · intro x hx
        exact hback x (by simp [hx])
  · intro h
    rcases h with hwrites | ⟨hnone, front, last, back, rfl, hwrites, hback⟩
    · exact ⟨values, value, [], rfl, hwrites, by simp⟩
    · refine ⟨front, last, back ++ [value], by simp, hwrites, ?_⟩
      intro later hlater
      rcases List.mem_append.1 hlater with hmem | hmem
      · exact hback later hmem
      · exact List.mem_singleton.1 hmem ▸ hnone

theorem get?_ofList_labels {values : List String} {key val : String} :
    (Dict.ofList (values.filterMap labelOf?)).get? key = some val ↔ LastWrites values key val := by
  -- From the end, because the last value has the last word.
  induction values using List.reverseRecOn with
  | nil => simpa [Dict.ofList] using not_lastWrites_nil
  | append_singleton values value ih =>
      rw [lastWrites_append_singleton, List.filterMap_append]
      cases hlabel : labelOf? value with
      | none =>
          have hnone : ∀ key other, ¬Writes value key other := by
            intro key other hwrites
            rw [labelOf?_eq_some_iff.2 hwrites] at hlabel
            cases hlabel
          simp [hlabel, ih, hnone]
      | some label =>
          obtain ⟨own, written⟩ := label
          have hwrites : ∀ key other, Writes value key other ↔ own = key ∧ written = other := by
            intro key other
            rw [← labelOf?_eq_some_iff, hlabel, Option.some.injEq, Prod.mk.injEq]
          have hinsert : Dict.ofList (values.filterMap labelOf? ++ [(own, written)]) =
              (Dict.ofList (values.filterMap labelOf?)).insert own written := by
            rw [Dict.ofList, List.foldl_concat]
            rfl
          simp only [List.filterMap_cons, List.filterMap_nil, hlabel, hinsert, Dict.get?_insert,
            hwrites]
          by_cases hkey : key = own
          · simp [hkey]
          · have hother : own ≠ key := fun heq => hkey heq.symm
            simp [hkey, hother, ih]

/-! ### One selector -/

/-- The selector names a resource, and all of its values are labels. -/
structure IsSound (name : String) (values : List String) : Prop where
  name : IsDns1123Label name
  labels : ∀ value ∈ values, IsLabel value

/-- What is reported of a selector: its name, or else the leftmost of its values that is no label. -/
inductive SelectorFault (name : String) (values : List String) : ConfigError -> Prop where
  | name (h : ¬IsDns1123Label name) : SelectorFault name values (.invalidSelector name)
  | label {front back : List String} {value : String} {e : ConfigError}
      (hname : IsDns1123Label name) (hvalues : values = front ++ value :: back)
      (hfront : ∀ sound ∈ front, IsLabel sound) (h : LabelFault value e) :
      SelectorFault name values e

namespace Template

theorem exists_ofSelector_eq_ok_iff {name : String} {values : List String} :
    (∃ t, ofSelector name values = .ok t) ↔ IsSound name values := by
  simp only [ofSelector_eq_ok_iff, exists_readLabel_eq_ok_iff]
  constructor
  · intro h
    obtain ⟨_, hname, hlabels, _⟩ := h
    exact ⟨hname, hlabels⟩
  · intro h
    exact ⟨_, h.name, h.labels, rfl⟩

theorem checkSelector_eq_error_iff {name : String} {e : ConfigError} :
    checkSelector name = .error e ↔ ¬IsDns1123Label name ∧ e = .invalidSelector name := by
  rw [← isDnsLabel_iff, checkSelector]
  by_cases h : isDnsLabel name = true
  · simp [h]
  · simp [h, eq_comm]

theorem foldlM_addLabel_eq_error_iff {values : List String} {e : ConfigError} :
    values.foldlM addLabel {} = .error e ↔ ∃ front value back, values = front ++ value :: back ∧
      (∀ sound ∈ front, IsLabel sound) ∧ LabelFault value e := by
  rw [foldlM_addLabel_eq, Checked.map_eq_error_iff, Checked.mapM_eq_error_iff]
  simp only [exists_readLabel_eq_ok_iff, readLabel_eq_error_iff]

/-- The labels of a selector are not looked at before its name is found to be right. -/
theorem ofSelector_eq_error_iff {name : String} {values : List String} {e : ConfigError} :
    ofSelector name values = .error e ↔ SelectorFault name values e := by
  unfold ofSelector
  rw [Checked.bind_eq_error_iff, checkSelector_eq_error_iff]
  simp only [checkSelector_eq_ok_iff, Checked.bind_eq_error_iff, foldlM_addLabel_eq_error_iff]
  constructor
  · intro h
    rcases h with ⟨hname, rfl⟩ | ⟨_, hname, hlabels | ⟨_, _, hmade⟩⟩
    · exact .name hname
    · obtain ⟨front, value, back, hvalues, hfront, hfault⟩ := hlabels
      exact .label hname hvalues hfront hfault
    · cases hmade
  · intro h
    cases h with
    | name hname => exact .inl ⟨hname, rfl⟩
    | label hname hvalues hfront hfault =>
        exact .inr ⟨(), hname, .inl ⟨_, _, _, hvalues, hfront, hfault⟩⟩

/-! ### The whole tree -/

theorem exists_front_iff {names : List String} (hsorted : names.Pairwise (· < ·)) {name : String}
    {p : String -> Prop} :
    (∃ front back, names = front ++ name :: back ∧ ∀ other ∈ front, p other) ↔
      name ∈ names ∧ ∀ other ∈ names, other < name -> p other := by
  constructor
  · intro h
    obtain ⟨front, back, rfl, hfront⟩ := h
    have hback : ∀ other ∈ back, name < other := by
      have hbehind := (List.pairwise_append.1 hsorted).2.1
      exact (List.pairwise_cons.1 hbehind).1
    refine ⟨by simp, ?_⟩
    intro other hmem hlt
    rcases List.mem_append.1 hmem with hother | hother
    · exact hfront other hother
    · rcases List.mem_cons.1 hother with rfl | hother
      · exact absurd hlt (String.lt_irrefl other)
      · exact absurd hlt (String.lt_asymm (hback other hother))
  · intro h
    obtain ⟨hmem, hsmaller⟩ := h
    obtain ⟨front, back, rfl⟩ := List.append_of_mem hmem
    refine ⟨front, back, rfl, ?_⟩
    intro other hother
    have hlt := (List.pairwise_append.1 hsorted).2.2 other hother name List.mem_cons_self
    exact hsmaller other (by simp [hother]) hlt

theorem exists_ofTree_eq_ok_iff {tree : Flag.SelectorTree} :
    (∃ templates, ofTree tree = .ok templates) ↔
      ∀ name ∈ tree.names, IsSound name (tree.values name .labels) := by
  rw [ofTree_eq_mapM_names, Checked.exists_mapM_eq_ok_iff]
  simp only [exists_ofSelector_eq_ok_iff]

theorem ofTree_eq_error_iff {tree : Flag.SelectorTree} {e : ConfigError} :
    ofTree tree = .error e ↔ ∃ name ∈ tree.names,
      (∀ other ∈ tree.names, other < name -> IsSound other (tree.values other .labels)) ∧
        SelectorFault name (tree.values name .labels) e := by
  have hsorted : tree.names.Pairwise (· < ·) := tree.selectors.sorted_keys
  rw [ofTree_eq_mapM_names, Checked.mapM_eq_error_iff]
  simp only [exists_ofSelector_eq_ok_iff, ofSelector_eq_error_iff]
  constructor
  · intro h
    obtain ⟨front, name, back, hnames, hfront, hfault⟩ := h
    obtain ⟨hmem, hsmaller⟩ := (exists_front_iff hsorted).1 ⟨front, back, hnames, hfront⟩
    exact ⟨name, hmem, hsmaller, hfault⟩
  · intro h
    obtain ⟨name, hmem, hsmaller, hfault⟩ := h
    obtain ⟨front, back, hnames, hfront⟩ := (exists_front_iff hsorted).2 ⟨hmem, hsmaller⟩
    exact ⟨front, name, back, hnames, hfront, hfault⟩

theorem ofSelector_of_mem_ofTree {tree : Flag.SelectorTree} {templates : List Template}
    (h : ofTree tree = .ok templates) {t : Template} (ht : t ∈ templates) :
    ofSelector t.name (tree.values t.name .labels) = .ok t := by
  rw [ofTree_eq_mapM_names] at h
  obtain ⟨name, _, hmade⟩ := Checked.exists_of_mem_mapM h ht
  have hname : t.name = name := congrArg Template.name (ofSelector_eq_ok_iff.1 hmade).2.2
  rwa [hname]

theorem get?_labels_of_ofTree {tree : Flag.SelectorTree} {templates : List Template}
    (h : ofTree tree = .ok templates) {t : Template} (ht : t ∈ templates) {key val : String} :
    t.labels.get? key = some val ↔ LastWrites (tree.values t.name .labels) key val := by
  have hmade := ofSelector_of_mem_ofTree h ht
  have hlabels : t.labels = .ofList ((tree.values t.name .labels).filterMap labelOf?) :=
    congrArg Template.labels (ofSelector_eq_ok_iff.1 hmade).2.2
  rw [hlabels]
  exact get?_ofList_labels

theorem mem_labels_of_ofTree {tree : Flag.SelectorTree} {templates : List Template}
    (h : ofTree tree = .ok templates) {t : Template} (ht : t ∈ templates) {key : String} :
    key ∈ t.labels.keys ↔ ∃ value ∈ tree.values t.name .labels, ∃ val, Writes value key val := by
  rw [mem_labels_of_ofSelector (ofSelector_of_mem_ofTree h ht)]
  simp only [readLabel_eq_ok_iff]
  constructor
  · intro hwritten
    obtain ⟨val, value, hvalue, hwrites⟩ := hwritten
    exact ⟨value, hvalue, val, hwrites⟩
  · intro hwritten
    obtain ⟨value, hvalue, val, hwrites⟩ := hwritten
    exact ⟨val, value, hvalue, hwrites⟩

/--
Templates are made exactly if all selectors are sound, one for each selector in ascending order, with
the labels that are written last.  Otherwise the fault of the smallest selector with a fault is given.
-/
theorem ofTree_exact (tree : Flag.SelectorTree) :
    ((∃ templates, ofTree tree = .ok templates) ↔
      ∀ name ∈ tree.names, IsSound name (tree.values name .labels)) ∧
    (∀ templates, ofTree tree = .ok templates ->
      templates.map Template.name = tree.names ∧
      ∀ t ∈ templates, ∀ key,
        (key ∈ t.labels.keys ↔
          ∃ value ∈ tree.values t.name .labels, ∃ val, Writes value key val) ∧
        ∀ val, t.labels.get? key = some val ↔
          LastWrites (tree.values t.name .labels) key val) ∧
    ∀ e, ofTree tree = .error e ↔ ∃ name ∈ tree.names,
      (∀ other ∈ tree.names, other < name -> IsSound other (tree.values other .labels)) ∧
        SelectorFault name (tree.values name .labels) e := by
  refine ⟨exists_ofTree_eq_ok_iff, ?_, fun e => ofTree_eq_error_iff⟩
  intro templates h
  refine ⟨CommandLine.names_of_ofTree h, ?_⟩
  intro t ht key
  exact ⟨mem_labels_of_ofTree h ht, fun val => get?_labels_of_ofTree h ht⟩

/-- One key in two spellings: the later value stays.  A quote mark at one end only belongs to the key. -/
theorem ofTree_exact_respelled :
    ∃ tree templates, Flag.parse "b.labels.x=1,b.labels.'x'='2',b.labels.\x22x\x22y=3" = .ok tree ∧
      ofTree tree = .ok templates ∧ ∀ t ∈ templates, t.labels.get? "x" = some "2" := by
  have hparse : ∃ tree, Flag.parse "b.labels.x=1,b.labels.'x'='2',b.labels.\x22x\x22y=3" = .ok tree ∧
      tree.names = ["b"] ∧ tree.values "b" .labels = ["x=1", "'x'='2'", "\x22x\x22y=3"] :=
    ⟨_, rfl, by decide +kernel, by decide +kernel⟩
  obtain ⟨tree, htree, hnames, hvalues⟩ := hparse
  obtain ⟨hsound, hlabels, _⟩ := ofTree_exact tree
  obtain ⟨templates, hmade⟩ := hsound.2 (by
    intro name hname
    rw [hnames, List.mem_singleton] at hname
    rw [hname, hvalues]
    exact ⟨by decide, by decide⟩)
  obtain ⟨htemplates, hlast⟩ := hlabels templates hmade
  refine ⟨tree, templates, htree, hmade, ?_⟩
  intro t ht
  have hname : t.name = "b" := by
    have hmem : t.name ∈ templates.map Template.name := List.mem_map_of_mem ht
    rwa [htemplates, hnames, List.mem_singleton] at hmem
  rw [(hlast t ht "x").2 "2", hname, hvalues]
  refine ⟨["x=1"], "'x'='2'", ["\x22x\x22y=3"], rfl, by decide, ?_⟩
  intro later hlater other hwrites
  have hread := readLabel_eq_ok_iff.2 hwrites
  have hlonger : readLabel "\x22x\x22y=3" = .ok ("\x22x\x22y", "3") := by
    decide
  rw [List.mem_singleton.1 hlater, hlonger] at hread
  simp at hread

end Template

end ProfileOperator
