import ProfileOperator.Proofs.Configuration

/-!
# Templates that are made

What becomes of the values of a tree: each one is read as a label, of the labels of one key the last one
stays, and the selector of the values names the template.  A configuration that is accepted is therefore
well formed, and what works with it later relies on that without another check.
-/

namespace ProfileOperator

/-! ### Labels -/

/-- The label that a value writes, if it writes one. -/
def labelOf? (value : String) : Option (String × String) :=
  (readLabel value).toOption

def HasKey (key value : String) : Prop :=
  (labelOf? value).map (·.1) = some key

instance (key : String) : DecidablePred (HasKey key) :=
  fun value => inferInstanceAs (Decidable ((labelOf? value).map (·.1) = some key))

theorem checkSelector_eq_ok_iff {name : String} {u : Unit} :
    checkSelector name = .ok u ↔ IsDns1123Label name := by
  rw [← isDnsLabel_iff, checkSelector]
  by_cases h : isDnsLabel name = true
  · rw [if_pos h]
    exact iff_of_true rfl h
  · rw [if_neg h]
    refine iff_of_false (fun hok => ?_) h
    cases hok

/-! ### Templates -/

namespace Template

theorem ofSelector_eq_ok_iff {name : String} {values : List String} {t : Template} :
    ofSelector name values = .ok t ↔ IsDns1123Label name ∧
      (∀ value ∈ values, ∃ label, readLabel value = .ok label) ∧
      t = { name := name, labels := .ofList (values.filterMap labelOf?) } := by
  have hlabels : ∀ labels, values.foldlM addLabel {} = .ok labels ↔
      (∀ value ∈ values, ∃ label, readLabel value = .ok label) ∧
        labels = .ofList (values.filterMap labelOf?) := by
    intro labels
    rw [foldlM_addLabel_eq, Checked.map_eq_ok_iff]
    simp only [Checked.mapM_eq_ok_iff_filterMap]
    constructor
    · rintro ⟨_, ⟨hread, rfl⟩, rfl⟩
      exact ⟨hread, rfl⟩
    · rintro ⟨hread, rfl⟩
      exact ⟨_, ⟨hread, rfl⟩, rfl⟩
  unfold ofSelector
  simp only [Checked.bind_eq_ok_iff, checkSelector_eq_ok_iff, hlabels]
  constructor
  · rintro ⟨_, hname, _, ⟨hread, rfl⟩, h⟩
    cases h
    exact ⟨hname, hread, rfl⟩
  · rintro ⟨hname, hread, rfl⟩
    exact ⟨(), hname, _, ⟨hread, rfl⟩, rfl⟩

theorem mem_labels_of_ofSelector {name : String} {values : List String} {t : Template}
    (h : ofSelector name values = .ok t) {key : String} :
    key ∈ t.labels.keys ↔ ∃ val, ∃ value ∈ values, readLabel value = .ok (key, val) := by
  obtain ⟨_, hread, rfl⟩ := ofSelector_eq_ok_iff.1 h
  rw [Dict.mem_keys_ofList_iff]
  simp only [List.mem_filterMap, labelOf?]
  apply exists_congr
  intro val
  constructor
  · rintro ⟨value, hvalue, hlabel⟩
    obtain ⟨label, hok⟩ := hread value hvalue
    rw [hok] at hlabel
    cases hlabel
    exact ⟨value, hvalue, hok⟩
  · rintro ⟨value, hvalue, hok⟩
    exact ⟨value, hvalue, by rw [hok]; rfl⟩

theorem ofTree_eq_ok_iff {tree : Flag.SelectorTree} {templates : List Template} :
    ofTree tree = .ok templates ↔
      List.Forall₂ (fun name t => ofSelector name (tree.values name .labels) = .ok t) tree.names
        templates := by
  rw [ofTree_eq_mapM_names, Checked.mapM_eq_ok_iff]

end Template

/-! ### Configurations -/

namespace CommandLine

theorem ofOptions_eq_ok_iff {options : Options} {c : Configuration} :
    Configuration.ofOptions options = .ok c ↔
      Flag.parse options.podDefaults = .ok c.podDefaults ∧
        Template.ofTree c.podDefaults = .ok c.templates ∧
        c.metricsAddress = options.metricsAddress := by
  unfold Configuration.ofOptions readSpecification
  simp only [Checked.bind_eq_ok_iff, Checked.mapError_eq_ok_iff]
  obtain ⟨address, tree, templates⟩ := c
  constructor
  · rintro ⟨_, ⟨tree, htree, templates, htemplates, hpair⟩, hc⟩
    cases hpair
    cases hc
    exact ⟨htree, htemplates, rfl⟩
  · rintro ⟨htree, htemplates, rfl⟩
    exact ⟨_, ⟨tree, htree, templates, htemplates, rfl⟩, rfl⟩

/-- What the passes over the templates rely on without checking it again. -/
structure Configuration.IsWellFormed (c : Configuration) : Prop where
  /-- There is one template for each selector. -/
  templates_names : c.templates.map Template.name = c.podDefaults.names
  ascending : (c.templates.map Template.name).Pairwise (· < ·)
  name : ∀ t ∈ c.templates, IsDns1123Label t.name
  labels_ne_nil : ∀ t ∈ c.templates, t.labels.toList ≠ []
  key_ne_empty : ∀ t ∈ c.templates, ∀ key ∈ t.labels.keys, key ≠ ""
  values_ne_nil : ∀ selector fields, c.podDefaults.get? selector = some fields ->
    fields.get .labels ≠ []

theorem names_of_ofTree {tree : Flag.SelectorTree} {templates : List Template}
    (h : Template.ofTree tree = .ok templates) : templates.map Template.name = tree.names := by
  have hnames : List.Forall₂ (fun name t => name = Template.name t) tree.names templates := by
    apply (Template.ofTree_eq_ok_iff.1 h).imp
    intro name t ht
    obtain ⟨_, _, rfl⟩ := Template.ofSelector_eq_ok_iff.1 ht
    rfl
  rw [← List.forall₂_map_right_iff, List.forall₂_eq_eq_eq] at hnames
  exact hnames.symm

/-- Whatever the text of the flag is, a configuration that is accepted is well formed. -/
theorem isWellFormed_of_ofOptions {options : Options} {c : Configuration}
    (h : Configuration.ofOptions options = .ok c) : c.IsWellFormed := by
  obtain ⟨hparse, htemplates, _⟩ := ofOptions_eq_ok_iff.1 h
  obtain ⟨_, _, entries, _, hentries⟩ := Flag.parse_eq_ok_iff.1 hparse
  have hnames := names_of_ofTree htemplates
  have hmade : ∀ t ∈ c.templates, ∃ name ∈ c.podDefaults.names,
      Template.ofSelector name (c.podDefaults.values name .labels) = .ok t := by
    intro t ht
    rw [Template.ofTree_eq_mapM_names] at htemplates
    exact Checked.exists_of_mem_mapM htemplates ht
  -- A selector whose entries were all filtered out is not in the tree.
  have hvalues : ∀ selector ∈ c.podDefaults.names, c.podDefaults.values selector .labels ≠ [] := by
    intro selector hselector
    rw [hentries] at hselector ⊢
    exact Flag.mem_names_ofEntries_iff.1 hselector
  exact {
    templates_names := hnames
    ascending := hnames ▸ c.podDefaults.selectors.sorted_keys
    name := by
      intro t ht
      obtain ⟨name, _, hok⟩ := hmade t ht
      obtain ⟨hname, _, rfl⟩ := Template.ofSelector_eq_ok_iff.1 hok
      exact hname
    labels_ne_nil := by
      intro t ht hnil
      obtain ⟨name, hin, hok⟩ := hmade t ht
      obtain ⟨value, hvalue⟩ := List.exists_mem_of_ne_nil _ (hvalues name hin)
      obtain ⟨_, hread, _⟩ := Template.ofSelector_eq_ok_iff.1 hok
      obtain ⟨⟨key, val⟩, hlabel⟩ := hread value hvalue
      have hkey := (Template.mem_labels_of_ofSelector hok).2 ⟨val, value, hvalue, hlabel⟩
      rw [Dict.keys, hnil] at hkey
      cases hkey
    key_ne_empty := by
      intro t ht key hkey
      obtain ⟨name, _, hok⟩ := hmade t ht
      obtain ⟨val, value, _, hlabel⟩ := (Template.mem_labels_of_ofSelector hok).1 hkey
      exact (readLabel_eq_ok_iff.1 hlabel).1
    values_ne_nil := by
      intro selector fields hget
      have hin : selector ∈ c.podDefaults.names := by
        rw [Flag.SelectorTree.names, Dict.mem_keys_iff]
        exact Option.isSome_iff_exists.2 ⟨fields, hget⟩
      have hne := hvalues selector hin
      rwa [Flag.SelectorTree.values, hget] at hne }

/-- The Kelvin sign becomes a letter of ASCII, and a selector without labels is left out. -/
theorem isWellFormed_of_ofOptions_kelvin :
    ∃ c, Configuration.ofOptions {
        metricsAddress := defaultAddress
        podDefaults := "b.labels.x=1,\u212Aelvin.Labels.'k'=v,B-.env.q,b.LABELS.x=2" } = .ok c ∧
      c.podDefaults.names = ["b", "kelvin"] ∧ c.IsWellFormed := by
  have hok : ∃ c, Configuration.ofOptions {
        metricsAddress := defaultAddress
        podDefaults := "b.labels.x=1,\u212Aelvin.Labels.'k'=v,B-.env.q,b.LABELS.x=2" } = .ok c ∧
      c.podDefaults.names = ["b", "kelvin"] :=
    ⟨_, rfl, by decide +kernel⟩
  obtain ⟨c, hc, hnames⟩ := hok
  exact ⟨c, hc, hnames, isWellFormed_of_ofOptions hc⟩

end CommandLine

end ProfileOperator
