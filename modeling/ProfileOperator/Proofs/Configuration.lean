import ProfileOperator.CommandLine.Configuration
import ProfileOperator.Proofs.Flag.Spelling
import ProfileOperator.Proofs.Labels

/-!
# Configurations that can be written

Every map from names of resources to labels can be written as the text of the flag, and the templates
that are read from this text are the map again.
-/

namespace ProfileOperator

/-! ### Labels -/

open ProfileOperator.Flag (Spelling)

theorem readLabel_label {w : Spelling} (hw : w.Proper) :
    readLabel w.label = .ok (w.key, w.value) := by
  have hsides : Sides w.label w.key.toList w.quotedValue :=
    { text := String.toList_ofList
      first := fun hmem => (hw.key '=' hmem).1 rfl }
  have hkey : Unwraps w.key.toList w.key.toList :=
    .of_not_isQuote fun c hc => (hw.key c hc).2.2.1
  have hvalue : Unwraps w.quotedValue w.value.toList := .quoted w.mark w.value.toList hw.mark
  exact readLabel_eq_ok_iff.2 ⟨hw.key_ne_empty, _, _, hsides, hkey, hvalue⟩

theorem foldlM_addLabel {ws : List Spelling} (hws : ∀ w ∈ ws, w.Proper) (labels : Dict String) :
    (ws.map Spelling.label).foldlM addLabel labels =
      .ok ((ws.map fun w => (w.key, w.value)).foldl (fun d a => d.insert a.1 a.2) labels) := by
  have hread : (ws.map Spelling.label).mapM readLabel = .ok (ws.map fun w => (w.key, w.value)) := by
    rw [Checked.mapM_eq_ok_iff, List.forall₂_map_left_iff, List.forall₂_map_right_iff,
      List.forall₂_same]
    intro w hw
    exact readLabel_label (hws w hw)
  rw [foldlM_addLabel_eq, hread]
  rfl

/-! ### Templates -/

namespace Template

theorem ofTree_eq_mapM_names (tree : Flag.SelectorTree) :
    ofTree tree = tree.names.mapM fun name => ofSelector name (tree.values name .labels) := by
  rw [Flag.SelectorTree.names, Dict.keys, List.mapM_map, ofTree]
  apply Checked.mapM_congr
  rintro ⟨name, values⟩ hmem
  have hget : tree.get? name = some values := Dict.get?_eq_some_iff.2 hmem
  simp only [Function.comp_apply, Flag.SelectorTree.values, hget]

theorem ofSelector_spelled {name : String} {labels : Dict String} {ws : List Spelling}
    (hname : IsDns1123Label name) (hws : ∀ w ∈ ws, w.Proper)
    (hmem : ∀ key value, (key, value) ∈ labels.toList ↔
      ∃ w ∈ ws, w.selector = name ∧ w.key = key ∧ w.value = value) :
    ofSelector name ((Flag.SelectorTree.ofEntries (ws.map Spelling.entry)).values name .labels) =
      .ok { name := name, labels := labels } := by
  have hproper : ∀ w ∈ ws.filter fun w => w.selector = name, w.Proper := fun w hw =>
    hws w (List.mem_filter.1 hw).1
  have hlabels : ((ws.filter fun w => w.selector = name).map fun w => (w.key, w.value)).foldl
      (fun d a => d.insert a.1 a.2) {} = labels := by
    apply Dict.ofList_eq_of_mem
    rintro ⟨key, value⟩
    rw [hmem, List.mem_map]
    constructor
    · rintro ⟨w, hw, hpair⟩
      obtain ⟨hin, hselector⟩ := List.mem_filter.1 hw
      obtain ⟨hkey, hvalue⟩ := Prod.mk.inj hpair
      exact ⟨w, hin, of_decide_eq_true hselector, hkey, hvalue⟩
    · rintro ⟨w, hin, hselector, rfl, rfl⟩
      exact ⟨w, List.mem_filter.2 ⟨hin, decide_eq_true hselector⟩, rfl⟩
  rw [ofSelector, checkSelector, if_pos ((isDnsLabel_iff name).2 hname),
    Flag.values_spellings, foldlM_addLabel hproper, hlabels]
  rfl

end Template

/-! ### Configurations -/

namespace CommandLine

/-- The labels of a configuration one by one, each with the selector that it is for. -/
def labelsOf (config : Dict (Dict String)) : List (String × String × String) :=
  config.toList.flatMap fun a => a.2.toList.map fun b => (a.1, b.1, b.2)

theorem mem_labelsOf {config : Dict (Dict String)} {name key value : String} :
    (name, key, value) ∈ labelsOf config ↔
      ∃ labels, config.get? name = some labels ∧ (key, value) ∈ labels.toList := by
  simp only [labelsOf, List.mem_flatMap, List.mem_map, Prod.mk.injEq]
  constructor
  · rintro ⟨⟨_, labels⟩, hmem, ⟨_, _⟩, hlabel, rfl, rfl, rfl⟩
    exact ⟨labels, Dict.get?_eq_some_iff.2 hmem, hlabel⟩
  · rintro ⟨labels, hget, hlabel⟩
    exact ⟨(name, labels), Dict.get?_eq_some_iff.1 hget, (key, value), hlabel, rfl, rfl, rfl⟩

theorem ofTree_spelled {config : Dict (Dict String)} {ws : List Spelling}
    (hconfig : ∀ a ∈ config.toList, a.2.toList ≠ []) (hws : ∀ w ∈ ws, w.Proper)
    (hall : (ws.map fun w => (w.selector, w.key, w.value)).Perm (labelsOf config)) :
    Template.ofTree (.ofEntries (ws.map Spelling.entry)) =
      .ok (config.toList.map fun a => { name := a.1, labels := a.2 }) := by
  have hmem : ∀ name key value,
      (∃ w ∈ ws, w.selector = name ∧ w.key = key ∧ w.value = value) ↔
        ∃ labels, config.get? name = some labels ∧ (key, value) ∈ labels.toList := by
    intro name key value
    rw [← mem_labelsOf, ← hall.mem_iff, List.mem_map]
    simp only [Prod.mk.injEq]
  -- A selector without labels would not be written at all.
  have hwritten : ∀ name labels, config.get? name = some labels -> ∃ w ∈ ws, w.selector = name := by
    intro name labels hget
    obtain ⟨⟨key, value⟩, hlabel⟩ :=
      List.exists_mem_of_ne_nil _ (hconfig _ (Dict.get?_eq_some_iff.1 hget))
    obtain ⟨w, hw, hselector, _⟩ := (hmem name key value).2 ⟨labels, hget, hlabel⟩
    exact ⟨w, hw, hselector⟩
  have hnames : (Flag.SelectorTree.ofEntries (ws.map Spelling.entry)).names = config.keys := by
    apply Dict.keys_ext
    intro name
    rw [← Flag.SelectorTree.names, Flag.SelectorTree.mem_names_spellings, Dict.mem_keys_iff,
      Option.isSome_iff_exists]
    constructor
    · rintro ⟨w, hw, hselector⟩
      obtain ⟨labels, hget, _⟩ := (hmem name w.key w.value).1 ⟨w, hw, hselector, rfl, rfl⟩
      exact ⟨labels, hget⟩
    · rintro ⟨labels, hget⟩
      exact hwritten name labels hget
  rw [Template.ofTree_eq_mapM_names, hnames, Dict.keys, Checked.mapM_eq_ok_iff,
    List.forall₂_map_left_iff, List.forall₂_map_right_iff, List.forall₂_same]
  rintro ⟨name, labels⟩ hin
  have hget := Dict.get?_eq_some_iff.2 hin
  obtain ⟨w, hw, hselector⟩ := hwritten name labels hget
  have hname : IsDns1123Label name := hselector ▸ (hws w hw).selector
  apply Template.ofSelector_spelled hname hws
  intro key value
  rw [hmem, hget]
  simp

/--
Every configuration can be written: with its entries in any order, each with a quote mark that fits the
value and with blanks around it, the text is accepted and its templates are the configuration.
-/
theorem ofOptions_flagText {config : Dict (Dict String)} {ws : List Spelling}
    (hconfig : ∀ a ∈ config.toList, a.2.toList ≠ []) (hws : ∀ w ∈ ws, w.Proper)
    (hall : (ws.map fun w => (w.selector, w.key, w.value)).Perm (labelsOf config))
    (address : Net.SocketAddress) :
    ∃ c, Configuration.ofOptions
        { metricsAddress := address, podDefaults := Flag.flagText ws } = .ok c ∧
      c.metricsAddress = address ∧
      c.templates = config.toList.map fun a => { name := a.1, labels := a.2 } := by
  have hspecification : readSpecification (Flag.flagText ws) =
      .ok (.ofEntries (ws.map Spelling.entry),
        config.toList.map fun a => { name := a.1, labels := a.2 }) := by
    rw [readSpecification, Flag.parse_flagText hws]
    change (Template.ofTree (.ofEntries (ws.map Spelling.entry))).mapError _ >>= _ = _
    rw [ofTree_spelled hconfig hws hall]
    rfl
  unfold Configuration.ofOptions
  rw [hspecification]
  exact ⟨_, rfl, rfl, rfl⟩

/-- Delimiters, blanks and other quote marks in quoted values, and entries of two selectors in turn. -/
theorem ofOptions_flagText_interleaved :
    ∃ c, Configuration.ofOptions {
        metricsAddress := defaultAddress
        podDefaults := " b-1.labels.x.y='p=q, \x22r.\x22'," ++
          "\na.labels.k=\x60it's \\ a,b\x60\t,b-1.labels.é=\x22\x22" } = .ok c ∧
      c.templates = [
        { name := "a", labels := .ofList [("k", "it's \\ a,b")] },
        { name := "b-1", labels := .ofList [("x.y", "p=q, \x22r.\x22"), ("é", "")] }] := by
  let config : Dict (Dict String) := .ofList [
    ("a", .ofList [("k", "it's \\ a,b")]),
    ("b-1", .ofList [("x.y", "p=q, \x22r.\x22"), ("é", "")])]
  let ws : List Spelling := [
    { selector := "b-1", key := "x.y", value := "p=q, \x22r.\x22", mark := '\x27',
      before := " ", after := "" },
    { selector := "a", key := "k", value := "it's \\ a,b", mark := '\x60',
      before := "\n", after := "\t" },
    { selector := "b-1", key := "é", value := "", mark := '\x22', before := "", after := "" }]
  obtain ⟨c, hc, _, htemplates⟩ := @ofOptions_flagText config ws (by decide +kernel)
    (by decide +kernel) (by decide +kernel) defaultAddress
  have htext : " b-1.labels.x.y='p=q, \x22r.\x22'," ++
      "\na.labels.k=\x60it's \\ a,b\x60\t,b-1.labels.é=\x22\x22" = Flag.flagText ws := by
    decide +kernel
  rw [htext]
  exact ⟨c, hc, htemplates⟩

end CommandLine

end ProfileOperator
