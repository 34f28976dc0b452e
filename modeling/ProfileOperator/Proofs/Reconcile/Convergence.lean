import ProfileOperator.Proofs.Reconcile.Exchange
import ProfileOperator.Proofs.Reconcile.Storage
import ProfileOperator.Reconcile.Profile

/-!
# Where a pass without failures leads

Whatever stood in a namespace before, a pass in which no request fails leaves it with the managed
PodDefaults that the templates name and no others, and it touches nothing else.
-/

namespace ProfileOperator

open Pass

variable {σ : Type} {accepts : String -> Prop} {serve : Handler σ} {stock : σ -> Stock} {ns : String}

/-! ### Applying -/

/-- What applying has done once it has gone through these names. -/
structure Stock.InPlace (ns : String) (names : List String) (before after : Stock) : Prop where
  elsewhere : ∀ other, other ≠ ns -> after other = before other
  untouched : ∀ name, name ∉ names -> (after ns).get? name = (before ns).get? name
  managed : ∀ name ∈ names, ∃ o, (after ns).get? name = some o ∧ o.name = name ∧
    o.metadata.isManaged = true

theorem Stock.InPlace.nil (before : Stock) : Stock.InPlace ns [] before before where
  elsewhere _ _ := rfl
  untouched _ _ := rfl
  managed _ h := absurd h List.not_mem_nil

theorem Stock.InPlace.cons {name : String} {names : List String} {body : PodDefault}
    {before middle after : Stock} (hbody : body.metadata.isManaged = true)
    (happlied : Stock.Applied ns name body before middle)
    (hrest : Stock.InPlace ns names middle after) :
    Stock.InPlace ns (name :: names) before after := by
  obtain ⟨o, hname, hlabels, hmiddle⟩ := happlied
  have hget : ∀ other, (middle ns).get? other =
      if other = name then some o else (before ns).get? other := by
    intro other
    rw [hmiddle, Function.update_self, Dict.get?_insert]
  constructor
  · intro other hother
    rw [hrest.elsewhere other hother, hmiddle, Function.update_of_ne hother]
  · intro other hother
    rw [List.mem_cons, not_or] at hother
    rw [hrest.untouched other hother.2, hget, if_neg hother.1]
  · intro other hother
    -- A name that comes again is settled by its last apply, else by this one.
    by_cases hin : other ∈ names
    · exact hrest.managed other hin
    · obtain rfl : other = name := (List.mem_cons.1 hother).resolve_right hin
      refine ⟨o, ?_, hname, hlabels _ _ hbody⟩
      rw [hrest.untouched other hin, hget, if_pos rfl]

theorem Stock.InPlace.named {names : List String} {before after : Stock}
    (h : Stock.InPlace ns names before after) (hnames : ∀ name ∈ names, accepts name)
    (hbefore : before.Named accepts ns) : after.Named accepts ns := by
  intro name o ho
  by_cases hin : name ∈ names
  · obtain ⟨o', ho', hname, _⟩ := h.managed name hin
    rw [ho] at ho'
    cases ho'
    exact ⟨hnames name hin, hname⟩
  · rw [h.untouched name hin] at ho
    exact hbefore name o ho

namespace Profile

def applyRequests (p : Profile) (ns : String) (templates : List Template) : List Api.Request :=
  templates.map fun t => .applyPodDefault ns t.name (t.desired p)

theorem applyTemplates_cons (p : Profile) (t : Template) (rest : List Template) :
    p.applyTemplates ns (t :: rest) =
      turn (.applyPodDefault t.name) (.applyPodDefault ns t.name (t.desired p))
        (.log .debug ("Reconciled PodDefault " ++ ns ++ "/" ++ t.name))
        (p.applyTemplates ns rest) (t.name :: ·) := rfl

theorem isManaged_desired (p : Profile) (t : Template) :
    (t.desired p).metadata.isManaged = true :=
  Metadata.isManaged_of_labels rfl

theorem name_desired (p : Profile) (t : Template) : (t.desired p).name = t.name := rfl

theorem accepts_names {templates : List Template} (h : ∀ t ∈ templates, accepts t.name) :
    ∀ name ∈ templates.map Template.name, accepts name :=
  List.forall_mem_map.2 h

/-- Without failures every template is applied once, in order, and is then in place. -/
theorem applyTemplates_unfailing (h : Stores accepts serve stock) (hspace : accepts ns)
    (p : Profile) {templates : List Template} (htemplates : ∀ t ∈ templates, accepts t.name) {s : σ}
    (hrun : (p.applyTemplates ns templates).unfailing serve s = true) :
    ((p.applyTemplates ns templates).run serve s).result = .ok (templates.map Template.name) ∧
    ((p.applyTemplates ns templates).exchanges serve s).map Exchange.request =
      p.applyRequests ns templates ∧
    Stock.InPlace ns (templates.map Template.name) (stock s)
      (stock ((p.applyTemplates ns templates).run serve s).state) := by
  induction templates generalizing s with
  | nil => exact ⟨rfl, rfl, Stock.InPlace.nil _⟩
  | cons t rest ih =>
      rw [applyTemplates_cons] at hrun ⊢
      obtain ⟨v, hreply, hrest, hresult, hstate, hrequests⟩ := turn_unfailing hrun
      obtain ⟨ht, htemplates'⟩ := List.forall_mem_cons.1 htemplates
      obtain ⟨hresult', hrequests', hplace⟩ := ih htemplates' hrest
      have happlied := h.applied s ns t.name (t.desired p) hspace ht (p.name_desired t) hreply
      rw [hresult, hstate, hrequests, hresult', hrequests']
      exact ⟨rfl, rfl, hplace.cons (p.isManaged_desired t) happlied⟩

end Profile

/-! ### Deleting -/

theorem deletePodDefaults_cons (name : String) (rest : List String) :
    deletePodDefaults ns (name :: rest) =
      turn (.deletePodDefault name) (.deletePodDefault ns name)
        (.log .info ("Pruned PodDefault " ++ ns ++ "/" ++ name))
        (deletePodDefaults ns rest) (· + 1) := rfl

/-- What deleting has done once it has gone through these names. -/
structure Stock.Swept (ns : String) (names : List String) (before after : Stock) : Prop where
  elsewhere : ∀ other, other ≠ ns -> after other = before other
  inside : ∀ name, (after ns).get? name = if name ∈ names then none else (before ns).get? name

theorem Stock.Swept.cons {name : String} {names : List String} {before middle after : Stock}
    (hdeleted : Stock.Deleted ns name before middle) (hrest : Stock.Swept ns names middle after) :
    Stock.Swept ns (name :: names) before after := by
  constructor
  · intro other hother
    rw [hrest.elsewhere other hother, hdeleted, Function.update_of_ne hother]
  · intro other
    rw [hrest.inside, hdeleted, Function.update_self, Dict.get?_erase]
    by_cases hin : other ∈ names
    · rw [if_pos hin, if_pos (List.mem_cons_of_mem name hin)]
    · by_cases hname : other = name
      · rw [if_neg hin, if_pos hname, if_pos (by simp [hname])]
      · rw [if_neg hin, if_neg hname, if_neg (by simp [hname, hin])]

theorem Stock.Swept.named {names : List String} {before after : Stock}
    (h : Stock.Swept ns names before after) (hbefore : before.Named accepts ns) :
    after.Named accepts ns := by
  intro name o ho
  rw [h.inside] at ho
  split at ho
  · cases ho
  · exact hbefore name o ho

theorem deletePodDefaults_unfailing (h : Stores accepts serve stock) (hspace : accepts ns)
    {names : List String} (hnames : ∀ name ∈ names, accepts name) {s : σ}
    (hrun : (deletePodDefaults ns names).unfailing serve s = true) :
    ((deletePodDefaults ns names).run serve s).result = .ok names.length ∧
    ((deletePodDefaults ns names).exchanges serve s).map Exchange.request =
      names.map (.deletePodDefault ns) ∧
    Stock.Swept ns names (stock s) (stock ((deletePodDefaults ns names).run serve s).state) := by
  induction names generalizing s with
  | nil => exact ⟨rfl, rfl, fun _ _ => rfl, fun _ => rfl⟩
  | cons name rest ih =>
      rw [deletePodDefaults_cons] at hrun ⊢
      obtain ⟨v, hreply, hrest, hresult, hstate, hrequests⟩ := turn_unfailing hrun
      obtain ⟨hname, hnames'⟩ := List.forall_mem_cons.1 hnames
      obtain ⟨hresult', hrequests', hswept⟩ := ih hnames' hrest
      have hdeleted := h.deleted s ns name hspace hname hreply
      rw [hresult, hstate, hrequests, hresult', hrequests']
      exact ⟨rfl, rfl, hswept.cons hdeleted⟩

/-! ### Pruning -/

/-- A PodDefault that the selector of managed resources matches stands under the name. -/
def Stock.Manages (stock : Stock) (ns name : String) : Prop :=
  ∃ o, (stock ns).get? name = some o ∧ o.metadata.satisfies managedSelector = true

/-- The names of listed PodDefaults that are not to be kept. -/
def staleNames (keep : List String) (existing : List PodDefault) : List String :=
  (existing.map PodDefault.name).filter fun name => name ∉ keep

theorem prunePodDefaults_eq (ns : String) (keep : List String) :
    prunePodDefaults ns keep =
      (request .listPodDefaults (.listPodDefaults ns)).bind fun existing =>
        deletePodDefaults ns (staleNames keep existing) := rfl

section

variable {before : Stock} (hnamed : before.Named accepts ns)

include hnamed

theorem names_managed :
    (before.managed ns).map PodDefault.name =
      ((before ns).toList.filter fun a => a.2.metadata.satisfies managedSelector).map (·.1) := by
  rw [Stock.managed, Dict.values, List.filter_map, List.map_map]
  apply List.map_congr_left
  intro a ha
  exact (hnamed a.1 a.2 (Dict.get?_eq_some_iff.2 (List.mem_filter.1 ha).1)).2

variable {found : List PodDefault} (hfound : found.Perm (before.managed ns)) {keep : List String}

include hfound

theorem nodup_staleNames (keep : List String) : (staleNames keep found).Nodup := by
  have hnames : (found.map PodDefault.name).Nodup := by
    rw [(hfound.map PodDefault.name).nodup_iff, names_managed hnamed]
    exact (before ns).nodup_keys.sublist (List.filter_sublist.map _)
  exact List.Pairwise.filter _ hnames

theorem mem_staleNames {name : String} :
    name ∈ staleNames keep found ↔ name ∉ keep ∧ before.Manages ns name := by
  rw [staleNames, List.mem_filter, (hfound.map PodDefault.name).mem_iff, names_managed hnamed,
    decide_eq_true_iff, and_comm]
  apply and_congr_right'
  simp only [List.mem_map, List.mem_filter, Stock.Manages, Dict.get?_eq_some_iff]
  constructor
  · rintro ⟨⟨_, o⟩, ho, rfl⟩
    exact ⟨o, ho⟩
  · rintro ⟨o, ho⟩
    exact ⟨(name, o), ho, rfl⟩

theorem accepts_staleNames : ∀ name ∈ staleNames keep found, accepts name := by
  intro name hname
  obtain ⟨_, o, ho, _⟩ := (mem_staleNames hnamed hfound).1 hname
  exact (hnamed name o ho).1

end

/-- Without failures the list is asked for once, and then every stale name is deleted. -/
theorem prunePodDefaults_unfailing (h : Stores accepts serve stock) (hspace : accepts ns)
    {keep : List String} {s : σ} (hnamed : (stock s).Named accepts ns)
    (hrun : (prunePodDefaults ns keep).unfailing serve s = true) :
    ∃ found stale, found.Perm ((stock s).managed ns) ∧ stale = staleNames keep found ∧
      ((prunePodDefaults ns keep).run serve s).result = .ok stale.length ∧
      ((prunePodDefaults ns keep).exchanges serve s).map Exchange.request =
        .listPodDefaults ns :: stale.map (.deletePodDefault ns) ∧
      Stock.Swept ns stale (stock s) (stock ((prunePodDefaults ns keep).run serve s).state) := by
  rw [prunePodDefaults_eq] at hrun ⊢
  obtain ⟨found, hgo⟩ := goesOn_of_unfailing hrun
  rw [hgo.unfailing] at hrun
  obtain ⟨hfound, hsame⟩ := h.listed s ns found hspace hgo.reply
  obtain ⟨hresult, hrequests, hswept⟩ :=
    deletePodDefaults_unfailing h hspace (accepts_staleNames hnamed hfound) hrun
  refine ⟨found, _, hfound, rfl, ?_, ?_, ?_⟩
  · rw [hgo.run, hresult]
  · rw [hgo.exchanges, List.map_cons, hrequests]
  · rw [hgo.run, ← hsame]
    exact hswept

/-! ### The whole pass -/

/-- What a pass without failures makes of the PodDefaults of a namespace. -/
structure Stock.Settled (ns : String) (names : List String) (before after : Stock) : Prop where
  elsewhere : ∀ other, other ≠ ns -> after other = before other
  managed : ∀ name, after.Manages ns name ↔ name ∈ names
  /-- Of the other PodDefaults those that were not managed are left, as they were. -/
  rest : ∀ name o, name ∉ names ->
    ((after ns).get? name = some o ↔
      (before ns).get? name = some o ∧ o.metadata.satisfies managedSelector = false)

theorem Stock.InPlace.manages_iff {names : List String} {before after : Stock}
    (h : Stock.InPlace ns names before after) {name : String} (hname : name ∉ names) :
    after.Manages ns name ↔ before.Manages ns name := by
  rw [Stock.Manages, h.untouched name hname, Stock.Manages]

theorem Stock.InPlace.settled {names stale : List String} {before middle after : Stock}
    (hplace : Stock.InPlace ns names before middle) (hswept : Stock.Swept ns stale middle after)
    (hstale : ∀ name, name ∈ stale ↔ name ∉ names ∧ before.Manages ns name) :
    Stock.Settled ns names before after := by
  have hkept : ∀ name ∈ names, (after ns).get? name = (middle ns).get? name := by
    intro name hname
    rw [hswept.inside, if_neg fun hin => ((hstale name).1 hin).1 hname]
  have hrest : ∀ name o, name ∉ names -> ((after ns).get? name = some o ↔
      (before ns).get? name = some o ∧ o.metadata.satisfies managedSelector = false) := by
    intro name o hname
    rw [hswept.inside, hplace.untouched name hname]
    by_cases hin : name ∈ stale
    · obtain ⟨_, managed, hget, hmanaged⟩ := (hstale name).1 hin
      rw [if_pos hin]
      constructor
      · intro h
        cases h
      · rintro ⟨ho, hfalse⟩
        rw [hget] at ho
        rw [Option.some.inj ho, hfalse] at hmanaged
        cases hmanaged
    · rw [if_neg hin]
      constructor
      · intro ho
        refine ⟨ho, ?_⟩
        cases hmanaged : o.metadata.satisfies managedSelector with
        | false => rfl
        | true => exact absurd ((hstale name).2 ⟨hname, o, ho, hmanaged⟩) hin
      · exact And.left
  constructor
  · intro other hother
    rw [hswept.elsewhere other hother, hplace.elsewhere other hother]
  · intro name
    constructor
    · rintro ⟨o, ho, hmanaged⟩
      by_contra hname
      rw [((hrest name o hname).1 ho).2] at hmanaged
      cases hmanaged
    · intro hname
      obtain ⟨o, ho, _, hmanaged⟩ := hplace.managed name hname
      refine ⟨o, ?_, ?_⟩
      · rw [hkept name hname, ho]
      · rw [Metadata.satisfies_managedSelector, hmanaged]
  · exact hrest

namespace Profile

theorem reconcilePodDefaults_eq (p : Profile) (ns : String) (templates : List Template) :
    p.reconcilePodDefaults ns templates =
      (p.applyTemplates ns templates).bind fun applied =>
        (prunePodDefaults ns applied).bind fun pruned =>
          .note (.log .info ("Reconciled " ++ toString applied.length ++ " PodDefaults in " ++ ns ++
            " (" ++ toString pruned ++ " pruned)")) (.done applied) := rfl

theorem reconcilePodDefaults_unfailing (h : Stores accepts serve stock) (hspace : accepts ns)
    {p : Profile} {templates : List Template} (htemplates : ∀ t ∈ templates, accepts t.name) {s : σ}
    (hnamed : (stock s).Named accepts ns)
    (hrun : (p.reconcilePodDefaults ns templates).unfailing serve s = true) :
    let names := templates.map Template.name
    let outcome := (p.reconcilePodDefaults ns templates).run serve s
    ∃ stale : List String, stale.Nodup ∧
      (∀ name, name ∈ stale ↔ name ∉ names ∧ (stock s).Manages ns name) ∧
      outcome.result = .ok names ∧
      Step.requests outcome.steps =
        p.applyRequests ns templates ++ .listPodDefaults ns :: stale.map (.deletePodDefault ns) ∧
      Stock.Settled ns names (stock s) (stock outcome.state) ∧
      (stock outcome.state).Named accepts ns := by
  intro names outcome
  rw [reconcilePodDefaults_eq, unfailing_bind, Bool.and_eq_true] at hrun
  obtain ⟨happlies, hprune⟩ := hrun
  obtain ⟨happlied, hrequests, hplace⟩ :=
    p.applyTemplates_unfailing h hspace htemplates happlies
  have hmiddle := hplace.named (accepts_names htemplates) hnamed
  rw [happlied] at hprune
  dsimp only at hprune
  rw [unfailing_bind, Bool.and_eq_true] at hprune
  obtain ⟨found, stale, hfound, hstale, hpruned, hdeletes, hswept⟩ :=
    prunePodDefaults_unfailing h hspace hmiddle hprune.1
  have hmem : ∀ name, name ∈ stale ↔ name ∉ names ∧ (stock s).Manages ns name := by
    intro name
    rw [hstale, mem_staleNames hmiddle hfound]
    exact and_congr_right fun hname => hplace.manages_iff hname
  have houtcome : outcome.result = .ok names ∧
      outcome.state = ((prunePodDefaults ns names).run serve
        ((p.applyTemplates ns templates).run serve s).state).state := by
    simp only [outcome, reconcilePodDefaults_eq, run_bind, Outcome.extend, happlied, hpruned, run]
    exact ⟨rfl, rfl⟩
  refine ⟨stale, hstale ▸ nodup_staleNames hmiddle hfound _, hmem, houtcome.1, ?_, ?_, ?_⟩
  · rw [requests_run, reconcilePodDefaults_eq, exchanges_bind, happlied]
    dsimp only
    rw [exchanges_bind, hpruned]
    simp only [Pass.exchanges, List.append_nil, List.map_append, hrequests, hdeletes]
  · rw [houtcome.2]
    exact hplace.settled hswept hmem
  · rw [houtcome.2]
    exact hswept.named hmiddle

end Profile

/-! ### Convergence -/

theorem Stock.Settled.mem_keys_iff {names : List String} {before after : Stock}
    (h : Stock.Settled ns names before after) (name : String) :
    name ∈ (after ns).keys ↔ name ∈ names ∨
      ∃ o, (before ns).get? name = some o ∧ o.metadata.satisfies managedSelector = false := by
  rw [Dict.mem_keys_iff, Option.isSome_iff_exists]
  by_cases hname : name ∈ names
  · obtain ⟨o, ho, _⟩ := (h.managed name).2 hname
    simp [hname, ho]
  · simp only [hname, false_or, h.rest name _ hname]

/-- Which names are left depends on the unmanaged PodDefaults alone. -/
theorem Stock.Settled.keys_eq {names : List String} {a a' b b' : Stock}
    (ha : Stock.Settled ns names a a') (hb : Stock.Settled ns names b b')
    (helsewhere : ∀ other, other ≠ ns -> (a other).keys = (b other).keys)
    (hinside : ∀ name, name ∉ names ->
      ((∃ o, (a ns).get? name = some o ∧ o.metadata.satisfies managedSelector = false) ↔
        ∃ o, (b ns).get? name = some o ∧ o.metadata.satisfies managedSelector = false))
    (other : String) : (a' other).keys = (b' other).keys := by
  by_cases hother : other = ns
  · subst hother
    apply Dict.keys_ext
    intro name
    rw [ha.mem_keys_iff, hb.mem_keys_iff]
    by_cases hname : name ∈ names
    · simp [hname]
    · simp only [hname, false_or]
      exact hinside name hname
  · rw [ha.elsewhere other hother, hb.elsewhere other hother, helsewhere other hother]

/--
A pass in which no request fails ends with the names of its templates and leaves exactly these managed
PodDefaults in the namespace, with all else as it was; it applies every template, lists, and deletes each
stale PodDefault once.  After it another such pass deletes nothing and leaves the same names.
-/
theorem reconcilePodDefaults_converges (h : Stores accepts serve stock) (p : Profile) (ns : String)
    (hspace : accepts ns) (templates : List Template) (htemplates : ∀ t ∈ templates, accepts t.name)
    (s : σ) (hnamed : (stock s).Named accepts ns)
    (hrun : (p.reconcilePodDefaults ns templates).unfailing serve s = true) :
    let names := templates.map Template.name
    let first := (p.reconcilePodDefaults ns templates).run serve s
    first.result = .ok names ∧
    (∀ name, (∃ o, (stock first.state ns).get? name = some o ∧
      o.metadata.satisfies managedSelector = true) ↔ name ∈ names) ∧
    (∀ name o, name ∉ names -> ((stock first.state ns).get? name = some o ↔
      (stock s ns).get? name = some o ∧ o.metadata.satisfies managedSelector = false)) ∧
    (∀ other, other ≠ ns -> stock first.state other = stock s other) ∧
    (∃ stale : List String, stale.Nodup ∧
      (∀ name, name ∈ stale ↔ name ∉ names ∧ ∃ o, (stock s ns).get? name = some o ∧
        o.metadata.satisfies managedSelector = true) ∧
      Step.requests first.steps =
        p.applyRequests ns templates ++ .listPodDefaults ns :: stale.map (.deletePodDefault ns)) ∧
    ∀ q : Profile, (q.reconcilePodDefaults ns templates).unfailing serve first.state = true ->
      let second := (q.reconcilePodDefaults ns templates).run serve first.state
      Step.requests second.steps = q.applyRequests ns templates ++ [.listPodDefaults ns] ∧
      ∀ other, (stock second.state other).keys = (stock first.state other).keys := by
  intro names first
  obtain ⟨stale, hnodup, hmem, hresult, hrequests, hsettled, hnamed'⟩ :=
    Profile.reconcilePodDefaults_unfailing h hspace htemplates hnamed hrun
  refine ⟨hresult, hsettled.managed, hsettled.rest, hsettled.elsewhere,
    ⟨stale, hnodup, hmem, hrequests⟩, ?_⟩
  intro q hsecond second
  obtain ⟨stale', _, hmem', _, hrequests', hsettled', _⟩ :=
    Profile.reconcilePodDefaults_unfailing h hspace htemplates hnamed' hsecond
  have hnone : stale' = [] := by
    rw [List.eq_nil_iff_forall_not_mem]
    intro name hin
    obtain ⟨hname, hmanages⟩ := (hmem' name).1 hin
    exact hname ((hsettled.managed name).1 hmanages)
  refine ⟨by rw [hrequests', hnone]; rfl, ?_⟩
  apply hsettled'.keys_eq hsettled
  · intro other hother
    rw [hsettled.elsewhere other hother]
  · intro name hname
    constructor
    · rintro ⟨o, ho, hmanaged⟩
      exact ⟨o, ((hsettled.rest name o hname).1 ho).1, hmanaged⟩
    · rintro ⟨o, ho, hmanaged⟩
      exact ⟨o, (hsettled.rest name o hname).2 ⟨ho, hmanaged⟩, hmanaged⟩

/--
A namespace with a stale PodDefault, one of a user, and one of a user under a configured name, next to
another namespace.
-/
theorem reconcilePodDefaults_converges_mixed :
    ∃ (p : Profile) (c : Api.Cluster) (own : PodDefault),
      (c.podDefaultsIn "team").keys = ["a", "own", "stale"] ∧
      Stock.Manages c.podDefaultsIn "team" "stale" ∧
      let first := (p.reconcilePodDefaults "team" [⟨"a", {}⟩, ⟨"b", {}⟩]).run Api.Cluster.serve c
      first.result = .ok ["a", "b"] ∧ Stock.Manages first.state.podDefaultsIn "team" "b" ∧
      ¬Stock.Manages first.state.podDefaultsIn "team" "stale" ∧
      (first.state.podDefaultsIn "team").get? "own" = some own ∧
      first.state.podDefaultsIn "other" = c.podDefaultsIn "other" := by
  let object (name : String) (labels : Option (Dict String)) : PodDefault :=
    { metadata := { name := some name, labels := labels }, spec := { selector := {} } }
  let team : Dict PodDefault := {
    toList := [("a", object "a" none), ("own", object "own" none),
      ("stale", object "stale" (some managedLabels))]
    sorted := by decide +kernel }
  let other : Dict PodDefault := .single "stale" (object "stale" (some managedLabels))
  let c : Api.Cluster := { podDefaults := {
    toList := [("other", other), ("team", team)]
    sorted := by decide +kernel } }
  let p : Profile := { metadata := { name := some "team" }, spec := { owner := none } }
  have hnamed : Stock.Named Api.IsPlainName "team" c.podDefaultsIn :=
    Stock.named_of_forall (by decide +kernel)
  obtain ⟨hresult, hmanaged, hkept, hother, _⟩ :=
    reconcilePodDefaults_converges Api.Cluster.storesOrFails.toStores p "team" (by decide)
      [⟨"a", {}⟩, ⟨"b", {}⟩] (by decide) c hnamed (by decide +kernel)
  refine ⟨p, c, object "own" none, by decide +kernel, ⟨object "stale" (some managedLabels), rfl, ?_⟩,
    hresult, (hmanaged "b").2 (by decide), fun h => ?_, ?_, hother "other" (by decide)⟩
  · decide +kernel
  · exact absurd ((hmanaged "stale").1 h) (by decide)
  · exact (hkept "own" (object "own" none) (by decide)).2 ⟨rfl, by decide +kernel⟩

end ProfileOperator
