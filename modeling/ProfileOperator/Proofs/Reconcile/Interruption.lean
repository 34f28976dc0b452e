import Mathlib.Data.List.Forall2
import ProfileOperator.Proofs.Reconcile.Convergence

/-!
# Passes that are interrupted

Any request of a pass may fail, and a failed one may have been carried out all the same.  Whatever of a
pass is done, it has only made PodDefaults of the templates, and it has only deleted managed ones that no
template names.  So the next pass without failures comes to the same end.
-/

namespace ProfileOperator

open Pass

variable {σ : Type} {accepts : String -> Prop} {serve : Handler σ} {stock : σ -> Stock} {ns : String}

/-! ### What any part of a pass can do -/

/-- All that any part of a pass for these names can have done to the PodDefaults. -/
structure Stock.Harmless (ns : String) (names : List String) (before after : Stock) : Prop where
  elsewhere : ∀ other, other ≠ ns -> after other = before other
  configured : ∀ name ∈ names, ((before ns).get? name).isSome = true ->
    ((after ns).get? name).isSome = true
  rest : ∀ name, name ∉ names -> (after ns).get? name = (before ns).get? name ∨
    (after ns).get? name = none ∧ before.Manages ns name
  own : ∀ name ∈ names, ∀ o, (after ns).get? name = some o ->
    (before ns).get? name = some o ∨ o.name = name

namespace Stock.Harmless

variable {names : List String} {before middle after : Stock}

theorem refl (ns : String) (names : List String) (before : Stock) :
    Harmless ns names before before where
  elsewhere _ _ := rfl
  configured _ _ h := h
  rest _ _ := Or.inl rfl
  own _ _ _ := Or.inl

theorem trans (h : Harmless ns names before middle) (h' : Harmless ns names middle after) :
    Harmless ns names before after := by
  constructor
  · intro other hother
    rw [h'.elsewhere other hother, h.elsewhere other hother]
  · intro name hname hsome
    exact h'.configured name hname (h.configured name hname hsome)
  · intro name hname
    rcases h.rest name hname with hsame | hgone
    · rcases h'.rest name hname with hsame' | ⟨hnone, o, ho, hmanaged⟩
      · exact Or.inl (hsame'.trans hsame)
      · rw [hsame] at ho
        exact Or.inr ⟨hnone, o, ho, hmanaged⟩
    · rcases h'.rest name hname with hsame' | ⟨hnone, _⟩
      · exact Or.inr ⟨hsame'.trans hgone.1, hgone.2⟩
      · exact Or.inr ⟨hnone, hgone.2⟩
  · intro name hname o ho
    rcases h'.own name hname o ho with ho' | hown
    · exact h.own name hname o ho'
    · exact Or.inr hown

theorem named (h : Harmless ns names before after) (hnames : ∀ name ∈ names, accepts name)
    (hbefore : before.Named accepts ns) : after.Named accepts ns := by
  intro name o ho
  by_cases hin : name ∈ names
  · rcases h.own name hin o ho with ho' | hown
    · exact hbefore name o ho'
    · exact ⟨hnames name hin, hown⟩
  · rcases h.rest name hin with hsame | ⟨hnone, _⟩
    · exact hbefore name o (hsame ▸ ho)
    · rw [hnone] at ho
      cases ho

theorem of_applied {name : String} {body : PodDefault} (hname : name ∈ names)
    (h : Stock.Applied ns name body before after) : Harmless ns names before after := by
  obtain ⟨o, hown, _, rfl⟩ := h
  constructor
  · intro other hother
    rw [Function.update_of_ne hother]
  · intro other _ hsome
    rw [Function.update_self, Dict.get?_insert]
    by_cases hother : other = name
    · rw [if_pos hother]
      rfl
    · rw [if_neg hother]
      exact hsome
  · intro other hother
    have hne : other ≠ name := by
      rintro rfl
      exact hother hname
    rw [Function.update_self, Dict.get?_insert, if_neg hne]
    exact Or.inl rfl
  · intro other _ o' ho'
    rw [Function.update_self, Dict.get?_insert] at ho'
    split at ho'
    · next hother =>
        cases ho'
        exact Or.inr (hown.trans hother.symm)
    · exact Or.inl ho'

theorem of_deleted {name : String} (hname : name ∉ names)
    (hmanaged : ∀ o, (before ns).get? name = some o ->
      o.metadata.satisfies managedSelector = true)
    (h : Stock.Deleted ns name before after) : Harmless ns names before after := by
  have hget : ∀ other, (after ns).get? other =
      if other = name then none else (before ns).get? other := by
    intro other
    rw [h, Function.update_self, Dict.get?_erase]
  constructor
  · intro other hother
    rw [h, Function.update_of_ne hother]
  · intro other hother hsome
    have hne : other ≠ name := by
      rintro rfl
      exact hname hother
    rw [hget, if_neg hne]
    exact hsome
  · intro other _
    rw [hget]
    by_cases hother : other = name
    · subst hother
      rw [if_pos rfl]
      cases ho : (before ns).get? other with
      | none => exact Or.inl rfl
      | some o => exact Or.inr ⟨rfl, o, ho, hmanaged o ho⟩
    · rw [if_neg hother]
      exact Or.inl rfl
  · intro other _ o ho
    rw [hget] at ho
    split at ho
    · cases ho
    · exact Or.inl ho

end Stock.Harmless

/-! ### Every moment of a pass -/

section

variable (h : StoresOrFails accepts serve stock) (hspace : accepts ns)

include h hspace

theorem Profile.applyTemplates_harmless (p : Profile) {names : List String}
    {templates : List Template} (hnames : ∀ t ∈ templates, t.name ∈ names ∧ accepts t.name) {s m : σ}
    (hm : m ∈ (p.applyTemplates ns templates).moments serve s) :
    Stock.Harmless ns names (stock s) (stock m) := by
  induction templates generalizing s with
  | nil =>
      rw [List.mem_singleton.1 hm]
      exact Stock.Harmless.refl ns names (stock s)
  | cons t rest ih =>
      obtain ⟨⟨hname, haccepts⟩, hnames'⟩ := List.forall_mem_cons.1 hnames
      have hstep : Stock.Harmless ns names (stock s)
          (stock (serve s (.applyPodDefault ns t.name (t.desired p))).2) := by
        rcases h.stock_apply s hspace haccepts (p.name_desired t) with hsame | happlied
        · rw [hsame]
          exact Stock.Harmless.refl ns names (stock s)
        · exact Stock.Harmless.of_applied hname happlied
      rw [applyTemplates_cons] at hm
      rcases mem_moments_turn hm with rfl | hrest
      · exact Stock.Harmless.refl ns names _
      · exact hstep.trans (ih hnames' hrest)

/-- The names that are deleted stay harmless to delete: nothing comes back under them. -/
theorem deletePodDefaults_harmless {names stale : List String} {s m : σ}
    (hnames : ∀ name ∈ stale, name ∉ names) (haccepts : ∀ name ∈ stale, accepts name)
    (hmanaged : ∀ name ∈ stale, ∀ o, (stock s ns).get? name = some o ->
      o.metadata.satisfies managedSelector = true)
    (hm : m ∈ (deletePodDefaults ns stale).moments serve s) :
    Stock.Harmless ns names (stock s) (stock m) := by
  induction stale generalizing s with
  | nil =>
      rw [List.mem_singleton.1 hm]
      exact Stock.Harmless.refl ns names (stock s)
  | cons name rest ih =>
      obtain ⟨hname, hnames'⟩ := List.forall_mem_cons.1 hnames
      obtain ⟨haccepted, haccepts'⟩ := List.forall_mem_cons.1 haccepts
      have hstep : Stock.Harmless ns names (stock s)
          (stock (serve s (.deletePodDefault ns name)).2) := by
        rcases h.stock_delete s hspace haccepted with hsame | hdeleted
        · rw [hsame]
          exact Stock.Harmless.refl ns names (stock s)
        · exact Stock.Harmless.of_deleted hname (hmanaged name List.mem_cons_self) hdeleted
      rw [deletePodDefaults_cons] at hm
      rcases mem_moments_turn hm with rfl | hrest
      · exact Stock.Harmless.refl ns names _
      -- Under the names still to be deleted there is what was there when they were listed, or nothing.
      · refine hstep.trans (ih hnames' haccepts' ?_ hrest)
        intro x hx o ho
        rcases hstep.rest x (hnames' x hx) with hsame | ⟨hnone, _⟩
        · exact hmanaged x (List.mem_cons_of_mem name hx) o (hsame ▸ ho)
        · rw [hnone] at ho
          cases ho

theorem prunePodDefaults_harmless {names : List String} {s m : σ}
    (hnamed : (stock s).Named accepts ns)
    (hm : m ∈ (prunePodDefaults ns names).moments serve s) :
    Stock.Harmless ns names (stock s) (stock m) := by
  have hsame := h.stock_list s hspace
  rw [prunePodDefaults_eq] at hm
  rcases mem_moments_request_bind hm with rfl | rfl | ⟨found, hreply, hrest⟩
  · exact Stock.Harmless.refl ns names _
  · rw [hsame]
    exact Stock.Harmless.refl ns names (stock s)
  · have hfound := (h.listed s ns found hspace hreply).1
    rw [← hsame]
    apply deletePodDefaults_harmless h hspace _ (accepts_staleNames hnamed hfound) _ hrest
    · intro name hname
      exact ((mem_staleNames hnamed hfound).1 hname).1
    · intro name hname o ho
      obtain ⟨_, o', ho', hmanaged⟩ := (mem_staleNames hnamed hfound).1 hname
      rw [hsame, ho'] at ho
      exact Option.some.inj ho ▸ hmanaged

end

/-! ### The order of the requests -/

namespace Profile

theorem applyTemplates_requests (p : Profile) {templates : List Template} {s : σ} {x : Exchange σ}
    (hx : x ∈ (p.applyTemplates ns templates).exchanges serve s) :
    x.request ∈ p.applyRequests ns templates := by
  induction templates generalizing s with
  | nil => exact absurd hx List.not_mem_nil
  | cons t rest ih =>
      rw [applyTemplates_cons] at hx
      rcases mem_exchanges_turn hx with hrequest | hrest
      · rw [hrequest]
        exact List.mem_cons_self
      · exact List.mem_cons_of_mem _ (ih hrest)

theorem applyTemplates_ok (p : Profile) {templates : List Template} {s : σ} {applied : List String}
    (h : ((p.applyTemplates ns templates).run serve s).result = .ok applied) :
    applied = templates.map Template.name ∧
      List.Forall₂ (fun x t => Exchange.Answers x (.applyPodDefault ns t.name (t.desired p)) ())
        ((p.applyTemplates ns templates).exchanges serve s) templates := by
  induction templates generalizing s applied with
  | nil =>
      cases h
      exact ⟨rfl, List.Forall₂.nil⟩
  | cons t rest ih =>
      rw [applyTemplates_cons] at h ⊢
      obtain ⟨v, names, _, hrest, rfl, hexchanges⟩ := turn_ok h
      obtain ⟨rfl, hall⟩ := ih hrest
      rw [hexchanges]
      exact ⟨rfl, List.Forall₂.cons rfl hall⟩

end Profile

theorem deletePodDefaults_requests {names : List String} {s : σ} {x : Exchange σ}
    (hx : x ∈ (deletePodDefaults ns names).exchanges serve s) :
    ∃ name ∈ names, x.request = .deletePodDefault ns name := by
  induction names generalizing s with
  | nil => exact absurd hx List.not_mem_nil
  | cons name rest ih =>
      rw [deletePodDefaults_cons] at hx
      rcases mem_exchanges_turn hx with hrequest | hrest
      · exact ⟨name, List.mem_cons_self, hrequest⟩
      · obtain ⟨other, hother, hrequest⟩ := ih hrest
        exact ⟨other, List.mem_cons_of_mem name hother, hrequest⟩

theorem prunePodDefaults_delete {keep : List String} {s : σ} {x : Exchange σ} {other name : String}
    (hx : x ∈ (prunePodDefaults ns keep).exchanges serve s)
    (hrequest : x.request = .deletePodDefault other name) :
    ∃ list found, (prunePodDefaults ns keep).exchanges serve s =
        list :: (deletePodDefaults ns (staleNames keep found)).exchanges serve list.after ∧
      list.before = s ∧ Exchange.Answers list (.listPodDefaults ns) found ∧
      (serve s (.listPodDefaults ns)).1 = .ok found ∧
      x ∈ (deletePodDefaults ns (staleNames keep found)).exchanges serve list.after ∧
      other = ns ∧ name ∈ staleNames keep found := by
  rw [prunePodDefaults_eq] at hx ⊢
  rcases request_bind_cases serve _ _ s with ⟨e, hfail⟩ | ⟨e, hends⟩ | ⟨found, hgo⟩
  · rw [hfail] at hx
    exact absurd hx List.not_mem_nil
  · rw [hends.exchanges, List.mem_singleton] at hx
    subst hx
    cases hrequest
  · rw [hgo.exchanges, List.mem_cons] at hx
    rcases hx with rfl | hx
    · cases hrequest
    · obtain ⟨stale, hstale, hdelete⟩ := deletePodDefaults_requests hx
      rw [hdelete] at hrequest
      cases hrequest
      exact ⟨_, found, hgo.exchanges, rfl, rfl, hgo.reply, hx, rfl, hstale⟩

namespace Profile

theorem exchanges_reconcilePodDefaults (p : Profile) (ns : String) (templates : List Template)
    (s : σ) :
    (p.reconcilePodDefaults ns templates).exchanges serve s =
      (p.applyTemplates ns templates).exchanges serve s ++
        match ((p.applyTemplates ns templates).run serve s).result with
        | .ok applied => (prunePodDefaults ns applied).exchanges serve
            ((p.applyTemplates ns templates).run serve s).state
        | .error _ => [] := by
  rw [reconcilePodDefaults_eq, exchanges_bind]
  cases ((p.applyTemplates ns templates).run serve s).result with
  | error e => rfl
  | ok applied =>
      dsimp only
      rw [exchanges_bind]
      cases ((prunePodDefaults ns applied).run serve
          ((p.applyTemplates ns templates).run serve s).state).result with
      | error e => exact congrArg _ (List.append_nil _)
      | ok pruned => exact congrArg _ (List.append_nil _)

/-- The state after passes of profiles one after the other. -/
def afterPasses (serve : Handler σ) (ns : String) (templates : List Template) (ps : List Profile)
    (s : σ) : σ :=
  ps.foldl (fun s p => ((p.reconcilePodDefaults ns templates).run serve s).state) s

section

variable (h : StoresOrFails accepts serve stock) (hspace : accepts ns) {templates : List Template}
variable (htemplates : ∀ t ∈ templates, accepts t.name) {s : σ} (hnamed : (stock s).Named accepts ns)

include h hspace htemplates

theorem afterApplies_harmless (p : Profile) (s : σ) :
    Stock.Harmless ns (templates.map Template.name) (stock s)
      (stock ((p.applyTemplates ns templates).run serve s).state) :=
  p.applyTemplates_harmless h hspace (fun t ht => ⟨List.mem_map_of_mem ht, htemplates t ht⟩)
    (state_mem_moments serve _ s)

include hnamed

theorem named_afterApplies (p : Profile) :
    (stock ((p.applyTemplates ns templates).run serve s).state).Named accepts ns :=
  (p.afterApplies_harmless h hspace htemplates s).named (accepts_names htemplates) hnamed

/-- Every moment of a pass is harmless to what stood there before the pass. -/
theorem reconcilePodDefaults_harmless (p : Profile) {m : σ}
    (hm : m ∈ (p.reconcilePodDefaults ns templates).moments serve s) :
    Stock.Harmless ns (templates.map Template.name) (stock s) (stock m) := by
  have hmiddle := named_afterApplies h hspace htemplates hnamed p
  rw [reconcilePodDefaults_eq] at hm
  rcases mem_moments_bind hm with hm | ⟨applied, hresult, hm⟩
  · exact p.applyTemplates_harmless h hspace
      (fun t ht => ⟨List.mem_map_of_mem ht, htemplates t ht⟩) hm
  · obtain ⟨rfl, _⟩ := p.applyTemplates_ok hresult
    apply (p.afterApplies_harmless h hspace htemplates s).trans
    rcases mem_moments_bind hm with hm | ⟨pruned, _, hm⟩
    · exact prunePodDefaults_harmless h hspace hmiddle hm
    · rw [List.mem_singleton.1 hm]
      exact prunePodDefaults_harmless h hspace hmiddle (state_mem_moments serve _ _)

/-- However many passes there were and however far each one got, they were harmless. -/
theorem afterPasses_harmless (ps : List Profile) :
    Stock.Harmless ns (templates.map Template.name) (stock s)
      (stock (afterPasses serve ns templates ps s)) := by
  induction ps generalizing s with
  | nil => exact Stock.Harmless.refl ns _ (stock s)
  | cons p rest ih =>
      have hfirst := reconcilePodDefaults_harmless h hspace htemplates hnamed p
        (state_mem_moments serve _ s)
      exact hfirst.trans (ih (hfirst.named (accepts_names htemplates) hnamed))

theorem named_afterPasses (ps : List Profile) :
    (stock (afterPasses serve ns templates ps s)).Named accepts ns :=
  (afterPasses_harmless h hspace htemplates hnamed ps).named (accepts_names htemplates) hnamed

/-- A deletion is sent behind all applies and the list, and for what was listed as managed. -/
theorem deletes_behind_list (p : Profile) {x : Exchange σ} {other name : String}
    (hx : x ∈ (p.reconcilePodDefaults ns templates).exchanges serve s)
    (hrequest : x.request = .deletePodDefault other name) :
    other = ns ∧ ∃ applies list found deletes,
      (p.reconcilePodDefaults ns templates).exchanges serve s = applies ++ list :: deletes ∧
      x ∈ deletes ∧
      List.Forall₂ (fun y t => Exchange.Answers y (.applyPodDefault ns t.name (t.desired p)) ())
        applies templates ∧
      Exchange.Answers list (.listPodDefaults ns) found ∧
      ∃ o, (stock list.before ns).get? name = some o ∧
        o.metadata.hasLabel managedByLabel managerName = true := by
  rw [exchanges_reconcilePodDefaults] at hx ⊢
  rcases List.mem_append.1 hx with happly | hprune
  · have hrequests := p.applyTemplates_requests happly
    rw [hrequest, applyRequests, List.mem_map] at hrequests
    obtain ⟨t, _, ht⟩ := hrequests
    cases ht
  · cases hresult : ((p.applyTemplates ns templates).run serve s).result with
    | error e =>
        rw [hresult] at hprune
        exact absurd hprune List.not_mem_nil
    | ok applied =>
        rw [hresult] at hprune
        obtain ⟨_, hall⟩ := p.applyTemplates_ok hresult
        obtain ⟨list, found, hsplit, hbefore, hanswers, hreply, hmem, hother, hstale⟩ :=
          prunePodDefaults_delete hprune hrequest
        have hfound := (h.listed _ ns found hspace hreply).1
        have hmiddle := named_afterApplies h hspace htemplates hnamed p
        obtain ⟨_, o, ho, hmanaged⟩ := (mem_staleNames hmiddle hfound).1 hstale
        refine ⟨hother, _, list, found, _, congrArg _ hsplit, hmem, hall, hanswers, o, ?_, ?_⟩
        · rw [hbefore, ho]
        · rw [Metadata.satisfies_managedSelector] at hmanaged
          exact hmanaged

end

end Profile

theorem Stock.Harmless.unmanaged_iff {names : List String} {before after : Stock}
    (h : Stock.Harmless ns names before after) {name : String} (hname : name ∉ names) :
    (∃ o, (after ns).get? name = some o ∧ o.metadata.satisfies managedSelector = false) ↔
      ∃ o, (before ns).get? name = some o ∧ o.metadata.satisfies managedSelector = false := by
  rcases h.rest name hname with hsame | ⟨hnone, o, ho, hmanaged⟩
  · rw [hsame]
  · rw [hnone, ho]
    constructor
    · rintro ⟨_, hget, _⟩
      cases hget
    · rintro ⟨o', hget, hfalse⟩
      rw [← Option.some.inj hget, hmanaged] at hfalse
      cases hfalse

/--
However often passes are interrupted, at no moment a PodDefault of a configured name goes missing, and
nothing is deleted that was not listed as managed behind answered applies of all templates.  The next pass
without failures ends well and leaves the same names as one such pass from the start.
-/
theorem interrupted_passes_harmless (h : StoresOrFails accepts serve stock) (ns : String)
    (hspace : accepts ns) (templates : List Template) (htemplates : ∀ t ∈ templates, accepts t.name)
    (ps : List Profile) (s : σ) (hnamed : (stock s).Named accepts ns) :
    let names := templates.map Template.name
    (∀ front p back, ps = front ++ p :: back ->
      let start := Profile.afterPasses serve ns templates front s
      let pass := p.reconcilePodDefaults ns templates
      (∀ m ∈ pass.moments serve start, ∀ name ∈ names,
        ((stock start ns).get? name).isSome = true ->
          ((stock m ns).get? name).isSome = true) ∧
      ∀ x ∈ pass.exchanges serve start, ∀ other name,
        x.request = .deletePodDefault other name ->
          other = ns ∧ ∃ applies list found deletes,
            pass.exchanges serve start = applies ++ list :: deletes ∧ x ∈ deletes ∧
            List.Forall₂
              (fun y t => Exchange.Answers y (.applyPodDefault ns t.name (t.desired p)) ())
              applies templates ∧
            Exchange.Answers list (.listPodDefaults ns) found ∧
            ∃ o, (stock list.before ns).get? name = some o ∧
              o.metadata.hasLabel managedByLabel managerName = true) ∧
    ∀ q : Profile,
      let last := q.reconcilePodDefaults ns templates
      let interrupted := Profile.afterPasses serve ns templates ps s
      last.unfailing serve interrupted = true ->
        (last.run serve interrupted).result = .ok names ∧
        ∀ (q₀ : Profile) (s₀ : σ), stock s₀ = stock s ->
          (q₀.reconcilePodDefaults ns templates).unfailing serve s₀ = true ->
            ∀ other, (stock (last.run serve interrupted).state other).keys =
              (stock ((q₀.reconcilePodDefaults ns templates).run serve s₀).state other).keys := by
  intro names
  constructor
  -- What holds of every pass does not depend on those before it.
  · intro front p back _ start pass
    have hstart : (stock start).Named accepts ns :=
      Profile.named_afterPasses h hspace htemplates hnamed front
    constructor
    · intro m hm
      exact (p.reconcilePodDefaults_harmless h hspace htemplates hstart hm).configured
    · intro x hx other name hrequest
      exact p.deletes_behind_list h hspace htemplates hstart hx hrequest
  · intro q last interrupted hlast
    have hharmless : Stock.Harmless ns names (stock s) (stock interrupted) :=
      Profile.afterPasses_harmless h hspace htemplates hnamed ps
    have hinterrupted : (stock interrupted).Named accepts ns :=
      Profile.named_afterPasses h hspace htemplates hnamed ps
    obtain ⟨_, _, _, hresult, _, hsettled, _⟩ :=
      Profile.reconcilePodDefaults_unfailing h.toStores hspace htemplates hinterrupted hlast
    refine ⟨hresult, ?_⟩
    intro q₀ s₀ hs₀ hfirst
    obtain ⟨_, _, _, _, _, hsettled₀, _⟩ :=
      Profile.reconcilePodDefaults_unfailing h.toStores hspace htemplates (hs₀ ▸ hnamed) hfirst
    rw [hs₀] at hsettled₀
    apply hsettled.keys_eq hsettled₀
    · intro other hother
      rw [hharmless.elsewhere other hother]
    · intro name hname
      exact hharmless.unmanaged_iff hname

/--
An apply whose answer gets lost, and then the first of two deletions, which is carried out but not heard
of: both passes end early.
-/
theorem interrupted_passes_harmless_unheard :
    ∃ (p : Profile) (c : Api.Cluster) (fates : List Fate),
      let serve := Handler.behind Api.Cluster.serve
      let pass := p.reconcilePodDefaults "team" [⟨"a", {}⟩]
      let interrupted := Profile.afterPasses serve "team" [⟨"a", {}⟩] [p, p] (c, fates)
      (c.podDefaultsIn "team").keys = ["own", "stale", "stale-too"] ∧
      (pass.run serve interrupted).result = .ok ["a"] ∧
      ∀ other, ((pass.run serve interrupted).state.1.podDefaultsIn other).keys =
        ((pass.run serve (c, [])).state.1.podDefaultsIn other).keys := by
  let object (name : String) (labels : Option (Dict String)) : String × PodDefault :=
    (name, { metadata := { name := some name, labels := labels }, spec := { selector := {} } })
  let team : Dict PodDefault := {
    toList := [object "own" none, object "stale" (some managedLabels),
      object "stale-too" (some managedLabels)]
    sorted := by decide +kernel }
  let c : Api.Cluster := { podDefaults := .single "team" team }
  let p : Profile := { metadata := { name := some "team" }, spec := { owner := none } }
  let fates : List Fate := [.answerLost, .arrives, .arrives, .answerLost]
  have hnamed : Stock.Named Api.IsPlainName "team" c.podDefaultsIn :=
    Stock.named_of_forall (by decide +kernel)
  obtain ⟨_, hnext⟩ := interrupted_passes_harmless Api.Cluster.storesOrFails.behind "team" (by decide)
    [⟨"a", {}⟩] (by decide) [p, p] (c, fates) hnamed
  obtain ⟨hresult, hsame⟩ := hnext p (by decide +kernel)
  exact ⟨p, c, fates, by decide +kernel, hresult, hsame p (c, []) rfl (by decide +kernel)⟩

end ProfileOperator
