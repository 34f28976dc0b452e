import ProfileOperator.Proofs.Reconcile.Bookkeeping

/-!
# What is in place after a call

Between two exchanges of a call the server may be changed by anybody else.  While nobody else writes to the
namespace of its profile, a call that has brought all PodDefaults into place leaves as many managed ones in
there as there are templates, and that stays so up to its end.
-/

namespace ProfileOperator

open Pass

variable {σ : Type} {accepts : String -> Prop} {serve : Handler σ} {stock : σ -> Stock} {ns : String}

/-- The answer and the state after it are what the server makes of the request. -/
def Exchange.IsServed (serve : Handler σ) (x : Exchange σ) : Prop :=
  x.reply = (serve x.before x.request).1 ∧ x.after = (serve x.before x.request).2

/-! ### One namespace -/

namespace Stock

def only (ns : String) (stock : Stock) : Stock :=
  Function.update (fun _ => {}) ns (stock ns)

@[simp] theorem only_self (stock : Stock) : stock.only ns ns = stock ns :=
  Function.update_self ..

theorem named_only {stock : Stock} : (stock.only ns).Named accepts ns ↔ stock.Named accepts ns := by
  rw [Named, only_self, Named]

theorem only_congr {a b : Stock} (h : a ns = b ns) : a.only ns = b.only ns := by
  rw [only, only, h]

theorem only_update (stock : Stock) (inside : Dict PodDefault) :
    only ns (Function.update stock ns inside) = Function.update (stock.only ns) ns inside := by
  simp only [only, Function.update_self, Function.update_idem]

theorem Applied.only {name : String} {body : PodDefault} {before after : Stock}
    (h : Applied ns name body before after) :
    Applied ns name body (before.only ns) (after.only ns) := by
  obtain ⟨o, hname, hlabels, rfl⟩ := h
  exact ⟨o, hname, hlabels, by rw [only_update, only_self]⟩

theorem Deleted.only {name : String} {before after : Stock} (h : Deleted ns name before after) :
    Deleted ns name (before.only ns) (after.only ns) := by
  unfold Deleted at h ⊢
  rw [h, only_update, only_self]

end Stock

/-! ### Nobody else writes -/

/--
From the first state on, between the exchanges and up to the last state, the PodDefaults of a namespace are
left alone.
-/
def Quiet (stock : σ -> Stock) (ns : String) : σ -> List (Exchange σ) -> σ -> Prop
  | s, [], e => stock e ns = stock s ns
  | s, x :: rest, e => stock x.before ns = stock s ns ∧ Quiet stock ns x.after rest e

theorem Quiet.split {front back : List (Exchange σ)} {s e : σ}
    (h : Quiet stock ns s (front ++ back) e) :
    ∃ m, Quiet stock ns s front m ∧ Quiet stock ns m back e := by
  induction front generalizing s with
  | nil => exact ⟨s, rfl, h⟩
  | cons x rest ih =>
      obtain ⟨m, hrest, hback⟩ := ih h.2
      exact ⟨m, ⟨h.1, hrest⟩, hback⟩

/-- To a pass that nothing comes between, nobody else has written. -/
theorem quiet_exchanges {ε α : Type} (serve : Handler σ) (stock : σ -> Stock) (ns : String)
    (p : Pass ε α) (s : σ) : Quiet stock ns s (p.exchanges serve s) (p.run serve s).state := by
  induction p generalizing s with
  | done value => exact rfl
  | fail cause => exact rfl
  | note event rest ih => exact ih s
  | send r next ih => exact ⟨rfl, ih _ _⟩

theorem Quiet.of_records
    (hspares : Spares serve stock) {asked : List (Exchange σ)} {s e : σ}
    (h : Quiet stock ns s asked e)
    (hserved : ∀ x ∈ asked, x.IsServed serve)
    (hrecords : ∀ x ∈ asked, ∃ name status, x.request = .patchStatus name status) :
    stock e ns = stock s ns := by
  induction asked generalizing s with
  | nil => exact h
  | cons x rest ih =>
      obtain ⟨hx, hrest⟩ := List.forall_mem_cons.1 hserved
      obtain ⟨⟨name, status, hrequest⟩, hothers⟩ := List.forall_mem_cons.1 hrecords
      rw [ih h.2 hrest hothers, hx.2, hrequest, hspares _ _ rfl, h.1]

/-! ### Bringing PodDefaults into place -/

section

variable {p : Profile} {templates : List Template} {asked : List (Exchange σ)} {s e : σ}
variable (hstores : Stores accepts serve stock) (hspace : accepts ns)
variable (hserved : ∀ x ∈ asked, x.IsServed serve) (hquiet : Quiet stock ns s asked e)

include hstores hspace hserved hquiet

theorem inPlace_of_yields (htemplates : ∀ t ∈ templates, accepts t.name) {names : List String}
    (h : (p.applyTemplates ns templates).Yields asked names) :
    Stock.InPlace ns (templates.map Template.name) ((stock s).only ns) ((stock e).only ns) := by
  induction templates generalizing asked s names with
  | nil =>
      obtain ⟨rfl, _⟩ := h
      rw [Stock.only_congr hquiet]
      exact Stock.InPlace.nil _
  | cons t rest ih =>
      rw [Profile.applyTemplates_cons] at h
      obtain ⟨before, v, after, others, names, rfl, hothers, _⟩ := h.turn
      obtain ⟨⟨hreply, hafter⟩, hserved'⟩ := List.forall_mem_cons.1 hserved
      obtain ⟨ht, htemplates'⟩ := List.forall_mem_cons.1 htemplates
      have happlied := (hstores.applied before ns t.name (t.desired p) hspace ht (p.name_desired t)
        hreply.symm).only
      rw [Stock.only_congr hquiet.1, ← hafter] at happlied
      exact (ih hserved' hquiet.2 htemplates' hothers).cons (p.isManaged_desired t) happlied

theorem swept_of_yields {names : List String} (hnames : ∀ name ∈ names, accepts name) {count : Nat}
    (h : (deletePodDefaults ns names).Yields asked count) :
    Stock.Swept ns names ((stock s).only ns) ((stock e).only ns) := by
  induction names generalizing asked s count with
  | nil =>
      obtain ⟨rfl, _⟩ := h
      rw [Stock.only_congr hquiet]
      exact ⟨fun _ _ => rfl, fun _ => rfl⟩
  | cons name rest ih =>
      rw [deletePodDefaults_cons] at h
      obtain ⟨before, v, after, others, count, rfl, hothers, _⟩ := h.turn
      obtain ⟨⟨hreply, hafter⟩, hserved'⟩ := List.forall_mem_cons.1 hserved
      obtain ⟨hname, hnames'⟩ := List.forall_mem_cons.1 hnames
      have hdeleted := (hstores.deleted before ns name hspace hname hreply.symm).only
      rw [Stock.only_congr hquiet.1, ← hafter] at hdeleted
      exact (ih hserved' hquiet.2 hnames' hothers).cons hdeleted

/--
With the templates in place and the stale PodDefaults deleted, those of the templates are managed, and all
stand under their own names still.
-/
theorem manages_of_yields (htemplates : ∀ t ∈ templates, accepts t.name)
    (hnamed : (stock s).Named accepts ns) {names : List String}
    (h : (p.reconcilePodDefaults ns templates).Yields asked names) :
    (stock e).Named accepts ns ∧
      ∀ name, (stock e).Manages ns name ↔ name ∈ templates.map Template.name := by
  obtain ⟨applies, prunes, count, rfl, happlies, hprunes⟩ := Profile.reconcilePodDefaults_yields h
  obtain ⟨hserved₁, hserved₂⟩ := List.forall_mem_append.1 hserved
  obtain ⟨m, hquiet₁, hquiet₂⟩ := hquiet.split
  have hplace := inPlace_of_yields hstores hspace hserved₁ hquiet₁ htemplates happlies
  have hmiddle := hplace.named (Profile.accepts_names htemplates) (Stock.named_only.2 hnamed)
  rw [prunePodDefaults_eq, Profile.applyTemplates_yields happlies] at hprunes
  obtain ⟨before, found, after, deletes, rfl, hdeletes⟩ := hprunes.request_bind
  obtain ⟨⟨hreply, hafter⟩, hserved₃⟩ := List.forall_mem_cons.1 hserved₂
  obtain ⟨hfound, hsame⟩ := hstores.listed before ns found hspace hreply.symm
  have hlisted : (stock before).Named accepts ns := by
    rw [Stock.Named, hquiet₂.1]
    exact Stock.named_only.1 hmiddle
  have hbefore : (stock after).only ns = (stock m).only ns :=
    Stock.only_congr ((congrFun ((congrArg stock hafter).trans hsame) ns).trans hquiet₂.1)
  have hswept := swept_of_yields hstores hspace hserved₃ hquiet₂.2
    (accepts_staleNames hlisted hfound) hdeletes
  rw [hbefore] at hswept
  have hsettled := hplace.settled hswept fun other => by
    rw [mem_staleNames hlisted hfound]
    refine and_congr_right fun hother => ?_
    rw [← hplace.manages_iff hother, Stock.Manages, Stock.Manages, Stock.only_self, hquiet₂.1]
  refine ⟨Stock.named_only.1 (hswept.named hmiddle), fun name => ?_⟩
  rw [← hsettled.managed name, Stock.Manages, Stock.Manages, Stock.only_self]

end

/-! ### Counting what is in place -/

theorem length_managed {now : Stock} (hnamed : now.Named accepts ns) {names : List String}
    (hnodup : names.Nodup) (hnames : ∀ name, now.Manages ns name ↔ name ∈ names) :
    (now.managed ns).length = names.length := by
  have hperm : (staleNames [] (now.managed ns)).Perm names := by
    rw [List.perm_ext_iff_of_nodup (nodup_staleNames hnamed (.refl _) []) hnodup]
    intro name
    rw [mem_staleNames hnamed (.refl _), hnames]
    exact and_iff_right List.not_mem_nil
  rw [← hperm.length_eq, staleNames, List.filter_eq_self.2 fun _ _ => by simp, List.length_map]

/-- At the end of a call that has brought everything into place there is what it has measured. -/
theorem Profile.HasCompleted.length_managed {p : Profile} {templates : List Template}
    {asked : List (Exchange σ)} {s e : σ} (h : p.HasCompleted templates asked)
    (hrecords : p.OnlyRecordsAfter templates asked) (hstores : Stores accepts serve stock)
    (hspares : Spares serve stock) (hspace : accepts p.name) (htemplates : ∀ t ∈ templates, accepts t.name)
    (hnodup : (templates.map Template.name).Nodup) (hnamed : (stock s).Named accepts p.name)
    (hserved : ∀ x ∈ asked, x.IsServed serve) (hquiet : Quiet stock p.name s asked e) :
    ((stock e).managed p.name).length = templates.length := by
  obtain ⟨front, back, rfl, hcompletes⟩ := h
  obtain ⟨names, hyields⟩ := hcompletes.2
  obtain ⟨m, hquiet₁, hquiet₂⟩ := hquiet.split
  obtain ⟨hserved₁, hserved₂⟩ := List.forall_mem_append.1 hserved
  have hend := hquiet₂.of_records hspares hserved₂ (hrecords front back rfl hcompletes)
  obtain ⟨space, rest, rfl, hspared, hrest⟩ := Profile.preparation_yields hyields
  obtain ⟨hserved, hserved'⟩ := List.forall_mem_cons.1 hserved₁
  -- The namespace is written first, which leaves the PodDefaults as they are.
  have hstart : (stock space.after).Named accepts p.name := by
    rw [hserved.2, hspares _ _ hspared, Stock.Named, hquiet₁.1]
    exact hnamed
  obtain ⟨hnamed', hmanages⟩ :=
    manages_of_yields hstores hspace hserved' hquiet₁.2 htemplates hstart hrest
  rw [Stock.managed, hend, ← Stock.managed, ProfileOperator.length_managed hnamed' hnodup hmanages,
    List.length_map]

end ProfileOperator
