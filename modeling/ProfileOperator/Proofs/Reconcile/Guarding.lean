import ProfileOperator.Proofs.Reconcile.Measures
import ProfileOperator.Reconcile.Guard

/-!
# What a run does under its finalizer

A run goes one of three ways, by the finalizers and the deletion of the profile that it is given: it applies
the profile, it tidies up and then takes the finalizer off, or it does no work at all and at most puts the
finalizer on.  The specification of the profile only matters for the first one.
-/

namespace ProfileOperator

open Pass

/-- The request is work: all but the changes of finalizers are. -/
def Api.Request.isWork : Api.Request -> Bool
  | .patchFinalizers .. => false
  | _ => true

theorem Api.Request.IsWorkFor.isWork_eq {name : String} {r : Api.Request} (h : r.IsWorkFor name) :
    r.isWork = true := by
  cases r with
  | patchFinalizers profile change =>
      rcases h with h | ⟨status, h⟩
      · exact absurd h id
      · cases h
  | _ => rfl

def Api.Request.IsFinalizerChangeFor (name : String) (r : Api.Request) : Prop :=
  ∃ change, r = .patchFinalizers name change

/-- It puts the finalizer on the profile of a name, whatever the finalizers are that it comes to. -/
def Api.Request.IsAdditionFor (name : String) (r : Api.Request) : Prop :=
  ∃ change : Api.FinalizerChange,
    r = .patchFinalizers name change ∧ ∀ present, finalizer ∈ change.carriedOut present

def Api.Request.IsRunFor (name : String) (r : Api.Request) : Prop :=
  r.IsWorkFor name ∨ r.IsFinalizerChangeFor name

namespace Pass

variable {ε α : Type}

/-- Whatever the answers are, the pass works for the profile of the name. -/
def IsWorking (name : String) (p : Pass ε α) : Prop :=
  p.Within (Api.Request.IsWorkFor name) (Event.IsFor name) fun _ => True

/-- Whatever the answers are, the pass does no work, and changes the finalizers of the profile at most. -/
def IsIdle (name : String) (p : Pass ε α) : Prop :=
  p.Within (Api.Request.IsFinalizerChangeFor name) (Event.IsIdleFor name) fun _ => True

/-- Whatever the answers are, the pass does no work, and puts the finalizer on the profile at most. -/
def OnlyAdds (name : String) (p : Pass ε α) : Prop :=
  p.Within (Api.Request.IsAdditionFor name) (Event.IsIdleFor name) fun _ => True

/-- The pass uncounts the profile of the name before it asks for anything, and is idle from there on. -/
def TidiesFirst (name : String) : Pass ε α -> Prop
  | .note event rest =>
      event.IsIdleFor name ∧ (event = .measure (.unapplied name) ∧ rest.IsIdle name ∨ rest.TidiesFirst name)
  | _ => False

end Pass

/-- How the run of a profile that is being deleted may end. -/
def DeletionEnds : Except Failure Requeue -> Prop
  | .ok requeue => requeue = .onChange
  | .error (.guarded (.removeFinalizer _)) => True
  | .error _ => False

theorem DeletionEnds.cases {result : Except Failure Requeue} (h : DeletionEnds result) :
    result = .ok .onChange ∨ ∃ e, result = .error (.guarded (.removeFinalizer e)) := by
  cases result with
  | ok requeue => exact Or.inl (congrArg Except.ok h)
  | error cause =>
      cases cause with
      | guarded cause =>
          cases cause with
          | removeFinalizer e => exact Or.inr ⟨e, rfl⟩
          | _ => exact absurd h id
      | _ => exact absurd h id

namespace Profile

def closing (p : Profile) : Except (GuardFailure Failure) Requeue -> Pass Failure Requeue
  | .ok requeue =>
      .note (.measure .ended) (.note (.log .info ("Successfully reconciled " ++ p.name)) (.done requeue))
  | .error cause =>
      .note (.measure .ended) (.note (.measure .failed)
        (.note (.log .error ("Failed to reconcile " ++ p.name ++ ": " ++ cause.shown))
          (.fail (.guarded cause))))

theorem reconcile_eq (p : Profile) (now : Time.Instant) (templates : List Template) :
    p.reconcile now templates =
      .note (.measure .started) ((p.guarded now templates).andThen p.closing) := by
  change Pass.note _ ((p.guarded now templates).andThen _) = _
  congr 2
  funext result
  cases result <;> rfl

theorem closing_within (p : Profile) (name : String) {asks : Api.Request -> Prop}
    {ends : Except Failure Requeue -> Prop} {result : Except (GuardFailure Failure) Requeue}
    (h : ends (result.mapError .guarded)) :
    (p.closing result).Within asks (Event.IsIdleFor name) ends := by
  cases result with
  | ok requeue => exact ⟨trivial, trivial, h⟩
  | error cause => exact ⟨trivial, trivial, trivial, h⟩

theorem name_eq {p : Profile} {name : String} (h : p.metadata.name = some name) : p.name = name := by
  rw [Profile.name, Metadata.nameAny, h]
  rfl

theorem changeFinalizers_within {p : Profile} {name : String} (hname : p.metadata.name = some name)
    {asks : Api.Request -> Prop} {notes : Event -> Prop} {change : Api.FinalizerChange}
    {failure : Api.ClientError -> GuardFailure Failure}
    {ends : Except (GuardFailure Failure) Unit -> Prop} (hasks : asks (.patchFinalizers name change))
    (hok : ends (.ok ())) (herror : ∀ e, ends (.error (failure e))) :
    (p.changeFinalizers change failure).Within asks notes ends := by
  unfold changeFinalizers
  rw [hname]
  have hask : (ask (.patchFinalizers name change)).Within asks notes fun _ => True :=
    within_ask hasks
  exact hask.mapError (fun _ _ => hok) fun e _ => herror e

/-! ### The three ways of a run -/

theorem guarded_eq_apply {p : Profile} (hcarries : finalizer ∈ p.metadata.finalizerList)
    (halive : p.metadata.isDeleting = false) (now : Time.Instant) (templates : List Template) :
    p.guarded now templates = (p.apply now templates).mapError .apply := by
  unfold guarded
  rw [halive]
  cases hindex : p.metadata.finalizerList.idxOf? finalizer with
  | some index => rfl
  | none => exact absurd hcarries (List.idxOf?_eq_none_iff.1 hindex)

theorem reconcile_isWorking {p : Profile} {name : String} (hname : p.metadata.name = some name)
    (hcarries : finalizer ∈ p.metadata.finalizerList) (halive : p.metadata.isDeleting = false)
    (now : Time.Instant) (templates : List Template) :
    (p.reconcile now templates).IsWorking name := by
  have happly : (p.apply now templates).IsWorking name :=
    (p.apply_within now templates).mono (fun _ h => name_eq hname ▸ h)
      (fun _ h => name_eq hname ▸ h.isFor) fun _ _ => trivial
  have hguarded : ((p.apply now templates).mapError GuardFailure.apply).IsWorking name :=
    happly.mapError (fun _ _ => trivial) fun _ _ => trivial
  rw [reconcile_eq, guarded_eq_apply hcarries halive]
  refine ⟨trivial, hguarded.andThen fun result _ => ?_⟩
  exact (p.closing_within name trivial).mono (fun _ h => h) (fun _ h => h.isFor) fun _ h => h

def removal (p : Profile) (index : Nat) : Pass Failure Requeue :=
  ((p.changeFinalizers (.removeAt index finalizer) .removeFinalizer).bind fun _ =>
    .done .onChange).andThen p.closing

theorem guarded_of_deleting {p : Profile} {name : String} (hname : p.metadata.name = some name)
    {index : Nat} (hindex : p.metadata.finalizerList.idxOf? finalizer = some index)
    (hdeleting : p.metadata.isDeleting = true) (now : Time.Instant) (templates : List Template) :
    p.guarded now templates =
      .note (.log .info ("Cleaning up Profile " ++ p.name))
        (.note (.measure (.unapplied p.name))
          ((p.changeFinalizers (.removeAt index finalizer) .removeFinalizer).bind fun _ =>
            .done .onChange)) := by
  rw [guarded, hindex, hdeleting]
  dsimp only
  rw [hname]
  rfl

theorem reconcile_of_deleting {p : Profile} {name : String} (hname : p.metadata.name = some name)
    {index : Nat} (hindex : p.metadata.finalizerList.idxOf? finalizer = some index)
    (hdeleting : p.metadata.isDeleting = true) (now : Time.Instant) (templates : List Template) :
    p.reconcile now templates =
      .note (.measure .started) (.note (.log .info ("Cleaning up Profile " ++ p.name))
        (.note (.measure (.unapplied p.name)) (p.removal index))) := by
  rw [reconcile_eq, guarded_of_deleting hname hindex hdeleting]
  rfl

theorem removal_within {p : Profile} {name : String} (hname : p.metadata.name = some name)
    (index : Nat) :
    (p.removal index).Within (Api.Request.IsFinalizerChangeFor name) (Event.IsIdleFor name)
      DeletionEnds := by
  have hchange : (p.changeFinalizers (.removeAt index finalizer) .removeFinalizer).Within
      (Api.Request.IsFinalizerChangeFor name) (Event.IsIdleFor name)
      fun result => ∀ e, result = .error e -> DeletionEnds (.error (.guarded e)) := by
    refine changeFinalizers_within hname ⟨_, rfl⟩ (fun e h => ?_) fun e cause h => ?_
    · cases h
    · cases h
      exact trivial
  have hbody : ((p.changeFinalizers (.removeAt index finalizer) .removeFinalizer).bind fun _ =>
      .done Requeue.onChange).Within (Api.Request.IsFinalizerChangeFor name) (Event.IsIdleFor name)
      fun result => DeletionEnds (result.mapError .guarded) :=
    hchange.bind (fun _ _ => rfl) fun e h => h e rfl
  exact hbody.andThen fun result h => p.closing_within name h

theorem run_of_deleting {σ : Type} {serve : Handler σ} {p : Profile} {name : String}
    (hname : p.metadata.name = some name) {index : Nat}
    (hindex : p.metadata.finalizerList.idxOf? finalizer = some index)
    (hdeleting : p.metadata.isDeleting = true) (now : Time.Instant) (templates : List Template) {s : σ}
    (hsent : (Api.Request.patchFinalizers name (.removeAt index finalizer)).obstacle? = none)
    (hreply : (serve s (.patchFinalizers name (.removeAt index finalizer))).1 = .ok ()) :
    ((p.reconcile now templates).run serve s).result = .ok .onChange ∧
      ((p.reconcile now templates).run serve s).state =
        (serve s (.patchFinalizers name (.removeAt index finalizer))).2 := by
  rw [reconcile_of_deleting hname hindex hdeleting, removal, changeFinalizers, hname]
  dsimp only
  rw [ask, hsent]
  simp only [Pass.mapError, Pass.andThen, Pass.bind, Pass.run, hreply]
  exact ⟨rfl, rfl⟩

theorem reconcile_tidiesFirst {p : Profile} {name : String} (hname : p.metadata.name = some name)
    (hcarries : finalizer ∈ p.metadata.finalizerList) (hdeleting : p.metadata.isDeleting = true)
    (now : Time.Instant) (templates : List Template) :
    (p.reconcile now templates).TidiesFirst name ∧
      (p.reconcile now templates).Within (Api.Request.IsFinalizerChangeFor name)
        (Event.IsIdleFor name) DeletionEnds := by
  cases hindex : p.metadata.finalizerList.idxOf? finalizer with
  | none => exact absurd hcarries (List.idxOf?_eq_none_iff.1 hindex)
  | some index =>
      have hremoval := removal_within hname index
      have hidle : (p.removal index).IsIdle name :=
        hremoval.mono (fun _ h => h) (fun _ h => h) fun _ _ => trivial
      rw [reconcile_of_deleting hname hindex hdeleting, name_eq hname]
      exact ⟨⟨trivial, Or.inr ⟨trivial, Or.inr ⟨rfl, Or.inl ⟨rfl, hidle⟩⟩⟩⟩,
        trivial, trivial, rfl, hremoval⟩

def addition (p : Profile) : Pass (GuardFailure Failure) Requeue :=
  (p.changeFinalizers p.finalizerAddition .addFinalizer).bind fun _ => .done .onChange

theorem guarded_of_missing {p : Profile} (hmissing : finalizer ∉ p.metadata.finalizerList)
    (now : Time.Instant) (templates : List Template) :
    p.guarded now templates = if p.metadata.isDeleting then .done .onChange else p.addition := by
  rw [guarded, List.idxOf?_eq_none_iff.2 hmissing]
  cases p.metadata.isDeleting with
  | true => rfl
  | false => rfl

theorem carriedOut_finalizerAddition (p : Profile) (present : List String) :
    finalizer ∈ p.finalizerAddition.carriedOut present := by
  unfold finalizerAddition
  split
  · exact List.mem_singleton_self finalizer
  · exact List.mem_append_right present (List.mem_singleton_self finalizer)

theorem reconcile_of_missing {p : Profile} {name : String}
    (hname : p.metadata.name = some name) (hmissing : finalizer ∉ p.metadata.finalizerList)
    (now : Time.Instant) (templates : List Template) :
    (p.reconcile now templates).Within (Api.Request.IsAdditionFor name) (Event.IsIdleFor name)
      fun result => p.metadata.isDeleting = true -> DeletionEnds result := by
  rw [reconcile_eq, guarded_of_missing hmissing]
  refine ⟨trivial, ?_⟩
  cases hdeleting : p.metadata.isDeleting with
  | true => exact p.closing_within name fun _ => rfl
  | false =>
      have hchange : (p.changeFinalizers p.finalizerAddition .addFinalizer).Within
          (Api.Request.IsAdditionFor name) (Event.IsIdleFor name) fun _ => True :=
        changeFinalizers_within hname ⟨_, rfl, p.carriedOut_finalizerAddition⟩ trivial
          fun _ => trivial
      have hbody : p.addition.Within (Api.Request.IsAdditionFor name) (Event.IsIdleFor name)
          fun _ => True :=
        hchange.bind (fun _ _ => trivial) fun _ _ => trivial
      refine Within.andThen hbody fun result _ => p.closing_within name ?_
      intro h
      cases h

/-! ### What holds of every run -/

/-- Work is only asked for where the profile carries the finalizer and is not being deleted. -/
def MayAsk (p : Profile) (r : Api.Request) : Prop :=
  r.isWork = true -> finalizer ∈ p.metadata.finalizerList ∧ p.metadata.isDeleting = false

theorem reconcile_within {p : Profile} {name : String} (hname : p.metadata.name = some name)
    (now : Time.Instant) (templates : List Template) :
    (p.reconcile now templates).Within (fun r => r.IsRunFor name ∧ p.MayAsk r) (Event.IsFor name)
      fun result => p.metadata.isDeleting = true -> DeletionEnds result := by
  have hidle : ∀ r, Api.Request.IsFinalizerChangeFor name r -> r.IsRunFor name ∧ p.MayAsk r := by
    intro r hchange
    refine ⟨Or.inr hchange, fun hwork => ?_⟩
    obtain ⟨change, rfl⟩ := hchange
    cases hwork
  by_cases hcarries : finalizer ∈ p.metadata.finalizerList
  · by_cases hdeleting : p.metadata.isDeleting = true
    · exact (reconcile_tidiesFirst hname hcarries hdeleting now templates).2.mono hidle
        (fun _ h => h.isFor) fun _ h _ => h
    · rw [Bool.not_eq_true] at hdeleting
      exact (reconcile_isWorking hname hcarries hdeleting now templates).mono
        (fun _ hwork => ⟨Or.inl hwork, fun _ => ⟨hcarries, hdeleting⟩⟩) (fun _ h => h)
        fun _ _ h => absurd h (hdeleting ▸ Bool.false_ne_true)
  · refine (reconcile_of_missing hname hcarries now templates).mono ?_ (fun _ h => h.isFor)
      fun _ h => h
    rintro r ⟨change, rfl, _⟩
    exact hidle _ ⟨change, rfl⟩

/-- A deletion does not look at the specification, nor at the templates or the time. -/
theorem reconcile_deletion_congr {p q : Profile} (h : p.metadata = q.metadata)
    (hdeleting : p.metadata.isDeleting = true) (now now' : Time.Instant)
    (templates templates' : List Template) :
    p.reconcile now templates = q.reconcile now' templates' := by
  obtain ⟨metadata, spec, status⟩ := p
  obtain ⟨metadata', spec', status'⟩ := q
  cases h
  unfold reconcile guarded
  rw [hdeleting]
  cases metadata.finalizerList.idxOf? finalizer with
  | none => rfl
  | some index => rfl

end Profile

end ProfileOperator
