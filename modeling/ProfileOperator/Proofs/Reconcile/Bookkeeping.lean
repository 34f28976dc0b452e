import ProfileOperator.Proofs.Reconcile.Guarding
import ProfileOperator.Proofs.Reconcile.Walks

/-!
# What a call measures

A call is the run of one profile from its start to its end.  What it has measured at a request, or at its
end, can be said by the profile, by the exchanges that it has had and by its result: that it has started,
that it has tidied up, that its PodDefaults are all in place, and how it has ended.
-/

namespace ProfileOperator

open Pass

variable {σ : Type}

namespace Profile

/-! ### The first part of applying -/

/-- What applying a profile does up to the point where its PodDefaults are all in place. -/
def preparation (p : Profile) (templates : List Template) : Pass Failure (List String) :=
  (Pass.ofExcept (p.validate.mapError .validation)).bind fun _ =>
    p.reconcileNamespace.bind fun namespaceName => p.reconcilePodDefaults namespaceName templates

theorem reconcileNamespace_eq (p : Profile) :
    p.reconcileNamespace =
      (request .applyNamespace (.applyNamespace p.name p.desiredNamespace)).bind fun _ =>
        .note (.log .info ("Reconciled Namespace " ++ p.name)) (.done p.name) := rfl

theorem apply_eq_preparation (p : Profile) (now : Time.Instant) (templates : List Template) :
    p.apply now templates = .note (.log .info ("Applying Profile " ++ p.name))
      ((p.preparation templates).bind fun applied =>
        .note (.measure (.applied p.name applied.length)) (p.conclusion now applied)) := by
  rw [apply_eq, groundwork, Pass.bind]
  simp only [preparation, reconcileNamespace_eq, bind_assoc, Pass.bind]

theorem applyTemplates_logs (p : Profile) (ns : String) (templates : List Template) :
    (p.applyTemplates ns templates).Logs := by
  induction templates with
  | nil => exact trivial
  | cons t rest ih =>
      rw [applyTemplates_cons]
      exact logs_turn ih

end Profile

theorem deletePodDefaults_logs (ns : String) (names : List String) :
    (deletePodDefaults ns names).Logs := by
  induction names with
  | nil => exact trivial
  | cons name rest ih =>
      rw [deletePodDefaults_cons]
      exact logs_turn ih

namespace Profile

theorem reconcilePodDefaults_logs (p : Profile) (ns : String) (templates : List Template) :
    (p.reconcilePodDefaults ns templates).Logs := by
  rw [reconcilePodDefaults_eq]
  refine (p.applyTemplates_logs ns templates).bind fun applied => ?_
  rw [prunePodDefaults_eq]
  have hprune : ((request .listPodDefaults (.listPodDefaults ns)).bind fun existing =>
      deletePodDefaults ns (staleNames applied existing)).Logs :=
    (logs_request _ _).bind fun found => deletePodDefaults_logs ns _
  exact hprune.bind fun _ => ⟨rfl, trivial⟩

theorem reconcileNamespace_logs (p : Profile) : p.reconcileNamespace.Logs := by
  rw [reconcileNamespace_eq]
  exact (logs_request _ _).bind fun _ => ⟨rfl, trivial⟩

theorem preparation_logs (p : Profile) (templates : List Template) :
    (p.preparation templates).Logs := by
  unfold preparation
  cases p.validate with
  | error cause => exact trivial
  | ok _ => exact p.reconcileNamespace_logs.bind fun ns => p.reconcilePodDefaults_logs ns templates

theorem changeFinalizers_logs (p : Profile) (change : Api.FinalizerChange)
    (failure : Api.ClientError -> GuardFailure Failure) : (p.changeFinalizers change failure).Logs := by
  unfold changeFinalizers
  cases p.metadata.name with
  | none => exact trivial
  | some name =>
      have hask : (ask (.patchFinalizers name change)).Logs := within_ask trivial
      exact hask.mapError failure

/-! ### What a call has come to -/

def IsApplied (p : Profile) : Prop :=
  finalizer ∈ p.metadata.finalizerList ∧ p.metadata.isDeleting = false

def IsTidied (p : Profile) : Prop :=
  finalizer ∈ p.metadata.finalizerList ∧ p.metadata.isDeleting = true ∧
    p.metadata.name.isSome = true

instance (p : Profile) : Decidable p.IsTidied :=
  inferInstanceAs (Decidable (_ ∧ _))

/-- With the last of these exchanges the call has brought all PodDefaults of the profile into place. -/
def Completes (p : Profile) (templates : List Template) (asked : List (Exchange σ)) : Prop :=
  p.IsApplied ∧ ∃ names, (p.preparation templates).Yields asked names

/-- With one of these exchanges the call has brought all PodDefaults of the profile into place. -/
def HasCompleted (p : Profile) (templates : List Template) (asked : List (Exchange σ)) : Prop :=
  ∃ front back, asked = front ++ back ∧ p.Completes templates front

/-- Of the exchanges that a call has after that, each one records the status of a profile. -/
def OnlyRecordsAfter (p : Profile) (templates : List Template) (asked : List (Exchange σ)) : Prop :=
  ∀ front back, asked = front ++ back -> p.Completes templates front ->
    ∀ x ∈ back, ∃ name status, x.request = .patchStatus name status

/--
What a call that has had these exchanges may note: that its PodDefaults are in place when they are, and that
it tidies up when it does.
-/
def MayNote (p : Profile) (templates : List Template) (asked : List (Exchange σ)) : Event -> Prop
  | .measure (.applied profile count) =>
      profile = p.name ∧ count = templates.length ∧ p.Completes templates asked
  | .measure (.unapplied profile) => profile = p.name ∧ p.IsTidied
  | _ => True

def startMeasures (p : Profile) : List Measure :=
  .started :: if p.IsTidied then [.unapplied p.name] else []

open Classical in
noncomputable def measures (p : Profile) (templates : List Template) (asked : List (Exchange σ)) :
    List Measure :=
  p.startMeasures ++
    if p.HasCompleted templates asked then [.applied p.name templates.length] else []

def endMeasures {ε : Type} : Except ε Requeue -> List Measure
  | .ok _ => [.ended]
  | .error _ => [.ended, .failed]

/-- The work of a call has come to its end, and it has measured what it should. -/
structure Measured (p : Profile) (templates : List Template) (asked : List (Exchange σ))
    (taken : List Measure) : Prop where
  taken : taken = p.measures templates asked
  records : p.OnlyRecordsAfter templates asked

/-- A call has come to its end with the result, and it has measured what it should. -/
structure Accounted (p : Profile) (templates : List Template) (asked : List (Exchange σ))
    (taken : List Measure) (result : Except Failure Requeue) : Prop where
  taken : taken = p.measures templates asked ++ endMeasures result
  records : p.OnlyRecordsAfter templates asked

variable {p : Profile} {templates : List Template} {asked : List (Exchange σ)}
variable {taken : List Measure}

/-! ### Calls that bring nothing into place -/

theorem measured_of_not_hasCompleted (h : ¬p.HasCompleted templates asked)
    (htaken : taken = p.startMeasures) : p.Measured templates asked taken where
  taken := by rw [htaken, measures, if_neg h, List.append_nil]
  records front back hsplit hcompletes := absurd ⟨front, back, hsplit, hcompletes⟩ h

theorem not_hasCompleted_of_not_isApplied (h : ¬p.IsApplied) :
    ¬p.HasCompleted templates asked := by
  rintro ⟨_, _, _, happlied, _⟩
  exact h happlied

theorem walks_of_not_isApplied {ε : Type} {rest : Pass ε Requeue} (hrest : rest.Logs)
    (h : ¬p.IsApplied) (templates : List Template) :
    rest.Walks (p.MayNote templates)
      (fun (asked : List (Exchange σ)) taken _ => p.Measured templates asked taken)
      [] p.startMeasures := by
  refine (Within.walks hrest (fun _ _ _ => trivial) [] p.startMeasures).mono ?_
  rintro asked taken result ⟨htaken, _⟩
  exact measured_of_not_hasCompleted (not_hasCompleted_of_not_isApplied h) htaken

/-! ### Calls that apply their profile -/

theorem IsApplied.not_isTidied (h : p.IsApplied) : ¬p.IsTidied :=
  fun htidied => Bool.false_ne_true (h.2.symm.trans htidied.2.1)

theorem startMeasures_of_not_isTidied (h : ¬p.IsTidied) : p.startMeasures = [.started] := by
  rw [startMeasures, if_neg h]

theorem applyTemplates_yields {ns : String} {names : List String}
    (h : (p.applyTemplates ns templates).Yields asked names) :
    names = templates.map Template.name := by
  induction templates generalizing asked names with
  | nil => exact h.2.symm
  | cons t rest ih =>
      rw [applyTemplates_cons] at h
      obtain ⟨_, _, _, _, _, _, hrest, rfl⟩ := h.turn
      rw [ih hrest, List.map_cons]

/-- The exchanges that bring the PodDefaults of a namespace into place, part by part. -/
theorem reconcilePodDefaults_yields {ns : String} {names : List String}
    (h : (p.reconcilePodDefaults ns templates).Yields asked names) :
    ∃ applies prunes count, asked = applies ++ prunes ∧
      (p.applyTemplates ns templates).Yields applies names ∧
      (prunePodDefaults ns names).Yields prunes count := by
  rw [reconcilePodDefaults_eq] at h
  obtain ⟨applies, rest, applied, rfl, happlies, hrest⟩ := h.bind
  obtain ⟨prunes, _, count, rfl, hprunes, rfl, rfl⟩ := Yields.bind hrest
  exact ⟨applies, prunes, count, by rw [List.append_nil], happlies, hprunes⟩

theorem preparation_yields {names : List String}
    (h : (p.preparation templates).Yields asked names) :
    ∃ x rest, asked = x :: rest ∧ x.request.isForPodDefaults = false ∧
      (p.reconcilePodDefaults p.name templates).Yields rest names := by
  unfold preparation at h
  cases hvalid : p.validate with
  | error cause =>
      rw [hvalid] at h
      exact absurd h id
  | ok _ =>
      rw [hvalid, reconcileNamespace_eq, bind_assoc] at h
      obtain ⟨_, _, _, rest, rfl, hrest⟩ := Yields.request_bind h
      exact ⟨_, rest, rfl, rfl, hrest⟩

theorem length_of_preparation_yields {names : List String}
    (h : (p.preparation templates).Yields asked names) : names.length = templates.length := by
  obtain ⟨_, rest, _, _, hrest⟩ := preparation_yields h
  obtain ⟨_, _, _, _, happlies, _⟩ := reconcilePodDefaults_yields hrest
  rw [applyTemplates_yields happlies, List.length_map]

theorem conclusion_records (p : Profile) (now : Time.Instant) (names : List String) :
    (p.conclusion now names).Within (fun r => ∃ name status, r = .patchStatus name status)
      (fun event => Event.measures [event] = []) fun _ => True := by
  have hrequest : (request .updateStatus (.patchStatus p.name (p.readyStatus now names))).Within
      (fun r => ∃ name status, r = .patchStatus name status)
      (fun event => Event.measures [event] = []) fun _ => True :=
    within_request ⟨_, _, rfl⟩ (fun _ => trivial) fun _ => trivial
  exact hrequest.bind (fun _ _ => ⟨rfl, trivial⟩) fun _ h => h

/-- Once everything is in place, the call has measured that and only records it. -/
theorem conclusion_walks (now : Time.Instant) (happlied : p.IsApplied) {names : List String}
    (h : (p.preparation templates).Yields asked names) :
    (p.conclusion now names).Walks (p.MayNote templates)
      (fun asked taken _ => p.Measured templates asked taken)
      asked [.started, .applied p.name names.length] := by
  refine (Within.walks (p.conclusion_records now names) (fun _ _ _ => trivial) _ _).mono ?_
  rintro asked' taken _ ⟨rfl, more, rfl, hmore, _⟩
  have hcompletes : p.Completes templates asked := ⟨happlied, names, h⟩
  constructor
  · rw [measures, if_pos ⟨asked, more, rfl, hcompletes⟩,
      startMeasures_of_not_isTidied happlied.not_isTidied, length_of_preparation_yields h]
    rfl
  · rintro front back hsplit ⟨_, _, hfront⟩
    have hsame := h.eq_of_append hfront hsplit
    rw [hsame] at hsplit
    rwa [← List.append_cancel_left hsplit]

theorem apply_walks (p : Profile) (now : Time.Instant) (templates : List Template)
    (happlied : p.IsApplied) :
    (p.apply now templates).Walks (p.MayNote templates)
      (fun (asked : List (Exchange σ)) taken _ => p.Measured templates asked taken)
      [] [.started] := by
  rw [apply_eq_preparation]
  have hlogs := p.preparation_logs templates
  refine ⟨trivial, (Within.walks hlogs (fun _ _ _ => trivial) [] _).bind ?_ ?_⟩
  · rintro asked taken names ⟨rfl, more, rfl, _, hyields⟩
    exact ⟨⟨rfl, length_of_preparation_yields hyields, happlied, names, hyields⟩,
      conclusion_walks now happlied hyields⟩
  · rintro asked taken cause ⟨rfl, more, rfl, _, hnot⟩
    refine measured_of_not_hasCompleted ?_
      (startMeasures_of_not_isTidied happlied.not_isTidied).symm
    rintro ⟨front, back, hsplit, _, names, hfront⟩
    exact hnot front back names hsplit hfront

/-! ### Every call -/

theorem guarded_walks_of_missing (h : finalizer ∉ p.metadata.finalizerList) (now : Time.Instant)
    (templates : List Template) :
    (p.guarded now templates).Walks (p.MayNote templates)
      (fun (asked : List (Exchange σ)) taken _ => p.Measured templates asked taken)
      [] [.started] := by
  have hlogs : (p.guarded now templates).Logs := by
    rw [guarded_of_missing h]
    split
    · exact trivial
    · exact (p.changeFinalizers_logs _ _).bind fun _ => trivial
  have hwalk := walks_of_not_isApplied (σ := σ) hlogs (fun happlied => h happlied.1) templates
  rwa [startMeasures_of_not_isTidied fun htidied => h htidied.1] at hwalk

/-- A call for a profile that is being deleted tidies up before it asks for anything. -/
theorem guarded_walks_of_deleting (h : finalizer ∈ p.metadata.finalizerList)
    (hdeleting : p.metadata.isDeleting = true) (now : Time.Instant) (templates : List Template) :
    (p.guarded now templates).Walks (p.MayNote templates)
      (fun (asked : List (Exchange σ)) taken _ => p.Measured templates asked taken)
      [] [.started] := by
  have hnot : ¬p.IsApplied := fun happlied =>
    Bool.false_ne_true (happlied.2.symm.trans hdeleting)
  obtain ⟨index, hindex⟩ : ∃ index, p.metadata.finalizerList.idxOf? finalizer = some index := by
    cases hindex : p.metadata.finalizerList.idxOf? finalizer with
    | none => exact absurd h (List.idxOf?_eq_none_iff.1 hindex)
    | some index => exact ⟨index, rfl⟩
  cases hname : p.metadata.name with
  | none =>
      have hstart : p.startMeasures = [.started] := by
        apply startMeasures_of_not_isTidied
        intro htidied
        have hnamed := htidied.2.2
        rw [hname] at hnamed
        cases hnamed
      rw [guarded, hindex, hdeleting]
      dsimp only
      rw [hname]
      exact measured_of_not_hasCompleted (not_hasCompleted_of_not_isApplied hnot) hstart.symm
  | some name =>
      have hstart : p.startMeasures = [.started, .unapplied p.name] := by
        rw [startMeasures, if_pos ⟨h, hdeleting, by rw [hname]; rfl⟩]
      have hlogs : ((p.changeFinalizers (.removeAt index finalizer) .removeFinalizer).bind
          fun _ => .done Requeue.onChange).Logs :=
        (p.changeFinalizers_logs _ _).bind fun _ => trivial
      have hwalk := walks_of_not_isApplied (σ := σ) hlogs hnot templates
      rw [hstart] at hwalk
      rw [guarded_of_deleting hname hindex hdeleting]
      exact ⟨trivial, ⟨rfl, h, hdeleting, by rw [hname]; rfl⟩, hwalk⟩

theorem guarded_walks (p : Profile) (now : Time.Instant) (templates : List Template) :
    (p.guarded now templates).Walks (p.MayNote templates)
      (fun (asked : List (Exchange σ)) taken _ => p.Measured templates asked taken)
      [] [.started] := by
  by_cases hcarries : finalizer ∈ p.metadata.finalizerList
  · cases hdeleting : p.metadata.isDeleting with
    | false =>
        rw [guarded_eq_apply hcarries hdeleting]
        refine (p.apply_walks now templates ⟨hcarries, hdeleting⟩).andThen ?_
        intro asked taken result hmeasured
        cases result with
        | ok requeue => exact hmeasured
        | error cause => exact hmeasured
    | true => exact guarded_walks_of_deleting hcarries hdeleting now templates
  · exact guarded_walks_of_missing hcarries now templates

/-- By its end a call has measured what the profile, its exchanges and its result say. -/
theorem reconcile_walks (p : Profile) (now : Time.Instant) (templates : List Template) :
    (p.reconcile now templates).Walks (p.MayNote templates)
      (fun (asked : List (Exchange σ)) taken result => p.Accounted templates asked taken result)
      [] [] := by
  rw [reconcile_eq]
  refine ⟨trivial, (p.guarded_walks now templates).andThen ?_⟩
  rintro asked taken result ⟨rfl, hrecords⟩
  cases result with
  | ok requeue => exact ⟨trivial, trivial, by simp [endMeasures], hrecords⟩
  | error cause => exact ⟨trivial, trivial, trivial, by simp [endMeasures], hrecords⟩

/-! ### What the metrics make of a call -/

section

variable {result : Except Failure Requeue}

theorem Accounted.count (h : p.Accounted templates asked taken result) :
    taken.count .started = 1 ∧ taken.count .ended = 1 ∧
      taken.count .failed = if result.isOk then 0 else 1 := by
  have hstart : p.startMeasures.count .started = 1 ∧ p.startMeasures.count .ended = 0 ∧
      p.startMeasures.count .failed = 0 := by
    unfold startMeasures
    split <;> simp
  have hwork : (p.measures templates asked).count .started = 1 ∧
      (p.measures templates asked).count .ended = 0 ∧
      (p.measures templates asked).count .failed = 0 := by
    unfold measures
    split <;> simp [hstart]
  rw [h.taken]
  cases result with
  | ok requeue => simp [endMeasures, hwork, Except.isOk, Except.toBool]
  | error cause => simp [endMeasures, hwork, Except.isOk, Except.toBool]

/-- A call has measured what is in place exactly if it has brought it there. -/
theorem Accounted.mem_applied_iff (h : p.Accounted templates asked taken result) :
    (∃ count, .applied p.name count ∈ taken) ↔ p.HasCompleted templates asked := by
  have hstart : ∀ count, .applied p.name count ∉ p.startMeasures := by
    unfold startMeasures
    split <;> simp
  have hend : ∀ count, .applied p.name count ∉ endMeasures result := by
    cases result <;> simp [endMeasures]
  rw [h.taken, measures]
  by_cases hcompleted : p.HasCompleted templates asked
  · simp [hcompleted, hend, hstart]
  · simp [hcompleted, hend, hstart]

theorem Accounted.mem_unapplied_iff (h : p.Accounted templates asked taken result) :
    .unapplied p.name ∈ taken ↔ p.IsTidied := by
  have hmeasures : .unapplied p.name ∈ p.measures templates asked ↔ p.IsTidied := by
    unfold measures startMeasures
    split <;> split <;> simp_all
  have hend : .unapplied p.name ∉ endMeasures result := by
    cases result <;> simp [endMeasures]
  rw [h.taken, List.mem_append, or_iff_left hend, hmeasures]

end

end Profile

end ProfileOperator
