import ProfileOperator.Controller.Loop
import ProfileOperator.Proofs.Reconcile.Guarding

/-!
# When a failed run is tried again

The work of a run fails for causes of different kinds, and each kind has an interval of its own.  But a
run reports every failure wrapped as one of its guard, so the interval of the work's own cause is never
taken: whatever failed, the profile is run again after a minute.
-/

namespace ProfileOperator

open Pass

variable {σ : Type} {serve : Handler σ}

theorem Pass.result_mapError {ε ε' α : Type} (g : ε -> ε') (p : Pass ε α) (s : σ) :
    ((p.mapError g).run serve s).result = (p.run serve s).result.mapError g := by
  unfold mapError
  rw [run_andThen, Outcome.extend]
  cases (p.run serve s).result with
  | ok value => rfl
  | error cause => rfl

namespace Profile

theorem result_reconcile (p : Profile) (now : Time.Instant) (templates : List Template) (s : σ) :
    ((p.reconcile now templates).run serve s).result =
      ((p.guarded now templates).run serve s).result.mapError .guarded := by
  change (((p.guarded now templates).andThen _).run serve s).result = _
  rw [run_andThen, Outcome.extend]
  cases ((p.guarded now templates).run serve s).result with
  | ok requeue => rfl
  | error cause => rfl

theorem result_reconcile_of_apply {p : Profile} (hcarries : finalizer ∈ p.metadata.finalizerList)
    (halive : p.metadata.isDeleting = false) {now : Time.Instant} {templates : List Template} {s : σ}
    {cause : Failure} (h : ((p.apply now templates).run serve s).result = .error cause) :
    ((p.reconcile now templates).run serve s).result = .error (.guarded (.apply cause)) := by
  rw [result_reconcile, guarded_eq_apply hcarries halive, result_mapError, h]
  rfl

theorem mayFailFor_of_apply {p : Profile} {now : Time.Instant} {templates : List Template} {s : σ}
    {cause : Failure} (h : ((p.apply now templates).run serve s).result = .error cause) :
    p.MayFailFor cause := by
  have hends := (p.apply_within now templates).result serve s
  rw [h] at hends
  exact hends

theorem requeue_of_reconcile {p : Profile} {now : Time.Instant} {templates : List Template} {s : σ}
    {cause : Failure} (h : ((p.reconcile now templates).run serve s).result = .error cause) :
    cause.requeue = .after 60 := by
  rw [result_reconcile] at h
  cases hguarded : ((p.guarded now templates).run serve s).result with
  | ok requeue =>
      rw [hguarded] at h
      cases h
  | error inner =>
      rw [hguarded] at h
      cases h
      rfl

end Profile

/-- The loop runs a profile again a minute after a failed run, or earlier if that was asked for. -/
theorem Controller.State.agenda_of_failed_run (setting : Controller.Setting) (now : Nat)
    (key : Controller.Key) (p : Profile) (s : Controller.State) {cause : Failure}
    (h : ((p.reconcile (setting.clock now) setting.templates).run Api.Server.serve s.server).result =
      .error cause) :
    (s.runProfile setting now key p).agenda = s.agenda.schedule (now + 60) key := by
  unfold runProfile
  simp only [h, Profile.requeue_of_reconcile h, List.foldl_nil]

/--
Whatever made a run fail, it is tried again after a minute.  The interval of the work's own failure, half
a minute for a request and five minutes for a profile that is not valid, is lost on the way.
-/
theorem failed_run_requeued_after_minute (serve : Handler σ) (p : Profile) (now : Time.Instant)
    (templates : List Template) (s : σ) :
    let work := (p.apply now templates).run serve s
    let run := (p.reconcile now templates).run serve s
    (∀ cause, run.result = .error cause -> cause.requeue = .after 60) ∧
    (finalizer ∈ p.metadata.finalizerList -> p.metadata.isDeleting = false ->
      ∀ cause, work.result = .error cause ->
        run.result = .error (.guarded (.apply cause)) ∧
        ((∃ purpose e, cause = .request purpose e ∧ cause.requeue = .after 30) ∨
          ∃ e, cause = .validation e ∧ p.validate = .error e ∧ cause.requeue = .after 300)) := by
  intro work run
  constructor
  · intro cause hcause
    exact Profile.requeue_of_reconcile hcause
  · intro hcarries halive cause hcause
    refine ⟨Profile.result_reconcile_of_apply hcarries halive hcause, ?_⟩
    have hends := Profile.mayFailFor_of_apply hcause
    cases cause with
    | request purpose e => exact Or.inl ⟨purpose, e, rfl, rfl⟩
    | validation e => exact Or.inr ⟨e, rfl, hends, rfl⟩
    | config e => cases hends
    | flag e => cases hends
    | guarded e => cases hends

/-- The server rejects the namespace of a profile that is valid. -/
theorem failed_run_requeued_after_minute_rejected :
    ∃ (p : Profile) (s : Api.Server) (now : Time.Instant) (purpose : Purpose) (e : Api.ClientError),
      let run := (p.reconcile now []).run Api.Server.serve s
      p.validate = .ok () ∧
      run.result = .error (.guarded (.apply (.request purpose e))) ∧
      (Failure.request purpose e).requeue = .after 30 ∧
      (Failure.guarded (.apply (.request purpose e))).requeue = .after 60 := by
  let p : Profile := {
    metadata := { name := some "a", finalizers := some [finalizer] }
    spec := { owner := some { kind := "User", name := "alice" } } }
  let s : Api.Server := { faults := [{
    method := "PATCH", path := "/namespaces/a", times := 1
    effect := .reject 500 "InternalError" "boom" }] }
  let now : Time.Instant := {
    date := { year := 2024, month := 1, day := 1 }
    time := { hour := 0, minute := 0, second := 0, nanosecond := 0 } }
  obtain ⟨hminute, happlied⟩ := failed_run_requeued_after_minute Api.Server.serve p now [] s
  have hfails : ((p.apply now []).run Api.Server.serve s).result.isOk = false := by
    decide +kernel
  cases hwork : ((p.apply now []).run Api.Server.serve s).result with
  | ok requeue =>
      rw [hwork] at hfails
      cases hfails
  | error cause =>
      obtain ⟨hrun, ⟨purpose, e, rfl, hcause⟩ | ⟨e, _, hinvalid, _⟩⟩ :=
        happlied (by decide) rfl cause hwork
      · exact ⟨p, s, now, purpose, e, rfl, hrun, hcause, hminute _ hrun⟩
      · cases hinvalid

/-- A profile that is not valid is not left alone for the five minutes that its failure asks for. -/
theorem interval_of_cause_lost :
    ¬∀ (p : Profile) (s : Api.Server) (now : Time.Instant) (templates : List Template),
      finalizer ∈ p.metadata.finalizerList -> p.metadata.isDeleting = false ->
      ∀ cause failure,
        ((p.apply now templates).run Api.Server.serve s).result = .error cause ->
        ((p.reconcile now templates).run Api.Server.serve s).result = .error failure ->
        ((∃ purpose e, cause = .request purpose e) -> failure.requeue = .after 30) ∧
        ((∃ e, cause = .validation e) -> failure.requeue = .after 300) := by
  intro h
  let unowned : Profile := {
    metadata := { name := some "a", finalizers := some [finalizer] }, spec := { owner := none } }
  let now : Time.Instant := {
    date := { year := 2024, month := 1, day := 1 }
    time := { hour := 0, minute := 0, second := 0, nanosecond := 0 } }
  obtain ⟨_, hinvalid⟩ := h unowned {} now [] (by decide) rfl (.validation .ownerMissing)
    (.guarded (.apply (.validation .ownerMissing))) rfl rfl
  have hinterval := hinvalid ⟨.ownerMissing, rfl⟩
  exact absurd hinterval (by decide)

end ProfileOperator
