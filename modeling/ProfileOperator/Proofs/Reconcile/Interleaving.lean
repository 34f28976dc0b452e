import ProfileOperator.Proofs.Reconcile.Locality
import ProfileOperator.Proofs.Reconcile.Measures
import ProfileOperator.Proofs.Reconcile.World

/-!
# Calls side by side

Several profiles are applied against one server at the same time, move by move in any order, and all of them
are measured in one registry.  A server that goes by the name in the path of a request keeps them apart:
where the names that it reads are different, every call is what it would be alone.
-/

namespace ProfileOperator

open Pass

variable {ι σ τ : Type}

/-- What can be said of a call as far as it is its own: how it ends, what it does, and what it leaves. -/
structure Prospect (τ : Type) where
  result : Option (Except Failure Requeue)
  course : List Step
  part : τ × Nat
  measure : Option Nat

def serially (serve : Handler σ) (rejections : ι -> Rejections)
    (passes : ι -> Pass Failure Requeue) (order : List ι) (s : σ) : σ :=
  order.foldl (fun s i => ((passes i).run (serve.rejecting (rejections i)) (s, 0)).state.1) s

section

variable [DecidableEq ι]

/-- A server for many calls: each one has its own rejections, by the position of a request in the call. -/
def Handler.sharing (serve : Handler σ) (rejections : ι -> Rejections) (i : ι) :
    Handler (σ × (ι -> Nat)) := fun (s, sent) r =>
  let x := serve.rejecting (rejections i) (s, sent i) r
  (x.1, (x.2.1, Function.update sent i x.2.2))

namespace World

def abreast (profiles : ι -> Profile) (passes : ι -> Pass Failure Requeue) (s : σ)
    (registry : Metrics.Registry Nat) : World ι (σ × (ι -> Nat)) where
  server := (s, fun _ => 0)
  registry := registry
  calls i := some ⟨profiles i, passes i⟩

/-- What becomes of a call that goes on alone from here; if it has ended, what has become of it. -/
def prospect (serve : Handler σ) (part : σ -> String -> τ) (rejections : ι -> Rejections)
    (names keys : ι -> String) (w : World ι (σ × (ι -> Nat))) (i : ι) : Prospect τ :=
  match w.calls i with
  | some call =>
      let o := (call.rest.run (serve.rejecting (rejections i)) (w.server.1, w.server.2 i)).seenAt part
        (keys i)
      { result := some o.result
        course := Record.course i w.history ++ o.steps
        part := o.state
        measure := (w.registry.takeSteps o.steps).applied.get? (names i) }
  | none =>
      { result := Record.result? i w.history
        course := Record.course i w.history
        part := (part w.server.1 (keys i), w.server.2 i)
        measure := w.registry.applied.get? (names i) }

def Confined (names : ι -> String) (w : World ι σ) : Prop :=
  ∀ i call, w.calls i = some call ->
    call.rest.IsAbout (names i) (Event.IsGroundworkFor (names i))

variable {serve : Handler σ} {read : String -> Option String} {part : σ -> String -> τ}
variable {rejections : ι -> Rejections} {names keys : ι -> String} {w : World ι (σ × (ι -> Nat))}

/-! ### One move -/

theorem Confined.advance (h : w.Confined names) (k : ι) :
    (w.advance (serve.sharing rejections k) k).Confined names := by
  cases hcall : w.calls k with
  | none =>
      rw [advance_of_none hcall]
      exact h
  | some call =>
      rw [advance_of_some hcall]
      exact forall_calls_after h (Within.stride (h k call hcall) _ _).2

theorem server_advance (rejections : ι -> Rejections) (hlocal : Local serve read part)
    (hread : ∀ i, read (names i) = some (keys i)) (h : w.Confined names) (k : ι) :
    (∀ key, key ≠ keys k ->
      part (w.advance (serve.sharing rejections k) k).server.1 key = part w.server.1 key) ∧
    ∀ i, i ≠ k -> (w.advance (serve.sharing rejections k) k).server.2 i = w.server.2 i := by
  cases hcall : w.calls k with
  | none =>
      rw [advance_of_none hcall]
      exact ⟨fun _ _ => rfl, fun _ _ => rfl⟩
  | some call =>
      rw [advance_of_some hcall]
      have habout := h k call hcall
      obtain ⟨given, rest⟩ := call
      cases rest with
      | send r next =>
          have hplace : read r.place = some (keys k) := habout.1.symm ▸ hread k
          exact ⟨fun key hkey => hlocal.rejecting_other (rejections k) hplace w.server.1 _ hkey,
            fun i hi => Function.update_of_ne hi ..⟩
      | _ => exact ⟨fun _ _ => rfl, fun _ _ => rfl⟩

theorem get?_applied_advance (serve : Handler σ) (rejections : ι -> Rejections)
    (h : w.Confined names) {k : ι} {name : String} (hname : name ≠ names k) :
    (w.advance (serve.sharing rejections k) k).registry.applied.get? name =
      w.registry.applied.get? name := by
  cases hcall : w.calls k with
  | none => rw [advance_of_none hcall]
  | some call =>
      rw [advance_of_some hcall]
      have habout := h k call hcall
      obtain ⟨given, rest⟩ := call
      cases rest with
      | note event rest => exact w.registry.get?_applied_of_isFor habout.1.isFor hname
      | _ => rfl

theorem advance_of_ne (serve : Handler σ) (w : World ι σ) {i k : ι} (h : i ≠ k) :
    (w.advance serve k).calls i = w.calls i ∧
      Record.moves i (w.advance serve k).history = Record.moves i w.history := by
  cases hcall : w.calls k with
  | none =>
      rw [advance_of_none hcall]
      exact ⟨rfl, rfl⟩
  | some call =>
      rw [advance_of_some hcall]
      exact ⟨calls_after_of_ne h .., Record.moves_cons_of_ne (Ne.symm h) _⟩

/-! ### What a call comes to -/

theorem prospect_of_some {i : ι} {call : Call} (h : w.calls i = some call) :
    w.prospect serve part rejections names keys i =
      let o := (call.rest.run (serve.rejecting (rejections i)) (w.server.1, w.server.2 i)).seenAt part
        (keys i)
      { result := some o.result
        course := Record.course i w.history ++ o.steps
        part := o.state
        measure := (w.registry.takeSteps o.steps).applied.get? (names i) } := by
  rw [prospect, h]

theorem prospect_of_none {i : ι} (h : w.calls i = none) :
    w.prospect serve part rejections names keys i =
      { result := Record.result? i w.history
        course := Record.course i w.history
        part := (part w.server.1 (keys i), w.server.2 i)
        measure := w.registry.applied.get? (names i) } := by
  rw [prospect, h]

theorem prospect_advance_self (serve : Handler σ) (part : σ -> String -> τ)
    (rejections : ι -> Rejections) (names keys : ι -> String) (w : World ι (σ × (ι -> Nat))) (i : ι) :
    (w.advance (serve.sharing rejections i) i).prospect serve part rejections names keys i =
      w.prospect serve part rejections names keys i := by
  cases hcall : w.calls i with
  | none => rw [advance_of_none hcall]
  | some call =>
      rw [advance_of_some hcall]
      obtain ⟨given, rest⟩ := call
      cases rest with
      | done requeue =>
          rw [prospect_of_some hcall, prospect_of_none (calls_after_self ..), course_after,
            result?_after]
          rfl
      | fail cause =>
          rw [prospect_of_some hcall, prospect_of_none (calls_after_self ..), course_after,
            result?_after]
          rfl
      | note event rest =>
          rw [prospect_of_some hcall, prospect_of_some (calls_after_self ..), course_after]
          simp only [List.append_assoc]
          rfl
      | send r next =>
          rw [prospect_of_some hcall, prospect_of_some (calls_after_self ..), course_after]
          simp only [List.append_assoc, after, stride, Handler.sharing, Function.update_self]
          rfl

theorem prospect_advance_of_ne (hlocal : Local serve read part)
    (hread : ∀ i, read (names i) = some (keys i)) (h : w.Confined names) {i k : ι}
    (hkeys : keys i ≠ keys k) :
    (w.advance (serve.sharing rejections k) k).prospect serve part rejections names keys i =
      w.prospect serve part rejections names keys i := by
  have hne : i ≠ k := fun heq => hkeys (congrArg keys heq)
  have hname : names i ≠ names k := fun heq =>
    hkeys (Option.some.inj ((hread i).symm.trans ((congrArg read heq).trans (hread k))))
  obtain ⟨hcalls, hmoves⟩ := advance_of_ne (serve.sharing rejections k) w hne
  obtain ⟨hparts, hsent⟩ := server_advance rejections hlocal hread h k
  have hpart := hparts (keys i) hkeys
  have hentry := get?_applied_advance serve rejections h hname
  cases hcall : w.calls i with
  | none =>
      rw [prospect_of_none hcall, prospect_of_none (hcalls.trans hcall), Record.result?,
        Record.course, hmoves, hpart, hsent i hne, hentry, Record.result?, Record.course]
  | some call =>
      have hrun := hlocal.run_own (rejections i) (hread i) (h i call hcall) (w.server.2 i) hpart
      rw [prospect_of_some hcall, prospect_of_some (hcalls.trans hcall), Record.course, hmoves,
        hsent i hne, hrun, Record.course]
      dsimp only
      rw [Metrics.Registry.get?_applied_takeSteps hentry]

/-! ### Whole schedules -/

/-- Whatever the schedule is, every call comes to what it would come to alone. -/
theorem run_keeps (rejections : ι -> Rejections) (hlocal : Local serve read part)
    (hread : ∀ i, read (names i) = some (keys i)) (hkeys : ∀ i k, i ≠ k -> keys i ≠ keys k)
    (h : w.Confined names) (schedule : List ι) :
    let final := w.run (serve.sharing rejections) schedule
    (∀ i, final.prospect serve part rejections names keys i =
      w.prospect serve part rejections names keys i) ∧
    ∀ key, (∀ i, key ≠ keys i) -> part final.server.1 key = part w.server.1 key := by
  induction schedule generalizing w with
  | nil => exact ⟨fun _ => rfl, fun _ _ => rfl⟩
  | cons k rest ih =>
      obtain ⟨hprospect, helsewhere⟩ := ih (h.advance k)
      constructor
      · intro i
        refine (hprospect i).trans ?_
        by_cases hne : i = k
        · subst hne
          exact prospect_advance_self serve part rejections names keys w i
        · exact prospect_advance_of_ne hlocal hread h (hkeys i k hne)
      · intro key hkey
        exact (helsewhere key hkey).trans ((server_advance rejections hlocal hread h k).1 key (hkey k))

theorem calls_run_of_none {serve : ι -> Handler σ} {w : World ι σ} {i : ι} (h : w.calls i = none)
    (schedule : List ι) : (w.run serve schedule).calls i = none := by
  induction schedule generalizing w with
  | nil => exact h
  | cons k rest ih =>
      rw [run_cons]
      apply ih
      by_cases hne : i = k
      · subst hne
        rw [advance_of_none h]
        exact h
      · rw [(advance_of_ne (serve k) w hne).1]
        exact h

theorem run_progress (serve : ι -> Handler σ) (w : World ι σ) (i : ι) (schedule : List ι) :
    let final := w.run serve schedule
    final.calls i = none ∨ (Record.course i w.history).length + schedule.count i ≤
      (Record.course i final.history).length := by
  induction schedule generalizing w with
  | nil => exact Or.inr (Nat.le_refl _)
  | cons k rest ih =>
      have hrest := ih (w.advance (serve k) k)
      by_cases hne : i = k
      · subst hne
        rw [List.count_cons_self, Nat.add_comm _ 1, ← Nat.add_assoc]
        cases hcall : w.calls i with
        | none => exact Or.inl (calls_run_of_none hcall _)
        | some call =>
            obtain ⟨given, left⟩ := call
            rw [run_cons, advance_of_some hcall]
            rw [advance_of_some hcall, course_after, List.length_append] at hrest
            cases left with
            | note event left => exact hrest
            | send r next => exact hrest
            | _ =>
                refine Or.inl (calls_run_of_none ?_ rest)
                rw [calls_after_self]
                rfl
      · rw [List.count_cons_of_ne (Ne.symm hne)]
        rw [Record.course, (advance_of_ne (serve k) w hne).2] at hrest
        exact hrest

theorem calls_of_turns {i : ι} {schedule : List ι}
    (hprospect : (w.run (serve.sharing rejections) schedule).prospect serve part rejections names keys
      i = w.prospect serve part rejections names keys i)
    (hturns : (w.prospect serve part rejections names keys i).course.length <
      (Record.course i w.history).length + schedule.count i) :
    (w.run (serve.sharing rejections) schedule).calls i = none := by
  have hprogress := run_progress (serve.sharing rejections) w i schedule
  generalize w.run (serve.sharing rejections) schedule = final at hprospect hprogress ⊢
  rcases hprogress with hended | hlength
  · exact hended
  · cases hcall : final.calls i with
    | none => rfl
    | some call =>
        -- All the steps that there are have been taken, and one more.
        rw [← hprospect, prospect_of_some hcall, List.length_append] at hturns
        omega

end World

/-! ### Against runs one after the other -/

section

variable {serve : Handler σ} {read : String -> Option String} {part : σ -> String -> τ}
variable {rejections : ι -> Rejections} {names keys : ι -> String}
variable {passes : ι -> Pass Failure Requeue}
variable (hlocal : Local serve read part) (hread : ∀ i, read (names i) = some (keys i))
variable (habout : ∀ i, (passes i).IsAbout (names i) (Event.IsGroundworkFor (names i)))

include hlocal hread habout

omit [DecidableEq ι] in
theorem part_serially_of_ne {key : String} {order : List ι} (hkey : ∀ i ∈ order, key ≠ keys i)
    (s : σ) : part (serially serve rejections passes order s) key = part s key := by
  induction order generalizing s with
  | nil => rfl
  | cons i rest ih =>
      have hrest := ih (fun k hk => hkey k (List.mem_cons_of_mem i hk))
      exact (hrest _).trans
        (hlocal.run_other (rejections i) (hread i) (habout i) s 0 (hkey i List.mem_cons_self))

omit [DecidableEq ι] in
/-- In whatever order the runs come, each one makes of its own part what it makes of it alone. -/
theorem part_serially (hkeys : ∀ i k, i ≠ k -> keys i ≠ keys k) {order : List ι}
    (hnodup : order.Nodup) {i : ι} (hi : i ∈ order) (s : σ) :
    part (serially serve rejections passes order s) (keys i) =
      part ((passes i).run (serve.rejecting (rejections i)) (s, 0)).state.1 (keys i) := by
  induction order generalizing s with
  | nil => exact absurd hi List.not_mem_nil
  | cons k rest ih =>
      obtain ⟨hk, hrest⟩ := List.nodup_cons.1 hnodup
      rcases List.mem_cons.1 hi with rfl | hi'
      · have hlater : ∀ m ∈ rest, keys i ≠ keys m := by
          intro m hm
          apply hkeys
          rintro rfl
          exact hk hm
        exact part_serially_of_ne hlocal hread habout hlater _
      · have hne : i ≠ k := by
          rintro rfl
          exact hk hi'
        have hother := hlocal.run_other (rejections k) (hread k) (habout k) s 0 (hkeys i k hne)
        have hown := hlocal.run_own (rejections i) (hread i) (habout i) 0 hother
        exact (ih hrest hi' _).trans (congrArg (fun o => o.state.1) hown)

end

/-! ### Profiles -/

/--
Profiles whose names a server reads as different ones in a path are applied side by side as each one is
alone, whatever the server makes of the names.  Whatever the schedule and the rejections are, a call that
gets its turns ends, it sends the same requests, ends the same way and leaves the same measure, and the
server is left as by the calls one after the other, in any order.
-/
theorem interleaved_applies_as_alone {serve : Handler σ} {read : String -> Option String}
    {part : σ -> String -> τ} (hlocal : Local serve read part) (profiles : ι -> Profile)
    (keys : ι -> String) (hread : ∀ i, read (profiles i).name = some (keys i))
    (hkeys : ∀ i k, i ≠ k -> keys i ≠ keys k) (now : ι -> Time.Instant) (templates : List Template)
    (rejections : ι -> Rejections) (s : σ) (registry : Metrics.Registry Nat) (schedule : List ι) :
    let passes := fun i => (profiles i).apply (now i) templates
    let alone := fun i => (passes i).run (serve.rejecting (rejections i)) (s, 0)
    let final := (World.abreast profiles passes s registry).run (serve.sharing rejections) schedule
    (∀ i, (alone i).steps.length < schedule.count i -> final.calls i = none) ∧
    (∀ i, final.calls i = none ->
      Record.result? i final.history = some (alone i).result ∧
      Record.course i final.history = (alone i).steps ∧
      final.registry.applied.get? (profiles i).name =
        (registry.takeSteps (alone i).steps).applied.get? (profiles i).name) ∧
    ((∀ i, final.calls i = none) ->
      ∀ order : List ι, order.Nodup -> (∀ i, i ∈ order) ->
        final.server.1 = serially serve rejections passes order s) := by
  intro passes alone final
  let names i := (profiles i).name
  have habout : ∀ i, (passes i).IsAbout (names i) (Event.IsGroundworkFor (names i)) :=
    fun i => (profiles i).apply_isAbout (now i) templates
  have hconfined : (World.abreast profiles passes s registry).Confined names := by
    rintro i _ ⟨⟩
    exact habout i
  obtain ⟨hprospect, helsewhere⟩ :=
    World.run_keeps rejections hlocal hread hkeys hconfined schedule
  have hstart : ∀ i, (World.abreast profiles passes s registry).prospect serve part rejections names
      keys i =
        { result := some (alone i).result
          course := (alone i).steps
          part := (part (alone i).state.1 (keys i), (alone i).state.2)
          measure := (registry.takeSteps (alone i).steps).applied.get? (names i) } := fun _ => rfl
  have hended : ∀ i, final.calls i = none ->
      Record.result? i final.history = some (alone i).result ∧
      Record.course i final.history = (alone i).steps ∧
      part final.server.1 (keys i) = part (alone i).state.1 (keys i) ∧
      final.registry.applied.get? (names i) =
        (registry.takeSteps (alone i).steps).applied.get? (names i) := by
    intro i hcall
    have hi := hprospect i
    rw [World.prospect_of_none hcall, hstart] at hi
    obtain ⟨hresult, hcourse, hpart, hentry⟩ := Prospect.mk.inj hi
    exact ⟨hresult, hcourse, congrArg Prod.fst hpart, hentry⟩
  refine ⟨?_, ?_, ?_⟩
  · intro i hturns
    apply World.calls_of_turns (hprospect i)
    rw [hstart]
    exact Nat.lt_of_lt_of_le hturns (Nat.le_add_left _ _)
  · intro i hcall
    obtain ⟨hresult, hcourse, _, hentry⟩ := hended i hcall
    exact ⟨hresult, hcourse, hentry⟩
  · intro hall order hnodup hcomplete
    apply hlocal.ext
    intro key
    by_cases hkey : ∃ i, key = keys i
    · obtain ⟨i, rfl⟩ := hkey
      rw [part_serially hlocal hread habout hkeys hnodup (hcomplete i)]
      exact (hended i (hall i)).2.2.1
    · rw [not_exists] at hkey
      rw [part_serially_of_ne hlocal hread habout (fun i _ => hkey i)]
      exact helsewhere key hkey

end

/--
Two profiles that take turns.  The list of the second one is rejected, and that does not keep the first one
from deleting a PodDefault of a template that is gone.
-/
theorem interleaved_applies_as_alone_turns :
    ∃ (profiles : Bool -> Profile) (c : Api.Cluster) (now : Bool -> Time.Instant)
      (rejections : Bool -> Rejections) (schedule : List Bool),
      let passes := fun i => (profiles i).apply (now i) []
      let alone := fun i => (passes i).run (Handler.rejecting Api.Cluster.serve (rejections i)) (c, 0)
      let final := (World.abreast profiles passes c (.fresh 1)).run
        (Handler.sharing Api.Cluster.serve rejections) schedule
      (∀ i, (Step.requests (alone i).steps).length = (if i then 2 else 4) ∧
        (alone i).result.isOk = !i) ∧
      (∀ i, Record.result? i final.history = some (alone i).result ∧
        Record.course i final.history = (alone i).steps) ∧
      final.server.1 = serially Api.Cluster.serve rejections passes [false, true] c ∧
      final.server.1 = serially Api.Cluster.serve rejections passes [true, false] c := by
  let named (name : String) : Profile := {
    metadata := { name := some name }, spec := { owner := some { kind := "User", name := "alice" } } }
  let profiles : Bool -> Profile := fun i => if i then named "b" else named "a"
  let stale : PodDefault := {
    metadata := { name := some "stale", labels := some managedLabels }, spec := { selector := {} } }
  let c : Api.Cluster := {
    profiles := .single "a" (named "a"), podDefaults := .single "a" (.single "stale" stale) }
  let now : Bool -> Time.Instant := fun _ => {
    date := { year := 2024, month := 1, day := 1 }
    time := { hour := 0, minute := 0, second := 0, nanosecond := 0 } }
  let rejections : Bool -> Rejections := fun i k =>
    if i = true ∧ k = 1 then some (.lost "connection refused") else none
  let schedule := (List.replicate 13 [false, true]).flatten
  let alone := fun i =>
    ((profiles i).apply (now i) []).run (Handler.rejecting Api.Cluster.serve (rejections i)) (c, 0)
  let keys : Bool -> String := fun i => if i then "b" else "a"
  have hread : ∀ i, some (Api.nameRead (profiles i).name) = some (keys i) := by
    decide +kernel
  have hcourse : ∀ i, (alone i).steps.length < 13 ∧
      (Step.requests (alone i).steps).length = (if i then 2 else 4) ∧ (alone i).result.isOk = !i := by
    decide +kernel
  have hcount : ∀ i, schedule.count i = 13 := by
    decide
  obtain ⟨hends, hresults, hserver⟩ := interleaved_applies_as_alone Api.Cluster.isLocal profiles keys
    hread (by decide) now [] rejections c (.fresh 1) schedule
  have hended := fun i => hends i (hcount i ▸ (hcourse i).1)
  refine ⟨profiles, c, now, rejections, schedule, fun i => (hcourse i).2, fun i => ?_,
    hserver hended [false, true] (by decide) (by decide),
    hserver hended [true, false] (by decide) (by decide)⟩
  obtain ⟨hresult, hsteps, _⟩ := hresults i (hended i)
  exact ⟨hresult, hsteps⟩

/--
A name with a question mark is read up to it, so it stands for another name in a path.  Applied behind the
profile of that name, a profile no longer finds what it would delete if it were alone.
-/
theorem names_read_alike_interfere :
    ¬∀ (profiles : Bool -> Profile) (c : Api.Cluster) (now : Time.Instant) (templates : List Template)
      (rejections : Bool -> Rejections) (schedule : List Bool),
      (profiles false).name ≠ (profiles true).name ->
      (∀ i, (profiles i).name ≠ "" ∧ '/' ∉ (profiles i).name.toList) ->
      let passes := fun i => (profiles i).apply now templates
      let alone := fun i => (passes i).run (Handler.rejecting Api.Cluster.serve (rejections i)) (c, 0)
      let final := (World.abreast profiles passes c (.fresh 1)).run
        (Handler.sharing Api.Cluster.serve rejections) schedule
      (∀ i, final.calls i = none) ->
      ∀ i, Step.requests (Record.course i final.history) = Step.requests (alone i).steps := by
  intro h
  -- Only what is said here of the profiles and the server counts, not what they are.
  obtain ⟨profiles, c, now, rejections, schedule, hnames, hplain, hended, htogether, halone⟩ :
      ∃ (profiles : Bool -> Profile) (c : Api.Cluster) (now : Time.Instant)
        (rejections : Bool -> Rejections) (schedule : List Bool),
        (profiles false).name ≠ (profiles true).name ∧
        (∀ i, (profiles i).name ≠ "" ∧ '/' ∉ (profiles i).name.toList) ∧
        let passes := fun i => (profiles i).apply now []
        let final := (World.abreast profiles passes c (.fresh 1)).run
          (Handler.sharing Api.Cluster.serve rejections) schedule
        (∀ i, (final.calls i).isNone = true) ∧
        (Step.requests (Record.course true final.history)).map Api.Request.method =
          ["PATCH", "GET", "PATCH"] ∧
        (Step.requests ((passes true).run
          (Handler.rejecting Api.Cluster.serve (rejections true)) (c, 0)).steps).map
            Api.Request.method = ["PATCH", "GET", "DELETE"] :=
    ⟨fun i => {
        metadata := { name := some (if i then "a?b" else "a") }
        spec := { owner := some { kind := "User", name := "alice" } } },
      { podDefaults := .single "a" (.single "stale" {
          metadata := { name := some "stale", labels := some managedLabels }
          spec := { selector := {} } }) },
      { date := { year := 2024, month := 1, day := 1 }
        time := { hour := 0, minute := 0, second := 0, nanosecond := 0 } },
      fun _ _ => none, List.replicate 13 false ++ List.replicate 13 true, by decide, by decide,
      by decide +kernel⟩
  have hsame := h profiles c now [] rejections schedule hnames hplain
    (fun i => Option.isNone_iff_eq_none.1 (hended i)) true
  have hmethods := congrArg (List.map Api.Request.method) hsame
  rw [htogether, halone] at hmethods
  exact absurd hmethods (by decide)

end ProfileOperator
