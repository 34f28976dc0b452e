import Mathlib.Data.List.Induction
import ProfileOperator.Proofs.Reconcile.Acts

/-!
# The life of a profile

The finalizer keeps a profile that something was done for on the server until it has been tidied up after.
So it is for every profile, whatever becomes of others, as long as no edit takes the finalizer off it; and
once it has been put on again, the profile is guarded again.
-/

namespace ProfileOperator

open Pass

variable {σ : Type}

/-! ### What is left over -/

def Api.Request.writesNamespace : Api.Request -> Bool
  | .applyNamespace .. => true
  | _ => false

theorem Api.Request.writesNamespace_iff {r : Api.Request} :
    r.writesNamespace = true ↔ ∃ ns body, r = .applyNamespace ns body := by
  cases r <;> simp [writesNamespace]

/-- A namespace was written for the profile of the name. -/
def Record.Writes (name : String) (record : Record String σ) : Prop :=
  record.id = name ∧ ∃ x ns body, record.move = .asked x ∧ x.request = .applyNamespace ns body

def Record.TidiesUp (name : String) (record : Record String σ) : Prop :=
  record.id = name ∧ record.move = .noted (.measure (.unapplied name))

/-- A namespace was written for the profile of the name, and it was not tidied up after that. -/
def Untidy (name : String) : List (Record String σ) -> Prop
  | [] => False
  | record :: older => record.Writes name ∨ ¬record.TidiesUp name ∧ Untidy name older

theorem tidiesUp_of_writes {name : String} {newer older : List (Record String σ)}
    {record : Record String σ} (h : ¬Untidy name (newer ++ record :: older))
    (hwrites : record.Writes name) : ∃ cleanup ∈ newer, cleanup.TidiesUp name := by
  induction newer with
  | nil => exact absurd (Or.inl hwrites) h
  | cons first rest ih =>
      by_cases hfirst : first.TidiesUp name
      · exact ⟨first, List.mem_cons_self, hfirst⟩
      · obtain ⟨cleanup, hmem, htidies⟩ := ih fun hrest => h (Or.inr ⟨hfirst, hrest⟩)
        exact ⟨cleanup, List.mem_cons_of_mem first hmem, htidies⟩

theorem not_untidy_cons {name : String} {record : Record String σ}
    {history : List (Record String σ)} (hwrites : ¬record.Writes name)
    (h : ¬Untidy name history) : ¬Untidy name (record :: history) := by
  rintro (hwrites' | ⟨_, hrest⟩)
  · exact hwrites hwrites'
  · exact h hrest

theorem not_writes_of_none {name i : String} {given : Profile} {move : Move σ}
    (h : move.exchange? = none) : ¬Record.Writes name { id := i, given := given, move := move } := by
  rintro ⟨_, _, _, _, rfl, _⟩
  cases h

theorem not_writes_of_change {name i : String} {given : Profile} {x : Exchange σ}
    (h : ∃ profile change, x.request = .patchFinalizers profile change) :
    ¬Record.Writes name { id := i, given := given, move := .asked x } := by
  rintro ⟨_, _, _, _, hasked, hrequest⟩
  obtain ⟨_, _, hchange⟩ := h
  cases hasked
  rw [hchange] at hrequest
  cases hrequest

namespace World

variable {store : ProfileStore σ} {w w' : World String σ} {name : String} {kept kept' : Prop}

/-- Nothing is left over of the profile of the name: no measure, and no namespace to tidy up after. -/
structure Clean (w : World String σ) (name : String) : Prop where
  measure : w.registry.applied.get? name = none
  history : ¬Untidy name w.history

theorem Clean.after (h : w.Clean name) {i : String} {given : Profile} {next : Stride σ}
    (hmeasure : (w.registry.takeSteps next.move.step?.toList).applied.get? name = none)
    (hwrites : ¬Record.Writes name ⟨i, given, next.move⟩) : (w.after i given next).Clean name where
  measure := hmeasure
  history := not_untidy_cons hwrites h.history

theorem clean_of_unapplied (w : World String σ) (name : String) (given : Profile) (s : σ)
    (rest : Option (Pass Failure Requeue)) :
    (w.after name given ⟨.noted (.measure (.unapplied name)), s, rest⟩).Clean name where
  measure := w.registry.get?_applied_unapplied name
  history := by
    rintro (hwrites | ⟨htidies, _⟩)
    · exact not_writes_of_none rfl hwrites
    · exact htidies ⟨rfl, rfl⟩

/-! ### Calls under the finalizer -/

/--
A call for the profile of the name is in order: it works, and the profile is kept; or it comes to tidy up
before it asks for anything; or nothing is left over and it does no work; or it only puts the finalizer on.
-/
def Orderly (kept : Prop) (w : World String σ) (name : String) (rest : Pass Failure Requeue) : Prop :=
  rest.IsWorking name ∧ kept ∨ rest.TidiesFirst name ∨ rest.IsIdle name ∧ w.Clean name ∨
    rest.OnlyAdds name

/-- The profile of the name is kept, or nothing is left over of it. -/
structure Guards (kept : Prop) (w : World String σ) (name : String) : Prop where
  holds : kept ∨ w.Clean name
  calls : ∀ call, w.calls name = some call -> Orderly kept w name call.rest

theorem Guards.of_same (h : Guards kept w name) (hkept : kept -> kept')
    (hmeasure : w'.registry.applied.get? name = w.registry.applied.get? name)
    (hhistory : Untidy name w'.history -> Untidy name w.history)
    (hcalls : w'.calls name = w.calls name) : Guards kept' w' name := by
  have hclean : w.Clean name -> w'.Clean name := fun h =>
    ⟨hmeasure.trans h.measure, fun h' => h.history (hhistory h')⟩
  refine ⟨h.holds.imp hkept hclean, fun call hcall => ?_⟩
  rw [hcalls] at hcall
  rcases h.calls call hcall with ⟨hworking, h⟩ | htidies | ⟨hidle, h⟩ | hadds
  · exact Or.inl ⟨hworking, hkept h⟩
  · exact Or.inr (Or.inl htidies)
  · exact Or.inr (Or.inr (Or.inl ⟨hidle, hclean h⟩))
  · exact Or.inr (Or.inr (Or.inr hadds))

theorem Guards.after_of_ne (h : Guards kept w name) (hkept : kept -> kept') {other : String}
    (hname : name ≠ other) {given : Profile} {next : Stride σ}
    (hmeasure : (w.registry.takeSteps next.move.step?.toList).applied.get? name =
      w.registry.applied.get? name) : Guards kept' (w.after other given next) name := by
  refine h.of_same hkept hmeasure ?_ (calls_after_of_ne hname ..)
  rintro (⟨hother, _⟩ | ⟨_, hrest⟩)
  · exact absurd hother.symm hname
  · exact hrest

theorem Guards.stride_of_ne (h : Guards kept w name) (hsound : w.Sound store)
    {other : String} (hname : name ≠ other) {call : Call} (hcall : w.calls other = some call)
    (hkept : kept -> (store.Holds w.server name ->
      store.Holds (call.rest.stride store.serve w.server).server name) -> kept') :
    Guards kept' (w.after other call.given (call.rest.stride store.serve w.server)) name := by
  obtain ⟨haccepts, hwithin⟩ := hsound.calls other call hcall
  obtain ⟨given, rest⟩ := call
  cases rest with
  | done requeue => exact h.after_of_ne (fun hk => hkept hk id) hname rfl
  | fail cause => exact h.after_of_ne (fun hk => hkept hk id) hname rfl
  | note event rest =>
      refine h.after_of_ne (fun hk => hkept hk id) hname ?_
      exact w.registry.get?_applied_of_isFor hwithin.1 hname
  | send r next =>
      refine h.after_of_ne (fun hk => hkept hk fun hholds => ?_) hname rfl
      exact hholds.of_eq (store.stored_of_ne w.server haccepts hwithin.1.1 hname)

/-! ### The call for the profile itself -/

theorem guards_after {given : Profile} {next : Stride σ}
    (hholds : kept ∨ (w.after name given next).Clean name)
    (hrest : ∀ rest, next.rest = some rest -> Orderly kept (w.after name given next) name rest) :
    Guards kept (w.after name given next) name := by
  refine ⟨hholds, fun call hcall => ?_⟩
  rw [calls_after_self, Option.map_eq_some_iff] at hcall
  obtain ⟨rest, hsome, rfl⟩ := hcall
  exact hrest rest hsome

/-- A call that starts is in order: what it does goes by the finalizers and the deletion. -/
theorem Guards.start (h : Guards kept w name) (hsound : w.Sound store)
    (hholds : store.Holds w.server name -> kept') (hkept : kept -> kept') {other : String}
    {p : Profile} (hp : store.stored w.server other = some p) (now : Time.Instant)
    (templates : List Template) :
    Guards kept' (w.start other p (p.reconcile now templates)) name := by
  by_cases hname : name = other
  · subst hname
    have hpname := (hsound.named name p hp).2
    refine guards_after (h.holds.imp hkept fun hc => ?_) ?_
    · exact hc.after hc.measure (not_writes_of_none rfl)
    · rintro _ ⟨⟩
      by_cases hcarries : finalizer ∈ p.metadata.finalizerList
      · cases hdeleting : p.metadata.isDeleting with
        | false =>
            exact Or.inl ⟨Profile.reconcile_isWorking hpname hcarries hdeleting now templates,
              hholds ⟨p, hp, hcarries⟩⟩
        | true =>
            exact Or.inr (Or.inl
              (Profile.reconcile_tidiesFirst hpname hcarries hdeleting now templates).1)
      · have hadds := Profile.reconcile_of_missing hpname hcarries now templates
        exact Or.inr (Or.inr (Or.inr (hadds.mono (fun _ h => h) (fun _ h => h) fun _ _ => trivial)))
  · exact h.after_of_ne hkept hname rfl

theorem Guards.ended (h : Guards kept w name) (hkept : kept -> kept') (given : Profile)
    (result : Except Failure Requeue) :
    Guards kept' (w.after name given ⟨.ended result, w.server, none⟩) name := by
  refine guards_after (h.holds.imp hkept fun hc => ?_) fun _ h => nomatch h
  exact hc.after hc.measure (not_writes_of_none rfl)

theorem Guards.noted (h : Guards kept w name) (hkept : kept -> kept') (given : Profile) {event : Event}
    {rest : Pass Failure Requeue} (horderly : Orderly kept w name (.note event rest)) :
    Guards kept' (w.after name given ⟨.noted event, w.server, some rest⟩) name := by
  have hclean : event.IsIdleFor name -> w.Clean name ->
      (w.after name given ⟨.noted event, w.server, some rest⟩).Clean name := fun hevent hc =>
    hc.after (w.registry.get?_applied_of_isIdleFor hevent hc.measure) (not_writes_of_none rfl)
  rcases horderly with ⟨hworking, hk⟩ | ⟨hevent, ⟨rfl, hidle⟩ | htidies⟩ | ⟨hidle, hc⟩ | hadds
  · refine guards_after (Or.inl (hkept hk)) ?_
    rintro _ ⟨⟩
    exact Or.inl ⟨hworking.2, hkept hk⟩
  · have hc := clean_of_unapplied w name given w.server (some rest)
    refine guards_after (Or.inr hc) ?_
    rintro _ ⟨⟩
    exact Or.inr (Or.inr (Or.inl ⟨hidle, hc⟩))
  · refine guards_after (h.holds.imp hkept (hclean hevent)) ?_
    rintro _ ⟨⟩
    exact Or.inr (Or.inl htidies)
  · have hc' := hclean hidle.1 hc
    refine guards_after (Or.inr hc') ?_
    rintro _ ⟨⟩
    exact Or.inr (Or.inr (Or.inl ⟨hidle.2, hc'⟩))
  · refine guards_after (h.holds.imp hkept (hclean hadds.1)) ?_
    rintro _ ⟨⟩
    exact Or.inr (Or.inr (Or.inr hadds.2))

theorem Guards.asked (h : Guards kept w name) (haccepts : store.accepts name = true)
    (given : Profile) {r : Api.Request} {next : Except Api.ClientError r.Reply -> Pass Failure Requeue}
    (hkept : kept -> (store.Holds w.server name -> store.Holds (store.serve w.server r).2 name) -> kept')
    (horderly : Orderly kept w name (.send r next)) :
    Guards kept' (w.after name given ((Pass.send r next).stride store.serve w.server)) name := by
  have hclean : (∃ profile change, r = .patchFinalizers profile change) -> w.Clean name ->
      (w.after name given ((Pass.send r next).stride store.serve w.server)).Clean name :=
    fun hchange hc => hc.after hc.measure (not_writes_of_change hchange)
  rcases horderly with ⟨hworking, hk⟩ | htidies | ⟨hidle, hc⟩ | hadds
  · have hk' := hkept hk fun hholds => hholds.serve_work haccepts hworking.1
    refine guards_after (Or.inl hk') ?_
    rintro _ ⟨⟩
    exact Or.inl ⟨hworking.2 _, hk'⟩
  · exact absurd htidies id
  · obtain ⟨change, hchange⟩ := hidle.1
    have hc' := hclean ⟨name, change, hchange⟩ hc
    refine guards_after (Or.inr hc') ?_
    rintro _ ⟨⟩
    exact Or.inr (Or.inr (Or.inl ⟨hidle.2 _, hc'⟩))
  · obtain ⟨change, hchange, _⟩ := hadds.1
    have hk' : kept -> kept' := fun hk =>
      hkept hk fun hholds => hholds.serve_addition haccepts hadds.1
    refine guards_after (h.holds.imp hk' (hclean ⟨name, change, hchange⟩)) ?_
    rintro _ ⟨⟩
    exact Or.inr (Or.inr (Or.inr (hadds.2 _)))

theorem Guards.stride (h : Guards kept w name) (hsound : w.Sound store) {call : Call}
    (hcall : w.calls name = some call)
    (hkept : kept -> (store.Holds w.server name ->
      store.Holds (call.rest.stride store.serve w.server).server name) -> kept') :
    Guards kept' (w.after name call.given (call.rest.stride store.serve w.server)) name := by
  have haccepts := (hsound.calls name call hcall).1
  have horderly := h.calls call hcall
  obtain ⟨given, rest⟩ := call
  cases rest with
  | done requeue => exact h.ended (fun hk => hkept hk id) given (.ok requeue)
  | fail cause => exact h.ended (fun hk => hkept hk id) given (.error cause)
  | note event rest => exact h.noted (fun hk => hkept hk id) given horderly
  | send r next => exact h.asked haccepts given hkept horderly

/-! ### Whole lives -/

theorem Guards.act (h : Guards kept w name) (hsound : w.Sound store) (a : Act)
    (hholds : store.Holds w.server name -> kept)
    (hkept : kept -> (store.Holds w.server name -> w.TakesOff store name a ∨
      store.Holds (w.act store a).server name) -> kept') : Guards kept' (w.act store a) name := by
  rcases act_cases store w a with hact | ⟨other, o, hreplaces, hact⟩ |
    ⟨other, p, now, templates, hp, _, hact⟩ | ⟨other, call, hcall, hact⟩
  · rw [hact] at hkept ⊢
    exact h.of_same (fun hk => hkept hk Or.inr) rfl id rfl
  · rw [hact] at hkept ⊢
    refine h.of_same (fun hk => hkept hk fun hh => ?_) rfl id rfl
    by_cases hname : name = other
    · subst hname
      refine (hreplaces.holds hh).imp id ?_
      rintro ⟨p, rfl, hcarries⟩
      exact ⟨p, by rw [store.stored_put, Function.update_self], hcarries⟩
    · exact Or.inr (hh.of_eq (by rw [store.stored_put, Function.update_of_ne hname]))
  · rw [hact] at hkept ⊢
    exact h.start hsound (fun hh => hkept (hholds hh) Or.inr) (fun hk => hkept hk Or.inr) hp now
      templates
  · rw [hact] at hkept ⊢
    by_cases hname : name = other
    · subst hname
      exact h.stride hsound hcall fun hk hh => hkept hk fun hholds => Or.inr (hh hholds)
    · exact h.stride_of_ne hsound hname hcall fun hk hh =>
        hkept hk fun hholds => Or.inr (hh hholds)

/-- An edit has taken the finalizer off the profile of the name, and it has not been on it since then. -/
def Unguarded (store : ProfileStore σ) (w : World String σ) (acts : List Act) (name : String) : Prop :=
  ∃ before a after, acts = before ++ a :: after ∧ (w.play store before).TakesOff store name a ∧
    ∀ front, front <+: after -> ¬store.Holds (w.play store (before ++ a :: front)).server name

theorem unguarded_concat {acts : List Act} {a : Act}
    (h : w.Unguarded store acts name ∨ (w.play store acts).TakesOff store name a) :
    w.Unguarded store (acts ++ [a]) name ∨ store.Holds (w.play store (acts ++ [a])).server name := by
  by_cases hholds : store.Holds (w.play store (acts ++ [a])).server name
  · exact Or.inr hholds
  · refine Or.inl ?_
    rcases h with ⟨before, b, after, rfl, htakes, hsince⟩ | htakes
    · refine ⟨before, b, after ++ [a], by simp, htakes, fun front hfront => ?_⟩
      rcases List.prefix_concat_iff.1 hfront with rfl | hfront
      · simpa using hholds
      · exact hsince front hfront
    · refine ⟨acts, a, [], rfl, htakes, fun front hfront => ?_⟩
      rwa [List.prefix_nil.1 hfront]

/-- Where no edit of the profile goes without the finalizer, it is never taken off. -/
theorem not_unguarded {acts : List Act}
    (h : ∀ p, .edit name p ∈ acts -> finalizer ∈ p.metadata.finalizerList) :
    ¬w.Unguarded store acts name := by
  rintro ⟨before, a, after, rfl, htakes, _⟩
  cases a with
  | edit other p =>
      obtain ⟨rfl, _, _, hoff⟩ := htakes
      exact hoff (h p (by simp))
  | _ => exact htakes

theorem guards_play {s : σ} (hsound : Sound store { server := s }) (acts : List Act) :
    let start : World String σ := { server := s }
    Guards (start.Unguarded store acts name ∨ store.Holds (start.play store acts).server name)
      (start.play store acts) name := by
  intro start
  induction acts using List.reverseRecOn with
  | nil => exact ⟨Or.inr ⟨rfl, id⟩, fun _ hcall => nomatch hcall⟩
  | append_singleton acts a ih =>
      rw [play_concat]
      refine ih.act (hsound.play acts) a Or.inr fun hk hholds => ?_
      rw [← play_concat] at hholds ⊢
      rcases hk with hk | hk
      · exact unguarded_concat (Or.inl hk)
      · rcases hholds hk with htakes | hholds
        · exact unguarded_concat (Or.inr htakes)
        · exact Or.inr hholds

end World

/--
The finalizer guards a profile all its life.  A call only asks for work if the profile that it was given
carries the finalizer and is not being deleted.  A deletion does not look at the specification, it ends well
where the finalizer comes off, and it fails in no other way than that the finalizer does not come off.  A
profile that is gone was tidied up after since its namespace was last written, and its measure is gone too,
unless an edit took the finalizer off this very profile and it has not been on it since.
-/
theorem finalizer_guards_life (store : ProfileStore σ) (s : σ) (hnamed : store.Named s)
    (acts : List Act) :
    let start : World String σ := { server := s }
    let final := start.play store acts
    (∀ name given x, ⟨name, given, .asked x⟩ ∈ final.history -> x.request.isWork = true ->
      finalizer ∈ given.metadata.finalizerList ∧ given.metadata.isDeleting = false) ∧
    (∀ name given result, ⟨name, given, .ended result⟩ ∈ final.history ->
      given.metadata.isDeleting = true ->
        result = .ok .onChange ∨ ∃ e, result = .error (.guarded (.removeFinalizer e))) ∧
    (∀ p q : Profile, p.metadata = q.metadata -> p.metadata.isDeleting = true ->
      ∀ now now' templates templates',
        p.reconcile now templates = q.reconcile now' templates') ∧
    (∀ (p : Profile) name index, p.metadata.name = some name ->
      p.metadata.finalizerList.idxOf? finalizer = some index -> p.metadata.isDeleting = true ->
      let removal : Api.Request := .patchFinalizers name (.removeAt index finalizer)
      ∀ now templates s', removal.obstacle? = none -> (store.serve s' removal).1 = .ok () ->
        ((p.reconcile now templates).run store.serve s').result = .ok .onChange ∧
        ((p.reconcile now templates).run store.serve s').state = (store.serve s' removal).2) ∧
    ∀ name, ¬start.Unguarded store acts name -> store.stored final.server name = none ->
      final.registry.applied.get? name = none ∧
      ∀ newer given x older ns body, final.history = newer ++ ⟨name, given, .asked x⟩ :: older ->
        x.request = .applyNamespace ns body ->
          ∃ given', ⟨name, given', .noted (.measure (.unapplied name))⟩ ∈ newer := by
  intro start final
  have hstart : start.Sound store := World.sound_start hnamed
  have hsound : final.Sound store := hstart.play acts
  refine ⟨?_, ?_, ?_, ?_, ?_⟩
  · intro name given x hrecord
    exact hsound.history _ hrecord
  · intro name given result hrecord hdeleting
    exact DeletionEnds.cases (hsound.history _ hrecord hdeleting)
  · intro p q hmetadata hdeleting now now' templates templates'
    exact Profile.reconcile_deletion_congr hmetadata hdeleting now now' templates templates'
  · intro p name index hname hindex hdeleting removal now templates s' hsent hreply
    exact Profile.run_of_deleting hname hindex hdeleting now templates hsent hreply
  · intro name hguarded hgone
    have hkept : ¬(start.Unguarded store acts name ∨ store.Holds final.server name) := by
      rintro (hlost | ⟨p, hp, _⟩)
      · exact hguarded hlost
      · rw [hgone] at hp
        cases hp
    have hclean : final.Clean name := (World.guards_play hstart acts).holds.resolve_left hkept
    refine ⟨hclean.measure, fun newer given x older ns body hhistory hrequest => ?_⟩
    have htidy := hclean.history
    rw [hhistory] at htidy
    obtain ⟨⟨other, given', move⟩, hmem, hname, hmove⟩ :=
      tidiesUp_of_writes htidy ⟨rfl, x, ns, body, rfl, hrequest⟩
    obtain rfl : other = name := hname
    obtain rfl : move = .noted (.measure (.unapplied other)) := hmove
    exact ⟨given', hmem⟩

/--
A profile is applied, edited so that its specification is no longer valid, and marked for deletion.  Its
finalizer comes off in the second call only, as the first request for that is rejected.  That an edit takes
the finalizer off another profile does not matter.
-/
theorem finalizer_guards_life_second_removal :
    ∃ (store : ProfileStore (Api.Cluster × Nat)) (acts : List Act) (p : Profile),
      .edit "b" p ∈ acts ∧ finalizer ∉ p.metadata.finalizerList ∧
      let final := ({ server := ({}, 0) } : World String (Api.Cluster × Nat)).play store acts
      store.stored final.server "a" = none ∧ final.registry.applied.get? "a" = none ∧
      (∃ given e, ⟨"a", given, .ended (.error (.guarded (.removeFinalizer e)))⟩ ∈ final.history) ∧
      ∃ newer given x older ns body given',
        final.history = newer ++ ⟨"a", given, .asked x⟩ :: older ∧
        x.request = .applyNamespace ns body ∧
        ⟨"a", given', .noted (.measure (.unapplied "a"))⟩ ∈ newer := by
  let valid (name : String) : Profile := {
    metadata := { name := some name, finalizers := some [finalizer] }
    spec := { owner := some { kind := "User", name := "alice" } } }
  let now : Time.Instant := {
    date := { year := 2024, month := 1, day := 1 }
    time := { hour := 0, minute := 0, second := 0, nanosecond := 0 } }
  let rejections : Rejections := fun k => if k = 3 then some (.lost "connection refused") else none
  let call : List Act := .start "a" now [] :: List.replicate 12 (.advance "a")
  let acts : List Act :=
    [.create (valid "a"), .create (valid "b")] ++ call ++
      [.edit "b" ((valid "b").withFinalizers []), .edit "a" { valid "a" with spec := {} },
        .markDeleted "a" now] ++ call ++ call
  let store := Api.Cluster.profileStore.rejecting rejections
  let writes (record : Record String (Api.Cluster × Nat)) : Prop :=
    record.id = "a" ∧ record.move.exchange?.any (·.request.writesNamespace) = true
  let fails (record : Record String (Api.Cluster × Nat)) : Prop :=
    (record.id = "a" ∧ record.given.metadata.isDeleting = true) ∧
      record.move.result?.any (!·.isOk) = true
  have hcourse :
      let final := ({ server := ({}, 0) } : World String (Api.Cluster × Nat)).play store acts
      (store.stored final.server "a").isNone = true ∧ (∃ record ∈ final.history, writes record) ∧
        ∃ record ∈ final.history, fails record := by
    decide +kernel
  have hnamed : store.Named ({}, 0) := fun _ _ h => nomatch h
  obtain ⟨hgone, ⟨⟨name, given, move⟩, hmem, hname, hasks⟩,
    ⟨name', given', move'⟩, hmem', ⟨hname', hdeleting⟩, hends⟩ := hcourse
  obtain rfl : name = "a" := hname
  obtain rfl : name' = "a" := hname'
  have hguarded : ¬World.Unguarded store { server := ({}, 0) } acts "a" := by
    refine World.not_unguarded fun p hp => ?_
    obtain rfl : p = { valid "a" with spec := {} } := by
      simpa [acts, call] using hp
    decide
  obtain ⟨_, hdeletions, _, _, hclean⟩ := finalizer_guards_life store ({}, 0) hnamed acts
  have hgone' := Option.isNone_iff_eq_none.1 hgone
  obtain ⟨hmeasure, htidied⟩ := hclean "a" hguarded hgone'
  refine ⟨store, acts, (valid "b").withFinalizers [], by simp [acts], List.not_mem_nil,
    hgone', hmeasure, ?_, ?_⟩
  · cases move' with
    | ended result =>
        rcases hdeletions "a" given' _ hmem' hdeleting with rfl | ⟨e, rfl⟩
        · cases hends
        · exact ⟨given', e, hmem'⟩
    | _ => cases hends
  · cases move with
    | asked x =>
        obtain ⟨ns, body, hrequest⟩ := Api.Request.writesNamespace_iff.1 hasks
        obtain ⟨newer, older, hhistory⟩ := List.append_of_mem hmem
        obtain ⟨cleaned, hcleaned⟩ := htidied newer given x older ns body hhistory hrequest
        exact ⟨newer, given, x, older, ns, body, cleaned, hhistory, hrequest, hcleaned⟩
    | _ => cases hasks

/--
An edit from outside can take the finalizer off a profile that was applied.  Nothing keeps the profile
then, and its measure stays.  Without any edit it does where a profile is stored under a name that the
server reads as another one in a path: to take the finalizer off it takes that of the other profile off.
-/
theorem finalizer_taken_off_leaves_measure :
    (¬∀ (s : Api.Cluster) (acts : List Act), Api.Cluster.profileStore.Named s ->
      let final := ({ server := s } : World String Api.Cluster).play Api.Cluster.profileStore acts
      ∀ name, Api.Cluster.profileStore.stored final.server name = none ->
        final.registry.applied.get? name = none) ∧
    ¬∀ (s : Api.Cluster) (acts : List Act), (∀ name p, .edit name p ∉ acts) ->
      let final := ({ server := s } : World String Api.Cluster).play Api.Cluster.profileStore acts
      ∀ name, Api.Cluster.profileStore.stored final.server name = none ->
        final.registry.applied.get? name = none := by
  let profile (name : String) : Profile := {
    metadata := { name := some name, finalizers := some [finalizer] }
    spec := { owner := some { kind := "User", name := "alice" } } }
  let now : Time.Instant := {
    date := { year := 2024, month := 1, day := 1 }
    time := { hour := 0, minute := 0, second := 0, nanosecond := 0 } }
  let call (name : String) : List Act := .start name now [] :: List.replicate 12 (.advance name)
  let gone (s : Api.Cluster) (acts : List Act) : Prop :=
    let final := ({ server := s } : World String Api.Cluster).play Api.Cluster.profileStore acts
    (Api.Cluster.profileStore.stored final.server "a").isNone = true ∧
      final.registry.applied.get? "a" = some 0
  constructor
  · intro h
    let acts : List Act :=
      [.create (profile "a")] ++ call "a" ++ [.edit "a" ((profile "a").withFinalizers []),
        .markDeleted "a" now]
    have hcourse : gone {} acts := by
      decide +kernel
    have hmeasure := h {} acts (fun _ _ h => nomatch h) "a" (Option.isNone_iff_eq_none.1 hcourse.1)
    rw [hcourse.2] at hmeasure
    cases hmeasure
  · intro h
    let acts : List Act := call "a" ++ [.markDeleted "a" now] ++ call "a?b"
    let s : Api.Cluster := { profiles := {
      toList := [("a", profile "a"), ("a?b", (profile "a?b").markedAt now)]
      sorted := by decide +kernel } }
    have hcourse : gone s acts := by
      decide +kernel
    have hedits : ∀ name p, .edit name p ∉ acts := by
      simp [acts, call]
    have hmeasure := h s acts hedits "a" (Option.isNone_iff_eq_none.1 hcourse.1)
    rw [hcourse.2] at hmeasure
    cases hmeasure

end ProfileOperator
