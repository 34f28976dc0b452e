import Mathlib.Logic.Function.Basic
import ProfileOperator.Proofs.Reconcile.Guarding
import ProfileOperator.Proofs.Reconcile.Rejection

/-!
# Servers that store profiles

The laws that the life of a profile relies on, for any server whose profiles can be looked at by name.  They
are no more than that patches of the status leave the metadata alone, that patches of the finalizers do what
they say or nothing, and that a profile goes with its last finalizer once it is being deleted.
-/

namespace ProfileOperator

variable {σ : Type}

namespace Profile

def withFinalizers (p : Profile) (finalizers : List String) : Profile :=
  { p with metadata := { p.metadata with finalizers := some finalizers } }

def markedAt (p : Profile) (time : Time.Instant) : Profile :=
  { p with metadata := { p.metadata with deletionTimestamp := some time } }

/-- What is left of a profile: nothing, once it is being deleted and no finalizer holds it any more. -/
def settled (p : Profile) : Option Profile :=
  if p.metadata.isDeleting ∧ p.metadata.finalizerList = [] then none else some p

theorem eq_of_settled {p q : Profile} (h : p.settled = some q) : q = p := by
  unfold settled at h
  split at h
  · cases h
  · exact (Option.some.inj h).symm

theorem settled_eq {p : Profile} {held : String} (h : held ∈ p.metadata.finalizerList) :
    p.settled = some p := by
  unfold settled
  rw [if_neg fun hgone => List.ne_nil_of_mem h hgone.2]

end Profile

/--
A server that stores profiles under the names that it accepts.  They can be put there from outside, and
of the requests only the two patches of a profile change it, if they do; what is answered does not matter.
-/
structure ProfileStore (σ : Type) where
  serve : Handler σ
  accepts : String -> Bool
  stored : σ -> String -> Option Profile
  put : σ -> String -> Option Profile -> σ
  stored_put : ∀ s name p, stored (put s name p) = Function.update (stored s) name p
  stored_work : ∀ s r, r.isWork = true -> (∀ name status, r ≠ .patchStatus name status) ->
    stored (serve s r).2 = stored s
  stored_status : ∀ s name status, accepts name = true ->
    stored (serve s (.patchStatus name status)).2 = stored s ∨
      ∃ p p', stored s name = some p ∧ p'.metadata = p.metadata ∧
        stored (serve s (.patchStatus name status)).2 = Function.update (stored s) name (some p')
  stored_finalizers : ∀ s name change, accepts name = true ->
    stored (serve s (.patchFinalizers name change)).2 = stored s ∨
      ∃ p, stored s name = some p ∧
        stored (serve s (.patchFinalizers name change)).2 = Function.update (stored s) name
          (p.withFinalizers (change.carriedOut p.metadata.finalizerList)).settled

/-! ### What the requests of a run do to the profiles -/

namespace ProfileStore

variable (store : ProfileStore σ)

/-- Every profile goes by the name under which it is stored, and the server accepts the name. -/
def Named (s : σ) : Prop :=
  ∀ name p, store.stored s name = some p -> store.accepts name = true ∧ p.metadata.name = some name

variable {store}

theorem Named.of_update {s s' : σ} (h : store.Named s) {name : String} {o : Option Profile}
    (hstored : store.stored s' = Function.update (store.stored s) name o)
    (ho : ∀ p, o = some p -> store.accepts name = true ∧ p.metadata.name = some name) :
    store.Named s' := by
  intro other p hp
  rw [hstored] at hp
  by_cases hother : other = name
  · subst hother
    rw [Function.update_self] at hp
    exact ho p hp
  · rw [Function.update_of_ne hother] at hp
    exact h other p hp

theorem Named.of_eq {s s' : σ} (h : store.Named s) (hstored : store.stored s' = store.stored s) :
    store.Named s' := by
  intro name p hp
  rw [hstored] at hp
  exact h name p hp

/-- What a request of a run for the profile of a name can do to the profiles. -/
theorem stored_cases (store : ProfileStore σ) (s : σ) {name : String}
    (haccepts : store.accepts name = true) {r : Api.Request} (h : r.IsRunFor name) :
    store.stored (store.serve s r).2 = store.stored s ∨
    ∃ p o, store.stored s name = some p ∧
      store.stored (store.serve s r).2 = Function.update (store.stored s) name o ∧
      (∀ q, o = some q -> q.metadata.name = p.metadata.name) ∧
      (r.isWork = true -> ∃ q, o = some q ∧ q.metadata = p.metadata) := by
  rcases h with (h | ⟨status, rfl⟩) | ⟨change, rfl⟩
  · refine Or.inl (store.stored_work s r (Api.Request.IsWorkFor.isWork_eq (Or.inl h)) ?_)
    rintro other status rfl
    exact h
  · rcases store.stored_status s name status haccepts with hsame | ⟨p, p', hp, hmetadata, hstored⟩
    · exact Or.inl hsame
    · refine Or.inr ⟨p, some p', hp, hstored, fun q hq => ?_, fun _ => ⟨p', rfl, hmetadata⟩⟩
      cases hq
      rw [hmetadata]
  · rcases store.stored_finalizers s name change haccepts with hsame | ⟨p, hp, hstored⟩
    · exact Or.inl hsame
    · refine Or.inr ⟨p, _, hp, hstored, fun q hq => ?_, fun hwork => nomatch hwork⟩
      rw [Profile.eq_of_settled hq]
      rfl

theorem Named.serve {s : σ} (h : store.Named s) {name : String} (haccepts : store.accepts name = true)
    {r : Api.Request} (hr : r.IsRunFor name) : store.Named (store.serve s r).2 := by
  rcases store.stored_cases s haccepts hr with hsame | ⟨p, o, hp, hstored, hname, _⟩
  · exact h.of_eq hsame
  · exact h.of_update hstored fun q hq => ⟨haccepts, (hname q hq).trans (h name p hp).2⟩

theorem stored_of_ne (store : ProfileStore σ) (s : σ) {name other : String}
    (haccepts : store.accepts name = true) {r : Api.Request} (hr : r.IsRunFor name)
    (hother : other ≠ name) : store.stored (store.serve s r).2 other = store.stored s other := by
  rcases store.stored_cases s haccepts hr with hsame | ⟨_, _, _, hstored, _, _⟩
  · rw [hsame]
  · rw [hstored, Function.update_of_ne hother]

/-- A profile that carries the finalizer is stored under the name. -/
def Holds (store : ProfileStore σ) (s : σ) (name : String) : Prop :=
  ∃ p, store.stored s name = some p ∧ finalizer ∈ p.metadata.finalizerList

theorem Holds.of_eq {s s' : σ} {name : String} (h : store.Holds s name)
    (hstored : store.stored s' name = store.stored s name) : store.Holds s' name := by
  obtain ⟨p, hp, hcarries⟩ := h
  exact ⟨p, hstored.trans hp, hcarries⟩

theorem Holds.serve_work {s : σ} {name : String} (h : store.Holds s name)
    (haccepts : store.accepts name = true) {r : Api.Request} (hr : r.IsWorkFor name) :
    store.Holds (store.serve s r).2 name := by
  rcases store.stored_cases s haccepts (Or.inl hr) with hsame | ⟨p, o, hp, hstored, _, hwork⟩
  · exact h.of_eq (congrFun hsame name)
  · obtain ⟨p', hp', hcarries⟩ := h
    rw [hp] at hp'
    cases hp'
    obtain ⟨q, rfl, hmetadata⟩ := hwork hr.isWork_eq
    refine ⟨q, ?_, ?_⟩
    · rw [hstored, Function.update_self]
    · rw [hmetadata]
      exact hcarries

theorem Holds.serve_addition {s : σ} {name : String} (h : store.Holds s name)
    (haccepts : store.accepts name = true) {r : Api.Request} (hr : r.IsAdditionFor name) :
    store.Holds (store.serve s r).2 name := by
  obtain ⟨change, rfl, hadds⟩ := hr
  rcases store.stored_finalizers s name change haccepts with hsame | ⟨p, _, hstored⟩
  · exact h.of_eq (congrFun hsame name)
  · have hcarries := hadds p.metadata.finalizerList
    refine ⟨p.withFinalizers (change.carriedOut p.metadata.finalizerList), ?_, hcarries⟩
    rw [hstored, Function.update_self]
    exact Profile.settled_eq hcarries

end ProfileStore

/-! ### Stores -/

section

variable (c : Api.Cluster) (name : String)

theorem Api.Cluster.profiles_settleProfile (p : Profile) :
    (c.settleProfile name p).profiles.get? = Function.update c.profiles.get? name p.settled := by
  funext key
  unfold settleProfile Profile.settled
  split
  · rw [Function.update_apply]
    exact Dict.get?_erase ..
  · rw [Function.update_apply]
    exact Dict.get?_insert ..

def Api.Cluster.setProfile : Option Profile -> Api.Cluster
  | some p => { c with profiles := c.profiles.insert name p }
  | none => { c with profiles := c.profiles.erase name }

theorem Api.Cluster.profiles_setProfile (o : Option Profile) :
    (c.setProfile name o).profiles.get? = Function.update c.profiles.get? name o := by
  funext key
  rw [Function.update_apply]
  cases o with
  | some p => exact Dict.get?_insert ..
  | none => exact Dict.get?_erase ..

end

/-- A server that keeps every profile under its own name, where names stand for themselves in a path. -/
def Api.Cluster.profileStore : ProfileStore Api.Cluster where
  serve := Api.Cluster.serve
  accepts name := decide (Api.nameRead name = name)
  stored c := c.profiles.get?
  put := Api.Cluster.setProfile
  stored_put := Api.Cluster.profiles_setProfile
  stored_work c r hwork hstatus := by
    cases r with
    | patchStatus name status => exact absurd rfl (hstatus name status)
    | patchFinalizers name change => cases hwork
    | deletePodDefault namespaceName name =>
        simp only [Api.Cluster.serve]
        split
        · rfl
        · rfl
    | _ => rfl
  stored_status c name status haccepts := by
    simp only [Api.Cluster.serve, of_decide_eq_true haccepts]
    cases hp : c.profiles.get? name with
    | none => exact Or.inl rfl
    | some p =>
        cases Api.leadsOn name with
        | false => exact Or.inl rfl
        | true =>
            refine Or.inr ⟨p, _, rfl, ?_, Api.Cluster.profiles_setProfile c name (some _)⟩
            rfl
  stored_finalizers c name change haccepts := by
    simp only [Api.Cluster.serve, of_decide_eq_true haccepts]
    cases hp : c.profiles.get? name with
    | none => exact Or.inl rfl
    | some p => exact Or.inr ⟨p, rfl, c.profiles_settleProfile name _⟩

/-- The store behind a server that rejects some of the requests. -/
def ProfileStore.rejecting (store : ProfileStore σ) (rejections : Rejections) :
    ProfileStore (σ × Nat) where
  serve := store.serve.rejecting rejections
  accepts := store.accepts
  stored x := store.stored x.1
  put x name o := (store.put x.1 name o, x.2)
  stored_put x := store.stored_put x.1
  stored_work x r hwork hstatus := by
    rcases rejecting_state store.serve rejections x r with hsame | hserved
    · rw [hsame]
    · rw [hserved]
      exact store.stored_work x.1 r hwork hstatus
  stored_status x name status haccepts := by
    rcases rejecting_state store.serve rejections x (.patchStatus name status) with hsame | hserved
    · exact Or.inl (congrArg store.stored hsame)
    · rw [hserved]
      exact store.stored_status x.1 name status haccepts
  stored_finalizers x name change haccepts := by
    rcases rejecting_state store.serve rejections x (.patchFinalizers name change) with
      hsame | hserved
    · exact Or.inl (congrArg store.stored hsame)
    · rw [hserved]
      exact store.stored_finalizers x.1 name change haccepts

end ProfileOperator
