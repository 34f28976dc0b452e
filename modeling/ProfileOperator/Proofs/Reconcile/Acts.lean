import ProfileOperator.Proofs.Reconcile.ProfileStore
import ProfileOperator.Proofs.Reconcile.World

/-!
# Profiles that come and go

Profiles are created, edited and marked for deletion from outside, at any moment, also in the middle of
calls.  Calls go by the names of their profiles, so those for one profile do not overlap, and each one is
given the profile as it is stored when the call starts.
-/

namespace ProfileOperator

open Pass

variable {σ : Type}

inductive Act where
  | create (p : Profile)
  | edit (name : String) (p : Profile)
  | markDeleted (name : String) (time : Time.Instant)
  /-- A call starts, with the profile as it is stored. -/
  | start (name : String) (now : Time.Instant) (templates : List Template)
  | advance (name : String)

namespace World

variable (store : ProfileStore σ)

/-- What an act does.  One that is not possible does nothing. -/
def act (w : World String σ) : Act -> World String σ
  | .create p =>
      match p.metadata.name with
      | some name =>
          if store.accepts name = true ∧ store.stored w.server name = none then
            { w with server := store.put w.server name (some p) }
          else w
      | none => w
  | .edit name p =>
      if (store.stored w.server name).isSome ∧ p.metadata.name = some name then
        { w with server := store.put w.server name p.settled }
      else w
  | .markDeleted name time =>
      match store.stored w.server name with
      | some p => { w with server := store.put w.server name (p.markedAt time).settled }
      | none => w
  | .start name now templates =>
      match store.stored w.server name, w.calls name with
      | some p, none => w.start name p (p.reconcile now templates)
      | _, _ => w
  | .advance name => w.advance store.serve name

def play (w : World String σ) (acts : List Act) : World String σ :=
  acts.foldl (act store) w

theorem play_concat (w : World String σ) (acts : List Act) (a : Act) :
    w.play store (acts ++ [a]) = (w.play store acts).act store a :=
  List.foldl_append

/-! ### What an act can do -/

/-- The act takes the finalizer off the profile that is stored under the name. -/
def TakesOff (w : World String σ) (name : String) : Act -> Prop
  | .edit other p =>
      other = name ∧ store.Holds w.server name ∧ p.metadata.name = some name ∧
        finalizer ∉ p.metadata.finalizerList
  | _ => False

/-- From outside no more is put under a name than what may be stored there, and it keeps the finalizer. -/
structure Replaces (w : World String σ) (a : Act) (name : String) (o : Option Profile) : Prop where
  named : store.Named w.server ->
    ∀ p, o = some p -> store.accepts name = true ∧ p.metadata.name = some name
  holds : store.Holds w.server name ->
    w.TakesOff store name a ∨ ∃ p, o = some p ∧ finalizer ∈ p.metadata.finalizerList

section

variable {store} {w : World String σ} {name : String} {p : Profile}

theorem replaces_create (hname : p.metadata.name = some name) (haccepts : store.accepts name = true)
    (hnone : store.stored w.server name = none) : w.Replaces store (.create p) name (some p) where
  named _ q hq := by
    cases hq
    exact ⟨haccepts, hname⟩
  holds hholds := by
    obtain ⟨q, hq, _⟩ := hholds
    rw [hnone] at hq
    cases hq

theorem replaces_edit (hstored : (store.stored w.server name).isSome = true)
    (hname : p.metadata.name = some name) : w.Replaces store (.edit name p) name p.settled where
  named hnamed q hq := by
    obtain ⟨old, hold⟩ := Option.isSome_iff_exists.1 hstored
    rw [Profile.eq_of_settled hq]
    exact ⟨(hnamed name old hold).1, hname⟩
  holds hholds := by
    by_cases hcarries : finalizer ∈ p.metadata.finalizerList
    · exact Or.inr ⟨p, Profile.settled_eq hcarries, hcarries⟩
    · exact Or.inl ⟨rfl, hholds, hname, hcarries⟩

theorem replaces_markDeleted (hp : store.stored w.server name = some p) (time : Time.Instant) :
    w.Replaces store (.markDeleted name time) name (p.markedAt time).settled where
  named hnamed q hq := by
    rw [Profile.eq_of_settled hq]
    exact hnamed name p hp
  holds hholds := by
    obtain ⟨old, hold, hcarries⟩ := hholds
    rw [hp] at hold
    cases hold
    exact Or.inr ⟨p.markedAt time, Profile.settled_eq hcarries, hcarries⟩

end

theorem act_cases (w : World String σ) (a : Act) :
    w.act store a = w ∨
    (∃ name o, w.Replaces store a name o ∧
      w.act store a = { w with server := store.put w.server name o }) ∨
    (∃ name p now templates, store.stored w.server name = some p ∧ w.calls name = none ∧
      w.act store a = w.start name p (p.reconcile now templates)) ∨
    ∃ name call, w.calls name = some call ∧
      w.act store a = w.after name call.given (call.rest.stride store.serve w.server) := by
  cases a with
  | create p =>
      unfold World.act
      dsimp only
      split
      · next name hname =>
          split
          · next h => exact Or.inr (Or.inl ⟨name, some p, replaces_create hname h.1 h.2, rfl⟩)
          · exact Or.inl rfl
      · exact Or.inl rfl
  | edit name p =>
      unfold World.act
      dsimp only
      split
      · next h => exact Or.inr (Or.inl ⟨name, p.settled, replaces_edit h.1 h.2, rfl⟩)
      · exact Or.inl rfl
  | markDeleted name time =>
      unfold World.act
      dsimp only
      split
      · next p hp => exact Or.inr (Or.inl ⟨name, _, replaces_markDeleted hp time, rfl⟩)
      · exact Or.inl rfl
  | start name now templates =>
      unfold World.act
      dsimp only
      split
      · next p hp hcall => exact Or.inr (Or.inr (Or.inl ⟨name, p, now, templates, hp, hcall, rfl⟩))
      · exact Or.inl rfl
  | advance name =>
      unfold World.act
      cases hcall : w.calls name with
      | none => exact Or.inl (advance_of_none hcall)
      | some call => exact Or.inr (Or.inr (Or.inr ⟨name, call, hcall, advance_of_some hcall⟩))

end World

/-! ### What holds in every world -/

/-- The move is one that the profile given to the call allows, and so is the end. -/
def Record.IsSound (record : Record String σ) : Prop :=
  record.move.IsWithin record.given.MayAsk (fun _ => True) fun result =>
    record.given.metadata.isDeleting = true -> DeletionEnds result

/-- What is left of a call for the profile of a name allows nothing but sound records. -/
def Call.IsSound (name : String) (call : Call) : Prop :=
  call.rest.Within (fun r => r.IsRunFor name ∧ call.given.MayAsk r) (Event.IsFor name)
    fun result => call.given.metadata.isDeleting = true -> DeletionEnds result

namespace World

variable {store : ProfileStore σ} {w : World String σ}

structure Sound (store : ProfileStore σ) (w : World String σ) : Prop where
  named : store.Named w.server
  calls : ∀ name call, w.calls name = some call -> store.accepts name = true ∧ call.IsSound name
  history : ∀ record ∈ w.history, record.IsSound

theorem Sound.put (h : w.Sound store) {name : String} {o : Option Profile}
    (ho : ∀ p, o = some p -> store.accepts name = true ∧ p.metadata.name = some name) :
    Sound store { w with server := store.put w.server name o } where
  named := h.named.of_update (store.stored_put w.server name o) ho
  calls := h.calls
  history := h.history

theorem Sound.start (h : w.Sound store) {name : String} {p : Profile}
    (hp : store.stored w.server name = some p) (now : Time.Instant) (templates : List Template) :
    (w.start name p (p.reconcile now templates)).Sound store where
  named := h.named
  calls := by
    refine forall_calls_after h.calls fun rest hrest => ?_
    cases hrest
    obtain ⟨haccepts, hname⟩ := h.named name p hp
    exact ⟨haccepts, Profile.reconcile_within hname now templates⟩
  history := List.forall_mem_cons.2 ⟨trivial, h.history⟩

theorem Sound.stride (h : w.Sound store) {name : String} {call : Call}
    (hcall : w.calls name = some call) :
    (w.after name call.given (call.rest.stride store.serve w.server)).Sound store := by
  obtain ⟨haccepts, hsound⟩ := h.calls name call hcall
  have hstride := Within.stride hsound store.serve w.server
  obtain ⟨given, rest⟩ := call
  constructor
  · cases rest with
    | send r next => exact h.named.serve haccepts hsound.1.1
    | _ => exact h.named
  · exact forall_calls_after h.calls fun rest hrest => ⟨haccepts, hstride.2 rest hrest⟩
  · refine List.forall_mem_cons.2 ⟨?_, h.history⟩
    cases rest with
    | send r next => exact hsound.1.2
    | note event rest => exact trivial
    | _ => exact hstride.1

theorem Sound.act (h : w.Sound store) (a : Act) : (w.act store a).Sound store := by
  rcases act_cases store w a with hact | ⟨name, o, hreplaces, hact⟩ |
    ⟨name, p, now, templates, hp, _, hact⟩ | ⟨name, call, hcall, hact⟩
  · rw [hact]
    exact h
  · rw [hact]
    exact h.put (hreplaces.named h.named)
  · rw [hact]
    exact h.start hp now templates
  · rw [hact]
    exact h.stride hcall

theorem Sound.play (h : w.Sound store) (acts : List Act) : (w.play store acts).Sound store := by
  induction acts generalizing w with
  | nil => exact h
  | cons a rest ih => exact ih (h.act a)

theorem sound_start {s : σ} (h : store.Named s) : Sound store { server := s } where
  named := h
  calls _ _ hcall := nomatch hcall
  history _ hrecord := nomatch hrecord

end World

end ProfileOperator
