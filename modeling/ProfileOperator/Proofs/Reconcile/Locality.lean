import ProfileOperator.Proofs.Reconcile.Rejection

/-!
# Servers that go by the name in a path

The server reads a name in the path of a request, and the request touches no more than what is stored under
that name.  So a pass that only asks for one name depends on what is under it and on nothing else, and it
leaves everything else alone.
-/

namespace ProfileOperator

open Pass

variable {σ τ ε α : Type}

/-- The name that a request puts in its path: that of the namespace or the profile. -/
def Api.Request.place : Api.Request -> String
  | .applyNamespace name _ => name
  | .applyPodDefault namespaceName _ _ => namespaceName
  | .listPodDefaults namespaceName => namespaceName
  | .deletePodDefault namespaceName _ => namespaceName
  | .patchStatus profile _ => profile
  | .patchFinalizers profile _ => profile

/--
A request reads and writes no more than the part of the state that is under the name read in its path.  How
names are read is up to the server; where it reads nothing, nothing is said of the request.
-/
structure Local (serve : Handler σ) (read : String -> Option String) (part : σ -> String -> τ) :
    Prop where
  /-- The state is nothing but its parts. -/
  ext : ∀ s s', (∀ key, part s key = part s' key) -> s = s'
  reply : ∀ r key, read r.place = some key ->
    ∀ s s', part s key = part s' key -> (serve s r).1 = (serve s' r).1
  own : ∀ r key, read r.place = some key ->
    ∀ s s', part s key = part s' key -> part (serve s r).2 key = part (serve s' r).2 key
  other : ∀ r key, read r.place = some key ->
    ∀ s elsewhere, elsewhere ≠ key -> part (serve s r).2 elsewhere = part s elsewhere

/-- What can be seen of a run by who only looks at one part of the state. -/
def Outcome.seenAt (part : σ -> String -> τ) (key : String) (o : Outcome (σ × Nat) ε α) :
    Outcome (τ × Nat) ε α :=
  { result := o.result, steps := o.steps, state := (part o.state.1 key, o.state.2) }

def Outcome.behind (step : Step) (o : Outcome σ ε α) : Outcome σ ε α :=
  { o with steps := step :: o.steps }

theorem Pass.run_send (serve : Handler σ) (r : Api.Request)
    (next : Except Api.ClientError r.Reply -> Pass ε α) (s : σ) :
    (Pass.send r next).run serve s =
      ((next (serve s r).1).run serve (serve s r).2).behind (.sent r) := rfl

/-- The pass puts no other name into the paths of its requests. -/
abbrev Pass.IsAbout (name : String) (notes : Event -> Prop) (p : Pass ε α) : Prop :=
  p.Within (fun r => r.place = name) notes fun _ => True

section

variable {serve : Handler σ} {read : String -> Option String} {part : σ -> String -> τ}
variable (h : Local serve read part) (rejections : Rejections) {key : String}

include h

theorem Local.rejecting_own {r : Api.Request} (hread : read r.place = some key) {s s' : σ} (n : Nat)
    (hpart : part s key = part s' key) :
    let x := serve.rejecting rejections (s, n) r
    let x' := serve.rejecting rejections (s', n) r
    x.1 = x'.1 ∧ part x.2.1 key = part x'.2.1 key ∧ x.2.2 = x'.2.2 := by
  cases hrejected : rejections n with
  | some e =>
      rw [rejecting_of_some hrejected, rejecting_of_some hrejected]
      exact ⟨rfl, hpart, rfl⟩
  | none =>
      rw [rejecting_of_none hrejected, rejecting_of_none hrejected]
      exact ⟨h.reply r key hread s s' hpart, h.own r key hread s s' hpart, rfl⟩

theorem Local.rejecting_other {r : Api.Request} (hread : read r.place = some key) (s : σ) (n : Nat)
    {elsewhere : String} (hne : elsewhere ≠ key) :
    part (serve.rejecting rejections (s, n) r).2.1 elsewhere = part s elsewhere := by
  cases hrejected : rejections n with
  | some e => rw [rejecting_of_some hrejected]
  | none =>
      rw [rejecting_of_none hrejected]
      exact h.other r key hread s elsewhere hne

variable {name : String} (hread : read name = some key) {notes : Event -> Prop} {p : Pass ε α}

include hread

/-- What a run does and what becomes of its own part depends on that part alone. -/
theorem Local.run_own (hp : p.IsAbout name notes) {s s' : σ} (n : Nat)
    (hpart : part s key = part s' key) :
    (p.run (serve.rejecting rejections) (s, n)).seenAt part key =
      (p.run (serve.rejecting rejections) (s', n)).seenAt part key := by
  induction p generalizing s s' n with
  | done value => simp only [run, Outcome.seenAt, hpart]
  | fail cause => simp only [run, Outcome.seenAt, hpart]
  | note event rest ih => exact congrArg (Outcome.behind (.event event)) (ih hp.2 n hpart)
  | send request next ih =>
      obtain ⟨rfl, hnext⟩ := hp
      obtain ⟨hreply, hown, hcount⟩ := h.rejecting_own rejections hread n hpart
      rw [run_send, run_send, hreply]
      have hrest := ih _ (hnext (serve.rejecting rejections (s', n) request).1)
        (serve.rejecting rejections (s, n) request).2.2 hown
      have hstate : (serve.rejecting rejections (s', n) request).2 =
          ((serve.rejecting rejections (s', n) request).2.1,
            (serve.rejecting rejections (s, n) request).2.2) :=
        Prod.ext rfl hcount.symm
      rw [hstate]
      exact congrArg (Outcome.behind (.sent request)) hrest

theorem Local.run_other (hp : p.IsAbout name notes) (s : σ) (n : Nat) {elsewhere : String}
    (hne : elsewhere ≠ key) :
    part (p.run (serve.rejecting rejections) (s, n)).state.1 elsewhere = part s elsewhere := by
  induction p generalizing s n with
  | done value => rfl
  | fail cause => rfl
  | note event rest ih => exact ih hp.2 s n
  | send request next ih =>
      obtain ⟨rfl, hnext⟩ := hp
      rw [← h.rejecting_other rejections hread s n hne]
      exact ih _ (hnext _) _ _

end

/-! ### A server without faults -/

/-- The server goes by what it reads up to the first character that ends a name in a path. -/
theorem Api.Request.subject_eq (r : Api.Request) : r.subject = Api.nameRead r.place := by
  cases r <;> rfl

namespace Api.Cluster

/-- What a server stores under a name: the profile, the namespace, and the PodDefaults in that. -/
def part (c : Cluster) (name : String) : Option Profile × Option Namespace × Option (Dict PodDefault) :=
  (c.profiles.get? name, c.namespaces.get? name, c.podDefaults.get? name)

theorem part_eq_iff {c c' : Cluster} {name : String} :
    c.part name = c'.part name ↔ c.profiles.get? name = c'.profiles.get? name ∧
      c.namespaces.get? name = c'.namespaces.get? name ∧
      c.podDefaults.get? name = c'.podDefaults.get? name := by
  simp only [part, Prod.mk.injEq]

theorem settleProfile_own {c c' : Cluster} {name : String} (h : c.part name = c'.part name)
    (p : Profile) : (c.settleProfile name p).part name = (c'.settleProfile name p).part name := by
  have hparts := part_eq_iff.1 h
  unfold settleProfile
  split
  · exact part_eq_iff.2 ⟨by simp, hparts.2⟩
  · exact part_eq_iff.2 ⟨by simp, hparts.2⟩

theorem settleProfile_other (c : Cluster) {name key : String} (h : key ≠ name) (p : Profile) :
    (c.settleProfile name p).part key = c.part key := by
  unfold settleProfile
  split
  · simp [part, h]
  · simp [part, h]

theorem serve_own (r : Request) {c c' : Cluster} (h : c.part r.subject = c'.part r.subject) :
    (c.serve r).1 = (c'.serve r).1 ∧ (c.serve r).2.part r.subject = (c'.serve r).2.part r.subject := by
  have hparts := part_eq_iff.1 h
  have hinside : c.podDefaultsIn r.subject = c'.podDefaultsIn r.subject := by
    rw [podDefaultsIn, hparts.2.2, podDefaultsIn]
  cases r with
  | applyNamespace name body =>
      refine ⟨rfl, part_eq_iff.2 ⟨hparts.1, ?_, hparts.2.2⟩⟩
      simp [serve, Request.subject]
  | applyPodDefault namespaceName name body =>
      refine ⟨rfl, part_eq_iff.2 ⟨hparts.1, hparts.2.1, ?_⟩⟩
      simp only [Request.subject] at hinside
      simp [serve, Request.subject, putPodDefault, hinside]
  | listPodDefaults namespaceName =>
      simp only [Request.subject] at hinside
      exact ⟨by simp only [serve, hinside], h⟩
  | deletePodDefault namespaceName name =>
      simp only [Request.subject] at hinside
      simp only [serve, podDefault?, hinside]
      cases (c'.podDefaultsIn (nameRead namespaceName)).get? (nameReadBehind namespaceName name) with
      | none => exact ⟨rfl, h⟩
      | some o =>
          refine ⟨rfl, part_eq_iff.2 ⟨hparts.1, hparts.2.1, ?_⟩⟩
          simp [Request.subject, dropPodDefault, hinside]
  | patchStatus profile status =>
      simp only [Request.subject] at hparts
      simp only [serve, hparts.1]
      cases c'.profiles.get? (nameRead profile) with
      | none => exact ⟨rfl, h⟩
      | some p =>
          cases leadsOn profile with
          | false => exact ⟨rfl, h⟩
          | true =>
              refine ⟨rfl, part_eq_iff.2 ⟨?_, hparts.2⟩⟩
              simp [Request.subject]
  | patchFinalizers profile change =>
      simp only [Request.subject] at hparts
      simp only [serve, hparts.1]
      cases c'.profiles.get? (nameRead profile) with
      | none => exact ⟨rfl, h⟩
      | some p =>
          exact ⟨rfl, settleProfile_own h _⟩

theorem serve_other (r : Request) (c : Cluster) {key : String} (h : key ≠ r.subject) :
    (c.serve r).2.part key = c.part key := by
  cases r with
  | applyNamespace name body =>
      change key ≠ nameRead name at h
      simp [serve, part, h]
  | applyPodDefault namespaceName name body =>
      change key ≠ nameRead namespaceName at h
      simp [serve, part, putPodDefault, h]
  | listPodDefaults namespaceName => rfl
  | deletePodDefault namespaceName name =>
      change key ≠ nameRead namespaceName at h
      simp only [serve]
      split
      · simp [part, dropPodDefault, h]
      · rfl
  | patchStatus profile status =>
      change key ≠ nameRead profile at h
      simp only [serve]
      split
      · split
        · simp [part, h]
        · rfl
      · rfl
  | patchFinalizers profile change =>
      simp only [serve]
      split
      · exact settleProfile_other c h _
      · rfl

theorem isLocal : Local serve (fun name => some (nameRead name)) part where
  ext c c' h := by
    have hprofiles : c.profiles = c'.profiles :=
      Dict.ext_get? fun key => congrArg Prod.fst (h key)
    have hnamespaces : c.namespaces = c'.namespaces :=
      Dict.ext_get? fun key => congrArg (·.2.1) (h key)
    have hpodDefaults : c.podDefaults = c'.podDefaults :=
      Dict.ext_get? fun key => congrArg (·.2.2) (h key)
    cases c
    cases c'
    congr
  reply r key hread c c' h := by
    obtain rfl : r.subject = key := r.subject_eq.trans (Option.some.inj hread)
    exact (serve_own r h).1
  own r key hread c c' h := by
    obtain rfl : r.subject = key := r.subject_eq.trans (Option.some.inj hread)
    exact (serve_own r h).2
  other r key hread c elsewhere h := by
    obtain rfl : r.subject = key := r.subject_eq.trans (Option.some.inj hread)
    exact serve_other r c h

end Api.Cluster

/-! ### Profiles -/

theorem Api.Request.IsWorkFor.place_eq {name : String} {r : Api.Request} (h : r.IsWorkFor name) :
    r.place = name := by
  rcases h with h | ⟨status, rfl⟩
  · cases r with
    | applyNamespace n body => exact h
    | applyPodDefault n m body => exact h.1
    | listPodDefaults n => exact h
    | deletePodDefault n m => exact h
    | patchStatus n status => exact absurd h id
    | patchFinalizers n change => exact absurd h id
  · rfl

theorem Profile.apply_isAbout (p : Profile) (now : Time.Instant) (templates : List Template) :
    (p.apply now templates).IsAbout p.name (Event.IsGroundworkFor p.name) :=
  (p.apply_within now templates).mono (fun _ h => h.place_eq) (fun _ h => h) fun _ _ => trivial

end ProfileOperator
