import ProfileOperator.Proofs.Reconcile.Convergence

/-!
# The scope of a pass

What a pass may ask for, what it may note on the way and how it may end, whatever the answers are that it
gets.  The scope of a composed pass is that of its parts, so it is read off the text of the pass, and
every run stays within it.  Applying a profile asks for nothing but what belongs to the profile.
-/

namespace ProfileOperator

namespace Pass

variable {σ ε ε' α β : Type} {asks : Api.Request -> Prop} {notes : Event -> Prop}

/-- Whatever the answers are, the pass asks, notes and ends as it is allowed to. -/
def Within (asks : Api.Request -> Prop) (notes : Event -> Prop) (ends : Except ε α -> Prop) :
    Pass ε α -> Prop
  | .done value => ends (.ok value)
  | .fail cause => ends (.error cause)
  | .note event rest => notes event ∧ rest.Within asks notes ends
  | .send request next => asks request ∧ ∀ reply, (next reply).Within asks notes ends

theorem Within.mono {asks' : Api.Request -> Prop} {notes' : Event -> Prop}
    {ends ends' : Except ε α -> Prop} {p : Pass ε α} (h : p.Within asks notes ends)
    (hasks : ∀ r, asks r -> asks' r) (hnotes : ∀ e, notes e -> notes' e)
    (hends : ∀ result, ends result -> ends' result) : p.Within asks' notes' ends' := by
  induction p with
  | done value => exact hends _ h
  | fail cause => exact hends _ h
  | note event rest ih => exact ⟨hnotes _ h.1, ih h.2⟩
  | send request next ih => exact ⟨hasks _ h.1, fun reply => ih reply (h.2 reply)⟩

/-! ### Composed passes -/

theorem Within.andThen {mid : Except ε α -> Prop} {ends : Except ε' β -> Prop} {p : Pass ε α}
    {f : Except ε α -> Pass ε' β} (hp : p.Within asks notes mid)
    (hf : ∀ result, mid result -> (f result).Within asks notes ends) :
    (p.andThen f).Within asks notes ends := by
  induction p with
  | done value => exact hf _ hp
  | fail cause => exact hf _ hp
  | note event rest ih => exact ⟨hp.1, ih hp.2⟩
  | send request next ih => exact ⟨hp.1, fun reply => ih reply (hp.2 reply)⟩

theorem Within.bind {mid : Except ε α -> Prop} {ends : Except ε β -> Prop} {p : Pass ε α}
    {f : α -> Pass ε β} (hp : p.Within asks notes mid)
    (hok : ∀ v, mid (.ok v) -> (f v).Within asks notes ends)
    (herror : ∀ e, mid (.error e) -> ends (.error e)) : (p.bind f).Within asks notes ends := by
  rw [bind_eq_andThen]
  refine hp.andThen fun result hresult => ?_
  cases result with
  | ok v => exact hok v hresult
  | error e => exact herror e hresult

theorem Within.mapError {mid : Except ε α -> Prop} {ends : Except ε' α -> Prop} {p : Pass ε α}
    {g : ε -> ε'} (hp : p.Within asks notes mid) (hok : ∀ v, mid (.ok v) -> ends (.ok v))
    (herror : ∀ e, mid (.error e) -> ends (.error (g e))) :
    (p.mapError g).Within asks notes ends := by
  refine hp.andThen fun result hresult => ?_
  cases result with
  | ok v => exact hok v hresult
  | error e => exact herror e hresult

theorem within_ask {r : Api.Request} (hasks : asks r) : (ask r).Within asks notes fun _ => True := by
  unfold ask
  cases r.obstacle? with
  | some e => exact trivial
  | none =>
      refine ⟨hasks, fun reply => ?_⟩
      cases reply with
      | ok v => exact trivial
      | error e => exact trivial

theorem within_request {r : Api.Request} {purpose : Purpose} {ends : Except Failure r.Reply -> Prop}
    (hasks : asks r) (hok : ∀ v, ends (.ok v))
    (herror : ∀ e, ends (.error (.request purpose e))) :
    (request purpose r).Within asks notes ends :=
  Within.mapError (within_ask hasks) (fun v _ => hok v) fun e _ => herror e

/-! ### Runs stay within the scope -/

variable {ends : Except ε α -> Prop} {p : Pass ε α}

theorem Within.result (h : p.Within asks notes ends) (serve : Handler σ) (s : σ) :
    ends (p.run serve s).result := by
  induction p generalizing s with
  | done value => exact h
  | fail cause => exact h
  | note event rest ih => exact ih h.2 s
  | send request next ih => exact ih _ (h.2 _) _

theorem Within.asks_of_mem (h : p.Within asks notes ends) {serve : Handler σ} {s : σ}
    {x : Exchange σ} (hx : x ∈ p.exchanges serve s) : asks x.request := by
  induction p generalizing s with
  | done value => exact absurd hx List.not_mem_nil
  | fail cause => exact absurd hx List.not_mem_nil
  | note event rest ih => exact ih h.2 hx
  | send request next ih =>
      rcases List.mem_cons.1 hx with rfl | hx
      · exact h.1
      · exact ih _ (h.2 _) hx

end Pass

/-! ### Applying a profile -/

/--
The request prepares the ground for the profile of a name: it is about the namespace of the name or about
a PodDefault in it.
-/
def Api.Request.IsGroundworkFor (name : String) : Api.Request -> Prop
  | .applyNamespace n _ => n = name
  | .applyPodDefault n _ body => n = name ∧ body.metadata.namespaceName = some name
  | .listPodDefaults n => n = name
  | .deletePodDefault n _ => n = name
  | .patchStatus .. => False
  | .patchFinalizers .. => False

/-- What is noted is a log line or the measure of how much is in place for the profile of a name. -/
def Event.IsGroundworkFor (name : String) : Event -> Prop
  | .log .. => True
  | .measure (.applied profile _) => profile = name
  | .measure _ => False

/-- It ended well or because a request failed. -/
def EndsByRequests {α : Type} : Except Failure α -> Prop
  | .ok _ => True
  | .error cause => cause.isOfRequest = true

open Pass

/-- The pass prepares the ground for the profile of a name. -/
abbrev Pass.IsGroundworkFor {α : Type} (name : String) (ends : Except Failure α -> Prop)
    (p : Pass Failure α) : Prop :=
  p.Within (Api.Request.IsGroundworkFor name) (Event.IsGroundworkFor name) ends

section

variable {α β : Type} {name : String} {purpose : Purpose} {r : Api.Request}

theorem Pass.IsGroundworkFor.request_bind {f : r.Reply -> Pass Failure β}
    (hr : r.IsGroundworkFor name) (hf : ∀ v, (f v).IsGroundworkFor name EndsByRequests) :
    ((request purpose r).bind f).IsGroundworkFor name EndsByRequests := by
  have hrequest : (request purpose r).IsGroundworkFor name EndsByRequests :=
    within_request hr (fun _ => trivial) fun _ => rfl
  exact hrequest.bind (fun v _ => hf v) fun _ h => h

theorem Pass.IsGroundworkFor.turn {event : Event} {rest : Pass Failure α} {g : α -> β}
    (hr : r.IsGroundworkFor name) (hevent : event.IsGroundworkFor name)
    (hrest : rest.IsGroundworkFor name EndsByRequests) :
    (turn purpose r event rest g).IsGroundworkFor name EndsByRequests := by
  have hturns : (rest.bind fun v => .done (g v)).IsGroundworkFor name EndsByRequests :=
    Within.bind hrest (fun _ _ => trivial) fun _ h => h
  exact request_bind hr fun _ => ⟨hevent, hturns⟩

end

theorem deletePodDefaults_isGroundworkFor (name : String) (stale : List String) :
    (deletePodDefaults name stale).IsGroundworkFor name EndsByRequests := by
  induction stale with
  | nil => exact trivial
  | cons other rest ih =>
      rw [deletePodDefaults_cons]
      exact Pass.IsGroundworkFor.turn rfl trivial ih

theorem prunePodDefaults_isGroundworkFor (name : String) (keep : List String) :
    (prunePodDefaults name keep).IsGroundworkFor name EndsByRequests := by
  rw [prunePodDefaults_eq]
  exact Pass.IsGroundworkFor.request_bind rfl fun found => deletePodDefaults_isGroundworkFor name _

namespace Profile

theorem applyTemplates_isGroundworkFor (p : Profile) (templates : List Template) :
    (p.applyTemplates p.name templates).IsGroundworkFor p.name EndsByRequests := by
  induction templates with
  | nil => exact trivial
  | cons t rest ih =>
      rw [applyTemplates_cons]
      exact Pass.IsGroundworkFor.turn ⟨rfl, rfl⟩ trivial ih

theorem reconcilePodDefaults_isGroundworkFor (p : Profile) (templates : List Template) :
    (p.reconcilePodDefaults p.name templates).IsGroundworkFor p.name EndsByRequests := by
  rw [reconcilePodDefaults_eq]
  refine (p.applyTemplates_isGroundworkFor templates).bind (fun applied _ => ?_) fun _ h => h
  exact (prunePodDefaults_isGroundworkFor p.name applied).bind (fun _ _ => ⟨trivial, trivial⟩)
    fun _ h => h

/-! ### The two parts of applying -/

/-- Everything that applying a profile does before it records the result. -/
def groundwork (p : Profile) (templates : List Template) : Pass Failure (List String) :=
  .note (.log .info ("Applying Profile " ++ p.name))
    ((Pass.ofExcept (p.validate.mapError .validation)).bind fun _ =>
      (request .applyNamespace (.applyNamespace p.name p.desiredNamespace)).bind fun _ =>
        .note (.log .info ("Reconciled Namespace " ++ p.name))
          ((p.reconcilePodDefaults p.name templates).bind fun applied =>
            .note (.measure (.applied p.name applied.length)) (.done applied)))

/-- The last part of applying a profile: the result is recorded in the status. -/
def conclusion (p : Profile) (now : Time.Instant) (applied : List String) : Pass Failure Requeue :=
  (request .updateStatus (.patchStatus p.name (p.readyStatus now applied))).bind fun _ =>
    .note (.log .info ("Updated status for profile " ++ p.name)) (.done (.after resyncSeconds))

theorem apply_eq (p : Profile) (now : Time.Instant) (templates : List Template) :
    p.apply now templates = (p.groundwork templates).bind (p.conclusion now) := by
  change Pass.note _ ((Pass.ofExcept _).bind fun _ =>
    ((request .applyNamespace _).bind fun _ => Pass.note _ (Pass.done _)).bind fun namespaceName =>
      (p.reconcilePodDefaults namespaceName templates).bind fun applied => Pass.note _
        (((request .updateStatus _).bind fun _ => Pass.note _ (Pass.done ())).bind fun _ =>
          Pass.done _)) = _
  simp only [groundwork, conclusion, Pass.bind, bind_assoc]

/-- Applying may fail for this: a request failed, or the profile is not valid. -/
def MayFailFor (p : Profile) : Failure -> Prop
  | .request _ _ => True
  | .validation cause => p.validate = .error cause
  | _ => False

def ApplyEnds {α : Type} (p : Profile) : Except Failure α -> Prop
  | .ok _ => True
  | .error cause => p.MayFailFor cause

theorem ApplyEnds.of_requests {α : Type} {p : Profile} {result : Except Failure α}
    (h : EndsByRequests result) : p.ApplyEnds result := by
  cases result with
  | ok v => exact trivial
  | error cause =>
      cases cause with
      | request purpose e => exact trivial
      | config e => cases h
      | validation e => cases h
      | flag e => cases h
      | guarded e => cases h

theorem groundwork_isGroundworkFor (p : Profile) (templates : List Template) :
    (p.groundwork templates).IsGroundworkFor p.name p.ApplyEnds := by
  refine ⟨trivial, ?_⟩
  cases hvalid : p.validate with
  | error cause => exact hvalid
  | ok _ =>
      have hwork : ((request .applyNamespace (.applyNamespace p.name p.desiredNamespace)).bind
          fun _ => .note (.log .info ("Reconciled Namespace " ++ p.name))
            ((p.reconcilePodDefaults p.name templates).bind fun applied =>
              .note (.measure (.applied p.name applied.length))
                (.done applied))).IsGroundworkFor p.name EndsByRequests := by
        refine Pass.IsGroundworkFor.request_bind rfl fun _ => ⟨trivial, ?_⟩
        exact (p.reconcilePodDefaults_isGroundworkFor templates).bind
          (fun _ _ => ⟨rfl, trivial⟩) fun _ h => h
      exact hwork.mono (fun _ h => h) (fun _ h => h) fun _ h => ApplyEnds.of_requests h

end Profile

/-- The request is work for the profile of a name: groundwork, or the record in the status. -/
def Api.Request.IsWorkFor (name : String) (r : Api.Request) : Prop :=
  r.IsGroundworkFor name ∨ ∃ status, r = .patchStatus name status

namespace Profile

theorem conclusion_within (p : Profile) (now : Time.Instant) (applied : List String) :
    (p.conclusion now applied).Within (Api.Request.IsWorkFor p.name)
      (Event.IsGroundworkFor p.name) p.ApplyEnds := by
  have hrequest : (request .updateStatus (.patchStatus p.name (p.readyStatus now applied))).Within
      (Api.Request.IsWorkFor p.name) (Event.IsGroundworkFor p.name) p.ApplyEnds :=
    within_request (Or.inr ⟨_, rfl⟩) (fun _ => trivial) fun _ => trivial
  exact hrequest.bind (fun _ _ => ⟨trivial, trivial⟩) fun _ h => h

/-- Applying a profile is work for the profile, and it fails by a request or by the check alone. -/
theorem apply_within (p : Profile) (now : Time.Instant) (templates : List Template) :
    (p.apply now templates).Within (Api.Request.IsWorkFor p.name) (Event.IsGroundworkFor p.name)
      p.ApplyEnds := by
  rw [apply_eq]
  have hground : (p.groundwork templates).Within (Api.Request.IsWorkFor p.name)
      (Event.IsGroundworkFor p.name) p.ApplyEnds :=
    (p.groundwork_isGroundworkFor templates).mono (fun _ h => Or.inl h) (fun _ h => h) fun _ h => h
  exact hground.bind (fun applied _ => p.conclusion_within now applied) fun _ h => h

end Profile

end ProfileOperator
