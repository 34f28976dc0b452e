import ProfileOperator.Proofs.Reconcile.Interruption
import ProfileOperator.Proofs.Reconcile.Scope

/-!
# Rejected requests

A server may reject any requests of a run, by their position in it, and does nothing for those.  Applying a
profile ends at the first rejection: up to there it is the run without rejections.  So the status, which
comes last, is only written once everything in front of it has been answered.
-/

namespace ProfileOperator

open Pass

variable {σ : Type} {serve : Handler σ}

/-- What the requests of a run are rejected with, by their position in the run. -/
abbrev Rejections := Nat -> Option Api.ClientError

/-- The server counts the requests and does nothing for those that it rejects. -/
def Handler.rejecting (serve : Handler σ) (rejections : Rejections) : Handler (σ × Nat) :=
  fun (s, n) r =>
    match rejections n with
    | some e => (.error e, (s, n + 1))
    | none => ((serve s r).1, ((serve s r).2, n + 1))

theorem rejecting_of_some {rejections : Rejections} {n : Nat} {e : Api.ClientError}
    (h : rejections n = some e) (s : σ) (r : Api.Request) :
    serve.rejecting rejections (s, n) r = (.error e, (s, n + 1)) := by
  simp only [Handler.rejecting, h]

theorem rejecting_of_none {rejections : Rejections} {n : Nat} (h : rejections n = none) (s : σ)
    (r : Api.Request) :
    serve.rejecting rejections (s, n) r = ((serve s r).1, ((serve s r).2, n + 1)) := by
  simp only [Handler.rejecting, h]

theorem rejecting_state (serve : Handler σ) (rejections : Rejections) (x : σ × Nat) (r : Api.Request) :
    (serve.rejecting rejections x r).2.1 = x.1 ∨
      (serve.rejecting rejections x r).2.1 = (serve x.1 r).2 := by
  cases hrejected : rejections x.2 with
  | some e => exact Or.inl (by rw [rejecting_of_some hrejected])
  | none => exact Or.inr (by rw [rejecting_of_none hrejected])

/-! ### Passes that end at a failed request -/

namespace Pass

variable {α β : Type}

/-- The pass fails for the first of its requests that fails, and does nothing more. -/
def FailsFast : Pass Failure α -> Prop
  | .done _ => True
  | .fail _ => True
  | .note _ rest => rest.FailsFast
  | .send _ next =>
      (∀ e, ∃ purpose, next (.error e) = .fail (.request purpose e)) ∧
        ∀ v, (next (.ok v)).FailsFast

theorem FailsFast.bind {p : Pass Failure α} {f : α -> Pass Failure β} (hp : p.FailsFast)
    (hf : ∀ v, (f v).FailsFast) : (p.bind f).FailsFast := by
  induction p with
  | done value => exact hf value
  | fail cause => exact trivial
  | note event rest ih => exact ih hp
  | send request next ih =>
      refine ⟨fun e => ?_, fun v => ih (.ok v) (hp.2 v)⟩
      obtain ⟨purpose, hfail⟩ := hp.1 e
      refine ⟨purpose, ?_⟩
      change (next (.error e)).bind f = _
      rw [hfail, Pass.bind]

theorem failsFast_request (purpose : Purpose) (r : Api.Request) :
    (request purpose r).FailsFast := by
  unfold request ask
  cases r.obstacle? with
  | some e => exact trivial
  | none => exact ⟨fun e => ⟨purpose, rfl⟩, fun v => trivial⟩

theorem FailsFast.turn {purpose : Purpose} {r : Api.Request} {event : Event} {rest : Pass Failure α}
    {g : α -> β} (hrest : rest.FailsFast) : (turn purpose r event rest g).FailsFast :=
  (failsFast_request purpose r).bind fun _ => FailsFast.bind hrest fun _ => trivial

/-- Up to the first rejection the run is that without rejections, and there it ends. -/
theorem FailsFast.run_rejecting {p : Pass Failure α} (hp : p.FailsFast) {rejections : Rejections}
    {e : Api.ClientError} {k n : Nat} {s : σ} (hk : k < (p.exchanges serve s).length)
    (hbefore : ∀ j < k, rejections (n + j) = none) (hrejected : rejections (n + k) = some e) :
    let rejected := p.run (serve.rejecting rejections) (s, n)
    Step.requests rejected.steps = ((p.exchanges serve s).map Exchange.request).take (k + 1) ∧
      (p.moments serve s)[k]? = some rejected.state.1 ∧
      ∃ purpose, rejected.result = .error (.request purpose e) := by
  induction p generalizing k n s with
  | done value => exact absurd hk (Nat.not_lt_zero k)
  | fail cause => exact absurd hk (Nat.not_lt_zero k)
  | note event rest ih => exact ih hp hk hbefore hrejected
  | send request next ih =>
      cases k with
      | zero =>
          have hfirst : serve.rejecting rejections (s, n) request = (.error e, (s, n + 1)) :=
            rejecting_of_some hrejected s request
          obtain ⟨purpose, hfail⟩ := hp.1 e
          rw [run, hfirst]
          dsimp only
          rw [hfail]
          exact ⟨rfl, rfl, purpose, rfl⟩
      | succ k =>
          have hfirst : serve.rejecting rejections (s, n) request =
              ((serve s request).1, ((serve s request).2, n + 1)) :=
            rejecting_of_none (hbefore 0 k.succ_pos) s request
          have hk' := Nat.lt_of_succ_lt_succ hk
          rw [run, hfirst, exchanges, moments, exchanges]
          dsimp only
          cases hreply : (serve s request).1 with
          | error e' =>
              -- The run without rejections ends here itself.
              obtain ⟨purpose, hfail⟩ := hp.1 e'
              rw [hreply, hfail] at hk'
              exact absurd hk' (Nat.not_lt_zero k)
          | ok v =>
              rw [hreply] at hk'
              have hlater : ∀ j < k, rejections (n + 1 + j) = none := by
                intro j hj
                rw [Nat.add_right_comm]
                exact hbefore (j + 1) (Nat.succ_lt_succ hj)
              have hat : rejections (n + 1 + k) = some e := by
                rw [Nat.add_right_comm]
                exact hrejected
              obtain ⟨hrequests, hstate, hresult⟩ := ih (.ok v) (hp.2 v) hk' hlater hat
              exact ⟨congrArg (request :: ·) hrequests, hstate, hresult⟩

theorem moments_bind_getElem? {ε β : Type} {p : Pass ε α} {f : α -> Pass ε β} {s : σ} {k : Nat}
    (hk : k ≤ (p.exchanges serve s).length) :
    ((p.bind f).moments serve s)[k]? = (p.moments serve s)[k]? := by
  have hlength : k < (p.moments serve s).length := by
    rw [moments, List.length_cons, List.length_map]
    exact Nat.lt_succ_of_le hk
  rw [moments, exchanges_bind, List.map_append, ← List.cons_append]
  exact List.getElem?_append_left hlength

end Pass

namespace Profile

theorem applyTemplates_failsFast (p : Profile) (ns : String) (templates : List Template) :
    (p.applyTemplates ns templates).FailsFast := by
  induction templates with
  | nil => exact trivial
  | cons t rest ih =>
      rw [applyTemplates_cons]
      exact FailsFast.turn ih

end Profile

theorem deletePodDefaults_failsFast (ns : String) (names : List String) :
    (deletePodDefaults ns names).FailsFast := by
  induction names with
  | nil => exact trivial
  | cons name rest ih =>
      rw [deletePodDefaults_cons]
      exact FailsFast.turn ih

namespace Profile

theorem reconcilePodDefaults_failsFast (p : Profile) (ns : String) (templates : List Template) :
    (p.reconcilePodDefaults ns templates).FailsFast := by
  rw [reconcilePodDefaults_eq]
  refine (p.applyTemplates_failsFast ns templates).bind fun applied => FailsFast.bind ?_ fun _ => trivial
  rw [prunePodDefaults_eq]
  exact (failsFast_request _ _).bind fun found => deletePodDefaults_failsFast ns _

theorem groundwork_failsFast (p : Profile) (templates : List Template) :
    (p.groundwork templates).FailsFast := by
  unfold groundwork
  cases p.validate with
  | error cause => exact trivial
  | ok _ =>
      refine (failsFast_request _ _).bind fun _ => ?_
      exact (p.reconcilePodDefaults_failsFast p.name templates).bind fun _ => trivial

theorem apply_failsFast (p : Profile) (now : Time.Instant) (templates : List Template) :
    (p.apply now templates).FailsFast := by
  rw [apply_eq]
  refine (p.groundwork_failsFast templates).bind fun applied => ?_
  exact (failsFast_request _ _).bind fun _ => trivial

end Profile

/-! ### The time stamps of the status -/

def ProfileStatus.stampedAt (now : Time.Instant) (status : ProfileStatus) : ProfileStatus where
  conditions := status.conditions.map fun c => { c with lastTransitionTime := some now }

/-- The request as it is sent at a point in time: that only shows in the stamps of a status. -/
def Api.Request.stampedAt (now : Time.Instant) : Api.Request -> Api.Request
  | .patchStatus profile status => .patchStatus profile (status.stampedAt now)
  | r => r

theorem Api.Request.stampedAt_of_isGroundworkFor {name : String} {r : Api.Request}
    (h : r.IsGroundworkFor name) (now : Time.Instant) : r.stampedAt now = r := by
  cases r with
  | patchStatus profile status => exact absurd h id
  | _ => rfl

namespace Profile

def statusExchange (serve : Handler σ) (p : Profile) (now : Time.Instant) (applied : List String)
    (s : σ) : Exchange σ :=
  let r : Api.Request := .patchStatus p.name (p.readyStatus now applied)
  { before := s, request := r, reply := (serve s r).1, after := (serve s r).2 }

theorem exchanges_conclusion (serve : Handler σ) (p : Profile) (applied : List String) :
    (∀ now s, (p.conclusion now applied).exchanges serve s = []) ∨
      ∀ now s, (p.conclusion now applied).exchanges serve s =
        [p.statusExchange serve now applied s] := by
  cases hobstacle : (Api.Request.patchStatus p.name {}).obstacle? with
  | some e =>
      refine Or.inl fun now s => ?_
      have hblocked : (Api.Request.patchStatus p.name (p.readyStatus now applied)).obstacle? =
          some e := hobstacle
      rw [conclusion, request_bind_blocked hblocked]
      rfl
  | none =>
      refine Or.inr fun now s => ?_
      have hsent : (Api.Request.patchStatus p.name (p.readyStatus now applied)).obstacle? = none :=
        hobstacle
      rw [conclusion, request_bind_sent hsent, exchanges, statusExchange]
      cases (serve s _).1 with
      | error e => rfl
      | ok v => rfl

/-- What applying exchanges: the groundwork, and behind it the status where that can be sent. -/
theorem exchanges_apply (serve : Handler σ) (p : Profile) (templates : List Template) (s : σ) :
    (∀ now, (p.apply now templates).exchanges serve s = (p.groundwork templates).exchanges serve s) ∨
      ∃ applied, ((p.groundwork templates).run serve s).result = .ok applied ∧
        ∀ now, (p.apply now templates).exchanges serve s =
          (p.groundwork templates).exchanges serve s ++
            [p.statusExchange serve now applied ((p.groundwork templates).run serve s).state] := by
  simp only [apply_eq, exchanges_bind]
  cases hresult : ((p.groundwork templates).run serve s).result with
  | error cause => exact Or.inl fun now => List.append_nil _
  | ok applied =>
      rcases exchanges_conclusion serve p applied with hnone | hone
      · refine Or.inl fun now => ?_
        dsimp only
        rw [hnone, List.append_nil]
      · refine Or.inr ⟨applied, rfl, fun now => ?_⟩
        dsimp only
        rw [hone]

theorem requests_apply_stampedAt (serve : Handler σ) (p : Profile) (now now' : Time.Instant)
    (templates : List Template) (s : σ) :
    ((p.apply now' templates).exchanges serve s).map Exchange.request =
      (((p.apply now templates).exchanges serve s).map Exchange.request).map
        (Api.Request.stampedAt now') := by
  have hground : ((p.groundwork templates).exchanges serve s).map Exchange.request =
      (((p.groundwork templates).exchanges serve s).map Exchange.request).map
        (Api.Request.stampedAt now') := by
    rw [List.map_map]
    refine List.map_congr_left fun x hx => ?_
    have hx := (p.groundwork_isGroundworkFor templates).asks_of_mem hx
    exact (Api.Request.stampedAt_of_isGroundworkFor hx now').symm
  rcases exchanges_apply serve p templates s with hall | ⟨applied, _, hall⟩
  · rw [hall now', hall now]
    exact hground
  · simp only [hall now', hall now, List.map_append]
    exact congrArg (· ++ _) hground

theorem moments_apply_getElem? (serve : Handler σ) (p : Profile) (now now' : Time.Instant)
    (templates : List Template) (s : σ) {k : Nat}
    (hk : k < ((p.apply now templates).exchanges serve s).length) :
    ((p.apply now' templates).moments serve s)[k]? =
      ((p.apply now templates).moments serve s)[k]? := by
  have hground : k ≤ ((p.groundwork templates).exchanges serve s).length := by
    rcases exchanges_apply serve p templates s with hall | ⟨applied, _, hall⟩
    · rw [hall now] at hk
      exact Nat.le_of_lt hk
    · rw [hall now, List.length_append] at hk
      exact Nat.lt_succ_iff.1 hk
  rw [apply_eq, apply_eq, moments_bind_getElem? hground, moments_bind_getElem? hground]

end Profile

/-! ### What comes before the status -/

theorem deletePodDefaults_ok {ns : String} {names : List String} {s : σ} {count : Nat}
    (h : ((deletePodDefaults ns names).run serve s).result = .ok count) :
    List.Forall₂ (fun x name => Exchange.Answers x (.deletePodDefault ns name) ())
      ((deletePodDefaults ns names).exchanges serve s) names := by
  induction names generalizing s count with
  | nil => exact List.Forall₂.nil
  | cons name rest ih =>
      rw [deletePodDefaults_cons] at h ⊢
      obtain ⟨v, a, _, hrest, _, hexchanges⟩ := turn_ok h
      rw [hexchanges]
      exact List.Forall₂.cons rfl (ih hrest)

/-- The exchanges are an answered list and then a deletion of each stale name in it. -/
def Prunes (ns : String) (keep : List String) (xs : List (Exchange σ)) : Prop :=
  ∃ list found deletes, xs = list :: deletes ∧ Exchange.Answers list (.listPodDefaults ns) found ∧
    List.Forall₂ (fun x name => Exchange.Answers x (.deletePodDefault ns name) ()) deletes
      (staleNames keep found)

theorem prunePodDefaults_ok {ns : String} {keep : List String} {s : σ} {count : Nat}
    (h : ((prunePodDefaults ns keep).run serve s).result = .ok count) :
    Prunes ns keep ((prunePodDefaults ns keep).exchanges serve s) := by
  rw [prunePodDefaults_eq] at h ⊢
  obtain ⟨found, hgo, hdeletes⟩ := request_bind_ok h
  exact ⟨_, found, _, hgo.exchanges, rfl, deletePodDefaults_ok hdeletes⟩

namespace Profile

theorem reconcilePodDefaults_ok (p : Profile) {ns : String} {templates : List Template} {s : σ}
    {applied : List String}
    (h : ((p.reconcilePodDefaults ns templates).run serve s).result = .ok applied) :
    applied = templates.map Template.name ∧
      ∃ applies prunes, (p.reconcilePodDefaults ns templates).exchanges serve s = applies ++ prunes ∧
        List.Forall₂ (fun x t => Exchange.Answers x (.applyPodDefault ns t.name (t.desired p)) ())
          applies templates ∧
        Prunes ns (templates.map Template.name) prunes := by
  rw [reconcilePodDefaults_eq] at h ⊢
  obtain ⟨names, happlies, hrest, hexchanges⟩ := bind_ok h
  obtain ⟨rfl, hall⟩ := p.applyTemplates_ok happlies
  obtain ⟨pruned, hprunes, hdone, hexchanges'⟩ := bind_ok hrest
  cases hdone
  refine ⟨rfl, _, _, hexchanges, hall, ?_⟩
  rw [hexchanges', Pass.exchanges, Pass.exchanges, List.append_nil]
  exact prunePodDefaults_ok hprunes

/--
All that makes a profile ready was asked for and answered: its namespace, every template, the list of the
managed PodDefaults, and the deletion of those in it that no template names.
-/
def PreparedBy (p : Profile) (templates : List Template) (xs : List (Exchange σ)) : Prop :=
  ∃ space applies prunes, xs = space :: (applies ++ prunes) ∧
    Exchange.Answers space (.applyNamespace p.name p.desiredNamespace) () ∧
    List.Forall₂ (fun x t => Exchange.Answers x (.applyPodDefault p.name t.name (t.desired p)) ())
      applies templates ∧
    Prunes p.name (templates.map Template.name) prunes

theorem groundwork_of_invalid {p : Profile} {cause : ValidationError}
    (h : p.validate = .error cause) (templates : List Template) :
    p.groundwork templates =
      .note (.log .info ("Applying Profile " ++ p.name)) (.fail (.validation cause)) := by
  rw [groundwork, h]
  rfl

theorem groundwork_of_valid {p : Profile} (h : p.validate = .ok ()) (templates : List Template) :
    p.groundwork templates = .note (.log .info ("Applying Profile " ++ p.name))
      ((request .applyNamespace (.applyNamespace p.name p.desiredNamespace)).bind fun _ =>
        .note (.log .info ("Reconciled Namespace " ++ p.name))
          ((p.reconcilePodDefaults p.name templates).bind fun applied =>
            .note (.measure (.applied p.name applied.length)) (.done applied))) := by
  rw [groundwork, h]
  rfl

theorem groundwork_ok (p : Profile) {templates : List Template} {s : σ} {applied : List String}
    (h : ((p.groundwork templates).run serve s).result = .ok applied) :
    applied = templates.map Template.name ∧
      p.PreparedBy templates ((p.groundwork templates).exchanges serve s) := by
  cases hvalid : p.validate with
  | error cause =>
      rw [groundwork_of_invalid hvalid] at h
      cases h
  | ok _ =>
      rw [groundwork_of_valid hvalid] at h ⊢
      obtain ⟨v, hgo, hwork⟩ := request_bind_ok h
      obtain ⟨names, hdefaults, hdone, hexchanges⟩ := bind_ok hwork
      cases hdone
      obtain ⟨happlied, applies, prunes, hsplit, hall, hprunes⟩ := p.reconcilePodDefaults_ok hdefaults
      let space : Exchange σ := {
        before := s, request := .applyNamespace p.name p.desiredNamespace, reply := .ok v
        after := (serve s (.applyNamespace p.name p.desiredNamespace)).2 }
      refine ⟨happlied, space, applies, prunes, ?_, rfl, hall, hprunes⟩
      rw [Pass.exchanges, hgo.exchanges, Pass.exchanges, hexchanges, Pass.exchanges, Pass.exchanges,
        List.append_nil, hsplit]

/-- A PodDefault is applied behind the answered apply of the namespace. -/
theorem namespace_before_podDefault (p : Profile) {templates : List Template} {s : σ} {x : Exchange σ}
    (hx : x ∈ (p.groundwork templates).exchanges serve s) {ns name : String} {body : PodDefault}
    (hrequest : x.request = .applyPodDefault ns name body) :
    ∃ space rest, (p.groundwork templates).exchanges serve s = space :: rest ∧ x ∈ rest ∧
      Exchange.Answers space (.applyNamespace p.name p.desiredNamespace) () := by
  cases hvalid : p.validate with
  | error cause =>
      rw [groundwork_of_invalid hvalid] at hx
      exact absurd hx List.not_mem_nil
  | ok _ =>
      rw [groundwork_of_valid hvalid, Pass.exchanges] at hx ⊢
      rcases request_bind_cases serve _ _ s with ⟨e, hfail⟩ | ⟨e, hends⟩ | ⟨v, hgo⟩
      · rw [hfail] at hx
        exact absurd hx List.not_mem_nil
      · rw [hends.exchanges, List.mem_singleton] at hx
        subst hx
        cases hrequest
      · rw [hgo.exchanges] at hx ⊢
        rcases List.mem_cons.1 hx with rfl | hx
        · cases hrequest
        · exact ⟨_, _, rfl, hx, rfl⟩

/-- The status is sent once, last, and with everything in front of it answered. -/
theorem prepared_before_status (p : Profile) (now : Time.Instant) {templates : List Template} {s : σ}
    {x : Exchange σ} (hx : x ∈ (p.apply now templates).exchanges serve s) {name : String}
    {status : ProfileStatus} (hrequest : x.request = .patchStatus name status) :
    name = p.name ∧ status = p.readyStatus now (templates.map Template.name) ∧
      ∃ before, (p.apply now templates).exchanges serve s = before ++ [x] ∧
        p.PreparedBy templates before := by
  have hground : x ∉ (p.groundwork templates).exchanges serve s := by
    intro hin
    have hasks := (p.groundwork_isGroundworkFor templates).asks_of_mem hin
    rw [hrequest] at hasks
    exact hasks
  rcases exchanges_apply serve p templates s with hall | ⟨applied, hresult, hall⟩
  · rw [hall] at hx
    exact absurd hx hground
  · obtain ⟨rfl, hprepared⟩ := p.groundwork_ok hresult
    rw [hall] at hx ⊢
    rcases List.mem_append.1 hx with hin | hlast
    · exact absurd hin hground
    · rw [List.mem_singleton] at hlast
      subst hlast
      cases hrequest
      exact ⟨rfl, rfl, _, rfl, hprepared⟩

/-- Every PodDefault goes to the namespace that was applied before it, and says so itself. -/
theorem podDefault_in_applied_namespace (p : Profile) (now : Time.Instant) {templates : List Template}
    {s : σ} {x : Exchange σ} (hx : x ∈ (p.apply now templates).exchanges serve s) {ns name : String}
    {body : PodDefault} (hrequest : x.request = .applyPodDefault ns name body) :
    body.metadata.namespaceName = some ns ∧
      ∃ space rest, (p.apply now templates).exchanges serve s = space :: rest ∧ x ∈ rest ∧
        Exchange.Answers space (.applyNamespace ns p.desiredNamespace) () := by
  have hground : x ∈ (p.groundwork templates).exchanges serve s := by
    rcases exchanges_apply serve p templates s with hall | ⟨applied, _, hall⟩
    · rw [← hall now]
      exact hx
    · rw [hall] at hx
      rcases List.mem_append.1 hx with hin | hlast
      · exact hin
      · rw [List.mem_singleton] at hlast
        subst hlast
        cases hrequest
  have hasks := (p.groundwork_isGroundworkFor templates).asks_of_mem hground
  rw [hrequest] at hasks
  obtain ⟨rfl, hbody⟩ := hasks
  obtain ⟨space, rest, hsplit, hrest, hanswers⟩ := p.namespace_before_podDefault hground hrequest
  refine ⟨hbody, space, ?_⟩
  rcases exchanges_apply serve p templates s with hall | ⟨applied, _, hall⟩
  · exact ⟨rest, by rw [hall, hsplit], hrest, hanswers⟩
  · rw [hall, hsplit, List.cons_append]
    exact ⟨_, rfl, List.mem_append_left _ hrest, hanswers⟩

theorem run_apply_of_invalid (serve : Handler σ) {p : Profile} {cause : ValidationError}
    (h : p.validate = .error cause) (now : Time.Instant) (templates : List Template) (s : σ) :
    (p.apply now templates).run serve s =
      { result := .error (.validation cause)
        steps := [.event (.log .info ("Applying Profile " ++ p.name))]
        state := s } := by
  rw [apply_eq, groundwork_of_invalid h]
  rfl

end Profile

/--
Applying a profile stops at the first request that the server rejects: up to there it is the run without
rejections, but for the time stamps, and the rejection is its failure.  A profile that is not valid asks
for nothing.  So the status is only sent behind everything that it reports as done, and every PodDefault
goes to the namespace that was applied before it.
-/
theorem apply_stops_at_rejection (serve : Handler σ) (p : Profile) (now : Time.Instant)
    (templates : List Template) (s : σ) :
    let pass := p.apply now templates
    let free := pass.run serve s
    (∀ (now' : Time.Instant) (rejections : Rejections) (k : Nat) (e : Api.ClientError),
      k < (Step.requests free.steps).length -> (∀ j < k, rejections j = none) ->
      rejections k = some e ->
        let rejected := (p.apply now' templates).run (serve.rejecting rejections) (s, 0)
        Step.requests rejected.steps =
          ((Step.requests free.steps).take (k + 1)).map (Api.Request.stampedAt now') ∧
        (pass.moments serve s)[k]? = some rejected.state.1 ∧
        ∃ purpose, rejected.result = .error (.request purpose e)) ∧
    (∀ cause, p.validate = .error cause ->
      free.result = .error (.validation cause) ∧ Step.requests free.steps = [] ∧ free.state = s) ∧
    ∀ x ∈ pass.exchanges serve s,
      (∀ name status, x.request = .patchStatus name status ->
        name = p.name ∧ status = p.readyStatus now (templates.map Template.name) ∧
        ∃ before, pass.exchanges serve s = before ++ [x] ∧ p.PreparedBy templates before) ∧
      ∀ ns name body, x.request = .applyPodDefault ns name body ->
        body.metadata.namespaceName = some ns ∧
        ∃ space rest, pass.exchanges serve s = space :: rest ∧ x ∈ rest ∧
          Exchange.Answers space (.applyNamespace ns p.desiredNamespace) () := by
  intro pass free
  refine ⟨?_, ?_, ?_⟩
  · intro now' rejections k e hk hbefore hrejected rejected
    rw [requests_run, List.length_map] at hk
    have hrequests := p.requests_apply_stampedAt serve now now' templates s
    have hk' : k < ((p.apply now' templates).exchanges serve s).length := by
      rw [← List.length_map Exchange.request, hrequests, List.length_map, List.length_map]
      exact hk
    have hbefore' : ∀ j < k, rejections (0 + j) = none := by
      intro j hj
      rw [Nat.zero_add, hbefore j hj]
    have hrejected' : rejections (0 + k) = some e := by
      rw [Nat.zero_add, hrejected]
    obtain ⟨hsent, hstate, hresult⟩ :=
      (p.apply_failsFast now' templates).run_rejecting hk' hbefore' hrejected'
    refine ⟨?_, ?_, hresult⟩
    · rw [hsent, hrequests, requests_run, List.map_take]
    · rw [← p.moments_apply_getElem? serve now now' templates s hk]
      exact hstate
  · intro cause hinvalid
    have hrun := Profile.run_apply_of_invalid serve hinvalid now templates s
    exact ⟨congrArg Outcome.result hrun, congrArg (fun o => Step.requests o.steps) hrun,
      congrArg Outcome.state hrun⟩
  · intro x hx
    exact ⟨fun name status hrequest => p.prepared_before_status now hx hrequest,
      fun ns name body hrequest => p.podDefault_in_applied_namespace now hx hrequest⟩

/--
A namespace with one PodDefault of a template that is gone: its deletion is the fourth of five requests.
Where that is rejected, the status is not sent; where it is not, all five are.  Without an owner nothing is.
-/
theorem apply_stops_at_rejection_delete :
    ∃ (p unowned : Profile) (c : Api.Cluster) (now now' : Time.Instant) (rejections : Rejections)
      (e : Api.ClientError),
      let templates : List Template := [⟨"a", {}⟩]
      let pass := p.apply now templates
      let free := pass.run Api.Cluster.serve c
      let rejected :=
        (p.apply now' templates).run (Handler.rejecting Api.Cluster.serve rejections) (c, 0)
      (Step.requests free.steps).length = 5 ∧ rejections 3 = some e ∧
      Step.requests rejected.steps =
        ((Step.requests free.steps).take 4).map (Api.Request.stampedAt now') ∧
      (∃ purpose, rejected.result = .error (.request purpose e)) ∧
      (∃ x before, pass.exchanges Api.Cluster.serve c = before ++ [x] ∧
        p.PreparedBy templates before) ∧
      (∃ x space rest, pass.exchanges Api.Cluster.serve c = space :: rest ∧ x ∈ rest) ∧
      Step.requests ((unowned.apply now templates).run Api.Cluster.serve c).steps = [] := by
  let p : Profile := {
    metadata := { name := some "team" }, spec := { owner := some { kind := "User", name := "alice" } } }
  let unowned : Profile := { p with spec := { owner := none } }
  let stale : PodDefault := {
    metadata := { name := some "stale", labels := some managedLabels }, spec := { selector := {} } }
  let c : Api.Cluster := { podDefaults := .single "team" (.single "stale" stale) }
  let now : Time.Instant := {
    date := { year := 2024, month := 1, day := 1 }
    time := { hour := 0, minute := 0, second := 0, nanosecond := 0 } }
  let now' : Time.Instant := { now with date := { year := 2024, month := 1, day := 2 } }
  let e : Api.ClientError := .lost "connection refused"
  let rejections : Rejections := fun k => if k = 3 then some e else none
  let isPodDefault : Api.Request -> Bool
    | .applyPodDefault .. => true
    | _ => false
  let isStatus : Api.Request -> Bool
    | .patchStatus .. => true
    | _ => false
  let pass := p.apply now [⟨"a", {}⟩]
  let sent := Step.requests (pass.run Api.Cluster.serve c).steps
  obtain ⟨hrejected, _, hx⟩ :=
    apply_stops_at_rejection Api.Cluster.serve p now [⟨"a", {}⟩] c
  obtain ⟨_, hinvalid, _⟩ :=
    apply_stops_at_rejection Api.Cluster.serve unowned now [⟨"a", {}⟩] c
  have hkinds : sent.map (fun r => (isPodDefault r, isStatus r)) =
      [(false, false), (true, false), (false, false), (false, false), (false, true)] := by
    decide +kernel
  have hlength : sent.length = 5 := by
    rw [← List.length_map fun r => (isPodDefault r, isStatus r), hkinds]
    rfl
  have hexchange : ∀ kind ∈ sent.map (fun r => (isPodDefault r, isStatus r)),
      ∃ x ∈ pass.exchanges Api.Cluster.serve c, (isPodDefault x.request, isStatus x.request) = kind := by
    have hsent : sent = (pass.exchanges Api.Cluster.serve c).map Exchange.request :=
      requests_run Api.Cluster.serve pass c
    intro kind hkind
    rw [hsent, List.map_map] at hkind
    exact List.mem_map.1 hkind
  rw [hkinds] at hexchange
  obtain ⟨hrequests, _, hresult⟩ :=
    hrejected now' rejections 3 e (hlength ▸ (by decide : 3 < 5)) (by decide) rfl
  refine ⟨p, unowned, c, now, now', rejections, e, hlength, rfl, hrequests, hresult, ?_, ?_,
    (hinvalid .ownerMissing rfl).2.1⟩
  · obtain ⟨x, hmem, hkind⟩ := hexchange (false, true) (by decide)
    cases hrequest : x.request with
    | patchStatus name status =>
        obtain ⟨_, _, before, hsplit, hprepared⟩ := (hx x hmem).1 name status hrequest
        exact ⟨x, before, hsplit, hprepared⟩
    | _ =>
        rw [hrequest] at hkind
        cases hkind
  · obtain ⟨x, hmem, hkind⟩ := hexchange (true, false) (by decide)
    cases hrequest : x.request with
    | applyPodDefault ns name body =>
        obtain ⟨_, space, rest, hsplit, hrest, _⟩ := (hx x hmem).2 ns name body hrequest
        exact ⟨x, space, rest, hsplit, hrest⟩
    | _ =>
        rw [hrequest] at hkind
        cases hkind

end ProfileOperator
