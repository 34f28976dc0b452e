import ProfileOperator.Reconcile.Pass

/-!
# Exchanges of a run

A run in full detail: every request with its answer and with the states of the server before and after
it.  A pass that starts with a request goes three ways: the request is never sent, it fails, or it is
answered and the pass goes on.
-/

namespace ProfileOperator

/-- A request that was sent, with what came of it. -/
structure Exchange (σ : Type) where
  before : σ
  request : Api.Request
  reply : Except Api.ClientError request.Reply
  after : σ

def Exchange.Answers {σ : Type} (x : Exchange σ) (r : Api.Request) (v : r.Reply) : Prop :=
  x = { before := x.before, request := r, reply := .ok v, after := x.after }

def Failure.isOfRequest : Failure -> Bool
  | .request _ _ => true
  | _ => false

namespace Pass

variable {σ ε ε' α β : Type}

def exchanges (serve : Handler σ) : Pass ε α -> σ -> List (Exchange σ)
  | .done _, _ => []
  | .fail _, _ => []
  | .note _ rest, s => rest.exchanges serve s
  | .send request next, s =>
      { before := s, request := request, reply := (serve s request).1, after := (serve s request).2 } ::
        (next (serve s request).1).exchanges serve (serve s request).2

/-- The states that the server goes through in a run. -/
def moments (serve : Handler σ) (p : Pass ε α) (s : σ) : List σ :=
  s :: (p.exchanges serve s).map Exchange.after

/-- No request of the run fails: none is kept from being sent, and each one is answered. -/
def unfailing (serve : Handler σ) : Pass Failure α -> σ -> Bool
  | .done _, _ => true
  | .fail cause, _ => !cause.isOfRequest
  | .note _ rest, s => rest.unfailing serve s
  | .send request next, s =>
      (serve s request).1.isOk &&
        (next (serve s request).1).unfailing serve (serve s request).2

/-! ### Exchanges and runs -/

theorem requests_run (serve : Handler σ) (p : Pass ε α) (s : σ) :
    Step.requests (p.run serve s).steps = (p.exchanges serve s).map Exchange.request := by
  induction p generalizing s with
  | done value => rfl
  | fail cause => rfl
  | note event rest ih => exact ih s
  | send request next ih =>
      rw [exchanges, List.map_cons, ← ih]
      rfl

theorem bind_assoc {γ : Type} (p : Pass ε α) (f : α -> Pass ε β) (g : β -> Pass ε γ) :
    (p.bind f).bind g = p.bind fun v => (f v).bind g := by
  induction p with
  | done value => rfl
  | fail cause => rfl
  | note event rest ih => simp only [bind, ih]
  | send request next ih => simp only [bind, ih]

theorem exchanges_bind (serve : Handler σ) (p : Pass ε α) (f : α -> Pass ε β) (s : σ) :
    (p.bind f).exchanges serve s =
      p.exchanges serve s ++
        match (p.run serve s).result with
        | .ok v => (f v).exchanges serve (p.run serve s).state
        | .error _ => [] := by
  induction p generalizing s with
  | done value => rfl
  | fail cause => rfl
  | note event rest ih => exact ih s
  | send request next ih =>
      rw [bind, exchanges, ih, exchanges, List.cons_append]
      rfl

theorem bind_ok {serve : Handler σ} {p : Pass ε α} {f : α -> Pass ε β} {s : σ} {b : β}
    (h : ((p.bind f).run serve s).result = .ok b) :
    ∃ a, (p.run serve s).result = .ok a ∧
      ((f a).run serve (p.run serve s).state).result = .ok b ∧
      (p.bind f).exchanges serve s =
        p.exchanges serve s ++ (f a).exchanges serve (p.run serve s).state := by
  rw [run_bind, Outcome.extend] at h
  rw [exchanges_bind]
  cases hresult : (p.run serve s).result with
  | error cause =>
      rw [hresult] at h
      cases h
  | ok a =>
      rw [hresult] at h
      exact ⟨a, rfl, h, rfl⟩

theorem unfailing_bind (serve : Handler σ) (p : Pass Failure α) (f : α -> Pass Failure β) (s : σ) :
    (p.bind f).unfailing serve s =
      (p.unfailing serve s &&
        match (p.run serve s).result with
        | .ok v => (f v).unfailing serve (p.run serve s).state
        | .error _ => true) := by
  induction p generalizing s with
  | done value => rfl
  | fail cause => exact (Bool.and_true _).symm
  | note event rest ih => exact ih s
  | send request next ih =>
      rw [bind, unfailing, ih, unfailing, Bool.and_assoc]
      rfl

theorem state_mem_moments (serve : Handler σ) (p : Pass ε α) (s : σ) :
    (p.run serve s).state ∈ p.moments serve s := by
  induction p generalizing s with
  | done value => exact List.mem_cons_self
  | fail cause => exact List.mem_cons_self
  | note event rest ih => exact ih s
  | send request next ih => exact List.mem_cons_of_mem s (ih _ _)

theorem mem_moments_bind {serve : Handler σ} {p : Pass ε α} {f : α -> Pass ε β} {s m : σ}
    (h : m ∈ (p.bind f).moments serve s) :
    m ∈ p.moments serve s ∨
      ∃ v, (p.run serve s).result = .ok v ∧ m ∈ (f v).moments serve (p.run serve s).state := by
  rw [moments, exchanges_bind, List.map_append, ← List.cons_append, List.mem_append] at h
  rcases h with h | h
  · exact Or.inl h
  · cases hresult : (p.run serve s).result with
    | error cause => simp [hresult] at h
    | ok v =>
        rw [hresult] at h
        exact Or.inr ⟨v, rfl, List.mem_cons_of_mem _ h⟩

/-! ### Ends and notes -/

/-- An end that only works on the result changes nothing else. -/
theorem run_bind_done (serve : Handler σ) (p : Pass ε α) (g : α -> β) (s : σ) :
    (p.bind fun v => .done (g v)).run serve s =
      { p.run serve s with result := (p.run serve s).result.map g } := by
  rw [run_bind]
  unfold Outcome.extend
  cases (p.run serve s).result with
  | ok v => simp [run, Except.map]
  | error cause => simp [Except.map]

theorem exchanges_bind_done (serve : Handler σ) (p : Pass ε α) (g : α -> β) (s : σ) :
    (p.bind fun v => .done (g v)).exchanges serve s = p.exchanges serve s := by
  rw [exchanges_bind]
  cases (p.run serve s).result with
  | ok v => exact List.append_nil _
  | error cause => exact List.append_nil _

theorem moments_bind_done (serve : Handler σ) (p : Pass ε α) (g : α -> β) (s : σ) :
    (p.bind fun v => .done (g v)).moments serve s = p.moments serve s := by
  rw [moments, exchanges_bind_done, moments]

theorem unfailing_bind_done (serve : Handler σ) (p : Pass Failure α) (g : α -> β) (s : σ) :
    (p.bind fun v => .done (g v)).unfailing serve s = p.unfailing serve s := by
  rw [unfailing_bind]
  cases (p.run serve s).result with
  | ok v => exact Bool.and_true _
  | error cause => exact Bool.and_true _

/-! ### A request in front of a pass -/

variable {r : Api.Request}

theorem request_bind_blocked {e : Api.ClientError} (h : r.obstacle? = some e) (purpose : Purpose)
    (f : r.Reply -> Pass Failure β) :
    (request purpose r).bind f = .fail (.request purpose e) := by
  unfold request ask
  rw [h]
  rfl

theorem request_bind_sent (h : r.obstacle? = none) (purpose : Purpose)
    (f : r.Reply -> Pass Failure β) :
    (request purpose r).bind f = .send r fun
      | .ok v => f v
      | .error e => .fail (.request purpose e) := by
  unfold request ask
  rw [h]
  change Pass.send r _ = _
  congr 1
  funext reply
  cases reply <;> rfl

/-- A run that starts with a request that fails. -/
structure EndsAt (serve : Handler σ) (purpose : Purpose) (r : Api.Request) (p : Pass Failure β)
    (s : σ) (e : Api.ClientError) : Prop where
  reply : (serve s r).1 = .error e
  run : p.run serve s =
    { result := .error (.request purpose e), steps := [.sent r], state := (serve s r).2 }
  exchanges : p.exchanges serve s =
    [{ before := s, request := r, reply := .error e, after := (serve s r).2 }]

/-- A run that starts with a request that is answered. -/
structure GoesOn (serve : Handler σ) (r : Api.Request) (p next : Pass Failure β) (s : σ)
    (v : r.Reply) : Prop where
  reply : (serve s r).1 = .ok v
  run : p.run serve s =
    { next.run serve (serve s r).2 with steps := .sent r :: (next.run serve (serve s r).2).steps }
  exchanges : p.exchanges serve s =
    { before := s, request := r, reply := .ok v, after := (serve s r).2 } ::
      next.exchanges serve (serve s r).2
  unfailing : p.unfailing serve s = next.unfailing serve (serve s r).2

/-- The three ways of a pass that starts with a request. -/
theorem request_bind_cases (serve : Handler σ) (purpose : Purpose) (f : r.Reply -> Pass Failure β)
    (s : σ) :
    (∃ e, (request purpose r).bind f = .fail (.request purpose e)) ∨
      (∃ e, EndsAt serve purpose r ((request purpose r).bind f) s e) ∨
      ∃ v, GoesOn serve r ((request purpose r).bind f) (f v) s v := by
  cases hobstacle : r.obstacle? with
  | some e => exact Or.inl ⟨e, request_bind_blocked hobstacle purpose f⟩
  | none =>
      rw [request_bind_sent hobstacle]
      cases hreply : (serve s r).1 with
      | error e =>
          refine Or.inr (Or.inl ⟨e, hreply, ?_, ?_⟩)
          · simp only [run, hreply]
          · simp only [Pass.exchanges, hreply]
      | ok v =>
          refine Or.inr (Or.inr ⟨v, hreply, ?_, ?_, ?_⟩)
          · simp only [run, hreply]
          · simp only [Pass.exchanges, hreply]
          · rw [Pass.unfailing, hreply]
            rfl

theorem request_bind_ok {serve : Handler σ} {purpose : Purpose} {f : r.Reply -> Pass Failure β}
    {s : σ} {b : β} (h : (((request purpose r).bind f).run serve s).result = .ok b) :
    ∃ v, GoesOn serve r ((request purpose r).bind f) (f v) s v ∧
      ((f v).run serve (serve s r).2).result = .ok b := by
  rcases request_bind_cases serve purpose f s with ⟨e, hfail⟩ | ⟨e, hends⟩ | ⟨v, hgo⟩
  · rw [hfail] at h
    cases h
  · rw [hends.run] at h
    cases h
  · rw [hgo.run] at h
    exact ⟨v, hgo, h⟩

theorem mem_exchanges_request_bind {serve : Handler σ} {purpose : Purpose}
    {f : r.Reply -> Pass Failure β} {s : σ} {x : Exchange σ}
    (h : x ∈ ((request purpose r).bind f).exchanges serve s) :
    x.request = r ∨
      ∃ v, (serve s r).1 = .ok v ∧ x ∈ (f v).exchanges serve (serve s r).2 := by
  rcases request_bind_cases serve purpose f s with ⟨e, hfail⟩ | ⟨e, hends⟩ | ⟨v, hgo⟩
  · rw [hfail] at h
    exact absurd h List.not_mem_nil
  · rw [hends.exchanges] at h
    rw [List.mem_singleton.1 h]
    exact Or.inl rfl
  · rw [hgo.exchanges] at h
    rcases List.mem_cons.1 h with rfl | h
    · exact Or.inl rfl
    · exact Or.inr ⟨v, hgo.reply, h⟩

theorem mem_moments_request_bind {serve : Handler σ} {purpose : Purpose}
    {f : r.Reply -> Pass Failure β} {s m : σ}
    (h : m ∈ ((request purpose r).bind f).moments serve s) :
    m = s ∨ m = (serve s r).2 ∨
      ∃ v, (serve s r).1 = .ok v ∧ m ∈ (f v).moments serve (serve s r).2 := by
  rcases request_bind_cases serve purpose f s with ⟨e, hfail⟩ | ⟨e, hends⟩ | ⟨v, hgo⟩
  · rw [hfail] at h
    exact Or.inl (List.mem_singleton.1 h)
  · rw [moments, hends.exchanges] at h
    rcases List.mem_cons.1 h with h | h
    · exact Or.inl h
    · exact Or.inr (Or.inl (List.mem_singleton.1 h))
  · rw [moments, hgo.exchanges] at h
    rcases List.mem_cons.1 h with h | h
    · exact Or.inl h
    · exact Or.inr (Or.inr ⟨v, hgo.reply, h⟩)

theorem goesOn_of_unfailing {serve : Handler σ} {purpose : Purpose} {f : r.Reply -> Pass Failure β}
    {s : σ} (h : ((request purpose r).bind f).unfailing serve s = true) :
    ∃ v, GoesOn serve r ((request purpose r).bind f) (f v) s v := by
  cases hobstacle : r.obstacle? with
  | some e =>
      rw [request_bind_blocked hobstacle] at h
      cases h
  | none =>
      rcases request_bind_cases serve purpose f s with ⟨e, hfail⟩ | ⟨e, hends⟩ | hgoes
      · rw [hfail] at h
        cases h
      · rw [request_bind_sent hobstacle, unfailing, hends.reply] at h
        cases h
      · exact hgoes

/-! ### One turn of a loop of requests -/

variable {purpose : Purpose} {event : Event} {rest : Pass Failure α} {g : α -> β}

/-- A turn of a loop: a request, a log line, and the other turns. -/
def turn (purpose : Purpose) (r : Api.Request) (event : Event) (rest : Pass Failure α)
    (g : α -> β) : Pass Failure β :=
  (request purpose r).bind fun _ => .note event (rest.bind fun v => .done (g v))

theorem mem_exchanges_turn {serve : Handler σ} {s : σ} {x : Exchange σ}
    (h : x ∈ (turn purpose r event rest g).exchanges serve s) :
    x.request = r ∨ x ∈ rest.exchanges serve (serve s r).2 := by
  rcases mem_exchanges_request_bind h with h | ⟨v, _, h⟩
  · exact Or.inl h
  · rw [exchanges, exchanges_bind_done] at h
    exact Or.inr h

theorem mem_moments_turn {serve : Handler σ} {s m : σ}
    (h : m ∈ (turn purpose r event rest g).moments serve s) :
    m = s ∨ m ∈ rest.moments serve (serve s r).2 := by
  rcases mem_moments_request_bind h with h | rfl | ⟨v, _, h⟩
  · exact Or.inl h
  · exact Or.inr List.mem_cons_self
  · change m ∈ (rest.bind fun v => .done (g v)).moments serve _ at h
    rw [moments_bind_done] at h
    exact Or.inr h

theorem turn_ok {serve : Handler σ} {s : σ} {b : β}
    (h : ((turn purpose r event rest g).run serve s).result = .ok b) :
    ∃ v a, (serve s r).1 = .ok v ∧ (rest.run serve (serve s r).2).result = .ok a ∧ b = g a ∧
      (turn purpose r event rest g).exchanges serve s =
        { before := s, request := r, reply := .ok v, after := (serve s r).2 } ::
          rest.exchanges serve (serve s r).2 := by
  unfold turn at h ⊢
  obtain ⟨v, hgo, hnext⟩ := request_bind_ok h
  obtain ⟨a, hrest, hdone, _⟩ := bind_ok hnext
  cases hdone
  refine ⟨v, a, hgo.reply, hrest, rfl, ?_⟩
  rw [hgo.exchanges, exchanges, exchanges_bind_done]

theorem turn_unfailing {serve : Handler σ} {s : σ}
    (h : (turn purpose r event rest g).unfailing serve s = true) :
    ∃ v, (serve s r).1 = .ok v ∧ rest.unfailing serve (serve s r).2 = true ∧
      ((turn purpose r event rest g).run serve s).result =
        (rest.run serve (serve s r).2).result.map g ∧
      ((turn purpose r event rest g).run serve s).state = (rest.run serve (serve s r).2).state ∧
      ((turn purpose r event rest g).exchanges serve s).map Exchange.request =
        r :: (rest.exchanges serve (serve s r).2).map Exchange.request := by
  unfold turn at h ⊢
  obtain ⟨v, hgo⟩ := goesOn_of_unfailing h
  rw [hgo.unfailing, unfailing, unfailing_bind_done] at h
  rw [hgo.run, hgo.exchanges, run, exchanges, run_bind_done, exchanges_bind_done]
  exact ⟨v, hgo.reply, h, rfl, rfl, rfl⟩

end Pass

end ProfileOperator
