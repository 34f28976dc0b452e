import ProfileOperator.Proofs.Reconcile.Measures

/-!
# Passes along their exchanges

A pass that goes on among others gets its answers from a server that others use as well.  It is followed
along the exchanges that it has had, whatever the answers are: where it has come to its end with a value,
and what it has measured by then.
-/

namespace ProfileOperator

def Event.measures (events : List Event) : List Measure :=
  events.filterMap fun
    | .measure what => some what
    | .log .. => none

@[simp] theorem Event.measures_log (level : Level) (text : String) :
    Event.measures [.log level text] = [] := rfl

@[simp] theorem Event.measures_measure (what : Measure) :
    Event.measures [.measure what] = [what] := rfl

namespace Pass

variable {σ ε ε' α β : Type}

/-! ### Ends with a value -/

/-- With these exchanges the pass has come to its end with the value. -/
def Yields : Pass ε α -> List (Exchange σ) -> α -> Prop
  | .done value, asked, v => asked = [] ∧ value = v
  | .fail _, _, _ => False
  | .note _ rest, asked, v => rest.Yields asked v
  | .send r next, asked, v => ∃ before reply after others,
      asked = { before := before, request := r, reply := reply, after := after } :: others ∧
        (next reply).Yields others v

theorem Yields.bind {p : Pass ε α} {f : α -> Pass ε β} {asked : List (Exchange σ)} {w : β}
    (h : (p.bind f).Yields asked w) :
    ∃ front back v, asked = front ++ back ∧ p.Yields front v ∧ (f v).Yields back w := by
  induction p generalizing asked with
  | done value => exact ⟨[], asked, value, rfl, ⟨rfl, rfl⟩, h⟩
  | fail cause => exact absurd h id
  | note event rest ih => exact ih h
  | send r next ih =>
      obtain ⟨before, reply, after, others, rfl, hothers⟩ := h
      obtain ⟨front, back, v, rfl, hfront, hback⟩ := ih reply hothers
      exact ⟨_ :: front, back, v, rfl, ⟨before, reply, after, front, rfl, hfront⟩, hback⟩

/-- A pass that starts with a request yields a value only if the request is answered. -/
theorem Yields.request_bind {r : Api.Request} {purpose : Purpose} {f : r.Reply -> Pass Failure β}
    {asked : List (Exchange σ)} {w : β} (h : ((request purpose r).bind f).Yields asked w) :
    ∃ before v after others,
      asked = { before := before, request := r, reply := .ok v, after := after } :: others ∧
        (f v).Yields others w := by
  cases hobstacle : r.obstacle? with
  | some e =>
      rw [request_bind_blocked hobstacle] at h
      exact absurd h id
  | none =>
      rw [request_bind_sent hobstacle] at h
      obtain ⟨before, reply, after, others, rfl, hothers⟩ := h
      cases reply with
      | error e => exact absurd hothers id
      | ok v => exact ⟨before, v, after, others, rfl, hothers⟩

theorem Yields.turn {r : Api.Request} {purpose : Purpose} {event : Event} {rest : Pass Failure α}
    {g : α -> β} {asked : List (Exchange σ)} {w : β}
    (h : (turn purpose r event rest g).Yields asked w) :
    ∃ before v after others a,
      asked = { before := before, request := r, reply := .ok v, after := after } :: others ∧
        rest.Yields others a ∧ w = g a := by
  obtain ⟨before, v, after, others, rfl, hothers⟩ := h.request_bind
  obtain ⟨front, back, a, rfl, hrest, rfl, rfl⟩ := Yields.bind hothers
  exact ⟨before, v, after, front, a, by rw [List.append_nil], hrest, rfl⟩

/-- A pass comes to its end in one place only. -/
theorem Yields.eq_of_append {p : Pass ε α} {front back front' back' : List (Exchange σ)} {v w : α}
    (h : p.Yields front v) (h' : p.Yields front' w) (hsame : front ++ back = front' ++ back') :
    front = front' := by
  induction p generalizing front front' with
  | done value => exact h.1.trans h'.1.symm
  | fail cause => exact absurd h id
  | note event rest ih => exact ih h h' hsame
  | send r next ih =>
      obtain ⟨before, reply, after, others, rfl, hothers⟩ := h
      obtain ⟨before', reply', after', others', rfl, hothers'⟩ := h'
      obtain ⟨hfirst, hrest⟩ := List.cons.inj hsame
      cases hfirst
      rw [ih reply hothers hothers' hrest]

/-- The pass has ended with this result after these exchanges: with a value nowhere but here. -/
def EndsThere (p : Pass ε α) (asked : List (Exchange σ)) : Except ε α -> Prop
  | .ok v => p.Yields asked v
  | .error _ => ∀ front back v, asked = front ++ back -> ¬p.Yields front v

theorem EndsThere.note {rest : Pass ε α} {asked : List (Exchange σ)} {result : Except ε α}
    (h : rest.EndsThere asked result) (event : Event) : (note event rest).EndsThere asked result := by
  cases result with
  | ok v => exact h
  | error e => exact h

theorem EndsThere.send {r : Api.Request} {next : Except Api.ClientError r.Reply -> Pass ε α}
    {reply : Except Api.ClientError r.Reply} {asked : List (Exchange σ)} {result : Except ε α}
    (h : (next reply).EndsThere asked result) (before after : σ) :
    (send r next).EndsThere ({ before, request := r, reply, after } :: asked) result := by
  cases result with
  | ok v => exact ⟨before, reply, after, asked, rfl, h⟩
  | error e =>
      rintro front back v hsplit ⟨_, _, _, others, rfl, hothers⟩
      obtain ⟨hfirst, hrest⟩ := List.cons.inj hsplit
      cases hfirst
      exact h others back v hrest hothers

/-! ### What is measured by the end -/

/--
Whatever the answers are: behind the exchanges that it has had the pass notes what it may, and at its end
the exchanges, the measures and the result are as `stop` says.
-/
def Walks (notes : List (Exchange σ) -> Event -> Prop)
    (stop : List (Exchange σ) -> List Measure -> Except ε α -> Prop) :
    Pass ε α -> List (Exchange σ) -> List Measure -> Prop
  | .done value, asked, taken => stop asked taken (.ok value)
  | .fail cause, asked, taken => stop asked taken (.error cause)
  | .note event rest, asked, taken =>
      notes asked event ∧ rest.Walks notes stop asked (taken ++ Event.measures [event])
  | .send r next, asked, taken => ∀ before reply after,
      (next reply).Walks notes stop
        (asked ++ [{ before := before, request := r, reply := reply, after := after }]) taken

section

variable {notes : List (Exchange σ) -> Event -> Prop} {asked : List (Exchange σ)}
variable {taken : List Measure}

theorem Walks.mono {stop stop' : List (Exchange σ) -> List Measure -> Except ε α -> Prop}
    {p : Pass ε α} (h : p.Walks notes stop asked taken)
    (hstop : ∀ asked taken result, stop asked taken result -> stop' asked taken result) :
    p.Walks notes stop' asked taken := by
  induction p generalizing asked taken with
  | done value => exact hstop _ _ _ h
  | fail cause => exact hstop _ _ _ h
  | note event rest ih => exact ⟨h.1, ih h.2⟩
  | send r next ih => exact fun before reply after => ih reply (h before reply after)

theorem Walks.andThen {mid : List (Exchange σ) -> List Measure -> Except ε α -> Prop}
    {stop : List (Exchange σ) -> List Measure -> Except ε' β -> Prop} {p : Pass ε α}
    {f : Except ε α -> Pass ε' β} (hp : p.Walks notes mid asked taken)
    (hf : ∀ asked taken result, mid asked taken result ->
      (f result).Walks notes stop asked taken) :
    (p.andThen f).Walks notes stop asked taken := by
  induction p generalizing asked taken with
  | done value => exact hf _ _ _ hp
  | fail cause => exact hf _ _ _ hp
  | note event rest ih => exact ⟨hp.1, ih hp.2⟩
  | send r next ih => exact fun before reply after => ih reply (hp before reply after)

theorem Walks.bind {mid : List (Exchange σ) -> List Measure -> Except ε α -> Prop}
    {stop : List (Exchange σ) -> List Measure -> Except ε β -> Prop} {p : Pass ε α}
    {f : α -> Pass ε β} (hp : p.Walks notes mid asked taken)
    (hok : ∀ asked taken v, mid asked taken (.ok v) -> (f v).Walks notes stop asked taken)
    (herror : ∀ asked taken e, mid asked taken (.error e) -> stop asked taken (.error e)) :
    (p.bind f).Walks notes stop asked taken := by
  rw [bind_eq_andThen]
  refine hp.andThen fun asked taken result hresult => ?_
  cases result with
  | ok v => exact hok asked taken v hresult
  | error e => exact herror asked taken e hresult

/-- A pass that only writes log lines measures nothing, and asks for what it may. -/
theorem Within.walks {asks : Api.Request -> Prop} {ends : Except ε α -> Prop} {p : Pass ε α}
    (hp : p.Within asks (fun event => Event.measures [event] = []) ends)
    (hnotes : ∀ asked level text, notes asked (.log level text)) (asked : List (Exchange σ))
    (taken : List Measure) :
    p.Walks notes
      (fun asked' taken' result => taken' = taken ∧ ∃ more, asked' = asked ++ more ∧
        (∀ x ∈ more, asks x.request) ∧ p.EndsThere more result)
      asked taken := by
  induction p generalizing asked with
  | done value =>
      exact ⟨rfl, [], (List.append_nil asked).symm, fun x hx => absurd hx List.not_mem_nil, rfl, rfl⟩
  | fail cause =>
      exact ⟨rfl, [], (List.append_nil asked).symm, fun x hx => absurd hx List.not_mem_nil,
        fun _ _ _ _ h => h⟩
  | note event rest ih =>
      cases event with
      | measure what => exact absurd hp.1 (List.cons_ne_nil what [])
      | log level text =>
          refine ⟨hnotes asked level text, ?_⟩
          rw [Event.measures_log, List.append_nil]
          refine (ih hp.2 asked).mono ?_
          rintro asked' taken' result ⟨htaken, more, hasked, hmore, hends⟩
          exact ⟨htaken, more, hasked, hmore, hends.note _⟩
  | send r next ih =>
      intro before reply after
      refine (ih reply (hp.2 reply) _).mono ?_
      rintro asked' taken' result ⟨htaken, more, hasked, hmore, hends⟩
      refine ⟨htaken, _ :: more, ?_, List.forall_mem_cons.2 ⟨hp.1, hmore⟩, hends.send before after⟩
      rw [hasked, List.append_assoc, List.singleton_append]

end

/-! ### Passes that take no measures -/

def Logs (p : Pass ε α) : Prop :=
  p.Within (fun _ => True) (fun event => Event.measures [event] = []) fun _ => True

theorem logs_request (purpose : Purpose) (r : Api.Request) : (request purpose r).Logs :=
  within_request trivial (fun _ => trivial) fun _ => trivial

theorem Logs.bind {p : Pass ε α} {f : α -> Pass ε β} (hp : p.Logs) (hf : ∀ v, (f v).Logs) :
    (p.bind f).Logs :=
  Within.bind hp (fun v _ => hf v) fun _ h => h

theorem Logs.mapError {p : Pass ε α} (hp : p.Logs) (g : ε -> ε') : (p.mapError g).Logs :=
  Within.mapError hp (fun _ h => h) fun _ h => h

theorem logs_turn {purpose : Purpose} {r : Api.Request} {level : Level} {text : String}
    {rest : Pass Failure α} {g : α -> β} (hrest : rest.Logs) :
    (turn purpose r (.log level text) rest g).Logs :=
  (logs_request purpose r).bind fun _ => ⟨rfl, hrest.bind fun _ => trivial⟩

end Pass

end ProfileOperator
