import ProfileOperator.Api.Request
import ProfileOperator.Failure

/-!
# Passes

A pass is what the operator does in one go: it sends requests, and after each answer it knows how to go
on; on the way it writes log lines and takes measures.  A pass is a value, so the same pass can be run
against any server, in one go or request by request.  A run keeps everything that happened, in order.
-/

namespace ProfileOperator

inductive Level where
  | debug
  | info
  | error
deriving DecidableEq, Repr

def Level.word : Level -> String
  | .debug => "DEBUG"
  | .info => "INFO"
  | .error => "ERROR"

/-- What a pass reports to the metrics. -/
inductive Measure where
  | started
  | ended
  | failed
  /-- So many PodDefaults are in place for a profile. -/
  | applied (profile : String) (count : Nat)
  /-- The profile is gone and is no longer counted. -/
  | unapplied (profile : String)
deriving DecidableEq, Repr

inductive Event where
  | log (level : Level) (text : String)
  | measure (what : Measure)
deriving DecidableEq, Repr

/-- A pass that ends with a value in `α` or fails for a cause in `ε`. -/
inductive Pass (ε α : Type) where
  | done (value : α)
  | fail (cause : ε)
  | note (event : Event) (rest : Pass ε α)
  | send (request : Api.Request) (next : Except Api.ClientError request.Reply -> Pass ε α)

namespace Pass

variable {ε ε' α β : Type}

def bind : Pass ε α -> (α -> Pass ε β) -> Pass ε β
  | .done value, f => f value
  | .fail cause, _ => .fail cause
  | .note event rest, f => .note event (rest.bind f)
  | .send request next, f => .send request fun reply => (next reply).bind f

instance : Monad (Pass ε) where
  pure := .done
  bind := .bind

/-- Go on after a pass however it ends. -/
def andThen : Pass ε α -> (Except ε α -> Pass ε' β) -> Pass ε' β
  | .done value, f => f (.ok value)
  | .fail cause, f => f (.error cause)
  | .note event rest, f => .note event (rest.andThen f)
  | .send request next, f => .send request fun reply => (next reply).andThen f

def mapError (g : ε -> ε') (p : Pass ε α) : Pass ε' α :=
  p.andThen fun
    | .ok value => .done value
    | .error cause => .fail (g cause)

def ofExcept : Except ε α -> Pass ε α
  | .ok value => .done value
  | .error cause => .fail cause

def log (level : Level) (text : String) : Pass ε Unit :=
  .note (.log level text) (.done ())

def measure (what : Measure) : Pass ε Unit :=
  .note (.measure what) (.done ())

/-- Send a request, unless something keeps it from being sent. -/
def ask (request : Api.Request) : Pass Api.ClientError request.Reply :=
  match request.obstacle? with
  | none => .send request .ofExcept
  | some obstacle => .fail obstacle

def request (purpose : Purpose) (r : Api.Request) : Pass Failure r.Reply :=
  (ask r).mapError (.request purpose)

end Pass

/-! ### Running a pass -/

inductive Step where
  | event (what : Event)
  | sent (request : Api.Request)

/-- What came of a run: how the pass ended, what happened, and the state that it left. -/
structure Outcome (σ ε α : Type) where
  result : Except ε α
  steps : List Step
  state : σ

/-- Something that answers requests and changes its state on the way. -/
abbrev Handler (σ : Type) := σ -> (r : Api.Request) -> Except Api.ClientError r.Reply × σ

namespace Pass

variable {σ ε α : Type}

def run (serve : Handler σ) : Pass ε α -> σ -> Outcome σ ε α
  | .done value, s => { result := .ok value, steps := [], state := s }
  | .fail cause, s => { result := .error cause, steps := [], state := s }
  | .note event rest, s =>
      let outcome := rest.run serve s
      { outcome with steps := .event event :: outcome.steps }
  | .send request next, s =>
      let (reply, s) := serve s request
      let outcome := (next reply).run serve s
      { outcome with steps := .sent request :: outcome.steps }

end Pass

def Outcome.extend {σ ε ε' α β : Type} (o : Outcome σ ε α)
    (f : Except ε α -> σ -> Outcome σ ε' β) : Outcome σ ε' β :=
  let next := f o.result o.state
  { next with steps := o.steps ++ next.steps }

namespace Pass

variable {σ ε ε' α β : Type}

/-- The run of two passes one after the other is the two runs one after the other. -/
theorem run_andThen (serve : Handler σ) (p : Pass ε α) (f : Except ε α -> Pass ε' β) (s : σ) :
    (p.andThen f).run serve s =
      (p.run serve s).extend fun result s => (f result).run serve s := by
  induction p generalizing s with
  | done value => rfl
  | fail cause => rfl
  | note event rest ih =>
      simp only [andThen, run, Outcome.extend, ih]
      rfl
  | send request next ih =>
      simp only [andThen, run, Outcome.extend, ih]
      rfl

theorem bind_eq_andThen (p : Pass ε α) (f : α -> Pass ε β) :
    p.bind f = p.andThen fun
      | .ok value => f value
      | .error cause => .fail cause := by
  induction p with
  | done value => rfl
  | fail cause => rfl
  | note event rest ih => simp only [bind, andThen, ih]
  | send request next ih => simp only [bind, andThen, ih]

/-- A failure ends the run of a pass and of all that would have come behind it. -/
theorem run_bind (serve : Handler σ) (p : Pass ε α) (f : α -> Pass ε β) (s : σ) :
    (p.bind f).run serve s =
      (p.run serve s).extend fun
        | .ok value, s => (f value).run serve s
        | .error cause, s => { result := .error cause, steps := [], state := s } := by
  rw [bind_eq_andThen, run_andThen]
  congr 1
  funext result s
  cases result <;> rfl

end Pass

def Step.requests (steps : List Step) : List Api.Request :=
  steps.filterMap fun
    | .sent request => some request
    | .event _ => none

@[simp] theorem Step.requests_append (steps more : List Step) :
    Step.requests (steps ++ more) = Step.requests steps ++ Step.requests more :=
  List.filterMap_append

end ProfileOperator
