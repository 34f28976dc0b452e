import Mathlib.Logic.Function.Basic
import ProfileOperator.Controller.Loop
import ProfileOperator.Proofs.Reconcile.Scope

/-!
# Calls in a world

A call is the run of one profile from its start to its end.  Calls share a server and a registry and go on
side by side, one move of one call at a time, in any order; what has happened is kept in one history.  A
call that nothing comes between is the run of its pass, and the control loop makes no other calls.
-/

namespace ProfileOperator

open Pass

variable {ι σ : Type}

/-! ### Moves -/

/-- What a call does in one go. -/
inductive Move (σ : Type) where
  | started
  | noted (event : Event)
  | asked (x : Exchange σ)
  | ended (result : Except Failure Requeue)

namespace Move

def step? : Move σ -> Option Step
  | .noted event => some (.event event)
  | .asked x => some (.sent x.request)
  | _ => none

def exchange? : Move σ -> Option (Exchange σ)
  | .asked x => some x
  | _ => none

def measure? : Move σ -> Option Measure
  | .noted (.measure what) => some what
  | _ => none

def result? : Move σ -> Option (Except Failure Requeue)
  | .ended result => some result
  | _ => none

def IsWithin (asks : Api.Request -> Prop) (notes : Event -> Prop)
    (ends : Except Failure Requeue -> Prop) : Move σ -> Prop
  | .started => True
  | .noted event => notes event
  | .asked x => asks x.request
  | .ended result => ends result

end Move

/-- A move of a call, the server after it, and what is left of the call if it has not ended. -/
structure Stride (σ : Type) where
  move : Move σ
  server : σ
  rest : Option (Pass Failure Requeue)

namespace Pass

/-- The next move of a call of which the pass is left. -/
def stride (serve : Handler σ) (s : σ) : Pass Failure Requeue -> Stride σ
  | .done requeue => { move := .ended (.ok requeue), server := s, rest := none }
  | .fail cause => { move := .ended (.error cause), server := s, rest := none }
  | .note event rest => { move := .noted event, server := s, rest := some rest }
  | .send r next =>
      let x := serve s r
      { move := .asked { before := s, request := r, reply := x.1, after := x.2 }
        server := x.2
        rest := some (next x.1) }

/-- A pass within these bounds makes a move within them, and what is left of it stays there. -/
theorem Within.stride {asks : Api.Request -> Prop} {notes : Event -> Prop}
    {ends : Except Failure Requeue -> Prop} {p : Pass Failure Requeue}
    (h : p.Within asks notes ends) (serve : Handler σ) (s : σ) :
    (p.stride serve s).move.IsWithin asks notes ends ∧
      ∀ rest, (p.stride serve s).rest = some rest -> rest.Within asks notes ends := by
  cases p with
  | done requeue => exact ⟨h, fun _ hrest => nomatch hrest⟩
  | fail cause => exact ⟨h, fun _ hrest => nomatch hrest⟩
  | note event rest => exact ⟨h.1, fun _ hrest => Option.some.inj hrest ▸ h.2⟩
  | send r next => exact ⟨h.1, fun _ hrest => Option.some.inj hrest ▸ h.2 _⟩

/-- All the moves of a call that nothing comes between. -/
def moves (serve : Handler σ) : Pass Failure Requeue -> σ -> List (Move σ)
  | .done requeue, _ => [.ended (.ok requeue)]
  | .fail cause, _ => [.ended (.error cause)]
  | .note event rest, s => .noted event :: rest.moves serve s
  | .send r next, s =>
      .asked { before := s, request := r, reply := (serve s r).1, after := (serve s r).2 } ::
        (next (serve s r).1).moves serve (serve s r).2

theorem steps_moves (serve : Handler σ) (p : Pass Failure Requeue) (s : σ) :
    (p.moves serve s).filterMap Move.step? = (p.run serve s).steps := by
  induction p generalizing s with
  | done requeue => rfl
  | fail cause => rfl
  | note event rest ih => exact congrArg (.event event :: ·) (ih s)
  | send r next ih => exact congrArg (.sent r :: ·) (ih _ _)

theorem exchanges_moves (serve : Handler σ) (p : Pass Failure Requeue) (s : σ) :
    (p.moves serve s).filterMap Move.exchange? = p.exchanges serve s := by
  induction p generalizing s with
  | done requeue => rfl
  | fail cause => rfl
  | note event rest ih => exact ih s
  | send r next ih => exact congrArg (_ :: ·) (ih _ _)

theorem moves_eq_concat (serve : Handler σ) (p : Pass Failure Requeue) (s : σ) :
    ∃ front, p.moves serve s = front ++ [.ended (p.run serve s).result] := by
  induction p generalizing s with
  | done requeue => exact ⟨[], rfl⟩
  | fail cause => exact ⟨[], rfl⟩
  | note event rest ih =>
      obtain ⟨front, hfront⟩ := ih s
      exact ⟨.noted event :: front, congrArg (List.cons _) hfront⟩
  | send r next ih =>
      obtain ⟨front, hfront⟩ := ih (serve s r).1 (serve s r).2
      exact ⟨_ :: front, congrArg (List.cons _) hfront⟩

end Pass

/-! ### Histories -/

/-- A move with the call that made it and the profile that the call was given. -/
structure Record (ι σ : Type) where
  id : ι
  given : Profile
  move : Move σ

namespace Record

variable [DecidableEq ι]

/-- The moves of a call in their order; of the history the latest come first. -/
def moves (i : ι) (history : List (Record ι σ)) : List (Move σ) :=
  ((history.filter fun record => record.id = i).map Record.move).reverse

def course (i : ι) (history : List (Record ι σ)) : List Step :=
  (moves i history).filterMap Move.step?

def asked (i : ι) (history : List (Record ι σ)) : List (Exchange σ) :=
  (moves i history).filterMap Move.exchange?

def taken (i : ι) (history : List (Record ι σ)) : List Measure :=
  (moves i history).filterMap Move.measure?

def result? (i : ι) (history : List (Record ι σ)) : Option (Except Failure Requeue) :=
  (moves i history).getLast?.bind Move.result?

theorem moves_cons_self (record : Record ι σ) (history : List (Record ι σ)) :
    moves record.id (record :: history) = moves record.id history ++ [record.move] := by
  simp [moves]

theorem moves_cons_of_ne {i : ι} {record : Record ι σ} (h : record.id ≠ i)
    (history : List (Record ι σ)) : moves i (record :: history) = moves i history := by
  simp [moves, h]

theorem moves_append (i : ι) (newer older : List (Record ι σ)) :
    moves i (newer ++ older) = moves i older ++ moves i newer := by
  simp [moves]

theorem asked_append (i : ι) (newer older : List (Record ι σ)) :
    asked i (newer ++ older) = asked i older ++ asked i newer := by
  rw [asked, moves_append, List.filterMap_append, asked, asked]

theorem mem_moves {i : ι} {history : List (Record ι σ)} {move : Move σ} :
    move ∈ moves i history ↔ ∃ given, ⟨i, given, move⟩ ∈ history := by
  simp only [moves, List.mem_reverse, List.mem_map, List.mem_filter, decide_eq_true_eq]
  constructor
  · rintro ⟨⟨_, given, _⟩, ⟨hmem, rfl⟩, rfl⟩
    exact ⟨given, hmem⟩
  · rintro ⟨given, hmem⟩
    exact ⟨_, ⟨hmem, rfl⟩, rfl⟩

theorem moves_eq_nil_iff {i : ι} {history : List (Record ι σ)} :
    moves i history = [] ↔ ∀ record ∈ history, record.id ≠ i := by
  simp [moves]

theorem moves_alone (i : ι) (given : Profile) (made : List (Move σ)) :
    moves i (made.map (Record.mk i given)).reverse = made := by
  simp [moves, List.filter_map, Function.comp_def]

end Record

/-! ### Worlds -/

/-- A call in progress: the profile that it was given, and what is left to do. -/
structure Call where
  given : Profile
  rest : Pass Failure Requeue

structure World (ι σ : Type) where
  server : σ
  registry : Metrics.Registry Nat := .fresh 1
  calls : ι -> Option Call := fun _ => none
  /-- What has happened, the latest first. -/
  history : List (Record ι σ) := []

namespace World

variable [DecidableEq ι]

/-- The world after a move of a call. -/
def after (w : World ι σ) (i : ι) (given : Profile) (next : Stride σ) : World ι σ where
  server := next.server
  registry := w.registry.takeSteps next.move.step?.toList
  calls := Function.update w.calls i (next.rest.map (Call.mk given))
  history := { id := i, given := given, move := next.move } :: w.history

def start (w : World ι σ) (i : ι) (given : Profile) (pass : Pass Failure Requeue) : World ι σ :=
  w.after i given { move := .started, server := w.server, rest := some pass }

/-- A call makes its next move.  One that is not in progress does nothing. -/
def advance (serve : Handler σ) (w : World ι σ) (i : ι) : World ι σ :=
  match w.calls i with
  | some call => w.after i call.given (call.rest.stride serve w.server)
  | none => w

/-- The calls make their moves in the order of a schedule. -/
def run (serve : ι -> Handler σ) (w : World ι σ) (schedule : List ι) : World ι σ :=
  schedule.foldl (fun w i => w.advance (serve i) i) w

variable {w : World ι σ} {i : ι} {serve : ι -> Handler σ}

theorem run_cons (serve : ι -> Handler σ) (w : World ι σ) (i : ι) (schedule : List ι) :
    w.run serve (i :: schedule) = (w.advance (serve i) i).run serve schedule := rfl

theorem calls_after_self (w : World ι σ) (i : ι) (given : Profile) (next : Stride σ) :
    (w.after i given next).calls i = next.rest.map (Call.mk given) :=
  Function.update_self ..

theorem calls_after_of_ne {j : ι} (h : j ≠ i) (w : World ι σ) (given : Profile) (next : Stride σ) :
    (w.after i given next).calls j = w.calls j :=
  Function.update_of_ne h ..

theorem moves_after (w : World ι σ) (i : ι) (given : Profile) (next : Stride σ) :
    Record.moves i (w.after i given next).history = Record.moves i w.history ++ [next.move] :=
  Record.moves_cons_self ⟨i, given, next.move⟩ w.history

theorem moves_after_of_ne {i j : ι} (h : j ≠ i) (w : World ι σ) (given : Profile) (next : Stride σ) :
    Record.moves j (w.after i given next).history = Record.moves j w.history :=
  Record.moves_cons_of_ne (Ne.symm h) w.history

theorem course_after (w : World ι σ) (i : ι) (given : Profile) (next : Stride σ) :
    Record.course i (w.after i given next).history =
      Record.course i w.history ++ [next.move].filterMap Move.step? := by
  rw [Record.course, moves_after, List.filterMap_append, Record.course]

theorem result?_after (w : World ι σ) (i : ι) (given : Profile) (next : Stride σ) :
    Record.result? i (w.after i given next).history = next.move.result? := by
  rw [Record.result?, moves_after, List.getLast?_concat]
  rfl

theorem forall_calls_after {P : ι -> Call -> Prop} (h : ∀ j call, w.calls j = some call -> P j call)
    {given : Profile} {next : Stride σ} (hnext : ∀ rest, next.rest = some rest -> P i ⟨given, rest⟩) :
    ∀ j call, (w.after i given next).calls j = some call -> P j call := by
  intro j call hcall
  by_cases hj : j = i
  · subst hj
    rw [calls_after_self, Option.map_eq_some_iff] at hcall
    obtain ⟨rest, hrest, rfl⟩ := hcall
    exact hnext rest hrest
  · rw [calls_after_of_ne hj] at hcall
    exact h j call hcall

theorem advance_of_some {serve : Handler σ} {call : Call} (h : w.calls i = some call) :
    w.advance serve i = w.after i call.given (call.rest.stride serve w.server) := by
  rw [advance, h]

theorem advance_of_none {serve : Handler σ} (h : w.calls i = none) : w.advance serve i = w := by
  rw [advance, h]

/-! ### Calls that nothing comes between -/

/-- The world when a call in progress has come to its end without anything in between. -/
def atEnd (serve : Handler σ) (w : World ι σ) (i : ι) (call : Call) : World ι σ :=
  let o := call.rest.run serve w.server
  { server := o.state
    registry := w.registry.takeSteps o.steps
    calls := Function.update w.calls i none
    history := ((call.rest.moves serve w.server).map (Record.mk i call.given)).reverse ++ w.history }

theorem run_of_none (h : w.calls i = none) (n : Nat) : w.run serve (List.replicate n i) = w := by
  induction n with
  | zero => rfl
  | succ n ih =>
      rw [List.replicate_succ, run_cons, advance_of_none h]
      exact ih

theorem atEnd_after {given : Profile} {rest rest' : Pass Failure Requeue} {serve : Handler σ}
    (h : (rest.stride serve w.server).rest = some rest') :
    (w.after i given (rest.stride serve w.server)).atEnd serve i ⟨given, rest'⟩ =
      w.atEnd serve i ⟨given, rest⟩ := by
  cases rest with
  | done requeue => cases h
  | fail cause => cases h
  | note event rest =>
      cases h
      simp only [atEnd, after, stride, Pass.moves, Function.update_idem, List.map_cons,
        List.reverse_cons, List.append_assoc, List.singleton_append]
      rfl
  | send r next =>
      cases h
      simp only [atEnd, after, stride, Pass.moves, Function.update_idem, List.map_cons,
        List.reverse_cons, List.append_assoc, List.singleton_append]
      rfl

theorem run_alone {given : Profile} {rest : Pass Failure Requeue}
    (h : w.calls i = some ⟨given, rest⟩) {n : Nat}
    (hn : (rest.moves (serve i) w.server).length ≤ n) :
    w.run serve (List.replicate n i) = w.atEnd (serve i) i ⟨given, rest⟩ := by
  induction rest generalizing w n with
  | done requeue =>
      obtain ⟨n, rfl⟩ := Nat.exists_eq_succ_of_ne_zero (Nat.ne_zero_of_lt hn)
      rw [List.replicate_succ, run_cons, advance_of_some h]
      exact run_of_none (Function.update_self ..) n
  | fail cause =>
      obtain ⟨n, rfl⟩ := Nat.exists_eq_succ_of_ne_zero (Nat.ne_zero_of_lt hn)
      rw [List.replicate_succ, run_cons, advance_of_some h]
      exact run_of_none (Function.update_self ..) n
  | note event rest ih =>
      obtain ⟨n, rfl⟩ := Nat.exists_eq_succ_of_ne_zero (Nat.ne_zero_of_lt hn)
      rw [List.replicate_succ, run_cons, advance_of_some h, ← atEnd_after rfl]
      exact ih (Function.update_self ..) (Nat.le_of_succ_le_succ hn)
  | send r next ih =>
      obtain ⟨n, rfl⟩ := Nat.exists_eq_succ_of_ne_zero (Nat.ne_zero_of_lt hn)
      rw [List.replicate_succ, run_cons, advance_of_some h, ← atEnd_after rfl]
      exact ih _ (Function.update_self ..) (Nat.le_of_succ_le_succ hn)

/-- A call that nothing comes between, from its start on. -/
theorem run_start (w : World ι σ) (i : ι) (given : Profile) (pass : Pass Failure Requeue) {n : Nat}
    (hn : (pass.moves (serve i) w.server).length ≤ n) :
    (w.start i given pass).run serve (List.replicate n i) =
      (w.start i given pass).atEnd (serve i) i ⟨given, pass⟩ :=
  run_alone (Function.update_self ..) hn

theorem moves_atEnd (serve : Handler σ) (w : World ι σ) (i : ι) (call : Call) :
    Record.moves i (w.atEnd serve i call).history =
      Record.moves i w.history ++ call.rest.moves serve w.server := by
  rw [atEnd, Record.moves_append, Record.moves_alone]

end World

/-! ### The control loop -/

namespace Controller.State

/-- To have seen profiles changes nothing but the agenda. -/
theorem sawProfiles_eq (now : Nat) (names : List String) (s : State) :
    let saw := names.foldl (fun s name => s.sawProfile now name) s
    saw.server = s.server ∧ saw.metrics = s.metrics ∧ saw.timeline = s.timeline := by
  induction names generalizing s with
  | nil => exact ⟨rfl, rfl, rfl⟩
  | cons name rest ih =>
      obtain ⟨hserver, hmetrics, htimeline⟩ := ih (s.sawProfile now name)
      have hsaw : (s.sawProfile now name).server = s.server ∧
          (s.sawProfile now name).metrics = s.metrics ∧
          (s.sawProfile now name).timeline = s.timeline := by
        unfold sawProfile
        split <;> exact ⟨rfl, rfl, rfl⟩
      exact ⟨hserver.trans hsaw.1, hmetrics.trans hsaw.2.1, htimeline.trans hsaw.2.2⟩

/-- What the loop reports of a run that has ended, behind what the run has noted itself. -/
def report (p : Profile) : Except Failure Requeue -> List Step
  | .ok _ => []
  | .error cause => [.event (cause.report p)]

theorem takeSteps_report (r : Metrics.Registry Nat) (steps : List Step) (p : Profile)
    (result : Except Failure Requeue) :
    r.takeSteps (steps ++ report p result) = r.takeSteps steps := by
  cases result with
  | ok requeue => rw [report, List.append_nil]
  | error cause => exact List.foldl_append

theorem runProfile_eq (setting : Setting) (now : Nat) (key : Key) (p : Profile) (s : State) :
    let o := (p.reconcile (setting.clock now) setting.templates).run Api.Server.serve s.server
    let ran := s.runProfile setting now key p
    ran.server = o.state ∧ ran.metrics = s.metrics.takeSteps o.steps ∧
      ran.timeline = s.timeline ++ (o.steps ++ report p o.result).map fun step =>
        { time := now, name := stepName p step, step := step } := by
  unfold runProfile
  generalize (p.reconcile (setting.clock now) setting.templates).run Api.Server.serve s.server = o
  obtain ⟨cause | requeue, steps, server⟩ := o
  · exact ⟨rfl, takeSteps_report s.metrics steps p (.error cause), rfl⟩
  · obtain ⟨hserver, hmetrics, htimeline⟩ := sawProfiles_eq now
      (patchedProfiles server.cluster (Step.requests steps)) _
    exact ⟨hserver, hmetrics.trans (takeSteps_report s.metrics steps p (.ok requeue)), htimeline⟩

/-- A run of the loop is a call that nothing comes between. -/
theorem runProfile_eq_call (setting : Setting) (now : Nat) (key : Key) (p : Profile) (s : State)
    {n : Nat} :
    let pass := p.reconcile (setting.clock now) setting.templates
    let w : World Unit Api.Server := { server := s.server, registry := s.metrics }
    let final := (w.start () p pass).run (fun _ => Api.Server.serve) (List.replicate n ())
    let ran := s.runProfile setting now key p
    (pass.moves Api.Server.serve s.server).length ≤ n ->
      ran.server = final.server ∧ ran.metrics = final.registry ∧
      ∃ result, Record.result? () final.history = some result ∧
        ran.timeline = s.timeline ++ (Record.course () final.history ++ report p result).map
          fun step => { time := now, name := stepName p step, step := step } := by
  intro pass w final ran hn
  have hfinal : final = (w.start () p pass).atEnd Api.Server.serve () ⟨p, pass⟩ :=
    w.run_start () p pass hn
  have hmoves : Record.moves () final.history =
      .started :: pass.moves Api.Server.serve s.server := by
    rw [hfinal, World.moves_atEnd]
    rfl
  have hcourse : Record.course () final.history = (pass.run Api.Server.serve s.server).steps := by
    rw [Record.course, hmoves, ← steps_moves]
    rfl
  have hresult : Record.result? () final.history =
      some (pass.run Api.Server.serve s.server).result := by
    obtain ⟨front, hfront⟩ := pass.moves_eq_concat Api.Server.serve s.server
    rw [Record.result?, hmoves, hfront, ← List.cons_append, List.getLast?_concat]
    rfl
  obtain ⟨hserver, hmetrics, htimeline⟩ := s.runProfile_eq setting now key p
  rw [hcourse]
  exact ⟨hserver.trans (by rw [hfinal]; rfl), hmetrics.trans (by rw [hfinal]; rfl), _, hresult,
    htimeline⟩

end Controller.State

end ProfileOperator
