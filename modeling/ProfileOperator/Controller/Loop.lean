import ProfileOperator.Api.Server
import ProfileOperator.Controller.Agenda
import ProfileOperator.Metrics.Registry
import ProfileOperator.Reconcile.Guard

/-!
# The control loop

The loop runs profiles as the agenda says, sees what changes on the server, and asks for further runs.
Time is counted in whole seconds from the start and passes only between runs.  What comes from outside in a
second happens before the runs of that second, and in the first second even before the loop looks at the
server.  Everything that happens is kept with its time and the name that it belongs to.
-/

namespace ProfileOperator

namespace Controller

/-- Something that happens to the server or to the loop from outside. -/
inductive Incident where
  | applyProfile (p : Profile)
  | deleteProfile (name : String)
  | arm (fault : Api.Fault)
  | seed (body : PodDefault)
  | touch (namespaceName name : String)
  | remove (namespaceName name : String)
  | stop

structure Scheduled where
  due : Nat
  incident : Incident

structure Entry where
  time : Nat
  /-- That of a profile, the one in the path of a request, or empty for the loop itself. -/
  name : String
  step : Step

structure Setting where
  templates : List Template
  /-- The point in time of a second. -/
  clock : Nat -> Time.Instant

structure State where
  server : Api.Server
  agenda : Agenda := []
  metrics : Metrics.Registry Nat
  timeline : List Entry := []
  stopped : Bool := false

namespace State

def sawProfile (s : State) (now : Nat) (name : String) : State :=
  if s.stopped then s
  else { s with agenda := s.agenda.schedule now { profile := name } }

/-- The key under which the owner of a PodDefault is run. -/
def ownerKey? (body : PodDefault) (owner : OwnerReference) : Option Key :=
  if owner.apiVersion = Profile.apiVersion ∧ owner.kind = Profile.kind then
    some { profile := owner.name, onBehalfOf := body.metadata.namespaceName }
  else none

/-- Ask for runs of the profiles that own a PodDefault now because a change of it was seen. -/
def sawPodDefault (s : State) (now : Nat) (body : PodDefault) : State :=
  if s.stopped then s
  else
    { s with
      agenda := ((body.metadata.ownerReferences.getD []).filterMap (ownerKey? body)).foldl
        (fun agenda key => agenda.schedule now key) s.agenda }

def onCluster (s : State) (f : Api.Cluster -> Api.Cluster) : State :=
  { s with server := { s.server with cluster := f s.server.cluster } }

def say (s : State) (now : Nat) (text : String) : State :=
  { s with
    timeline := s.timeline ++ [{ time := now, name := "", step := .event (.log .info text) }] }

/-! ### Runs -/

/-- The profiles whose finalizers were patched in a run that succeeded and that are still there. -/
def patchedProfiles (cluster : Api.Cluster) (requests : List Api.Request) : List String :=
  requests.filterMap fun request =>
    match request with
    | .patchFinalizers .. =>
        if cluster.profiles.contains request.subject then some request.subject else none
    | _ => none

def stepName (p : Profile) : Step -> String
  | .sent request => request.subject
  | .event _ => p.name

/-- Run a profile as it is stored; what it asks for next goes on the agenda. -/
def runProfile (setting : Setting) (now : Nat) (key : Key) (p : Profile) (s : State) : State :=
  let outcome := (p.reconcile (setting.clock now) setting.templates).run Api.Server.serve s.server
  let (requeue, report, patched) := match outcome.result with
    | .ok requeue =>
        (requeue, [], patchedProfiles outcome.state.cluster (Step.requests outcome.steps))
    | .error cause => (cause.requeue, [Step.event (cause.report p)], [])
  let steps := outcome.steps ++ report
  let agenda := match requeue with
    | .after seconds => s.agenda.schedule (now + seconds) key
    | .onChange => s.agenda
  let s : State := { s with
    server := outcome.state
    agenda := agenda
    metrics := s.metrics.takeSteps steps
    timeline := s.timeline ++ steps.map fun step =>
      { time := now, name := stepName p step, step := step } }
  patched.foldl (fun s name => s.sawProfile now name) s

def runPending (setting : Setting) (pending : Pending) (s : State) : State :=
  let s := { s with agenda := s.agenda.drop pending.key }
  match s.server.cluster.profiles.get? pending.key.profile with
  | some p => s.runProfile setting pending.due pending.key p
  | none => s

/-! ### Incidents -/

/-- The profile that replaces another one: its finalizers and deletion stay unless it brings its own. -/
def replacing (old new : Profile) : Profile :=
  { new with
    metadata := { new.metadata with
      finalizers := new.metadata.finalizers.or old.metadata.finalizers
      deletionTimestamp := new.metadata.deletionTimestamp.or old.metadata.deletionTimestamp } }

def meet (setting : Setting) (now : Nat) (s : State) : Incident -> State
  | .applyProfile p =>
      let name := p.metadata.name.getD ""
      let stored := match s.server.cluster.profiles.get? name with
        | some old => replacing old p
        | none => p
      (s.onCluster (·.putProfile stored)).sawProfile now name
  | .deleteProfile name =>
      match s.server.cluster.profiles.get? name with
      | none => s
      | some p =>
          if p.metadata.finalizerList = [] then
            s.onCluster fun c => { c with profiles := c.profiles.erase name }
          else
            let dying :=
              { p with metadata := { p.metadata with deletionTimestamp := some (setting.clock now) } }
            (s.onCluster fun c => { c with profiles := c.profiles.insert name dying }).sawProfile
              now name
  | .arm fault => { s with server := s.server.arm fault }
  | .seed body => (s.onCluster (·.seed body)).sawPodDefault now body
  | .touch namespaceName name =>
      match s.server.cluster.podDefault? namespaceName name with
      | some body => s.sawPodDefault now body
      | none => s
  | .remove namespaceName name =>
      match s.server.cluster.podDefault? namespaceName name with
      | some body =>
          (s.onCluster (·.dropPodDefault namespaceName name)).sawPodDefault now body
      | none => s
  | .stop =>
      if s.stopped then s
      else
        ({ s with
          agenda := []
          stopped := true
          metrics := { s.metrics with health := 0 } } : State).say now "Profile controller stopped"

/-! ### The loop -/

/--
Go on until the end.  An incident comes before the runs of its second.  The incidents of the last second
still happen, but its runs do not.
-/
def advance (setting : Setting) (horizon : Nat) : Nat -> List Scheduled -> State -> State
  | 0, _, s => s
  | fuel + 1, incidents, s =>
      match s.agenda.next?.filter fun pending => pending.due < horizon, incidents with
      | some pending, incident :: rest =>
          if pending.due < incident.due then
            advance setting horizon fuel incidents (s.runPending setting pending)
          else
            advance setting horizon fuel rest (s.meet setting incident.due incident.incident)
      | some pending, [] => advance setting horizon fuel [] (s.runPending setting pending)
      | none, incident :: rest =>
          if incident.due ≤ horizon then
            advance setting horizon fuel rest (s.meet setting incident.due incident.incident)
          else s
      | none, [] => s

/-- Look at the server for the first time: every profile is due, and so are the owners of the PodDefaults. -/
def survey (s : State) : State :=
  let cluster := s.server.cluster
  (cluster.podDefaults.values.flatMap Dict.values).foldl (fun s body => s.sawPodDefault 0 body)
    (cluster.profiles.keys.foldl (fun s name => s.sawProfile 0 name) { s with agenda := [] })

def meetAll (setting : Setting) (incidents : List Scheduled) (s : State) : State :=
  incidents.foldl (fun s incident => s.meet setting incident.due incident.incident) s

end State

/-- The incidents in their order, none of them before the one in front of it. -/
def inOrder (earliest : Nat) : List Scheduled -> List Scheduled
  | [] => []
  | incident :: rest =>
      let due := max earliest incident.due
      { incident with due := due } :: inOrder due rest

def finalizerCount (p : Profile) : Nat :=
  p.metadata.finalizerList.length

def Incident.finalizerCount : Incident -> Nat
  | .applyProfile p => Controller.finalizerCount p
  | _ => 0

/--
A bound for the steps of the loop.  In one second each key is run at most once for every incident, every
pending run and every finalizer that is put on or taken off.
-/
def stepBound (server : Api.Server) (incidents : List Scheduled) (horizon : Nat) : Nat :=
  let things := 8 + server.cluster.profiles.size + incidents.length +
    (server.cluster.podDefaults.values.map Dict.size).foldl Nat.add 0 +
    (server.cluster.profiles.values.map finalizerCount).foldl Nat.add 0 +
    (incidents.map fun i => i.incident.finalizerCount).foldl Nat.add 0
  (horizon + 2) * Nat.pow things 4

def greeting (setting : Setting) : String :=
  "Starting Profile controller with " ++ toString setting.templates.length ++ " configured PodDefaults"

/-- Run the loop up to a second.  A loop that is given no time does not start. -/
def run (setting : Setting) (server : Api.Server) (incidents : List Scheduled) (horizon : Nat) :
    State :=
  let incidents := inOrder 0 incidents
  let early := incidents.takeWhile fun incident => incident.due = 0
  let late := incidents.dropWhile fun incident => incident.due = 0
  let s : State := { server := server, metrics := .fresh 1 }
  if horizon = 0 then s.meetAll setting early
  else
    (((s.say 0 (greeting setting)).meetAll setting early).survey).advance setting horizon
      (stepBound server incidents horizon) late

end Controller

end ProfileOperator
