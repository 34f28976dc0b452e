import ProfileOperator.CommandLine.Configuration
import ProfileOperator.Flag.TreeJson
import ProfileOperator.Metrics.Endpoint
import ProfileOperator.Reconcile.Pass

/-!
# The program from outside

What a call of the program does up to the point where it serves: what it logs, what it prints, and how it
ends.  What the host has to offer is given.
-/

namespace ProfileOperator

namespace CommandLine

structure Host where
  /-- There is a configuration by which a cluster can be reached. -/
  clusterKnown : Bool
  binding : Metrics.Binding
deriving DecidableEq, Repr

structure Call where
  /-- The exit code, or nothing while the program serves. -/
  exitCode : Option Nat
  logs : List (Level × String) := []
  output : String := ""
  errors : String := ""
deriving DecidableEq

def startingLine : Level × String :=
  (.info, "Starting Kubeflow Profile controller")

def serveCall (host : Host) (config : Configuration) : Call :=
  let logs := [startingLine, (.info, "Loaded pod defaults: " ++ config.podDefaults.encode.compact)]
  if host.clusterKnown then
    let logs := logs ++ [
      (.info, "Connected to Kubernetes API server"),
      (.info, "Metrics server starting on " ++ config.metricsAddress.text)]
    match host.binding with
    | .granted => { exitCode := none, logs := logs }
    | .refused =>
        { exitCode := some 0
          logs := logs ++ [
            (.error, "Metrics server exited unexpectedly"),
            (.info, "Kubeflow Profile controller stopped")] }
  else
    { exitCode := some 1, logs := logs, errors := "Error: no configuration of a cluster was found\n" }

def call (host : Host) (path : String) (args : List String) : Call :=
  match readArguments args with
  | .error (.asked .help) => { exitCode := some 0, output := helpText .pauses (calledName path) }
  | .error (.asked .version) => { exitCode := some 0, output := versionText }
  | .error (.wrong e) => { exitCode := some 2, errors := e.headline .pauses ++ "\n" }
  | .ok options =>
      match Configuration.ofOptions options with
      | .error failure =>
          { exitCode := some 1
            logs := [startingLine, (.error, "Unable to parse pod defaults: " ++ failure.message)] }
      | .ok config => serveCall host config

end CommandLine

end ProfileOperator
