import ProfileOperator.Reconcile.Pass

/-!
# Reconciling a profile

The pass that brings the server to what a profile calls for: check the profile, apply its namespace, apply
the PodDefault of every template, delete the managed PodDefaults that no template names any more, and
record the result in the status.  The pass ends at its first failure.
-/

namespace ProfileOperator

/-- When a profile is to be reconciled again if nothing changes before. -/
inductive Requeue where
  | after (seconds : Nat)
  | onChange
deriving DecidableEq, Repr

namespace Profile

def validate (p : Profile) : Except ValidationError Unit :=
  match p.spec.owner with
  | none => .error .ownerMissing
  | some owner =>
      if owner.name = "" then .error .ownerNameEmpty
      else if owner.kind ∈ ownerKinds then .ok ()
      else .error .ownerKindUnknown

def reconcileNamespace (p : Profile) : Pass Failure String := do
  Pass.request .applyNamespace (.applyNamespace p.name p.desiredNamespace)
  Pass.log .info ("Reconciled Namespace " ++ p.name)
  return p.name

/-- Apply the PodDefaults of templates in order; gives their names. -/
def applyTemplates (p : Profile) (namespaceName : String) : List Template -> Pass Failure (List String)
  | [] => return []
  | t :: rest => do
      Pass.request (.applyPodDefault t.name) (.applyPodDefault namespaceName t.name (t.desired p))
      Pass.log .debug ("Reconciled PodDefault " ++ namespaceName ++ "/" ++ t.name)
      let names ← applyTemplates p namespaceName rest
      return t.name :: names

end Profile

def deletePodDefaults (namespaceName : String) : List String -> Pass Failure Nat
  | [] => return 0
  | name :: rest => do
      Pass.request (.deletePodDefault name) (.deletePodDefault namespaceName name)
      Pass.log .info ("Pruned PodDefault " ++ namespaceName ++ "/" ++ name)
      let count ← deletePodDefaults namespaceName rest
      return count + 1

/-- Delete the managed PodDefaults of a namespace that are not to be kept; gives how many. -/
def prunePodDefaults (namespaceName : String) (keep : List String) : Pass Failure Nat := do
  let existing ← Pass.request .listPodDefaults (.listPodDefaults namespaceName)
  deletePodDefaults namespaceName ((existing.map PodDefault.name).filter fun name => name ∉ keep)

namespace Profile

/-- Bring the PodDefaults of a namespace to what the templates say; gives the names of the templates. -/
def reconcilePodDefaults (p : Profile) (namespaceName : String) (templates : List Template) :
    Pass Failure (List String) := do
  let applied ← p.applyTemplates namespaceName templates
  let pruned ← prunePodDefaults namespaceName applied
  Pass.log .info ("Reconciled " ++ toString applied.length ++ " PodDefaults in " ++ namespaceName ++
    " (" ++ toString pruned ++ " pruned)")
  return applied

def readyStatus (p : Profile) (now : Time.Instant) (applied : List String) : ProfileStatus where
  conditions := [
    { type := "PodDefaultsApplied"
      status := "True"
      message := some (
        if applied = [] then "No PodDefaults configured"
        else "Applied PodDefaults: " ++ String.intercalate ", " applied)
      lastTransitionTime := some now },
    { type := "Ready"
      status := "True"
      message := some ("Namespace " ++ p.name ++ " is ready")
      lastTransitionTime := some now }]

def updateStatus (p : Profile) (now : Time.Instant) (applied : List String) : Pass Failure Unit := do
  Pass.request .updateStatus (.patchStatus p.name (p.readyStatus now applied))
  Pass.log .info ("Updated status for profile " ++ p.name)

def resyncSeconds : Nat := 300

def apply (p : Profile) (now : Time.Instant) (templates : List Template) : Pass Failure Requeue := do
  Pass.log .info ("Applying Profile " ++ p.name)
  Pass.ofExcept (p.validate.mapError .validation)
  let namespaceName ← p.reconcileNamespace
  let applied ← p.reconcilePodDefaults namespaceName templates
  Pass.measure (.applied p.name applied.length)
  p.updateStatus now applied
  return .after resyncSeconds

/--
Tidy up after a profile that is being deleted.  Its namespace and PodDefaults go away with it, so only
the measure of them is left to do.
-/
def cleanup (p : Profile) : Pass Failure Requeue := do
  Pass.log .info ("Cleaning up Profile " ++ p.name)
  Pass.measure (.unapplied p.name)
  return .onChange

end Profile

end ProfileOperator
