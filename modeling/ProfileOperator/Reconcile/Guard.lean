import ProfileOperator.Reconcile.Profile

/-!
# Runs under a finalizer

A finalizer keeps a profile on the server until the operator has tidied up after it.  A run looks at the
profile as it was last seen: without the finalizer it only puts it on, with it it applies the profile, and
once the profile is being deleted it tidies up and takes the finalizer off.
-/

namespace ProfileOperator

def finalizer : String := "kubeflow.org/profile-finalizer"

namespace Profile

/-- The change that puts the finalizer on a profile. -/
def finalizerAddition (p : Profile) : Api.FinalizerChange :=
  if p.metadata.finalizerList = [] then .first finalizer
  else .append p.metadata.finalizerList finalizer

def changeFinalizers (p : Profile) (change : Api.FinalizerChange)
    (failure : Api.ClientError -> GuardFailure Failure) : Pass (GuardFailure Failure) Unit :=
  match p.metadata.name with
  | some name => (Pass.ask (.patchFinalizers name change)).mapError failure
  | none => .fail .unnamed

/-- Do what the finalizer of a profile calls for. -/
def guarded (p : Profile) (now : Time.Instant) (templates : List Template) :
    Pass (GuardFailure Failure) Requeue :=
  match p.metadata.finalizerList.idxOf? finalizer, p.metadata.isDeleting with
  | some _, false => (p.apply now templates).mapError .apply
  | some index, true =>
      match p.metadata.name with
      | none => .fail .unnamed
      | some _ => do
          let requeue ← p.cleanup.mapError .cleanup
          p.changeFinalizers (.removeAt index finalizer) .removeFinalizer
          return requeue
  | none, false => do
      p.changeFinalizers p.finalizerAddition .addFinalizer
      return .onChange
  | none, true => return .onChange

/-- One run for a profile, with its measures and its last log line. -/
def reconcile (p : Profile) (now : Time.Instant) (templates : List Template) :
    Pass Failure Requeue := do
  Pass.measure .started
  (p.guarded now templates).andThen fun result => do
    Pass.measure .ended
    match result with
    | .ok requeue => do
        Pass.log .info ("Successfully reconciled " ++ p.name)
        return requeue
    | .error cause => do
        Pass.measure .failed
        Pass.log .error ("Failed to reconcile " ++ p.name ++ ": " ++ cause.shown)
        Pass.fail (.guarded cause)

end Profile

/-- When to try again after a failure. -/
def Failure.requeue : Failure -> Requeue
  | .request .. => .after 30
  | .config _ => .after 300
  | .validation _ => .after 300
  | _ => .after 60

def Failure.report (f : Failure) (p : Profile) : Event :=
  .log .error ("Reconciliation error for " ++ p.name ++ ": " ++ f.shown)

end ProfileOperator
