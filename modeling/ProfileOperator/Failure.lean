import ProfileOperator.Api.ClientError
import ProfileOperator.Template

/-!
# Failures

Everything that can go wrong between the text of the flag and the last request of a run, as causes.
The wording is given once for each cause, in two forms: the message, and the form shown in the log when
a run has failed.
-/

namespace ProfileOperator

inductive ValidationError where
  | ownerMissing
  | ownerNameEmpty
  | ownerKindUnknown
deriving DecidableEq, Repr

def ownerKinds : List String := ["User", "Group", "ServiceAccount"]

def ValidationError.text : ValidationError -> String
  | .ownerMissing => "spec.owner is required"
  | .ownerNameEmpty => "spec.owner.name cannot be empty"
  | .ownerKindUnknown => "spec.owner.kind must be one of: " ++ Text.quotedList ownerKinds

inductive Purpose where
  | applyNamespace
  | applyPodDefault (name : String)
  | listPodDefaults
  | deletePodDefault (name : String)
  | updateStatus
deriving DecidableEq, Repr

def Purpose.failed : Purpose -> String
  | .applyNamespace => "Failed to create/update Namespace: "
  | .applyPodDefault name => "Failed to create/update PodDefault " ++ name ++ ": "
  | .listPodDefaults => "Failed to list PodDefaults: "
  | .deletePodDefault name => "Failed to delete PodDefault " ++ name ++ ": "
  | .updateStatus => "Failed to update status: "

/-- Where a run that is guarded by a finalizer failed; `ε` is a failure of the guarded work. -/
inductive GuardFailure (ε : Type) where
  | apply (cause : ε)
  | cleanup (cause : ε)
  | addFinalizer (cause : Api.ClientError)
  | removeFinalizer (cause : Api.ClientError)
  /-- The profile has no name under which its finalizers could be patched. -/
  | unnamed
deriving DecidableEq, Repr

inductive Failure where
  | request (purpose : Purpose) (cause : Api.ClientError)
  | config (cause : ConfigError)
  | validation (cause : ValidationError)
  | flag (cause : Flag.FlagError)
  | guarded (cause : GuardFailure Failure)
deriving Repr

def Flag.FlagError.shown : Flag.FlagError -> String
  | .unclosedQuote mark => "MalformedInput \x7b quote: " ++ Text.quotedChar mark ++ " \x7d"
  | .malformedEntry entry => "MalformedEntry \x7b entry: " ++ Text.quoted entry ++ " \x7d"

def Purpose.failure (purpose : Purpose) (cause : Api.ClientError) : String :=
  purpose.failed ++ cause.message

mutual

/-- The form of a failure in the log of a failed run. -/
def Failure.shown : Failure -> String
  | .request purpose cause => "KubeError(" ++ Text.quoted (purpose.failure cause) ++ ")"
  | .config cause => "ConfigError(" ++ Text.quoted cause.text ++ ")"
  | .validation cause => "ValidationError(" ++ Text.quoted cause.text ++ ")"
  | .flag cause => "Parse(" ++ cause.shown ++ ")"
  | .guarded cause => "FinalizerError(" ++ cause.shown ++ ")"

def GuardFailure.shown : GuardFailure Failure -> String
  | .apply cause => "ApplyFailed(" ++ cause.shown ++ ")"
  | .cleanup cause => "CleanupFailed(" ++ cause.shown ++ ")"
  | .addFinalizer cause => "AddFinalizer(" ++ cause.shown ++ ")"
  | .removeFinalizer cause => "RemoveFinalizer(" ++ cause.shown ++ ")"
  | .unnamed => "UnnamedObject"

end

mutual

def Failure.message : Failure -> String
  | .request purpose cause => "Kubernetes API error: " ++ purpose.failure cause
  | .config cause => "Configuration error: " ++ cause.text
  | .validation cause => "Validation error: " ++ cause.text
  | .flag cause => "Pod defaults error: " ++ cause.message
  | .guarded cause => "Finalizer error: " ++ cause.message

def GuardFailure.message : GuardFailure Failure -> String
  | .apply cause => "failed to apply object: " ++ cause.message
  | .cleanup cause => "failed to clean up object: " ++ cause.message
  | .addFinalizer cause => "failed to add finalizer: " ++ cause.message
  | .removeFinalizer cause => "failed to remove finalizer: " ++ cause.message
  | .unnamed => "object has no name"

end

end ProfileOperator
