import ProfileOperator.Text.Quoted

/-!
# Failed requests

What the client of the API server reports when a request brings no answer that it can use.  Every
failure has two forms: the message for people, and the form shown inside the records of failures
that wrap it.
-/

namespace ProfileOperator

namespace Api

structure ErrorStatus where
  status : String
  message : String
  reason : String
  code : Nat
deriving DecidableEq, Repr

def ErrorStatus.shown (s : ErrorStatus) : String :=
  "ErrorResponse \x7b status: " ++ Text.quoted s.status ++ ", message: " ++ Text.quoted s.message ++
    ", reason: " ++ Text.quoted s.reason ++ ", code: " ++ toString s.code ++ " \x7d"

inductive TargetError where
  | invalidCharacter
  | tooLong
deriving DecidableEq, Repr

namespace TargetError

def message : TargetError -> String
  | .invalidCharacter => "invalid uri character"
  | .tooLong => "uri too long"

def word : TargetError -> String
  | .invalidCharacter => "InvalidUriChar"
  | .tooLong => "TooLong"

end TargetError

/-- Why a request brought no usable answer. -/
inductive ClientError where
  | rejected (status : ErrorStatus)
  | lost (cause : String)
  /-- With the names in its path it has no target, so it was never sent. -/
  | unaddressable (cause : TargetError)
  /-- The name of the object that it is about is empty, so it was never sent. -/
  | unnamed
deriving DecidableEq, Repr

namespace ClientError

def nameRequired : String := "A non-empty name is required"

def message : ClientError -> String
  | .rejected s => "ApiError: " ++ s.message ++ ": " ++ s.reason ++ " (" ++ s.shown ++ ")"
  | .lost cause => "ServiceError: " ++ cause
  | .unaddressable cause => "Failed to build request: failed to build request: " ++ cause.message
  | .unnamed => "Failed to build request: failed to validate request: " ++ nameRequired

def shown : ClientError -> String
  | .rejected s => "Api(" ++ s.shown ++ ")"
  | .lost cause => "Service(" ++ Text.quoted cause ++ ")"
  | .unaddressable cause =>
      "BuildRequest(BuildRequest(http::Error(InvalidUri(" ++ cause.word ++ "))))"
  | .unnamed => "BuildRequest(Validation(" ++ Text.quoted nameRequired ++ "))"

end ClientError

end Api

end ProfileOperator
