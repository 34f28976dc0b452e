import ProfileOperator.Api.Target
import ProfileOperator.Desired

/-!
# Requests

Everything that the operator asks of the API server, as values: what a request is about, what an answer
to it brings, and how it is sent.
-/

namespace ProfileOperator

namespace Api

/-- A change of the finalizers of a profile, as the patch that carries it out. -/
inductive FinalizerChange where
  | first (finalizer : String)
  | append (present : List String) (finalizer : String)
  | removeAt (index : Nat) (finalizer : String)
deriving DecidableEq, Repr

inductive Request where
  | applyNamespace (name : String) (body : Namespace)
  | applyPodDefault (namespaceName name : String) (body : PodDefault)
  /-- List the PodDefaults of a namespace that this operator manages. -/
  | listPodDefaults (namespaceName : String)
  | deletePodDefault (namespaceName name : String)
  | patchStatus (profile : String) (status : ProfileStatus)
  | patchFinalizers (profile : String) (change : FinalizerChange)

abbrev Request.Reply : Request -> Type
  | .listPodDefaults _ => List PodDefault
  | _ => Unit

/-! ### Requests as they are sent -/

structure Wire where
  method : String
  path : String
  query : String
  contentType : Option String
  body : Json

namespace FinalizerChange

def operation (op path : String) (value : Option Json) : Json :=
  .object ([("op", .string op), ("path", .string path)] ++ Json.whenSome "value" id value)

def finalizersPath : String := "/metadata/finalizers"

/-- The patch of a change: a test that the object is as it was seen, then the change itself. -/
def patch : FinalizerChange -> Json
  | .first finalizer => .array [
      operation "test" finalizersPath (some .null),
      operation "add" finalizersPath (some (Json.strings [finalizer]))]
  | .append present finalizer => .array [
      operation "test" finalizersPath (some (Json.strings present)),
      operation "add" (finalizersPath ++ "/-") (some (.string finalizer))]
  | .removeAt index finalizer =>
      let path := finalizersPath ++ "/" ++ toString index
      .array [
        operation "test" path (some (.string finalizer)),
        operation "remove" path none]

end FinalizerChange

namespace Request

def method : Request -> String
  | .listPodDefaults _ => "GET"
  | .deletePodDefault .. => "DELETE"
  | _ => "PATCH"

def podDefaultsPath (namespaceName : String) : String :=
  "/apis/" ++ PodDefault.apiVersion ++ "/namespaces/" ++ namespaceName ++ "/poddefaults"

def profilePath (name : String) : String :=
  "/apis/" ++ Profile.apiVersion ++ "/profiles/" ++ name

/-- The path that a request asks for, with the names in it as they are. -/
def pathText : Request -> String
  | .applyNamespace name _ => "/api/v1/namespaces/" ++ name
  | .applyPodDefault namespaceName name _ => podDefaultsPath namespaceName ++ "/" ++ name
  | .listPodDefaults namespaceName => podDefaultsPath namespaceName
  | .deletePodDefault namespaceName name => podDefaultsPath namespaceName ++ "/" ++ name
  | .patchStatus profile _ => profilePath profile ++ "/status"
  | .patchFinalizers profile _ => profilePath profile

def parameters : Request -> String
  | .applyNamespace .. => parameter "fieldManager" managerName
  | .applyPodDefault .. => parameter "fieldManager" managerName
  | .listPodDefaults _ => parameter "labelSelector" managedSelector
  | _ => ""

def target (r : Request) : Except TargetError Target :=
  Target.ofText (r.pathText ++ "?" ++ r.parameters)

def objectName? : Request -> Option String
  | .applyNamespace name _ => some name
  | .applyPodDefault _ name _ => some name
  | .listPodDefaults _ => none
  | .deletePodDefault _ name => some name
  | .patchStatus profile _ => some profile
  | .patchFinalizers profile _ => some profile

/-- What keeps a request from being sent. -/
def obstacle? (r : Request) : Option ClientError :=
  if r.objectName? = some "" then some .unnamed
  else
    match r.target with
    | .ok _ => none
    | .error cause => some (.unaddressable cause)

/-- The name in the path by which requests are told apart: that of the namespace or the profile. -/
def subject : Request -> String
  | .applyNamespace name _ => nameRead name
  | .applyPodDefault namespaceName _ _ => nameRead namespaceName
  | .listPodDefaults namespaceName => nameRead namespaceName
  | .deletePodDefault namespaceName _ => nameRead namespaceName
  | .patchStatus profile _ => nameRead profile
  | .patchFinalizers profile _ => nameRead profile

def contentType : Request -> Option String
  | .applyNamespace .. => some "application/apply-patch+yaml"
  | .applyPodDefault .. => some "application/apply-patch+yaml"
  | .listPodDefaults _ => none
  | .deletePodDefault .. => some "application/json"
  | .patchStatus .. => some "application/merge-patch+json"
  | .patchFinalizers .. => some "application/json-patch+json"

def body : Request -> Json
  | .applyNamespace _ body => body.encode
  | .applyPodDefault _ _ body => body.encode
  | .listPodDefaults _ => .null
  | .deletePodDefault .. => .object []
  | .patchStatus _ status => .object [("status", status.encode)]
  | .patchFinalizers _ change => change.patch

def wire? (r : Request) : Option Wire :=
  r.target.toOption.map fun target =>
    { method := r.method, path := target.path, query := target.query, contentType := r.contentType,
      body := r.body }

end Request

end Api

end ProfileOperator
