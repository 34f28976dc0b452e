import ProfileOperator.Json.Decode
import ProfileOperator.Time.Reader

/-!
# Metadata of resources

Every object of the API server carries the same metadata.  All of its fields are optional, null means
the same as absent, and an empty list or dictionary is something other than none.  Time stamps are
written in whole seconds.
-/

namespace ProfileOperator

def Time.Instant.decode (j : Json) : Option Time.Instant :=
  j.string?.bind Time.Instant.parse?

structure OwnerReference where
  apiVersion : String
  kind : String
  name : String
  uid : String
  controller : Option Bool
  blockOwnerDeletion : Option Bool
deriving DecidableEq, Repr

namespace OwnerReference

/-- Read an owner reference; its strings may be missing and are then empty. -/
def decode : Json -> Option OwnerReference
  | .object fields => do
      let text := fun name => (Json.optionalField name Json.string? fields).map (·.getD "")
      some {
        apiVersion := ← text "apiVersion"
        kind := ← text "kind"
        name := ← text "name"
        uid := ← text "uid"
        controller := ← Json.optionalField "controller" Json.bool? fields
        blockOwnerDeletion := ← Json.optionalField "blockOwnerDeletion" Json.bool? fields }
  | _ => none

def encode (o : OwnerReference) : Json :=
  .object (
    [("apiVersion", .string o.apiVersion)] ++
    Json.whenSome "blockOwnerDeletion" .bool o.blockOwnerDeletion ++
    Json.whenSome "controller" .bool o.controller ++
    [("kind", .string o.kind), ("name", .string o.name), ("uid", .string o.uid)])

end OwnerReference

/-- Which client last wrote which fields. -/
structure ManagedFields where
  apiVersion : Option String
  fieldsType : Option String
  fieldsV1 : Option Json
  manager : Option String
  operation : Option String
  subresource : Option String
  time : Option Time.Instant
deriving Repr

namespace ManagedFields

def decode : Json -> Option ManagedFields
  | .object fields => do
      let text := fun name => Json.optionalField name Json.string? fields
      some {
        apiVersion := ← text "apiVersion"
        fieldsType := ← text "fieldsType"
        fieldsV1 := ← Json.optionalField "fieldsV1" Json.any fields
        manager := ← text "manager"
        operation := ← text "operation"
        subresource := ← text "subresource"
        time := ← Json.optionalField "time" Time.Instant.decode fields }
  | _ => none

def encode (m : ManagedFields) : Json :=
  .object (
    Json.whenSome "apiVersion" .string m.apiVersion ++
    Json.whenSome "fieldsType" .string m.fieldsType ++
    Json.whenSome "fieldsV1" id m.fieldsV1 ++
    Json.whenSome "manager" .string m.manager ++
    Json.whenSome "operation" .string m.operation ++
    Json.whenSome "subresource" .string m.subresource ++
    Json.whenSome "time" (fun t => .string t.secondsText) m.time)

end ManagedFields

structure Metadata where
  annotations : Option (Dict String) := none
  creationTimestamp : Option Time.Instant := none
  deletionGracePeriodSeconds : Option Int := none
  deletionTimestamp : Option Time.Instant := none
  finalizers : Option (List String) := none
  generateName : Option String := none
  generation : Option Int := none
  labels : Option (Dict String) := none
  managedFields : Option (List ManagedFields) := none
  name : Option String := none
  namespaceName : Option String := none
  ownerReferences : Option (List OwnerReference) := none
  resourceVersion : Option String := none
  selfLink : Option String := none
  uid : Option String := none

namespace Metadata

/-- The name that the object goes by: its own, else the one it was generated from, else none at all. -/
def nameAny (m : Metadata) : String :=
  (m.name.or m.generateName).getD ""

def isDeleting (m : Metadata) : Bool :=
  m.deletionTimestamp.isSome

def finalizerList (m : Metadata) : List String :=
  m.finalizers.getD []

def hasLabel (m : Metadata) (key value : String) : Bool :=
  match m.labels with
  | some labels => labels.get? key = some value
  | none => false

def decode : Json -> Option Metadata
  | .object fields => do
      let text := fun name => Json.optionalField name Json.string? fields
      let texts := fun name => Json.optionalField name (Json.dictOf Json.string?) fields
      let time := fun name => Json.optionalField name Time.Instant.decode fields
      some {
        annotations := ← texts "annotations"
        creationTimestamp := ← time "creationTimestamp"
        deletionGracePeriodSeconds :=
          ← Json.optionalField "deletionGracePeriodSeconds" Json.int64? fields
        deletionTimestamp := ← time "deletionTimestamp"
        finalizers := ← Json.optionalField "finalizers" (Json.listOf Json.string?) fields
        generateName := ← text "generateName"
        generation := ← Json.optionalField "generation" Json.int64? fields
        labels := ← texts "labels"
        managedFields :=
          ← Json.optionalField "managedFields" (Json.listOf ManagedFields.decode) fields
        name := ← text "name"
        namespaceName := ← text "namespace"
        ownerReferences :=
          ← Json.optionalField "ownerReferences" (Json.listOf OwnerReference.decode) fields
        resourceVersion := ← text "resourceVersion"
        selfLink := ← text "selfLink"
        uid := ← text "uid" }
  | _ => none

def encode (m : Metadata) : Json :=
  let time := fun (t : Time.Instant) => Json.string t.secondsText
  .object (
    Json.whenSome "annotations" Json.ofDict m.annotations ++
    Json.whenSome "creationTimestamp" time m.creationTimestamp ++
    Json.whenSome "deletionGracePeriodSeconds" Json.int m.deletionGracePeriodSeconds ++
    Json.whenSome "deletionTimestamp" time m.deletionTimestamp ++
    Json.whenSome "finalizers" Json.strings m.finalizers ++
    Json.whenSome "generateName" .string m.generateName ++
    Json.whenSome "generation" Json.int m.generation ++
    Json.whenSome "labels" Json.ofDict m.labels ++
    Json.whenSome "managedFields" (fun l => .array (l.map ManagedFields.encode)) m.managedFields ++
    Json.whenSome "name" .string m.name ++
    Json.whenSome "namespace" .string m.namespaceName ++
    Json.whenSome "ownerReferences" (fun l => .array (l.map OwnerReference.encode))
      m.ownerReferences ++
    Json.whenSome "resourceVersion" .string m.resourceVersion ++
    Json.whenSome "selfLink" .string m.selfLink ++
    Json.whenSome "uid" .string m.uid)

end Metadata

end ProfileOperator
