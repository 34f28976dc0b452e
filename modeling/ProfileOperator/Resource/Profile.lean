import ProfileOperator.Resource.Metadata

/-!
# Profiles

A profile is a cluster-wide resource that owns a namespace of the same name.  Its specification names
the owner and carries settings that pass through unread; its status is a list of conditions.
-/

namespace ProfileOperator

structure Subject where
  kind : String
  name : String
  apiGroup : Option String := none
deriving DecidableEq, Repr

namespace Subject

def decode (j : Json) : Option Subject := do
  match ← j.slots ["kind", "name", "apiGroup"] with
  | [kind, name, apiGroup] =>
      some {
        kind := ← kind.required Json.string?
        name := ← name.required Json.string?
        apiGroup := ← apiGroup.optional Json.string? }
  | _ => none

def encode (s : Subject) : Json :=
  .object (
    [("kind", .string s.kind), ("name", .string s.name)] ++
    Json.whenSome "apiGroup" .string s.apiGroup)

end Subject

structure ProfileSpec where
  owner : Option Subject := none
  /-- Limits for the namespace, passed through as they are. -/
  resourceQuotaSpec : Option Json := none
  /-- Settings of plugins, passed through as they are. -/
  plugins : List Json := []

namespace ProfileSpec

def decode (j : Json) : Option ProfileSpec := do
  match ← j.slots ["owner", "resourceQuotaSpec", "plugins"] with
  | [owner, quota, plugins] =>
      some {
        owner := ← owner.optional Subject.decode
        resourceQuotaSpec := ← quota.optional Json.any
        plugins := ← plugins.defaulted [] (Json.listOf Json.any) }
  | _ => none

def encode (s : ProfileSpec) : Json :=
  .object (
    Json.whenSome "owner" Subject.encode s.owner ++
    Json.whenSome "resourceQuotaSpec" id s.resourceQuotaSpec ++
    Json.skipIf s.plugins.isEmpty "plugins" Json.array s.plugins)

end ProfileSpec

structure Condition where
  type : String
  status : String
  message : Option String := none
  lastTransitionTime : Option Time.Instant := none
deriving DecidableEq, Repr

namespace Condition

def decode (j : Json) : Option Condition := do
  match ← j.slots ["type", "status", "message", "lastTransitionTime"] with
  | [type, status, message, time] =>
      some {
        type := ← type.required Json.string?
        status := ← status.required Json.string?
        message := ← message.optional Json.string?
        lastTransitionTime := ← time.optional Time.Instant.decode }
  | _ => none

def encode (c : Condition) : Json :=
  .object (
    [("type", .string c.type), ("status", .string c.status)] ++
    Json.whenSome "message" .string c.message ++
    Json.whenSome "lastTransitionTime" (fun t => .string t.text) c.lastTransitionTime)

end Condition

structure ProfileStatus where
  conditions : List Condition := []
deriving DecidableEq, Repr

namespace ProfileStatus

def decode (j : Json) : Option ProfileStatus := do
  match ← j.slots ["conditions"] with
  | [conditions] =>
      some { conditions := ← conditions.defaulted [] (Json.listOf Condition.decode) }
  | _ => none

def encode (s : ProfileStatus) : Json :=
  .object (Json.skipIf s.conditions.isEmpty "conditions" (fun l => .array (l.map Condition.encode))
    s.conditions)

end ProfileStatus

structure Profile where
  metadata : Metadata
  spec : ProfileSpec
  status : Option ProfileStatus := none

namespace Profile

def apiVersion : String := "kubeflow.org/v1"

def kind : String := "Profile"

/-- The name that the profile, and its namespace, go by. -/
def name (p : Profile) : String :=
  p.metadata.nameAny

/-- Read a profile; which version and kind it says it is does not matter. -/
def decode (j : Json) : Option Profile := do
  match ← j.slots ["metadata", "spec", "status"] with
  | [metadata, spec, status] =>
      some {
        metadata := ← metadata.required Metadata.decode
        spec := ← spec.required ProfileSpec.decode
        status := ← status.optional ProfileStatus.decode }
  | _ => none

def encode (p : Profile) : Json :=
  .object (
    [("apiVersion", .string apiVersion), ("kind", .string kind),
      ("metadata", p.metadata.encode), ("spec", p.spec.encode)] ++
    Json.whenSome "status" ProfileStatus.encode p.status)

end Profile

end ProfileOperator
