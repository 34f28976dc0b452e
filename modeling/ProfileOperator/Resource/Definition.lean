import ProfileOperator.Resource.PodDefault
import ProfileOperator.Resource.Profile

/-!
# Definitions of the custom resources

The two custom resources are announced to the API server by a definition each: their names, their
version, the columns of a listing, and a schema of their fields.
-/

namespace ProfileOperator

/-- A schema, as its keywords. -/
structure Schema where
  keywords : List (String × Json)

namespace Schema

def encode (s : Schema) : Json :=
  .object s.keywords

def anything : Schema := ⟨[]⟩

def text : Schema := ⟨[("type", .string "string")]⟩

def time : Schema := ⟨[("type", .string "string"), ("format", .string "date-time")]⟩

def listOf (item : Schema) : Schema :=
  ⟨[("type", .string "array"), ("items", item.encode)]⟩

def dictOf (value : Schema) : Schema :=
  ⟨[("type", .string "object"), ("additionalProperties", value.encode)]⟩

def record (fields : List (String × Schema)) (required : List String) : Schema :=
  ⟨[("type", .string "object"), ("properties", .object (fields.map fun (k, s) => (k, s.encode)))] ++
    Json.skipIf required.isEmpty "required" Json.strings required⟩

def put (keyword : String) (value : Json) (s : Schema) : Schema :=
  ⟨(keyword, value) :: s.keywords⟩

def described (description : String) (s : Schema) : Schema :=
  s.put "description" (.string description)

/-- The schema that also lets null pass. -/
def orNull (s : Schema) : Schema :=
  s.put "nullable" (.bool true)

end Schema

inductive Scope where
  | cluster
  | namespaced
deriving DecidableEq, Repr

def Scope.word : Scope -> String
  | .cluster => "Cluster"
  | .namespaced => "Namespaced"

structure Column where
  name : String
  type : String
  jsonPath : String

def Column.encode (c : Column) : Json :=
  .object [("jsonPath", .string c.jsonPath), ("name", .string c.name), ("type", .string c.type)]

structure ResourceDefinition where
  kind : String
  singular : String
  plural : String
  scope : Scope
  version : String
  columns : List Column
  spec : Schema
  /-- Present if the status is written apart from the rest. -/
  status : Option Schema

namespace ResourceDefinition

def group : String := "kubeflow.org"

def schema (d : ResourceDefinition) : Schema :=
  ((Schema.record ([("spec", d.spec)] ++ (d.status.map fun s => ("status", s)).toList) ["spec"]).put
    "title" (.string d.kind)).described
      ("Auto-generated derived type for " ++ d.kind ++ "Spec via \x60CustomResource\x60")

def encode (d : ResourceDefinition) : Json :=
  let names := Json.object [
    ("categories", .array []), ("kind", .string d.kind), ("plural", .string d.plural),
    ("shortNames", .array []), ("singular", .string d.singular)]
  let version := Json.object [
    ("additionalPrinterColumns", .array (d.columns.map Column.encode)),
    ("name", .string d.version),
    ("schema", .object [("openAPIV3Schema", d.schema.encode)]),
    ("served", .bool true),
    ("storage", .bool true),
    ("subresources", .object (if d.status.isSome then [("status", .object [])] else []))]
  .object [
    ("apiVersion", .string "apiextensions.k8s.io/v1"),
    ("kind", .string "CustomResourceDefinition"),
    ("metadata", .object [("name", .string (d.plural ++ "." ++ group))]),
    ("spec", .object [
      ("group", .string group), ("names", names), ("scope", .string d.scope.word),
      ("versions", .array [version])])]

end ResourceDefinition

def Subject.schema : Schema :=
  Schema.record [
    ("apiGroup", (Schema.text.orNull).described "API group of the subject"),
    ("kind", Schema.text.described "Subject kind (User, Group, ServiceAccount)"),
    ("name", Schema.text.described "Subject name, usually an email address")]
    ["kind", "name"]

def Condition.schema : Schema :=
  Schema.record [
    ("lastTransitionTime", (Schema.time.orNull).described "Last transition time"),
    ("message", (Schema.text.orNull).described "Human-readable message"),
    ("status", Schema.text.described "Status (True, False, Unknown)"),
    ("type", Schema.text.described "Condition type (Ready, PodDefaultsApplied)")]
    ["status", "type"]

def Profile.definition : ResourceDefinition where
  kind := Profile.kind
  singular := "profile"
  plural := "profiles"
  scope := .cluster
  version := "v1"
  columns := [
    { name := "Owner", type := "string", jsonPath := ".spec.owner.name" },
    { name := "Age", type := "date", jsonPath := ".metadata.creationTimestamp" }]
  spec :=
    (Schema.record [
      ("owner", (Subject.schema.orNull).described "Owner of the profile namespace"),
      ("plugins", (Schema.listOf Schema.anything).described "Plugin configurations"),
      ("resourceQuotaSpec", (Schema.anything.orNull).described
        "Resource quota for the namespace (matches k8s ResourceQuotaSpec)")]
      []).described
        "Profile resource specification\n\nA Profile owns a namespace of the same name."
  status := some
    (((Schema.record [
      ("conditions", (Schema.listOf (Condition.schema.described "Profile status condition")).described
        "Status conditions")]
      []).orNull).described "Profile status")

def PodDefault.definition : ResourceDefinition where
  kind := PodDefault.kind
  singular := "poddefault"
  plural := "poddefaults"
  scope := .namespaced
  version := "v1alpha1"
  columns := []
  spec :=
    (Schema.record [
      ("desc", (Schema.text.put "default" (.string "")).described
        "Description shown in the notebook UI"),
      ("labels", (Schema.dictOf Schema.text).described "Labels added to matching pods"),
      ("selector", (Schema.record [("matchLabels", Schema.dictOf Schema.text)] []).described
        "Pods to apply the defaults to")]
      ["selector"]).described
        ("PodDefault resource specification\n\n" ++
          "Pods whose labels match \x60selector\x60 get \x60labels\x60 merged in at admission.")
  status := none

end ProfileOperator
