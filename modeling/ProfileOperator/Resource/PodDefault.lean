import ProfileOperator.Resource.Metadata

/-!
# PodDefaults

A PodDefault adds labels to the pods of its namespace that match a selector.
-/

namespace ProfileOperator

structure PodSelector where
  matchLabels : Dict String := {}
deriving DecidableEq

namespace PodSelector

def decode (j : Json) : Option PodSelector := do
  match ← j.slots ["matchLabels"] with
  | [labels] => some { matchLabels := ← labels.defaulted {} (Json.dictOf Json.string?) }
  | _ => none

def encode (s : PodSelector) : Json :=
  .object (Json.skipIf s.matchLabels.isEmpty "matchLabels" Json.ofDict s.matchLabels)

end PodSelector

structure PodDefaultSpec where
  selector : PodSelector
  desc : String := ""
  labels : Dict String := {}
deriving DecidableEq

namespace PodDefaultSpec

def decode (j : Json) : Option PodDefaultSpec := do
  match ← j.slots ["selector", "desc", "labels"] with
  | [selector, desc, labels] =>
      some {
        selector := ← selector.required PodSelector.decode
        desc := ← desc.defaulted "" Json.string?
        labels := ← labels.defaulted {} (Json.dictOf Json.string?) }
  | _ => none

/-- Write a specification, with its fields in the order that the checksum of a PodDefault rests on. -/
def encode (s : PodDefaultSpec) : Json :=
  .object (
    [("selector", s.selector.encode), ("desc", .string s.desc)] ++
    Json.skipIf s.labels.isEmpty "labels" Json.ofDict s.labels)

end PodDefaultSpec

structure PodDefault where
  metadata : Metadata
  spec : PodDefaultSpec

namespace PodDefault

def apiVersion : String := "kubeflow.org/v1alpha1"

def kind : String := "PodDefault"

def name (p : PodDefault) : String :=
  p.metadata.nameAny

/-- Read a PodDefault; which version and kind it says it is does not matter. -/
def decode (j : Json) : Option PodDefault := do
  match ← j.slots ["metadata", "spec"] with
  | [metadata, spec] =>
      some {
        metadata := ← metadata.required Metadata.decode
        spec := ← spec.required PodDefaultSpec.decode }
  | _ => none

def encode (p : PodDefault) : Json :=
  .object [("apiVersion", .string apiVersion), ("kind", .string kind),
    ("metadata", p.metadata.encode), ("spec", p.spec.encode)]

end PodDefault

end ProfileOperator
