import ProfileOperator.Decimal.Shortest
import ProfileOperator.Metrics.Registry

/-!
# The exposition of the metrics

The text in which the metrics are scraped.  Families come in ascending order of name, each with its help
and type in front of its samples, and the samples in ascending order of their label.  A family without a
sample is left out.
-/

namespace ProfileOperator

namespace Metrics

inductive FamilyType where
  | counter
  | gauge
  | histogram
deriving DecidableEq, Repr

def FamilyType.word : FamilyType -> String
  | .counter => "counter"
  | .gauge => "gauge"
  | .histogram => "histogram"

structure Sample where
  name : String
  labels : List (String × String)
  value : String
deriving DecidableEq, Repr

structure Family where
  name : String
  help : String
  type : FamilyType
  samples : List Sample
deriving DecidableEq, Repr

/-! ### Families -/

def numberText (x : Float) : String :=
  Decimal.floatText x

def labelled (name label : String) (values : Dict Float) : List Sample :=
  values.toList.map fun (key, value) =>
    { name := name, labels := [(label, key)], value := numberText value }

def plain (name help : String) (value : Float) : Family where
  name := name
  help := help
  type := .gauge
  samples := [{ name := name, labels := [], value := numberText value }]

def bucketBounds : List Float := [0.01, 0.05, 0.1, 0.25, 0.5, 1, 2.5, 5, 10]

/-- The samples of the observations of one label: the buckets, which are cumulative, the sum, the count. -/
def histogram (name label key : String) (observations : List Float) : List Sample :=
  let bucket := fun (bound count : String) =>
    ({ name := name ++ "_bucket", labels := [(label, key), ("le", bound)], value := count } : Sample)
  let total := toString observations.length
  (bucketBounds.map fun bound =>
    bucket (numberText bound) (toString (observations.countP fun x => x ≤ bound))) ++
  [bucket "+Inf" total,
    { name := name ++ "_sum", labels := [(label, key)],
      value := numberText (observations.foldl (· + ·) 0) },
    { name := name ++ "_count", labels := [(label, key)], value := total }]

def families (r : Registry Float) : List Family :=
  let durations := "profile_controller_reconcile_duration_seconds"
  let applied := "profile_controller_pod_defaults_applied"
  let errors := "profile_controller_reconciliation_errors_total"
  let reconciliations := "profile_controller_reconciliations_total"
  [plain "profile_controller_configured_pod_default_selectors"
      "Number of selectors configured through the pod-defaults flag" r.selectors,
    plain "profile_controller_health" "Controller health status (1 = healthy, 0 = unhealthy)" r.health,
    { name := applied
      help := "Number of PodDefaults applied per profile namespace"
      type := .gauge
      samples := labelled applied "profile" r.applied },
    { name := durations
      help := "Duration of reconciliations in seconds"
      type := .histogram
      samples := r.durations.toList.flatMap fun (key, found) => histogram durations "kind" key found },
    { name := errors
      help := "Total number of reconciliation errors"
      type := .counter
      samples := labelled errors "kind" r.errors },
    { name := reconciliations
      help := "Total number of reconciliations"
      type := .counter
      samples := labelled reconciliations "kind" r.reconciliations }]

/-! ### The text -/

def escapeLabelChar (c : Char) : List Char :=
  if c = '\\' then ['\\', '\\']
  else if c = '\x22' then ['\\', '\x22']
  else if c = '\n' then ['\\', 'n']
  else [c]

def labelText (label value : String) : String :=
  label ++ "=\"" ++ String.ofList (value.toList.flatMap escapeLabelChar) ++ "\""

def labelsText (labels : List (String × String)) : String :=
  if labels = [] then ""
  else "\x7b" ++ String.intercalate "," (labels.map fun (label, value) => labelText label value) ++ "\x7d"

def Sample.text (s : Sample) : String :=
  s.name ++ labelsText s.labels ++ " " ++ s.value ++ "\n"

def Family.text (f : Family) : String :=
  "# HELP " ++ f.name ++ " " ++ f.help ++ "\n" ++
    "# TYPE " ++ f.name ++ " " ++ f.type.word ++ "\n" ++
    String.join (f.samples.map Sample.text)

def exposition (r : Registry Float) : String :=
  String.join (((families r).filter fun f => f.samples ≠ []).map Family.text)

end Metrics

end ProfileOperator
