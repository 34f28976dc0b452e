import ProfileOperator.Dict
import ProfileOperator.Reconcile.Pass

/-!
# The registry of metrics

Counters, gauges and observations of the operator.  The registry is the same for every type of numbers:
the operator itself counts in natural numbers, the endpoint that people scrape in floating point.

Two things are ideal here.  Counters in floating point are exact up to two to the power of 53 only, and
where samples are kept by a hash of their label, two labels might share one; natural numbers never run out,
and the dictionaries go by the labels themselves.  A measure is taken in one piece.
-/

namespace ProfileOperator

namespace Metrics

/-- The values of all metrics; the dictionaries are by the value of the one label of the metric. -/
structure Registry (α : Type) where
  reconciliations : Dict α := {}
  errors : Dict α := {}
  /-- The durations of reconciliations by kind, in the order in which they were observed. -/
  durations : Dict (List α) := {}
  applied : Dict α := {}
  selectors : α
  /-- One while the operator works, zero once it has stopped. -/
  health : α

def increase {α : Type} [Add α] [OfNat α 0] (counters : Dict α) (label : String) (amount : α) :
    Dict α :=
  counters.alter label fun found => found.getD 0 + amount

theorem get?_increase {α : Type} [Add α] [OfNat α 0] (counters : Dict α) (label other : String)
    (amount : α) :
    (increase counters label amount).get? other =
      if other = label then some ((counters.get? label).getD 0 + amount) else counters.get? other :=
  Dict.get?_alter ..

def observe {α : Type} (observations : Dict (List α)) (label : String) (value : α) :
    Dict (List α) :=
  observations.alter label fun found => found.getD [] ++ [value]

theorem get?_observe {α : Type} (observations : Dict (List α)) (label other : String) (value : α) :
    (observe observations label value).get? other =
      if other = label then some ((observations.get? label).getD [] ++ [value])
      else observations.get? other :=
  Dict.get?_alter ..

namespace Registry

def fresh {α : Type} (health : α) [OfNat α 0] : Registry α where
  selectors := 0
  health := health

def runKind : String := "Profile"

/-- Take in a measure of a pass.  A run takes no time of its own here. -/
def take (r : Registry Nat) : Measure -> Registry Nat
  | .started => { r with reconciliations := increase r.reconciliations runKind 1 }
  | .ended => { r with durations := observe r.durations runKind 0 }
  | .failed => { r with errors := increase r.errors runKind 1 }
  | .applied profile count => { r with applied := r.applied.insert profile count }
  | .unapplied profile => { r with applied := r.applied.erase profile }

def takeSteps (r : Registry Nat) (steps : List Step) : Registry Nat :=
  steps.foldl
    (fun r step => match step with
      | .event (.measure what) => r.take what
      | _ => r)
    r

end Registry

end Metrics

end ProfileOperator
