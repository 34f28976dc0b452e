import ProfileOperator.Metrics.Registry
import ProfileOperator.Proofs.Reconcile.Scope

/-!
# The measure of one profile

How much is in place for a profile is measured under its name.  What a run notes for one profile does not
show in the measure of another one, and after a run the measure depends on the one before alone.
-/

namespace ProfileOperator

/-- If it is about how much is in place for a profile, then for that of the name. -/
def Event.IsFor (name : String) : Event -> Prop
  | .measure (.applied profile _) => profile = name
  | .measure (.unapplied profile) => profile = name
  | _ => True

/-- It does not count anything as being in place, and is otherwise for the name. -/
def Event.IsIdleFor (name : String) : Event -> Prop
  | .measure (.applied ..) => False
  | .measure (.unapplied profile) => profile = name
  | _ => True

theorem Event.IsGroundworkFor.isFor {name : String} {event : Event} (h : event.IsGroundworkFor name) :
    event.IsFor name := by
  cases event with
  | log level text => exact trivial
  | measure what =>
      cases what with
      | applied profile count => exact h
      | unapplied profile => exact absurd h id
      | _ => exact trivial

theorem Event.IsIdleFor.isFor {name : String} {event : Event} (h : event.IsIdleFor name) :
    event.IsFor name := by
  cases event with
  | log level text => exact trivial
  | measure what =>
      cases what with
      | applied profile count => exact absurd h id
      | unapplied profile => exact h
      | _ => exact trivial

namespace Metrics.Registry

theorem get?_applied_take {r r' : Registry Nat} {name : String}
    (h : r.applied.get? name = r'.applied.get? name) (what : Measure) :
    (r.take what).applied.get? name = (r'.take what).applied.get? name := by
  cases what with
  | applied profile count => simp only [take, Dict.get?_insert, h]
  | unapplied profile => simp only [take, Dict.get?_erase, h]
  | started => exact h
  | ended => exact h
  | failed => exact h

theorem get?_applied_takeSteps {r r' : Registry Nat} {name : String}
    (h : r.applied.get? name = r'.applied.get? name) (steps : List Step) :
    (r.takeSteps steps).applied.get? name = (r'.takeSteps steps).applied.get? name := by
  induction steps generalizing r r' with
  | nil => exact h
  | cons step rest ih =>
      cases step with
      | sent request => exact ih h
      | event what =>
          cases what with
          | log level text => exact ih h
          | measure what => exact ih (get?_applied_take h what)

/-- What is noted for one profile does not show in the measure of another one. -/
theorem get?_applied_of_isFor (r : Registry Nat) {event : Event} {name other : String}
    (hevent : event.IsFor other) (hname : name ≠ other) :
    (r.takeSteps [.event event]).applied.get? name = r.applied.get? name := by
  cases event with
  | log level text => rfl
  | measure what =>
      cases what with
      | applied profile count =>
          cases hevent
          change (r.applied.insert _ _).get? name = _
          rw [Dict.get?_insert, if_neg hname]
      | unapplied profile =>
          cases hevent
          change (r.applied.erase _).get? name = _
          rw [Dict.get?_erase, if_neg hname]
      | started => rfl
      | ended => rfl
      | failed => rfl

theorem get?_applied_of_isIdleFor (r : Registry Nat) {event : Event} {name other : String}
    (hevent : event.IsIdleFor other) (h : r.applied.get? name = none) :
    (r.takeSteps [.event event]).applied.get? name = none := by
  cases event with
  | log level text => exact h
  | measure what =>
      cases what with
      | applied profile count => exact absurd hevent id
      | unapplied profile =>
          change (r.applied.erase _).get? name = _
          rw [Dict.get?_erase, h, ite_self]
      | started => exact h
      | ended => exact h
      | failed => exact h

theorem get?_applied_unapplied (r : Registry Nat) (name : String) :
    (r.takeSteps [.event (.measure (.unapplied name))]).applied.get? name = none := by
  change (r.applied.erase name).get? name = none
  rw [Dict.get?_erase, if_pos rfl]

end Metrics.Registry

end ProfileOperator
