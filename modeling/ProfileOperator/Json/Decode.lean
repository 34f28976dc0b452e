import ProfileOperator.Dict
import ProfileOperator.Json.Value

/-!
# Reading typed values out of JSON

A value of a type is read as a whole or not at all.  Records are read through their slots: a record
is written as an object, whose fields may come in any order among others that are skipped, or as an
array of its fields in order.  What a missing field means is up to the field.
-/

namespace ProfileOperator

namespace Json

def string? : Json -> Option String
  | .string s => some s
  | _ => none

def bool? : Json -> Option Bool
  | .bool b => some b
  | _ => none

def int64? : Json -> Option Int
  | .number (.whole i) => if -signedEnd ≤ i ∧ i < signedEnd then some i else none
  | _ => none

def listOf {α : Type} (decode : Json -> Option α) : Json -> Option (List α)
  | .array items => items.mapM decode
  | _ => none

def dictOf {α : Type} (decode : Json -> Option α) : Json -> Option (Dict α)
  | .object fields =>
      (fields.mapM fun (field : String × Json) =>
        (decode field.2).map fun v => (field.1, v)).map Dict.ofList
  | _ => none

def nullable {α : Type} (decode : Json -> Option α) : Json -> Option (Option α)
  | .null => some none
  | value => (decode value).map some

def any (value : Json) : Option Json :=
  some value

/-- What a record holds in the place of one of its fields. -/
inductive Slot where
  | given (value : Json)
  /-- The record is an object without the field. -/
  | unnamed
  /-- The record is an array that ends before the field. -/
  | beyond

namespace Slot

def required {α : Type} (decode : Json -> Option α) : Slot -> Option α
  | .given value => decode value
  | _ => none

/-- A field that an object may leave out and that may be null. -/
def optional {α : Type} (decode : Json -> Option α) : Slot -> Option (Option α)
  | .given value => nullable decode value
  | .unnamed => some none
  | .beyond => none

/-- A field that has a value where it is left out. -/
def defaulted {α : Type} (default : α) (decode : Json -> Option α) : Slot -> Option α
  | .given value => decode value
  | _ => some default

end Slot

def arraySlots : List String -> List Json -> Option (List Slot)
  | [], [] => some []
  | [], _ :: _ => none
  | _ :: names, [] => (arraySlots names []).map (Slot.beyond :: ·)
  | _ :: names, item :: items => (arraySlots names items).map (Slot.given item :: ·)

/-- The slots of a record with the given names. -/
def slots (names : List String) : Json -> Option (List Slot)
  | .object fields =>
      some (names.map fun name => (findField name fields).elim Slot.unnamed Slot.given)
  | .array items => arraySlots names items
  | _ => none

def optionalField {α : Type} (name : String) (decode : Json -> Option α)
    (fields : List (String × Json)) : Option (Option α) :=
  match findField name fields with
  | some value => nullable decode value
  | none => some none

/-! ### Writing -/

def whenSome {α : Type} (name : String) (encode : α -> Json) : Option α -> List (String × Json)
  | some value => [(name, encode value)]
  | none => []

def skipIf {α : Type} (isEmpty : Bool) (name : String) (encode : α -> Json) (value : α) :
    List (String × Json) :=
  if isEmpty then [] else [(name, encode value)]

def ofDict (d : Dict String) : Json :=
  .object (d.toList.map fun (k, v) => (k, .string v))

end Json

end ProfileOperator
