/-!
# JSON values

A value of the data format in which resources, requests and configuration are exchanged.  Objects
keep their fields in the order in which they were written.
-/

namespace ProfileOperator

/--
A number.  Whole numbers of the machine range are told apart from decimals, because only they can
stand where a field asks for a whole number.
-/
inductive JsonNumber where
  | whole (value : Int)
  | decimal (negative : Bool) (coefficient : Nat) (exponent : Int)
deriving DecidableEq, Repr, Inhabited

def signedEnd : Int := 0x8000000000000000

def unsignedEnd : Int := 0x10000000000000000

inductive Json where
  | null
  | bool (value : Bool)
  | number (value : JsonNumber)
  | string (value : String)
  | array (items : List Json)
  | object (fields : List (String × Json))
deriving Repr, Inhabited

namespace Json

/-- The value of a field in a list of fields; of two fields of one name the later one counts. -/
def findField (name : String) : List (String × Json) -> Option Json
  | [] => none
  | (key, value) :: rest =>
      match findField name rest with
      | some found => some found
      | none => if key = name then some value else none

def field? (name : String) : Json -> Option Json
  | .object fields => findField name fields
  | _ => none

def int (value : Int) : Json :=
  .number (.whole value)

def nat (value : Nat) : Json :=
  .int value

def strings (items : List String) : Json :=
  .array (items.map .string)

end Json

end ProfileOperator
