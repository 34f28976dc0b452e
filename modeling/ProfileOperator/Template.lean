import ProfileOperator.Flag.SelectorTree

/-!
# PodDefault templates

A template says what the PodDefault of one selector holds: the selector gives the name, and each value
of the tree gives one label, written `key=value` with optional quote marks around either side.
-/

namespace ProfileOperator

inductive ConfigError where
  | invalidSelector (name : String)
  | labelWithoutEquals (value : String)
  | emptyLabelKey (value : String)
deriving DecidableEq, Repr

def ConfigError.text : ConfigError -> String
  | .invalidSelector name =>
      "selector " ++ Text.quoted name ++
        " must be a DNS-1123 label (lower-case alphanumerics and '-', at most 63 characters)"
  | .labelWithoutEquals value =>
      "label " ++ Text.quoted value ++ " must be of the form key=value"
  | .emptyLabelKey value =>
      "label " ++ Text.quoted value ++ " has an empty key"

/-! ### Names -/

/-- The longest name that a DNS-1123 label can have. -/
def maxNameLength : Nat := 63

def isNameEnd (c : Char) : Bool :=
  c.isLower || c.isDigit

def isNameChar (c : Char) : Bool :=
  isNameEnd c || c == '-'

/-- The text is a DNS-1123 label. -/
def isDnsLabel (s : String) : Bool :=
  match s.toList with
  | [] => false
  | c :: cs =>
      (c :: cs).length ≤ maxNameLength && (c :: cs).all isNameChar && isNameEnd c &&
        isNameEnd ((c :: cs).getLast (by simp))

def checkSelector (name : String) : Except ConfigError Unit :=
  if isDnsLabel name then .ok () else .error (.invalidSelector name)

/-! ### Labels -/

/-- A text without the quote marks around it, if the same one stands at both ends. -/
def unquote : List Char -> List Char
  | [] => []
  | c :: rest => if Flag.isQuote c ∧ rest.getLast? = some c then rest.dropLast else c :: rest

/-- Read a label: a key and a value on the two sides of the first equals sign. -/
def readLabel (value : String) : Except ConfigError (String × String) :=
  match value.toList.dropWhile (· ≠ '=') with
  | [] => .error (.labelWithoutEquals value)
  | _ :: right =>
      match unquote (value.toList.takeWhile (· ≠ '=')) with
      | [] => .error (.emptyLabelKey value)
      | key => .ok (String.ofList key, String.ofList (unquote right))

/-- Take a label into the labels read so far; a later value of a key replaces an earlier one. -/
def addLabel (labels : Dict String) (value : String) : Except ConfigError (Dict String) := do
  let (key, val) ← readLabel value
  .ok (labels.insert key val)

/-! ### Templates -/

/-- What the PodDefault of one selector holds. -/
structure Template where
  name : String
  labels : Dict String
deriving DecidableEq

namespace Template

/-- The template of a selector: the name is checked first, then the labels in their order. -/
def ofSelector (name : String) (values : List String) : Except ConfigError Template := do
  checkSelector name
  let labels ← values.foldlM addLabel {}
  .ok { name := name, labels := labels }

/-- The templates of a tree in ascending order of name, or the first error in that order. -/
def ofTree (tree : Flag.SelectorTree) : Except ConfigError (List Template) :=
  tree.selectors.toList.mapM fun (name, values) => ofSelector name (values.get .labels)

end Template

end ProfileOperator
