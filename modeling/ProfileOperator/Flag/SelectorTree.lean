import ProfileOperator.Dict
import ProfileOperator.Flag.Entry
import ProfileOperator.Flag.Strip

/-!
# The tree of selectors

The flag as a whole is a list of entries separated by commas.  Line breaks are dropped everywhere,
other formatting blanks outside quoted spans only; empty entries are skipped.  What is read is grouped
by selector, with the values of each field in the order of the input.  Entries of unknown fields are
checked and then left out.
-/

namespace ProfileOperator

namespace Flag

/-- The values of one selector, field by field. -/
structure FieldValues where
  labels : List String := []
deriving DecidableEq, Repr

namespace FieldValues

def get (values : FieldValues) : Field -> List String
  | .labels => values.labels

def push (values : FieldValues) (field : Field) (value : String) : FieldValues :=
  match field with
  | .labels => { values with labels := values.labels ++ [value] }

@[simp] theorem get_push (values : FieldValues) (field : Field) (value : String) :
    (values.push field value).get field = values.get field ++ [value] := by
  cases field
  rfl

def isEmpty (values : FieldValues) : Bool :=
  Field.all.all fun field => values.get field = []

def add (values : FieldValues) (entry : Entry) : FieldValues :=
  match Field.ofName? entry.field with
  | some field => values.push field entry.value
  | none => values

theorem isEmpty_iff (values : FieldValues) :
    values.isEmpty = true ↔ ∀ field, values.get field = [] := by
  constructor
  · intro h field
    cases field
    simpa [isEmpty, Field.all] using h
  · intro h
    simp [isEmpty, h]

theorem get_add (values : FieldValues) (entry : Entry) (field : Field) :
    (values.add entry).get field =
      values.get field ++ if Field.ofName? entry.field = some field then [entry.value] else [] := by
  unfold add
  cases hname : Field.ofName? entry.field with
  | none => simp
  | some known =>
      cases known
      cases field
      simp

def ofEntries (selector : String) (entries : List Entry) : FieldValues :=
  (entries.filter fun entry => entry.selector = selector).foldl add {}

end FieldValues

/-- What the flag configures: values by selector and field. -/
structure SelectorTree where
  selectors : Dict FieldValues := {}
deriving DecidableEq

namespace SelectorTree

def empty : SelectorTree := {}

def get? (tree : SelectorTree) (selector : String) : Option FieldValues :=
  tree.selectors.get? selector

/-- The values of a selector and field; there are none where none were configured. -/
def values (tree : SelectorTree) (selector : String) (field : Field) : List String :=
  match tree.get? selector with
  | some found => found.get field
  | none => []

def names (tree : SelectorTree) : List String :=
  tree.selectors.keys

/-- Give a selector its values; a selector without any stays out of the tree. -/
def insert (tree : SelectorTree) (selector : String) (values : FieldValues) : SelectorTree :=
  if values.isEmpty then tree
  else { selectors := tree.selectors.insert selector values }

theorem get?_insert (tree : SelectorTree) (selector other : String) (values : FieldValues) :
    (tree.insert selector values).get? other =
      if other = selector ∧ values.isEmpty = false then some values else tree.get? other := by
  unfold insert get?
  cases values.isEmpty with
  | true => simp
  | false => simp

/-- The tree of a list of entries: every selector, taken once, with what all the entries give it. -/
def ofEntries (entries : List Entry) : SelectorTree :=
  (entries.map (·.selector)).eraseDups.foldl
    (fun tree selector => tree.insert selector (.ofEntries selector entries)) empty

end SelectorTree

/-- The texts of the entries in a text without formatting blanks; empty ones are skipped. -/
def entryTexts (stripped : List Char) : List (List Char) :=
  (split entryDelimiter stripped).filter (· ≠ [])

def parse (raw : String) : Except FlagError SelectorTree :=
  match strip (raw.toList.filter (· ≠ '\n')) with
  | .error mark => .error (.unclosedQuote mark)
  | .ok stripped => do
      let entries ← (entryTexts stripped).mapM Entry.read
      .ok (.ofEntries entries)

theorem parse_empty : parse "" = .ok .empty := rfl

end Flag

end ProfileOperator
