import ProfileOperator.Flag.SelectorTree
import ProfileOperator.Json.Printer

/-!
# The tree of selectors as JSON

An object by selector of objects by field of lists of values, as it is logged at the start.
-/

namespace ProfileOperator

namespace Flag

/-- Write the values of one selector; fields without values are left out. -/
def FieldValues.encode (values : FieldValues) : Json :=
  .object ((Field.all.filter fun field => values.get field ≠ []).map fun field =>
    (field.name, Json.strings (values.get field)))

def SelectorTree.encode (tree : SelectorTree) : Json :=
  .object (tree.selectors.toList.map fun (name, values) => (name, values.encode))

end Flag

end ProfileOperator
