import ProfileOperator.Resource.Metadata

/-!
# Namespaces

Of a namespace the operator writes the metadata only.
-/

namespace ProfileOperator

structure Namespace where
  metadata : Metadata

def Namespace.encode (n : Namespace) : Json :=
  .object [("apiVersion", .string "v1"), ("kind", .string "Namespace"),
    ("metadata", n.metadata.encode)]

end ProfileOperator
