import ProfileOperator.Net.AddressReader
import ProfileOperator.Text.Quoted

/-!
# Bind addresses

The address that the metrics endpoint listens on is written with its port; a port alone, after a
colon, stands for every IPv4 interface.
-/

namespace ProfileOperator

namespace Net

structure BindError where
  given : String
deriving DecidableEq, Repr

/-- The wording shows the text as it was given. -/
def BindError.message (e : BindError) : String :=
  "invalid bind address " ++ Text.quoted e.given ++ ": invalid socket address syntax"

def everyInterface : List Char := "0.0.0.0".toList

/-- A text with the address put in front of a bare port. -/
def expandBind : List Char -> List Char
  | ':' :: port => everyInterface ++ ':' :: port
  | cs => cs

def parseBind (given : String) : Except BindError SocketAddress :=
  match SocketAddress.ofChars? (expandBind given.toList) with
  | some address => .ok address
  | none => .error { given := given }

end Net

end ProfileOperator
