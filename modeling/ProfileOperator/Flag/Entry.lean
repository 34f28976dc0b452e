import ProfileOperator.Flag.Split
import ProfileOperator.Text.Lowercase
import ProfileOperator.Text.Quoted

/-!
# Entries of the flag

An entry is written `<selector>.<field>.<value>`.  The selector and the field are read in lower case;
the value is the rest of the entry as it stands, later dots included.
-/

namespace ProfileOperator

namespace Flag

inductive FlagError where
  | unclosedQuote (mark : Char)
  | malformedEntry (entry : String)
deriving DecidableEq, Repr

def FlagError.message : FlagError -> String
  | .unclosedQuote mark => "unmatched unescaped quote: " ++ Text.quotedChar mark
  | .malformedEntry entry =>
      "malformed entry " ++ Text.quoted entry ++ ": expected <selector>.<field>.<value>"

inductive Field where
  | labels
deriving DecidableEq, Repr

namespace Field

def name : Field -> String
  | .labels => "labels"

def all : List Field := [.labels]

def ofName? (s : String) : Option Field :=
  all.find? fun field => field.name = s

theorem ofName?_name (field : Field) : ofName? field.name = some field := by
  cases field
  rfl

end Field

/-- One entry, with its names in lower case. -/
structure Entry where
  selector : String
  field : String
  value : String
deriving DecidableEq, Repr

def entryDelimiter : Char := ','

def partDelimiter : Char := '.'

def Entry.read (cs : List Char) : Except FlagError Entry :=
  match split partDelimiter cs with
  | selector :: field :: value =>
      if selector = [] ∨ field = [] then
        .error (.malformedEntry (String.ofList cs))
      else
        .ok {
          selector := String.ofList (Text.lowercase selector)
          field := String.ofList (Text.lowercase field)
          value := String.ofList (List.intercalate [partDelimiter] value) }
  | _ => .error (.malformedEntry (String.ofList cs))

end Flag

end ProfileOperator
