import ProfileOperator.Text.Printable

/-!
# Quoted text in messages

Messages show the text they are about between quotation marks, with everything that could be
misread escaped.  A text stands in double quotation marks, a single character in single ones; each
form escapes its own mark and leaves the other one alone.
-/

namespace ProfileOperator

namespace Text

def doubleQuote : Char := '\x22'

def singleQuote : Char := '\x27'

def codePointEscape (c : Char) : List Char :=
  ['\\', 'u', '\x7b'] ++ Nat.toDigits 16 c.toNat ++ ['\x7d']

/-- One character as it is written between two marks `mark`. -/
def escapeChar (mark : Char) (c : Char) : List Char :=
  if c = '\x00' then ['\\', '0']
  else if c = '\t' then ['\\', 't']
  else if c = '\r' then ['\\', 'r']
  else if c = '\n' then ['\\', 'n']
  else if c = '\\' ∨ c = mark then ['\\', c]
  else if isPrintable c then [c]
  else codePointEscape c

def quoted (s : String) : String :=
  String.ofList (doubleQuote :: s.toList.flatMap (escapeChar doubleQuote) ++ [doubleQuote])

def quotedChar (c : Char) : String :=
  String.ofList (singleQuote :: escapeChar singleQuote c ++ [singleQuote])

def quotedList (items : List String) : String :=
  "[" ++ String.intercalate ", " (items.map quoted) ++ "]"

end Text

end ProfileOperator
