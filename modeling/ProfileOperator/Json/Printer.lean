import ProfileOperator.Json.Value

/-!
# The compact text of a JSON value

No blanks, fields in their order.  In strings exactly the characters that must be escaped are
escaped: the quotation mark, the backslash and the control characters, those with a short escape by
it and the others by four lower-case hexadecimal digits.
-/

namespace ProfileOperator

namespace Json

def controlDigits (c : Char) : List Char :=
  match Nat.toDigits 16 c.toNat with
  | [low] => ['0', low]
  | digits => digits

def escapeChar (c : Char) : List Char :=
  if c = '\x22' then ['\\', '\x22']
  else if c = '\\' then ['\\', '\\']
  else if c = '\x08' then ['\\', 'b']
  else if c = '\x0c' then ['\\', 'f']
  else if c = '\n' then ['\\', 'n']
  else if c = '\r' then ['\\', 'r']
  else if c = '\t' then ['\\', 't']
  else if c.toNat < 0x20 then ['\\', 'u', '0', '0'] ++ controlDigits c
  else [c]

def stringText (s : String) : List Char :=
  '\x22' :: s.toList.flatMap escapeChar ++ ['\x22']

def wholeText (i : Int) : List Char :=
  if i < 0 then '-' :: Nat.toDigits 10 i.natAbs else Nat.toDigits 10 i.natAbs

/-- A number; a decimal is written by its coefficient and exponent. -/
def numberText : JsonNumber -> List Char
  | .whole value => wholeText value
  | .decimal negative coefficient exponent =>
      (if negative then ['-'] else []) ++ Nat.toDigits 10 coefficient ++ 'e' :: wholeText exponent

mutual

def chars : Json -> List Char
  | .null => ['n', 'u', 'l', 'l']
  | .bool true => ['t', 'r', 'u', 'e']
  | .bool false => ['f', 'a', 'l', 's', 'e']
  | .number value => numberText value
  | .string value => stringText value
  | .array items => '[' :: itemChars items ++ [']']
  | .object fields => '\x7b' :: fieldChars fields ++ ['\x7d']

def itemChars : List Json -> List Char
  | [] => []
  | [item] => item.chars
  | item :: next :: rest => item.chars ++ ',' :: itemChars (next :: rest)

def fieldChars : List (String × Json) -> List Char
  | [] => []
  | [(key, value)] => stringText key ++ ':' :: value.chars
  | (key, value) :: next :: rest =>
      stringText key ++ ':' :: value.chars ++ ',' :: fieldChars (next :: rest)

end

def compact (value : Json) : String :=
  String.ofList value.chars

end Json

end ProfileOperator
