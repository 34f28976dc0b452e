import ProfileOperator.Json.Value
import ProfileOperator.Text.Numeral

/-!
# Reading JSON text

The grammar of the standard and nothing beyond it: no leading zeros, no bare control characters in
strings, and nothing but blanks after the value.  Escapes of surrogates come in pairs, except in values
that are passed over.  Every reader takes the characters that are left and gives back what it read together
with the rest.
-/

namespace ProfileOperator

namespace Json

def isBlank (c : Char) : Bool :=
  c = ' ' || c = '\t' || c = '\n' || c = '\r'

def skipBlanks (cs : List Char) : List Char :=
  cs.dropWhile isBlank

def readUnit : List Char -> Option (Nat × List Char)
  | a :: b :: c :: d :: rest =>
      if [a, b, c, d].all (Text.isDigit 16) then
        some (Text.numeralValue 16 [a, b, c, d], rest)
      else none
  | _ => none

/-- How surrogates are read that are written as escapes. -/
inductive Surrogates where
  /-- Two of them make a character, and there has to be a second one. -/
  | paired
  /-- Each of them is taken for the replacement character. -/
  | replaced
deriving DecidableEq, Repr

/-- What follows a backslash and a `u`: one unit, or a pair of surrogates. -/
def readCodePoint (surrogates : Surrogates) (cs : List Char) : Option (Char × List Char) := do
  let (first, rest) ← readUnit cs
  if first < 0xd800 ∨ 0xe000 ≤ first then
    some (Char.ofNat first, rest)
  else if surrogates = .replaced then
    some ('\ufffd', rest)
  else if first < 0xdc00 then
    match rest with
    | '\\' :: 'u' :: rest => do
        let (second, rest) ← readUnit rest
        if 0xdc00 ≤ second ∧ second < 0xe000 then
          some (Char.ofNat (0x10000 + (first - 0xd800) * 0x400 + (second - 0xdc00)), rest)
        else none
    | _ => none
  else none

def shortEscape? (c : Char) : Option Char :=
  if c = '\x22' ∨ c = '\\' ∨ c = '/' then some c
  else if c = 'b' then some '\x08'
  else if c = 'f' then some '\x0c'
  else if c = 'n' then some '\n'
  else if c = 'r' then some '\r'
  else if c = 't' then some '\t'
  else none

def readString (surrogates : Surrogates) : Nat -> List Char -> Option (List Char × List Char)
  | 0, _ => none
  | _ + 1, [] => none
  | fuel + 1, c :: rest =>
      if c = '\x22' then some ([], rest)
      else if c = '\\' then
        match rest with
        | [] => none
        | 'u' :: rest => do
            let (point, rest) ← readCodePoint surrogates rest
            let (cs, rest) ← readString surrogates fuel rest
            some (point :: cs, rest)
        | e :: rest => do
            let plain ← shortEscape? e
            let (cs, rest) ← readString surrogates fuel rest
            some (plain :: cs, rest)
      else if c.toNat < 0x20 then none
      else do
        let (cs, rest) ← readString surrogates fuel rest
        some (c :: cs, rest)

def readDigits (cs : List Char) : Option (List Char × List Char) :=
  match Text.spanDigits 10 cs with
  | ([], _) => none
  | read => some read

/-- The digits before the point: a single zero or digits that do not start with one. -/
def readWhole (cs : List Char) : Option (List Char × List Char) := do
  let (digits, rest) ← readDigits cs
  if digits.head? = some '0' ∧ digits.length ≠ 1 then none else some (digits, rest)

def readFraction : List Char -> Option (List Char × List Char)
  | '.' :: rest => readDigits rest
  | cs => some ([], cs)

def readExponent : List Char -> Option (Option Int × List Char)
  | [] => some (none, [])
  | c :: rest =>
      if c = 'e' ∨ c = 'E' then
        match rest with
        | '-' :: rest => (readDigits rest).map fun (ds, rest) => (some (-(Text.numeralValue 10 ds : Int)), rest)
        | '+' :: rest => (readDigits rest).map fun (ds, rest) => (some (Text.numeralValue 10 ds : Int), rest)
        | rest => (readDigits rest).map fun (ds, rest) => (some (Text.numeralValue 10 ds : Int), rest)
      else some (none, c :: rest)

/-- The whole numbers that a machine word holds, signed or unsigned. -/
def isMachineWhole (i : Int) : Bool :=
  -signedEnd ≤ i && i < unsignedEnd

def literalNumber (negative : Bool) (whole fraction : List Char) (exponent : Option Int) :
    JsonNumber :=
  let coefficient := Text.numeralValue 10 (whole ++ fraction)
  let value : Int := if negative then -(coefficient : Int) else coefficient
  if fraction = [] ∧ exponent = none ∧ isMachineWhole value ∧ ¬(negative ∧ coefficient = 0) then
    .whole value
  else
    .decimal negative coefficient (exponent.getD 0 - fraction.length)

def readNumber (cs : List Char) : Option (JsonNumber × List Char) := do
  let (negative, cs) := match cs with
    | '-' :: rest => (true, rest)
    | cs => (false, cs)
  let (whole, cs) ← readWhole cs
  let (fraction, cs) ← readFraction cs
  let (exponent, cs) ← readExponent cs
  some (literalNumber negative whole fraction exponent, cs)

def readWord (word : List Char) (cs : List Char) : Option (List Char) :=
  if word.isPrefixOf cs then some (cs.drop word.length) else none

mutual

def readValue (surrogates : Surrogates) : Nat -> List Char -> Option (Json × List Char)
  | 0, _ => none
  | _ + 1, [] => none
  | fuel + 1, c :: rest =>
      if c = '\x22' then
        (readString surrogates (rest.length + 1) rest).map fun (cs, rest) =>
          (.string (String.ofList cs), rest)
      else if c = '[' then
        match skipBlanks rest with
        | ']' :: rest => some (.array [], rest)
        | rest => (readItems surrogates fuel rest).map fun (items, rest) => (.array items, rest)
      else if c = '\x7b' then
        match skipBlanks rest with
        | '\x7d' :: rest => some (.object [], rest)
        | rest => (readFields surrogates fuel rest).map fun (fields, rest) => (.object fields, rest)
      else if c = 'n' then
        (readWord ['u', 'l', 'l'] rest).map fun rest => (.null, rest)
      else if c = 't' then
        (readWord ['r', 'u', 'e'] rest).map fun rest => (.bool true, rest)
      else if c = 'f' then
        (readWord ['a', 'l', 's', 'e'] rest).map fun rest => (.bool false, rest)
      else
        (readNumber (c :: rest)).map fun (n, rest) => (.number n, rest)

def readItems (surrogates : Surrogates) : Nat -> List Char -> Option (List Json × List Char)
  | 0, _ => none
  | fuel + 1, cs => do
      let (item, rest) ← readValue surrogates fuel cs
      match skipBlanks rest with
      | ']' :: rest => some ([item], rest)
      | ',' :: rest => do
          let (items, rest) ← readItems surrogates fuel (skipBlanks rest)
          some (item :: items, rest)
      | _ => none

def readFields (surrogates : Surrogates) :
    Nat -> List Char -> Option (List (String × Json) × List Char)
  | 0, _ => none
  | fuel + 1, cs =>
      match cs with
      | '\x22' :: rest => do
          let (key, rest) ← readString surrogates (rest.length + 1) rest
          match skipBlanks rest with
          | ':' :: rest => do
              let (value, rest) ← readValue surrogates fuel (skipBlanks rest)
              match skipBlanks rest with
              | '\x7d' :: rest => some ([(String.ofList key, value)], rest)
              | ',' :: rest => do
                  let (fields, rest) ← readFields surrogates fuel (skipBlanks rest)
                  some ((String.ofList key, value) :: fields, rest)
              | _ => none
          | _ => none
      | _ => none

end

def readWhole? {α : Type} (read : Nat -> List Char -> Option (α × List Char)) (text : String) :
    Option α := do
  let cs := skipBlanks text.toList
  let (value, rest) ← read (2 * cs.length + 2) cs
  if skipBlanks rest = [] then some value else none

def parse? (text : String) : Option Json :=
  readWhole? (readValue .paired) text

/-! ### Records -/

/-- The fields with the given names, up to the closing brace; all others are passed over. -/
def readNamedFields (names : List String) :
    Nat -> List Char -> Option (List (String × Json) × List Char)
  | 0, _ => none
  | fuel + 1, cs =>
      match cs with
      | '\x22' :: rest => do
          let (key, rest) ← readString .paired (rest.length + 1) rest
          let name := String.ofList key
          match skipBlanks rest with
          | ':' :: rest => do
              let surrogates := if name ∈ names then Surrogates.paired else Surrogates.replaced
              let (value, rest) ← readValue surrogates fuel (skipBlanks rest)
              let field := if name ∈ names then [(name, value)] else []
              match skipBlanks rest with
              | '\x7d' :: rest => some (field, rest)
              | ',' :: rest => do
                  let (fields, rest) ← readNamedFields names fuel (skipBlanks rest)
                  some (field ++ fields, rest)
              | _ => none
          | _ => none
      | _ => none

/-- A value; of an object the fields with the given names, none of which it may give twice. -/
def readRecord (names : List String) : Nat -> List Char -> Option (Json × List Char)
  | fuel, '\x7b' :: rest =>
      match skipBlanks rest with
      | '\x7d' :: rest => some (.object [], rest)
      | rest => do
          let (fields, rest) ← readNamedFields names fuel rest
          if (fields.map Prod.fst).Nodup then some (.object fields, rest) else none
  | fuel, cs => readValue .paired fuel cs

def parseRecord? (names : List String) (text : String) : Option Json :=
  readWhole? (readRecord names) text

end Json

end ProfileOperator
