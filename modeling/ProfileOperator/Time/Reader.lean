import ProfileOperator.Text.Blank
import ProfileOperator.Time.Instant

/-!
# Reading points in time

A date, a time of day and an offset from Coordinated Universal Time, in the format of RFC 3339 read
with some tolerance: blanks may stand around the separators, months, days and the parts of the clock
may have one digit, a signed year any number of them, and a fraction more digits than are kept.
-/

namespace ProfileOperator

namespace Time

def skipBlanks (cs : List Char) : List Char :=
  cs.dropWhile Text.isBlank

/-- Read at least one digit and at most `most`. -/
def readNumber (most : Nat) (cs : List Char) : Option (Nat × List Char) :=
  match (cs.take most).takeWhile (Text.isDigit 10) with
  | [] => none
  | digits => some (Text.numeralValue 10 digits, cs.drop digits.length)

def readLong (cs : List Char) : Option (Nat × List Char) :=
  readNumber cs.length cs

/-- Read a year: up to four digits, or a sign and any number of digits. -/
def readYear (cs : List Char) : Option (Int × List Char) :=
  match cs with
  | '-' :: rest => (readLong rest).map fun (n, rest) => (-(n : Int), rest)
  | '+' :: rest => (readLong rest).map fun (n, rest) => ((n : Int), rest)
  | cs => (readNumber 4 cs).map fun (n, rest) => ((n : Int), rest)

def readMark (c : Char) (cs : List Char) : Option (List Char) :=
  match skipBlanks cs with
  | c' :: rest => if c' = c then some (skipBlanks rest) else none
  | [] => none

def readDate (cs : List Char) : Option (Date × List Char) := do
  let (year, cs) ← readYear (skipBlanks cs)
  let cs ← readMark '-' cs
  let (month, cs) ← readNumber 2 cs
  let cs ← readMark '-' cs
  let (day, cs) ← readNumber 2 cs
  some ({ year := year, month := month, day := day }, cs)

/-- Read the fraction of a second, if there is one, in nanoseconds; digits past the ninth are dropped. -/
def readFraction : List Char -> Option (Nat × List Char)
  | '.' :: rest =>
      match (rest.take 9).takeWhile (Text.isDigit 10) with
      | [] => none
      | digits =>
          some (Text.numeralValue 10 digits * Nat.pow 10 (9 - digits.length),
            (rest.drop digits.length).dropWhile (Text.isDigit 10))
  | cs => some (0, cs)

def readTime (cs : List Char) : Option (TimeOfDay × List Char) := do
  let (hour, cs) ← readNumber 2 (skipBlanks cs)
  let cs ← readMark ':' cs
  let (minute, cs) ← readNumber 2 cs
  let cs ← readMark ':' cs
  let (second, cs) ← readNumber 2 cs
  let (nanosecond, cs) ← readFraction cs
  some ({ hour := hour, minute := minute, second := second, nanosecond := nanosecond }, cs)

def readPair (bound : Nat) : List Char -> Option (Nat × List Char)
  | a :: b :: rest =>
      if Text.isDigit 10 a ∧ Text.isDigit 10 b ∧ Text.numeralValue 10 [a, b] < bound then
        some (Text.numeralValue 10 [a, b], rest)
      else none
  | _ => none

def readHoursMinutes (cs : List Char) : Option (Nat × List Char) := do
  let (hours, cs) ← readPair 100 cs
  let (minutes, cs) ← readPair 60 (cs.dropWhile fun c => c = ':' || Text.isBlank c)
  some (hours * 60 + minutes, cs)

/-- The letters of an upper-case ASCII word stand at the front, in either case. -/
def startsWithWord : List Char -> List Char -> Bool
  | [], _ => true
  | _ :: _, [] => false
  | w :: ws, c :: cs => c.toUpper = w && startsWithWord ws cs

/-- Read an offset in minutes: a sign with hours and minutes, or one of the names of zero. -/
def readOffset (cs : List Char) : Option (Int × List Char) :=
  if startsWithWord ['U', 'T', 'C'] cs then some (0, cs.drop 3)
  else
    match cs with
    | [] => none
    | c :: rest =>
        if c = 'Z' ∨ c = 'z' then some (0, rest)
        else if c = '+' then
          (readHoursMinutes rest).map fun (n, rest) => ((n : Int), rest)
        else if c = '-' ∨ c = '\u2212' then
          (readHoursMinutes rest).map fun (n, rest) => (-(n : Int), rest)
        else none

def readTimeMark : List Char -> Option (List Char)
  | c :: rest => if c = 'T' ∨ c = 't' ∨ c = ' ' then some rest else none
  | [] => none

def Instant.parse? (text : String) : Option Instant := do
  let (date, cs) ← readDate text.toList
  let cs ← readTimeMark cs
  let (time, cs) ← readTime cs
  let (offset, cs) ← readOffset (skipBlanks cs)
  let there ← Instant.of? date time
  if skipBlanks cs = [] ∧ offset.natAbs < 1440 then there.minus? offset else none

end Time

end ProfileOperator
