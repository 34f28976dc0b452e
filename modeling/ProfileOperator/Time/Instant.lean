import ProfileOperator.Text.Numeral

/-!
# Points in time

A point in time is a date and a time of day in Coordinated Universal Time, down to the nanosecond.  A
leap second is the second numbered sixty.  Dates follow the Gregorian calendar throughout, in a range
of years wide enough for every time stamp and bounded as clocks are.
-/

namespace ProfileOperator

namespace Time

def isLeapYear (year : Int) : Bool :=
  year % 4 == 0 && (year % 100 != 0 || year % 400 == 0)

def daysIn (year : Int) (month : Nat) : Nat :=
  if month = 2 then (if isLeapYear year then 29 else 28)
  else if month ∈ [4, 6, 9, 11] then 30
  else 31

def firstYear : Int := -262143

def lastYear : Int := 262142

structure Date where
  year : Int
  month : Nat
  day : Nat
deriving DecidableEq, Repr

namespace Date

def isValid (d : Date) : Bool :=
  firstYear ≤ d.year && d.year ≤ lastYear && 1 ≤ d.month && d.month ≤ 12 && 1 ≤ d.day &&
    d.day ≤ daysIn d.year d.month

def next (d : Date) : Date :=
  if d.day < daysIn d.year d.month then { d with day := d.day + 1 }
  else if d.month < 12 then { d with month := d.month + 1, day := 1 }
  else { year := d.year + 1, month := 1, day := 1 }

def previous (d : Date) : Date :=
  if 1 < d.day then { d with day := d.day - 1 }
  else if 1 < d.month then { d with month := d.month - 1, day := daysIn d.year (d.month - 1) }
  else { year := d.year - 1, month := 12, day := 31 }

end Date

structure TimeOfDay where
  hour : Nat
  minute : Nat
  /-- Up to sixty, which is a leap second. -/
  second : Nat
  nanosecond : Nat
deriving DecidableEq, Repr

def TimeOfDay.isValid (t : TimeOfDay) : Bool :=
  t.hour < 24 && t.minute < 60 && t.second ≤ 60 && t.nanosecond < 1000000000

structure Instant where
  date : Date
  time : TimeOfDay
  valid : date.isValid ∧ time.isValid := by decide
deriving DecidableEq, Repr

namespace Instant

/-- The point in time of a day and a time of day, if there is one. -/
def of? (date : Date) (time : TimeOfDay) : Option Instant :=
  if h : date.isValid ∧ time.isValid then some { date := date, time := time, valid := h } else none

@[simp] theorem of?_date_time (t : Instant) : of? t.date t.time = some t := by
  simp [of?, t.valid]

/-- The point as far before `t` as an offset of whole minutes, which is shorter than a day. -/
def minus? (t : Instant) (offset : Int) : Option Instant :=
  let minutes : Int := t.time.hour * 60 + t.time.minute - offset
  let date := if minutes < 0 then t.date.previous else if minutes < 1440 then t.date else t.date.next
  let left := (minutes % 1440).toNat
  of? date { t.time with hour := left / 60, minute := left % 60 }

/-! ### Printing -/

/-- A year: four digits, or a sign and at least five characters outside the range that four can write. -/
def yearChars (year : Int) : List Char :=
  if 0 ≤ year ∧ year ≤ 9999 then Text.padded 4 year.toNat
  else (if year < 0 then '-' else '+') :: Text.padded 4 year.natAbs

def dateChars (d : Date) : List Char :=
  yearChars d.year ++ '-' :: Text.padded 2 d.month ++ '-' :: Text.padded 2 d.day

def clockChars (t : TimeOfDay) : List Char :=
  Text.padded 2 t.hour ++ ':' :: Text.padded 2 t.minute ++ ':' :: Text.padded 2 t.second

/-- The fraction of a second in none, three, six or nine digits, the fewest that lose nothing. -/
def fractionChars (nanosecond : Nat) : List Char :=
  if nanosecond = 0 then []
  else if nanosecond % 1000000 = 0 then '.' :: Text.padded 3 (nanosecond / 1000000)
  else if nanosecond % 1000 = 0 then '.' :: Text.padded 6 (nanosecond / 1000)
  else '.' :: Text.padded 9 nanosecond

def text (t : Instant) : String :=
  String.ofList (dateChars t.date ++ 'T' :: clockChars t.time ++ fractionChars t.time.nanosecond ++
    ['Z'])

def secondsText (t : Instant) : String :=
  String.ofList (dateChars t.date ++ 'T' :: clockChars t.time ++ ['Z'])

end Instant

end Time

end ProfileOperator
