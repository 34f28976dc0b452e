/-!
# Shortest decimals

A floating-point number stands for all reals that round to it.  Among the decimals of that interval the one
with the coarsest last place is chosen; of two that are equally coarse the nearer one, and of two equally
near the larger one.  All arithmetic is exact.
-/

namespace ProfileOperator

structure Decimal where
  coefficient : Nat
  exponent : Int
deriving DecidableEq, Repr

namespace Decimal

/-- A positive floating-point number together with the ends of the interval that rounds to it. -/
structure Interval where
  value : Rat
  low : Rat
  high : Rat
  /-- The ends round to the number as well. -/
  closed : Bool

namespace Interval

def holds (i : Interval) (x : Rat) : Bool :=
  if i.closed then i.low ≤ x && x ≤ i.high else i.low < x && x < i.high

/--
The interval of `m * 2 ^ q`.  It ends halfway to the neighbours; the one below is half as far away where
the numbers begin to lie closer.
-/
def ofBinary (m : Nat) (q : Int) (closerBelow : Bool) : Interval :=
  let gap : Rat := (2 : Rat) ^ q
  let value := (m : Rat) * gap
  { value := value
    low := value - gap / (if closerBelow then 4 else 2)
    high := value + gap / 2
    closed := m % 2 = 0 }

end Interval

def value (d : Decimal) : Rat :=
  (d.coefficient : Rat) * (10 : Rat) ^ d.exponent

def neighbours (x : Rat) (exponent : Int) : Decimal × Decimal :=
  let below := (x / (10 : Rat) ^ exponent).floor.toNat
  ({ coefficient := below, exponent := exponent }, { coefficient := below + 1, exponent := exponent })

/-- The better one of the neighbours on a grid, if one of them lies in the interval. -/
def Interval.onGrid? (i : Interval) (exponent : Int) : Option Decimal :=
  let (below, above) := neighbours i.value exponent
  let fits := fun (d : Decimal) => d.coefficient ≠ 0 && i.holds d.value
  match fits below, fits above with
  | true, true => if i.value + i.value < below.value + above.value then some below else some above
  | true, false => some below
  | false, true => some above
  | false, false => none

theorem Interval.holds_of_onGrid? {i : Interval} {exponent : Int} {d : Decimal}
    (h : i.onGrid? exponent = some d) : i.holds d.value = true := by
  simp only [onGrid?] at h
  split at h
  · split at h <;> simp_all
  all_goals simp_all

/-- How many grids are looked at; every interval holds a decimal of seventeen digits. -/
def gridCount : Nat := 24

def Interval.firstOnGrids? (i : Interval) (start : Int) : Option Decimal :=
  (List.range gridCount).findSome? fun (n : Nat) => i.onGrid? (start - n)

def exponentAbove (m : Nat) (q : Int) : Int :=
  ((m.log2 + q + 1) * 30103) / 100000 + 2

def exact (m : Nat) (q : Int) : Decimal :=
  if 0 ≤ q then { coefficient := m * Nat.pow 2 q.toNat, exponent := 0 }
  else { coefficient := m * Nat.pow 5 (-q).toNat, exponent := q }

/-- The shortest decimal that rounds to `m * 2 ^ q`. -/
def shortest (m : Nat) (q : Int) (closerBelow : Bool) : Decimal :=
  ((Interval.ofBinary m q closerBelow).firstOnGrids? (exponentAbove m q)).getD (exact m q)

/-! ### Positional notation -/

/-- A decimal written with all its places, and a point only before places below one. -/
def text (d : Decimal) : List Char :=
  let digits := Nat.toDigits 10 d.coefficient
  if 0 ≤ d.exponent then digits ++ List.replicate d.exponent.toNat '0'
  else
    let places := (-d.exponent).toNat
    let padded := List.replicate (places + 1 - digits.length) '0' ++ digits
    padded.take (padded.length - places) ++ '.' :: padded.drop (padded.length - places)

/-! ### Numbers of sixty-four bits -/

inductive Binary64 where
  | notANumber
  | infinite (negative : Bool)
  | finite (negative : Bool) (m : Nat) (q : Int) (closerBelow : Bool)
deriving DecidableEq, Repr

def Binary64.ofBits (bits : Nat) : Binary64 :=
  let negative := decide (bits / Nat.pow 2 63 = 1)
  let exponent : Nat := bits / Nat.pow 2 52 % Nat.pow 2 11
  let fraction : Nat := bits % Nat.pow 2 52
  if exponent = 2047 then
    if fraction = 0 then .infinite negative else .notANumber
  else if exponent = 0 then .finite negative fraction (-1074) false
  else .finite negative (Nat.pow 2 52 + fraction) ((exponent : Int) - 1075) (fraction = 0 && 1 < exponent)

def Binary64.text : Binary64 -> List Char
  | .notANumber => ['N', 'a', 'N']
  | .infinite negative => (if negative then ['-'] else []) ++ ['i', 'n', 'f']
  | .finite negative m q closerBelow =>
      (if negative then ['-'] else []) ++
        (if m = 0 then ['0'] else (shortest m q closerBelow).text)

def floatText (x : Float) : String :=
  String.ofList (Binary64.ofBits x.toBits.toNat).text

end Decimal

end ProfileOperator
