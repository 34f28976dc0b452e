/-!
# Numerals

Digits in bases up to sixteen and the numbers they write.  Only the digits of ASCII count, and a
letter is the same digit in either case.  Writing is `Nat.toDigits`, whose letters are lower case.
-/

namespace ProfileOperator

namespace Text

/-- The value of a digit, or sixteen for a character that is none. -/
def digitValue (c : Char) : Nat :=
  if '0' ≤ c ∧ c ≤ '9' then c.toNat - '0'.toNat
  else if 'a' ≤ c ∧ c ≤ 'f' then c.toNat - 'a'.toNat + 10
  else if 'A' ≤ c ∧ c ≤ 'F' then c.toNat - 'A'.toNat + 10
  else 16

def isDigit (base : Nat) (c : Char) : Bool :=
  digitValue c < base

def numeralValue (base : Nat) (digits : List Char) : Nat :=
  digits.foldl (fun n c => n * base + digitValue c) 0

@[simp] theorem numeralValue_nil (base : Nat) : numeralValue base [] = 0 := rfl

theorem numeralValue_append_singleton (base : Nat) (digits : List Char) (c : Char) :
    numeralValue base (digits ++ [c]) = numeralValue base digits * base + digitValue c := by
  simp [numeralValue]

def spanDigits (base : Nat) (cs : List Char) : List Char × List Char :=
  (cs.takeWhile (isDigit base), cs.dropWhile (isDigit base))

def padded (width n : Nat) : List Char :=
  let digits := Nat.toDigits 10 n
  List.replicate (width - digits.length) '0' ++ digits

end Text

end ProfileOperator
