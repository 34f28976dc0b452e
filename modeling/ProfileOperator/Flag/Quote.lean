/-!
# Quoted spans

In the pod-defaults flag a span of text between two equal quote marks is opaque: what would
otherwise separate entries or be dropped as formatting stands for itself there.  Three characters
are quote marks, and inside a span the other two are plain text.
-/

namespace ProfileOperator

namespace Flag

/-- The quote marks: backquote, double quote and single quote. -/
def quoteMarks : List Char := ['\x60', '\x22', '\x27']

def isQuote (c : Char) : Bool :=
  quoteMarks.contains c

/--
The open span after a quote mark that counts.  Outside every span it opens one, inside a span of its
own kind it closes it, and inside another it is plain text.
-/
def turn : Option Char -> Char -> Option Char
  | none, q => some q
  | some mark, q => if mark = q then none else some mark

@[simp] theorem turn_none (q : Char) : turn none q = some q := rfl

@[simp] theorem turn_same (q : Char) : turn (some q) q = none := by simp [turn]

theorem turn_other {mark q : Char} (h : mark ≠ q) : turn (some mark) q = some mark := by
  simp [turn, h]

end Flag

end ProfileOperator
