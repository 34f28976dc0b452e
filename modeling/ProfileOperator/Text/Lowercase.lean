import ProfileOperator.Text.CaseTable

/-!
# Lower case

The full lower-case mapping of the Unicode standard.  It differs from the mapping character by
character in two places: the capital I with a dot becomes two characters, and a capital sigma at the
end of a word becomes the final sigma.
-/

namespace ProfileOperator

namespace Text

/-- The first character that is not case-ignorable is there and has case. -/
def startsCased (cs : List Char) : Bool :=
  match cs.dropWhile isCaseIgnorable with
  | [] => false
  | c :: _ => isCased c

/--
The lower-case form of one character.  `before` holds the characters that precede it, nearest first,
and `after` those that follow.
-/
def lowerAt (before : List Char) (c : Char) (after : List Char) : List Char :=
  if c = '\u0130' then
    ['i', '\u0307']
  else if c = '\u03a3' then
    [if startsCased before && !startsCased after then '\u03c2' else '\u03c3']
  else
    [simpleLower c]

/-- Lower-case a text whose preceding characters, nearest first, are `before`. -/
def lowerFrom (before : List Char) : List Char -> List Char
  | [] => []
  | c :: after => lowerAt before c after ++ lowerFrom (c :: before) after

def lowercase (cs : List Char) : List Char :=
  lowerFrom [] cs

theorem lowerFrom_cons (before : List Char) (c : Char) (after : List Char) :
    lowerFrom before (c :: after) = lowerAt before c after ++ lowerFrom (c :: before) after := rfl

theorem lowerAt_ne_nil (before : List Char) (c : Char) (after : List Char) :
    lowerAt before c after ≠ [] := by
  unfold lowerAt
  split
  · simp
  · split <;> simp

/-- Only the empty text has an empty lower-case form. -/
theorem lowercase_eq_nil_iff {cs : List Char} : lowercase cs = [] ↔ cs = [] := by
  cases cs with
  | nil => simp [lowercase, lowerFrom]
  | cons c after => simp [lowercase, lowerFrom_cons, lowerAt_ne_nil]

end Text

end ProfileOperator
