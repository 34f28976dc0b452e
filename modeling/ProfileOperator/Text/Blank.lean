import ProfileOperator.Text.Range

/-!
# White space

The property `White_Space` of the Unicode standard.  It is wider than the blanks of ASCII and
narrower than "looks empty": the zero-width space U+200B and the byte order mark U+FEFF are not
white space.
-/

namespace ProfileOperator

namespace Text

def blankRanges : List (Nat × Nat) :=
  [(0x09, 0x0d), (0x20, 0x20), (0x85, 0x85), (0xa0, 0xa0), (0x1680, 0x1680), (0x2000, 0x200a),
    (0x2028, 0x2029), (0x202f, 0x202f), (0x205f, 0x205f), (0x3000, 0x3000)]

def isBlank (c : Char) : Bool :=
  inRanges blankRanges c

end Text

end ProfileOperator
