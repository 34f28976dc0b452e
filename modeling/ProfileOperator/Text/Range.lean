/-!
# Classes of characters given by ranges

A class of characters that a standard defines by enumeration is written here as a list of code
point ranges.  The tables of the neighbouring modules are such lists.
-/

namespace ProfileOperator

namespace Text

/-- The character lies in one of the ranges, whose ends are included. -/
def inRanges (ranges : List (Nat × Nat)) (c : Char) : Bool :=
  ranges.any fun range => range.1 ≤ c.toNat && c.toNat ≤ range.2

theorem inRanges_nil (c : Char) : inRanges [] c = false := rfl

theorem inRanges_cons (range : Nat × Nat) (ranges : List (Nat × Nat)) (c : Char) :
    inRanges (range :: ranges) c =
      ((range.1 ≤ c.toNat && c.toNat ≤ range.2) || inRanges ranges c) := rfl

/-- What holds of all characters of ASCII can be checked one by one. -/
theorem forall_ascii {P : Char -> Prop} (h : ∀ n, n < 0x80 -> P (Char.ofNat n)) {c : Char}
    (hc : c.toNat < 0x80) : P c := by
  have hcode := h c.toNat hc
  rwa [Char.ofNat_toNat] at hcode

end Text

end ProfileOperator
