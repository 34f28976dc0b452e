import ProfileOperator.Flag.Quote
import ProfileOperator.Text.Blank

/-!
# Dropping formatting blanks

White space outside quoted spans is formatting and is dropped; inside a span it is kept.  Reading
goes from left to right and remembers two things: which quote mark, if any, has a span open, and
whether a backslash just before makes the next character literal.  A backslash that is literal itself
escapes nothing.
-/

namespace ProfileOperator

namespace Flag

/-- What reading has to remember between two characters when blanks are dropped. -/
structure StripState where
  quote : Option Char := none
  /-- The next character is literal because of a backslash before it. -/
  escaped : Bool := false
deriving DecidableEq, Repr

namespace StripState

def start : StripState := {}

def step (s : StripState) (c : Char) : StripState where
  quote := if !s.escaped && isQuote c then turn s.quote c else s.quote
  escaped := !s.escaped && c == '\\'

def run (s : StripState) (cs : List Char) : StripState :=
  cs.foldl step s

@[simp] theorem run_nil (s : StripState) : s.run [] = s := rfl

@[simp] theorem run_cons (s : StripState) (c : Char) (cs : List Char) :
    s.run (c :: cs) = (s.step c).run cs := rfl

theorem run_append (s : StripState) (cs ds : List Char) :
    s.run (cs ++ ds) = (s.run cs).run ds :=
  List.foldl_append

end StripState

/-- A character is kept if it is no white space or if a span is open once it has been read. -/
def keeps (after : StripState) (c : Char) : Bool :=
  after.quote.isSome || !Text.isBlank c

def kept (s : StripState) : List Char -> List Char
  | [] => []
  | c :: cs =>
      if keeps (s.step c) c then c :: kept (s.step c) cs else kept (s.step c) cs

theorem kept_append (s : StripState) (cs ds : List Char) :
    kept s (cs ++ ds) = kept s cs ++ kept (s.run cs) ds := by
  induction cs generalizing s with
  | nil => rfl
  | cons c cs ih =>
      simp only [List.cons_append, kept, StripState.run_cons, ih]
      split <;> rfl

theorem kept_sublist (s : StripState) (cs : List Char) : (kept s cs).Sublist cs := by
  induction cs generalizing s with
  | nil => exact List.Sublist.refl _
  | cons c cs ih =>
      rw [kept]
      split
      · exact (ih _).cons_cons c
      · exact (ih _).cons c

/--
The text without its formatting blanks, or the quote mark of a span that is still open at the end.
-/
def strip (cs : List Char) : Except Char (List Char) :=
  match (StripState.start.run cs).quote with
  | some mark => .error mark
  | none => .ok (kept .start cs)

end Flag

end ProfileOperator
