import ProfileOperator.Flag.Quote

/-!
# Splitting at a delimiter

A text is cut at every delimiter that lies outside the quoted spans.  Here a quote mark counts unless
the character right before it is a backslash; a backslash before that backslash makes no difference.
The delimiter comes first: where it is a quote mark or a backslash itself, it cuts.
-/

namespace ProfileOperator

namespace Flag

/-- What reading has to remember between two characters when a text is split. -/
structure SplitState where
  quote : Option Char := none
  prev : Option Char := none
deriving DecidableEq, Repr

namespace SplitState

def start : SplitState := {}

/-- The character is a delimiter and no span is open. -/
def cuts (d : Char) (s : SplitState) (c : Char) : Bool :=
  c == d && s.quote.isNone

theorem cuts_iff {d c : Char} {s : SplitState} : s.cuts d c = true ↔ c = d ∧ s.quote = none := by
  simp [cuts]

def step (d : Char) (s : SplitState) (c : Char) : SplitState where
  quote :=
    if s.cuts d c then s.quote
    else if isQuote c && s.prev != some '\\' then turn s.quote c
    else s.quote
  prev := some c

def run (d : Char) (s : SplitState) (cs : List Char) : SplitState :=
  cs.foldl (step d) s

@[simp] theorem run_nil (d : Char) (s : SplitState) : s.run d [] = s := rfl

@[simp] theorem run_cons (d : Char) (s : SplitState) (c : Char) (cs : List Char) :
    s.run d (c :: cs) = (s.step d c).run d cs := rfl

theorem run_append (d : Char) (s : SplitState) (cs ds : List Char) :
    s.run d (cs ++ ds) = (s.run d cs).run d ds :=
  List.foldl_append

end SplitState

def consFirst (c : Char) : List (List Char) -> List (List Char)
  | [] => [[c]]
  | p :: ps => (c :: p) :: ps

def splitFrom (d : Char) (s : SplitState) : List Char -> List (List Char)
  | [] => [[]]
  | c :: cs =>
      if s.cuts d c then [] :: splitFrom d (s.step d c) cs
      else consFirst c (splitFrom d (s.step d c) cs)

/-- The parts of a text between the delimiters outside its quoted spans. -/
def split (d : Char) (cs : List Char) : List (List Char) :=
  splitFrom d .start cs

theorem consFirst_ne_nil (c : Char) (ps : List (List Char)) : consFirst c ps ≠ [] := by
  cases ps <;> simp [consFirst]

theorem splitFrom_ne_nil (d : Char) (s : SplitState) (cs : List Char) :
    splitFrom d s cs ≠ [] := by
  cases cs with
  | nil => simp [splitFrom]
  | cons c cs =>
      rw [splitFrom]
      split
      · simp
      · exact consFirst_ne_nil c _

theorem split_ne_nil (d : Char) (cs : List Char) : split d cs ≠ [] :=
  splitFrom_ne_nil d .start cs

end Flag

end ProfileOperator
