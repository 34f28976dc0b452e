/-!
# Text on a terminal

A terminal obeys control sequences and does not show them.  What it does with a character depends on what
it is in the middle of, which is its mode; a sequence that is not finished hides what follows it up to the
character that ends it.  What a terminal shows of a text is plain text, of which it shows everything.

A layout character is shown also where it breaks into a sequence, and plain text follows it.  Whether the
terminal then comes back to the sequence is left to where the text goes.
-/

namespace ProfileOperator

namespace Text

/-- What a terminal is in the middle of. -/
inductive TerminalMode where
  | plain
  | escape
  | escapeTail
  | control
  | device
  | deviceParameters
  | deviceTail
  | content
  | systemCommand
deriving DecidableEq, Repr

def liesWithin (first last : Nat) (c : Char) : Bool :=
  first ≤ c.toNat && c.toNat ≤ last

/-- A control character that only moves to another place, as a blank does. -/
def isLayout (c : Char) : Bool :=
  c = '\t' || c = '\n' || c = '\r' || c = '\x0c'

/-- One of the bytes of the character is the one that ends a string. -/
def holdsTerminator (c : Char) : Bool :=
  (String.utf8EncodeChar c).contains 0x9c

namespace TerminalMode

/-- The terminal shows the character and is in plain text after it. -/
def shows (mode : TerminalMode) (c : Char) : Bool :=
  match mode with
  | .plain => isLayout c || 0x20 ≤ c.toNat && c.toNat ≠ 0x7f
  | .escape => isLayout c
  | .escapeTail => isLayout c
  | .control => isLayout c
  | _ => false

def afterEscape (c : Char) : TerminalMode :=
  if c = '[' then .control
  else if c = ']' then .systemCommand
  else if c = 'P' then .device
  else if c = 'X' ∨ c = '^' ∨ c = '_' then .content
  else if liesWithin 0x20 0x2f c then .escapeTail
  else if liesWithin 0x30 0x7e c then .plain
  else .escape

def afterDevice (mode : TerminalMode) (c : Char) : TerminalMode :=
  if liesWithin 0x40 0x7e c then .content
  else if liesWithin 0x20 0x2f c then .deviceTail
  else if liesWithin 0x30 0x3f c then
    match mode with
    | .device => .deviceParameters
    | .deviceParameters => if liesWithin 0x3c 0x3f c then .content else .deviceParameters
    | _ => .content
  else mode

def after (mode : TerminalMode) (c : Char) : TerminalMode :=
  if c = '\x1b' then .escape
  else if c = '\x18' ∨ c = '\x1a' then .plain
  else
    match mode with
    | .plain => .plain
    | .escape => afterEscape c
    | .escapeTail => if liesWithin 0x30 0x7e c then .plain else .escapeTail
    | .control => if liesWithin 0x40 0x7e c then .plain else .control
    | .content => if holdsTerminator c then .plain else .content
    | .systemCommand => if c = '\x07' then .plain else .systemCommand
    | mode => mode.afterDevice c

end TerminalMode

/-- What becomes of a sequence that a layout character breaks into. -/
inductive Interruption where
  | ends
  /-- It is taken up again at the next control character, if the text up to there is all ASCII. -/
  | pauses
deriving DecidableEq, Repr

/-- The mode that is taken up again at a control character, once a character has been shown. -/
def Interruption.kept (interruption : Interruption) (mode : TerminalMode) (c : Char) : TerminalMode :=
  if interruption = .ends ∨ 0x80 ≤ c.toNat then .plain else mode

/--
What a terminal shows of a text when it starts in a mode.  While the text is `visible` it is taken for plain
text, and the mode is the one that is taken up again.
-/
def shownFrom (interruption : Interruption) (visible : Bool) (mode : TerminalMode) :
    List Char -> List Char
  | [] => []
  | c :: rest =>
      if (if visible then TerminalMode.plain else mode).shows c then
        c :: shownFrom interruption true (interruption.kept mode c) rest
      else
        shownFrom interruption false (mode.after c) rest

def shown (interruption : Interruption) (s : String) : String :=
  String.ofList (shownFrom interruption false .plain s.toList)

theorem TerminalMode.shows_plain {mode : TerminalMode} {c : Char} (h : mode.shows c = true) :
    TerminalMode.plain.shows c = true := by
  cases mode <;> simp_all [TerminalMode.shows]

theorem Interruption.kept_plain (interruption : Interruption) (c : Char) :
    interruption.kept .plain c = .plain := by
  simp [Interruption.kept]

theorem shows_of_mem_shownFrom {interruption : Interruption} {visible : Bool} {mode : TerminalMode}
    {cs : List Char} : ∀ c ∈ shownFrom interruption visible mode cs, TerminalMode.plain.shows c = true := by
  induction cs generalizing visible mode with
  | nil => simp [shownFrom]
  | cons first rest ih =>
      intro c hc
      rw [shownFrom] at hc
      by_cases h : (if visible then TerminalMode.plain else mode).shows first = true
      · rw [if_pos h] at hc
        rcases List.mem_cons.1 hc with rfl | hin
        · exact TerminalMode.shows_plain h
        · exact ih c hin
      · rw [if_neg h] at hc
        exact ih c hc

/-- Plain text is shown as it is. -/
theorem shownFrom_plain {interruption : Interruption} {visible : Bool} {cs : List Char}
    (h : ∀ c ∈ cs, TerminalMode.plain.shows c = true) :
    shownFrom interruption visible .plain cs = cs := by
  induction cs generalizing visible with
  | nil => rfl
  | cons c rest ih =>
      rw [shownFrom, ite_self, if_pos (h c List.mem_cons_self), Interruption.kept_plain,
        ih fun d hd => h d (List.mem_cons_of_mem _ hd)]

/-- What has been shown once is shown as it is. -/
theorem shown_shown (first second : Interruption) (s : String) :
    shown second (shown first s) = shown first s := by
  simp [shown, shownFrom_plain shows_of_mem_shownFrom]

end Text

end ProfileOperator
