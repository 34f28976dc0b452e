import ProfileOperator.Api.ClientError
import ProfileOperator.Text.Numeral

/-!
# Request targets

The target of a request is the path and the query of a URI.  Names stand in the path as they are, so
a name with a character that no path can hold makes a target that cannot be asked for, and the server may
read another name in the path than the one that was put there.
-/

namespace ProfileOperator

namespace Api

structure Target where
  path : String
  query : String
deriving DecidableEq, Repr

/-- The character can stand in a path; beyond ASCII every one can. -/
def isPathChar (c : Char) : Bool :=
  c.toNat = 0x21 || c.toNat = 0x22 || (0x24 ≤ c.toNat && c.toNat ≤ 0x3b) || c.toNat = 0x3d ||
    (0x40 ≤ c.toNat && c.toNat ≤ 0x5f) || (0x61 ≤ c.toNat && c.toNat ≠ 0x7f)

def isQueryChar (c : Char) : Bool :=
  c.toNat = 0x21 || (0x24 ≤ c.toNat && c.toNat ≤ 0x3b) || c.toNat = 0x3d ||
    (0x3f ≤ c.toNat && c.toNat ≠ 0x7f)

def beforeFragment (cs : List Char) : List Char :=
  cs.takeWhile (· ≠ '#')

/-- The query after its question mark, without the separator that may stand in front. -/
def queryText : List Char -> List Char
  | '&' :: rest => rest
  | cs => cs

def targetLimit : Nat := 65534

def Target.ofText (text : String) : Except TargetError Target :=
  let cs := beforeFragment text.toList
  let path := cs.takeWhile (· ≠ '?')
  let query := (cs.dropWhile (· ≠ '?')).drop 1
  if targetLimit < text.utf8ByteSize then
    .error .tooLong
  else if path.all isPathChar ∧ query.all isQueryChar then
    .ok { path := String.ofList path, query := String.ofList (queryText query) }
  else
    .error .invalidCharacter

/-! ### Names in paths -/

/-- The name that is read in a path where a name was put. -/
def nameRead (name : String) : String :=
  String.ofList (name.toList.takeWhile fun c => c ≠ '/' && c ≠ '?' && c ≠ '#')

def leadsOn (name : String) : Bool :=
  name.toList.all fun c => c ≠ '?' && c ≠ '#'

/-- The name that is read in a path where a name was put behind another one. -/
def nameReadBehind (outer name : String) : String :=
  if leadsOn outer then nameRead name else ""

def IsPlainName (name : String) : Prop :=
  ∀ c ∈ name.toList, c ≠ '/' ∧ c ≠ '?' ∧ c ≠ '#'

instance (name : String) : Decidable (IsPlainName name) :=
  List.decidableBAll (fun c => c ≠ '/' ∧ c ≠ '?' ∧ c ≠ '#') name.toList

theorem takeWhile_of_forall {p : Char -> Bool} {cs : List Char} (h : ∀ c ∈ cs, p c = true) :
    cs.takeWhile p = cs := by
  induction cs with
  | nil => rfl
  | cons c rest ih =>
      rw [List.takeWhile_cons, if_pos (h c List.mem_cons_self),
        ih fun d hd => h d (List.mem_cons_of_mem _ hd)]

theorem nameRead_eq {name : String} (h : IsPlainName name) : nameRead name = name := by
  rw [nameRead, takeWhile_of_forall fun c hc => by simp [h c hc], String.ofList_toList]

theorem leadsOn_of_isPlainName {name : String} (h : IsPlainName name) : leadsOn name = true := by
  simp only [leadsOn, List.all_eq_true]
  intro c hc
  have := h c hc
  simp [this]

theorem nameReadBehind_eq {outer name : String} (houter : IsPlainName outer)
    (hname : IsPlainName name) : nameReadBehind outer name = name := by
  rw [nameReadBehind, if_pos (leadsOn_of_isPlainName houter), nameRead_eq hname]

/-! ### Parameters -/

def isPlainByte (b : UInt8) : Bool :=
  let c := Char.ofNat b.toNat
  c.isAlphanum || c = '*' || c = '-' || c = '.' || c = '_'

def upperDigit (n : Nat) : Char :=
  (Nat.digitChar n).toUpper

def parameterByte (b : UInt8) : List Char :=
  if isPlainByte b then [Char.ofNat b.toNat]
  else if b = 0x20 then ['+']
  else ['%', upperDigit (b.toNat / 16), upperDigit (b.toNat % 16)]

def parameterText (s : String) : String :=
  String.ofList (s.toUTF8.toList.flatMap parameterByte)

/-- A parameter as it is put behind a path and its question mark. -/
def parameter (name value : String) : String :=
  "&" ++ parameterText name ++ "=" ++ parameterText value

end Api

end ProfileOperator
