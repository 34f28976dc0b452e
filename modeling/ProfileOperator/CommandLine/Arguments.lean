import ProfileOperator.Net.BindAddress
import ProfileOperator.Text.Terminal

/-!
# Command-line arguments

Arguments are read from left to right.  Two options take a value, in the same argument after an equals
sign or as the next argument; a value that was given as an argument of its own is looked at when the next
known option or the end is reached.  The first request for help or for the version, or the first error,
ends the reading.
-/

namespace ProfileOperator

namespace CommandLine

inductive Opt where
  | metricsAddress
  | podDefaults
deriving DecidableEq, Repr

namespace Opt

def name : Opt -> String
  | .metricsAddress => "metrics-addr"
  | .podDefaults => "pd"

def placeholder : Opt -> String
  | .metricsAddress => "METRICS_ADDR"
  | .podDefaults => "POD_DEFAULTS"

def usage (o : Opt) : String :=
  "--" ++ o.name ++ " <" ++ o.placeholder ++ ">"

def ofName? (s : String) : Option Opt :=
  [metricsAddress, podDefaults].find? fun o => o.name = s

end Opt

/-- The options that take no value and end the reading. -/
inductive Query where
  | help
  | version
deriving DecidableEq, Repr

namespace Query

def name : Query -> String
  | .help => "help"
  | .version => "version"

def letter : Query -> Char
  | .help => 'h'
  | .version => 'V'

def ofName? (s : String) : Option Query :=
  [help, version].find? fun q => q.name = s

def ofLetter? (c : Char) : Option Query :=
  [help, version].find? fun q => q.letter = c

end Query

inductive UsageError where
  | unexpectedArgument (arg : String)
  | valueMissing (option : Opt)
  | invalidValue (option : Opt) (value : String) (cause : Net.BindError)
  | givenTwice (option : Opt)
  | unexpectedValue (value : String) (query : Query)
deriving DecidableEq, Repr

/-- The wording of an error.  What was typed is given as a terminal shows it. -/
def UsageError.message (interruption : Text.Interruption) : UsageError -> String
  | .unexpectedArgument arg =>
      "error: unexpected argument '" ++ Text.shown interruption arg ++ "' found"
  | .valueMissing option =>
      "error: a value is required for '" ++ option.usage ++ "' but none was supplied"
  | .invalidValue option value cause =>
      "error: invalid value '" ++ Text.shown interruption value ++ "' for '" ++ option.usage ++ "': " ++
        cause.message
  | .givenTwice option => "error: the argument '" ++ option.usage ++ "' cannot be used multiple times"
  | .unexpectedValue value query =>
      "error: unexpected value '" ++ Text.shown interruption value ++ "' for '--" ++ query.name ++
        "' found; no more were expected"

def UsageError.headline (interruption : Text.Interruption) (e : UsageError) : String :=
  let line := (e.message interruption).toList.takeWhile (· ≠ '\n')
  String.ofList (if line.getLast? = some '\r' then line.dropLast else line)

inductive Stop where
  | asked (query : Query)
  | wrong (error : UsageError)
deriving DecidableEq, Repr

structure Options where
  metricsAddress : Net.SocketAddress
  podDefaults : String
deriving DecidableEq

structure Progress where
  metricsAddress : Option Net.SocketAddress := none
  podDefaults : Option String := none
  /-- The option read last, with its value once there is one, if it has not been looked at. -/
  pending : Option (Opt × Option String) := none
deriving DecidableEq

namespace Progress

def store (p : Progress) (option : Opt) (value : String) : Except UsageError Progress :=
  match option with
  | .metricsAddress =>
      if p.metricsAddress.isSome then .error (.givenTwice option)
      else
        match Net.parseBind value with
        | .ok address => .ok { p with metricsAddress := some address }
        | .error cause => .error (.invalidValue option value cause)
  | .podDefaults =>
      if p.podDefaults.isSome then .error (.givenTwice option)
      else .ok { p with podDefaults := some value }

def settle (p : Progress) : Except UsageError Progress :=
  match p.pending with
  | none => .ok p
  | some (option, none) => .error (.valueMissing option)
  | some (option, some value) => store { p with pending := none } option value

/-- The option that was read last still waits for a value, and the argument becomes it. -/
def supply? (p : Progress) (arg : String) : Option Progress :=
  match p.pending with
  | some (option, none) => some { p with pending := some (option, some arg) }
  | _ => none

end Progress

inductive Shape where
  | endOfOptions
  | long (name : String) (value : Option String)
  | short (letter : Char)
  | plain
deriving DecidableEq, Repr

def shapeOf (arg : String) : Shape :=
  match arg.toList with
  | '-' :: '-' :: [] => .endOfOptions
  | '-' :: '-' :: rest =>
      .long (String.ofList (rest.takeWhile (· ≠ '=')))
        (match rest.dropWhile (· ≠ '=') with
          | [] => none
          | _ :: value => some (String.ofList value))
  | '-' :: letter :: _ => .short letter
  | _ => .plain

def ask (p : Progress) (query : Query) : Except Stop Progress :=
  match p.settle with
  | .ok _ => .error (.asked query)
  | .error e => .error (.wrong e)

def readFrom (p : Progress) : List String -> Except Stop Progress
  | [] => p.settle.mapError .wrong
  | arg :: rest =>
      match shapeOf arg with
      | .endOfOptions =>
          match rest with
          | [] => p.settle.mapError .wrong
          | extra :: _ => .error (.wrong (.unexpectedArgument extra))
      | .long name value =>
          match Opt.ofName? name, Query.ofName? name, value with
          | some option, _, some value => do
              let p ← p.settle.mapError .wrong
              let p ← (p.store option value).mapError .wrong
              readFrom p rest
          | some option, _, none => do
              let p ← p.settle.mapError .wrong
              readFrom { p with pending := some (option, none) } rest
          | none, some query, some value => .error (.wrong (.unexpectedValue value query))
          | none, some query, none => ask p query
          | none, none, _ => .error (.wrong (.unexpectedArgument ("--" ++ name)))
      | .short letter =>
          match Query.ofLetter? letter with
          | some query => ask p query
          | none => .error (.wrong (.unexpectedArgument (String.ofList ['-', letter])))
      | .plain =>
          match p.supply? arg with
          | some p => readFrom p rest
          | none => .error (.wrong (.unexpectedArgument arg))

/-- Where the endpoint listens unless an option says otherwise: the port 8080 of every interface. -/
def defaultAddress : Net.SocketAddress :=
  .v4 { a := 0, b := 0, c := 0, d := 0 } 8080

def readArguments (args : List String) : Except Stop Options := do
  let p ← readFrom {} args
  .ok {
    metricsAddress := p.metricsAddress.getD defaultAddress
    podDefaults := p.podDefaults.getD "" }

/-! ### Help -/

def programName : String := "profile-controller"

/-- The name of the program as it was called: the last part of its path, if it has a name. -/
def calledName (path : String) : String :=
  let parts := (path.toList.splitBy fun a b => a ≠ '/' && b ≠ '/').filter fun part =>
    part ≠ ['/'] && part ≠ ['.']
  match parts.getLast? with
  | none => programName
  | some part => if part = ['.', '.'] then programName else String.ofList part

def helpText (interruption : Text.Interruption) (name : String) : String :=
  "Kubernetes controller for Kubeflow Profiles\n\n" ++
  "Usage: " ++ Text.shown interruption name ++ " [OPTIONS]\n\n" ++
  "Options:\n" ++
  "      --metrics-addr <METRICS_ADDR>  The address the metric endpoint binds to; " ++
    "a bare \":port\" binds all interfaces [default: :8080]\n" ++
  "      --pd <POD_DEFAULTS>            Comma separated list of PodDefaults spec fields, " ++
    "e.g. \"team-a.labels.project=shared,team-b.labels.project=shared\" [default: \"\"]\n" ++
  "  -h, --help                         Print help\n" ++
  "  -V, --version                      Print version\n"

def versionText : String :=
  programName ++ " 0.1.0\n"

end CommandLine

end ProfileOperator
