import AttestedImaging.Config
import AttestedImaging.Text.Terminal

/-!
# The command line

One image and some options. An option with a value takes what is attached to it or else the next
argument; that value is looked at only when the next option or image comes, or at the end. So of
two faults the one that is met first counts, except that an argument which is no option at all
counts before the value that was waiting.
-/

namespace AttestedImaging.Host

structure Arguments where
  image : String
  output : Option String := none
  json : Bool := false
  keyPolicy : Option KeyPolicy := none
  maxImageBytes : Option Nat := none
  persist : Bool := false
deriving DecidableEq

namespace CommandLine

/-- What takes a value. -/
inductive Parameter
  | image
  | output
  | keyPolicy
  | maxImageBytes
deriving DecidableEq

def Parameter.describe : Parameter → String
  | .image => "<IMAGE>"
  | .output => "--output <OUTPUT>"
  | .keyPolicy => "--key-policy <KEY_POLICY>"
  | .maxImageBytes => "--max-image-bytes <MAX_IMAGE_BYTES>"

/-- What takes no value. -/
inductive Flag
  | json
  | persist
  | help
deriving DecidableEq

def Flag.describe : Flag → String
  | .json => "--json"
  | .persist => "--persist"
  | .help => "--help"

inductive Fault
  | unexpectedArgument (argument : String)
  | imageMissing
  | repeated (what : String)
  | valueMissing (parameter : Parameter)
  | unexpectedValue (value : String) (flag : Flag)
  | invalidValue (value : String) (parameter : Parameter) (reason : Config.Reason)
deriving DecidableEq

open Text.Terminal (mark) in
/-- What is said about a fault on a terminal. -/
def Fault.styled : Fault → String
  | .unexpectedArgument argument => "unexpected argument '" ++ mark argument ++ "' found"
  | .imageMissing => "the following required arguments were not provided:\n  " ++ mark "<IMAGE>"
  | .repeated what => "the argument '" ++ mark what ++ "' cannot be used multiple times"
  | .valueMissing parameter =>
    "a value is required for '" ++ mark parameter.describe ++ "' but none was supplied"
  | .unexpectedValue value flag =>
    "unexpected value '" ++ mark value ++ "' for '" ++ mark flag.describe
      ++ "' found; no more were expected"
  | .invalidValue value parameter reason =>
    "invalid value '" ++ mark value ++ "' for '" ++ mark parameter.describe ++ "': "
      ++ reason.message

/-- Whether the usage is shown with a fault. A fault of a value alone is no question of usage. -/
def Fault.showsUsage : Fault → Bool
  | .valueMissing _ | .invalidValue _ _ _ => false
  | _ => true

def usage : String := "vtee-host [OPTIONS] <IMAGE>"

open Text.Terminal (mark) in
/-- The whole report on a fault, for an output that is no terminal. -/
def Fault.report (f : Fault) : String :=
  Text.Terminal.strip <|
    mark "error:" ++ " " ++ f.styled
      ++ (if f.showsUsage then "\n\n" ++ mark "Usage:" ++ " " ++ usage else "")
      ++ "\n\nFor more information, try '" ++ mark "--help" ++ "'.\n"

/-- Why no arguments come out: a fault, or the wish for help. -/
inductive Stop
  | fault (fault : Fault)
  | help
deriving DecidableEq

structure State where
  image : Option String := none
  output : Option String := none
  json : Bool := false
  keyPolicy : Option KeyPolicy := none
  maxImageBytes : Option Nat := none
  persist : Bool := false
  /-- What has been named and not looked at yet, with its value if that has come. -/
  pending : Option (Parameter × Option String) := none
  imageCame : Bool := false
  /-- Whether `--` has come, after which everything is an image. -/
  imagesOnly : Bool := false

/-- A path is any text but the empty one. -/
def readPath (parameter : Parameter) (value : String) : Except Stop String :=
  if value = "" then .error (.fault (.valueMissing parameter)) else .ok value

def readValue {α : Type} (parameter : Parameter) (value : String) :
    Except Config.Reason α → Except Stop α
  | .ok a => .ok a
  | .error reason => .error (.fault (.invalidValue value parameter reason))

/-- A parameter may be given once. -/
def once {α : Type} (what : String) : Option α → Except Stop Unit
  | none => .ok ()
  | some _ => .error (.fault (.repeated what))

def State.assign (parameter : Parameter) (value : String) (s : State) : Except Stop State := do
  match parameter with
  | .image => pure { s with image := some (← readPath parameter value) }
  | .output =>
    once parameter.describe s.output
    pure { s with output := some (← readPath parameter value) }
  | .keyPolicy =>
    once parameter.describe s.keyPolicy
    pure { s with keyPolicy := some (← readValue parameter value (Config.readPolicy value)) }
  | .maxImageBytes =>
    once parameter.describe s.maxImageBytes
    pure { s with maxImageBytes := some (← readValue parameter value (Config.readNumber value)) }

def State.settle (s : State) : Except Stop State :=
  match s.pending with
  | none => .ok s
  | some (parameter, none) => .error (.fault (.valueMissing parameter))
  | some (parameter, some value) => { s with pending := none }.assign parameter value

/-- A parameter has been named, with or without a value attached. -/
def State.name (parameter : Parameter) (attached : Option String) (s : State) :
    Except Stop State := do
  let s ← s.settle
  match attached with
  | some value => s.assign parameter value
  | none => pure { s with pending := some (parameter, none) }

def State.raise (flag : Flag) (s : State) : Except Stop State := do
  let s ← s.settle
  let again : Except Stop State := .error (.fault (.repeated flag.describe))
  match flag with
  | .json => if s.json then again else pure { s with json := true }
  | .persist => if s.persist then again else pure { s with persist := true }
  | .help => .error .help

def longName? : String → Option (Parameter ⊕ Flag)
  | "output" => some (.inl .output)
  | "key-policy" => some (.inl .keyPolicy)
  | "max-image-bytes" => some (.inl .maxImageBytes)
  | "json" => some (.inr .json)
  | "persist" => some (.inr .persist)
  | "help" => some (.inr .help)
  | _ => none

/-- The text before the first `=`, and the text after it. -/
def splitValue (text : List Char) : String × Option String :=
  let name := text.takeWhile (· ≠ '=')
  (String.ofList name,
    match text.drop name.length with
    | [] => none
    | _ :: value => some (String.ofList value))

/-- An argument that starts with `--`, given without that. -/
def State.long (text : List Char) (s : State) : Except Stop State :=
  let (name, attached) := splitValue text
  match longName? name, attached with
  | some (.inl parameter), _ => s.name parameter attached
  | some (.inr flag), none => s.raise flag
  | some (.inr flag), some value => .error (.fault (.unexpectedValue value flag))
  | none, _ => .error (.fault (.unexpectedArgument ("--" ++ name)))

/-- An argument that starts with one `-`, given without that. -/
def State.short (text : List Char) (s : State) : Except Stop State :=
  match text with
  | 'o' :: [] => s.name .output none
  | 'o' :: '=' :: value => s.name .output (some (String.ofList value))
  | 'o' :: value => s.name .output (some (String.ofList value))
  | 'h' :: _ => s.raise .help
  | c :: _ => .error (.fault (.unexpectedArgument (String.ofList ['-', c])))
  | [] => .ok s

/-- An argument that is no option: the value that was waited for, or an image. -/
def State.plain (argument : String) (s : State) : Except Stop State := do
  match s.pending, s.imagesOnly with
  | some (parameter, none), false => pure { s with pending := some (parameter, some argument) }
  | _, _ =>
    if s.imageCame then .error (.fault (.unexpectedArgument argument))
    else
      let s ← s.settle
      pure { s with pending := some (.image, some argument), imageCame := true }

def State.argument (argument : String) (s : State) : Except Stop State :=
  match argument.toList, s.imagesOnly with
  | ['-', '-'], false => .ok { s with imagesOnly := true }
  | '-' :: '-' :: text, false => s.long text
  | '-' :: c :: text, false => s.short (c :: text)
  | _, _ => s.plain argument

def State.finish (s : State) : Except Stop Arguments := do
  let s ← s.settle
  match s.image with
  | none => .error (.fault .imageMissing)
  | some image =>
    pure {
      image, output := s.output, json := s.json, keyPolicy := s.keyPolicy
      maxImageBytes := s.maxImageBytes, persist := s.persist }

def parse (arguments : List String) : Except Stop Arguments := do
  let s ← arguments.foldlM (fun s argument => State.argument argument s) ({} : State)
  s.finish

def help : String :=
  "\n".intercalate
    ["Attested grayscale processing inside a trusted execution environment",
     "",
     "Usage: " ++ usage,
     "",
     "Arguments:",
     "  <IMAGE>  入力画像のパス（BMP, PNG, JPEG等）",
     "",
     "Options:",
     "  -o, --output <OUTPUT>                    グレースケール画像の出力先",
     "      --json                               結果をJSONで出力する",
     "      --key-policy <KEY_POLICY>            "
       ++ "署名鍵の生存期間（per-invocation | per-session）",
     "      --max-image-bytes <MAX_IMAGE_BYTES>  入力画像の最大サイズ（バイト）",
     "      --persist                            "
       ++ "成功したAttestationをプロセス内のメモリ上ストレージに保存する"
       ++ "（終了時に破棄され、ディスクには残らない）",
     "  -h, --help                               Print help"]

end CommandLine

namespace Arguments

/-- The configuration from the environment, changed by what the command line says. The environment
has to be in order also where the command line overrides it. -/
def config (a : Arguments) (lookup : String → Option String) : Except Config.Fault Config := do
  let c ← Config.read lookup
  pure {
    c with
    keyPolicy := a.keyPolicy.getD c.keyPolicy
    maxImageBytes := a.maxImageBytes.getD c.maxImageBytes
    persist := a.persist || c.persist }

end Arguments

end AttestedImaging.Host
