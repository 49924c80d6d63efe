import AttestedImaging.Text.Blank
import AttestedImaging.Text.Decimal

/-!
# Configuration

The limits of the trusted side and how long a signing key lives. Each setting has a variable; one
that is not set has its default. Blanks around a value do not count.
-/

namespace AttestedImaging

/-- How long a signing key lives: for one invocation, or until its session ends. -/
inductive KeyPolicy
  | perInvocation
  | perSession
deriving DecidableEq

namespace KeyPolicy

def name : KeyPolicy → String
  | perInvocation => "PerInvocation"
  | perSession => "PerSession"

def tag : KeyPolicy → String
  | perInvocation => "per-invocation"
  | perSession => "per-session"

def ofTag? (tag : String) : Option KeyPolicy :=
  [perInvocation, perSession].find? (·.tag = tag)

/-- What is said about a text that names no policy. -/
def refusal (text : String) : String :=
  "per-invocation または per-session を指定してください: " ++ text

end KeyPolicy

structure Config where
  /-- The longest image that is taken, in bytes. -/
  maxImageBytes : Nat := 20 * 1024 * 1024
  /-- How many sessions may be open at once. -/
  maxSessions : Nat := 16
  keyPolicy : KeyPolicy := .perInvocation
  persist : Bool := false
deriving DecidableEq

namespace Config

inductive Setting
  | maxImageBytes
  | maxSessions
  | keyPolicy
  | persist
deriving DecidableEq

def Setting.variable : Setting → String
  | .maxImageBytes => "VTEE_MAX_IMAGE_BYTES"
  | .maxSessions => "VTEE_MAX_SESSIONS"
  | .keyPolicy => "VTEE_KEY_POLICY"
  | .persist => "VTEE_PERSIST_ATTESTATIONS"

/-- Why a text is no value of its setting. -/
inductive Reason
  | number (fault : Text.Decimal.Fault)
  | policy (text : String)
  | boolean
deriving DecidableEq

def Reason.message : Reason → String
  | .number fault => fault.message
  | .policy text => KeyPolicy.refusal text
  | .boolean => "provided string was not `true` or `false`"

/-- A setting whose text is not a value of it. -/
structure Fault where
  setting : Setting
  text : String
  reason : Reason
deriving DecidableEq

def Fault.message (f : Fault) : String :=
  "設定値が不正です: " ++ f.setting.variable ++ "=" ++ f.text ++ " (" ++ f.reason.message ++ ")"

def readNumber (text : String) : Except Reason Nat :=
  match Text.Decimal.readWord text with
  | .ok n => .ok n
  | .error fault => .error (.number fault)

def readPolicy (text : String) : Except Reason KeyPolicy :=
  match KeyPolicy.ofTag? text with
  | some policy => .ok policy
  | none => .error (.policy text)

def readBool (text : String) : Except Reason Bool :=
  if text = "true" then .ok true else if text = "false" then .ok false else .error .boolean

/-- Reads one setting after trimming its text, and takes the default if it has none. -/
def readSetting {α : Type} (lookup : String → Option String) (setting : Setting)
    (read : String → Except Reason α) (default : α) : Except Fault α :=
  match lookup setting.variable with
  | none => .ok default
  | some text =>
    match read (String.ofList (Text.trim text.toList)) with
    | .ok value => .ok value
    | .error reason => .error ⟨setting, text, reason⟩

/-- Reads all settings. Of several faults the first in this order counts. -/
def read (lookup : String → Option String) : Except Fault Config := do
  let defaults : Config := {}
  let maxImageBytes ← readSetting lookup .maxImageBytes readNumber defaults.maxImageBytes
  let maxSessions ← readSetting lookup .maxSessions readNumber defaults.maxSessions
  let keyPolicy ← readSetting lookup .keyPolicy readPolicy defaults.keyPolicy
  let persist ← readSetting lookup .persist readBool defaults.persist
  pure { maxImageBytes, maxSessions, keyPolicy, persist }

/-- The text of a setting, as `read` takes it. -/
def text (c : Config) : Setting → String
  | .maxImageBytes => toString c.maxImageBytes
  | .maxSessions => toString c.maxSessions
  | .keyPolicy => c.keyPolicy.tag
  | .persist => if c.persist then "true" else "false"

end Config

end AttestedImaging
