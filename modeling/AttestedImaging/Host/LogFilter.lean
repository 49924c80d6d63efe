import AttestedImaging.Host.LogFilter.Directive
import AttestedImaging.Text.Quoted

/-!
# Log lines

Which records are shown, and how. A filter is a list of directives with commas between them. The
most specific directive that fits a record decides, and what no directive fits is not shown. This
program enters no spans and asks for no values of fields, so directives that want either fit nothing.
-/

namespace AttestedImaging.Host

open Event (Level Record)

abbrev LogFilter := List Directive

namespace Directive

def fieldNames (d : Directive) : List String := d.fields.map (·.1)

/-- Whether a directive is for a record. Every record has the field `message`. -/
def fits (d : Directive) (r : Record) : Bool :=
  d.span.isNone && d.fields.all (·.2.isNone)
    && d.target.toList.isPrefixOf r.origin.toList
    && d.fieldNames.all fun name => name ∈ "message" :: r.fields.map (·.1)

/-- Whether `a` is less specific than `b`: by the length of the target, then by how many fields it
names, then by the order of their names. -/
def yields (a b : Directive) : Bool :=
  a.target.length < b.target.length
    || a.target.length = b.target.length
      && (a.fields.length < b.fields.length
        || a.fields.length = b.fields.length && a.fieldNames < b.fieldNames)

/-- The more specific of two directives, and of equal ones the later. -/
def better (old : Option Directive) (new : Directive) : Option Directive :=
  match old with
  | some d => if new.yields d then old else some new
  | none => some new

end Directive

namespace LogFilter

/-- Only errors. -/
def default : LogFilter := [{ level := some .error }]

def pieces (text : String) : List String := (text.splitOn ",").filter (· ≠ "")

/-- The directives that can be read. Without any, only errors are shown. -/
def ofText (text : String) : LogFilter :=
  match (pieces text).filterMap fun piece => (Directive.read piece).toOption with
  | [] => default
  | directives => directives

/-- What is said about a directive that cannot be read. -/
def refusal? (piece : String) : Option String :=
  match Directive.read piece with
  | .ok _ => none
  | .error fault => some ("ignoring `" ++ piece ++ "`: " ++ fault.message)

def refusals (text : String) : List String := (pieces text).filterMap refusal?

def shows (f : LogFilter) (r : Record) : Bool :=
  match (f.filter (·.fits r)).foldl Directive.better none with
  | some { level := some finest, .. } => r.level.rank ≤ finest.rank
  | _ => false

end LogFilter

/-- A record on one line, without the time in front. -/
def logLine (r : Record) : String :=
  let level := String.ofList (r.level.name.toList.leftpad 5 ' ')
  let field : String × Event.Value → String
    | (name, .quoted text) => " " ++ name ++ "=" ++ Text.quote text
    | (name, .plain text) => " " ++ name ++ "=" ++ text
  level ++ " " ++ r.origin ++ ": " ++ r.message ++ String.join (r.fields.map field)

end AttestedImaging.Host
