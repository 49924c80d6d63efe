import AttestedImaging.Event
import AttestedImaging.Host.LogFilter.Pattern
import AttestedImaging.Text.Decimal

/-!
# Directives

What a filter is made of: `target[span{field=value}]=level`. Each part may be missing, but not all
of them. A lone word is a level if it names one, and else a target. The value of a field is a number
or else a pattern.
-/

namespace AttestedImaging.Host

open Event (Level)

structure Directive where
  /-- How the names start that this directive is for. -/
  target : String := ""
  span : Option String := none
  /-- The fields that have to be there, with the value that is asked for, if one is. -/
  fields : List (String × Option String) := []
  /-- The finest level that is shown. Nothing is shown if there is none. -/
  level : Option Level := some .trace
deriving DecidableEq

namespace Directive

inductive Fault
  | malformed
  | unknownLevel
  | value (fault : Pattern.Fault)
deriving DecidableEq

def Fault.message : Fault → String
  | .malformed => "invalid filter directive"
  | .unknownLevel =>
    "error parsing level filter: expected one of \"off\", \"error\", \"warn\", \"info\", "
      ++ "\"debug\", \"trace\", or a number 0-5"
  | .value .malformed => "invalid field filter: error building NFA"
  | .value .wordBoundary =>
    "invalid field filter: unsupported regex feature for DFAs: cannot build DFAs for regexes with "
      ++ "Unicode word boundaries; switch to ASCII word boundaries, or heuristically enable "
      ++ "Unicode word boundaries or use a different regex engine"

/-- The levels from the coarsest on, where the first is none at all. -/
def levels : List (String × Option Level) :=
  [("off", none), ("error", some .error), ("warn", some .warn), ("info", some .info),
   ("debug", some .debug), ("trace", some .trace)]

/-- A level by its number, or by its name in either case. -/
def level? (text : List Char) : Option (Option Level) :=
  let byNumber := (Text.Decimal.read Text.Decimal.wordLimit text).toOption.bind (levels[·]?)
  let name := String.ofList (text.map Char.toLower)
  (byNumber <|> levels.find? (·.1 = name)).map (·.2)

/-- The part that a character of a directive belongs to, with the place where the part starts. -/
inductive Part
  | start
  /-- A target or a level. -/
  | word (first : Nat)
  | span (first : Nat)
  | field (first : Nat)
  | afterFields
  | afterSpan
  | level (first : Nat)
deriving DecidableEq

/-- What stands from place `first` up to place `last`. -/
def cut (text : List Char) (first last : Nat) : String :=
  String.ofList ((text.drop first).take (last - first))

def startsWord (c : Char) : Bool := c ∈ ['-', ':', '_'] || Text.isAlphanumeric c

/-- A value that is no number has to be a pattern. -/
def checkValue (value : List Char) : Except Fault Unit :=
  if Text.Decimal.isFraction value then .ok ()
  else (Pattern.check value).mapError .value

/-- A field, with the value that stands between its first `=` and the next, if there is one. -/
def readField (text : String) : Except Fault (String × Option String) := do
  match text.splitOn "=" with
  | name :: value :: _ =>
    checkValue value.toList
    pure (name, some value)
  | _ => if text = "" then throw .malformed else pure (text, none)

def step (text : List Char) (place : Nat) (c : Char) :
    Part → Directive → Except Fault (Part × Directive)
  | .start, d =>
    if c = '[' then .ok (.span (place + 1), d)
    else if startsWord c then .ok (.word place, d)
    else .error .malformed
  | .word first, d =>
    let named := { d with target := cut text first place }
    if c = '=' then .ok (.level (place + 1), named)
    else if c = '[' then .ok (.span (place + 1), named)
    else .ok (.word first, d)
  | .span first, d =>
    let name := cut text first place
    if c = ']' then .ok (.afterSpan, { d with span := some name })
    else if c = '\x7b' then
      .ok (.field (place + 1), { d with span := if name = "" then none else some name })
    else .ok (.span first, d)
  | .field first, d =>
    if c = '\x7d' then do
      let field ← readField (cut text first place)
      pure (.afterFields, { d with fields := d.fields ++ [field] })
    else .ok (.field first, d)
  | .afterFields, d => if c = ']' then .ok (.afterSpan, d) else .error .malformed
  | .afterSpan, d => if c = '=' then .ok (.level (place + 1), d) else .error .malformed
  | .level first, d => .ok (.level first, d)

def steps (text : List Char) : (place : Nat) → List Char → Part → Directive →
    Except Fault (Part × Directive)
  | _, [], part, d => .ok (part, d)
  | place, c :: rest, part, d => do
    let (part, d) ← step text place c part d
    steps text (place + 1) rest part d

/-- The directive, once all characters have been read. Without a level everything is shown. -/
def finish (text : List Char) : Part → Directive → Except Fault Directive
  | .word first, d =>
    let word := text.drop first
    match level? word with
    | some level => .ok { d with level }
    | none => .ok { d with target := String.ofList word }
  | .level first, d =>
    match text.drop first with
    | [] => .ok d
    | word =>
      match level? word with
      | some level => .ok { d with level }
      | none => .error .unknownLevel
  | .afterSpan, d => .ok d
  | _, _ => .error .malformed

/-- Reads a directive. Blanks around it do not count for where its parts lie, but the parts are cut
from the text as it stands, blanks included. -/
def read (text : String) : Except Fault Directive := do
  let (part, d) ← steps text.toList 0 (Text.trim text.toList) .start {}
  finish text.toList part d

end Directive

end AttestedImaging.Host
