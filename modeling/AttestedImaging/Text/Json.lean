import AttestedImaging.Text.Quoted

/-!
# JSON values

Just enough of JSON for the two uses the library has for it: a constructor written as its name, and
the evidence report printed over several lines.
-/

namespace AttestedImaging.Text

inductive Json
  | null
  | bool (value : Bool)
  | number (value : Int)
  | text (value : String)
  | array (items : List Json)
  | object (fields : List (String × Json))
deriving Inhabited

namespace Json

/-- A constructor without arguments is its name, or an object with the name as its one key and
null under it. -/
def constructorName? : Json → Option String
  | text name => some name
  | object [(name, null)] => some name
  | _ => none

mutual

/-- Two spaces for each level, one item to a line, nothing between empty brackets. -/
def pretty (indent : String) : Json → String
  | null => "null"
  | bool value => if value then "true" else "false"
  | number value => toString value
  | text value => quote value
  | array [] => "[]"
  | array (item :: rest) =>
    let inner := indent ++ "  "
    "[\n" ++ inner ++ pretty inner item ++ prettyItems inner rest ++ "\n" ++ indent ++ "]"
  | object [] => "\x7b\x7d"
  | object ((name, value) :: rest) =>
    let inner := indent ++ "  "
    "\x7b\n" ++ inner ++ quote name ++ ": " ++ pretty inner value ++ prettyFields inner rest
      ++ "\n" ++ indent ++ "\x7d"

def prettyItems (indent : String) : List Json → String
  | [] => ""
  | item :: rest => ",\n" ++ indent ++ pretty indent item ++ prettyItems indent rest

def prettyFields (indent : String) : List (String × Json) → String
  | [] => ""
  | (name, value) :: rest =>
    ",\n" ++ indent ++ quote name ++ ": " ++ pretty indent value ++ prettyFields indent rest

end

end Json

end AttestedImaging.Text
