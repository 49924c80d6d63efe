import AttestedImaging.Text.Alphanumeric
import AttestedImaging.Text.Blank

/-!
# Patterns of values

A directive may ask for the value of a field by a regular expression. Nothing is matched against it
here, so all that counts is which texts are patterns. `Pattern.check` decides this in one pass from
left to right. A value ends at a comma, an equals sign or a closing brace, so a pattern has none of
them, and whatever would have to be closed by a brace is malformed.
-/

namespace AttestedImaging.Host.Pattern

inductive Fault
  | malformed
  /-- The boundary of a word, by the letters of all scripts. -/
  | wordBoundary
deriving DecidableEq

/-! ## Flags -/

inductive Flag
  | ignoreCase
  | multipleLines
  | anyCharacter
  | swapGreed
  | unicode
  | carriageReturns
  | ignoreBlanks
deriving DecidableEq

def Flag.ofChar? : Char → Option Flag
  | 'i' => some .ignoreCase
  | 'm' => some .multipleLines
  | 's' => some .anyCharacter
  | 'U' => some .swapGreed
  | 'u' => some .unicode
  | 'R' => some .carriageReturns
  | 'x' => some .ignoreBlanks
  | _ => none

/-- The flags that make a difference to what is a pattern. -/
structure Mode where
  ignoreCase : Bool := false
  unicode : Bool := true
  ignoreBlanks : Bool := false
deriving DecidableEq

def Mode.set (flag : Flag) (value : Bool) (m : Mode) : Mode :=
  match flag with
  | .ignoreCase => { m with ignoreCase := value }
  | .unicode => { m with unicode := value }
  | .ignoreBlanks => { m with ignoreBlanks := value }
  | _ => m

/-- Switches the flags before a `-` on and those after it off. The `-` is given as `none`. -/
def Mode.apply (switchOn : Bool) (m : Mode) : List (Option Flag) → Mode
  | [] => m
  | none :: rest => m.apply false rest
  | some flag :: rest => (m.set flag switchOn).apply switchOn rest

/-- Reads flags up to `:` or `)`, given those read so far, newest first. No flag may come twice, nor
may `-`, and `-` may not come last. -/
def readFlags (found : List (Option Flag)) :
    List Char → Option (List (Option Flag) × Char × List Char)
  | [] => none
  | c :: rest =>
    if c = ':' ∨ c = ')' then
      if found.head? = some none then none else some (found.reverse, c, rest)
    else do
      let item ← if c = '-' then some none else (Flag.ofChar? c).map some
      guard (item ∉ found)
      readFlags (item :: found) rest

/-! ## Blanks -/

/-- Drops blanks, and comments from `#` to the end of the line. -/
def dropBlanks (inComment : Bool) : List Char → List Char
  | [] => []
  | c :: rest =>
    if inComment then dropBlanks (c ≠ '\n') rest
    else if Text.isBlank c then dropBlanks false rest
    else if c = '#' then dropBlanks true rest
    else c :: rest

/-- The text from the next character on that counts. -/
def Mode.skip (m : Mode) (text : List Char) : List Char :=
  if m.ignoreBlanks then dropBlanks false text else text

/-- The next character that counts, looked at from before it. After `#` it is the next one that is
no blank, and without any it is the first character. -/
def Mode.peek? (m : Mode) (text : List Char) : Option Char :=
  if m.ignoreBlanks then
    let found :=
      match text.dropWhile Text.isBlank with
      | '#' :: rest => (rest.dropWhile Text.isBlank).head?
      | rest => rest.head?
    found <|> text.head?
  else text.head?

/-! ## Single characters -/

/-- What one character or one escape stands for. -/
inductive Atom
  /-- A character. One below 256 may be given as a byte. -/
  | literal (c : Char) (asByte : Bool)
  /-- A kind of characters, such as digits, or what is not of that kind. -/
  | kind (negated : Bool)
  /-- The start or the end of the text. -/
  | anchor
  | wordBoundary
deriving DecidableEq

/-- Whether an atom can stand by itself. No tables of letters are at hand, so with `unicode` there
is neither a kind of characters nor a character in either case. Without it only whole characters
may be matched. -/
def Atom.allowed (m : Mode) : Atom → Bool
  | .literal c asByte => if m.unicode then !m.ignoreCase else !(asByte && 0x80 ≤ c.toNat)
  | .kind negated => !m.unicode && !negated
  | .anchor | .wordBoundary => true

/-- Whether an atom can be in a class. -/
def Atom.allowedInClass (m : Mode) : Atom → Bool
  | .literal c _ => if m.unicode then !m.ignoreCase else c.toNat < 0x80
  | .kind negated => !m.unicode && !negated
  | .anchor | .wordBoundary => false

def hexDigit? (c : Char) : Option Nat :=
  if '0' ≤ c ∧ c ≤ '9' then some (c.toNat - '0'.toNat)
  else if 'a' ≤ c ∧ c ≤ 'f' then some (c.toNat - 'a'.toNat + 10)
  else if 'A' ≤ c ∧ c ≤ 'F' then some (c.toNat - 'A'.toNat + 10)
  else none

/-- Reads so many hexadecimal digits after the number `acc`. -/
def readHex (m : Mode) : (count : Nat) → (acc : Nat) → List Char → Option (Nat × List Char)
  | 0, acc, text => some (acc, text)
  | count + 1, acc, text =>
    match m.skip text with
    | [] => none
    | c :: rest => (hexDigit? c).bind fun digit => readHex m count (16 * acc + digit) rest

/-- The character with this number, given by so many hexadecimal digits. -/
def readCodePoint (m : Mode) (digits : Nat) (text : List Char) : Option (Atom × List Char) := do
  let (n, rest) ← readHex m digits 0 text
  guard n.isValidChar
  pure (.literal (Char.ofNat n) (digits = 2), m.skip rest)

/-- Whether a character after a backslash stands for itself. -/
def isEscapable (c : Char) : Bool := c.toNat < 0x80 && !c.isAlphanum && c ≠ '<' && c ≠ '>'

/-- Reads an escape, given what follows the backslash. -/
def readEscape (m : Mode) : List Char → Option (Atom × List Char)
  | [] => none
  | c :: rest =>
    match c with
    | 'x' => readCodePoint m 2 rest
    | 'u' => readCodePoint m 4 rest
    | 'U' => readCodePoint m 8 rest
    | 'd' | 's' | 'w' => some (.kind false, rest)
    | 'D' | 'S' | 'W' => some (.kind true, rest)
    | 'a' => some (.literal '\x07' false, rest)
    | 'f' => some (.literal '\x0c' false, rest)
    | 't' => some (.literal '\t' false, rest)
    | 'n' => some (.literal '\n' false, rest)
    | 'r' => some (.literal '\r' false, rest)
    | 'v' => some (.literal '\x0b' false, rest)
    | 'A' | 'z' => some (.anchor, rest)
    | 'b' => if rest.head? = some '\x7b' then none else some (.wordBoundary, rest)
    | 'B' | '<' | '>' => some (.wordBoundary, rest)
    | c => if isEscapable c then some (.literal c false, rest) else none

/-! ## Depth -/

def maxDepth : Nat := 250

/-- The depth of several parts together: one part is as deep as it is, and more are one deeper. -/
def joined : List Nat → Nat
  | [] => 0
  | [depth] => depth
  | depths => 1 + depths.foldl max 0

/-! ## Classes -/

structure OpenClass where
  /-- The depths of the members after the last operator. -/
  members : List Nat := []
  /-- The depth of what is before the last operator. -/
  before : Option Nat := none

namespace OpenClass

def add (depth : Nat) (c : OpenClass) : OpenClass := { c with members := depth :: c.members }

def depth (c : OpenClass) : Nat :=
  match c.before with
  | none => joined c.members
  | some before => 1 + max before (joined c.members)

/-- An operator makes all that came before it one part. -/
def operator (c : OpenClass) : OpenClass := { before := some c.depth }

end OpenClass

def classNames : List String :=
  ["alnum", "alpha", "ascii", "blank", "cntrl", "digit", "graph", "lower", "print", "punct",
   "space", "upper", "word", "xdigit"]

/-- Reads a named class such as `[:^alpha:]`, given what follows the bracket: whether it is negated,
and what follows it. -/
def readNamed? (text : List Char) : Option (Bool × List Char) := do
  let ':' :: text := text | none
  let negated := text.head? = some '^'
  let text := if negated then text.drop 1 else text
  let name := text.takeWhile (· ≠ ':')
  guard (String.ofList name ∈ classNames)
  let ':' :: ']' :: rest := text.drop name.length | none
  pure (negated, rest)

/-- Reads the hyphens at the start of a class, which are members. -/
def readHyphens (m : Mode) : (fuel : Nat) → OpenClass → List Char → OpenClass × List Char
  | 0, c, text => (c, text)
  | fuel + 1, c, text =>
    match text with
    | '-' :: rest => readHyphens m fuel (c.add 0) (m.skip rest)
    | text => (c, text)

/-- Reads the start of a class, given what follows the bracket. A closing bracket that comes first is
a member. -/
def openClass (m : Mode) (text : List Char) : Option (OpenClass × List Char) := do
  let text := m.skip text
  let negated := text.head? = some '^'
  guard (m.unicode ∨ !negated)
  let (c, text) := readHyphens m text.length {} (if negated then m.skip (text.drop 1) else text)
  let (c, text) :=
    if c.members.isEmpty ∧ text.head? = some ']' then (c.add 0, m.skip (text.drop 1))
    else (c, text)
  guard (text ≠ [] ∧ (c.members.isEmpty ∨ (Atom.literal '-' false).allowedInClass m))
  pure (c, text)

def readMember (m : Mode) : List Char → Option (Atom × List Char)
  | [] => none
  | '\\' :: rest => readEscape m rest
  | c :: rest => some (.literal c false, rest)

/-- Reads a member of a class, or a range of members. -/
def readRange (m : Mode) (text : List Char) : Option (List Char) := do
  let (first, rest) ← readMember m text
  guard (first.allowedInClass m)
  match m.skip rest with
  | [] => none
  | c :: rest =>
    if c ≠ '-' ∨ m.peek? rest = some ']' ∨ m.peek? rest = some '-' then pure (c :: rest)
    else
      let (last, rest) ← readMember m (m.skip rest)
      guard (last.allowedInClass m)
      match first, last with
      | .literal a _, .literal b _ => if a ≤ b then some rest else none
      | _, _ => none

/-- Reads the rest of a class, given the classes around it, the innermost first: its depth, and what
follows it. -/
def readClass (m : Mode) : (fuel : Nat) → OpenClass → List OpenClass → List Char →
    Option (Nat × List Char)
  | 0, _, _, _ => none
  | fuel + 1, c, outer, text =>
    match m.skip text with
    | [] => none
    | '[' :: rest =>
      match readNamed? rest with
      | some (negated, rest) =>
        if if m.unicode then !m.ignoreCase else !negated then
          readClass m fuel (c.add 0) outer rest
        else none
      | none => do
        let (inner, rest) ← openClass m rest
        readClass m fuel inner (c :: outer) rest
    | ']' :: rest =>
      match outer with
      | [] => some (1 + c.depth, rest)
      | d :: outer => readClass m fuel (d.add (1 + c.depth)) outer rest
    | '&' :: '&' :: rest | '-' :: '-' :: rest | '~' :: '~' :: rest =>
      readClass m fuel c.operator outer rest
    | text => do
      let rest ← readRange m text
      readClass m fuel (c.add 0) outer rest

/-! ## Groups -/

structure Item where
  depth : Nat := 0
  /-- Flags cannot be repeated, and all else can. -/
  repeatable : Bool := true

/-- A group that has been opened, or the whole pattern. -/
structure OpenGroup where
  /-- The items of the current branch, newest first. -/
  items : List Item := []
  branches : List Nat := []
  outside : Mode := {}

namespace OpenGroup

def add (item : Item) (g : OpenGroup) : OpenGroup := { g with items := item :: g.items }

def branch (g : OpenGroup) : Nat := joined (g.items.map (·.depth))

def alternate (g : OpenGroup) : OpenGroup :=
  { g with items := [], branches := g.branch :: g.branches }

def depth (g : OpenGroup) : Nat := joined (g.branch :: g.branches)

def repeatLast? (g : OpenGroup) : Option OpenGroup :=
  match g.items with
  | ⟨depth, true⟩ :: items => some { g with items := ⟨1 + depth, true⟩ :: items }
  | _ => none

end OpenGroup

/-- Reads the name of a group, given what follows `<`. -/
def readName (text : List Char) : Option (List Char × List Char) := do
  let name := text.takeWhile (· ≠ '>')
  let _ :: rest := text.drop name.length | none
  let first :: others := name | none
  guard (first = '_' ∨ Text.isAlphabetic first)
  guard (others.all fun c => c ∈ ['_', '.', '[', ']'] || Text.isAlphanumeric c)
  pure (name, rest)

structure Reading where
  mode : Mode := {}
  group : OpenGroup := {}
  /-- The groups around it, the innermost first. -/
  outer : List OpenGroup := []
  names : List (List Char) := []
  hasWordBoundary : Bool := false

namespace Reading

def add (item : Item) (r : Reading) : Reading := { r with group := r.group.add item }

/-- Opens a group with a mode of its own. -/
def enter (mode : Mode) (r : Reading) : Reading :=
  { r with mode, group := { outside := r.mode }, outer := r.group :: r.outer }

def leave? (r : Reading) : Option Reading :=
  match r.outer with
  | [] => none
  | around :: outer =>
    some { r with
      mode := r.group.outside, group := around.add { depth := 1 + r.group.depth }, outer }

/-- A group with a name that no other group has. -/
def enterNamed? (text : List Char) (r : Reading) : Option (Reading × List Char) := do
  let (name, rest) ← readName text
  guard (name ∉ r.names)
  pure ({ r with names := name :: r.names }.enter r.mode, rest)

/-- Opens a group or sets flags, given what follows the parenthesis. -/
def parenthesis? (text : List Char) (r : Reading) : Option (Reading × List Char) :=
  match r.mode.skip text with
  | '?' :: 'P' :: '<' :: rest => r.enterNamed? rest
  | '?' :: '<' :: rest => r.enterNamed? rest
  | '?' :: rest => do
    let (flags, ending, rest) ← readFlags [] rest
    let mode := r.mode.apply true flags
    if ending = ':' then pure (r.enter mode, rest)
    else
      guard (flags ≠ [])
      pure ({ r with mode }.add { repeatable := false }, rest)
  | rest => some (r.enter r.mode, rest)

def atom? (a : Atom) (r : Reading) : Option Reading :=
  if a.allowed r.mode then
    some { r.add {} with
      hasWordBoundary := r.hasWordBoundary || a = .wordBoundary && r.mode.unicode }
  else none

/-- Reads the next part, given its first character and what follows that. -/
def part? (c : Char) (rest : List Char) (r : Reading) : Option (Reading × List Char) :=
  match c with
  | '(' => r.parenthesis? rest
  | ')' => r.leave?.map (·, rest)
  | '|' => some ({ r with group := r.group.alternate }, rest)
  | '[' => do
    let (opened, inner) ← openClass r.mode rest
    let (depth, rest) ← readClass r.mode rest.length opened [] inner
    pure (r.add { depth }, rest)
  | '?' | '*' | '+' => do
    let group ← r.group.repeatLast?
    pure ({ r with group }, if rest.head? = some '?' then rest.drop 1 else rest)
  | '\x7b' => none
  | '\\' => do
    let (a, rest) ← readEscape r.mode rest
    return (← r.atom? a, rest)
  | '.' => if r.mode.unicode then some (r.add {}, rest) else none
  | '^' | '$' => some (r.add {}, rest)
  | c => (r.atom? (.literal c false)).map (·, rest)

/-- Reads part after part. The fuel is the length of the text and one more. -/
def parts? : (fuel : Nat) → List Char → Reading → Option Reading
  | 0, _, _ => none
  | fuel + 1, text, r =>
    match r.mode.skip text with
    | [] => some r
    | c :: rest => (r.part? c rest).bind fun (r, rest) => parts? fuel rest r

end Reading

def check (text : List Char) : Except Fault Unit :=
  match Reading.parts? (text.length + 1) text {} with
  | none => .error .malformed
  | some r =>
    if r.outer.isEmpty ∧ r.group.depth ≤ maxDepth then
      if r.hasWordBoundary then .error .wordBoundary else .ok ()
    else .error .malformed

end AttestedImaging.Host.Pattern
