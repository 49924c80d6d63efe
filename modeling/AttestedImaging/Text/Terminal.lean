/-!
# Terminal text

Text with control sequences in it, as a terminal takes them, and the same text for an output that is
no terminal: control sequences and control characters are left out. A sequence that does not end
hides what follows, up to the next sequence.
-/

namespace AttestedImaging.Text.Terminal

/-- Text that is set off by a style. -/
def mark (text : String) : String := "\x1b[1m" ++ text ++ "\x1b[0m"

/-- Where in a control sequence a character stands. -/
inductive State
  /-- In no sequence. -/
  | ground
  /-- After the escape character. -/
  | escape
  /-- In an escape sequence with more than one character. -/
  | intermediate
  /-- In a control sequence, such as a style. -/
  | control
  /-- At the start of a string for a device. -/
  | device
  /-- Among the parameters before such a string. -/
  | deviceParameters
  /-- After the parameters. -/
  | deviceFunction
  /-- In a string for a device or an application. -/
  | string
  /-- In a command for the system, such as a title. -/
  | command
deriving DecidableEq

namespace State

/-- The state after a byte. Two control characters end every sequence, and an escape character
starts a new one. -/
def next (s : State) (byte : Nat) : State :=
  if byte = 0x18 ∨ byte = 0x1A then ground
  else if byte = 0x1B then escape
  else
    match s with
    | ground => ground
    | escape =>
      if byte < 0x20 ∨ 0x7F ≤ byte then escape
      else if byte < 0x30 then intermediate
      else if byte = 0x5B then control
      else if byte = 0x5D then command
      else if byte = 0x50 then device
      else if byte ∈ [0x58, 0x5E, 0x5F] then string
      else ground
    | intermediate => if 0x30 ≤ byte ∧ byte < 0x7F then ground else intermediate
    | control => if 0x40 ≤ byte ∧ byte < 0x7F then ground else control
    | device =>
      if byte < 0x20 ∨ 0x7F ≤ byte then device
      else if byte < 0x30 then deviceFunction
      else if byte < 0x40 then deviceParameters
      else string
    | deviceParameters =>
      if byte < 0x20 ∨ 0x7F ≤ byte then deviceParameters
      else if byte < 0x30 then deviceFunction
      else if byte < 0x3C then deviceParameters
      else string
    | deviceFunction => if 0x30 ≤ byte ∧ byte < 0x7F then string else deviceFunction
    | string => if byte = 0x9C then ground else string
    | command => if byte = 0x07 then ground else command

/-- The state after a character, which is the state after its UTF-8 bytes. -/
def nextChar (s : State) (c : Char) : State :=
  (String.utf8EncodeChar c).foldl (fun s byte => s.next byte.toNat) s

/-- The control characters that are shown: tab, line feed, form feed and carriage return. -/
def isSpacing (c : Char) : Bool := c = '\t' || c = '\n' || c = '\x0c' || c = '\r'

def shows (s : State) (c : Char) : Bool :=
  match s with
  | ground => isSpacing c || 0x20 ≤ c.toNat && c.toNat ≠ 0x7F
  | escape | intermediate | control => isSpacing c
  | device | deviceParameters | deviceFunction | string | command => false

end State

/-- The characters that are shown, from a state on. Once a character has been shown, those after it
are shown as in no sequence, until one comes that is not; only then the state counts again. -/
def visible (s : State) (showing : Bool) : List Char → List Char
  | [] => []
  | c :: rest =>
    if showing && State.ground.shows c then
      c :: visible (if c.toNat < 0x80 then s else .ground) true rest
    else if s.shows c then c :: visible (s.nextChar c) true rest
    else visible (s.nextChar c) false rest

/-- The text for an output that is no terminal. -/
def strip (text : String) : String := String.ofList (visible .ground false text.toList)

example : visible .ground false ['\x1b', '[', '3', '1', 'm', 'r', '\x07', 'e', '\x7f', 'd'] =
    ['r', 'e', 'd'] := by decide

end AttestedImaging.Text.Terminal
