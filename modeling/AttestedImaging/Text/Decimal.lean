/-!
# Decimal numbers

Whole numbers: one optional `+`, then one or more ASCII digits. The value must stay below a limit.
Reading goes from left to right and the first character that breaks a rule names the fault. At the
end, which texts are decimal fractions.
-/

namespace AttestedImaging.Text.Decimal

inductive Fault
  | empty
  | invalidDigit
  | tooLarge
deriving DecidableEq

def Fault.message : Fault → String
  | .empty => "cannot parse integer from empty string"
  | .invalidDigit => "invalid digit found in string"
  | .tooLarge => "number too large to fit in target type"

def digitValue? (c : Char) : Option Nat :=
  if '0' ≤ c ∧ c ≤ '9' then some (c.toNat - '0'.toNat) else none

/-- Appends the digits of `text` to the number `acc`. -/
def readDigits (limit acc : Nat) : List Char → Except Fault Nat
  | [] => .ok acc
  | c :: rest =>
    match digitValue? c with
    | none => .error .invalidDigit
    | some d =>
      if acc * 10 + d < limit then readDigits limit (acc * 10 + d) rest else .error .tooLarge

def read (limit : Nat) : List Char → Except Fault Nat
  | [] => .error .empty
  | ['+'] => .error .invalidDigit
  | '+' :: rest => readDigits limit 0 rest
  | text => readDigits limit 0 text

/-- Sizes and counts are 64-bit words. -/
def wordLimit : Nat := UInt64.size

def readWord (text : String) : Except Fault Nat := read wordLimit text.toList

def isDigit (c : Char) : Bool := (digitValue? c).isSome

def dropSign : List Char → List Char
  | '+' :: rest => rest
  | '-' :: rest => rest
  | text => text

/-- Nothing, or an `e` in either case, then digits that may have a sign. -/
def isExponent : List Char → Bool
  | [] => true
  | c :: rest => c.toLower = 'e' && dropSign rest ≠ [] && (dropSign rest).all isDigit

/-- Digits with a point before, in or after them, then an exponent. -/
def isUnsignedFraction (text : List Char) : Bool :=
  let whole := text.takeWhile isDigit
  match text.drop whole.length with
  | '.' :: rest =>
    let part := rest.takeWhile isDigit
    (whole ≠ [] || part ≠ []) && isExponent (rest.drop part.length)
  | rest => whole ≠ [] && isExponent rest

/-- A fraction that may have a sign, or the name of infinity or of no number, in either case. -/
def isFraction (text : List Char) : Bool :=
  isUnsignedFraction (dropSign text)
    || String.ofList ((dropSign text).map Char.toLower) ∈ ["inf", "infinity", "nan"]

end AttestedImaging.Text.Decimal
