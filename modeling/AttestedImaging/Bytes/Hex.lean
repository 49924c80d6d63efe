import AttestedImaging.Bytes

/-!
# Hexadecimal text

A byte is two lowercase digits, the high one first. Reading takes either case and refuses an odd
count of digits.
-/

namespace AttestedImaging.Hex

def digit (n : Nat) : Char := Nat.digitChar (n % 16)

def digitValue? (c : Char) : Option Nat :=
  if '0' ≤ c ∧ c ≤ '9' then some (c.toNat - '0'.toNat)
  else if 'a' ≤ c ∧ c ≤ 'f' then some (c.toNat - 'a'.toNat + 10)
  else if 'A' ≤ c ∧ c ≤ 'F' then some (c.toNat - 'A'.toNat + 10)
  else none

def encodeChars (bytes : Bytes) : List Char :=
  bytes.flatMap fun b => [digit (b.toNat / 16), digit b.toNat]

def decodeChars? : List Char → Option Bytes
  | [] => some []
  | [_] => none
  | high :: low :: rest => do
    let h ← digitValue? high
    let l ← digitValue? low
    let bytes ← decodeChars? rest
    pure (UInt8.ofNat (h * 16 + l) :: bytes)

def encode (bytes : Bytes) : String := String.ofList (encodeChars bytes)

def decode? (text : String) : Option Bytes := decodeChars? text.toList

/-- A word as `0x` and at least `width` digits. -/
def word (width : Nat) (value : UInt32) : String :=
  "0x" ++ String.ofList ((Nat.toDigits 16 value.toNat).leftpad width '0')

end AttestedImaging.Hex
