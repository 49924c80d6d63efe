import AttestedImaging.Bytes

/-!
# DER

A pair of numbers as a SEQUENCE of two INTEGERs, in the form that DER fixes: the fewest bytes, with
a zero byte in front where the top bit would read as a sign. The reader is strict, so each pair has
one text.
-/

namespace AttestedImaging.Der

/-- The fewest big-endian bytes of a number below `2 ^ 256` that do not read as negative. -/
def integerBytes (n : Nat) : Bytes :=
  match Bytes.strip (Bytes.ofNat 32 n) with
  | [] => [0]
  | b :: rest => if b < 0x80 then b :: rest else 0 :: b :: rest

/-- A tag, a length below 128 and the contents. -/
def element (tag : UInt8) (contents : Bytes) : Bytes :=
  tag :: UInt8.ofNat contents.length :: contents

def encode (r s : Nat) : Bytes :=
  element 0x30 (element 0x02 (integerBytes r) ++ element 0x02 (integerBytes s))

/-- The contents of the element in front, and what follows it. -/
def readElement? (tag : UInt8) : Bytes → Option (Bytes × Bytes)
  | t :: length :: rest =>
    if t = tag ∧ length < 0x80 ∧ length.toNat ≤ rest.length then
      some (rest.take length.toNat, rest.drop length.toNat)
    else none
  | _ => none

/-- Refuses no bytes at all, a negative number, and a zero byte in front that is not needed. -/
def readInteger? : Bytes → Option Nat
  | [] => none
  | [b] => if b < 0x80 then some b.toNat else none
  | b :: c :: rest =>
    if b < 0x80 ∧ (b ≠ 0 ∨ 0x80 ≤ c) then some (Bytes.toNat (b :: c :: rest)) else none

def decode? (bytes : Bytes) : Option (Nat × Nat) := do
  let (contents, []) ← readElement? 0x30 bytes | none
  let (r, rest) ← readElement? 0x02 contents
  let (s, []) ← readElement? 0x02 rest | none
  pure (← readInteger? r, ← readInteger? s)

end AttestedImaging.Der
