import AttestedImaging.Bytes

/-!
# Attestation bundles

What an attestation says, and its form of 168 bytes:

| bytes    | field                                      |
|----------|--------------------------------------------|
| 0–31     | digest                                     |
| 32–95    | signature, `r` then `s`                    |
| 96–127   | public key `x`, zero bytes after its end   |
| 128–131  | length of `x`, least significant byte first |
| 132–163  | public key `y`, zero bytes after its end   |
| 164–167  | length of `y`, least significant byte first |
-/

namespace AttestedImaging

abbrev Digest := Fixed 32

/-- The numbers `r` and `s` of a signature, 32 bytes each. -/
abbrev Signature := Fixed 64

/-- The two numbers that make up a public point. -/
inductive Coordinate
  | x
  | y
deriving DecidableEq

namespace Coordinate

/-- The letter, in capitals. -/
def name : Coordinate → String
  | x => "X"
  | y => "Y"

def letter : Coordinate → String
  | x => "x"
  | y => "y"

end Coordinate

/-- A coordinate of a public key as it was exported: at most 32 bytes, and fewer if the zero bytes
in front were left out. -/
structure Component where
  bytes : Bytes
  length_le : bytes.length ≤ 32
deriving DecidableEq

namespace Component

def capacity : Nat := 32

def ofBytes? (bytes : Bytes) : Option Component :=
  if h : bytes.length ≤ 32 then some ⟨bytes, h⟩ else none

/-- The bytes in a field of 32, with zero bytes after their end. -/
def field (c : Component) : Bytes := c.bytes.rightpad 32 0

@[simp] theorem length_field (c : Component) : c.field.length = 32 := by
  have := c.length_le
  simp [field, List.rightpad]
  omega

end Component

structure Bundle where
  digest : Digest
  signature : Signature
  x : Component
  y : Component
deriving DecidableEq

namespace Bundle

def size : Nat := 168

inductive Fault
  | tooShort (actual : Nat)
  | componentLength (which : Coordinate) (length : Nat)
deriving DecidableEq

def Fault.message : Fault → String
  | .tooShort actual => s!"Attestationバンドルが短すぎます: {actual} bytes (必要: {size} bytes)"
  | .componentLength which length =>
    "公開鍵成分" ++ which.letter ++ s!"の長さが不正です: {length}"

/-- A component and then its length in four bytes. -/
def encodeComponent (c : Component) : Bytes :=
  c.field ++ Bytes.ofNatLE 4 c.bytes.length

def encode (b : Bundle) : Bytes :=
  b.digest.bytes ++ b.signature.bytes ++ encodeComponent b.x ++ encodeComponent b.y

@[simp] theorem length_encodeComponent (c : Component) : (encodeComponent c).length = 36 := by
  simp [encodeComponent]

@[simp] theorem length_encode (b : Bundle) : b.encode.length = 168 := by
  simp [encode, b.digest.length_eq, b.signature.length_eq]

/-- Reads the 36 bytes at `offset` as a component. -/
def decodeComponent (which : Coordinate) (offset : Nat) (bytes : Bytes) :
    Except Fault Component :=
  let length := Bytes.toNatLE ((bytes.drop (offset + 32)).take 4)
  if h : length ≤ 32 then .ok ⟨(bytes.drop offset).take length, by simp; omega⟩
  else .error (.componentLength which length)

/-- Reads a bundle from the front of `bytes`. What follows the bundle is ignored, so a buffer may be
longer than it needs to be. -/
def decode (bytes : Bytes) : Except Fault Bundle :=
  if h : bytes.length < size then .error (.tooShort bytes.length)
  else do
    let x ← decodeComponent .x 96 bytes
    let y ← decodeComponent .y 132 bytes
    pure {
      digest := ⟨bytes.take 32, by simp [size] at *; omega⟩
      signature := ⟨(bytes.drop 32).take 64, by simp [size] at *; omega⟩
      x, y }

end Bundle

end AttestedImaging
