/-!
# Byte strings

Bytes are lists of `UInt8`. A number is written in base 256 with a stated width and read back by
`toNat`; `Fixed n` is a byte string whose length is known to be `n`.
-/

namespace AttestedImaging

abbrev Bytes := List UInt8

namespace Bytes

/-- The number with these big-endian digits in base 256. -/
def toNat (bytes : Bytes) : Nat :=
  bytes.foldl (fun n b => n * 256 + b.toNat) 0

/-- The `width` low digits of a number in base 256, most significant first. -/
def ofNat : (width : Nat) → (n : Nat) → Bytes
  | 0, _ => []
  | width + 1, n => ofNat width (n / 256) ++ [UInt8.ofNat n]

/-- As `toNat`, least significant digit first. -/
def toNatLE (bytes : Bytes) : Nat := toNat bytes.reverse

/-- As `ofNat`, least significant digit first. -/
def ofNatLE (width n : Nat) : Bytes := (ofNat width n).reverse

/-- Drops the zero bytes in front. -/
def strip (bytes : Bytes) : Bytes := bytes.dropWhile (· == 0)

/-- The `count` bytes from `offset` on, if the string is long enough to have them. -/
def slice? (offset count : Nat) (bytes : Bytes) : Option Bytes :=
  let part := (bytes.drop offset).take count
  if part.length = count then some part else none

@[simp] theorem length_ofNat (width n : Nat) : (ofNat width n).length = width := by
  induction width generalizing n with
  | zero => rfl
  | succ width ih => simp [ofNat, ih]

@[simp] theorem length_ofNatLE (width n : Nat) : (ofNatLE width n).length = width := by
  simp [ofNatLE]

end Bytes

/-- A byte string of exactly `n` bytes. -/
structure Fixed (n : Nat) where
  bytes : Bytes
  length_eq : bytes.length = n
deriving DecidableEq

namespace Fixed

def ofBytes? (n : Nat) (bytes : Bytes) : Option (Fixed n) :=
  if h : bytes.length = n then some ⟨bytes, h⟩ else none

/-- The `n` low digits of a number in base 256, most significant first. -/
def ofNat (n value : Nat) : Fixed n := ⟨Bytes.ofNat n value, Bytes.length_ofNat n value⟩

def append {m n : Nat} (a : Fixed m) (b : Fixed n) : Fixed (m + n) :=
  ⟨a.bytes ++ b.bytes, by simp [a.length_eq, b.length_eq]⟩

theorem ofBytes?_bytes {n : Nat} (a : Fixed n) : ofBytes? n a.bytes = some a := by
  simp [ofBytes?, a.length_eq]

theorem ofBytes?_eq_none_iff {n : Nat} {bytes : Bytes} :
    ofBytes? n bytes = none ↔ bytes.length ≠ n := by
  simp [ofBytes?]

end Fixed

end AttestedImaging
