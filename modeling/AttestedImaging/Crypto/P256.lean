import AttestedImaging.Bytes

/-!
# The curve P-256

The curve `y² = x³ - 3x + b` over the field of `p` elements, with its base point of prime order
`order`. Points are kept in homogeneous coordinates and added by one formula that holds for every
pair of points, so no case is left out: equal points, opposite points and the point at infinity
(where `z = 0`) need no care.
-/

namespace AttestedImaging.P256

/-- The size of the field. -/
def p : Nat := 0xffffffff00000001000000000000000000000000ffffffffffffffffffffffff

/-- How many points the curve has, counting the one at infinity. -/
def order : Nat := 0xffffffff00000000ffffffffffffffffbce6faada7179e84f3b9cac2fc632551

instance : @NeZero Nat Zero.ofOfNat0 p := ⟨by decide⟩
instance : @NeZero Nat Zero.ofOfNat0 order := ⟨by decide⟩

abbrev Field := Fin p

def b : Field :=
  Fin.ofNat p 0x5ac635d8aa3a93e7b3ebbd55769886bc651d06b0cc53b0f63bce3c3e27d2604b

/-- `x ^ e` for `e < 2 ^ bits`, by repeated squaring. -/
def power {m : Nat} : (bits : Nat) → (x : Fin m) → (e : Nat) → Fin m
  | 0, x, _ => ⟨1 % m, Nat.mod_lt 1 x.pos⟩
  | bits + 1, x, e =>
    let rest := power bits (x * x) (e / 2)
    if e % 2 = 1 then x * rest else rest

/-- The inverse modulo a prime below `2 ^ 256`, and 0 for 0. -/
def inverse {m : Nat} (x : Fin m) : Fin m := power 256 x (m - 2)

/-- The point `(x / z, y / z)`, or the one at infinity if `z = 0`. -/
structure Point where
  x : Field
  y : Field
  z : Field

namespace Point

def infinity : Point := ⟨0, 1, 0⟩

/-- Addition by the complete formulas for a curve with `a = -3`. -/
def add (s t : Point) : Point :=
  let xx := s.x * t.x
  let yy := s.y * t.y
  let zz := s.z * t.z
  let xy := s.x * t.y + t.x * s.y
  let xz := s.x * t.z + t.x * s.z
  let yz := s.y * t.z + t.y * s.z
  let b3 := 3 * b
  let up := yy + 3 * xz - b3 * zz
  let down := yy - 3 * xz + b3 * zz
  let slope := 3 * xx - 3 * zz
  let cross := b3 * xz - 3 * xx - 9 * zz
  ⟨xy * up - yz * cross, slope * cross + down * up, yz * down + xy * slope⟩

/-- `k` times a point, for `k < 2 ^ bits`. -/
def times : (bits : Nat) → (k : Nat) → Point → Point
  | 0, _, _ => infinity
  | bits + 1, k, s =>
    let rest := times bits (k / 2) (s.add s)
    if k % 2 = 1 then s.add rest else rest

/-- The coordinates, unless the point is at infinity. -/
def affine? (s : Point) : Option (Field × Field) :=
  if s.z = 0 then none
  else
    let w := inverse s.z
    some (s.x * w, s.y * w)

end Point

def base : Point :=
  ⟨Fin.ofNat p 0x6b17d1f2e12c4247f8bce6e563a440f277037d812deb33a0f4a13945d898c296,
   Fin.ofNat p 0x4fe342e2fe1a7f9b8ee7eb4a7c0f9e162bce33576b315ececbb6406837bf51f5, 1⟩

/-- Whether two numbers are the coordinates of a point: both below `p`, and on the curve. -/
def isPoint (x y : Nat) : Bool :=
  x < p && y < p && (y * y + 3 * x) % p = (x * x * x + b.val) % p

/-- A private key. -/
structure Scalar where
  val : Nat
  pos : 0 < val
  lt_order : val < order
deriving DecidableEq

namespace Scalar

def ofNat? (n : Nat) : Option Scalar :=
  if h : 0 < n ∧ n < order then some ⟨n, h.1, h.2⟩ else none

def bytes (d : Scalar) : Bytes := Bytes.ofNat 32 d.val

def publicPoint? (d : Scalar) : Option (Field × Field) := (base.times 256 d.val).affine?

end Scalar

end AttestedImaging.P256
