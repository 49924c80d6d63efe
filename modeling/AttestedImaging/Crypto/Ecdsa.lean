import AttestedImaging.Bundle
import AttestedImaging.Crypto.P256
import AttestedImaging.Crypto.Sha256

/-!
# ECDSA signatures

Signatures on P-256 over a digest. The secret number of a signature comes from the private key and
the digest by the generator of RFC 6979, which is seeded with the digest as it stands, so signing
twice gives the same signature.
-/

namespace AttestedImaging.Ecdsa

open P256 (Field Scalar order)

/-- The state of the generator: a key and the block it produced last. -/
structure Generator where
  key : Bytes
  block : Bytes

namespace Generator

def produce (g : Generator) : Generator :=
  { g with block := (Sha256.hmac g.key g.block).bytes }

/-- Makes a new key from the old one, a mark and some data. -/
def rekey (mark : UInt8) (data : Bytes) (g : Generator) : Generator :=
  produce { g with key := (Sha256.hmac g.key (g.block ++ mark :: data)).bytes }

def seed (data : Bytes) : Generator :=
  (Generator.mk (List.replicate 32 0) (List.replicate 32 1)).rekey 0 data |>.rekey 1 data

/-- The first of at most `tries` blocks that is a scalar. -/
def nextScalar : (tries : Nat) → Generator → Option Scalar
  | 0, _ => none
  | tries + 1, g =>
    let g := g.produce
    match Scalar.ofNat? (Bytes.toNat g.block) with
    | some k => some k
    | none => nextScalar tries (g.rekey 0 [])

end Generator

/-- The secret number. A block is no scalar with a chance of one in 2^32, so the tries suffice. -/
def secret? (d : Scalar) (digest : Bytes) : Option Scalar :=
  (Generator.seed (d.bytes ++ digest)).nextScalar 64

/-- The signature for a secret number, unless one of its two numbers comes out as 0. -/
def signWith? (d k : Scalar) (digest : Bytes) : Option Signature := do
  let (x, _) ← k.publicPoint?
  let r := Fin.ofNat order x.val
  let z := Fin.ofNat order (Bytes.toNat digest)
  let s := P256.inverse (Fin.ofNat order k.val) * (z + r * Fin.ofNat order d.val)
  if r = 0 ∨ s = 0 then none
  else some ((Fixed.ofNat 32 r.val).append (Fixed.ofNat 32 s.val))

def sign? (d : Scalar) (digest : Bytes) : Option Signature := do
  signWith? d (← secret? d digest) digest

def numbers (signature : Bytes) : Nat × Nat :=
  (Bytes.toNat (signature.take 32), Bytes.toNat (signature.drop 32))

/-- Whether `r` and `s` are in the range that a signature allows. -/
def inRange (r s : Nat) : Bool := 0 < r && r < order && 0 < s && s < order

/-- Whether a signature of a digest is that of the key with this public point. -/
def verifies (x y : Field) (digest signature : Bytes) : Bool :=
  let (r, s) := numbers signature
  inRange r s &&
    let w := P256.inverse (Fin.ofNat order s)
    let u := Fin.ofNat order (Bytes.toNat digest) * w
    let v := Fin.ofNat order r * w
    match ((P256.base.times 256 u.val).add (P256.Point.times 256 v.val ⟨x, y, 1⟩)).affine? with
    | some (x', _) => x'.val % order = r
    | none => false

end AttestedImaging.Ecdsa
