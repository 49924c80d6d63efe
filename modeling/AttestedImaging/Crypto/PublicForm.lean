import AttestedImaging.Bundle
import AttestedImaging.Crypto.Der
import AttestedImaging.Crypto.Ecdsa

/-!
# Public forms of keys and signatures

The forms that other tools take: a public key as an uncompressed point (SEC1), a signature as DER.
Components of a key may have lost zero bytes in front, so they are padded before use.
-/

namespace AttestedImaging.PublicForm

inductive Fault
  | componentTooLong (length : Nat)
  | notOnCurve
  | signatureLength (length : Nat)
  | signatureRange
deriving DecidableEq

def Fault.message : Fault → String
  | .componentTooLong length => s!"公開鍵成分が長すぎます: {length} bytes"
  | .notOnCurve => "公開鍵がP-256曲線上の点ではありません"
  | .signatureLength length => s!"署名の形式が不正です: 長さが64バイトではありません: {length}"
  | .signatureRange => "署名の形式が不正です: signature error"

/-- Zero bytes in front, up to 32 bytes. -/
def pad (component : Bytes) : Except Fault (Fixed 32) :=
  if h : component.length ≤ 32 then
    .ok ⟨component.leftpad 32 0, by simp [List.leftpad]; omega⟩
  else .error (.componentTooLong component.length)

def pointSize : Nat := 65

/-- The byte 4 and the two padded coordinates, which must be a point of the curve. -/
def point (x y : Bytes) : Except Fault Bytes := do
  let x ← pad x
  let y ← pad y
  if P256.isPoint (Bytes.toNat x.bytes) (Bytes.toNat y.bytes) then
    pure (0x04 :: x.bytes ++ y.bytes)
  else throw .notOnCurve

def bundlePoint (b : Bundle) : Except Fault Bytes := point b.x.bytes b.y.bytes

def signature (raw : Bytes) : Except Fault Bytes :=
  if raw.length = 64 then
    let (r, s) := Ecdsa.numbers raw
    if Ecdsa.inRange r s then .ok (Der.encode r s) else .error .signatureRange
  else .error (.signatureLength raw.length)

end AttestedImaging.PublicForm
