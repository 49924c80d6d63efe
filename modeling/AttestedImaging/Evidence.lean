import AttestedImaging.Bytes.Hex
import AttestedImaging.Crypto.PublicForm
import AttestedImaging.Text.Json

/-!
# Evidence

The report on an attestation that the host prints: the bundle's parts, and the signature and the
public key once more in the forms that other tools take. All bytes are printed as hexadecimal text.
-/

namespace AttestedImaging

open Text (Json)

structure Evidence where
  /-- How long the invocation took, in whole milliseconds. -/
  tookMs : Nat
  width : Nat
  height : Nat
  digest : Bytes
  signature : Bytes
  signatureDer : Bytes
  x : Bytes
  y : Bytes
  point : Bytes
deriving DecidableEq

namespace Evidence

/-- A bundle whose signature or key has no public form gives no evidence. The signature is looked
at first. -/
def ofBundle (b : Bundle) (micros width height : Nat) : Except PublicForm.Fault Evidence := do
  let signatureDer ← PublicForm.signature b.signature.bytes
  let point ← PublicForm.bundlePoint b
  pure {
    tookMs := micros / 1000, width, height, digest := b.digest.bytes
    signature := b.signature.bytes, signatureDer, x := b.x.bytes, y := b.y.bytes, point }

def fields (e : Evidence) : List (String × Json) :=
  [("took_ms", .number e.tookMs), ("width", .number e.width), ("height", .number e.height),
   ("digest", .text (Hex.encode e.digest)), ("signature", .text (Hex.encode e.signature)),
   ("signature_der", .text (Hex.encode e.signatureDer)),
   ("pub_key_x", .text (Hex.encode e.x)), ("pub_key_y", .text (Hex.encode e.y)),
   ("public_key_sec1", .text (Hex.encode e.point))]

def json (e : Evidence) : Json := .object e.fields

def text (e : Evidence) : String :=
  s!"Took: {e.tookMs} ms\n"
    ++ s!"Image: {e.width}x{e.height}\n"
    ++ "Hash of result: " ++ Hex.encode e.digest ++ "\n"
    ++ "Signed hash: " ++ Hex.encode e.signature ++ "\n"
    ++ "Signed hash (DER): " ++ Hex.encode e.signatureDer ++ "\n"
    ++ "Pubkey x component: " ++ Hex.encode e.x ++ "\n"
    ++ "Pubkey y component: " ++ Hex.encode e.y ++ "\n"
    ++ "Pubkey (SEC1): " ++ Hex.encode e.point

end Evidence

end AttestedImaging
