import AttestedImaging.Failure

/-!
# Grayscale

Pixels are three bytes, red, green and blue. A pixel becomes gray by its luminance, in whole
numbers and with halves rounded up, so gray pixels stay as they are.
-/

namespace AttestedImaging.Grayscale

def pixelSize : Nat := 3

/-- The weighted sum of the three, in hundredths. -/
def weighted (r g b : UInt8) : Nat := 30 * r.toNat + 59 * g.toNat + 11 * b.toNat

def luminance (r g b : UInt8) : UInt8 := UInt8.ofNat ((weighted r g b + 50) / 100)

/-- The luminance of each pixel. A rest of fewer than three bytes is left out. -/
def luminances : Bytes → Bytes
  | r :: g :: b :: rest => luminance r g b :: luminances rest
  | _ => []

def gray (pixels : Bytes) : Bytes := (luminances pixels).flatMap fun y => [y, y, y]

/-- Makes a whole number of pixels gray and refuses any other length. -/
def convert (pixels : Bytes) : Except ParameterFault Bytes :=
  if pixels.length % pixelSize = 0 then .ok (gray pixels) else .error (.brokenPixels pixels.length)

end AttestedImaging.Grayscale
