import AttestedImaging.Bytes

/-!
# Bitmap files

Uncompressed bitmaps without a palette. Written files have 24 bits to a pixel and the bottom row
first, and each row is padded to a multiple of four bytes. Reading also takes 32 bits to a pixel,
whose fourth byte is ignored, rows from the top, and headers of other lengths.
-/

namespace AttestedImaging

/-- Pixels from the top row to the bottom row, three bytes to a pixel: red, green and blue. -/
structure Picture where
  width : Nat
  height : Nat
  rgb : Bytes
deriving DecidableEq

namespace Bitmap

/-- The zero bytes after a row of `size` bytes. -/
def padding (size : Nat) : Nat := (4 - size % 4) % 4

/-- The first `count` pieces of `size` bytes each. -/
def pieces (size : Nat) : (count : Nat) → Bytes → List Bytes
  | 0, _ => []
  | count + 1, bytes => bytes.take size :: pieces size count (bytes.drop size)

/-- Changes between red, green, blue and blue, green, red. -/
def swap : Bytes → Bytes
  | a :: b :: c :: rest => c :: b :: a :: swap rest
  | _ => []

def encodeRow (row : Bytes) : Bytes := swap row ++ List.replicate (padding row.length) 0

/-- The rows of a picture. A picture of width 0 has none. -/
def rows (width : Nat) (rgb : Bytes) : List Bytes := pieces (3 * width) (rgb.length / (3 * width)) rgb

/-- How long the pixels of a file are. -/
def pixelBytes (width height : Nat) : Nat := height * (3 * width + padding (3 * width))

/-- Whether a picture can be written: a row and the whole file are counted in 32 bits. -/
def fits (width height : Nat) : Bool :=
  3 * width + padding (3 * width) < UInt32.size && 54 + pixelBytes width height < UInt32.size

def header (width height : Nat) : Bytes :=
  let word := Bytes.ofNatLE 4
  [0x42, 0x4D] ++ word (54 + pixelBytes width height) ++ word 0 ++ word 54
    ++ word 40 ++ word width ++ word height ++ Bytes.ofNatLE 2 1 ++ Bytes.ofNatLE 2 24 ++ word 0
    ++ word (pixelBytes width height) ++ word 0 ++ word 0 ++ word 0 ++ word 0

def encode (p : Picture) : Bytes :=
  header p.width p.height ++ ((rows p.width p.rgb).reverse.map encodeRow).flatten

structure Layout where
  offset : Nat
  width : Nat
  height : Nat
  topDown : Bool
  /-- How many bytes a pixel has. -/
  depth : Nat

def field? (offset count : Nat) (file : Bytes) : Option Nat :=
  (Bytes.slice? offset count file).map Bytes.toNatLE

/-- No side of a picture is longer than this. -/
def maxSide : Nat := 65535

/-- The pixels of a picture may take this many bytes. -/
def maxBytes : Nat := 512 * 1024 * 1024

def signature : Bytes := [0x42, 0x4D]

/-- The short header, with two bytes to a number. -/
def shortLayout? (offset : Nat) (file : Bytes) : Option Layout := do
  let width ← field? 18 2 file
  let height ← field? 20 2 file
  let planes ← field? 22 2 file
  let bits ← field? 24 2 file
  guard (planes = 1 ∧ bits = 24)
  pure { offset, width, height, topDown := false, depth := 3 }

/-- The long header. A height from `2 ^ 31` on is a negative one, and the rows come from the top. -/
def longLayout? (offset : Nat) (file : Bytes) : Option Layout := do
  let width ← field? 18 4 file
  let height ← field? 22 4 file
  let planes ← field? 26 2 file
  let bits ← field? 28 2 file
  let compression ← field? 30 4 file
  guard (54 ≤ file.length ∧ planes = 1 ∧ compression = 0 ∧ (bits = 24 ∨ bits = 32))
  let topDown := 0x80000000 < height
  guard (topDown ∨ height ≤ maxSide)
  pure {
    offset, width, height := if topDown then UInt32.size - height else height
    topDown, depth := bits / 8 }

def layout? (file : Bytes) : Option Layout := do
  guard ((← Bytes.slice? 0 2 file) = signature)
  let offset ← field? 10 4 file
  let length ← field? 14 4 file
  let layout ←
    if length = 12 then shortLayout? offset file
    else if length ∈ [40, 52, 56, 108, 124] then longLayout? offset file
    else none
  guard (0 < layout.width ∧ layout.width ≤ maxSide ∧ 0 < layout.height)
  guard (3 * layout.width * layout.height ≤ maxBytes)
  pure layout

/-- The pixels of a row with four bytes to a pixel, without the fourth. -/
def dropFourth : Bytes → Bytes
  | a :: b :: c :: _ :: rest => a :: b :: c :: dropFourth rest
  | _ => []

def decodeRow (l : Layout) (row : Bytes) : Bytes :=
  let pixels := row.take (l.depth * l.width)
  swap (if l.depth = 4 then dropFourth pixels else pixels)

/-- How long a row is in the file. -/
def rowBytes (l : Layout) : Nat := l.depth * l.width + padding (l.depth * l.width)

/-- The picture in a file. Bitmaps with a palette, with 16 bits to a pixel or with run lengths, which the
host program reads as well, are not modelled and cannot be read here. -/
def decode? (file : Bytes) : Option Picture := do
  let l ← layout? file
  let pixels ← Bytes.slice? l.offset (l.height * rowBytes l) file
  let found := (pieces (rowBytes l) l.height pixels).map (decodeRow l)
  pure {
    width := l.width, height := l.height
    rgb := (if l.topDown then found else found.reverse).flatten }

end Bitmap

end AttestedImaging
