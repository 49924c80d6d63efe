import AttestedImaging.Image.Bitmap

/-!
# Image files

The extension of a path says what format a file has. Of the formats only the bitmap is modelled. The file of
another format, or for a picture that is too large, is created but stays empty here, and an unknown extension
creates nothing.
-/

namespace AttestedImaging.ImageFile

inductive Format
  | bitmap
  | other
deriving DecidableEq

/-- Among them are JPEG, PNG, GIF, WebP and TIFF, which the host program reads and writes, too. -/
def otherExtensions : List String :=
  ["avif", "jpg", "jpeg", "jfif", "png", "apng", "gif", "webp", "tif", "tiff", "tga", "dds", "ico",
   "hdr", "exr", "pbm", "pam", "ppm", "pgm", "pnm", "ff", "qoi"]

def Format.ofExtension? (extension : String) : Option Format :=
  if extension = "bmp" then some .bitmap
  else if extension ∈ otherExtensions then some .other
  else none

/-- The names that a path goes through, without empty ones and `.`. -/
def components (path : String) : List String :=
  (path.splitOn "/").filter fun name => name ≠ "" && name ≠ "."

/-- What follows the last dot of a name, if anything stands before that dot. -/
def extensionOf? (name : List Char) : Option (List Char) :=
  let reversed := name.reverse
  let last := reversed.takeWhile (· ≠ '.')
  match reversed.drop last.length with
  | [] => none
  | [_] => none
  | _ => some last.reverse

/-- The format of a path, by its extension in either case. -/
def Format.ofPath? (path : String) : Option Format := do
  let name ← (components path).getLast?
  guard (name ≠ "..")
  let extension ← extensionOf? name.toList
  ofExtension? (String.ofList (extension.map Char.toLower))

inductive Fault
  | unreadable (path : String)
  | sizeMismatch (actual width height : Nat)
  | unwritable (path : String)
deriving DecidableEq

def Fault.message : Fault → String
  | .unreadable path => "画像の読み込みに失敗: " ++ path
  | .sizeMismatch actual width height =>
    s!"画素数が画像サイズと一致しません: {actual} bytes ({width}x{height})"
  | .unwritable path => "画像の書き出しに失敗: " ++ path

/-- The picture in a file, given what the file holds, if there is one. The formats that are not modelled are
faults. -/
def load (path : String) (contents : Option Bytes) : Except Fault Picture :=
  match Format.ofPath? path, contents.bind Bitmap.decode? with
  | some .bitmap, some picture => .ok picture
  | _, _ => .error (.unreadable path)

/-- What is written to a path, and whether the file is complete then. -/
structure Writing where
  contents : Bytes
  complete : Bool
deriving DecidableEq

/-- The file for a picture. There may be more pixels than the picture needs, but not fewer. In a format that
is not modelled it stays empty. -/
def store (path : String) (p : Picture) : Except Fault Writing :=
  let needed := 3 * p.width * p.height
  if p.rgb.length < needed then .error (.sizeMismatch p.rgb.length p.width p.height)
  else
    match Format.ofPath? path with
    | some .bitmap =>
      if Bitmap.fits p.width p.height then
        .ok ⟨Bitmap.encode { p with rgb := p.rgb.take needed }, true⟩
      else .ok ⟨[], false⟩
    | some .other => .ok ⟨[], false⟩
    | none => .error (.unwritable path)

end AttestedImaging.ImageFile
