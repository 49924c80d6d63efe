import AttestedImaging.Assoc
import AttestedImaging.Image.File

/-!
# A directory of files

A directory that holds files and no other directories. A path reaches a file by its bare name, with
`./` before it or not. It may go up first, to directories that hold only what is written to them;
every other path leads nowhere.
-/

namespace AttestedImaging.Host

abbrev Directory := Assoc String Bytes

namespace Directory

/-- The longest name and the longest path, in bytes. -/
def maxName : Nat := 255
def maxPath : Nat := 4095

def isName (name : String) : Bool :=
  name ≠ ".." && name.utf8ByteSize ≤ maxName && !name.toList.contains '\x00'

/-- The file that a path names, if it can name one here. -/
def fileName? (path : String) : Option String := do
  let names := ImageFile.components path
  let name ← names.getLast?
  guard (isName name && names.dropLast.all (· = "..") && path.utf8ByteSize ≤ maxPath)
  guard ((path.splitOn "/").head? ≠ some "" ∧ (path.splitOn "/").getLast? = some name)
  pure ("/".intercalate names)

def read (path : String) (d : Directory) : Option Bytes := do
  d.get? (← fileName? path)

def write? (path : String) (contents : Bytes) (d : Directory) : Option Directory := do
  return d.put (← fileName? path) contents

/-- The file that a picture is written to, as it is found afterwards. -/
def store (path : String) (p : Picture) : Except ImageFile.Fault Bytes := do
  let writing ← ImageFile.store path p
  if writing.complete && (fileName? path).isSome then pure writing.contents
  else throw (.unwritable path)

end Directory

end AttestedImaging.Host
