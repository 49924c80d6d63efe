import AttestedImaging.Parameter.Kind

/-!
# Commands

The one command takes an image, and gives back an attestation bundle and the gray image. A command
fixes the kinds of its four slots.
-/

namespace AttestedImaging

/-- Names the trusted application to its callers. -/
def applicationUuid : String := "236268e6-a7a4-4bcd-97c6-451ebd802beb"

inductive Command
  | processAndAttest
deriving DecidableEq

namespace Command

def all : List Command := [processAndAttest]

def id : Command → UInt32
  | processAndAttest => 0

def ofId? (id : UInt32) : Option Command := all.find? (·.id = id)

def name : Command → String
  | processAndAttest => "ProcessAndAttest"

def tag : Command → String
  | processAndAttest => "process-and-attest"

def ofTag? (tag : String) : Option Command := all.find? (·.tag = tag)

/-- The image comes in slot 0, the bundle goes to slot 1 and the gray image to slot 2. -/
def kinds : Command → Kinds
  | processAndAttest => #v[.memrefInput, .memrefOutput, .memrefOutput, .absent]

def imageSlot : Nat := 0

def bundleSlot : Nat := 1

def graySlot : Nat := 2

end Command

end AttestedImaging
