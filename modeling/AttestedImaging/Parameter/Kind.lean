import AttestedImaging.Bytes.Hex

/-!
# Kinds of parameters

An invocation passes four slots, and each has a kind. The four kinds travel as one word with four
bits to a slot, slot 0 in the lowest ones; `Kinds.unpack?` refuses a word that is no such packing.
-/

namespace AttestedImaging

/-- What a slot is for. A value is two words, a memref is a buffer of the caller. -/
inductive Kind
  | absent
  | valueInput
  | valueOutput
  | valueInout
  | memrefInput
  | memrefOutput
  | memrefInout
deriving DecidableEq

namespace Kind

def all : List Kind :=
  [absent, valueInput, valueOutput, valueInout, memrefInput, memrefOutput, memrefInout]

/-- Code 4 is not in use. -/
def code : Kind → UInt32
  | absent => 0
  | valueInput => 1
  | valueOutput => 2
  | valueInout => 3
  | memrefInput => 5
  | memrefOutput => 6
  | memrefInout => 7

def ofCode? (code : UInt32) : Option Kind := all.find? (·.code = code)

def isMemref : Kind → Bool
  | memrefInput | memrefOutput | memrefInout => true
  | _ => false

def name : Kind → String
  | absent => "None"
  | valueInput => "ValueInput"
  | valueOutput => "ValueOutput"
  | valueInout => "ValueInout"
  | memrefInput => "MemrefInput"
  | memrefOutput => "MemrefOutput"
  | memrefInout => "MemrefInout"

def tag : Kind → String
  | absent => "none"
  | valueInput => "value_input"
  | valueOutput => "value_output"
  | valueInout => "value_inout"
  | memrefInput => "memref_input"
  | memrefOutput => "memref_output"
  | memrefInout => "memref_inout"

def ofTag? (tag : String) : Option Kind := all.find? (·.tag = tag)

theorem mem_all (kind : Kind) : kind ∈ all := by cases kind <;> simp [all]

theorem ofCode?_code (kind : Kind) : ofCode? kind.code = some kind := by
  cases kind <;> rfl

end Kind

def slotCount : Nat := 4

abbrev Kinds := Vector Kind 4

namespace Kinds

/-- No slot is in use, which is what opening a session asks for. -/
def allAbsent : Kinds := Vector.replicate 4 Kind.absent

def pack (kinds : Kinds) : UInt32 :=
  kinds.toList.foldr (fun kind word => word <<< 4 ||| kind.code) 0

def nibble (packed : UInt32) (index : UInt32) : UInt32 := (packed >>> (4 * index)) &&& 0xF

def unpack? (packed : UInt32) : Option Kinds := do
  if packed >>> 16 ≠ 0 then none
  let k0 ← Kind.ofCode? (nibble packed 0)
  let k1 ← Kind.ofCode? (nibble packed 1)
  let k2 ← Kind.ofCode? (nibble packed 2)
  let k3 ← Kind.ofCode? (nibble packed 3)
  pure #v[k0, k1, k2, k3]

def describe (kinds : Kinds) : String := Hex.word 4 kinds.pack

end Kinds

end AttestedImaging
