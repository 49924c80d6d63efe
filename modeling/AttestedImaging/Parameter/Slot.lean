import AttestedImaging.Failure

/-!
# Parameter slots

The four slots through which an invocation reaches buffers and values of its caller. Each access
names a slot and says what kind it wants. A buffer for output keeps its capacity, and the size that
is reported for it starts out as the capacity.
-/

namespace AttestedImaging

structure Pair where
  a : UInt32
  b : UInt32
deriving DecidableEq

/-- A buffer that the caller owns, and the size reported to it. -/
structure OutputBuffer where
  contents : Bytes
  size : Nat
deriving DecidableEq

namespace OutputBuffer

def ofContents (contents : Bytes) : OutputBuffer := ⟨contents, contents.length⟩

def capacity (buffer : OutputBuffer) : Nat := buffer.contents.length

/-- Writes from the front and reports the size of what was written. -/
def write (data : Bytes) (buffer : OutputBuffer) : Except ParameterFault OutputBuffer :=
  if data.length ≤ buffer.capacity then
    .ok ⟨data ++ buffer.contents.drop data.length, data.length⟩
  else .error (.bufferTooSmall buffer.capacity data.length)

/-- Reports size 0 and leaves the contents alone. -/
def clear (buffer : OutputBuffer) : OutputBuffer := { buffer with size := 0 }

end OutputBuffer

inductive Slot
  | absent
  | valueInput (value : Pair)
  | valueOutput (value : Pair)
  | valueInout (value : Pair)
  | memrefInput (bytes : Bytes)
  | memrefOutput (buffer : OutputBuffer)
  | memrefInout (buffer : OutputBuffer)
deriving DecidableEq

namespace Slot

def kind : Slot → Kind
  | absent => .absent
  | valueInput _ => .valueInput
  | valueOutput _ => .valueOutput
  | valueInout _ => .valueInout
  | memrefInput _ => .memrefInput
  | memrefOutput _ => .memrefOutput
  | memrefInout _ => .memrefInout

/-- The buffer of a slot that takes output. -/
def output? : Slot → Option OutputBuffer
  | memrefOutput buffer | memrefInout buffer => some buffer
  | _ => none

/-- Puts a buffer into a slot that takes output. -/
def setOutput (buffer : OutputBuffer) : Slot → Slot
  | memrefOutput _ => memrefOutput buffer
  | memrefInout _ => memrefInout buffer
  | slot => slot

/-- Clears the buffer of a slot that takes output. -/
def clear : Slot → Slot
  | memrefOutput buffer => memrefOutput buffer.clear
  | memrefInout buffer => memrefInout buffer.clear
  | slot => slot

end Slot

/-- The slots of one invocation. -/
abbrev Parameters := Vector Slot 4

namespace Parameters

def allAbsent : Parameters := Vector.replicate 4 Slot.absent

def kinds (ps : Parameters) : Kinds := ps.map Slot.kind

/-- The kinds must be the expected ones, slot by slot. -/
def validate (expected : Kinds) (ps : Parameters) : Except ParameterFault Unit :=
  if ps.kinds = expected then .ok () else .error (.kindsMismatch ps.kinds expected)

def slot (index : Nat) (ps : Parameters) : Except ParameterFault Slot :=
  match ps[index]? with
  | some slot => .ok slot
  | none => .error (.slotOutOfRange index)

def memrefInput (index : Nat) (ps : Parameters) : Except ParameterFault Bytes := do
  match ← ps.slot index with
  | .memrefInput bytes => pure bytes
  | other => throw (.wrongKind index other.kind .memrefInput)

/-- The buffer of a slot that takes output. -/
def output (index : Nat) (ps : Parameters) : Except ParameterFault OutputBuffer := do
  let slot ← ps.slot index
  match slot.output? with
  | some buffer => pure buffer
  | none => throw (.wrongKind index slot.kind .memrefOutput)

/-- Changes the buffer of one slot. -/
def setOutput (index : Nat) (buffer : OutputBuffer) (ps : Parameters) : Parameters :=
  match ps[index]? with
  | some slot => ps.setIfInBounds index (slot.setOutput buffer)
  | none => ps

def write (index : Nat) (data : Bytes) (ps : Parameters) : Except ParameterFault Parameters := do
  let buffer ← (← ps.output index).write data
  pure (ps.setOutput index buffer)

def clear (index : Nat) (ps : Parameters) : Except ParameterFault Parameters := do
  let buffer ← ps.output index
  pure (ps.setOutput index buffer.clear)

def outputCapacity (index : Nat) (ps : Parameters) : Except ParameterFault Nat := do
  return (← ps.output index).capacity

/-- The reported size, if the slot takes output. -/
def outputSize? (index : Nat) (ps : Parameters) : Option Nat := do
  return (← (← ps[index]?).output?).size

/-- The value of a slot that takes input. -/
def value (index : Nat) (ps : Parameters) : Except ParameterFault Pair := do
  match ← ps.slot index with
  | .valueInput v | .valueInout v => pure v
  | other => throw (.wrongKind index other.kind .valueInput)

/-- Puts a value into a slot that takes output. -/
def setValue (index : Nat) (v : Pair) (ps : Parameters) : Except ParameterFault Parameters := do
  match ← ps.slot index with
  | .valueOutput _ => pure (ps.setIfInBounds index (.valueOutput v))
  | .valueInout _ => pure (ps.setIfInBounds index (.valueInout v))
  | other => throw (.wrongKind index other.kind .valueOutput)

/-- Clears every slot that takes output, as any failure must. -/
def clearOutputs (ps : Parameters) : Parameters := ps.map Slot.clear

end Parameters

end AttestedImaging
