import AttestedImaging.Attestation
import AttestedImaging.Image.Grayscale
import AttestedImaging.Parameter.Slot

/-!
# Invocations

One invocation of a command. The command, the kinds of its slots and the lengths of its buffers are
checked in this order before anything is done. Then the image is made gray and attested, and bundle
and image are written. Whatever fails after the kinds are accepted, both outputs are reported empty.
-/

namespace AttestedImaging.Invocation

variable {σ : Type}

/-- What an invocation works on. -/
structure Visit (σ : Type) where
  scene : Scene σ
  parameters : Parameters
  storage : Option Storage

namespace Visit

def log (e : Event) (v : Visit σ) : Visit σ := { v with scene := v.scene.log e }

def advance (source target : Stage) (v : Visit σ) : Visit σ := v.log (.transition source target)

end Visit

/-- The image, if all lengths are as they must be. -/
def checkLengths (config : Config) (ps : Parameters) : Except ParameterFault Bytes := do
  let image ← ps.memrefInput Command.imageSlot
  if image.isEmpty then throw .emptyImage
  if config.maxImageBytes < image.length then
    throw (.imageTooLarge image.length config.maxImageBytes)
  if image.length % Grayscale.pixelSize ≠ 0 then throw (.brokenImage image.length)
  let bundleCapacity ← ps.outputCapacity Command.bundleSlot
  if bundleCapacity < Bundle.size then throw (.bundleCapacity bundleCapacity)
  let grayCapacity ← ps.outputCapacity Command.graySlot
  if grayCapacity ≠ image.length then throw (.grayCapacity grayCapacity image.length)
  pure image

structure Attested where
  bundle : Bundle
  gray : Bytes

/-- A fault of the parameters, as a failure. -/
def orFail {α : Type} : Except ParameterFault α → Work σ α
  | .ok a => pure a
  | .error cause => .fail (.badParameters cause)

/-- Makes the image gray and attests it. Memory for the gray copy is taken to suffice: the refusal for want
of it, before the first call to the provider, is not modelled. -/
def attestGray (P : Provider σ) (policy : KeyPolicy) (image : Bytes) : Work σ Attested := do
  let gray ← orFail (Grayscale.convert image)
  Attestation.advance .parametersValidated .computed
  .act Scene.clearResult
  let bundle ← Attestation.attest P policy gray
  pure { bundle, gray }

/-- Writes the bundle and then the gray image to their slots. What has been written stays there if
the rest does not fit. -/
def writeOutputs (a : Attested) (ps : Parameters) : Except ParameterFault Unit × Parameters :=
  match ps.write Command.bundleSlot a.bundle.encode with
  | .error cause => (.error cause, ps)
  | .ok ps =>
    match ps.write Command.graySlot a.gray with
    | .error cause => (.error cause, ps)
    | .ok ps => (.ok (), ps)

/-- Gives up a key that is not to outlive its invocation. -/
def retireKey (P : Provider σ) (policy : KeyPolicy) (s : Scene σ) : Scene σ :=
  if policy = .perInvocation then s.releaseKey P else s

/-- Makes the image gray, attests it and writes the outputs. -/
def perform (P : Provider σ) (policy : KeyPolicy) (image : Bytes) (v : Visit σ) :
    Except Failure Attested × Visit σ :=
  match attestGray P policy image v.scene with
  | (.error failure, scene) => (.error failure, { v with scene })
  | (.ok a, scene) =>
    match writeOutputs a v.parameters with
    | (.error cause, parameters) => (.error (.badParameters cause), { v with scene, parameters })
    | (.ok (), parameters) => (.ok a, { v with scene := retireKey P policy scene, parameters })

/-- Ends an invocation that has failed: both outputs are empty. -/
def fail (id : UInt32) (failure : Failure) (v : Visit σ) : Status × Visit σ :=
  let v := { v with parameters := v.parameters.clearOutputs }
  (failure.status,
    ((v.advance .parametersValidated .failed).log (.invocationFailed id failure)).advance
      .failed .idle)

/-- Keeps a bundle in the storage. Whether this works makes no difference to the invocation. -/
def persist (id : String) (bundle : Bytes) (v : Visit σ) : Visit σ :=
  match v.storage with
  | none => v.log (.storageMissing id)
  | some storage =>
    match storage.store id bundle with
    | .ok storage => { v with storage := some storage }.log (.stored id)
    | .error e => v.log (.storingFailed id e)

def succeed (config : Config) (id : UInt32) (a : Attested) (v : Visit σ) : Status × Visit σ :=
  let digest := Hex.encode a.bundle.digest.bytes
  let v := v.log (.attested id a.gray.length digest v.scene.context.completed)
  let v := if config.persist then persist digest a.bundle.encode v else v
  (.ok, v.advance .assembled .idle)

/-- Carries out the command on slots of the right kinds. -/
def processAndAttest (P : Provider σ) (config : Config) (id : UInt32) (v : Visit σ) :
    Status × Visit σ :=
  match checkLengths config v.parameters with
  | .error cause => fail id (.badParameters cause) v
  | .ok image =>
    match perform P config.keyPolicy image v with
    | (.ok a, v) => succeed config id a v
    | (.error failure, v) => fail id failure { v with scene := v.scene.abort P }

def run (P : Provider σ) (config : Config) (id : UInt32) (command : UInt32) (v : Visit σ) :
    Status × Visit σ :=
  match Command.ofId? command with
  | none => (.badParameters, (v.advance .idle .rejected).log (.unknownCommand id command))
  | some known =>
    match v.parameters.validate known.kinds with
    | .error cause =>
      let failure := Failure.badParameters cause
      (failure.status, (v.advance .idle .rejected).log (.kindsRefused id known failure))
    | .ok () =>
      match known with
      | .processAndAttest => processAndAttest P config id (v.advance .idle .parametersValidated)

end AttestedImaging.Invocation
