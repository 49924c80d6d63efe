import AttestedImaging.Session

/-!
# Making an attestation

The image is hashed, a key is made ready, its coordinates are exported and the digest is signed.
Each operation is given up as soon as it has answered, whether or not it answered well. What the
provider answers is taken as it is or not at all: bytes of a wrong length are a failure.
-/

namespace AttestedImaging.Attestation

variable {σ : Type}

/-- Goes from one stage of an invocation to the next, and says so. -/
def advance (source target : Stage) : Work σ Unit := .log (.transition source target)

/-- Starts an operation, after giving up the one before it. -/
def beginOperation (P : Provider σ) (request : Allocation) : Work σ Handle := do
  .act (Scene.endOperation P)
  let h ← .allocate P request
  .act fun s => { s with context := { s.context with operation := some h } }
  pure h

/-- Starts an operation, makes one call with it and gives it up. -/
def useOperation (P : Provider σ) (request : Allocation) (call : Handle → Computation) :
    Work σ Bytes := do
  let h ← beginOperation P request
  Work.andFinally (.compute P (call h)) (Scene.endOperation P)

/-- Takes an answer that has `n` bytes, and refuses any other. -/
def exactly (n : Nat) (fault : Nat → CryptoFault) (answer : Bytes) : Work σ (Fixed n) :=
  match Fixed.ofBytes? n answer with
  | some value => pure value
  | none => .fail (.cryptoFailure (fault answer.length))

def digest (P : Provider σ) (data : Bytes) : Work σ Digest := do
  exactly 32 .digestLength (← useOperation P .digest fun h => .digest h data)

/-- Makes a new key the session's, and gives up the one before it. -/
def installKey (P : Provider σ) (h : Handle) : Work σ Unit := .act fun s =>
  let context := { s.context with key := some h }
  match s.context.key with
  | some old => { device := s.device.drop P (.key old), context }
  | none => { s with context }

/-- Makes a new key, after giving up the one before it. -/
def makeKey (P : Provider σ) : Work σ Handle := do
  .act (Scene.releaseKey P)
  let h ← .allocate P .key
  installKey P h
  .log (.keyGenerated h)
  pure h

/-- The session's key if it is to be used again, and a new one otherwise. -/
def keyFor (P : Provider σ) (policy : KeyPolicy) : Work σ Handle := do
  match policy, (← .context).key with
  | .perSession, some h =>
    .log (.keyReused h)
    pure h
  | _, _ => makeKey P

def component (P : Provider σ) (key : Handle) (which : Coordinate) : Work σ Component := do
  let answer ← .compute P (.coordinate key which)
  match answer, Component.ofBytes? answer with
  | [], _ => .fail (.cryptoFailure (.componentEmpty which))
  | _, some component => pure component
  | _, none => .fail (.cryptoFailure (.componentLength which answer.length))

def signature (P : Provider σ) (key : Handle) (digest : Digest) : Work σ Signature := do
  exactly 64 .signatureLength (← useOperation P (.sign key) fun h => .sign h digest.bytes)

/-- Attests an image and keeps the attestation in the session. -/
def attest (P : Provider σ) (policy : KeyPolicy) (image : Bytes) : Work σ Bundle := do
  let digest ← digest P image
  advance .computed .digested
  let key ← keyFor P policy
  let x ← component P key .x
  let y ← component P key .y
  let signature ← signature P key digest
  advance .digested .signed
  advance .signed .assembled
  let bundle : Bundle := { digest, signature, x, y }
  .act (Scene.recordResult bundle)
  pure bundle

end AttestedImaging.Attestation
