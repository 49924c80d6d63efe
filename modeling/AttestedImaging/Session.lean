import AttestedImaging.Provider

/-!
# Sessions

What is kept for a caller between its invocations: the operation in progress, the key, the last
attestation and a count. A `Scene` is a session's context together with the device it works on, and
a `Work` is a computation on a scene that may fail. Handles are given up one by one; a context never
keeps a handle it has given up.
-/

namespace AttestedImaging

structure Context where
  /-- The operation in progress. There is at most one. -/
  operation : Option Handle := none
  key : Option Handle := none
  result : Option Bundle := none
  /-- How many invocations have succeeded, without the bound of a 64-bit counter. -/
  completed : Nat := 0
deriving DecidableEq

structure Session where
  id : UInt32
  context : Context := {}
deriving DecidableEq

namespace Session

def describe (s : Session) : String := "Session \x7b id: " ++ toString s.id.toNat ++ ", .. \x7d"

end Session

structure Scene (σ : Type) where
  device : Device σ
  context : Context

namespace Scene

variable {σ : Type}

def log (e : Event) (s : Scene σ) : Scene σ := { s with device := s.device.log e }

def endOperation (P : Provider σ) (s : Scene σ) : Scene σ :=
  match s.context.operation with
  | some h =>
    { device := s.device.drop P (.operation h), context := { s.context with operation := none } }
  | none => s

def releaseKey (P : Provider σ) (s : Scene σ) : Scene σ :=
  match s.context.key with
  | some h => { device := s.device.drop P (.key h), context := { s.context with key := none } }
  | none => s

/-- Gives up everything, the operation first. -/
def releaseAll (P : Provider σ) (s : Scene σ) : Scene σ := (s.endOperation P).releaseKey P

def clearResult (s : Scene σ) : Scene σ := { s with context := { s.context with result := none } }

/-- Goes back to a session without handles and without a result. -/
def abort (P : Provider σ) (s : Scene σ) : Scene σ := (s.releaseAll P).clearResult

def recordResult (b : Bundle) (s : Scene σ) : Scene σ :=
  { s with context :=
      { s.context with result := some b, completed := s.context.completed + 1 } }

end Scene

/-- A computation on a scene, which keeps what it did to the scene also if it fails. -/
def Work (σ α : Type) : Type := Scene σ → Except Failure α × Scene σ

namespace Work

variable {σ α β : Type}

protected def pure (a : α) : Work σ α := fun s => (.ok a, s)

protected def bind (w : Work σ α) (f : α → Work σ β) : Work σ β := fun s =>
  match w s with
  | (.ok a, s) => f a s
  | (.error e, s) => (.error e, s)

instance : Monad (Work σ) where
  pure := Work.pure
  bind := Work.bind

def fail (e : Failure) : Work σ α := fun s => (.error e, s)

def act (f : Scene σ → Scene σ) : Work σ Unit := fun s => (.ok (), f s)

def context : Work σ Context := fun s => (.ok s.context, s)

def log (e : Event) : Work σ Unit := act (Scene.log e)

def allocate (P : Provider σ) (request : Allocation) : Work σ Handle := fun s =>
  match s.device.allocate P request with
  | (.ok h, device) => (.ok h, { s with device })
  | (.error e, device) => (.error (.ofProvider e), { s with device })

def compute (P : Provider σ) (request : Computation) : Work σ Bytes := fun s =>
  match s.device.compute P request with
  | (.ok bytes, device) => (.ok bytes, { s with device })
  | (.error e, device) => (.error (.ofProvider e), { s with device })

/-- Does `w` and then `f`, also if `w` fails. -/
def andFinally (w : Work σ α) (f : Scene σ → Scene σ) : Work σ α := fun s =>
  let (outcome, s) := w s
  (outcome, f s)

@[simp] theorem pure_apply (a : α) (s : Scene σ) : (pure a : Work σ α) s = (.ok a, s) := rfl

@[simp] theorem bind_apply (w : Work σ α) (f : α → Work σ β) (s : Scene σ) :
    (w >>= f) s = match w s with
      | (.ok a, s) => f a s
      | (.error e, s) => (.error e, s) := rfl

@[simp] theorem fail_apply (e : Failure) (s : Scene σ) :
    (fail e : Work σ α) s = (.error e, s) := rfl

@[simp] theorem act_apply (f : Scene σ → Scene σ) (s : Scene σ) : act f s = (.ok (), f s) := rfl

@[simp] theorem context_apply (s : Scene σ) : context s = (.ok s.context, s) := rfl

@[simp] theorem log_apply (e : Event) (s : Scene σ) : log e s = (.ok (), s.log e) := rfl

@[simp] theorem andFinally_apply (w : Work σ α) (f : Scene σ → Scene σ) (s : Scene σ) :
    w.andFinally f s = ((w s).1, f (w s).2) := rfl

end Work

end AttestedImaging
