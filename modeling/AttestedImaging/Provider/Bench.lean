import AttestedImaging.Provider

/-!
# A bench for providers

Direct use of a provider: calls on any handles, and guards. A guard holds a handle and releases it
when it is dropped, which can happen once. Guards are numbered in the order they were made.
-/

namespace AttestedImaging

structure Bench (σ : Type) where
  device : Device σ
  /-- Guard number `i` is at place `i`, and nothing is there once it has been dropped. -/
  guards : List (Option Holding) := []

namespace Bench

inductive Step
  | allocate (request : Allocation)
  | compute (request : Computation)
  | release (holding : Holding)
  | guard (holding : Holding)
  | drop (number : Nat)

inductive Reply
  | allocated (answer : Except ProviderError Handle)
  | computed (answer : Except ProviderError Bytes)
  | released
  | guarded (holding : Holding)
  | dropped (holding : Holding)
  | noGuard

variable {σ : Type}

def make (provider : σ) : Bench σ := { device := .ofProvider provider }

def guard? (number : Nat) (b : Bench σ) : Option Holding := b.guards[number]?.join

def step (P : Provider σ) (s : Step) (b : Bench σ) : Reply × Bench σ :=
  match s with
  | .allocate request =>
    let (answer, device) := b.device.allocate P request
    (.allocated answer, { b with device })
  | .compute request =>
    let (answer, device) := b.device.compute P request
    (.computed answer, { b with device })
  | .release holding => (.released, { b with device := b.device.release P holding })
  | .guard holding => (.guarded holding, { b with guards := b.guards ++ [some holding] })
  | .drop number =>
    match b.guard? number with
    | some holding =>
      (.dropped holding,
        { device := b.device.drop P holding, guards := b.guards.set number none })
    | none => (.noGuard, b)

def run (P : Provider σ) : List Step → Bench σ → List Reply × Bench σ
  | [], b => ([], b)
  | s :: rest, b =>
    let (reply, b) := b.step P s
    let (replies, b) := run P rest b
    (reply :: replies, b)

/-- Drops the guards that are left, in the order they were made. -/
def finish (P : Provider σ) (b : Bench σ) : Bench σ :=
  { device := (b.guards.filterMap fun guard => guard).foldl (fun d holding => d.drop P holding)
      b.device
    guards := b.guards.map fun _ => none }

end Bench

end AttestedImaging
