import AttestedImaging.Provider

/-!
# Faulty providers

A provider that misbehaves by plan. A fault names a kind of call and which of those calls it falls
on; it makes the call fail, forges its handle, or changes its bytes.
-/

namespace AttestedImaging

/-- The kinds of calls that are counted. -/
inductive CallKind
  | allocateDigest
  | digest
  | generateKey
  | coordinate
  | allocateSign
  | sign
deriving DecidableEq

def Allocation.callKind : Allocation → CallKind
  | digest => .allocateDigest
  | key => .generateKey
  | sign _ => .allocateSign

def Computation.callKind : Computation → CallKind
  | digest .. => .digest
  | coordinate .. => .coordinate
  | sign .. => .sign

inductive Effect
  /-- The call fails and does nothing. -/
  | fail (error : ProviderError)
  /-- The call answers this handle and does nothing. -/
  | forge (handle : Handle)
  /-- The call is made, and its bytes are cut or extended by zero bytes to this length. -/
  | resize (length : Nat)
  /-- The call is made, and these bytes are answered. -/
  | replace (bytes : Bytes)
deriving DecidableEq

structure Fault where
  kind : CallKind
  /-- Which call of this kind, counted from 1. Every one if there is none. -/
  nth : Option Nat
  effect : Effect

namespace Fault

/-- The fault that falls on call number `count` of a kind: the first one that fits. -/
def onCall? (faults : List Fault) (kind : CallKind) (count : Nat) : Option Effect :=
  (faults.find? fun f => f.kind = kind && f.nth.all (· = count)).map (·.effect)

end Fault

/-- A provider's state, and the kinds of the calls made so far, newest first. -/
structure Counted (σ : Type) where
  inner : σ
  past : List CallKind := []

namespace Counted

variable {σ : Type}

/-- The effect on a call that is made now, and the state in which it is made. -/
def next (faults : List Fault) (kind : CallKind) (s : Counted σ) : Option Effect × Counted σ :=
  let past := kind :: s.past
  (Fault.onCall? faults kind (past.count kind), { s with past })

end Counted

namespace Provider

variable {σ : Type}

def withFaults (faults : List Fault) (P : Provider σ) : Provider (Counted σ) where
  kind := P.kind
  allocate request s :=
    match s.next faults request.callKind with
    | (some (.fail e), s) => (.error e, s)
    | (some (.forge h), s) => (.ok h, s)
    | (_, s) =>
      let (answer, inner) := P.allocate request s.inner
      (answer, { s with inner })
  compute request s :=
    match s.next faults request.callKind with
    | (some (.fail e), s) => (.error e, s)
    | (effect, s) =>
      let (answer, inner) := P.compute request s.inner
      let changed := match effect with
        | some (.resize n) => answer.map fun bytes => (bytes.take n).rightpad n 0
        | some (.replace bytes) => answer.map fun _ => bytes
        | _ => answer
      (changed, { s with inner })
  release holding s :=
    let (found, inner) := P.release holding s.inner
    (found, { s with inner })

end Provider

end AttestedImaging
