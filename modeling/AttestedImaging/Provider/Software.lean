import AttestedImaging.Assoc
import AttestedImaging.Crypto.Ecdsa
import AttestedImaging.Provider
import AttestedImaging.Provider.Randomness

/-!
# The software provider

A provider that keeps its keys in memory: a table from live handles to what they stand for, with a
limit on how many there may be. An operation that signs keeps a copy of its key, so it outlives the
key's own handle. Coordinates are exported without zero bytes in front.
-/

namespace AttestedImaging

open P256 (Scalar)

/-- What a live handle stands for. -/
inductive Entry
  | digest
  | sign (key : Scalar)
  | key (key : Scalar)
deriving DecidableEq

def Entry.isOperation : Entry → Bool
  | digest | sign _ => true
  | key _ => false

structure Software where
  limit : Nat := 8
  entries : Assoc Handle Entry := []
  /-- Where the search for a free handle starts. -/
  next : Handle := ⟨1⟩
  randomness : Randomness := {}

namespace Software

/-- The handle after this one. No handle is 0. -/
def successor (h : Handle) : Handle := if h.raw = 0xFFFFFFFF then ⟨1⟩ else ⟨h.raw + 1⟩

/-- The first handle that is not live among the `tries` handles from `h` on. -/
def firstFree? (entries : Assoc Handle Entry) : (tries : Nat) → Handle → Option Handle
  | 0, _ => none
  | tries + 1, h =>
    if entries.contains h then firstFree? entries tries (successor h) else some h

def live (s : Software) : Nat := s.entries.length

/-- A fresh handle, if the limit leaves room for one more. One handle more than are live is looked at, so
the search fails only if all `2 ^ 32 - 1` handles are live. With a limit beyond that the provider searches
for ever, and this case is not modelled. -/
def fresh? (s : Software) : Option Handle :=
  if s.live < s.limit then firstFree? s.entries (s.live + 1) s.next else none

/-- Adds an entry under a fresh handle. Where the provider would search for one for ever, the answer here is
`slotsExhausted`. -/
def insert (entry : Entry) (s : Software) : Except ProviderError Handle × Software :=
  match s.fresh? with
  | some h => (.ok h, { s with entries := s.entries.put h entry, next := successor h })
  | none => (.error (.slotsExhausted s.limit), s)

def key (h : Handle) (s : Software) : Except ProviderError Scalar :=
  match s.entries.get? h with
  | some (.key d) => .ok d
  | some _ => .error (.wrongHandleKind h)
  | none => .error (.unknownHandle h)

/-- The key is drawn before the limit is looked at, so a refusal uses up draws too. -/
def allocate : Allocation → Software → Except ProviderError Handle × Software
  | .digest, s => s.insert .digest
  | .key, s =>
    let (d, randomness) := s.randomness.scalar
    { s with randomness }.insert (.key d)
  | .sign k, s =>
    match s.key k with
    | .ok d => s.insert (.sign d)
    | .error e => (.error e, s)

def coordinate (which : Coordinate) (d : Scalar) : Except ProviderError Bytes :=
  match d.publicPoint? with
  | some (x, y) =>
    let value := match which with
      | .x => x
      | .y => y
    .ok (Bytes.strip (Bytes.ofNat 32 value.val))
  | none => .error (.backend "公開鍵が無限遠点です")

/-- Signs a digest, which must have 32 bytes. -/
def signature (d : Scalar) (digest : Bytes) : Except ProviderError Bytes :=
  if digest.length = 32 then
    match Ecdsa.sign? d digest with
    | some signature => .ok signature.bytes
    | none => .error (.backend "ECDSA署名に失敗: signature error")
  else .error (.backend s!"ダイジェスト長が不正です: {digest.length} bytes")

def compute (request : Computation) (s : Software) : Except ProviderError Bytes :=
  match request with
  | .digest h data =>
    match s.entries.get? h with
    | some .digest => .ok (Sha256.hash data).bytes
    | some _ => .error (.wrongHandleKind h)
    | none => .error (.unknownHandle h)
  | .coordinate k which => do coordinate which (← s.key k)
  | .sign h digest =>
    match s.entries.get? h with
    | some (.sign d) => signature d digest
    | some _ => .error (.wrongHandleKind h)
    | none => .error (.unknownHandle h)

/-- Whether an entry is what a holding says it is. -/
def matchesHolding : Holding → Entry → Bool
  | .operation _, entry => entry.isOperation
  | .key _, entry => !entry.isOperation

/-- Takes the entry of a holding out, if the handle stands for what the holding says. -/
def release (holding : Holding) (s : Software) : Bool × Software :=
  match s.entries.get? holding.handle with
  | some entry =>
    if matchesHolding holding entry then
      (true, { s with entries := s.entries.erase holding.handle })
    else (false, s)
  | none => (false, s)

def provider : Provider Software where
  kind := "mock"
  allocate := allocate
  compute := fun request s => (compute request s, s)
  release := release

end Software

end AttestedImaging
