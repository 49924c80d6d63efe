import AttestedImaging.Event

/-!
# Providers of cryptography

A provider hashes, makes keys and signs. It is given as a record of three functions on a state of
its own, so whatever is shown for every provider holds however one behaves: it may forget, repeat or
invent handles and answer any bytes. A `Device` is a provider's state together with the calls made
to it and the events logged so far.
-/

namespace AttestedImaging

/-- Calls that answer with a handle. -/
inductive Allocation
  | digest
  | key
  | sign (key : Handle)
deriving DecidableEq

/-- Calls that answer with bytes. -/
inductive Computation
  | digest (operation : Handle) (data : Bytes)
  | coordinate (key : Handle) (which : Coordinate)
  | sign (operation : Handle) (digest : Bytes)
deriving DecidableEq

structure Provider (σ : Type) where
  kind : String
  allocate : Allocation → σ → Except ProviderError Handle × σ
  compute : Computation → σ → Except ProviderError Bytes × σ
  /-- Answers whether there was anything to release. -/
  release : Holding → σ → Bool × σ

/-- A call to a provider, with the answer that the caller saw. -/
inductive Call
  | allocate (request : Allocation) (answer : Except ProviderError Handle)
  | compute (request : Computation) (answer : Except ProviderError Bytes)
  | release (holding : Holding)

namespace Call

def requestText : Allocation → String
  | .digest => "allocate_digest()"
  | .key => "generate_keypair(NistP256)"
  | .sign key => "allocate_sign(" ++ key.text ++ ")"

def computationText : Computation → String
  | .digest operation data => "digest(" ++ operation.text ++ "," ++ Hex.encode data ++ ")"
  | .coordinate key which => "export(" ++ key.text ++ "," ++ which.name ++ ")"
  | .sign operation digest => "sign(" ++ operation.text ++ "," ++ Hex.encode digest ++ ")"

def answerText {α : Type} (render : α → String) : Except ProviderError α → String
  | .ok a => render a
  | .error e => "error: " ++ e.message

def describe : Call → String
  | allocate request answer => requestText request ++ " -> " ++ answerText Handle.text answer
  | compute request answer => computationText request ++ " -> " ++ answerText Hex.encode answer
  | release (.operation h) => "release_operation(" ++ h.text ++ ")"
  | release (.key h) => "release_key(" ++ h.text ++ ")"

end Call

structure Device (σ : Type) where
  provider : σ
  calls : List Call
  events : List Event

namespace Device

variable {σ : Type}

def ofProvider (provider : σ) : Device σ := ⟨provider, [], []⟩

def log (e : Event) (d : Device σ) : Device σ := { d with events := d.events ++ [e] }

def allocate (P : Provider σ) (request : Allocation) (d : Device σ) :
    Except ProviderError Handle × Device σ :=
  let (answer, provider) := P.allocate request d.provider
  (answer, { d with provider, calls := d.calls ++ [.allocate request answer] })

def compute (P : Provider σ) (request : Computation) (d : Device σ) :
    Except ProviderError Bytes × Device σ :=
  let (answer, provider) := P.compute request d.provider
  (answer, { d with provider, calls := d.calls ++ [.compute request answer] })

/-- Releases a handle. A release that finds nothing is logged and does no more. -/
def release (P : Provider σ) (holding : Holding) (d : Device σ) : Device σ :=
  let (found, provider) := P.release holding d.provider
  let d := { d with provider, calls := d.calls ++ [.release holding] }
  if found then d else d.log (.releaseMissed holding)

/-- Gives up a holding: says so, and releases its handle. -/
def drop (P : Provider σ) (holding : Holding) (d : Device σ) : Device σ :=
  (d.log (.releasing holding)).release P holding

end Device

end AttestedImaging
