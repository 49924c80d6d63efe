import AttestedImaging.Invocation

/-!
# The trusted application

The application as its callers see it: sessions are opened, used, closed or simply dropped, in any
order, and all of them share one provider and one storage. Sessions are numbered in the order of
their opening; `step` is one request and `run` a list of them.
-/

namespace AttestedImaging

structure Application (σ : Type) where
  config : Config
  storage : Option Storage
  device : Device σ
  /-- Session number `i` is at place `i`, and nothing is there once it has ended. -/
  sessions : List (Option Session) := []
  openSessions : Nat := 0
  nextId : UInt32 := 1

namespace Application

variable {σ : Type}

def make (config : Config) (storage : Option Storage) (provider : σ) : Application σ :=
  { config, storage, device := .ofProvider provider }

def log (e : Event) (a : Application σ) : Application σ := { a with device := a.device.log e }

/-- An application that says that it starts. -/
def create (P : Provider σ) (config : Config) (storage : Option Storage) (provider : σ) :
    Application σ :=
  (make config storage provider).log (.applicationCreated P.kind config)

/-- The session of this number, if it has not ended. -/
def session? (number : Nat) (a : Application σ) : Option Session := a.sessions[number]?.join

/-- Opens a session if no parameter is in use and there is room for one more. -/
def tryOpen (P : Provider σ) (kinds : Kinds) (a : Application σ) :
    Except Failure Session × Application σ :=
  if kinds ≠ Kinds.allAbsent then (.error (.badParameters (.usedAtOpening kinds)), a)
  else if a.config.maxSessions ≤ a.openSessions then
    (.error (.outOfResources (.sessions a.openSessions a.config.maxSessions)), a)
  else
    let session : Session := { id := a.nextId }
    (.ok session,
      { a with
        sessions := a.sessions ++ [some session]
        openSessions := a.openSessions + 1
        nextId := a.nextId + 1
        device := a.device.log (.sessionOpened session.id P.kind) })

/-- Opens a session. The caller learns the status of a refusal, and the log its cause. -/
def openSession (P : Provider σ) (kinds : Kinds) (a : Application σ) :
    Except Status Session × Application σ :=
  match a.tryOpen P kinds with
  | (.ok session, a) => (.ok session, a)
  | (.error failure, a) => (.error failure.status, a.log (.openingRefused failure))

/-- Invokes a command in a session. There is no answer if the session has ended. -/
def invoke (P : Provider σ) (number : Nat) (command : UInt32) (ps : Parameters)
    (a : Application σ) : Option (Status × Parameters) × Application σ :=
  match a.session? number with
  | none => (none, a)
  | some session =>
    let visit : Invocation.Visit σ :=
      { scene := ⟨a.device, session.context⟩, parameters := ps, storage := a.storage }
    let (status, visit) := Invocation.run P a.config session.id command visit
    (some (status, visit.parameters),
      { a with
        device := visit.scene.device
        storage := visit.storage
        sessions := a.sessions.set number (some { session with context := visit.scene.context }) })

/-- Ends a session: its handles are given up, and its place is free again. -/
def drop (P : Provider σ) (number : Nat) (a : Application σ) : Option Session × Application σ :=
  match a.session? number with
  | none => (none, a)
  | some session =>
    (some session,
      { a with
        device := (Scene.releaseAll P ⟨a.device, session.context⟩).device
        sessions := a.sessions.set number none
        openSessions := a.openSessions - 1 })

/-- Ends a session and says so. -/
def close (P : Provider σ) (number : Nat) (a : Application σ) : Option Session × Application σ :=
  match a.drop P number with
  | (some session, a) =>
    (some session, a.log (.sessionClosed session.id session.context.completed))
  | (none, a) => (none, a)

/-- Says that the application ends. Sessions that are still open live on until they are dropped. -/
def shutDown (a : Application σ) : Application σ := a.log (.applicationEnded a.openSessions)

/-- Drops the sessions that are still open, in the order of their opening. -/
def dropAll (P : Provider σ) (a : Application σ) : Application σ :=
  (List.range a.sessions.length).foldl (fun a number => (a.drop P number).2) a

inductive Request
  | openSession (kinds : Kinds)
  | invoke (session : Nat) (command : UInt32) (parameters : Parameters)
  | close (session : Nat)
  | drop (session : Nat)

inductive Reply
  | opened (session : Session)
  | refused (status : Status)
  | answered (status : Status) (parameters : Parameters)
  | ended
  | noSession

def step (P : Provider σ) (request : Request) (a : Application σ) : Reply × Application σ :=
  match request with
  | .openSession kinds =>
    match a.openSession P kinds with
    | (.ok session, a) => (.opened session, a)
    | (.error status, a) => (.refused status, a)
  | .invoke number command ps =>
    match a.invoke P number command ps with
    | (some (status, ps), a) => (.answered status ps, a)
    | (none, a) => (.noSession, a)
  | .close number =>
    match a.close P number with
    | (some _, a) => (.ended, a)
    | (none, a) => (.noSession, a)
  | .drop number =>
    match a.drop P number with
    | (some _, a) => (.ended, a)
    | (none, a) => (.noSession, a)

def run (P : Provider σ) : List Request → Application σ → List Reply × Application σ
  | [], a => ([], a)
  | request :: rest, a =>
    let (reply, a) := a.step P request
    let (replies, a) := run P rest a
    (reply :: replies, a)

end Application

end AttestedImaging
