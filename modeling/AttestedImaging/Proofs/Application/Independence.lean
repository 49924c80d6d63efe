import AttestedImaging.Proofs.Application.History
import AttestedImaging.Proofs.Unstored
import Mathlib.Data.List.Forall2

/-!
# Nothing depends on the storage

Two runs that differ in the storage, and in whether it is used, give the same replies and go through
applications that are the same but for what is stored and logged of storing.
-/

namespace AttestedImaging

variable {σ : Type}

/-- Whether an event tells of storing. -/
def Event.isStoring : Event → Bool
  | .storageMissing _ | .stored _ | .storingFailed _ _ => true
  | _ => false

/-- The log without what tells of storing. -/
def Device.records (d : Device σ) : List Event.Record :=
  (d.events.filter (!·.isStoring)).map Event.record

theorem Device.records_eq (d : Device σ) : d.records = d.unstored.events.map Event.record := by
  unfold records unstored
  rw [List.map_filterMap, ← List.filterMap_eq_map, List.filterMap_filter]
  congr 1
  funext e
  cases e <;> rfl

namespace Application

def unstored (a : Application σ) : Application σ :=
  { a with config := a.config.unstored, storage := none, device := a.device.unstored }

theorem unstored_log {e : Event} (h : e.unstored? = some e) (a : Application σ) :
    (a.log e).unstored = a.unstored.log e := by
  rw [log, unstored, Device.unstored_log h]
  rfl

/-! ## Requests -/

theorem tryOpen_unstored (P : Provider σ) (kinds : Kinds) (a : Application σ) :
    a.unstored.tryOpen P kinds = ((a.tryOpen P kinds).1, (a.tryOpen P kinds).2.unstored) := by
  unfold tryOpen
  by_cases hkinds : kinds ≠ Kinds.allAbsent
  · simp only [if_pos hkinds]
  · by_cases hfull : a.config.maxSessions ≤ a.openSessions
    · have hfull' : a.unstored.config.maxSessions ≤ a.unstored.openSessions := hfull
      simp only [if_neg hkinds, if_pos hfull, if_pos hfull']
      rfl
    · have hfull' : ¬ a.unstored.config.maxSessions ≤ a.unstored.openSessions := hfull
      have hlog := a.device.unstored_log (e := .sessionOpened a.nextId P.kind) rfl
      simp only [if_neg hkinds, if_neg hfull, if_neg hfull']
      simp only [unstored, hlog]

theorem openSession_unstored (P : Provider σ) (kinds : Kinds) (a : Application σ) :
    a.unstored.openSession P kinds =
      ((a.openSession P kinds).1, (a.openSession P kinds).2.unstored) := by
  unfold openSession
  rw [tryOpen_unstored]
  rcases a.tryOpen P kinds with ⟨failure | session, b⟩
  · simp only
    rw [unstored_log rfl]
  · rfl

theorem invoke_unstored (P : Provider σ) (number : Nat) (command : UInt32) (ps : Parameters)
    (a : Application σ) : a.unstored.invoke P number command ps =
      ((a.invoke P number command ps).1, (a.invoke P number command ps).2.unstored) := by
  have hsession : a.unstored.session? number = a.session? number := rfl
  unfold invoke
  rw [hsession]
  rcases a.session? number with _ | session
  · rfl
  · have hrun := Invocation.run_unstored P a.config session.id command
      ⟨⟨a.device, session.context⟩, ps, a.storage⟩
    simp only [Invocation.Visit.unstored, Scene.unstored] at hrun
    simp only [unstored, hrun]

theorem drop_unstored (P : Provider σ) (number : Nat) (a : Application σ) :
    a.unstored.drop P number = ((a.drop P number).1, (a.drop P number).2.unstored) := by
  have hsession : a.unstored.session? number = a.session? number := rfl
  unfold drop
  rw [hsession]
  rcases a.session? number with _ | session
  · rfl
  · have hreleased := congrArg Scene.device (Scene.unstored_releaseAll P ⟨a.device, session.context⟩)
    simp only [Scene.unstored] at hreleased
    simp only [unstored, hreleased]

theorem close_unstored (P : Provider σ) (number : Nat) (a : Application σ) :
    a.unstored.close P number = ((a.close P number).1, (a.close P number).2.unstored) := by
  unfold close
  rw [drop_unstored]
  rcases a.drop P number with ⟨_ | session, b⟩
  · rfl
  · simp only
    rw [unstored_log rfl]

theorem step_unstored (P : Provider σ) (request : Request) (a : Application σ) :
    a.unstored.step P request = ((a.step P request).1, (a.step P request).2.unstored) := by
  unfold step
  cases request with
  | openSession kinds =>
    simp only [openSession_unstored]
    rcases a.openSession P kinds with ⟨_ | _, b⟩ <;> rfl
  | invoke number command ps =>
    simp only [invoke_unstored]
    rcases a.invoke P number command ps with ⟨_ | _, b⟩ <;> rfl
  | close number =>
    simp only [close_unstored]
    rcases a.close P number with ⟨_ | _, b⟩ <;> rfl
  | drop number =>
    simp only [drop_unstored]
    rcases a.drop P number with ⟨_ | _, b⟩ <;> rfl

theorem shutDown_unstored (a : Application σ) : a.unstored.shutDown = a.shutDown.unstored := by
  rw [shutDown, shutDown, unstored_log rfl]
  rfl

theorem dropAll_unstored (P : Provider σ) (a : Application σ) :
    a.unstored.dropAll P = (a.dropAll P).unstored := by
  have hsessions : a.unstored.sessions = a.sessions := rfl
  unfold dropAll
  rw [hsessions]
  generalize List.range a.sessions.length = numbers
  clear hsessions
  induction numbers generalizing a with
  | nil => rfl
  | cons number rest ih =>
    rw [List.foldl_cons, List.foldl_cons, drop_unstored]
    exact ih _

/-! ## Runs -/

def Moment.unstored (m : Moment σ) : Moment σ :=
  ⟨m.before.unstored, m.request, m.reply, m.after.unstored⟩

theorem history_unstored (P : Provider σ) (requests : List Request) (a : Application σ) :
    history P requests a.unstored = (history P requests a).map Moment.unstored := by
  induction requests generalizing a with
  | nil => rfl
  | cons request rest ih =>
    rw [history, history, List.map_cons, moment, step_unstored, ih]
    rfl

theorem run_unstored (P : Provider σ) (requests : List Request) (a : Application σ) :
    a.unstored.run P requests = ((a.run P requests).1, (a.run P requests).2.unstored) := by
  induction requests generalizing a with
  | nil => rfl
  | cons request rest ih => simp only [run, step_unstored, ih]

/-- Two applications that differ in nothing but the storage, the wish to use it and what is logged of
its use. -/
structure SameButStorage (a a' : Application σ) : Prop where
  config : { a.config with persist := false } = { a'.config with persist := false }
  sessions : a.sessions = a'.sessions
  openSessions : a.openSessions = a'.openSessions
  nextId : a.nextId = a'.nextId
  provider : a.device.provider = a'.device.provider
  calls : a.device.calls = a'.device.calls
  records : a.device.records = a'.device.records

theorem SameButStorage.of_unstored {a a' : Application σ} (h : a.unstored = a'.unstored) :
    a.SameButStorage a' where
  config := congrArg (·.config) h
  sessions := congrArg (·.sessions) h
  openSessions := congrArg (·.openSessions) h
  nextId := congrArg (·.nextId) h
  provider := congrArg (·.device.provider) h
  calls := congrArg (·.device.calls) h
  records := by
    rw [Device.records_eq, Device.records_eq]
    exact congrArg (·.device.events.map Event.record) h

/-- Two runs that differ in the storage answer every request alike, and their applications differ in nothing
else. -/
theorem storage_independent (P : Provider σ) (config : Config) (persist persist' : Bool)
    (storage storage' : Option Storage) (s₀ : σ) (requests : List Request) :
    let a := create P { config with persist } storage s₀
    let a' := create P { config with persist := persist' } storage' s₀
    List.Forall₂ (fun m m' => m.request = m'.request ∧ m.reply = m'.reply ∧
      m.after.SameButStorage m'.after) (history P requests a) (history P requests a') ∧
    ((a.run P requests).2.shutDown.dropAll P).SameButStorage
      ((a'.run P requests).2.shutDown.dropAll P) := by
  intro a a'
  have hstart : a.unstored = a'.unstored := rfl
  constructor
  · have hhistory : List.Forall₂ Eq ((history P requests a).map Moment.unstored)
        ((history P requests a').map Moment.unstored) := by
      rw [← history_unstored, ← history_unstored, hstart, List.forall₂_eq_eq_eq]
    rw [List.forall₂_map_left_iff, List.forall₂_map_right_iff] at hhistory
    refine hhistory.imp fun m m' h => ⟨congrArg (·.request) h, congrArg (·.reply) h, ?_⟩
    exact .of_unstored (congrArg (·.after) h)
  · apply SameButStorage.of_unstored
    have hrun := congrArg (fun a => ((a.run P requests).2.shutDown).dropAll P) hstart
    simpa only [run_unstored, shutDown_unstored, dropAll_unstored] using hrun

end Application

end AttestedImaging
