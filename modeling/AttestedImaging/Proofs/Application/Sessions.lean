import AttestedImaging.Application
import AttestedImaging.Proofs.Invocation.Course

/-!
# Sessions in an application

How each request changes the list of sessions, and that an invocation takes its course in the
session that it names.
-/

namespace AttestedImaging.Application

open Invocation (Visit Course Fits slots)

variable {σ : Type}

theorem session?_eq_some_iff {number : Nat} {a : Application σ} {session : Session} :
    a.session? number = some session ↔ a.sessions[number]? = some (some session) := by
  simp [session?, Option.join_eq_some_iff]

theorem lt_of_session? {number : Nat} {a : Application σ} {session : Session}
    (h : a.session? number = some session) : number < a.sessions.length :=
  (List.getElem?_eq_some_iff.mp (session?_eq_some_iff.mp h)).1

theorem session?_set {a a' : Application σ} {number : Nat} {entry : Option Session}
    (hnumber : number < a.sessions.length) (h : a'.sessions = a.sessions.set number entry) :
    a'.session? number = entry ∧ ∀ other, other ≠ number → a'.session? other = a.session? other := by
  constructor
  · simp [session?, h, hnumber]
  · intro other ho
    simp [session?, h, List.getElem?_set_ne (Ne.symm ho)]

theorem openSession_cases (P : Provider σ) (kinds : Kinds) (a : Application σ) :
    (∃ f, (a.openSession P kinds).2 = a.log (.openingRefused f)) ∨
      ∃ session : Session, session.context = {} ∧ (a.openSession P kinds).2 = { a with
        sessions := a.sessions ++ [some session]
        openSessions := a.openSessions + 1
        nextId := a.nextId + 1
        device := a.device.log (.sessionOpened session.id P.kind) } := by
  unfold openSession tryOpen
  by_cases hkinds : kinds ≠ Kinds.allAbsent
  · exact .inl ⟨_, by rw [if_pos hkinds]⟩
  · by_cases hfull : a.config.maxSessions ≤ a.openSessions
    · exact .inl ⟨_, by rw [if_neg hkinds, if_pos hfull]⟩
    · exact .inr ⟨{ id := a.nextId }, rfl, by rw [if_neg hkinds, if_neg hfull]⟩

theorem invoke_course (P : Provider σ) {number : Nat} {a : Application σ} {session : Session}
    (h : a.session? number = some session) (command : UInt32) (ps : Parameters) :
    ∃ (status : Status) (v : Visit σ) (a' : Application σ),
      Course P a.config command ⟨⟨a.device, session.context⟩, ps, a.storage⟩ v status ∧
      a.invoke P number command ps = (some (status, v.parameters), a') ∧
      a' = { a with
        device := v.scene.device
        storage := v.storage
        sessions := a.sessions.set number (some { session with context := v.scene.context }) } := by
  refine ⟨_, _, _, Invocation.run_course P a.config session.id command _, ?_, rfl⟩
  simp only [invoke, h]

/-- An invocation that succeeded fitted, its attestation went well, and its session keeps the result. -/
theorem invoke_ok {P : Provider σ} {a a' : Application σ} {number : Nat} {command : UInt32}
    {ps ps' : Parameters} (h : a.invoke P number command ps = (some (.ok, ps'), a')) :
    ∃ session image bundle gray calls b key, a.session? number = some session ∧
      ps = slots image bundle gray ∧ Fits a.config image bundle gray ∧
      Attestation.Ends a.config.keyPolicy (Grayscale.gray image) session.context.key calls (.ok b)
        key ∧
      a.device.After P (Call.releases (Holding.ofOperation session.context.operation) ++ calls ++
        Call.releases (Holding.ofKey (a.config.keyPolicy.retired key))) a'.device ∧
      a'.session? number = some { session with context :=
        ⟨none, a.config.keyPolicy.kept key, some b, session.context.completed + 1⟩ } ∧
      ps' = slots image ⟨b.encode ++ bundle.contents.drop 168, 168⟩
        ⟨Grayscale.gray image, image.length⟩ := by
  rcases hsession : a.session? number with _ | session
  · simp [invoke, hsession] at h
  obtain ⟨status, v, a'', hcourse, hinvoke, ha'⟩ := invoke_course P hsession command ps
  rw [hinvoke] at h
  obtain ⟨⟨hok, rfl⟩, rfl⟩ : (status = .ok ∧ v.parameters = ps') ∧ a'' = a' := by simpa using h
  obtain ⟨image, bundle, gray, calls, b, key, hslots, hfits, he, hd, hc, hp⟩ := hcourse.of_ok hok
  have hset : a''.sessions = a.sessions.set number (some { session with
      context := v.scene.context }) := by rw [ha']
  have hdevice : a''.device = v.scene.device := by rw [ha']
  have hkept := (session?_set (lt_of_session? hsession) hset).1
  rw [hc] at hkept
  exact ⟨session, image, bundle, gray, calls, b, key, rfl, hslots, hfits, he, hdevice ▸ hd, hkept, hp⟩

/-! ## Requests -/

theorem step_openSession (P : Provider σ) (kinds : Kinds) (a : Application σ) :
    (a.step P (.openSession kinds)).2 = (a.openSession P kinds).2 := by
  rcases h : a.openSession P kinds with ⟨_ | session, a'⟩ <;> simp only [step, h]

theorem step_invoke (P : Provider σ) (number : Nat) (command : UInt32) (ps : Parameters)
    (a : Application σ) :
    (a.step P (.invoke number command ps)).2 = (a.invoke P number command ps).2 := by
  rcases h : a.invoke P number command ps with ⟨_ | ⟨status, ps'⟩, a'⟩ <;> simp only [step, h]

theorem step_close (P : Provider σ) (number : Nat) (a : Application σ) :
    (a.step P (.close number)).2 = (a.close P number).2 := by
  rcases h : a.close P number with ⟨_ | session, a'⟩ <;> simp only [step, h]

theorem step_drop (P : Provider σ) (number : Nat) (a : Application σ) :
    (a.step P (.drop number)).2 = (a.drop P number).2 := by
  rcases h : a.drop P number with ⟨_ | session, a'⟩ <;> simp only [step, h]

theorem close_cases (P : Provider σ) (number : Nat) (a : Application σ) :
    (a.close P number).2 = (a.drop P number).2 ∨
      ∃ e, (a.close P number).2 = (a.drop P number).2.log e := by
  unfold close
  rcases h : a.drop P number with ⟨_ | session, a'⟩
  · exact .inl rfl
  · exact .inr ⟨_, rfl⟩

theorem drop_eq (P : Provider σ) {number : Nat} {a : Application σ} {session : Session}
    (h : a.session? number = some session) :
    a.drop P number = (some session, { a with
      device := (Scene.releaseAll P ⟨a.device, session.context⟩).device
      sessions := a.sessions.set number none
      openSessions := a.openSessions - 1 }) := by
  simp only [drop, h]

theorem session?_drop (P : Provider σ) (number other : Nat) (a : Application σ) :
    (a.drop P number).2.session? other = if other = number then none else a.session? other := by
  rcases hsession : a.session? number with _ | session
  · simp only [drop, hsession]
    split
    · rename_i h
      rw [h, hsession]
    · rfl
  · have hsessions : (a.drop P number).2.sessions = a.sessions.set number none := by
      rw [drop_eq P hsession]
    obtain ⟨hsame, hother⟩ := session?_set (lt_of_session? hsession) hsessions
    split
    · rename_i h
      rw [h]
      exact hsame
    · rename_i h
      exact hother other h

theorem session?_close (P : Provider σ) (number other : Nat) (a : Application σ) :
    (a.close P number).2.session? other = if other = number then none else a.session? other := by
  rw [← session?_drop]
  rcases close_cases P number a with hclose | ⟨e, hclose⟩
  · rw [hclose]
  · rw [hclose]
    rfl

/-- The applications that can come about: from a new one, by requests in any order, and with its end
at any moment. -/
inductive Reachable (P : Provider σ) (config : Config) (storage : Option Storage) (s₀ : σ) :
    Application σ → Prop
  | create : Reachable P config storage s₀ (create P config storage s₀)
  | step {a : Application σ} (h : Reachable P config storage s₀ a) (request : Request) :
      Reachable P config storage s₀ (a.step P request).2
  | shutDown {a : Application σ} (h : Reachable P config storage s₀ a) :
      Reachable P config storage s₀ a.shutDown

theorem Reachable.run {P : Provider σ} {config : Config} {storage : Option Storage} {s₀ : σ}
    {a : Application σ} (h : Reachable P config storage s₀ a) (requests : List Request) :
    Reachable P config storage s₀ (a.run P requests).2 := by
  induction requests generalizing a with
  | nil => exact h
  | cons request rest ih => exact ih (h.step request)

end AttestedImaging.Application
