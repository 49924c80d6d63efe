import AttestedImaging.Proofs.Application.Sessions
import AttestedImaging.Proofs.Pairing.Invocation

/-!
# Applications side by side

Each request keeps two applications alike, and gets replies that differ in the bytes of buffers and in
attestations only.
-/

namespace AttestedImaging

def Application.Request.draws : Request → Nat
  | .invoke _ _ _ => 1
  | .openSession _ | .close _ | .drop _ => 0

namespace Pairing

open Application

variable {σ : Type} {P : Provider σ}

structure Applications (T : Pairing P) (n : Nat) (a a' : Application σ) : Prop where
  config : a.config = a'.config
  storage : T.Storages a.storage a'.storage
  device : T.Devices n a.device a'.device
  sessions : a.sessions.map (Option.map Session.blank) = a'.sessions.map (Option.map Session.blank)
  openSessions : a.openSessions = a'.openSessions
  nextId : a.nextId = a'.nextId

/-- Two requests that differ in the bytes of their buffers at most. -/
inductive Requests (T : Pairing P) : Request → Request → Prop
  | openSession (kinds : Kinds) : T.Requests (.openSession kinds) (.openSession kinds)
  | invoke (number : Nat) (command : UInt32) {ps ps' : Parameters} (hblank : ps.blank = ps'.blank)
      (himages : ∀ image image', ps.image? = some image → ps'.image? = some image' →
        T.images (Grayscale.gray image) (Grayscale.gray image')) :
      T.Requests (.invoke number command ps) (.invoke number command ps')
  | close (number : Nat) : T.Requests (.close number) (.close number)
  | drop (number : Nat) : T.Requests (.drop number) (.drop number)

namespace Applications

variable {T : Pairing P} {n : Nat} {a a' : Application σ} {r r' : Request}

theorem create (config : Config) {storage : Option Storage} (hstorage : T.Storages storage storage)
    {s s' : σ} (hs : T.states n s s') :
    T.Applications n (create P config storage s) (create P config storage s') :=
  ⟨rfl, hstorage, ⟨hs, rfl, fun _ => rfl⟩, rfl, rfl, rfl⟩

theorem fewer (m : Nat) (h : T.Applications (n + m) a a') : T.Applications n a a' :=
  ⟨h.config, h.storage, h.device.fewer m, h.sessions, h.openSessions, h.nextId⟩

theorem log (h : T.Applications n a a') (e : Event) : T.Applications n (a.log e) (a'.log e) :=
  ⟨h.config, h.storage, h.device.log (.refl e), h.sessions, h.openSessions, h.nextId⟩

theorem blank_session? (a : Application σ) (number : Nat) :
    (a.session? number).map Session.blank =
      (a.sessions.map (Option.map Session.blank))[number]?.join := by
  rw [Application.session?, List.getElem?_map]
  cases a.sessions[number]? with
  | none => rfl
  | some entry => rfl

theorem session? (h : T.Applications n a a') (number : Nat) :
    (a.session? number = none ∧ a'.session? number = none) ∨
    ∃ session session', a.session? number = some session ∧ a'.session? number = some session' ∧
      session.blank = session'.blank := by
  have hget : (a.session? number).map Session.blank = (a'.session? number).map Session.blank := by
    rw [blank_session?, blank_session?, h.sessions]
  rcases hs : a.session? number with _ | session
  · rw [hs, Option.map_none] at hget
    exact .inl ⟨rfl, Option.map_eq_none_iff.mp hget.symm⟩
  · rw [hs, Option.map_some] at hget
    obtain ⟨session', hs', hblank⟩ := Option.map_eq_some_iff.mp hget.symm
    exact .inr ⟨session, session', rfl, hs', hblank.symm⟩

/-! ## Requests -/

theorem openSession (h : T.Applications n a a') (kinds : Kinds) :
    Agree (fun session session' => session.blank = session'.blank) (a.openSession P kinds).1
        (a'.openSession P kinds).1 ∧
      T.Applications n (a.openSession P kinds).2 (a'.openSession P kinds).2 := by
  unfold Application.openSession tryOpen
  rw [← h.config, ← h.openSessions, ← h.nextId]
  by_cases hkinds : kinds ≠ Kinds.allAbsent
  · simp only [if_pos hkinds]
    exact ⟨.error _, h.log _⟩
  · by_cases hfull : a.config.maxSessions ≤ a.openSessions
    · simp only [if_neg hkinds, if_pos hfull]
      exact ⟨.error _, h.log _⟩
    · simp only [if_neg hkinds, if_neg hfull]
      refine ⟨.ok rfl, rfl, h.storage, h.device.log (.refl _), ?_, rfl, rfl⟩
      simp only [List.map_append, h.sessions]

theorem map_set (h : T.Applications n a a') (number : Nat) {entry entry' : Option Session}
    (hentry : entry.map Session.blank = entry'.map Session.blank) :
    (a.sessions.set number entry).map (Option.map Session.blank) =
      (a'.sessions.set number entry').map (Option.map Session.blank) := by
  rw [List.map_set, List.map_set, h.sessions, hentry]

theorem invoke (h : T.Applications (n + 1) a a') (number : Nat) (command : UInt32)
    {ps ps' : Parameters} (hblank : ps.blank = ps'.blank)
    (himages : ∀ image image', ps.image? = some image → ps'.image? = some image' →
      T.images (Grayscale.gray image) (Grayscale.gray image')) :
    (a.invoke P number command ps).1.map (fun answer => (answer.1, answer.2.blank)) =
        (a'.invoke P number command ps').1.map (fun answer => (answer.1, answer.2.blank)) ∧
      T.Applications n (a.invoke P number command ps).2 (a'.invoke P number command ps').2 := by
  unfold Application.invoke
  rcases h.session? number with ⟨hs, hs'⟩ | ⟨session, session', hs, hs', hsession⟩
  · rw [hs, hs']
    exact ⟨rfl, h.fewer 1⟩
  · obtain ⟨hid, hcontext⟩ := Session.blank_eq_iff.mp hsession
    have hvisits : T.Visits (n + 1) ⟨⟨a.device, session.context⟩, ps, a.storage⟩
        ⟨⟨a'.device, session'.context⟩, ps', a'.storage⟩ := ⟨⟨h.device, hcontext⟩, hblank, h.storage⟩
    obtain ⟨hstatus, hleft⟩ := hvisits.run a.config session.id command himages
    simp only [hs, hs', ← h.config, ← hid]
    refine ⟨?_, rfl, hleft.storage, hleft.scene.device, h.map_set number ?_, h.openSessions, h.nextId⟩
    · rw [Option.map_some, Option.map_some, hstatus, hleft.parameters]
    · exact congrArg some (Session.blank_eq_iff.mpr ⟨rfl, hleft.scene.context⟩)

theorem drop (h : T.Applications n a a') (number : Nat) :
    (a.drop P number).1.map Session.blank = (a'.drop P number).1.map Session.blank ∧
      T.Applications n (a.drop P number).2 (a'.drop P number).2 := by
  rcases h.session? number with ⟨hs, hs'⟩ | ⟨session, session', hs, hs', hsession⟩
  · unfold Application.drop
    rw [hs, hs']
    exact ⟨rfl, h⟩
  · have hscenes : T.Scenes n ⟨a.device, session.context⟩ ⟨a'.device, session'.context⟩ :=
      ⟨h.device, (Session.blank_eq_iff.mp hsession).2⟩
    rw [drop_eq P hs, drop_eq P hs']
    refine ⟨congrArg some hsession, h.config, h.storage, hscenes.releaseAll.device,
      h.map_set number rfl, ?_, h.nextId⟩
    simp only [h.openSessions]

theorem close (h : T.Applications n a a') (number : Nat) :
    (a.close P number).1.map Session.blank = (a'.close P number).1.map Session.blank ∧
      T.Applications n (a.close P number).2 (a'.close P number).2 := by
  obtain ⟨hreply, hleft⟩ := h.drop number
  unfold Application.close
  rcases hd : a.drop P number with ⟨_ | session, b⟩ <;>
    rcases hd' : a'.drop P number with ⟨_ | session', b'⟩ <;>
    rw [hd, hd'] at hreply hleft
  · exact ⟨rfl, hleft⟩
  · cases hreply
  · cases hreply
  · have hsession : session.blank = session'.blank := Option.some.inj hreply
    obtain ⟨hid, hcontext⟩ := Session.blank_eq_iff.mp hsession
    have hcompleted := (Context.blank_eq_iff.mp hcontext).2.2
    simp only [← hid, ← hcompleted]
    exact ⟨hreply, hleft.log _⟩

theorem blank_ended {ended ended' : Option Session × Application σ}
    (h : ended.1.map Session.blank = ended'.1.map Session.blank) :
    (match ended with
      | (some _, b) => (Reply.ended, b)
      | (none, b) => (Reply.noSession, b)).1.blank =
    (match ended' with
      | (some _, b) => (Reply.ended, b)
      | (none, b) => (Reply.noSession, b)).1.blank := by
  obtain ⟨_ | session, b⟩ := ended <;> obtain ⟨_ | session', b'⟩ := ended'
  · rfl
  · cases h
  · cases h
  · rfl

theorem step (hr : T.Requests r r') (h : T.Applications (n + r.draws) a a') :
    (a.step P r).1.blank = (a'.step P r').1.blank ∧
      T.Applications n (a.step P r).2 (a'.step P r').2 := by
  cases hr with
  | openSession kinds =>
    obtain ⟨hreply, hleft⟩ := h.openSession (P := P) kinds
    rw [step_openSession, step_openSession]
    refine ⟨?_, hleft⟩
    unfold Application.step
    rcases ho : a.openSession P kinds with ⟨outcome, b⟩
    rcases ho' : a'.openSession P kinds with ⟨outcome', b'⟩
    rw [ho, ho'] at hreply
    simp only [ho, ho']
    cases hreply with
    | ok hsession => exact congrArg Reply.opened hsession
    | error status => rfl
  | @invoke number command ps ps' hblank himages =>
    obtain ⟨hreply, hleft⟩ := h.invoke number command hblank himages
    rw [step_invoke, step_invoke]
    refine ⟨?_, hleft⟩
    unfold Application.step
    -- The session is there in both runs, or it is in neither.
    rcases hi : a.invoke P number command ps with ⟨_ | ⟨status, qs⟩, b⟩ <;>
      rcases hi' : a'.invoke P number command ps' with ⟨_ | ⟨status', qs'⟩, b'⟩ <;>
      rw [hi, hi'] at hreply <;> simp only [hi, hi']
    · cases hreply
    · cases hreply
    · obtain ⟨rfl, hqs⟩ := Prod.mk.inj (Option.some.inj hreply)
      exact congrArg (Reply.answered status) hqs
  | close number =>
    obtain ⟨hreply, hleft⟩ := h.close number
    rw [step_close, step_close]
    exact ⟨blank_ended hreply, hleft⟩
  | drop number =>
    obtain ⟨hreply, hleft⟩ := h.drop number
    rw [step_drop, step_drop]
    exact ⟨blank_ended hreply, hleft⟩

theorem dropAll (h : T.Applications n a a') :
    T.Applications n (a.dropAll P) (a'.dropAll P) := by
  have hlength : a.sessions.length = a'.sessions.length := by
    have hmap := congrArg List.length h.sessions
    rwa [List.length_map, List.length_map] at hmap
  unfold Application.dropAll
  rw [← hlength]
  generalize List.range a.sessions.length = numbers
  clear hlength
  induction numbers generalizing a a' with
  | nil => exact h
  | cons number rest ih => exact ih (h.drop number).2

end Applications

end Pairing

end AttestedImaging
