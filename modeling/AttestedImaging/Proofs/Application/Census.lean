import AttestedImaging.Proofs.Application.Leaks
import AttestedImaging.Proofs.Attestation.Software

/-!
# Open sessions and their keys

The application counts its open sessions instead of looking for them. The count is right at every
moment, and it never passes the limit. With the software provider and no faults, the handles that the
sessions hold stand for keys, and nothing else is live.
-/

namespace AttestedImaging.Application

variable {σ : Type}

/-- The count of open sessions is right and within the limit. -/
structure Counts (config : Config) (a : Application σ) : Prop where
  config_eq : a.config = config
  openSessions_eq : a.openSessions = a.sessions.countP Option.isSome
  within : a.openSessions ≤ config.maxSessions

variable {P : Provider σ} {config : Config} {a : Application σ}

/-! ## The count -/

theorem counts_create (P : Provider σ) (config : Config) (storage : Option Storage) (s₀ : σ) :
    Counts config (create P config storage s₀) := ⟨rfl, rfl, Nat.zero_le _⟩

theorem countP_isSome_pos {number : Nat} {session : Session}
    (hsession : a.session? number = some session) : 0 < a.sessions.countP Option.isSome := by
  have hmem := List.mem_of_getElem? (session?_eq_some_iff.mp hsession)
  exact List.countP_pos_iff.mpr ⟨some session, hmem, rfl⟩

theorem Counts.of_log (h : Counts config a) (e : Event) : Counts config (a.log e) :=
  ⟨h.config_eq, h.openSessions_eq, h.within⟩

theorem Counts.openSession (h : Counts config a) (kinds : Kinds) :
    Counts config (a.openSession P kinds).2 := by
  unfold Application.openSession tryOpen
  by_cases hkinds : kinds ≠ Kinds.allAbsent
  · rw [if_pos hkinds]
    exact h.of_log _
  · by_cases hfull : a.config.maxSessions ≤ a.openSessions
    · rw [if_neg hkinds, if_pos hfull]
      exact h.of_log _
    · rw [if_neg hkinds, if_neg hfull]
      rw [h.config_eq] at hfull
      refine ⟨h.config_eq, ?_, by simp only; omega⟩
      simp [List.countP_append, h.openSessions_eq]

theorem Counts.invoke (h : Counts config a) (number : Nat) (command : UInt32) (ps : Parameters) :
    Counts config (a.invoke P number command ps).2 := by
  rcases hsession : a.session? number with _ | session
  · simp only [Application.invoke, hsession]
    exact h
  · obtain ⟨hlt, hget⟩ := List.getElem?_eq_some_iff.mp (session?_eq_some_iff.mp hsession)
    obtain ⟨status, v, a', -, hinvoke, rfl⟩ := invoke_course P hsession command ps
    rw [hinvoke]
    -- A session takes the place of a session, which was counted.
    refine ⟨h.config_eq, ?_, h.within⟩
    have hpos := countP_isSome_pos hsession
    simp only [List.countP_set hlt, hget, Option.isSome_some, if_true, h.openSessions_eq]
    omega

theorem Counts.drop (h : Counts config a) (number : Nat) : Counts config (a.drop P number).2 := by
  rcases hsession : a.session? number with _ | session
  · simp only [Application.drop, hsession]
    exact h
  · obtain ⟨hlt, hget⟩ := List.getElem?_eq_some_iff.mp (session?_eq_some_iff.mp hsession)
    rw [drop_eq P hsession]
    refine ⟨h.config_eq, ?_, (Nat.sub_le _ _).trans h.within⟩
    simp [List.countP_set hlt, hget, h.openSessions_eq]

theorem Counts.close (h : Counts config a) (number : Nat) : Counts config (a.close P number).2 := by
  rcases close_cases P number a with hclose | ⟨e, hclose⟩
  · rw [hclose]
    exact h.drop number
  · rw [hclose]
    exact (h.drop number).of_log e

theorem Counts.step (h : Counts config a) (request : Request) :
    Counts config (a.step P request).2 := by
  cases request with
  | openSession kinds =>
    rw [step_openSession]
    exact h.openSession kinds
  | invoke number command ps =>
    rw [step_invoke]
    exact h.invoke number command ps
  | close number =>
    rw [step_close]
    exact h.close number
  | drop number =>
    rw [step_drop]
    exact h.drop number

theorem Reachable.counts {storage : Option Storage} {s₀ : σ}
    (h : Reachable P config storage s₀ a) : Counts config a := by
  induction h with
  | create => exact counts_create P config storage s₀
  | step _ request ih => exact ih.step request
  | shutDown _ ih => exact ih.of_log _

/-! ## The keys that are held -/

theorem mem_heldKeys {number : Nat} {session : Session} {k : Handle}
    (hsession : a.session? number = some session) (hk : session.context.key = some k) :
    k ∈ a.heldKeys :=
  List.mem_filterMap.mpr ⟨some session, List.mem_of_getElem? (session?_eq_some_iff.mp hsession), hk⟩

theorem Reachable.perSession_of_key {storage : Option Storage} {s₀ : σ}
    (ha : Reachable P config storage s₀ a) {number : Nat} {session : Session}
    (hsession : a.session? number = some session) (k : Handle) (hk : session.context.key = some k) :
    config.keyPolicy = .perSession := by
  cases hpolicy : config.keyPolicy with
  | perSession => rfl
  | perInvocation =>
    rw [ha.sound.keyless hpolicy number session hsession] at hk
    cases hk

theorem length_heldKeys_le (a : Application σ) :
    a.heldKeys.length ≤ a.sessions.countP Option.isSome := by
  rw [heldKeys, List.length_filterMap_eq_countP]
  refine List.countP_mono_left fun entry _ h => ?_
  cases entry with
  | none => exact h
  | some session => rfl

theorem length_heldKeys_lt {number : Nat} {session : Session}
    (hsession : a.session? number = some session) (hk : session.context.key = none) :
    a.heldKeys.length < a.sessions.countP Option.isSome := by
  obtain ⟨hlt, hget⟩ := List.getElem?_eq_some_iff.mp (session?_eq_some_iff.mp hsession)
  have hpos := countP_isSome_pos hsession
  -- Without this session the keys are the same, and one session fewer is open.
  have hle := length_heldKeys_le { a with sessions := a.sessions.set number none }
  simp only [heldKeys, List.length_filterMap_eq_countP, List.countP_set hlt, hget, Option.isSome_some,
    Option.isSome_none, Option.bind_some, Option.bind_none, hk] at hle
  rw [heldKeys, List.length_filterMap_eq_countP]
  simp at hle
  omega

/-! ## The software provider -/

theorem Tidy.key_ok {s : Software} (h : Tidy s.entries a) (hs : s.Regular) {number : Nat}
    {session : Session} {k : Handle} (hsession : a.session? number = some session)
    (hk : session.context.key = some k) : ∃ d, s.key k = .ok d := by
  have hlive := h.live.mem_iff.mpr (mem_heldKeys hsession hk)
  obtain ⟨⟨k', entry⟩, hentry, rfl⟩ := List.mem_map.mp hlive
  have hget := Assoc.get?_of_mem hs.nodup hentry
  have hkey := h.keys _ hentry
  cases entry with
  | key d => exact ⟨d, by rw [Software.key, hget]⟩
  | digest => cases hkey
  | sign d => cases hkey

section Software

variable {storage : Option Storage} {limit : Nat} {randomness : Randomness}
  {a : Application Software}

theorem Reachable.regular
    (ha : Reachable Software.provider config storage { limit, randomness } a) :
    a.device.provider.Regular ∧ a.device.provider.limit = limit :=
  (Software.regular_initial limit randomness).answers ha.sound.answers

theorem Reachable.live_eq
    (ha : Reachable Software.provider config storage { limit, randomness } a) :
    a.device.provider.live = a.heldKeys.length := by
  have hlive := (ha.sound.tidy Software.keepsTable rfl).live.length_eq
  rwa [Assoc.keys, List.length_map] at hlive

theorem Reachable.signingKey_ok
    (ha : Reachable Software.provider config storage { limit, randomness } a) {number : Nat}
    {session : Session} (hsession : a.session? number = some session) :
    ∃ d, a.device.provider.signingKey session.context.key = .ok d := by
  rcases hk : session.context.key with _ | k
  · exact ⟨_, rfl⟩
  · exact (ha.sound.tidy Software.keepsTable rfl).key_ok ha.regular.1 hsession hk

end Software

end AttestedImaging.Application
