import AttestedImaging.Provider.Software
import AttestedImaging.Proofs.Application.Sessions
import AttestedImaging.Proofs.Parameter.Channel

/-!
# Failed invocations leave no trace

Whatever the provider does: an invocation that fails changes no byte and no value of its caller, no
storage, no other session and no count. How much of its own session it changes depends on how far it
got.
-/

namespace AttestedImaging

namespace Invocation

variable {σ : Type}

/-- What a failed invocation leaves as it was, wherever it failed. -/
structure Kept (v v' : Visit σ) : Prop where
  data : v.parameters.SameData v'.parameters
  storage : v'.storage = v.storage
  completed : v'.scene.context.completed = v.scene.context.completed

theorem Course.kept {P : Provider σ} {config : Config} {command : UInt32} {v v' : Visit σ}
    {status : Status} (h : Course P config command v v' status) (hfailed : status ≠ .ok) :
    Kept v v' := by
  cases h with
  | rejected hr hd hc hp hs => exact ⟨hp ▸ .refl _, hs, by rw [hc]⟩
  | @recognised image bundle gray _ hcommand hslots h =>
    have hclear : v.parameters.SameData (slots image bundle.clear gray.clear) := by
      rw [hslots, ← clearOutputs_slots]
      exact Parameters.sameData_clearOutputs _
    cases h with
    | misfit hf hd hc hp hs => exact ⟨hp ▸ hclear, hs, by rw [hc]⟩
    | failed calls f key hf he hd hc hp hs => exact ⟨hp ▸ hclear, hs, by rw [hc]⟩
    | succeeded => exact absurd rfl hfailed

theorem Course.of_not_recognised {P : Provider σ} {config : Config} {command : UInt32}
    {v v' : Visit σ} {status : Status} (h : Course P config command v v' status)
    (hr : ¬ Recognised command v.parameters) :
    v'.parameters = v.parameters ∧ v'.scene.context = v.scene.context ∧
      v.scene.device.After P [] v'.scene.device := by
  cases h with
  | rejected _ hd hc hp hs => exact ⟨hp, hc, hd⟩
  | recognised hcommand hslots =>
    rw [hcommand, hslots] at hr
    exact absurd (recognised_slots _ _ _) hr

theorem outputSizes_clear (image : Bytes) (bundle gray : OutputBuffer) :
    (slots image bundle.clear gray.clear).outputSize? 1 = some 0 ∧
      (slots image bundle.clear gray.clear).outputSize? 2 = some 0 := ⟨rfl, rfl⟩

theorem Processed.of_failed {P : Provider σ} {config : Config} {image : Bytes}
    {bundle gray : OutputBuffer} {v v' : Visit σ} {status : Status}
    (h : Processed P config image bundle gray v v' status) (hfailed : status ≠ .ok) :
    v'.parameters = slots image bundle.clear gray.clear ∧
      (¬ Fits config image bundle gray →
        v'.scene.context = v.scene.context ∧ v.scene.device.After P [] v'.scene.device) ∧
      (Fits config image bundle gray →
        v'.scene.context = { completed := v.scene.context.completed }) := by
  cases h with
  | misfit hf hd hc hp hs => exact ⟨hp, fun _ => ⟨hc, hd⟩, fun h => absurd h hf⟩
  | failed calls f key hf he hd hc hp hs => exact ⟨hp, fun h => absurd hf h, fun _ => hc⟩
  | succeeded => exact absurd rfl hfailed

end Invocation

namespace Application

open Invocation (Recognised Fits slots)

variable {σ : Type}

/-- An invocation that fails changes no data of its caller and nothing outside its session. One that got
past all checks leaves the session without handles and result. -/
theorem invoke_failure_atomic {P : Provider σ} {a a' : Application σ} {number : Nat}
    {command : UInt32} {ps ps' : Parameters} {status : Status}
    (h : a.invoke P number command ps = (some (status, ps'), a')) (hfailed : status ≠ .ok) :
    ps.SameData ps' ∧ a'.storage = a.storage ∧
    (∀ other, other ≠ number → a'.session? other = a.session? other) ∧
    ∃ session context, a.session? number = some session ∧
      a'.session? number = some { session with context } ∧
      context.completed = session.context.completed ∧
      (¬ Recognised command ps → ps' = ps ∧ context = session.context ∧
        a'.device.calls = a.device.calls ∧ a'.device.provider = a.device.provider) ∧
      ∀ image bundle gray, command = 0 → ps = slots image bundle gray →
        ps'.outputSize? 1 = some 0 ∧ ps'.outputSize? 2 = some 0 ∧
        (¬ Fits a.config image bundle gray → context = session.context ∧
          a'.device.calls = a.device.calls ∧ a'.device.provider = a.device.provider) ∧
        (Fits a.config image bundle gray →
          context.operation = none ∧ context.key = none ∧ context.result = none) := by
  rcases hsession : a.session? number with _ | session
  · simp [invoke, hsession] at h
  obtain ⟨status', v, a'', hcourse, hinvoke, ha'⟩ := invoke_course P hsession command ps
  rw [hinvoke] at h
  obtain ⟨⟨rfl, rfl⟩, rfl⟩ : (status' = status ∧ v.parameters = ps') ∧ a'' = a' := by simpa using h
  have hset : a''.sessions = a.sessions.set number (some { session with
      context := v.scene.context }) := by rw [ha']
  obtain ⟨hsame, hother⟩ := session?_set (lt_of_session? hsession) hset
  have hkept := hcourse.kept hfailed
  have hdevice : a''.device = v.scene.device := by rw [ha']
  have hstorage : a''.storage = v.storage := by rw [ha']
  rw [hdevice, hstorage]
  refine ⟨hkept.data, hkept.storage, hother, session, v.scene.context, rfl, hsame, hkept.completed,
    ?_, ?_⟩
  · intro hr
    obtain ⟨hp, hc, hd⟩ := hcourse.of_not_recognised hr
    exact ⟨hp, hc, hd.untouched⟩
  · rintro image bundle gray rfl hslots
    obtain ⟨hp, hmisfit, hfits⟩ := (hcourse.processed hslots).of_failed hfailed
    obtain ⟨hbundle, hgray⟩ := Invocation.outputSizes_clear image bundle gray
    refine ⟨hp ▸ hbundle, hp ▸ hgray, fun hf => ?_, fun hf => ?_⟩
    · obtain ⟨hc, hd⟩ := hmisfit hf
      exact ⟨hc, hd.untouched⟩
    · simp [hfits hf]

/-- A provider without any slot. -/
theorem invoke_failure_atomic_exhausted :
    (((make {} none { limit := 0 : Software }).openSession Software.provider Kinds.allAbsent).2.invoke
      Software.provider 0 0 (slots [1, 2, 3] (.ofContents (List.replicate 168 7))
        (.ofContents [4, 5, 6]))).1 =
      some (.outOfResources, slots [1, 2, 3] ⟨List.replicate 168 7, 0⟩ ⟨[4, 5, 6], 0⟩) ∧
    (slots [1, 2, 3] (.ofContents (List.replicate 168 7)) (.ofContents [4, 5, 6])).SameData
      (slots [1, 2, 3] ⟨List.replicate 168 7, 0⟩ ⟨[4, 5, 6], 0⟩) := by
  have h : (((make {} none { limit := 0 : Software }).openSession Software.provider
      Kinds.allAbsent).2.invoke Software.provider 0 0 (slots [1, 2, 3]
        (.ofContents (List.replicate 168 7)) (.ofContents [4, 5, 6]))).1 =
      some (.outOfResources, slots [1, 2, 3] ⟨List.replicate 168 7, 0⟩ ⟨[4, 5, 6], 0⟩) := by
    decide +kernel
  exact ⟨h, (invoke_failure_atomic (Prod.ext h rfl) (by decide)).1⟩

end Application

end AttestedImaging
