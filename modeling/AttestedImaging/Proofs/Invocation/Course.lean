import AttestedImaging.Proofs.Attestation
import AttestedImaging.Proofs.Invocation.Request

/-!
# How an invocation can end

It is not recognised, its lengths do not fit, the attestation fails, or all goes well. A `Course`
says for each of these which calls are made and what becomes of the session, the slots and the
storage. `run_course` shows that there is no other way, and it is all that the properties of
invocations need to know about `run`.
-/

namespace AttestedImaging

/-- The key that is given up at the end of an invocation that succeeds. -/
def KeyPolicy.retired (policy : KeyPolicy) (key : Option Handle) : Option Handle :=
  if policy = .perInvocation then key else none

/-- The key that stays with the session at the end of an invocation that succeeds. -/
def KeyPolicy.kept (policy : KeyPolicy) (key : Option Handle) : Option Handle :=
  if policy = .perInvocation then none else key

/-- The storage after it was asked to keep these bytes. One that refuses stays as it is. -/
def Storage.keep (id : String) (data : Bytes) (storage : Storage) : Storage :=
  match storage.store id data with
  | .ok storage => storage
  | .error _ => storage

/-- The storage after an attestation went well. -/
def Config.archived (config : Config) (b : Bundle) (storage : Option Storage) : Option Storage :=
  if config.persist then storage.map (·.keep (Hex.encode b.digest.bytes) b.encode) else storage

namespace Invocation

open Attestation (Ends)
open Grayscale (convert_of_whole)

variable {σ : Type}

/-- How a request with these slots ends: its lengths do not fit, the attestation fails, or all goes
well. -/
inductive Processed (P : Provider σ) (config : Config) (image : Bytes) (bundle gray : OutputBuffer)
    (v v' : Visit σ) : Status → Prop
  | misfit (hf : ¬ Fits config image bundle gray) (hd : v.scene.device.After P [] v'.scene.device)
      (hc : v'.scene.context = v.scene.context)
      (hp : v'.parameters = slots image bundle.clear gray.clear) (hs : v'.storage = v.storage) :
      Processed P config image bundle gray v v' .badParameters
  | failed (calls : List Call) (f : Failure) (key : Option Handle)
      (hf : Fits config image bundle gray)
      (he : Ends config.keyPolicy (Grayscale.gray image) v.scene.context.key calls (.error f) key)
      (hd : v.scene.device.After P (Call.releases (Holding.ofOperation v.scene.context.operation) ++
        calls ++ Call.releases (Holding.ofKey key)) v'.scene.device)
      (hc : v'.scene.context = { completed := v.scene.context.completed })
      (hp : v'.parameters = slots image bundle.clear gray.clear) (hs : v'.storage = v.storage) :
      Processed P config image bundle gray v v' f.status
  | succeeded (calls : List Call) (b : Bundle) (key : Option Handle)
      (hf : Fits config image bundle gray)
      (he : Ends config.keyPolicy (Grayscale.gray image) v.scene.context.key calls (.ok b) key)
      (hd : v.scene.device.After P (Call.releases (Holding.ofOperation v.scene.context.operation) ++
        calls ++ Call.releases (Holding.ofKey (config.keyPolicy.retired key))) v'.scene.device)
      (hc : v'.scene.context =
        ⟨none, config.keyPolicy.kept key, some b, v.scene.context.completed + 1⟩)
      (hp : v'.parameters = slots image ⟨b.encode ++ bundle.contents.drop 168, 168⟩
        ⟨Grayscale.gray image, image.length⟩) (hs : v'.storage = config.archived b v.storage) :
      Processed P config image bundle gray v v' .ok

/-- How an invocation ends: it is not recognised, or it is processed. -/
inductive Course (P : Provider σ) (config : Config) (command : UInt32) (v v' : Visit σ) :
    Status → Prop
  | rejected (hr : ¬ Recognised command v.parameters)
      (hd : v.scene.device.After P [] v'.scene.device)
      (hc : v'.scene.context = v.scene.context) (hp : v'.parameters = v.parameters)
      (hs : v'.storage = v.storage) : Course P config command v v' .badParameters
  | recognised {image : Bytes} {bundle gray : OutputBuffer} {status : Status}
      (hcommand : command = 0) (hslots : v.parameters = slots image bundle gray)
      (h : Processed P config image bundle gray v v' status) : Course P config command v v' status

theorem Processed.of_log {P : Provider σ} {config : Config} {image : Bytes}
    {bundle gray : OutputBuffer} {v v' : Visit σ} {e : Event} {status : Status}
    (h : Processed P config image bundle gray (v.log e) v' status) :
    Processed P config image bundle gray v v' status := by
  cases h with
  | misfit hf hd hc hp hs => exact .misfit hf hd.of_log hc hp hs
  | failed calls f key hf he hd hc hp hs => exact .failed calls f key hf he hd.of_log hc hp hs
  | succeeded calls b key hf he hd hc hp hs =>
    exact .succeeded calls b key hf he hd.of_log hc hp hs

theorem Course.processed {P : Provider σ} {config : Config} {v v' : Visit σ} {status : Status}
    (h : Course P config 0 v v' status) {image : Bytes} {bundle gray : OutputBuffer}
    (hslots : v.parameters = slots image bundle gray) :
    Processed P config image bundle gray v v' status := by
  cases h with
  | rejected hr =>
    rw [hslots] at hr
    exact absurd (recognised_slots image bundle gray) hr
  | recognised _ hslots' h =>
    obtain ⟨rfl, rfl, rfl⟩ := slots_inj (hslots.symm.trans hslots')
    exact h

theorem Course.of_ok {P : Provider σ} {config : Config} {command : UInt32} {v v' : Visit σ}
    {status : Status} (h : Course P config command v v' status) (hok : status = .ok) :
    ∃ image bundle gray calls b key, v.parameters = slots image bundle gray ∧
      Fits config image bundle gray ∧
      Ends config.keyPolicy (Grayscale.gray image) v.scene.context.key calls (.ok b) key ∧
      v.scene.device.After P (Call.releases (Holding.ofOperation v.scene.context.operation) ++
        calls ++ Call.releases (Holding.ofKey (config.keyPolicy.retired key))) v'.scene.device ∧
      v'.scene.context =
        ⟨none, config.keyPolicy.kept key, some b, v.scene.context.completed + 1⟩ ∧
      v'.parameters = slots image ⟨b.encode ++ bundle.contents.drop 168, 168⟩
        ⟨Grayscale.gray image, image.length⟩ := by
  cases h with
  | rejected hr => cases hok
  | @recognised image bundle gray _ hcommand hslots h =>
    cases h with
    | misfit hf => cases hok
    | failed calls f => exact absurd hok f.status_ne_ok
    | succeeded calls b key hf he hd hc hp =>
      exact ⟨image, bundle, gray, calls, b, key, hslots, hf, he, hd, hc, hp⟩

/-! ## Attesting and writing -/

theorem attestGray_ends (P : Provider σ) (policy : KeyPolicy) {image : Bytes}
    (h : image.length % 3 = 0) (s : Scene σ) :
    ∃ calls outcome key device,
      Ends policy (Grayscale.gray image) s.context.key calls outcome key ∧
      s.device.After P (Call.releases (Holding.ofOperation s.context.operation) ++ calls) device ∧
      attestGray P policy image s = (outcome.map fun bundle => ⟨bundle, Grayscale.gray image⟩,
        ⟨device, Attestation.leaves outcome key { s.context with result := none }⟩) := by
  obtain ⟨calls, outcome, key, d, he, hd, ha⟩ := Attestation.attest_ends P policy
    (Grayscale.gray image) ⟨s.device.log (.transition .parametersValidated .computed),
      { s.context with result := none }⟩
  refine ⟨calls, outcome, key, d, he, hd.of_log, ?_⟩
  cases outcome <;>
    simp [attestGray, orFail, convert_of_whole h, Attestation.advance, Scene.log, Scene.clearResult,
      ha, Except.map]

theorem retireKey_ends (P : Provider σ) (policy : KeyPolicy) (s : Scene σ) :
    ∃ device, s.device.After P (Call.releases (Holding.ofKey (policy.retired s.context.key))) device ∧
      retireKey P policy s = ⟨device, { s.context with key := policy.kept s.context.key }⟩ := by
  cases policy with
  | perInvocation => exact s.releaseKey_ends P
  | perSession => exact ⟨s.device, .refl _, rfl⟩

/-! ## Ending -/

theorem fail_ends (P : Provider σ) (id : UInt32) (f : Failure) (v : Visit σ) :
    ∃ device, v.scene.device.After P [] device ∧
      fail id f v = (f.status, { v with
        scene := ⟨device, v.scene.context⟩, parameters := v.parameters.clearOutputs }) :=
  ⟨_, (((Device.After.refl _).log _).log _).log _, rfl⟩

theorem persist_ends (P : Provider σ) (id : String) (bundle : Bytes) (v : Visit σ) :
    ∃ device, v.scene.device.After P [] device ∧ persist id bundle v =
      { v with scene := ⟨device, v.scene.context⟩, storage := v.storage.map (·.keep id bundle) } := by
  rcases v with ⟨s, ps, _ | storage⟩
  · exact ⟨_, (Device.After.refl _).log _, rfl⟩
  · simp only [persist, Option.map_some, Storage.keep]
    cases storage.store id bundle with
    | ok storage => exact ⟨_, (Device.After.refl _).log _, rfl⟩
    | error e => exact ⟨_, (Device.After.refl _).log _, rfl⟩

theorem succeed_ends (P : Provider σ) (config : Config) (id : UInt32) (a : Attested) (v : Visit σ) :
    ∃ device, v.scene.device.After P [] device ∧ succeed config id a v =
      (.ok, { v with
        scene := ⟨device, v.scene.context⟩, storage := config.archived a.bundle v.storage }) := by
  unfold succeed Config.archived
  cases config.persist with
  | false => exact ⟨_, ((Device.After.refl _).log _).log _, rfl⟩
  | true =>
    obtain ⟨d, hd, hp⟩ := persist_ends P (Hex.encode a.bundle.digest.bytes) a.bundle.encode
      (v.log (.attested id a.gray.length (Hex.encode a.bundle.digest.bytes) v.scene.context.completed))
    refine ⟨d.log (.transition .assembled .idle), hd.of_log.log _, ?_⟩
    simp only [if_true, hp]
    rfl

/-! ## The whole -/

theorem processAndAttest_processed (P : Provider σ) (config : Config) (id : UInt32) (v : Visit σ)
    {image : Bytes} {bundle gray : OutputBuffer} (hslots : v.parameters = slots image bundle gray) :
    Processed P config image bundle gray v (processAndAttest P config id v).2
      (processAndAttest P config id v).1 := by
  rcases v with ⟨s, ps, storage⟩
  obtain rfl : ps = slots image bundle gray := hslots
  by_cases hf : Fits config image bundle gray
  · obtain ⟨calls, outcome, key, d, he, hd, ha⟩ := attestGray_ends P config.keyPolicy hf.whole s
    cases outcome with
    | error f =>
      -- What the attestation left is given up, and the outputs are emptied.
      obtain ⟨d', hd', hr⟩ := Scene.releaseAll_ends P
        ⟨d, Attestation.leaves (.error f) key { s.context with result := none }⟩
      obtain ⟨d'', hd'', hfail⟩ := fail_ends P id f ⟨⟨d', { completed := s.context.completed }⟩,
        slots image bundle gray, storage⟩
      have h : processAndAttest P config id ⟨s, slots image bundle gray, storage⟩ = fail id f
          ⟨⟨d', { completed := s.context.completed }⟩, slots image bundle gray, storage⟩ := by
        simp only [processAndAttest, checkLengths_ok hf, perform, ha, Except.map, Scene.abort, hr]
        rfl
      rw [h, hfail]
      exact .failed calls f key hf he
        (by simpa [Attestation.leaves] using (hd.trans hd').trans hd'') rfl
        (clearOutputs_slots image bundle gray) rfl
    | ok b =>
      -- Both outputs fit, so nothing fails after the attestation.
      obtain ⟨d', hd', hr⟩ := retireKey_ends P config.keyPolicy
        ⟨d, Attestation.leaves (.ok b) key { s.context with result := none }⟩
      obtain ⟨d'', hd'', hsucceed⟩ := succeed_ends P config id ⟨b, Grayscale.gray image⟩
        ⟨⟨d', ⟨none, config.keyPolicy.kept key, some b, s.context.completed + 1⟩⟩,
          slots image ⟨b.encode ++ bundle.contents.drop 168, 168⟩ ⟨Grayscale.gray image, image.length⟩,
          storage⟩
      have h : processAndAttest P config id ⟨s, slots image bundle gray, storage⟩ =
          succeed config id ⟨b, Grayscale.gray image⟩
            ⟨⟨d', ⟨none, config.keyPolicy.kept key, some b, s.context.completed + 1⟩⟩,
              slots image ⟨b.encode ++ bundle.contents.drop 168, 168⟩
                ⟨Grayscale.gray image, image.length⟩, storage⟩ := by
        simp only [processAndAttest, checkLengths_ok hf, perform, ha, Except.map,
          writeOutputs_slots hf, hr]
        rfl
      rw [h, hsucceed]
      exact .succeeded calls b key hf he
        (by simpa [Attestation.leaves] using (hd.trans hd').trans hd'') rfl rfl rfl
  · -- A length does not fit, and the provider is not called.
    obtain ⟨cause, hcause⟩ := checkLengths_error hf
    obtain ⟨d, hd, hfail⟩ := fail_ends P id (.badParameters cause)
      ⟨s, slots image bundle gray, storage⟩
    simp only [processAndAttest, hcause, hfail]
    exact .misfit hf hd rfl (clearOutputs_slots image bundle gray) rfl

theorem run_course (P : Provider σ) (config : Config) (id command : UInt32) (v : Visit σ) :
    Course P config command v (run P config id command v).2 (run P config id command v).1 := by
  by_cases hcommand : command = 0
  · subst hcommand
    have hknown : Command.ofId? 0 = some .processAndAttest := by rw [ofId?_eq, if_pos rfl]
    by_cases hkinds : v.parameters.kinds = Command.processAndAttest.kinds
    · obtain ⟨image, bundle, gray, hslots⟩ := (kinds_eq_iff v.parameters).mp
        ((validate_kinds_iff v.parameters).mp hkinds)
      have h : run P config id 0 v =
          processAndAttest P config id (v.advance .idle .parametersValidated) := by
        simp only [run, hknown, Parameters.validate, hkinds, if_true]
      rw [h]
      exact .recognised rfl hslots
        (processAndAttest_processed P config id (v.advance .idle .parametersValidated) hslots).of_log
    · -- The command is known, but a slot is of another kind.
      have h : run P config id 0 v = (.badParameters, (v.advance .idle .rejected).log (.kindsRefused id
          .processAndAttest (.badParameters (.kindsMismatch v.parameters.kinds
            Command.processAndAttest.kinds)))) := by
        simp only [run, hknown, Parameters.validate, if_neg hkinds]
        rfl
      rw [h]
      have hr : ¬ Recognised 0 v.parameters := fun hr =>
        hkinds ((validate_kinds_iff v.parameters).mpr hr.2)
      exact .rejected hr (((Device.After.refl _).log _).log _) rfl rfl rfl
  · -- There is no such command.
    have h : run P config id command v =
        (.badParameters, (v.advance .idle .rejected).log (.unknownCommand id command)) := by
      simp only [run, ofId?_eq, if_neg hcommand]
    rw [h]
    exact .rejected (fun hr => hcommand hr.1) (((Device.After.refl _).log _).log _) rfl rfl rfl

end Invocation

end AttestedImaging
