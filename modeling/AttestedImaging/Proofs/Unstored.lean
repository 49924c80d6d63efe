import AttestedImaging.Invocation

/-!
# What is left without storing

`unstored` takes away the storage, the wish to use it and what storing logs. Every part of an
invocation comes to the same with what is left: doing it and then taking these away is the same as
taking them away first. So nothing in an invocation can depend on them.
-/

namespace AttestedImaging

variable {σ : Type}

/-- An event of a run that stores nothing, unless it tells of storing. -/
def Event.unstored? : Event → Option Event
  | .applicationCreated kind config =>
    some (.applicationCreated kind { config with persist := false })
  | .storageMissing _ | .stored _ | .storingFailed _ _ => none
  | e => some e

def Config.unstored (config : Config) : Config := { config with persist := false }

/-! ## Devices and scenes -/

namespace Device

def unstored (d : Device σ) : Device σ := { d with events := d.events.filterMap Event.unstored? }

theorem unstored_log {e : Event} (h : e.unstored? = some e) (d : Device σ) :
    (d.log e).unstored = d.unstored.log e := by
  simp [unstored, log, h]

theorem unstored_log_storing {e : Event} (h : e.unstored? = none) (d : Device σ) :
    (d.log e).unstored = d.unstored := by
  simp [unstored, log, h]

theorem unstored_release (P : Provider σ) (x : Holding) (d : Device σ) :
    (d.release P x).unstored = d.unstored.release P x := by
  rcases h : P.release x d.provider with ⟨found, provider⟩
  cases found with
  | true => simp [release, unstored, h]
  | false => simp [release, unstored, log, h, Event.unstored?]

theorem unstored_drop (P : Provider σ) (x : Holding) (d : Device σ) :
    (d.drop P x).unstored = d.unstored.drop P x := by
  rw [drop, unstored_release, unstored_log rfl]
  rfl

end Device

namespace Scene

def unstored (s : Scene σ) : Scene σ := { s with device := s.device.unstored }

theorem unstored_log {e : Event} (h : e.unstored? = some e) (s : Scene σ) :
    (s.log e).unstored = s.unstored.log e := by
  rw [log, unstored, Device.unstored_log h]
  rfl

theorem unstored_endOperation (P : Provider σ) (s : Scene σ) :
    (s.endOperation P).unstored = s.unstored.endOperation P := by
  rcases s with ⟨d, _ | o, key, result, completed⟩
  · rfl
  · simp [endOperation, unstored, Device.unstored_drop]

theorem unstored_releaseKey (P : Provider σ) (s : Scene σ) :
    (s.releaseKey P).unstored = s.unstored.releaseKey P := by
  rcases s with ⟨d, operation, _ | k, result, completed⟩
  · rfl
  · simp [releaseKey, unstored, Device.unstored_drop]

theorem unstored_releaseAll (P : Provider σ) (s : Scene σ) :
    (s.releaseAll P).unstored = s.unstored.releaseAll P := by
  rw [releaseAll, unstored_releaseKey, unstored_endOperation]
  rfl

theorem unstored_abort (P : Provider σ) (s : Scene σ) :
    (s.abort P).unstored = s.unstored.abort P := by
  have h := congrArg clearResult (unstored_releaseAll P s)
  exact h

end Scene

/-! ## Works -/

namespace Work

variable {α β : Type}

/-- A work to which storing makes no difference. -/
def Unaffected (w : Work σ α) : Prop := ∀ s, w s.unstored = ((w s).1, (w s).2.unstored)

namespace Unaffected

theorem pure (a : α) : (Pure.pure a : Work σ α).Unaffected := fun _ => rfl

theorem fail (f : Failure) : (Work.fail f : Work σ α).Unaffected := fun _ => rfl

theorem context : (Work.context : Work σ Context).Unaffected := fun _ => rfl

theorem allocate (P : Provider σ) (request : Allocation) : (Work.allocate P request).Unaffected := by
  rintro ⟨d, c⟩
  rcases h : P.allocate request d.provider with ⟨_ | _, t⟩ <;>
    simp [Work.allocate, Device.allocate, Scene.unstored, Device.unstored, h]

theorem compute (P : Provider σ) (request : Computation) : (Work.compute P request).Unaffected := by
  rintro ⟨d, c⟩
  rcases h : P.compute request d.provider with ⟨_ | _, t⟩ <;>
    simp [Work.compute, Device.compute, Scene.unstored, Device.unstored, h]

theorem act {f : Scene σ → Scene σ} (h : ∀ s, (f s).unstored = f s.unstored) :
    (Work.act f).Unaffected := fun s => by rw [act_apply, act_apply, h]

theorem log {e : Event} (h : e.unstored? = some e) : (Work.log e : Work σ Unit).Unaffected :=
  act fun s => s.unstored_log h

theorem bind {w : Work σ α} {f : α → Work σ β} (h : w.Unaffected) (hf : ∀ a, (f a).Unaffected) :
    (w >>= f).Unaffected := by
  intro s
  rw [bind_apply, bind_apply, h s]
  rcases w s with ⟨_ | a, t⟩
  · rfl
  · exact hf a t

theorem andFinally {w : Work σ α} {f : Scene σ → Scene σ} (h : w.Unaffected)
    (hf : ∀ s, (f s).unstored = f s.unstored) : (w.andFinally f).Unaffected := by
  intro s
  rw [andFinally_apply, andFinally_apply, h s, hf]

end Unaffected

end Work

/-! ## Attestations -/

namespace Attestation

open Work (Unaffected)

theorem unaffected_beginOperation (P : Provider σ) (request : Allocation) :
    (beginOperation P request).Unaffected := by
  refine (Unaffected.act fun s => s.unstored_endOperation P).bind fun _ => ?_
  refine (Unaffected.allocate P request).bind fun h => (Unaffected.act ?_).bind fun _ => .pure _
  intro s
  rfl

theorem unaffected_useOperation (P : Provider σ) (request : Allocation)
    (call : Handle → Computation) : (useOperation P request call).Unaffected :=
  (unaffected_beginOperation P request).bind fun h =>
    (Unaffected.compute P (call h)).andFinally fun s => s.unstored_endOperation P

theorem unaffected_exactly (n : Nat) (fault : Nat → CryptoFault) (answer : Bytes) :
    (exactly n fault answer : Work σ (Fixed n)).Unaffected := by
  unfold exactly
  split
  · exact .pure _
  · exact .fail _

theorem unaffected_installKey (P : Provider σ) (h : Handle) : (installKey P h).Unaffected := by
  apply Unaffected.act
  rintro ⟨d, operation, _ | old, result, completed⟩
  · rfl
  · simp [Scene.unstored, Device.unstored_drop]

theorem unaffected_makeKey (P : Provider σ) : (makeKey P).Unaffected :=
  (Unaffected.act fun s => s.unstored_releaseKey P).bind fun _ =>
    (Unaffected.allocate P .key).bind fun h => (unaffected_installKey P h).bind fun _ =>
      (Unaffected.log rfl).bind fun _ => .pure _

theorem unaffected_keyFor (P : Provider σ) (policy : KeyPolicy) : (keyFor P policy).Unaffected := by
  refine Unaffected.context.bind fun c => ?_
  split
  · exact (Unaffected.log rfl).bind fun _ => .pure _
  · exact unaffected_makeKey P

theorem unaffected_component (P : Provider σ) (key : Handle) (which : Coordinate) :
    (component P key which).Unaffected := by
  refine (Unaffected.compute P _).bind fun answer => ?_
  split
  · exact .fail _
  · exact .pure _
  · exact .fail _

theorem unaffected_attest (P : Provider σ) (policy : KeyPolicy) (image : Bytes) :
    (attest P policy image).Unaffected := by
  have hdigest := (unaffected_useOperation P .digest fun h => .digest h image).bind
    (unaffected_exactly 32 .digestLength)
  have hsignature : ∀ k d, (signature P k d).Unaffected := fun k d =>
    (unaffected_useOperation P (.sign k) fun h => .sign h d.bytes).bind
      (unaffected_exactly 64 .signatureLength)
  refine hdigest.bind fun d => (Unaffected.log rfl).bind fun _ => ?_
  refine (unaffected_keyFor P policy).bind fun k => ?_
  refine (unaffected_component P k .x).bind fun x => (unaffected_component P k .y).bind fun y => ?_
  refine (hsignature k d).bind fun signature => ?_
  refine (Unaffected.log rfl).bind fun _ => (Unaffected.log rfl).bind fun _ => ?_
  refine (Unaffected.act ?_).bind fun _ => .pure _
  intro s
  rfl

end Attestation

/-! ## Invocations -/

namespace Invocation

open Work (Unaffected)

def Visit.unstored (v : Visit σ) : Visit σ :=
  { v with scene := v.scene.unstored, storage := none }

theorem Visit.unstored_log {e : Event} (h : e.unstored? = some e) (v : Visit σ) :
    (v.log e).unstored = v.unstored.log e := by
  rw [log, unstored, Scene.unstored_log h]
  rfl

theorem unaffected_attestGray (P : Provider σ) (policy : KeyPolicy) (image : Bytes) :
    (attestGray P policy image).Unaffected := by
  have hconvert : (orFail (Grayscale.convert image) : Work σ Bytes).Unaffected := by
    unfold orFail
    split
    · exact .pure _
    · exact .fail _
  refine hconvert.bind fun gray => (Unaffected.log rfl).bind fun _ => ?_
  refine (Unaffected.act ?_).bind fun _ =>
    (Attestation.unaffected_attest P policy gray).bind fun _ => .pure _
  intro s
  rfl

theorem unstored_retireKey (P : Provider σ) (policy : KeyPolicy) (s : Scene σ) :
    (retireKey P policy s).unstored = retireKey P policy s.unstored := by
  unfold retireKey
  split
  · exact s.unstored_releaseKey P
  · rfl

theorem perform_unstored (P : Provider σ) (policy : KeyPolicy) (image : Bytes) (v : Visit σ) :
    perform P policy image v.unstored =
      ((perform P policy image v).1, (perform P policy image v).2.unstored) := by
  have hattest := unaffected_attestGray P policy image v.scene
  have hparameters : v.unstored.parameters = v.parameters := rfl
  unfold perform
  rw [hparameters]
  rcases hv : attestGray P policy image v.scene with ⟨failure | a, scene⟩ <;> rw [hv] at hattest
  · simp only [Visit.unstored, hattest]
  · rcases hw : writeOutputs a v.parameters with ⟨cause | ⟨⟩, parameters⟩
    · simp only [Visit.unstored, hattest, hw]
    · simp only [Visit.unstored, hattest, hw, unstored_retireKey]

theorem unstored_advance (source target : Stage) (v : Visit σ) :
    (v.advance source target).unstored = v.unstored.advance source target := v.unstored_log rfl

theorem fail_unstored (id : UInt32) (f : Failure) (v : Visit σ) :
    fail id f v.unstored = ((fail id f v).1, (fail id f v).2.unstored) := by
  unfold fail
  simp only [unstored_advance, Visit.unstored_log (show (Event.invocationFailed id f).unstored? = _
    from rfl)]
  rfl

theorem unstored_persist (id : String) (bundle : Bytes) (v : Visit σ) :
    (persist id bundle v).unstored = v.unstored := by
  have hlog : ∀ (e : Event) (storage : Option Storage), e.unstored? = none →
      (Visit.log e { v with storage }).unstored = v.unstored := by
    intro e storage he
    simp only [Visit.unstored, Visit.log, Scene.log, Scene.unstored, Device.unstored_log_storing he]
  unfold persist
  split
  · exact hlog _ v.storage rfl
  · split
    · exact hlog _ _ rfl
    · exact hlog _ v.storage rfl

theorem succeed_unstored (config : Config) (id : UInt32) (a : Attested) (v : Visit σ) :
    succeed config.unstored id a v.unstored =
      ((succeed config id a v).1, (succeed config id a v).2.unstored) := by
  have hattested := v.unstored_log (e := .attested id a.gray.length
    (Hex.encode a.bundle.digest.bytes) v.scene.context.completed) rfl
  unfold succeed
  rw [unstored_advance]
  cases config.persist with
  | false =>
    simp only [if_neg Bool.false_ne_true]
    rw [hattested]
    rfl
  | true =>
    simp only [if_pos]
    rw [unstored_persist, hattested]
    rfl

theorem processAndAttest_unstored (P : Provider σ) (config : Config) (id : UInt32) (v : Visit σ) :
    processAndAttest P config.unstored id v.unstored =
      ((processAndAttest P config id v).1, (processAndAttest P config id v).2.unstored) := by
  have hcheck : checkLengths config.unstored v.unstored.parameters =
      checkLengths config v.parameters := rfl
  unfold processAndAttest
  rw [hcheck]
  rcases checkLengths config v.parameters with cause | image
  · exact fail_unstored id (.badParameters cause) v
  · have hperform : perform P config.unstored.keyPolicy image v.unstored = _ :=
      perform_unstored P config.keyPolicy image v
    rcases hv : perform P config.keyPolicy image v with ⟨failure | a, w⟩ <;> rw [hv] at hperform
    · have habort : ({ w with scene := w.scene.abort P } : Visit σ).unstored =
          { w.unstored with scene := w.unstored.scene.abort P } := by
        simp only [Visit.unstored, Scene.unstored_abort]
      simp only [hperform, hv]
      rw [← fail_unstored, habort]
    · simp only [hperform, hv]
      exact succeed_unstored config id a w

theorem run_unstored (P : Provider σ) (config : Config) (id command : UInt32) (v : Visit σ) :
    run P config.unstored id command v.unstored =
      ((run P config id command v).1, (run P config id command v).2.unstored) := by
  have hrejected : ∀ e : Event, e.unstored? = some e →
      ((v.advance .idle .rejected).log e).unstored = (v.unstored.advance .idle .rejected).log e := by
    intro e he
    rw [Visit.unstored_log he, unstored_advance]
  have hparameters : v.unstored.parameters = v.parameters := rfl
  unfold run
  rw [hparameters]
  rcases Command.ofId? command with _ | known
  · simp only
    rw [hrejected _ rfl]
  · simp only
    rcases v.parameters.validate known.kinds with cause | ⟨⟩
    · simp only
      rw [hrejected _ rfl]
    · cases known
      simp only
      rw [← unstored_advance]
      exact processAndAttest_unstored P config id _

end Invocation

end AttestedImaging
