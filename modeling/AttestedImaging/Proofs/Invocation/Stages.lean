import AttestedImaging.Proofs.Invocation.Status
import AttestedImaging.Provider.Software
import Mathlib.Data.List.Infix

/-!
# The stages that an invocation logs

The steps from stage to stage among the events of one invocation. Up to a failure each step starts
where the one before it ended. A failure is always logged as a step from the stage of validated
parameters, also where the invocation has come further: there, and nowhere else, the path breaks.
-/

namespace AttestedImaging

variable {σ α β : Type}

abbrev Move := Stage × Stage

def Event.move? : Event → Option Move
  | .transition source target => some (source, target)
  | _ => none

def moves (events : List Event) : List Move := events.filterMap Event.move?

/-! ## Devices and scenes -/

/-- What was logged since then are these steps, and events of other kinds. -/
def Device.Moved (d : Device σ) (path : List Move) (d' : Device σ) : Prop :=
  ∃ events, d'.events = d.events ++ events ∧ moves events = path

namespace Device

theorem Moved.refl (d : Device σ) : d.Moved [] d := ⟨[], by simp, rfl⟩

theorem Moved.trans {d d' d'' : Device σ} {p q : List Move} (h : d.Moved p d')
    (h' : d'.Moved q d'') : d.Moved (p ++ q) d'' := by
  obtain ⟨events, he, hp⟩ := h
  obtain ⟨events', he', hq⟩ := h'
  refine ⟨events ++ events', by rw [he', he, List.append_assoc], ?_⟩
  rw [moves, List.filterMap_append, ← moves, ← moves, hp, hq]

theorem moved_log (d : Device σ) (e : Event) : d.Moved (moves [e]) (d.log e) := ⟨[e], rfl, rfl⟩

theorem moved_release (P : Provider σ) (holding : Holding) (d : Device σ) :
    d.Moved [] (d.release P holding) := by
  rcases h : P.release holding d.provider with ⟨found, s⟩
  simp only [release, h]
  split
  · exact ⟨[], by simp, rfl⟩
  · exact ⟨[.releaseMissed holding], rfl, rfl⟩

theorem moved_drop (P : Provider σ) (holding : Holding) (d : Device σ) :
    d.Moved [] (d.drop P holding) :=
  (moved_log d (.releasing holding)).trans (moved_release P holding _)

end Device

theorem Scene.moved_endOperation (P : Provider σ) (s : Scene σ) :
    s.device.Moved [] (s.endOperation P).device := by
  unfold endOperation
  split
  · exact Device.moved_drop P _ _
  · exact .refl _

theorem Scene.moved_releaseKey (P : Provider σ) (s : Scene σ) :
    s.device.Moved [] (s.releaseKey P).device := by
  unfold releaseKey
  split
  · exact Device.moved_drop P _ _
  · exact .refl _

theorem Scene.moved_abort (P : Provider σ) (s : Scene σ) : s.device.Moved [] (s.abort P).device :=
  (s.moved_endOperation P).trans ((s.endOperation P).moved_releaseKey P)

/-! ## Works -/

/-- A work that logs these steps, or the first few of them if it fails. -/
def Work.Walks (w : Work σ α) (path : List Move) : Prop :=
  ∀ s : Scene σ, ∃ walked, s.device.Moved walked (w s).2.device ∧ walked <+: path ∧
    ∀ a, (w s).1 = .ok a → walked = path

namespace Work

theorem walks_act {f : Scene σ → Scene σ} {path : List Move}
    (h : ∀ s : Scene σ, s.device.Moved path (f s).device) : (act f).Walks path :=
  fun s => ⟨path, h s, List.prefix_rfl, fun _ _ => rfl⟩

theorem walks_pure (a : α) : (pure a : Work σ α).Walks [] :=
  fun _ => ⟨[], .refl _, List.prefix_rfl, fun _ _ => rfl⟩

theorem walks_fail (f : Failure) : (fail f : Work σ α).Walks [] :=
  fun _ => ⟨[], .refl _, List.prefix_rfl, fun _ _ => rfl⟩

theorem walks_log (e : Event) : (log e : Work σ Unit).Walks (moves [e]) :=
  walks_act fun s : Scene σ => s.device.moved_log e

theorem walks_allocate (P : Provider σ) (request : Allocation) : (allocate P request).Walks [] := by
  intro s
  refine ⟨[], ?_, List.prefix_rfl, fun _ _ => rfl⟩
  unfold allocate Device.allocate
  rcases P.allocate request s.device.provider with ⟨_ | _, t⟩
  · exact ⟨[], by simp, rfl⟩
  · exact ⟨[], by simp, rfl⟩

theorem walks_compute (P : Provider σ) (request : Computation) : (compute P request).Walks [] := by
  intro s
  refine ⟨[], ?_, List.prefix_rfl, fun _ _ => rfl⟩
  unfold compute Device.compute
  rcases P.compute request s.device.provider with ⟨_ | _, t⟩
  · exact ⟨[], by simp, rfl⟩
  · exact ⟨[], by simp, rfl⟩

theorem Walks.bind {w : Work σ α} {f : α → Work σ β} {p q : List Move} (hw : w.Walks p)
    (hf : ∀ a, (f a).Walks q) : (w >>= f).Walks (p ++ q) := by
  intro s
  obtain ⟨walked, hmoved, hprefix, hok⟩ := hw s
  rw [bind_apply]
  rcases h : w s with ⟨e | a, s'⟩
  · rw [h] at hmoved
    exact ⟨walked, hmoved, hprefix.trans (List.prefix_append p q), nofun⟩
  · rw [h] at hmoved hok
    obtain rfl := hok a rfl
    obtain ⟨walked', hmoved', hprefix', hok'⟩ := hf a s'
    exact ⟨walked ++ walked', hmoved.trans hmoved', (List.prefix_append_right_inj walked).mpr hprefix',
      fun b hb => by rw [hok' b hb]⟩

theorem Walks.after {w : Work σ α} {f : α → Work σ β} {path : List Move} (hw : w.Walks [])
    (hf : ∀ a, (f a).Walks path) : (w >>= f).Walks path := hw.bind hf

theorem Walks.andFinally {w : Work σ α} {f : Scene σ → Scene σ} {path : List Move}
    (hw : w.Walks path) (hf : ∀ s : Scene σ, s.device.Moved [] (f s).device) :
    (w.andFinally f).Walks path := by
  intro s
  obtain ⟨walked, hmoved, hprefix, hok⟩ := hw s
  exact ⟨walked, by simpa using hmoved.trans (hf (w s).2), hprefix, hok⟩

end Work

/-! ## Attestations -/

namespace Attestation

open Work

theorem walks_useOperation (P : Provider σ) (request : Allocation) (call : Handle → Computation) :
    (useOperation P request call).Walks [] := by
  have hbegin : (beginOperation P request).Walks [] := by
    refine (walks_act (Scene.moved_endOperation P)).after fun _ => ?_
    refine (walks_allocate P request).after fun h => ?_
    exact (walks_act fun s : Scene σ => .refl s.device).after fun _ => walks_pure h
  exact hbegin.after fun h => (walks_compute P (call h)).andFinally (Scene.moved_endOperation P)

theorem walks_exactly (n : Nat) (fault : Nat → CryptoFault) (answer : Bytes) :
    (exactly n fault answer : Work σ (Fixed n)).Walks [] := by
  unfold exactly
  split
  · exact walks_pure _
  · exact walks_fail _

theorem walks_keyFor (P : Provider σ) (policy : KeyPolicy) : (keyFor P policy).Walks [] := by
  have hinstall : ∀ h, (installKey P h).Walks [] := by
    refine fun h => walks_act fun s : Scene σ => ?_
    split
    · exact Device.moved_drop P _ _
    · exact .refl _
  have hmake : (makeKey P).Walks [] := by
    refine (walks_act (Scene.moved_releaseKey P)).after fun _ => ?_
    refine (walks_allocate P .key).after fun h => (hinstall h).after fun _ => ?_
    exact (walks_log (.keyGenerated h)).after fun _ => walks_pure h
  have hcontext : (Work.context : Work σ Context).Walks [] :=
    fun _ => ⟨[], .refl _, List.prefix_rfl, fun _ _ => rfl⟩
  refine hcontext.after fun c => ?_
  split
  · exact (walks_log (.keyReused _)).after fun _ => walks_pure _
  · exact hmake

theorem walks_component (P : Provider σ) (key : Handle) (which : Coordinate) :
    (component P key which).Walks [] := by
  refine (walks_compute P _).after fun answer => ?_
  split
  · exact walks_fail _
  · exact walks_pure _
  · exact walks_fail _

/-- The steps of an attestation that goes well. -/
def path : List Move := [(.computed, .digested), (.digested, .signed), (.signed, .assembled)]

theorem walks_attest (P : Provider σ) (policy : KeyPolicy) (image : Bytes) :
    (attest P policy image).Walks path := by
  have hadvance : ∀ source target, (advance source target : Work σ Unit).Walks [(source, target)] :=
    fun source target => walks_log (.transition source target)
  refine ((walks_useOperation P _ _).after fun _ => walks_exactly _ _ _).after fun digest => ?_
  refine (hadvance .computed .digested).bind fun _ => (walks_keyFor P policy).after fun key => ?_
  refine (walks_component P key .x).after fun x => (walks_component P key .y).after fun y => ?_
  refine ((walks_useOperation P _ _).after fun _ => walks_exactly _ _ _).after fun signature => ?_
  refine (hadvance .digested .signed).bind fun _ => (hadvance .signed .assembled).bind fun _ => ?_
  exact (walks_act fun s : Scene σ => .refl s.device).after fun _ => walks_pure _

end Attestation

/-! ## Invocations -/

namespace Invocation

open Grayscale (convert_of_whole)

theorem moved_persist (id : String) (bundle : Bytes) (v : Visit σ) :
    v.scene.device.Moved [] (persist id bundle v).scene.device := by
  unfold persist
  split
  · exact v.scene.device.moved_log (.storageMissing id)
  · split
    · exact v.scene.device.moved_log (.stored id)
    · exact v.scene.device.moved_log (.storingFailed id _)

theorem moved_succeed (config : Config) (id : UInt32) (a : Attested) (v : Visit σ) :
    v.scene.device.Moved [(.assembled, .idle)] (succeed config id a v).2.scene.device := by
  have hidle := fun v : Visit σ => v.scene.device.moved_log (.transition .assembled .idle)
  have hattested := fun digest =>
    v.scene.device.moved_log (.attested id a.gray.length digest v.scene.context.completed)
  unfold succeed
  cases config.persist with
  | false => exact (hattested _).trans (hidle (v.log _))
  | true => exact ((hattested _).trans (moved_persist _ _ (v.log _))).trans (hidle _)

theorem moved_fail (id : UInt32) (f : Failure) (v : Visit σ) :
    v.scene.device.Moved [(.parametersValidated, .failed), (.failed, .idle)]
      (fail id f v).2.scene.device :=
  ⟨[.transition .parametersValidated .failed, .invocationFailed id f, .transition .failed .idle],
    by simp [fail, Visit.advance, Visit.log, Scene.log, Device.log], rfl⟩

theorem moved_retireKey (P : Provider σ) (policy : KeyPolicy) (s : Scene σ) :
    s.device.Moved [] (retireKey P policy s).device := by
  unfold retireKey
  split
  · exact s.moved_releaseKey P
  · exact .refl _

theorem moved_attestGray (P : Provider σ) (policy : KeyPolicy) {image : Bytes}
    (h : image.length % 3 = 0) (s : Scene σ) :
    ∃ walked, s.device.Moved ((.parametersValidated, .computed) :: walked)
        (attestGray P policy image s).2.device ∧
      walked <+: Attestation.path ∧
      ∀ a, (attestGray P policy image s).1 = .ok a → walked = Attestation.path := by
  obtain ⟨walked, hmoved, hprefix, hdone⟩ := Attestation.walks_attest P policy (Grayscale.gray image)
    ⟨s.device.log (.transition .parametersValidated .computed), { s.context with result := none }⟩
  refine ⟨walked, ?_⟩
  rcases ha : Attestation.attest P policy (Grayscale.gray image)
    ⟨s.device.log (.transition .parametersValidated .computed), { s.context with result := none }⟩
    with ⟨outcome, t⟩
  rw [ha] at hmoved hdone
  have hs : attestGray P policy image s = (outcome.map fun b => ⟨b, Grayscale.gray image⟩, t) := by
    cases outcome <;>
      simp [attestGray, orFail, convert_of_whole h, Attestation.advance, Scene.log, Scene.clearResult,
        ha, Except.map]
  rw [hs]
  refine ⟨(s.device.moved_log _).trans hmoved, hprefix, fun a hok => ?_⟩
  cases outcome with
  | error f => cases hok
  | ok b => exact hdone b rfl

/-- The paths of an invocation, by its status. -/
inductive Tracked : Status → List Move → Prop
  | rejected : Tracked .badParameters [(.idle, .rejected)]
  | misfit : Tracked .badParameters [(.idle, .parametersValidated), (.parametersValidated, .failed),
      (.failed, .idle)]
  | stopped {status : Status} {walked : List Move} (hok : status ≠ .ok)
      (hbad : status ≠ .badParameters) (h : walked <+: Attestation.path) :
      Tracked status ((.idle, .parametersValidated) :: (.parametersValidated, .computed) :: walked ++
        [(.parametersValidated, .failed), (.failed, .idle)])
  | done : Tracked .ok ((.idle, .parametersValidated) :: (.parametersValidated, .computed) ::
      Attestation.path ++ [(.assembled, .idle)])

theorem processAndAttest_tracked (P : Provider σ) (config : Config) (id : UInt32) (v : Visit σ)
    {image : Bytes} {bundle gray : OutputBuffer} (hslots : v.parameters = slots image bundle gray) :
    ∃ path, v.scene.device.Moved path (processAndAttest P config id v).2.scene.device ∧
      Tracked (processAndAttest P config id v).1 ((.idle, .parametersValidated) :: path) := by
  rcases v with ⟨s, ps, storage⟩
  obtain rfl : ps = slots image bundle gray := hslots
  by_cases hf : Fits config image bundle gray
  · obtain ⟨walked, hmoved, hprefix, hdone⟩ := moved_attestGray P config.keyPolicy hf.whole s
    obtain ⟨calls, outcome, key, d, he, -, ha⟩ := attestGray_ends P config.keyPolicy hf.whole s
    rw [ha] at hmoved hdone
    cases outcome with
    | error f =>
      have h : processAndAttest P config id ⟨s, slots image bundle gray, storage⟩ =
          fail id f ⟨Scene.abort P ⟨d, Attestation.leaves (.error f) key
            { s.context with result := none }⟩, slots image bundle gray, storage⟩ := by
        simp only [processAndAttest, checkLengths_ok hf, perform, ha, Except.map]
      -- What an attestation fails with is never a fault of the parameters.
      obtain ⟨c, -, hc⟩ := (Call.findSome?_eq_some_iff calls f).mp he.failure
      have htracked := Tracked.stopped f.status_ne_ok (Call.failure?_status_ne hc) hprefix
      rw [h]
      exact ⟨_, (hmoved.trans (Scene.moved_abort P _)).trans (moved_fail id f _), by
        rwa [List.append_nil]⟩
    | ok b =>
      have h : processAndAttest P config id ⟨s, slots image bundle gray, storage⟩ =
          succeed config id ⟨b, Grayscale.gray image⟩ ⟨retireKey P config.keyPolicy
            ⟨d, Attestation.leaves (.ok b) key { s.context with result := none }⟩,
            slots image ⟨b.encode ++ bundle.contents.drop 168, 168⟩
              ⟨Grayscale.gray image, image.length⟩, storage⟩ := by
        simp only [processAndAttest, checkLengths_ok hf, perform, ha, Except.map, writeOutputs_slots hf]
      obtain rfl := hdone ⟨b, Grayscale.gray image⟩ rfl
      rw [h]
      exact ⟨_, (hmoved.trans (moved_retireKey P config.keyPolicy _)).trans (moved_succeed config id _ _),
        .done⟩
  · obtain ⟨cause, hcause⟩ := checkLengths_error hf
    simp only [processAndAttest, hcause]
    exact ⟨_, moved_fail id (.badParameters cause) _, .misfit⟩

theorem run_tracked (P : Provider σ) (config : Config) (id command : UInt32) (v : Visit σ) :
    ∃ path, v.scene.device.Moved path (run P config id command v).2.scene.device ∧
      Tracked (run P config id command v).1 path := by
  have hrejected : ∀ e : Event, moves [e] = [] →
      v.scene.device.Moved [(.idle, .rejected)] ((v.advance .idle .rejected).log e).scene.device := by
    intro e he
    have hlog := (v.scene.device.moved_log (.transition .idle .rejected)).trans
      (Device.moved_log _ e)
    rwa [he] at hlog
  unfold run
  split
  · exact ⟨_, hrejected _ rfl, .rejected⟩
  · rename_i known hknown
    cases known
    by_cases hkinds : v.parameters.kinds = Command.processAndAttest.kinds
    · obtain ⟨image, bundle, gray, hslots⟩ := (kinds_eq_iff v.parameters).mp
        ((validate_kinds_iff v.parameters).mp hkinds)
      obtain ⟨path, hmoved, htracked⟩ :=
        processAndAttest_tracked P config id (v.advance .idle .parametersValidated) hslots
      simp only [Parameters.validate, if_pos hkinds]
      exact ⟨_, (v.scene.device.moved_log _).trans hmoved, htracked⟩
    · simp only [Parameters.validate, if_neg hkinds]
      exact ⟨_, hrejected _ rfl, .rejected⟩

/-! ## Paths -/

/-- Each step starts where the one before it ended. -/
def Connected (path : List Move) : Prop := path.IsChain fun a b => a.2 = b.1

instance (path : List Move) : Decidable (Connected path) :=
  inferInstanceAs (Decidable (path.IsChain fun a b => a.2 = b.1))

/-- The stages in which there is work under way. -/
def working : List Stage := [.parametersValidated, .computed, .digested, .signed, .assembled]

/-- The steps that there are. -/
def Allowed (m : Move) : Prop :=
  m ∈ [(.idle, .parametersValidated), (.parametersValidated, .computed), (.computed, .digested),
    (.digested, .signed), (.signed, .assembled), (.assembled, .idle), (.idle, .rejected),
    (.failed, .idle)] ∨ (m.1 ∈ working ∧ m.2 = .failed)

instance (m : Move) : Decidable (Allowed m) := inferInstanceAs (Decidable (_ ∨ _))

/-- The path is connected, except that a failure is logged as if no more than the validation of the
parameters had been done. -/
def Tracks (path : List Move) : Prop :=
  path.head?.map Prod.fst = some .idle ∧ (∀ m ∈ path, Allowed m) ∧
    (path.getLast?.map Prod.snd = some .idle ∨ path.getLast?.map Prod.snd = some .rejected) ∧
    path.IsChain fun a b => a.2 = b.1 ∨ b = (.parametersValidated, .failed)

instance (path : List Move) : Decidable (Tracks path) := inferInstanceAs (Decidable (_ ∧ _))

theorem Tracked.tracks {status : Status} {path : List Move} (h : Tracked status path) :
    Tracks path ∧ (Connected path ↔ status = .ok ∨ status = .badParameters) := by
  have hstopped : ∀ walked ∈ Attestation.path.inits,
      let path := (.idle, .parametersValidated) :: (.parametersValidated, .computed) :: walked ++
        [(.parametersValidated, .failed), (.failed, .idle)]
      Tracks path ∧ ¬ Connected path := by decide
  cases h with
  | rejected => decide
  | misfit => decide
  | done => decide
  | stopped hok hbad h =>
    obtain ⟨htracks, hbroken⟩ := hstopped _ ((List.mem_inits _ _).mpr h)
    exact ⟨htracks, fun hc => absurd hc hbroken, fun hs => absurd hs (not_or.mpr ⟨hok, hbad⟩)⟩

/-- The steps of an invocation are a path, which is broken only before a failure of the attestation. -/
theorem run_stages (P : Provider σ) (config : Config) (id command : UInt32) (v : Visit σ) :
    ∃ events, (run P config id command v).2.scene.device.events = v.scene.device.events ++ events ∧
      Tracks (moves events) ∧
      (Connected (moves events) ↔ (run P config id command v).1 = .ok ∨
        (run P config id command v).1 = .badParameters) := by
  obtain ⟨path, ⟨events, hevents, rfl⟩, htracked⟩ := run_tracked P config id command v
  exact ⟨events, hevents, htracked.tracks⟩

/-- The image is made gray, and the failure after it is logged as a step from the stage before. -/
theorem run_stages_exhausted :
    ¬ ∀ (v : Visit Software) (events : List Event),
      (run Software.provider {} 0 0 v).2.scene.device.events = v.scene.device.events ++ events →
        Connected (moves events) := by
  intro h
  have hpath : moves (run Software.provider {} 0 0 ⟨⟨.ofProvider { limit := 0 }, {}⟩,
      slots [1, 2, 3] (.ofContents (List.replicate 168 0)) (.ofContents [0, 0, 0]),
      none⟩).2.scene.device.events =
      [(.idle, .parametersValidated), (.parametersValidated, .computed),
        (.parametersValidated, .failed), (.failed, .idle)] := by
    decide +kernel
  have hconnected := h ⟨⟨.ofProvider { limit := 0 }, {}⟩,
    slots [1, 2, 3] (.ofContents (List.replicate 168 0)) (.ofContents [0, 0, 0]), none⟩ _ rfl
  rw [hpath] at hconnected
  revert hconnected
  decide

end Invocation

end AttestedImaging
