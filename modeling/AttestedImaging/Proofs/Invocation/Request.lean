import AttestedImaging.Invocation
import AttestedImaging.Proofs.Image.Grayscale
import Mathlib.Tactic.IntervalCases

/-!
# What an invocation asks for

`Recognised` and `Fits` say in plain terms which requests the checks let through. The lemmas say
that the checks do so, and that the writing of the outputs cannot fail after them.
-/

namespace AttestedImaging.Invocation

open Grayscale (length_gray)

/-- The slots of a request with the right kinds. -/
def slots (image : Bytes) (bundle gray : OutputBuffer) : Parameters :=
  #v[.memrefInput image, .memrefOutput bundle, .memrefOutput gray, .absent]

/-- The command is the one that there is, and each slot is of the kind that it wants. -/
def Recognised (command : UInt32) (ps : Parameters) : Prop :=
  command = 0 ∧ ps.kinds.toList = [.memrefInput, .memrefOutput, .memrefOutput, .absent]

/-- All lengths are as they must be. -/
structure Fits (config : Config) (image : Bytes) (bundle gray : OutputBuffer) : Prop where
  nonempty : image ≠ []
  within : image.length ≤ config.maxImageBytes
  whole : image.length % 3 = 0
  room : 168 ≤ bundle.capacity
  same : gray.capacity = image.length

def Refused (config : Config) (command : UInt32) (ps : Parameters) : Prop :=
  command ≠ Command.processAndAttest.id ∨
    ps.kinds.toList ≠ [.memrefInput, .memrefOutput, .memrefOutput, .absent] ∨
    ∃ image bundle gray, ps = slots image bundle gray ∧
      (image = [] ∨ config.maxImageBytes < image.length ∨ image.length % 3 ≠ 0 ∨
        bundle.capacity < 168 ∨ gray.capacity ≠ image.length)

/-! ## Kinds -/

theorem kind_memrefInput {s : Slot} (h : s.kind = .memrefInput) : ∃ bytes, s = .memrefInput bytes := by
  cases s <;> simp [Slot.kind] at h ⊢

theorem kind_memrefOutput {s : Slot} (h : s.kind = .memrefOutput) :
    ∃ buffer, s = .memrefOutput buffer := by
  cases s <;> simp [Slot.kind] at h ⊢

theorem kind_absent {s : Slot} (h : s.kind = .absent) : s = .absent := by
  cases s <;> simp [Slot.kind] at h ⊢

theorem kinds_slots (image : Bytes) (bundle gray : OutputBuffer) :
    (slots image bundle gray).kinds.toList =
      [.memrefInput, .memrefOutput, .memrefOutput, .absent] := by
  simp [slots, Parameters.kinds, Slot.kind]

theorem kinds_eq_iff (ps : Parameters) :
    ps.kinds.toList = [.memrefInput, .memrefOutput, .memrefOutput, .absent] ↔
      ∃ image bundle gray, ps = slots image bundle gray := by
  constructor
  · intro h
    have hk : ∀ i (hi : i < 4),
        [Kind.memrefInput, .memrefOutput, .memrefOutput, .absent][i]? = some ps[i].kind := by
      intro i hi
      rw [← h, Vector.getElem?_toList]
      simp [Parameters.kinds, hi]
    obtain ⟨image, h0⟩ := kind_memrefInput (Option.some.inj (hk 0 (by omega))).symm
    obtain ⟨bundle, h1⟩ := kind_memrefOutput (Option.some.inj (hk 1 (by omega))).symm
    obtain ⟨gray, h2⟩ := kind_memrefOutput (Option.some.inj (hk 2 (by omega))).symm
    have h3 := kind_absent (Option.some.inj (hk 3 (by omega))).symm
    refine ⟨image, bundle, gray, ?_⟩
    ext i hi
    interval_cases i
    · exact h0
    · exact h1
    · exact h2
    · exact h3
  · rintro ⟨image, bundle, gray, rfl⟩
    exact kinds_slots image bundle gray

theorem validate_kinds_iff (ps : Parameters) :
    ps.kinds = Command.processAndAttest.kinds ↔
      ps.kinds.toList = [.memrefInput, .memrefOutput, .memrefOutput, .absent] :=
  Vector.toList_inj.symm

theorem recognised_slots (image : Bytes) (bundle gray : OutputBuffer) :
    Recognised 0 (slots image bundle gray) := ⟨rfl, kinds_slots image bundle gray⟩

theorem ofId?_eq (command : UInt32) :
    Command.ofId? command = if command = 0 then some .processAndAttest else none := by
  by_cases h : command = 0
  · simp [Command.ofId?, Command.all, Command.id, h]
  · simp [Command.ofId?, Command.all, Command.id, h, Ne.symm h]

/-! ## Lengths -/

theorem slots_inj {image image' : Bytes} {bundle bundle' gray gray' : OutputBuffer}
    (h : slots image bundle gray = slots image' bundle' gray') :
    image = image' ∧ bundle = bundle' ∧ gray = gray' := by
  have h0 := congrArg (fun ps : Parameters => ps[0]) h
  have h1 := congrArg (fun ps : Parameters => ps[1]) h
  have h2 := congrArg (fun ps : Parameters => ps[2]) h
  exact ⟨Slot.memrefInput.inj h0, Slot.memrefOutput.inj h1, Slot.memrefOutput.inj h2⟩

theorem not_fits_iff (config : Config) (image : Bytes) (bundle gray : OutputBuffer) :
    ¬ Fits config image bundle gray ↔
      image = [] ∨ config.maxImageBytes < image.length ∨ image.length % 3 ≠ 0 ∨
        bundle.capacity < 168 ∨ gray.capacity ≠ image.length := by
  constructor
  · intro h
    by_cases h1 : image = []
    · exact .inl h1
    · refine .inr (Classical.byContradiction fun hn => h ?_)
      simp only [not_or, Nat.not_lt, ne_eq, Decidable.not_not] at hn
      exact ⟨h1, hn.1, hn.2.1, hn.2.2.1, hn.2.2.2⟩
  · rintro (h1 | h1 | h1 | h1 | h1) h
    · exact h.nonempty h1
    · exact absurd h.within (by omega)
    · exact h1 h.whole
    · exact absurd h.room (by omega)
    · exact h1 h.same

theorem refused_of_not_recognised {config : Config} {command : UInt32} {ps : Parameters}
    (h : ¬ Recognised command ps) : Refused config command ps := by
  by_cases hcommand : command = 0
  · exact .inr (.inl fun hkinds => h ⟨hcommand, hkinds⟩)
  · exact .inl hcommand

theorem refused_slots_iff (config : Config) (image : Bytes) (bundle gray : OutputBuffer) :
    Refused config 0 (slots image bundle gray) ↔ ¬ Fits config image bundle gray := by
  constructor
  · rintro (h | h | ⟨image', bundle', gray', hslots, h⟩)
    · exact absurd rfl h
    · exact absurd (kinds_slots image bundle gray) h
    · obtain ⟨rfl, rfl, rfl⟩ := slots_inj hslots
      exact (not_fits_iff config image bundle gray).mpr h
  · intro h
    exact .inr (.inr ⟨image, bundle, gray, rfl, (not_fits_iff config image bundle gray).mp h⟩)

theorem checkLengths_slots (config : Config) (image : Bytes) (bundle gray : OutputBuffer) :
    checkLengths config (slots image bundle gray) =
      if image = [] then .error .emptyImage
      else if config.maxImageBytes < image.length then
        .error (.imageTooLarge image.length config.maxImageBytes)
      else if image.length % 3 ≠ 0 then .error (.brokenImage image.length)
      else if bundle.capacity < 168 then .error (.bundleCapacity bundle.capacity)
      else if gray.capacity ≠ image.length then
        .error (.grayCapacity gray.capacity image.length)
      else .ok image := by
  have hi : (slots image bundle gray).memrefInput Command.imageSlot = .ok image := rfl
  have hb : (slots image bundle gray).outputCapacity Command.bundleSlot = .ok bundle.capacity := rfl
  have hg : (slots image bundle gray).outputCapacity Command.graySlot = .ok gray.capacity := rfl
  simp only [checkLengths, hi, hb, hg, List.isEmpty_iff, Grayscale.pixelSize, Bundle.size]
  simp only [bind, Except.bind, pure, Except.pure, throw, throwThe, MonadExceptOf.throw]

theorem checkLengths_ok {config : Config} {image : Bytes} {bundle gray : OutputBuffer}
    (h : Fits config image bundle gray) :
    checkLengths config (slots image bundle gray) = .ok image := by
  rw [checkLengths_slots, if_neg h.nonempty, if_neg (by have := h.within; omega),
    if_neg (by simp [h.whole]), if_neg (by have := h.room; omega), if_neg (by simp [h.same])]

theorem checkLengths_error {config : Config} {image : Bytes} {bundle gray : OutputBuffer}
    (h : ¬ Fits config image bundle gray) :
    ∃ cause, checkLengths config (slots image bundle gray) = .error cause := by
  rw [checkLengths_slots]
  split_ifs with h1 h2 h3 h4 h5
  all_goals first
    | exact ⟨_, rfl⟩
    | skip
  exact absurd ⟨h1, by omega, by omega, by omega, by omega⟩ h

theorem Fits.not_refused {config : Config} {image : Bytes} {bundle gray : OutputBuffer}
    (h : Fits config image bundle gray) : ¬ Refused config 0 (slots image bundle gray) :=
  fun hr => (refused_slots_iff config image bundle gray).mp hr h

theorem not_refused_slots_iff (config : Config) (command : UInt32) (image : Bytes)
    (bundle gray : OutputBuffer) : ¬ Refused config command (slots image bundle gray) ↔
      command = 0 ∧ Fits config image bundle gray := by
  constructor
  · intro h
    obtain rfl : command = 0 := Classical.byContradiction fun hcommand => h (.inl hcommand)
    rw [refused_slots_iff, not_not] at h
    exact ⟨rfl, h⟩
  · rintro ⟨rfl, hfits⟩
    exact hfits.not_refused

/-! ## Outputs -/

theorem clearOutputs_slots (image : Bytes) (bundle gray : OutputBuffer) :
    (slots image bundle gray).clearOutputs = slots image bundle.clear gray.clear := by
  simp [slots, Parameters.clearOutputs, Slot.clear]

theorem write_bundle {config : Config} {image : Bytes} {bundle gray : OutputBuffer}
    (h : Fits config image bundle gray) (b : Bundle) :
    (slots image bundle gray).write Command.bundleSlot b.encode =
      .ok (slots image ⟨b.encode ++ bundle.contents.drop 168, 168⟩ gray) := by
  have ho : (slots image bundle gray).output Command.bundleSlot = .ok bundle := rfl
  have hw : bundle.write b.encode = .ok ⟨b.encode ++ bundle.contents.drop 168, 168⟩ := by
    simp [OutputBuffer.write, h.room]
  simp only [Parameters.write, ho, hw, bind, Except.bind, pure, Except.pure]
  simp [Parameters.setOutput, slots, Command.bundleSlot, Slot.setOutput]

theorem write_gray {config : Config} {image : Bytes} {bundle gray : OutputBuffer}
    (h : Fits config image bundle gray) (bundle' : OutputBuffer) :
    (slots image bundle' gray).write Command.graySlot (Grayscale.gray image) =
      .ok (slots image bundle' ⟨Grayscale.gray image, image.length⟩) := by
  have ho : (slots image bundle' gray).output Command.graySlot = .ok gray := rfl
  have hw : gray.write (Grayscale.gray image) = .ok ⟨Grayscale.gray image, image.length⟩ := by
    have hl : gray.contents.length = image.length := h.same
    simp [OutputBuffer.write, OutputBuffer.capacity, length_gray h.whole, hl]
  simp only [Parameters.write, ho, hw, bind, Except.bind, pure, Except.pure]
  simp [Parameters.setOutput, slots, Command.graySlot, Slot.setOutput]

theorem writeOutputs_slots {config : Config} {image : Bytes} {bundle gray : OutputBuffer}
    (h : Fits config image bundle gray) (b : Bundle) :
    writeOutputs ⟨b, Grayscale.gray image⟩ (slots image bundle gray) =
      (.ok (), slots image ⟨b.encode ++ bundle.contents.drop 168, 168⟩
        ⟨Grayscale.gray image, image.length⟩) := by
  simp only [writeOutputs, write_bundle h, write_gray h]

end AttestedImaging.Invocation
