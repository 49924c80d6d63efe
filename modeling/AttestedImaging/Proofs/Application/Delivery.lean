import AttestedImaging.Proofs.Application.Sessions
import AttestedImaging.Proofs.Bundle

/-!
# What a successful invocation delivers

Whatever the provider does: after a success the outputs hold the gray image and the bundle, and the
bundle holds byte for byte what the provider answered to the four calls that ask it for bytes.
-/

namespace AttestedImaging

namespace Call

/-- A call that asks for bytes, with its answer. -/
def computed? : Call → Option (Computation × Except ProviderError Bytes)
  | .compute request answer => some (request, answer)
  | .allocate _ _ | .release _ => none

@[simp] theorem computed_releases (holdings : List Holding) :
    (releases holdings).filterMap computed? = [] := by
  simp [releases, computed?]

end Call

namespace Attestation

theorem OperationEnds.computed {n : Nat} {request : Allocation} {call : Handle → Computation}
    {calls : List Call} {value : Fixed n} (h : OperationEnds n request call calls (.ok value)) :
    ∃ o, calls.filterMap Call.computed? = [(call o, .ok value.bytes)] := by
  cases h with
  | done o => exact ⟨o, rfl⟩

theorem KeyEnds.computed {policy : KeyPolicy} {held : Option Handle} {calls : List Call}
    {outcome : Except Failure Handle} (h : KeyEnds policy held calls outcome) :
    calls.filterMap Call.computed? = [] := by
  cases h with
  | reused => rfl
  | refused e => simp [Call.computed?]
  | made k => simp [Call.computed?]

theorem ComponentEnds.computed {key : Handle} {which : Coordinate} {calls : List Call}
    {value : Component} (h : ComponentEnds key which calls (.ok value)) :
    calls.filterMap Call.computed? = [(.coordinate key which, .ok value.bytes)] := by
  cases h with
  | done => rfl

theorem Ends.computed {policy : KeyPolicy} {image : Bytes} {held key : Option Handle}
    {calls : List Call} {b : Bundle} (h : Ends policy image held calls (.ok b) key) :
    ∃ o k o', key = some k ∧ calls.filterMap Call.computed? =
      [(.digest o image, .ok b.digest.bytes), (.coordinate k .x, .ok b.x.bytes),
       (.coordinate k .y, .ok b.y.bytes), (.sign o' b.digest.bytes, .ok b.signature.bytes)] := by
  cases h with
  | @done c₁ c₂ c₃ c₄ c₅ digest k x y signature h₁ h₂ h₃ h₄ h₅ =>
    obtain ⟨o, ho⟩ := h₁.computed
    obtain ⟨o', ho'⟩ := h₅.computed
    refine ⟨o, k, o', rfl, ?_⟩
    simp only [List.filterMap_append, ho, h₂.computed, h₃.computed, h₄.computed, ho']
    rfl

end Attestation

/-- The slots before and after an invocation that attests the image by the bundle. -/
structure Parameters.Delivered (ps ps' : Parameters) (image : Bytes) (b : Bundle) : Prop where
  input : ps[0] = .memrefInput image
  gray : ps'[2] = .memrefOutput ⟨Grayscale.gray image, image.length⟩
  bundle : ∃ before after : OutputBuffer, ps[1] = .memrefOutput before ∧
    ps'[1] = .memrefOutput after ∧ after.size = 168 ∧ after.contents.take 168 = b.encode ∧
    after.contents.drop 168 = before.contents.drop 168 ∧ Bundle.decode after.contents = .ok b
  rest : ps'[0] = ps[0] ∧ ps'[3] = ps[3]

theorem Invocation.delivered_slots (image : Bytes) (bundle gray : OutputBuffer) (b : Bundle) :
    (slots image bundle gray).Delivered (slots image ⟨b.encode ++ bundle.contents.drop 168, 168⟩
      ⟨Grayscale.gray image, image.length⟩) image b where
  input := rfl
  gray := rfl
  bundle := ⟨bundle, ⟨b.encode ++ bundle.contents.drop 168, 168⟩, rfl, rfl, rfl,
    List.take_left' b.length_encode, List.drop_left' b.length_encode, b.decode_encode_append _⟩
  rest := ⟨rfl, rfl⟩

namespace Application

open Invocation (slots)

variable {σ : Type}

/-- A success leaves the gray image in slot 2 and a bundle in front of slot 1, made of what the provider
answered in this invocation. -/
theorem invoke_delivers {P : Provider σ} {a a' : Application σ} {number : Nat} {command : UInt32}
    {ps ps' : Parameters} (h : a.invoke P number command ps = (some (.ok, ps'), a')) :
    ∃ session calls image b o k o', a.session? number = some session ∧
      a.device.After P calls a'.device ∧
      calls.filterMap Call.computed? =
        [(.digest o (Grayscale.gray image), .ok b.digest.bytes),
         (.coordinate k .x, .ok b.x.bytes), (.coordinate k .y, .ok b.y.bytes),
         (.sign o' b.digest.bytes, .ok b.signature.bytes)] ∧
      ps.Delivered ps' image b ∧
      ∃ context, a'.session? number = some { session with context } ∧ context.result = some b := by
  obtain ⟨session, image, bundle, gray, calls, b, key, hsession, rfl, -, he, hd, hkept, rfl⟩ :=
    invoke_ok h
  obtain ⟨o, k, o', -, hcomputed⟩ := he.computed
  refine ⟨session, _, image, b, o, k, o', hsession, hd, ?_,
    Invocation.delivered_slots image bundle gray b, _, hkept, rfl⟩
  simpa using hcomputed

/-- A provider without keys, which always answers the parts of this bundle. -/
def constantProvider (b : Bundle) : Provider Unit where
  kind := "constant"
  allocate _ s := (.ok ⟨7⟩, s)
  compute request s := match request with
    | .digest _ _ => (.ok b.digest.bytes, s)
    | .coordinate _ .x => (.ok b.x.bytes, s)
    | .coordinate _ .y => (.ok b.y.bytes, s)
    | .sign _ _ => (.ok b.signature.bytes, s)
  release _ s := (true, s)

def shortBundle : Bundle := ⟨.ofNat 32 1, .ofNat 64 2, ⟨[3], by decide⟩, ⟨[4, 0], by decide⟩⟩

/-- An application with one session, whose provider answers the parts of `shortBundle`. -/
def shortApplication : Application Unit :=
  (run (constantProvider shortBundle) [.openSession Kinds.allAbsent]
    (create (constantProvider shortBundle) {} none ())).2

/-- Coordinates of one and two bytes arrive as they were answered. -/
theorem invoke_delivers_short :
    ∃ ps', (shortApplication.invoke (constantProvider shortBundle) 0 0 (slots [1, 2, 3]
        (.ofContents (List.replicate 170 9)) (.ofContents [0, 0, 0]))).1 = some (.ok, ps') ∧
      (slots [1, 2, 3] (.ofContents (List.replicate 170 9)) (.ofContents [0, 0, 0])).Delivered ps'
        [1, 2, 3] shortBundle := by
  have hok : (shortApplication.invoke (constantProvider shortBundle) 0 0 (slots [1, 2, 3]
      (.ofContents (List.replicate 170 9)) (.ofContents [0, 0, 0]))).1.map Prod.fst = some .ok := by
    decide +kernel
  have hresult : ((shortApplication.invoke (constantProvider shortBundle) 0 0 (slots [1, 2, 3]
      (.ofContents (List.replicate 170 9)) (.ofContents [0, 0, 0]))).2.session? 0).bind
      (·.context.result) = some shortBundle := by
    decide +kernel
  obtain ⟨⟨status, ps'⟩, hps', rfl⟩ := Option.map_eq_some_iff.mp hok
  obtain ⟨session, calls, image, b, o, k, o', -, -, -, hdelivered, context, hkept, hb⟩ :=
    invoke_delivers (Prod.ext hps' rfl)
  obtain rfl : [1, 2, 3] = image := Slot.memrefInput.inj hdelivered.input
  rw [hkept] at hresult
  obtain rfl : b = shortBundle := Option.some.inj (hb.symm.trans hresult)
  exact ⟨ps', hps', hdelivered⟩

end Application

end AttestedImaging
