import AttestedImaging.Proofs.Invocation.Course

/-!
# The status of an invocation

A request is refused for its parameters alone. Otherwise the first call that fails decides the
status, and if none does all goes well: after the checks, neither making the image gray nor writing
the outputs can fail.
-/

namespace AttestedImaging

open Call (FirstFailing)

/-! ## The first failure of an attestation -/

namespace Attestation

def failureOf {α : Type} : Except Failure α → Option Failure
  | .error f => some f
  | .ok _ => none

theorem OperationEnds.failure {n : Nat} {request : Allocation} {call : Handle → Computation}
    {calls : List Call} {outcome : Except Failure (Fixed n)}
    (h : OperationEnds n request call calls outcome) :
    calls.findSome? Call.failure? = failureOf outcome := by
  cases h with
  | refused e => rfl
  | failed h answer f hf => simp [List.findSome?_cons, hf, failureOf]
  | done h value hf => simp [hf, failureOf]

theorem KeyEnds.failure {policy : KeyPolicy} {held : Option Handle} {calls : List Call}
    {outcome : Except Failure Handle} (h : KeyEnds policy held calls outcome) :
    calls.findSome? Call.failure? = failureOf outcome := by
  cases h with
  | reused k _ _ => rfl
  | refused e _ => simp [List.findSome?_append, Call.failure?, failureOf]
  | made k _ => simp [List.findSome?_append, failureOf]

theorem ComponentEnds.failure {key : Handle} {which : Coordinate} {calls : List Call}
    {outcome : Except Failure Component} (h : ComponentEnds key which calls outcome) :
    calls.findSome? Call.failure? = failureOf outcome := by
  cases h with
  | failed answer f hf => simp [hf, failureOf]
  | done value hf => simp [hf, failureOf]

theorem Ends.failure {policy : KeyPolicy} {image : Bytes} {held key : Option Handle}
    {calls : List Call} {outcome : Except Failure Bundle}
    (h : Ends policy image held calls outcome key) :
    calls.findSome? Call.failure? = failureOf outcome := by
  cases h with
  | noDigest h₁ => exact h₁.failure
  | noKey h₁ h₂ => simp [List.findSome?_append, h₁.failure, h₂.failure, failureOf]
  | noX h₁ h₂ h₃ => simp [List.findSome?_append, h₁.failure, h₂.failure, h₃.failure, failureOf]
  | noY h₁ h₂ h₃ h₄ =>
    simp [List.findSome?_append, h₁.failure, h₂.failure, h₃.failure, h₄.failure, failureOf]
  | noSignature h₁ h₂ h₃ h₄ h₅ =>
    simp [List.findSome?_append, h₁.failure, h₂.failure, h₃.failure, h₄.failure, h₅.failure,
      failureOf]
  | done h₁ h₂ h₃ h₄ h₅ =>
    simp [List.findSome?_append, h₁.failure, h₂.failure, h₃.failure, h₄.failure, h₅.failure,
      failureOf]

/-! ## The order of the calls -/

def keyKinds (policy : KeyPolicy) (held : Option Handle) : List CallKind :=
  if policy = .perSession ∧ held ≠ none then [] else [.generateKey]

/-- The kinds of the calls of an attestation that goes well. -/
def pipeline (policy : KeyPolicy) (held : Option Handle) : List CallKind :=
  [.allocateDigest, .digest] ++ keyKinds policy held ++ [.coordinate] ++ [.coordinate] ++
    [.allocateSign, .sign]

theorem OperationEnds.kinds {n : Nat} {request : Allocation} {call : Handle → Computation}
    {kind : CallKind} (hkind : ∀ h, (call h).callKind = kind) {calls : List Call}
    {outcome : Except Failure (Fixed n)} (h : OperationEnds n request call calls outcome) :
    calls.filterMap Call.kind? <+: [request.callKind, kind] ∧
      (failureOf outcome = none → calls.filterMap Call.kind? = [request.callKind, kind]) := by
  cases h with
  | refused e => simp [Call.kind?, failureOf]
  | failed h answer f hf => simp [Call.kind?, hkind]
  | done h value hf => simp [Call.kind?, hkind]

theorem kinds_digest {image : Bytes} {calls : List Call} {outcome : Except Failure Digest}
    (h : OperationEnds 32 .digest (.digest · image) calls outcome) :
    calls.filterMap Call.kind? <+: [.allocateDigest, .digest] ∧
      (failureOf outcome = none → calls.filterMap Call.kind? = [.allocateDigest, .digest]) := by
  have hkind : ∀ h, (Computation.digest h image).callKind = .digest := fun _ => rfl
  exact h.kinds hkind

theorem kinds_signature {key : Handle} {digest : Bytes} {calls : List Call}
    {outcome : Except Failure Signature}
    (h : OperationEnds 64 (.sign key) (.sign · digest) calls outcome) :
    calls.filterMap Call.kind? <+: [.allocateSign, .sign] ∧
      (failureOf outcome = none → calls.filterMap Call.kind? = [.allocateSign, .sign]) := by
  have hkind : ∀ h, (Computation.sign h digest).callKind = .sign := fun _ => rfl
  exact h.kinds hkind

theorem KeyEnds.kinds {policy : KeyPolicy} {held : Option Handle} {calls : List Call}
    {outcome : Except Failure Handle} (h : KeyEnds policy held calls outcome) :
    calls.filterMap Call.kind? = keyKinds policy held := by
  cases h with
  | reused k hp hk => simp [keyKinds, hp, hk]
  | refused e hn => simp [keyKinds, Call.kind?, Allocation.callKind]; exact hn
  | made k hn => simp [keyKinds, Call.kind?, Allocation.callKind]; exact hn

theorem ComponentEnds.kinds {key : Handle} {which : Coordinate} {calls : List Call}
    {outcome : Except Failure Component} (h : ComponentEnds key which calls outcome) :
    calls.filterMap Call.kind? = [.coordinate] := by
  cases h <;> rfl

/-- The calls come in the order of the pipeline, and there are all of them if none fails. -/
theorem Ends.kinds {policy : KeyPolicy} {image : Bytes} {held key : Option Handle}
    {calls : List Call} {outcome : Except Failure Bundle}
    (h : Ends policy image held calls outcome key) :
    calls.filterMap Call.kind? <+: pipeline policy held ∧
      (failureOf outcome = none → calls.filterMap Call.kind? = pipeline policy held) := by
  cases h with
  | noDigest h₁ =>
    refine ⟨(kinds_digest h₁).1.trans ?_, by simp [failureOf]⟩
    simp [pipeline]
  | noKey h₁ h₂ => simp [pipeline, (kinds_digest h₁).2 rfl, h₂.kinds, failureOf]
  | noX h₁ h₂ h₃ => simp [pipeline, (kinds_digest h₁).2 rfl, h₂.kinds, h₃.kinds, failureOf]
  | noY h₁ h₂ h₃ h₄ =>
    simp [pipeline, (kinds_digest h₁).2 rfl, h₂.kinds, h₃.kinds, h₄.kinds, failureOf]
  | noSignature h₁ h₂ h₃ h₄ h₅ =>
    simpa [pipeline, (kinds_digest h₁).2 rfl, h₂.kinds, h₃.kinds, h₄.kinds, failureOf] using
      (kinds_signature h₅).1
  | done h₁ h₂ h₃ h₄ h₅ =>
    simp [pipeline, (kinds_digest h₁).2 rfl, h₂.kinds, h₃.kinds, h₄.kinds, (kinds_signature h₅).2 rfl,
      failureOf]

end Attestation

/-! ## The status -/

theorem Attestation.Ends.between {policy : KeyPolicy} {image : Bytes} {held key : Option Handle}
    {calls : List Call} {outcome : Except Failure Bundle}
    (h : Ends policy image held calls outcome key) (before after : List Holding) :
    (Call.releases before ++ calls ++ Call.releases after).findSome? Call.failure? =
        failureOf outcome ∧
      (Call.releases before ++ calls ++ Call.releases after).filterMap Call.kind? =
        calls.filterMap Call.kind? := by
  constructor
  · simp [List.findSome?_append, h.failure]
  · simp

/-- The first of the calls that fails decides the status. -/
structure DecidedBy (calls : List Call) (status : Status) : Prop where
  outOfResources : status = .outOfResources ↔ ∃ c, FirstFailing calls c ∧ c.Exhausted
  cryptoFailure : status = .cryptoFailure ↔ ∃ c, FirstFailing calls c ∧ ¬ c.Exhausted
  ok : status = .ok ↔ ∀ c ∈ calls, ¬ c.Fails

theorem DecidedBy.of_some {calls : List Call} {f : Failure}
    (h : calls.findSome? Call.failure? = some f) : DecidedBy calls f.status := by
  obtain ⟨c, hc, hf⟩ := (Call.findSome?_eq_some_iff calls f).mp h
  -- Two calls that are first to fail bring the same failure, so it does not matter which is named.
  have hsame : ∀ c', FirstFailing calls c' →
      (f.status = .outOfResources ↔ c'.Exhausted) ∧ (f.status = .cryptoFailure ↔ ¬ c'.Exhausted) := by
    intro c' hc'
    obtain ⟨f', hf'⟩ := Option.ne_none_iff_exists'.mp fun hn =>
      (Call.failure?_eq_none_iff c').mp hn hc'.fails
    have := (Call.findSome?_eq_some_iff calls f').mpr ⟨c', hc', hf'⟩
    rw [h, Option.some.injEq] at this
    subst this
    exact Call.failure?_status hf'
  constructor
  · constructor
    · intro hs
      exact ⟨c, hc, (hsame c hc).1.mp hs⟩
    · rintro ⟨c', hc', he⟩
      exact (hsame c' hc').1.mpr he
  · constructor
    · intro hs
      exact ⟨c, hc, (hsame c hc).2.mp hs⟩
    · rintro ⟨c', hc', he⟩
      exact (hsame c' hc').2.mpr he
  · constructor
    · intro hs
      exact absurd hs f.status_ne_ok
    · intro hall
      exact absurd hc.fails (hall c hc.mem)

theorem DecidedBy.of_none {calls : List Call} (h : calls.findSome? Call.failure? = none) :
    DecidedBy calls .ok := by
  have hall := (Call.findSome?_eq_none_iff calls).mp h
  have hnone : ¬ ∃ c, FirstFailing calls c := fun ⟨c, hc⟩ => hall c hc.mem hc.fails
  constructor
  · exact ⟨nofun, fun ⟨c, hc, _⟩ => absurd ⟨c, hc⟩ hnone⟩
  · exact ⟨nofun, fun ⟨c, hc, _⟩ => absurd ⟨c, hc⟩ hnone⟩
  · exact ⟨fun _ => hall, fun _ => rfl⟩

namespace Invocation

open Attestation (pipeline)
open Grayscale (convert_of_whole)

variable {σ : Type}

/-- A request is refused for its parameters, or else the first call of the pipeline that fails decides the
status. -/
theorem run_status (P : Provider σ) (config : Config) (id command : UInt32) (v : Visit σ) :
    ((run P config id command v).1 = .badParameters ↔ Refused config command v.parameters) ∧
      ∃ calls, v.scene.device.After P calls (run P config id command v).2.scene.device ∧
        (¬ Refused config command v.parameters →
          calls.filterMap Call.kind? <+: pipeline config.keyPolicy v.scene.context.key ∧
          ((run P config id command v).1 = .ok →
            calls.filterMap Call.kind? = pipeline config.keyPolicy v.scene.context.key) ∧
          DecidedBy calls (run P config id command v).1 ∧
          ∃ image bundle gray, v.parameters = slots image bundle gray ∧
            Grayscale.convert image = .ok (Grayscale.gray image) ∧
            ∀ b, (writeOutputs ⟨b, Grayscale.gray image⟩ v.parameters).1 = .ok ()) := by
  have h := run_course P config id command v
  generalize (run P config id command v).1 = status at h ⊢
  generalize (run P config id command v).2 = v' at h ⊢
  cases h with
  | rejected hr hd hc hp hs =>
    have hrefused : Refused config command v.parameters := refused_of_not_recognised hr
    exact ⟨⟨fun _ => hrefused, fun _ => rfl⟩, [], hd, fun hn => absurd hrefused hn⟩
  | @recognised image bundle gray status hcommand hslots h =>
    subst hcommand
    rw [hslots]
    cases h with
    | misfit hf hd =>
      have hrefused := (refused_slots_iff config image bundle gray).mpr hf
      exact ⟨⟨fun _ => hrefused, fun _ => rfl⟩, [], hd, fun hn => absurd hrefused hn⟩
    | failed calls f key hf he hd =>
      -- Releases do not fail, so the failure is that of the attestation.
      obtain ⟨hfailure, hkinds⟩ := he.between (Holding.ofOperation v.scene.context.operation)
        (Holding.ofKey key)
      obtain ⟨c, _, hcf⟩ := (Call.findSome?_eq_some_iff _ f).mp hfailure
      refine ⟨⟨fun hb => absurd hb (Call.failure?_status_ne hcf), fun hr => absurd hr hf.not_refused⟩,
        _, hd, fun _ => ⟨hkinds ▸ he.kinds.1, fun hok => absurd hok f.status_ne_ok,
          .of_some hfailure, image, bundle, gray, rfl, convert_of_whole hf.whole, fun b => ?_⟩⟩
      rw [writeOutputs_slots hf]
    | succeeded calls b key hf he hd =>
      obtain ⟨hfailure, hkinds⟩ := he.between (Holding.ofOperation v.scene.context.operation)
        (Holding.ofKey (config.keyPolicy.retired key))
      refine ⟨⟨nofun, fun hr => absurd hr hf.not_refused⟩, _, hd, fun _ => ⟨hkinds ▸ he.kinds.1,
        fun _ => hkinds ▸ he.kinds.2 rfl, .of_none hfailure, image, bundle, gray, rfl,
        convert_of_whole hf.whole, fun b => ?_⟩⟩
      rw [writeOutputs_slots hf]

end Invocation

end AttestedImaging
