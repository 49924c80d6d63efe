import AttestedImaging.Attestation
import AttestedImaging.Proofs.Calls
import AttestedImaging.Proofs.Device

/-!
# How making an attestation can end

For each part of it: the calls that it makes, what it answers, and the context that it leaves. The
calls depend on the provider only through its answers. `attest_ends` puts the parts together, and
everything else about an attestation follows from it.
-/

namespace AttestedImaging

variable {σ : Type}

/-! ## Giving up -/

theorem Scene.endOperation_ends (P : Provider σ) (s : Scene σ) :
    ∃ device, s.device.After P (Call.releases (Holding.ofOperation s.context.operation)) device ∧
      s.endOperation P = ⟨device, { s.context with operation := none }⟩ := by
  rcases s with ⟨device, ⟨_ | h, key, result, completed⟩⟩
  · exact ⟨device, .refl _, rfl⟩
  · exact ⟨_, Device.after_drop P (.operation h) device, rfl⟩

theorem Scene.releaseKey_ends (P : Provider σ) (s : Scene σ) :
    ∃ device, s.device.After P (Call.releases (Holding.ofKey s.context.key)) device ∧
      s.releaseKey P = ⟨device, { s.context with key := none }⟩ := by
  rcases s with ⟨device, ⟨operation, _ | h, result, completed⟩⟩
  · exact ⟨device, .refl _, rfl⟩
  · exact ⟨_, Device.after_drop P (.key h) device, rfl⟩

theorem Scene.releaseAll_ends (P : Provider σ) (s : Scene σ) :
    ∃ device, s.device.After P (Call.releases (Holding.ofOperation s.context.operation) ++
        Call.releases (Holding.ofKey s.context.key)) device ∧
      s.releaseAll P = ⟨device, { s.context with operation := none, key := none }⟩ := by
  obtain ⟨d, hd, he⟩ := s.endOperation_ends P
  obtain ⟨d', hd', he'⟩ := (s.endOperation P).releaseKey_ends P
  rw [he] at hd' he'
  refine ⟨d', hd.trans hd', ?_⟩
  rw [releaseAll, he, he']

@[simp] theorem mapError_ok {ε ε' α : Type} (f : ε → ε') (a : α) :
    (Except.ok a : Except ε α).mapError f = .ok a := rfl

@[simp] theorem mapError_error {ε ε' α : Type} (f : ε → ε') (e : ε) :
    (Except.error e : Except ε α).mapError f = .error (f e) := rfl

namespace Attestation

/-! ## Operations -/

theorem beginOperation_ends (P : Provider σ) (request : Allocation) (s : Scene σ) :
    ∃ answer device, s.device.After P
        (Call.releases (Holding.ofOperation s.context.operation) ++ [.allocate request answer]) device ∧
      beginOperation P request s = match answer with
        | .ok h => (.ok h, ⟨device, { s.context with operation := some h }⟩)
        | .error e => (.error (.ofProvider e), ⟨device, { s.context with operation := none }⟩) := by
  obtain ⟨d, hd, he⟩ := s.endOperation_ends P
  have ha := Device.after_allocate P request d
  rcases hr : d.allocate P request with ⟨answer, d'⟩
  rw [hr] at ha
  refine ⟨answer, d', hd.trans ha, ?_⟩
  cases answer <;> simp [beginOperation, Work.allocate, he, hr]

inductive OperationCalls (request : Allocation) (call : Handle → Computation) :
    List Call → Except ProviderError Bytes → Prop
  | refused (e : ProviderError) : OperationCalls request call [.allocate request (.error e)] (.error e)
  | answered (h : Handle) (answer : Except ProviderError Bytes) : OperationCalls request call
      [.allocate request (.ok h), .compute (call h) answer, .release (.operation h)] answer

theorem useOperation_ends (P : Provider σ) (request : Allocation) (call : Handle → Computation)
    (s : Scene σ) :
    ∃ calls answer device, OperationCalls request call calls answer ∧
      s.device.After P (Call.releases (Holding.ofOperation s.context.operation) ++ calls) device ∧
      useOperation P request call s =
        (answer.mapError .ofProvider, ⟨device, { s.context with operation := none }⟩) := by
  obtain ⟨answer, d, hd, hb⟩ := beginOperation_ends P request s
  cases answer with
  | error e => exact ⟨_, _, d, .refused e, hd, by simp [useOperation, hb]⟩
  | ok h =>
    have hc := Device.after_compute P (call h) d
    rcases hr : d.compute P (call h) with ⟨answer, d'⟩
    rw [hr] at hc
    have hdrop := Device.after_drop P (.operation h) d'
    refine ⟨_, answer, d'.drop P (.operation h), .answered h answer, ?_, ?_⟩
    · simpa using (hd.trans hc).trans hdrop
    · cases answer <;> simp [useOperation, hb, Work.compute, hr, Scene.endOperation]

/-- How an operation can end that has to answer `n` bytes. -/
inductive OperationEnds (n : Nat) (request : Allocation) (call : Handle → Computation) :
    List Call → Except Failure (Fixed n) → Prop
  | refused (e : ProviderError) :
      OperationEnds n request call [.allocate request (.error e)] (.error (.ofProvider e))
  | failed (h : Handle) (answer : Except ProviderError Bytes) (f : Failure)
      (hf : (Call.compute (call h) answer).failure? = some f) : OperationEnds n request call
        [.allocate request (.ok h), .compute (call h) answer, .release (.operation h)] (.error f)
  | done (h : Handle) (value : Fixed n)
      (hf : (Call.compute (call h) (.ok value.bytes)).failure? = none) :
      OperationEnds n request call
        [.allocate request (.ok h), .compute (call h) (.ok value.bytes), .release (.operation h)]
        (.ok value)

theorem exactly_ends (P : Provider σ) (n : Nat) (request : Allocation) (call : Handle → Computation)
    (fault : Nat → CryptoFault)
    (hfault : ∀ h bytes, (Call.compute (call h) (.ok bytes)).failure? =
      if bytes.length = n then none else some (.cryptoFailure (fault bytes.length)))
    (s : Scene σ) :
    ∃ calls outcome device, OperationEnds n request call calls outcome ∧
      s.device.After P (Call.releases (Holding.ofOperation s.context.operation) ++ calls) device ∧
      (useOperation P request call >>= exactly n fault) s =
        (outcome, ⟨device, { s.context with operation := none }⟩) := by
  obtain ⟨calls, answer, d, hcalls, hd, hu⟩ := useOperation_ends P request call s
  cases hcalls with
  | refused e => exact ⟨_, _, d, .refused e, hd, by simp [hu]⟩
  | answered h =>
    cases answer with
    | error e => exact ⟨_, _, d, .failed h _ _ rfl, hd, by simp [hu]⟩
    | ok bytes =>
      by_cases hl : bytes.length = n
      · exact ⟨_, _, d, .done h ⟨bytes, hl⟩ (by simp [hfault, hl]), hd,
          by simp [hu, exactly, Fixed.ofBytes?, hl]⟩
      · exact ⟨_, _, d, .failed h _ _ (by rw [hfault, if_neg hl]), hd,
          by simp [hu, exactly, Fixed.ofBytes?, hl]⟩

theorem digest_ends (P : Provider σ) (data : Bytes) (s : Scene σ) :
    ∃ calls outcome device, OperationEnds 32 .digest (.digest · data) calls outcome ∧
      s.device.After P (Call.releases (Holding.ofOperation s.context.operation) ++ calls) device ∧
      digest P data s = (outcome, ⟨device, { s.context with operation := none }⟩) :=
  exactly_ends P 32 .digest (.digest · data) .digestLength (fun _ _ => rfl) s

theorem signature_ends (P : Provider σ) (key : Handle) (digest : Digest) (s : Scene σ) :
    ∃ calls outcome device,
      OperationEnds 64 (.sign key) (.sign · digest.bytes) calls outcome ∧
      s.device.After P (Call.releases (Holding.ofOperation s.context.operation) ++ calls) device ∧
      signature P key digest s = (outcome, ⟨device, { s.context with operation := none }⟩) :=
  exactly_ends P 64 (.sign key) (.sign · digest.bytes) .signatureLength (fun _ _ => rfl) s

/-! ## Key and coordinates -/

/-- How it can end to make a key ready in a session that holds `held`. -/
inductive KeyEnds (policy : KeyPolicy) (held : Option Handle) :
    List Call → Except Failure Handle → Prop
  | reused (k : Handle) (hp : policy = .perSession) (hk : held = some k) :
      KeyEnds policy held [] (.ok k)
  | refused (e : ProviderError) (hn : policy = .perSession → held = none) : KeyEnds policy held
      (Call.releases (Holding.ofKey held) ++ [.allocate .key (.error e)]) (.error (.ofProvider e))
  | made (k : Handle) (hn : policy = .perSession → held = none) : KeyEnds policy held
      (Call.releases (Holding.ofKey held) ++ [.allocate .key (.ok k)]) (.ok k)

theorem makeKey_ends (P : Provider σ) (s : Scene σ) :
    ∃ answer device, s.device.After P
        (Call.releases (Holding.ofKey s.context.key) ++ [.allocate .key answer]) device ∧
      makeKey P s =
        (answer.mapError .ofProvider, ⟨device, { s.context with key := answer.toOption }⟩) := by
  obtain ⟨d, hd, he⟩ := s.releaseKey_ends P
  have ha := Device.after_allocate P .key d
  rcases hc : d.allocate P .key with ⟨answer, d'⟩
  rw [hc] at ha
  cases answer with
  | error e =>
    refine ⟨.error e, d', hd.trans ha, ?_⟩
    simp [makeKey, he, Work.allocate, hc, Except.toOption]
  | ok k =>
    refine ⟨.ok k, d'.log (.keyGenerated k), (hd.trans ha).log _, ?_⟩
    simp [makeKey, he, Work.allocate, hc, installKey, Scene.log, Except.toOption]

theorem keyFor_ends (P : Provider σ) (policy : KeyPolicy) (s : Scene σ) :
    ∃ calls outcome device, KeyEnds policy s.context.key calls outcome ∧
      s.device.After P calls device ∧
      keyFor P policy s = (outcome, ⟨device, { s.context with key := outcome.toOption }⟩) := by
  by_cases hr : policy = .perSession ∧ s.context.key ≠ none
  · obtain ⟨rfl, hk⟩ := hr
    obtain ⟨k, hk⟩ := Option.ne_none_iff_exists'.mp hk
    have hs : { s.context with key := some k } = s.context := by rw [← hk]
    refine ⟨[], .ok k, s.device.log (.keyReused k), .reused k rfl hk, (Device.After.refl _).log _, ?_⟩
    simp [keyFor, hk, hs, Scene.log, Except.toOption]
  · have hn : policy = .perSession → s.context.key = none := fun hp =>
      Decidable.byContradiction fun hk => hr ⟨hp, hk⟩
    have hmake : keyFor P policy s = makeKey P s := by
      unfold keyFor
      cases policy with
      | perInvocation => rfl
      | perSession => simp [hn rfl]
    obtain ⟨answer, d, hd, he⟩ := makeKey_ends P s
    rw [hmake, he]
    cases answer with
    | error e => exact ⟨_, _, d, .refused e hn, hd, rfl⟩
    | ok k => exact ⟨_, _, d, .made k hn, hd, rfl⟩

inductive ComponentEnds (key : Handle) (which : Coordinate) :
    List Call → Except Failure Component → Prop
  | failed (answer : Except ProviderError Bytes) (f : Failure)
      (hf : (Call.compute (.coordinate key which) answer).failure? = some f) :
      ComponentEnds key which [.compute (.coordinate key which) answer] (.error f)
  | done (value : Component)
      (hf : (Call.compute (.coordinate key which) (.ok value.bytes)).failure? = none) :
      ComponentEnds key which [.compute (.coordinate key which) (.ok value.bytes)] (.ok value)

theorem component_ends (P : Provider σ) (key : Handle) (which : Coordinate) (s : Scene σ) :
    ∃ calls outcome device, ComponentEnds key which calls outcome ∧
      s.device.After P calls device ∧
      component P key which s = (outcome, ⟨device, s.context⟩) := by
  have hc := Device.after_compute P (.coordinate key which) s.device
  rcases hr : s.device.compute P (.coordinate key which) with ⟨answer, d⟩
  rw [hr] at hc
  rcases answer with e | _ | ⟨b, rest⟩
  · exact ⟨_, _, d, .failed _ _ rfl, hc, by simp [component, Work.compute, hr]⟩
  · exact ⟨_, _, d, .failed _ _ rfl, hc, by simp [component, Work.compute, hr]⟩
  · by_cases hl : (b :: rest).length ≤ 32
    · exact ⟨_, _, d, .done ⟨b :: rest, hl⟩ (by rw [Call.failure?, if_neg (by simp), if_pos hl]), hc,
        by simp only [component, Work.bind_apply, Work.compute, hr, Component.ofBytes?, dif_pos hl,
          Work.pure_apply]⟩
    · exact ⟨_, _, d, .failed _ _ (by rw [Call.failure?, if_neg (by simp), if_neg hl]), hc,
        by simp only [component, Work.bind_apply, Work.compute, hr, Component.ofBytes?, dif_neg hl,
          Work.fail_apply]⟩

/-! ## The whole -/

/-- How an attestation can end in a session that holds the key `held`, and the key that the session
holds then. -/
inductive Ends (policy : KeyPolicy) (image : Bytes) (held : Option Handle) :
    List Call → Except Failure Bundle → Option Handle → Prop
  | noDigest {c₁ : List Call} {f : Failure}
      (h₁ : OperationEnds 32 .digest (.digest · image) c₁ (.error f)) :
      Ends policy image held c₁ (.error f) held
  | noKey {c₁ c₂ : List Call} {digest : Digest} {f : Failure}
      (h₁ : OperationEnds 32 .digest (.digest · image) c₁ (.ok digest))
      (h₂ : KeyEnds policy held c₂ (.error f)) :
      Ends policy image held (c₁ ++ c₂) (.error f) none
  | noX {c₁ c₂ c₃ : List Call} {digest : Digest} {k : Handle} {f : Failure}
      (h₁ : OperationEnds 32 .digest (.digest · image) c₁ (.ok digest))
      (h₂ : KeyEnds policy held c₂ (.ok k)) (h₃ : ComponentEnds k .x c₃ (.error f)) :
      Ends policy image held (c₁ ++ c₂ ++ c₃) (.error f) (some k)
  | noY {c₁ c₂ c₃ c₄ : List Call} {digest : Digest} {k : Handle} {x : Component} {f : Failure}
      (h₁ : OperationEnds 32 .digest (.digest · image) c₁ (.ok digest))
      (h₂ : KeyEnds policy held c₂ (.ok k)) (h₃ : ComponentEnds k .x c₃ (.ok x))
      (h₄ : ComponentEnds k .y c₄ (.error f)) :
      Ends policy image held (c₁ ++ c₂ ++ c₃ ++ c₄) (.error f) (some k)
  | noSignature {c₁ c₂ c₃ c₄ c₅ : List Call} {digest : Digest} {k : Handle} {x y : Component}
      {f : Failure}
      (h₁ : OperationEnds 32 .digest (.digest · image) c₁ (.ok digest))
      (h₂ : KeyEnds policy held c₂ (.ok k)) (h₃ : ComponentEnds k .x c₃ (.ok x))
      (h₄ : ComponentEnds k .y c₄ (.ok y))
      (h₅ : OperationEnds 64 (.sign k) (.sign · digest.bytes) c₅ (.error f)) :
      Ends policy image held (c₁ ++ c₂ ++ c₃ ++ c₄ ++ c₅) (.error f) (some k)
  | done {c₁ c₂ c₃ c₄ c₅ : List Call} {digest : Digest} {k : Handle} {x y : Component}
      {signature : Signature}
      (h₁ : OperationEnds 32 .digest (.digest · image) c₁ (.ok digest))
      (h₂ : KeyEnds policy held c₂ (.ok k)) (h₃ : ComponentEnds k .x c₃ (.ok x))
      (h₄ : ComponentEnds k .y c₄ (.ok y))
      (h₅ : OperationEnds 64 (.sign k) (.sign · digest.bytes) c₅ (.ok signature)) :
      Ends policy image held (c₁ ++ c₂ ++ c₃ ++ c₄ ++ c₅) (.ok ⟨digest, signature, x, y⟩) (some k)

/-- What an attestation leaves of the context, if the session holds `key` after it. -/
def leaves (outcome : Except Failure Bundle) (key : Option Handle) (c : Context) : Context :=
  match outcome with
  | .ok b => { operation := none, key, result := some b, completed := c.completed + 1 }
  | .error _ => { c with operation := none, key }

theorem attest_ends (P : Provider σ) (policy : KeyPolicy) (image : Bytes) (s : Scene σ) :
    ∃ calls outcome key device, Ends policy image s.context.key calls outcome key ∧
      s.device.After P (Call.releases (Holding.ofOperation s.context.operation) ++ calls) device ∧
      attest P policy image s = (outcome, ⟨device, leaves outcome key s.context⟩) := by
  -- Each part starts from the context that the parts before it left.
  obtain ⟨c₁, o₁, d₁, h₁, hd₁, e₁⟩ := digest_ends P image s
  cases o₁ with
  | error f => exact ⟨_, _, _, d₁, .noDigest h₁, hd₁, by simp [attest, e₁, leaves]⟩
  | ok digest =>
  obtain ⟨c₂, o₂, d₂, h₂, hd₂, e₂⟩ := keyFor_ends P policy
    ⟨d₁.log (.transition .computed .digested), { s.context with operation := none }⟩
  replace hd₂ := hd₁.trans hd₂.of_log
  cases o₂ with
  | error f =>
    exact ⟨_, _, _, d₂, .noKey h₁ h₂, by simpa using hd₂,
      by simp [attest, advance, Scene.log, e₁, e₂, leaves, Except.toOption]⟩
  | ok k =>
  obtain ⟨c₃, o₃, d₃, h₃, hd₃, e₃⟩ := component_ends P k .x
    ⟨d₂, { s.context with operation := none, key := some k }⟩
  replace hd₃ := hd₂.trans hd₃
  cases o₃ with
  | error f =>
    exact ⟨_, _, _, d₃, .noX h₁ h₂ h₃, by simpa using hd₃,
      by simp [attest, advance, Scene.log, e₁, e₂, e₃, leaves, Except.toOption]⟩
  | ok x =>
  obtain ⟨c₄, o₄, d₄, h₄, hd₄, e₄⟩ := component_ends P k .y
    ⟨d₃, { s.context with operation := none, key := some k }⟩
  replace hd₄ := hd₃.trans hd₄
  cases o₄ with
  | error f =>
    exact ⟨_, _, _, d₄, .noY h₁ h₂ h₃ h₄, by simpa using hd₄,
      by simp [attest, advance, Scene.log, e₁, e₂, e₃, e₄, leaves, Except.toOption]⟩
  | ok y =>
  obtain ⟨c₅, o₅, d₅, h₅, hd₅, e₅⟩ := signature_ends P k digest
    ⟨d₄, { s.context with operation := none, key := some k }⟩
  replace hd₅ := hd₄.trans hd₅
  cases o₅ with
  | error f =>
    exact ⟨_, _, _, d₅, .noSignature h₁ h₂ h₃ h₄ h₅, by simpa using hd₅,
      by simp [attest, advance, Scene.log, e₁, e₂, e₃, e₄, e₅, leaves, Except.toOption]⟩
  | ok signature =>
    exact ⟨_, _, _, _, .done h₁ h₂ h₃ h₄ h₅,
      by simpa using (hd₅.log (.transition .digested .signed)).log (.transition .signed .assembled),
      by simp [attest, advance, Scene.log, e₁, e₂, e₃, e₄, e₅, leaves, Except.toOption,
        Scene.recordResult]⟩

end Attestation

end AttestedImaging
