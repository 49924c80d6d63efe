import AttestedImaging.Proofs.Attestation.Software
import AttestedImaging.Proofs.Fault
import AttestedImaging.Proofs.Randomness

/-!
# Where the key of an attestation comes from

An attestation asks for one key at most. The key that it uses is the one that the session holds, or one
that is made from the draws that are used up for it. With the software provider it stands under its
handle when all is done.
-/

namespace AttestedImaging

/-- What a call that asks for a key was answered. -/
def Call.keyAnswer? : Call → Option (Except ProviderError Handle)
  | .allocate .key answer => some answer
  | _ => none

@[simp] theorem Call.keyAnswer?_compute (request : Computation)
    (answer : Except ProviderError Bytes) : (Call.compute request answer).keyAnswer? = none := rfl

@[simp] theorem Call.keyAnswer?_release (x : Holding) : (Call.release x).keyAnswer? = none := rfl

@[simp] theorem Call.keyAnswers_releases (holdings : List Holding) :
    (releases holdings).filterMap keyAnswer? = [] := by
  simp [releases]

theorem Call.mem_keyAnswers {calls : List Call} {answer : Except ProviderError Handle} :
    answer ∈ calls.filterMap keyAnswer? ↔ .allocate .key answer ∈ calls := by
  rw [List.mem_filterMap]
  constructor
  · rintro ⟨c, hc, hanswer⟩
    unfold keyAnswer? at hanswer
    split at hanswer
    · cases hanswer
      exact hc
    · cases hanswer
  · exact fun h => ⟨_, h, rfl⟩

/-- The coordinates are those of this key, and the signature is made with it. -/
structure Bundle.MadeWith (d : P256.Scalar) (b : Bundle) : Prop where
  x : Software.coordinate .x d = .ok b.x.bytes
  y : Software.coordinate .y d = .ok b.y.bytes
  signature : Ecdsa.sign? d b.digest.bytes = some b.signature

theorem Bundle.MadeWith.same_key {d : P256.Scalar} {b b' : Bundle} (h : b.MadeWith d)
    (h' : b'.MadeWith d) : b.x = b'.x ∧ b.y = b'.y := by
  have hcomponent : ∀ {c c' : Component} {answer : Except ProviderError Bytes},
      answer = .ok c.bytes → answer = .ok c'.bytes → c = c' := by
    rintro ⟨c, _⟩ ⟨c', _⟩ answer rfl heq
    cases heq
    rfl
  exact ⟨hcomponent h.x h'.x, hcomponent h.y h'.y⟩

namespace Attestation

theorem OperationEnds.keyAnswers {n : Nat} {request : Allocation} {call : Handle → Computation}
    {calls : List Call} {outcome : Except Failure (Fixed n)}
    (h : OperationEnds n request call calls outcome) (hrequest : request ≠ .key) :
    calls.filterMap Call.keyAnswer? = [] := by
  have hother : ∀ answer, (Call.allocate request answer).keyAnswer? = none := by
    intro answer
    cases request with
    | key => exact absurd rfl hrequest
    | digest => rfl
    | sign key => rfl
  cases h with
  | refused e => simp [hother]
  | failed o answer f hf => simp [hother]
  | done o value hf => simp [hother]

theorem ComponentEnds.keyAnswers {key : Handle} {which : Coordinate} {calls : List Call}
    {outcome : Except Failure Component} (h : ComponentEnds key which calls outcome) :
    calls.filterMap Call.keyAnswer? = [] := by
  cases h <;> rfl

theorem ComponentEnds.keys {k : Handle} {which : Coordinate} {calls : List Call}
    {outcome : Except Failure Component} (h : ComponentEnds k which calls outcome) :
    calls.filterMap Call.key? = [k] := by
  cases h <;> rfl

theorem KeyEnds.keyAnswers {policy : KeyPolicy} {held : Option Handle} {calls : List Call}
    {outcome : Except Failure Handle} (h : KeyEnds policy held calls outcome) :
    (policy = .perSession ∧ (∃ k, held = some k ∧ outcome = .ok k) ∧
      calls.filterMap Call.keyAnswer? = []) ∨
    ((policy = .perSession → held = none) ∧ ∃ answer,
      outcome = answer.mapError .ofProvider ∧ calls.filterMap Call.keyAnswer? = [answer]) := by
  cases h with
  | reused k hp hk => exact .inl ⟨hp, ⟨k, hk, rfl⟩, rfl⟩
  | refused e hn => exact .inr ⟨hn, .error e, rfl, by simp [Call.keyAnswer?]⟩
  | made k hn => exact .inr ⟨hn, .ok k, rfl, by simp [Call.keyAnswer?]⟩

theorem Ends.keyAnswers {policy : KeyPolicy} {image : Bytes} {held key : Option Handle}
    {calls : List Call} {outcome : Except Failure Bundle}
    (h : Ends policy image held calls outcome key) :
    (calls.filterMap Call.keyAnswer?).length ≤ 1 := by
  have hkey : ∀ {c : List Call} {o : Except Failure Handle}, KeyEnds policy held c o →
      (c.filterMap Call.keyAnswer?).length ≤ 1 := by
    intro c o hc
    rcases hc.keyAnswers with ⟨-, -, hnone⟩ | ⟨-, answer, -, hone⟩
    · simp [hnone]
    · simp [hone]
  cases h with
  | noDigest h₁ => simp [h₁.keyAnswers nofun]
  | noKey h₁ h₂ => simpa [h₁.keyAnswers nofun] using hkey h₂
  | noX h₁ h₂ h₃ => simpa [h₁.keyAnswers nofun, h₃.keyAnswers] using hkey h₂
  | noY h₁ h₂ h₃ h₄ =>
    simpa [h₁.keyAnswers nofun, h₃.keyAnswers, h₄.keyAnswers] using hkey h₂
  | noSignature h₁ h₂ h₃ h₄ h₅ =>
    simpa [h₁.keyAnswers nofun, h₃.keyAnswers, h₄.keyAnswers, h₅.keyAnswers nofun] using hkey h₂
  | done h₁ h₂ h₃ h₄ h₅ =>
    simpa [h₁.keyAnswers nofun, h₃.keyAnswers, h₄.keyAnswers, h₅.keyAnswers nofun] using hkey h₂

/-! ## With the software provider -/

/-- An attestation that goes well uses one key throughout, the one that was held or a new one. -/
theorem Ends.made {policy : KeyPolicy} {image : Bytes} {held key : Option Handle}
    {calls : List Call} {b : Bundle} {s t : Software}
    (h : Ends policy image held calls (.ok b) key) (hs : s.Regular)
    (ha : Software.provider.Answers s calls t)
    (hheld : ∀ k, held = some k → policy = .perSession) {d : P256.Scalar}
    (hkey : s.signingKey held = .ok d) :
    b.MadeWith d ∧ ∃ k, key = some k ∧ t.key k = .ok d ∧ calls.filterMap Call.key? = [k, k, k] ∧
      ((held = some k ∧ calls.filterMap Call.keyAnswer? = []) ∨
        (held = none ∧ calls.filterMap Call.keyAnswer? = [.ok k])) := by
  obtain ⟨-, hsign, hx, hy, -⟩ := h.attested hs ha hheld hkey
  refine ⟨⟨hx, hy, hsign⟩, ?_⟩
  cases h with
  | @done c₁ c₂ c₃ c₄ c₅ digest k x y signature h₁ h₂ h₃ h₄ h₅ =>
    obtain ⟨-, -, -, u, hk, hu, -, -, ha₅, -⟩ := signature_ready h₁ h₂ h₃ h₄ hs ha hheld hkey
    -- To sign leaves the keys as they are.
    have hpass := (h₅.signed hu ha₅ hk).1
    have hkeys : c₅.filterMap Call.key? = [k] := by
      cases h₅
      rfl
    have hanswers : (c₁ ++ c₂ ++ c₃ ++ c₄ ++ c₅).filterMap Call.keyAnswer? =
        c₂.filterMap Call.keyAnswer? := by
      simp [h₁.keyAnswers nofun, h₃.keyAnswers, h₄.keyAnswers, h₅.keyAnswers nofun]
    refine ⟨k, rfl, ?_, by simp [h₁.keys, h₂.keys, h₃.keys, h₄.keys, hkeys], ?_⟩
    · rw [hpass, Software.key_pass]
      exact hk
    · rw [hanswers]
      rcases h₂.keyAnswers with ⟨-, ⟨k', hk', ho⟩, hnone⟩ | ⟨hn, answer, ho, hone⟩
      · cases ho
        exact .inl ⟨hk', hnone⟩
      · refine .inr ⟨?_, ?_⟩
        · rcases held with _ | k'
          · rfl
          · exact hn (hheld k' rfl)
        · rcases answer with e | k'
          · cases ho
          · cases ho
            exact hone

end Attestation

/-! ## Draws -/

namespace Software

theorem insert_randomness (entry : Entry) (s : Software) :
    (s.insert entry).2.randomness = s.randomness := by
  unfold insert
  split <;> rfl

/-- Only a request for a key uses up draws, also if it is refused. -/
theorem allocate_randomness {request : Allocation} {s s' : Software}
    {answer : Except ProviderError Handle} (h : allocate request s = (answer, s')) :
    s'.randomness = if request = .key then s.randomness.scalar.2 else s.randomness := by
  obtain rfl : (allocate request s).2 = s' := congrArg Prod.snd h
  cases request with
  | digest => exact insert_randomness .digest s
  | key =>
    have hinsert := insert_randomness (.key s.randomness.scalar.1)
      { s with randomness := s.randomness.scalar.2 }
    exact hinsert
  | sign k =>
    simp only [allocate]
    split
    · exact insert_randomness _ s
    · rfl

theorem release_randomness {x : Holding} {s s' : Software} {found : Bool}
    (h : release x s = (found, s')) : s'.randomness = s.randomness := by
  rcases release_inv h with ⟨entry, -, -, -, rfl⟩ | ⟨-, -, rfl⟩
  · rfl
  · rfl

theorem randomness_of_answers {s t : Software} {calls : List Call}
    (h : provider.Answers s calls t) : t.randomness =
      (fun r : Randomness => r.scalar.2)^[(calls.filterMap Call.keyAnswer?).length] s.randomness := by
  induction h with
  | nil => rfl
  | @allocate request answer _ _ _ _ ha _ ih =>
    rw [ih, allocate_randomness ha]
    cases request <;> rfl
  | compute hc _ ih =>
    cases hc
    exact ih
  | release hr _ ih =>
    rw [ih, release_randomness hr]
    rfl

/-- Calls may use up draws. -/
structure Draws (s t : Software) : Prop where
  schedule : t.randomness.schedule = s.randomness.schedule
  drawn : s.randomness.drawn ≤ t.randomness.drawn

theorem preserves_draws : provider.Preserves Draws where
  refl s := ⟨rfl, le_refl _⟩
  trans h h' := ⟨h'.schedule.trans h.schedule, h.drawn.trans h'.drawn⟩
  allocate {request s answer s'} h := by
    have hdrawn := allocate_randomness h
    split at hdrawn
    · obtain ⟨n, hn, -⟩ := s.randomness.scalar_draws
      rw [hn] at hdrawn
      constructor
      · rw [hdrawn]
      · rw [hdrawn]
        simp only
        omega
    · exact ⟨congrArg _ hdrawn, (congrArg Randomness.drawn hdrawn).ge⟩
  compute h := by
    cases h
    exact ⟨rfl, le_refl _⟩
  release h := by
    have hsame := release_randomness h
    exact ⟨congrArg _ hsame, (congrArg Randomness.drawn hsame).ge⟩

theorem preserves_regular : provider.Preserves fun s t => s.Regular → t.Regular where
  refl _ h := h
  trans h h' hs := h' (h hs)
  allocate h hs := (hs.allocate h).1
  compute h hs := by
    cases h
    exact hs
  release h hs := (hs.release h).1

end Software

end AttestedImaging
