import AttestedImaging.Proofs.Attestation
import AttestedImaging.Proofs.Bytes
import AttestedImaging.Proofs.Software

/-!
# Attestations with the software provider

What each part of an attestation comes to when the software provider answers: an operation needs room
for one more handle while it lasts, and a new key needs room for itself from then on. All depends on
the room and on the key that is used.
-/

namespace AttestedImaging

def Call.key? : Call → Option Handle
  | .allocate (.sign k) _ | .compute (.coordinate k _) _ => some k
  | _ => none

/-- What is hoped of a key: neither coordinate of its public point is 0, and signing none of these
digests hits on a signature with a 0 in it. -/
structure Ecdsa.Serves (d : P256.Scalar) (digests : List Bytes) : Prop where
  point : ∃ x y, d.publicPoint? = some (x, y) ∧ x.val ≠ 0 ∧ y.val ≠ 0
  signs : ∀ digest ∈ digests, Ecdsa.sign? d digest ≠ none

theorem Ecdsa.serves_iff (d : P256.Scalar) (digests : List Bytes) : Ecdsa.Serves d digests ↔
    (d.publicPoint?.any fun q => q.1.val ≠ 0 ∧ q.2.val ≠ 0) ∧
      digests.all fun digest => (Ecdsa.sign? d digest).isSome := by
  simp only [List.all_eq_true, Option.isSome_iff_ne_none]
  constructor
  · rintro ⟨⟨x, y, hpoint, hxy⟩, hsigns⟩
    exact ⟨by simpa [hpoint] using hxy, hsigns⟩
  · rintro ⟨hpoint, hsigns⟩
    obtain ⟨q, hq, hxy⟩ := (Option.any_eq_true _ _).mp hpoint
    exact ⟨⟨q.1, q.2, hq, of_decide_eq_true hxy⟩, hsigns⟩

instance (d : P256.Scalar) (digests : List Bytes) : Decidable (Ecdsa.Serves d digests) :=
  decidable_of_iff _ (Ecdsa.serves_iff d digests).symm

namespace Software

open P256 (Scalar)

theorem coordinate_of_serves {d : Scalar} {digests : List Bytes} (h : Ecdsa.Serves d digests)
    (which : Coordinate) : ∃ bytes, coordinate which d = .ok bytes ∧ bytes ≠ [] := by
  obtain ⟨x, y, hpoint, hx, hy⟩ := h.point
  have hsize : P256.p < 256 ^ 32 := by decide
  rw [coordinate, hpoint]
  cases which with
  | x => exact ⟨_, rfl, Bytes.strip_ofNat_ne_nil hx (x.isLt.trans hsize)⟩
  | y => exact ⟨_, rfl, Bytes.strip_ofNat_ne_nil hy (y.isLt.trans hsize)⟩

/-- What an operation leaves when it has ended: the same table, and a search that goes on after the
handle that it had. -/
def pass (s : Software) : Software := { s with next := s.fresh?.elim s.next successor }

/-- The key that an attestation uses: that of the handle held, and otherwise the next to be drawn. -/
def signingKey (held : Option Handle) (s : Software) : Except ProviderError Scalar :=
  match held with
  | some k => s.key k
  | none => .ok s.randomness.scalar.1

/-- How many handles an attestation needs beyond those that are live: one for an operation, and one
for a key if none is held. -/
def demand (held : Option Handle) : Nat := if held = none then 2 else 1

theorem demand_pos (held : Option Handle) : 0 < demand held := by
  unfold demand
  split <;> omega

@[simp] theorem live_pass (s : Software) : s.pass.live = s.live := rfl

@[simp] theorem capacity_pass (s : Software) : s.pass.capacity = s.capacity := rfl

@[simp] theorem key_pass (k : Handle) (s : Software) : s.pass.key k = s.key k := rfl

@[simp] theorem signingKey_pass (held : Option Handle) (s : Software) :
    s.pass.signingKey held = s.signingKey held := by
  cases held <;> rfl

def signed (d : Scalar) (digest : Digest) : Except Failure Signature :=
  (Ecdsa.sign? d digest.bytes).elim
    (.error (.cryptoFailure (.provider (.backend "ECDSA署名に失敗: signature error")))) .ok

/-- An answer to a request for a coordinate, as it is taken: it must not be empty or too long. -/
def checked (which : Coordinate) : Except ProviderError Bytes → Except Failure Component
  | .error e => .error (.ofProvider e)
  | .ok bytes =>
    if bytes = [] then .error (.cryptoFailure (.componentEmpty which))
    else if h : bytes.length ≤ 32 then .ok ⟨bytes, h⟩
    else .error (.cryptoFailure (.componentLength which bytes.length))

theorem length_coordinate {which : Coordinate} {d : Scalar} {bytes : Bytes}
    (h : coordinate which d = .ok bytes) : bytes.length ≤ 32 := by
  unfold coordinate at h
  split at h
  · rw [← Except.ok.inj h]
    exact (Bytes.length_strip_le _).trans_eq (Bytes.length_ofNat 32 _)
  · cases h

/-- The outcome if there is room for one more handle, and a shortage otherwise. -/
def granted {α : Type} (s : Software) (outcome : Except Failure α) : Except Failure α :=
  if s.live < s.capacity then outcome else .error (.outOfResources (.handles s.limit))

theorem of_granted {α : Type} {s : Software} {outcome : Except Failure α} {a : α}
    (h : .ok a = s.granted outcome) : s.live < s.capacity ∧ .ok a = outcome := by
  unfold granted at h
  split at h
  · exact ⟨‹_›, h⟩
  · cases h

theorem granted_error {α : Type} {s : Software} {a : α} {f : Failure}
    (h : .error f = s.granted (.ok a)) :
    ¬ s.live < s.capacity ∧ f = .outOfResources (.handles s.limit) := by
  unfold granted at h
  split at h
  · cases h
  · exact ⟨‹_›, Except.error.inj h⟩

theorem sign?_of_signed {d : Scalar} {digest : Digest} {signature : Signature}
    (h : signed d digest = .ok signature) : Ecdsa.sign? d digest.bytes = some signature := by
  unfold signed at h
  generalize Ecdsa.sign? d digest.bytes = signature? at h ⊢
  cases signature? with
  | none => cases h
  | some signature => rw [Except.ok.inj h]

/-! ## Which keys are used -/

/-- What is left after a call. -/
def after (c : Call) (s : Software) : Software :=
  match c with
  | .allocate request _ => (allocate request s).2
  | .compute _ _ => s
  | .release holding => (release holding s).2

/-- For each call that uses a key: its handle, and the key that stands there at the time. -/
def keysUsed (s : Software) : List Call → List (Handle × Except ProviderError Scalar)
  | [] => []
  | c :: rest => (c.key?.map fun k => (k, s.key k)).toList ++ (s.after c).keysUsed rest

theorem keysUsed_append {s t : Software} {calls : List Call} (h : provider.Answers s calls t)
    (calls' : List Call) : s.keysUsed (calls ++ calls') = s.keysUsed calls ++ t.keysUsed calls' := by
  -- A step of the provider is a step of `after`.
  have hcons : ∀ {s s' : Software} {c : Call} {rest : List Call}, s.after c = s' →
      s'.keysUsed (rest ++ calls') = s'.keysUsed rest ++ t.keysUsed calls' →
      s.keysUsed (c :: rest ++ calls') = s.keysUsed (c :: rest) ++ t.keysUsed calls' := by
    intro s s' c rest hafter ih
    rw [List.cons_append, keysUsed, keysUsed, hafter, ih, List.append_assoc]
  induction h with
  | nil => rfl
  | allocate ha _ ih => exact hcons (congrArg Prod.snd ha) (ih hcons)
  | compute hc _ ih => exact hcons (congrArg Prod.snd hc) (ih hcons)
  | release hr _ ih => exact hcons (congrArg Prod.snd hr) (ih hcons)

theorem keys_releases (holdings : List Holding) :
    (Call.releases holdings).filterMap Call.key? = [] := by
  simp [Call.releases, Call.key?]

theorem keysUsed_eq_nil (s : Software) {calls : List Call} (h : calls.filterMap Call.key? = []) :
    s.keysUsed calls = [] := by
  induction calls generalizing s with
  | nil => rfl
  | cons c rest ih =>
    obtain ⟨hc, hrest⟩ := List.filterMap_eq_nil_iff.mp h |> List.forall_mem_cons.mp
    rw [keysUsed, hc, ih (s.after c) (List.filterMap_eq_nil_iff.mpr hrest)]
    rfl

end Software

namespace Attestation

open Software (Regular)

/-! ## Operations -/

theorem answers_operation {request : Allocation} {request' : Computation} {o : Handle}
    {answer : Except ProviderError Bytes} {s t : Software} (hs : s.Regular)
    (ha : Software.provider.Answers s [.allocate request (.ok o), .compute request' answer,
      .release (.operation o)] t) {entry : Entry} (hop : entry.isOperation = true)
    (hallocate : Software.allocate request s = s.insert entry) :
    t = s.pass ∧ s.live < s.capacity ∧ ∃ u : Software, u.entries.get? o = some entry ∧
      Software.compute request' u = answer := by
  cases ha with
  | allocate hk ha =>
  cases ha with
  | compute hc ha =>
  cases ha with
  | release hr ha =>
  obtain rfl := ha.of_nil
  rcases hs.insert_cases (hallocate.symm.trans hk) with ⟨k, hok, hroom, hnew, -, rfl⟩ | ⟨he, -⟩
  · obtain rfl := Except.ok.inj hok
    obtain ⟨hanswer, rfl⟩ := Prod.mk.inj hc
    have hget : (s.entries.put o entry).get? o = some entry := by
      rw [Assoc.get?_put, if_pos rfl]
    -- The entry was put last, and its release takes it out again.
    have hrelease : Software.release (.operation o)
        { s with entries := s.entries.put o entry, next := Software.successor o } =
        (true, { s with next := Software.successor o }) := by
      simp [Software.release, Holding.handle, hget, Software.matchesHolding, hop,
        Assoc.erase_put_of_get?_none entry hnew]
    obtain ⟨-, rfl⟩ := Prod.mk.inj (hrelease.symm.trans hr)
    have hfresh : s.fresh? = some o := Software.fresh?_of_insert (hallocate.symm.trans hk)
    exact ⟨by rw [Software.pass, hfresh]; rfl, hroom, _, hget, hanswer⟩
  · cases he

theorem OperationEnds.answered {n : Nat} {request : Allocation} {call : Handle → Computation}
    {calls : List Call} {outcome : Except Failure (Fixed n)} {s t : Software}
    (h : OperationEnds n request call calls outcome) (hs : s.Regular)
    (ha : Software.provider.Answers s calls t) {entry : Entry} (hop : entry.isOperation = true)
    (hallocate : Software.allocate request s = s.insert entry) {answer : Except ProviderError Bytes}
    (hanswer : ∀ o (u : Software), u.entries.get? o = some entry →
      Software.compute (call o) u = answer) :
    t = s.pass ∧
      ((s.live < s.capacity ∧ ((∃ value, answer = .ok value.bytes ∧ outcome = .ok value) ∨
        ∃ o f, (Call.compute (call o) answer).failure? = some f ∧ outcome = .error f)) ∨
      (¬ s.live < s.capacity ∧ outcome = .error (.outOfResources (.handles s.limit)))) := by
  cases h with
  | refused e =>
    cases ha with
    | allocate hk ha =>
    obtain rfl := ha.of_nil
    rcases hs.insert_cases (hallocate.symm.trans hk) with ⟨k, hok, -⟩ | ⟨he, hfull, rfl⟩
    · cases hok
    · cases he
      have hfresh := Software.fresh?_of_insert (hallocate.symm.trans hk)
      exact ⟨by rw [Software.pass, hfresh]; rfl, .inr ⟨hfull, rfl⟩⟩
  | failed o a f hf =>
    obtain ⟨hpass, hroom, u, hu, ha⟩ := answers_operation hs ha hop hallocate
    obtain rfl := (hanswer o u hu).symm.trans ha
    exact ⟨hpass, .inl ⟨hroom, .inr ⟨o, f, hf, rfl⟩⟩⟩
  | done o value hf =>
    obtain ⟨hpass, hroom, u, hu, ha⟩ := answers_operation hs ha hop hallocate
    exact ⟨hpass, .inl ⟨hroom, .inl ⟨value, (hanswer o u hu).symm.trans ha, rfl⟩⟩⟩

theorem OperationEnds.digested {image : Bytes} {calls : List Call}
    {outcome : Except Failure Digest} {s t : Software}
    (h : OperationEnds 32 .digest (.digest · image) calls outcome) (hs : s.Regular)
    (ha : Software.provider.Answers s calls t) :
    t = s.pass ∧ outcome = s.granted (.ok (Sha256.hash image)) := by
  have hlength := (Sha256.hash image).length_eq
  have hanswer : ∀ o (u : Software), u.entries.get? o = some .digest →
      Software.compute (.digest o image) u = .ok (Sha256.hash image).bytes := by
    intro o u hu
    simp only [Software.compute, hu]
  obtain ⟨hpass, ⟨hroom, ⟨value, hv, rfl⟩ | ⟨o, f, hf, -⟩⟩ | ⟨hfull, rfl⟩⟩ :=
    h.answered hs ha rfl rfl hanswer
  · have hvalue : Sha256.hash image = value := Fixed.bytes_inj (Except.ok.inj hv)
    exact ⟨hpass, by rw [Software.granted, if_pos hroom, hvalue]⟩
  · simp [Call.failure?, hlength] at hf
  · exact ⟨hpass, by rw [Software.granted, if_neg hfull]⟩

theorem OperationEnds.signed {k : Handle} {d : P256.Scalar} {digest : Digest} {calls : List Call}
    {outcome : Except Failure Signature} {s t : Software}
    (h : OperationEnds 64 (.sign k) (.sign · digest.bytes) calls outcome) (hs : s.Regular)
    (ha : Software.provider.Answers s calls t) (hk : s.key k = .ok d) :
    t = s.pass ∧ outcome = s.granted (Software.signed d digest) := by
  have hallocate : Software.allocate (.sign k) s = s.insert (.sign d) := by
    simp only [Software.allocate, hk]
  have hanswer : ∀ o (u : Software), u.entries.get? o = some (.sign d) →
      Software.compute (.sign o digest.bytes) u = Software.signature d digest.bytes := by
    intro o u hu
    simp only [Software.compute, hu]
  obtain ⟨hpass, hends⟩ := h.answered hs ha rfl hallocate hanswer
  refine ⟨hpass, ?_⟩
  rw [Software.signature, if_pos digest.length_eq] at hends
  rw [Software.signed]
  rcases hends with ⟨hroom, hends⟩ | ⟨hfull, rfl⟩
  · rw [Software.granted, if_pos hroom]
    generalize Ecdsa.sign? d digest.bytes = signature? at hends ⊢
    rcases signature? with _ | signature
    · -- A number of the signature came out as 0, so there is none.
      rcases hends with ⟨value, hv, -⟩ | ⟨o, f, hf, rfl⟩
      · cases hv
      · rw [← Option.some.inj hf]
        rfl
    · -- A signature has 64 bytes, so it is taken.
      rcases hends with ⟨value, hv, rfl⟩ | ⟨o, f, hf, -⟩
      · rw [← Fixed.bytes_inj (Except.ok.inj hv)]
        rfl
      · simp [Call.failure?, signature.length_eq] at hf
  · rw [Software.granted, if_neg hfull]

/-! ## Key and coordinates -/

theorem KeyEnds.answered {policy : KeyPolicy} {held : Option Handle} {calls : List Call}
    {outcome : Except Failure Handle} {s t : Software} (h : KeyEnds policy held calls outcome)
    (hs : s.Regular) (ha : Software.provider.Answers s calls t)
    (hheld : ∀ k, held = some k → policy = .perSession) {d : P256.Scalar}
    (hkey : s.signingKey held = .ok d) :
    (held = none ∧ ¬ s.live < s.capacity ∧
      outcome = .error (.outOfResources (.handles s.limit))) ∨
    ∃ k, outcome = .ok k ∧ t.key k = .ok d ∧ t.Regular ∧ t.limit = s.limit ∧
      t.live + 1 = s.live + Software.demand held := by
  -- A session that does not use its key again holds none.
  have hnone : (policy = .perSession → held = none) → held = none := by
    intro hn
    rcases held with _ | k
    · rfl
    · exact hn (hheld k rfl)
  cases h with
  | reused k hp hk =>
    obtain rfl := ha.of_nil
    subst hk
    exact .inr ⟨k, rfl, hkey, hs, rfl, rfl⟩
  | refused e hn =>
    obtain rfl := hnone hn
    cases ha with
    | allocate hr ha =>
    obtain rfl := ha.of_nil
    rcases (hs.of_randomness s.randomness.scalar.2).insert_cases hr with
      ⟨k, hok, -⟩ | ⟨he, hfull, -⟩
    · cases hok
    · cases he
      exact .inl ⟨rfl, hfull, rfl⟩
  | made k hn =>
    obtain rfl := hnone hn
    cases ha with
    | allocate hr ha =>
    obtain rfl := ha.of_nil
    have hregular := hs.of_randomness s.randomness.scalar.2
    rcases hregular.insert_cases hr with ⟨k', hok, -, hnew, hzero, rfl⟩ | ⟨he, -⟩
    · obtain rfl := Except.ok.inj hok
      refine .inr ⟨k, rfl, ?_, hregular.put hnew hzero _, rfl, ?_⟩
      · rw [Software.key, Assoc.get?_put, if_pos rfl]
        exact hkey
      · rw [Software.live, Assoc.put_of_get?_none _ hnew, List.length_append]
        rfl
    · cases he

theorem ComponentEnds.checked {k : Handle} {d : P256.Scalar} {which : Coordinate}
    {calls : List Call} {outcome : Except Failure Component} {s t : Software}
    (h : ComponentEnds k which calls outcome) (ha : Software.provider.Answers s calls t)
    (hk : s.key k = .ok d) :
    t = s ∧ outcome = Software.checked which (Software.coordinate which d) := by
  have hcompute : Software.compute (.coordinate k which) s = Software.coordinate which d := by
    simp only [Software.compute, hk]
    rfl
  cases h with
  | failed answer f hf =>
    cases ha with
    | compute hc ha =>
    obtain ⟨hanswer, rfl⟩ := Prod.mk.inj hc
    refine ⟨ha.of_nil, ?_⟩
    rw [← hcompute, hanswer]
    rcases answer with e | bytes
    · rw [← Option.some.inj hf]
      rfl
    · simp only [Call.failure?] at hf
      -- The answer is empty, or too long, or it is taken.
      split_ifs at hf with hempty hlength
      · rw [← Option.some.inj hf, Software.checked, if_pos hempty]
      · rw [← Option.some.inj hf, Software.checked, if_neg hempty, dif_neg hlength]
  | done value hf =>
    cases ha with
    | compute hc ha =>
    obtain ⟨hanswer, rfl⟩ := Prod.mk.inj hc
    refine ⟨ha.of_nil, ?_⟩
    rw [← hcompute, hanswer]
    simp only [Call.failure?] at hf
    split_ifs at hf with hempty
    rw [Software.checked, if_neg hempty, dif_pos value.length_le]

theorem ComponentEnds.exported {k : Handle} {d : P256.Scalar} {which : Coordinate}
    {calls : List Call} {outcome : Except Failure Component} {s t : Software}
    (h : ComponentEnds k which calls outcome) (ha : Software.provider.Answers s calls t)
    (hk : s.key k = .ok d) :
    t = s ∧ match outcome with
      | .ok c => Software.coordinate which d = .ok c.bytes
      | .error _ => ∀ bytes, Software.coordinate which d = .ok bytes → bytes = [] := by
  obtain ⟨rfl, ho⟩ := h.checked ha hk
  refine ⟨rfl, ?_⟩
  rcases hc : Software.coordinate which d with e | bytes
  · rw [hc] at ho
    subst ho
    exact fun bytes hbytes => by cases hbytes
  · rw [hc, Software.checked] at ho
    split_ifs at ho with hempty hlength
    · subst ho
      rintro _ ⟨⟩
      exact hempty
    · subst ho
      rfl
    · exact absurd (Software.length_coordinate hc) hlength

theorem not_componentEnds_error {k : Handle} {d : P256.Scalar} {digests : List Bytes}
    (hserves : Ecdsa.Serves d digests) {which : Coordinate} {calls : List Call} {f : Failure}
    {s t : Software} (ha : Software.provider.Answers s calls t) (hk : s.key k = .ok d) :
    ¬ ComponentEnds k which calls (.error f) := by
  intro h
  obtain ⟨bytes, hbytes, hne⟩ := Software.coordinate_of_serves hserves which
  exact hne ((h.exported ha hk).2 bytes hbytes)

/-! ## The whole -/

theorem OperationEnds.keys {image : Bytes} {calls : List Call} {outcome : Except Failure Digest}
    (h : OperationEnds 32 .digest (.digest · image) calls outcome) :
    calls.filterMap Call.key? = [] := by
  cases h <;> rfl

theorem OperationEnds.keysUsed {k : Handle} {digest : Bytes} {calls : List Call}
    {outcome : Except Failure Signature}
    (h : OperationEnds 64 (.sign k) (.sign · digest) calls outcome) (s : Software) :
    s.keysUsed calls = [(k, s.key k)] := by
  cases h <;> rfl

theorem KeyEnds.keys {policy : KeyPolicy} {held : Option Handle} {calls : List Call}
    {outcome : Except Failure Handle} (h : KeyEnds policy held calls outcome) :
    calls.filterMap Call.key? = [] := by
  cases h <;> simp [Call.key?, Call.releases]

theorem ComponentEnds.keysUsed {k : Handle} {which : Coordinate} {calls : List Call}
    {outcome : Except Failure Component} (h : ComponentEnds k which calls outcome) (s : Software) :
    s.keysUsed calls = [(k, s.key k)] := by
  cases h <;> rfl

theorem key_ready {policy : KeyPolicy} {image : Bytes} {held : Option Handle} {c₁ c₂ : List Call}
    {digest : Digest} {outcome : Except Failure Handle} {s t : Software}
    (h₁ : OperationEnds 32 .digest (.digest · image) c₁ (.ok digest))
    (h₂ : KeyEnds policy held c₂ outcome) (hs : s.Regular)
    (ha : Software.provider.Answers s (c₁ ++ c₂) t)
    (hheld : ∀ k, held = some k → policy = .perSession) {d : P256.Scalar}
    (hkey : s.signingKey held = .ok d) :
    digest = Sha256.hash image ∧ ∃ k, outcome = .ok k ∧ t.key k = .ok d ∧ t.Regular ∧
      t.limit = s.limit ∧ t.live + 1 = s.live + Software.demand held := by
  obtain ⟨u, ha₁, ha₂⟩ := ha.of_append
  obtain ⟨rfl, hdigest⟩ := h₁.digested hs ha₁
  obtain ⟨hroom, hdigest⟩ := Software.of_granted hdigest
  have hkey' : s.pass.signingKey held = .ok d := by rw [Software.signingKey_pass, hkey]
  -- The room that the digest had is there for the key again.
  rcases h₂.answered (hs.answers ha₁).1 ha₂ hheld hkey' with
    ⟨-, hfull, -⟩ | ⟨k, ho, hk, ht, hlimit, hlive⟩
  · exact absurd hroom hfull
  · exact ⟨Except.ok.inj hdigest, k, ho, hk, ht, hlimit, hlive⟩

theorem signature_ready {policy : KeyPolicy} {image : Bytes} {held : Option Handle}
    {c₁ c₂ c₃ c₄ c₅ : List Call} {digest : Digest} {k : Handle} {x y : Component} {s t : Software}
    (h₁ : OperationEnds 32 .digest (.digest · image) c₁ (.ok digest))
    (h₂ : KeyEnds policy held c₂ (.ok k)) (h₃ : ComponentEnds k .x c₃ (.ok x))
    (h₄ : ComponentEnds k .y c₄ (.ok y)) (hs : s.Regular)
    (ha : Software.provider.Answers s (c₁ ++ c₂ ++ c₃ ++ c₄ ++ c₅) t)
    (hheld : ∀ k, held = some k → policy = .perSession) {d : P256.Scalar}
    (hkey : s.signingKey held = .ok d) :
    digest = Sha256.hash image ∧ Software.coordinate .x d = .ok x.bytes ∧
      Software.coordinate .y d = .ok y.bytes ∧ ∃ u : Software, u.key k = .ok d ∧ u.Regular ∧
        u.limit = s.limit ∧ u.live + 1 = s.live + Software.demand held ∧
        Software.provider.Answers u c₅ t ∧
        s.keysUsed (c₁ ++ c₂ ++ c₃ ++ c₄ ++ c₅) =
          (k, .ok d) :: (k, .ok d) :: u.keysUsed c₅ := by
  obtain ⟨u, ha₄, ha₅⟩ := ha.of_append
  obtain ⟨u', ha₃, ha₄⟩ := ha₄.of_append
  obtain ⟨u'', ha₂, ha₃⟩ := ha₃.of_append
  obtain ⟨hdigest, k', ho, hk, hu, hlimit, hlive⟩ := key_ready h₁ h₂ hs ha₂ hheld hkey
  obtain rfl := Except.ok.inj ho
  obtain ⟨rfl, hx⟩ := h₃.exported ha₃ hk
  obtain ⟨rfl, hy⟩ := h₄.exported ha₄ hk
  refine ⟨hdigest, hx, hy, u, hk, hu, hlimit, hlive, ha₅, ?_⟩
  have hbefore : s.keysUsed (c₁ ++ c₂) = [] :=
    Software.keysUsed_eq_nil s (by simp [h₁.keys, h₂.keys])
  rw [Software.keysUsed_append (((ha₂.append ha₃).append ha₄)), Software.keysUsed_append (ha₂.append ha₃),
    Software.keysUsed_append ha₂, hbefore, h₃.keysUsed, h₄.keysUsed, hk]
  rfl

/-- With a key and a digest that serve, an attestation goes well exactly if there is room for all that it
needs at once. -/
theorem Ends.answered {policy : KeyPolicy} {image : Bytes} {held key : Option Handle}
    {calls : List Call} {outcome : Except Failure Bundle} {s t : Software}
    (h : Ends policy image held calls outcome key) (hs : s.Regular)
    (ha : Software.provider.Answers s calls t)
    (hheld : ∀ k, held = some k → policy = .perSession) {d : P256.Scalar}
    (hkey : s.signingKey held = .ok d) (hserves : Ecdsa.Serves d [(Sha256.hash image).bytes]) :
    (s.live + Software.demand held ≤ s.capacity ∧ ∃ b, outcome = .ok b) ∨
      (s.capacity < s.live + Software.demand held ∧
        outcome = .error (.outOfResources (.handles s.limit))) := by
  cases h with
  | noDigest h₁ =>
    have hdemand := Software.demand_pos held
    obtain ⟨hfull, rfl⟩ := Software.granted_error (h₁.digested hs ha).2
    exact .inr ⟨by omega, rfl⟩
  | noKey h₁ h₂ =>
    obtain ⟨-, k, ho, -⟩ := key_ready h₁ h₂ hs ha hheld hkey
    cases ho
  | noX h₁ h₂ h₃ =>
    obtain ⟨u, ha₂, ha₃⟩ := ha.of_append
    obtain ⟨-, k, ho, hk, -⟩ := key_ready h₁ h₂ hs ha₂ hheld hkey
    cases ho
    -- The coordinates of a key that serves are taken.
    exact absurd h₃ (not_componentEnds_error hserves ha₃ hk)
  | noY h₁ h₂ h₃ h₄ =>
    obtain ⟨u, ha₃, ha₄⟩ := ha.of_append
    obtain ⟨u', ha₂, ha₃⟩ := ha₃.of_append
    obtain ⟨-, k, ho, hk, -⟩ := key_ready h₁ h₂ hs ha₂ hheld hkey
    cases ho
    obtain ⟨rfl, -⟩ := h₃.exported ha₃ hk
    exact absurd h₄ (not_componentEnds_error hserves ha₄ hk)
  | noSignature h₁ h₂ h₃ h₄ h₅ =>
    obtain ⟨hdigest, -, -, u, hk, hu, hlimit, hlive, ha₅, -⟩ :=
      signature_ready h₁ h₂ h₃ h₄ hs ha hheld hkey
    obtain ⟨signature, hsign⟩ := Option.ne_none_iff_exists'.mp
      (hserves.signs _ List.mem_cons_self)
    rw [← hdigest] at hsign
    have herror := (h₅.signed hu ha₅ hk).2
    rw [Software.signed, hsign] at herror
    -- The key signs the digest, so only room can have been missing.
    obtain ⟨hfull, rfl⟩ := Software.granted_error herror
    rw [Software.capacity, hlimit, ← Software.capacity] at hfull
    exact .inr ⟨by omega, by rw [hlimit]⟩
  | done h₁ h₂ h₃ h₄ h₅ =>
    obtain ⟨-, -, -, u, hk, hu, hlimit, hlive, ha₅, -⟩ :=
      signature_ready h₁ h₂ h₃ h₄ hs ha hheld hkey
    obtain ⟨hroom, -⟩ := Software.of_granted (h₅.signed hu ha₅ hk).2
    rw [Software.capacity, hlimit, ← Software.capacity] at hroom
    exact .inl ⟨by omega, _, rfl⟩

/-- An attestation that goes well exports the coordinates of one key and signs the digest with it. -/
theorem Ends.attested {policy : KeyPolicy} {image : Bytes} {held key : Option Handle}
    {calls : List Call} {b : Bundle} {s t : Software}
    (h : Ends policy image held calls (.ok b) key) (hs : s.Regular)
    (ha : Software.provider.Answers s calls t)
    (hheld : ∀ k, held = some k → policy = .perSession) {d : P256.Scalar}
    (hkey : s.signingKey held = .ok d) :
    b.digest = Sha256.hash image ∧ Ecdsa.sign? d b.digest.bytes = some b.signature ∧
      Software.coordinate .x d = .ok b.x.bytes ∧ Software.coordinate .y d = .ok b.y.bytes ∧
      ∃ k, key = some k ∧ s.keysUsed calls = [(k, .ok d), (k, .ok d), (k, .ok d)] := by
  cases h with
  | @done c₁ c₂ c₃ c₄ c₅ digest k x y signature h₁ h₂ h₃ h₄ h₅ =>
    obtain ⟨hdigest, hx, hy, u, hk, hu, -, -, ha₅, hused⟩ :=
      signature_ready h₁ h₂ h₃ h₄ hs ha hheld hkey
    obtain ⟨-, hsigned⟩ := Software.of_granted (h₅.signed hu ha₅ hk).2
    refine ⟨hdigest, Software.sign?_of_signed hsigned.symm, hx, hy, k, rfl, ?_⟩
    rw [hused, h₅.keysUsed, hk]

end Attestation

end AttestedImaging
