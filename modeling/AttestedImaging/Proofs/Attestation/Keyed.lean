import AttestedImaging.Proofs.Attestation.Software

/-!
# Attestations with a key at hand

A session that holds its key needs room for one operation at a time. If there is this room, the outcome
of an attestation depends on the key and the image alone, and all that is left of it in the provider is
that the search for a free handle has gone on.
-/

namespace AttestedImaging

namespace Software

open P256 (Scalar)

/-- The handle stands for this key, and there is room for an operation. -/
structure Ready (k : Handle) (d : Scalar) (s : Software) : Prop where
  regular : s.Regular
  key : s.key k = .ok d
  room : s.live < s.capacity

theorem Regular.pass {s : Software} (hs : s.Regular) : s.pass.Regular := by
  refine ⟨hs.nodup, hs.nonzero, ?_⟩
  unfold Software.pass
  rcases s.fresh? with _ | k
  · exact hs.next
  · exact successor_ne_zero k

theorem Ready.pass {k : Handle} {d : Scalar} {s : Software} (h : Ready k d s) : Ready k d s.pass :=
  ⟨h.regular.pass, h.key, h.room⟩

theorem Ready.passes {k : Handle} {d : Scalar} {s : Software} (h : Ready k d s) (n : Nat) :
    Ready k d (Software.pass^[n] s) := by
  induction n with
  | zero => exact h
  | succ n ih =>
    rw [Function.iterate_succ_apply']
    exact ih.pass

theorem Ready.granted {α : Type} {k : Handle} {d : Scalar} {s : Software} (h : Ready k d s)
    (outcome : Except Failure α) : s.granted outcome = outcome := if_pos h.room

/-- What an attestation of an image with this key comes to. -/
def attestation (d : Scalar) (image : Bytes) : Except Failure Bundle := do
  let x ← checked .x (coordinate .x d)
  let y ← checked .y (coordinate .y d)
  let signature ← signed d (Sha256.hash image)
  pure { digest := Sha256.hash image, signature, x, y }

/-- How many operations it takes. It does not come to the second one without both coordinates. -/
def operations (d : Scalar) : Nat :=
  match checked .x (coordinate .x d), checked .y (coordinate .y d) with
  | .ok _, .ok _ => 2
  | _, _ => 1

theorem operations_le (d : Scalar) : operations d ≤ 2 := by
  unfold operations
  split <;> omega

theorem checked_of_serves {d : Scalar} {digests : List Bytes} (h : Ecdsa.Serves d digests)
    (which : Coordinate) : ∃ c, checked which (coordinate which d) = .ok c := by
  obtain ⟨bytes, hbytes, hne⟩ := coordinate_of_serves h which
  exact ⟨⟨bytes, length_coordinate hbytes⟩,
    by rw [hbytes, checked, if_neg hne, dif_pos (length_coordinate hbytes)]⟩

theorem attestation_of_serves {d : Scalar} {image : Bytes}
    (h : Ecdsa.Serves d [(Sha256.hash image).bytes]) : ∃ b, attestation d image = .ok b := by
  obtain ⟨x, hx⟩ := checked_of_serves h .x
  obtain ⟨y, hy⟩ := checked_of_serves h .y
  obtain ⟨signature, hsign⟩ := Option.ne_none_iff_exists'.mp (h.signs _ List.mem_cons_self)
  exact ⟨⟨Sha256.hash image, signature, x, y⟩, by rw [attestation, hx, hy, signed, hsign]; rfl⟩

end Software

namespace Attestation

open Software (Ready attestation operations)

theorem KeyEnds.reuse {k : Handle} {calls : List Call} {outcome : Except Failure Handle}
    (h : KeyEnds .perSession (some k) calls outcome) : calls = [] ∧ outcome = .ok k := by
  cases h with
  | reused k' hp hk =>
    cases hk
    exact ⟨rfl, rfl⟩
  | refused e hn => cases hn rfl
  | made k' hn => cases hn rfl

variable {k : Handle} {d : P256.Scalar} {image : Bytes} {s t : Software}

theorem Ready.digested {c₁ c₂ : List Call} {digest : Digest} {outcome : Except Failure Handle}
    (hs : Ready k d s) (h₁ : OperationEnds 32 .digest (.digest · image) c₁ (.ok digest))
    (h₂ : KeyEnds .perSession (some k) c₂ outcome)
    (ha : Software.provider.Answers s (c₁ ++ c₂) t) :
    digest = Sha256.hash image ∧ outcome = .ok k ∧ t = s.pass := by
  obtain ⟨rfl, rfl⟩ := h₂.reuse
  rw [List.append_nil] at ha
  obtain ⟨hpass, hdigest⟩ := h₁.digested hs.regular ha
  rw [hs.granted] at hdigest
  exact ⟨Except.ok.inj hdigest, rfl, hpass⟩

theorem Ready.exported {which : Coordinate} {calls : List Call} {outcome : Except Failure Component}
    (hs : Ready k d s) (h : ComponentEnds k which calls outcome)
    (ha : Software.provider.Answers s calls t) :
    t = s ∧ Software.checked which (Software.coordinate which d) = outcome := by
  obtain ⟨hsame, ho⟩ := h.checked ha hs.key
  exact ⟨hsame, ho.symm⟩

theorem Ready.prepared {c₁ c₂ c₃ c₄ : List Call} {digest : Digest} {k' : Handle} {x : Component}
    {outcome : Except Failure Component} (hs : Ready k d s)
    (h₁ : OperationEnds 32 .digest (.digest · image) c₁ (.ok digest))
    (h₂ : KeyEnds .perSession (some k) c₂ (.ok k')) (h₃ : ComponentEnds k' .x c₃ (.ok x))
    (h₄ : ComponentEnds k' .y c₄ outcome)
    (ha : Software.provider.Answers s (c₁ ++ c₂ ++ c₃ ++ c₄) t) :
    digest = Sha256.hash image ∧ k' = k ∧ t = s.pass ∧
      Software.checked .x (Software.coordinate .x d) = .ok x ∧
      Software.checked .y (Software.coordinate .y d) = outcome := by
  obtain ⟨u, ha₃, ha₄⟩ := ha.of_append
  obtain ⟨u', ha₂, ha₃⟩ := ha₃.of_append
  obtain ⟨hdigest, hkey, rfl⟩ := Ready.digested hs h₁ h₂ ha₂
  cases hkey
  obtain ⟨rfl, hx⟩ := Ready.exported hs.pass h₃ ha₃
  obtain ⟨rfl, hy⟩ := Ready.exported hs.pass h₄ ha₄
  exact ⟨hdigest, rfl, rfl, hx, hy⟩

theorem Ready.signed {c₁ c₂ c₃ c₄ c₅ : List Call} {digest : Digest} {k' : Handle} {x y : Component}
    {outcome : Except Failure Signature} (hs : Ready k d s)
    (h₁ : OperationEnds 32 .digest (.digest · image) c₁ (.ok digest))
    (h₂ : KeyEnds .perSession (some k) c₂ (.ok k')) (h₃ : ComponentEnds k' .x c₃ (.ok x))
    (h₄ : ComponentEnds k' .y c₄ (.ok y))
    (h₅ : OperationEnds 64 (.sign k') (.sign · digest.bytes) c₅ outcome)
    (ha : Software.provider.Answers s (c₁ ++ c₂ ++ c₃ ++ c₄ ++ c₅) t) :
    digest = Sha256.hash image ∧ k' = k ∧ Software.checked .x (Software.coordinate .x d) = .ok x ∧
      Software.checked .y (Software.coordinate .y d) = .ok y ∧
      Software.signed d digest = outcome ∧ t = Software.pass^[operations d] s := by
  obtain ⟨u, ha₄, ha₅⟩ := ha.of_append
  obtain ⟨hdigest, rfl, rfl, hx, hy⟩ := Ready.prepared hs h₁ h₂ h₃ h₄ ha₄
  obtain ⟨hpass, hsigned⟩ := h₅.signed hs.pass.regular ha₅ hs.pass.key
  rw [hs.pass.granted] at hsigned
  refine ⟨hdigest, rfl, hx, hy, hsigned.symm, ?_⟩
  rw [operations, hx, hy, hpass]
  rfl

theorem Ends.determined {calls : List Call} {outcome : Except Failure Bundle} {key : Option Handle}
    (h : Ends .perSession image (some k) calls outcome key) (hs : Ready k d s)
    (ha : Software.provider.Answers s calls t) :
    key = some k ∧ outcome = attestation d image ∧ t = Software.pass^[operations d] s := by
  cases h with
  | noDigest h₁ =>
    -- There is room for the operation.
    have hdigest := (h₁.digested hs.regular ha).2
    rw [hs.granted] at hdigest
    cases hdigest
  | noKey h₁ h₂ =>
    -- The key is at hand, so none is asked for.
    obtain ⟨-, hkey, -⟩ := Ready.digested hs h₁ h₂ ha
    cases hkey
  | noX h₁ h₂ h₃ =>
    obtain ⟨u, ha₂, ha₃⟩ := ha.of_append
    obtain ⟨-, hkey, rfl⟩ := Ready.digested hs h₁ h₂ ha₂
    cases hkey
    obtain ⟨rfl, hx⟩ := Ready.exported hs.pass h₃ ha₃
    refine ⟨rfl, ?_, ?_⟩
    · rw [attestation, hx]
      rfl
    · rw [operations, hx]
      rfl
  | noY h₁ h₂ h₃ h₄ =>
    obtain ⟨-, rfl, rfl, hx, hy⟩ := Ready.prepared hs h₁ h₂ h₃ h₄ ha
    refine ⟨rfl, ?_, ?_⟩
    · rw [attestation, hx, hy]
      rfl
    · rw [operations, hx, hy]
      rfl
  | noSignature h₁ h₂ h₃ h₄ h₅ =>
    obtain ⟨rfl, rfl, hx, hy, hsigned, ht⟩ := Ready.signed hs h₁ h₂ h₃ h₄ h₅ ha
    refine ⟨rfl, ?_, ht⟩
    rw [attestation, hx, hy, hsigned]
    rfl
  | done h₁ h₂ h₃ h₄ h₅ =>
    obtain ⟨rfl, rfl, hx, hy, hsigned, ht⟩ := Ready.signed hs h₁ h₂ h₃ h₄ h₅ ha
    refine ⟨rfl, ?_, ht⟩
    rw [attestation, hx, hy, hsigned]
    rfl

end Attestation

end AttestedImaging
