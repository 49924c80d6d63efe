import AttestedImaging.Attestation
import AttestedImaging.Proofs.Pairing

/-!
# Attestations side by side

Each part of an attestation does the same in both runs, though the images, the keys and with them the
coordinates and the signatures differ. At most one key is drawn.
-/

namespace AttestedImaging.Pairing

open Attestation

variable {σ : Type} {P : Provider σ} {T : Pairing P}

/-! ## Operations -/

theorem works_beginOperation {request : Allocation} (hr : request ≠ .key) :
    T.Works Eq 0 (beginOperation P request) (beginOperation P request) := by
  refine (Works.act fun _ _ _ hs => hs.endOperation).bind fun _ _ _ => ?_
  refine (Works.operation hr).bind fun h _ hh => ?_
  subst hh
  refine (Works.act fun _ _ _ hs => ?_).bind fun _ _ _ => .pure rfl
  exact ⟨hs.device, congrArg (fun c => { c with operation := some h }) hs.context⟩

theorem works_useOperation {request : Allocation} (hr : request ≠ .key)
    {call call' : Handle → Computation} {R : Bytes → Bytes → Prop}
    (h : ∀ o n s s', T.states n s s' →
      Agree R (P.compute (call o) s).1 (P.compute (call' o) s').1 ∧
        T.states n (P.compute (call o) s).2 (P.compute (call' o) s').2) :
    T.Works R 0 (useOperation P request call) (useOperation P request call') := by
  refine (works_beginOperation hr).bind fun o _ ho => ?_
  subst ho
  exact (Works.compute (h o)).andFinally fun _ _ _ hs => hs.endOperation

theorem works_exactly {n : Nat} (fault : Nat → CryptoFault) {m m' : Bytes}
    (hlength : m.length = m'.length) {R : Fixed n → Fixed n → Prop}
    (hR : ∀ v v' : Fixed n, m = v.bytes → m' = v'.bytes → R v v') :
    T.Works R 0 (exactly n fault m) (exactly n fault m') := by
  unfold exactly Fixed.ofBytes?
  by_cases hm : m.length = n
  · rw [dif_pos hm, dif_pos (hlength ▸ hm)]
    exact .pure (hR _ _ rfl rfl)
  · rw [dif_neg hm, dif_neg (hlength ▸ hm), hlength]
    exact .fail _

theorem works_digest {image image' : Bytes} (h : T.images image image') :
    T.Works T.digests 0 (Attestation.digest P image) (Attestation.digest P image') :=
  (works_useOperation (show Allocation.digest ≠ .key by simp) fun _ _ _ _ hs =>
    T.digest h hs).bind fun _ _ hm => works_exactly _ hm.length hm.related

theorem works_signature (k : Handle) {d d' : Digest} (h : T.digests d d') :
    T.Works (fun _ _ => True) 0 (signature P k d) (signature P k d') :=
  (works_useOperation (show Allocation.sign k ≠ .key by simp) fun _ _ _ _ hs =>
    T.sign h hs).bind fun _ _ hm => works_exactly _ hm fun _ _ _ _ => trivial

/-! ## Key and coordinates -/

theorem works_installKey (k : Handle) : T.Works Eq 0 (installKey P k) (installKey P k) := by
  refine Works.act fun n s s' hs => ?_
  have hcontext := congrArg (fun c => { c with key := some k }) hs.context
  rw [← hs.key_eq]
  cases s.context.key with
  | none => exact ⟨hs.device, hcontext⟩
  | some old => exact ⟨hs.device.drop _, hcontext⟩

theorem works_makeKey : T.Works Eq 1 (makeKey P) (makeKey P) := by
  refine (Works.act fun _ _ _ hs => hs.releaseKey).bind fun _ _ _ => ?_
  refine Works.key.bind_rest fun k _ hk => ?_
  subst hk
  exact (works_installKey k).bind fun _ _ _ => (Works.log _).bind fun _ _ _ => .pure rfl

theorem works_keyFor (policy : KeyPolicy) :
    T.Works Eq 1 (keyFor P policy) (keyFor P policy) := by
  intro n s s' hs
  have hreused : ∀ k, T.Works Eq 1
      (Work.log (.keyReused k) >>= fun _ => pure k) (Work.log (.keyReused k) >>= fun _ => pure k) :=
    fun k => ((Works.log _).bind fun _ _ _ => .pure rfl).fewer 1
  simp only [keyFor, Work.bind_apply, Work.context_apply, ← hs.key_eq]
  cases policy with
  | perInvocation => exact works_makeKey n s s' hs
  | perSession =>
    cases s.context.key with
    | none => exact works_makeKey n s s' hs
    | some k => exact hreused k n s s' hs

theorem works_component (k : Handle) (which : Coordinate) :
    T.Works (fun _ _ => True) 0 (component P k which) (component P k which) := by
  refine (Works.compute fun _ _ _ hs => T.coordinate hs).bind fun c c' hc => ?_
  rcases c with _ | ⟨b, rest⟩
  · obtain rfl := hc.empty.mp rfl
    exact .fail _
  rcases c' with _ | ⟨b', rest'⟩
  · cases hc.empty.mpr rfl
  -- Beyond 32 bytes the length is told, and there it is the same.
  simp only [Component.ofBytes?]
  rcases hc.length with hlength | ⟨hle, hle'⟩
  · by_cases hle : (b :: rest).length ≤ 32
    · rw [dif_pos hle, dif_pos (hlength ▸ hle)]
      exact .pure trivial
    · rw [dif_neg hle, dif_neg (hlength ▸ hle), hlength]
      exact .fail _
  · rw [dif_pos hle, dif_pos hle']
    exact .pure trivial

/-! ## The whole -/

theorem works_attest (policy : KeyPolicy) {image image' : Bytes} (h : T.images image image') :
    T.Works (fun b b' => T.digests b.digest b'.digest) 1 (attest P policy image)
      (attest P policy image') := by
  refine (works_digest h).bind fun d d' hd => ?_
  refine (Works.log _).bind fun _ _ _ => ?_
  refine (works_keyFor policy).bind_rest fun k _ hk => ?_
  subst hk
  refine (works_component k .x).bind fun x x' _ => ?_
  refine (works_component k .y).bind fun y y' _ => ?_
  refine (works_signature k hd).bind fun signature signature' _ => ?_
  refine (Works.log _).bind fun _ _ _ => (Works.log _).bind fun _ _ _ => ?_
  exact (Works.act fun _ _ _ hs => hs.recordResult _ _).bind fun _ _ _ => .pure hd

end AttestedImaging.Pairing
