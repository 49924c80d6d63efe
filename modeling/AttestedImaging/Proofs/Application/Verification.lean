import AttestedImaging.Proofs.Application.Census
import AttestedImaging.Proofs.Bundle
import AttestedImaging.Proofs.PublicForm

/-!
# Attestations verify

The key of an attestation travels on three ways: as the handle that the session uses, as two stripped
coordinates, and as the copy that the signing operation holds. With the software provider and no faults
it is the same key on all of them, and the public form that a reader makes of the bundle is the key's.
-/

namespace AttestedImaging

namespace Software

open P256 (Scalar)

theorem coordinates {d : Scalar} {xs ys : Bytes} (hx : coordinate .x d = .ok xs)
    (hy : coordinate .y d = .ok ys) : ∃ x y, d.publicPoint? = some (x, y) ∧
      xs = Bytes.strip (Bytes.ofNat 32 x.val) ∧ ys = Bytes.strip (Bytes.ofNat 32 y.val) := by
  unfold coordinate at hx hy
  rcases hpoint : d.publicPoint? with _ | ⟨x, y⟩
  · simp only [hpoint] at hx
    cases hx
  · simp only [hpoint] at hx hy
    exact ⟨x, y, rfl, (Except.ok.inj hx).symm, (Except.ok.inj hy).symm⟩

end Software

namespace Application

open Invocation (slots)

variable {config : Config} {storage : Option Storage} {limit : Nat} {randomness : Randomness}
  {a a' : Application Software}

/-- After a success the bundle in slot 1 attests the image in slot 2 by the key of the session, and the
public form of that key validates the signature if the key does. -/
theorem invoke_verifies
    (ha : Reachable Software.provider config storage { limit, randomness } a) {number : Nat}
    {command : UInt32} {ps ps' : Parameters}
    (h : a.invoke Software.provider number command ps = (some (.ok, ps'), a')) :
    ∃ session calls k d x y b bundle gray,
      a.session? number = some session ∧ a.device.After Software.provider calls a'.device ∧
      a.device.provider.keysUsed calls = [(k, .ok d), (k, .ok d), (k, .ok d)] ∧
      a.device.provider.signingKey session.context.key = .ok d ∧
      (∃ context, a'.session? number = some { session with context } ∧
        context.key = config.keyPolicy.kept (some k)) ∧
      ps'[1]? = some (.memrefOutput bundle) ∧ Bundle.decode bundle.contents = .ok b ∧
      ps'[2]? = some (.memrefOutput gray) ∧ b.digest = Sha256.hash gray.contents ∧
      Ecdsa.sign? d b.digest.bytes = some b.signature ∧ d.publicPoint? = some (x, y) ∧
      (P256.isPoint x.val y.val →
        PublicForm.bundlePoint b = .ok (PublicForm.uncompressed x y) ∧
        (PublicForm.uncompressed x y).length = 65 ∧
        (Ecdsa.verifies x y b.digest.bytes b.signature.bytes →
          PublicForm.validates (PublicForm.uncompressed x y) b.digest.bytes b.signature.bytes)) := by
  obtain ⟨session, image, bundle, gray, calls, b, key, hsession, -, -, he, hd, hkept, rfl⟩ :=
    invoke_ok h
  obtain ⟨d, hkey⟩ := ha.signingKey_ok hsession
  rw [ha.sound.config_eq] at he hd hkept
  rw [ha.sound.idle number session hsession] at hd
  obtain ⟨t, hanswers, -⟩ := hd.answers.of_append
  replace hanswers : Software.provider.Answers a.device.provider calls t := hanswers
  obtain ⟨hdigest, hsign, hx, hy, k, rfl, hused⟩ :=
    he.attested ha.regular.1 hanswers (ha.perSession_of_key hsession) hkey
  obtain ⟨x, y, hpoint, hxs, hys⟩ := Software.coordinates hx hy
  refine ⟨session, _, k, d, x, y, b, ⟨b.encode ++ bundle.contents.drop 168, 168⟩,
    ⟨Grayscale.gray image, image.length⟩, hsession, hd, ?_, hkey, ⟨_, hkept, rfl⟩, rfl,
    b.decode_encode_append _, rfl, hdigest, hsign, hpoint,
    fun hcurve => ⟨?_, PublicForm.length_uncompressed x y, fun hverifies => ?_⟩⟩
  · -- The releases after the attestation use no key.
    have hall := Software.keysUsed_append hanswers
      (Call.releases (Holding.ofKey (config.keyPolicy.retired (some k))))
    rw [hused, Software.keysUsed_eq_nil _ (Software.keys_releases _), List.append_nil] at hall
    exact hall
  · rw [PublicForm.bundlePoint, hxs, hys, PublicForm.point_strip hcurve]
  · rw [PublicForm.validates, PublicForm.read?_uncompressed hcurve, Option.any_some]
    exact hverifies

/-- An application with one session, whose first key has a coordinate with two zero bytes in front. -/
def shortKeyApplication : Application Software :=
  (run Software.provider [.openSession Kinds.allAbsent]
    (create Software.provider {} none { randomness := { schedule := [2376] } })).2

set_option maxRecDepth 100000 in
/-- The public form of the short key is whole again, and it validates the signature. -/
theorem invoke_verifies_short :
    ∃ ps' a' b x y, shortKeyApplication.invoke Software.provider 0 0 (slots [1, 2, 3]
        (.ofContents (List.replicate 168 0)) (.ofContents [0, 0, 0])) = (some (.ok, ps'), a') ∧
      y.val < 256 ^ 30 ∧ PublicForm.bundlePoint b = .ok (PublicForm.uncompressed x y) ∧
      PublicForm.validates (PublicForm.uncompressed x y) b.digest.bytes b.signature.bytes := by
  have hok : (shortKeyApplication.invoke Software.provider 0 0 (slots [1, 2, 3]
      (.ofContents (List.replicate 168 0)) (.ofContents [0, 0, 0]))).1.map
      (fun answer => (answer.1, answer.2[2]?)) =
      some (.ok, some (.memrefOutput ⟨Grayscale.gray [1, 2, 3], 3⟩)) := by
    decide +kernel
  -- What is assumed of the curve, for this key and this digest.
  have hcurve : (P256.Scalar.publicPoint? ⟨2376, by decide, by decide⟩).all fun q =>
      P256.isPoint q.1.val q.2.val ∧ q.2.val < 256 ^ 30 ∧
      (Ecdsa.sign? ⟨2376, by decide, by decide⟩ (Sha256.hash (Grayscale.gray [1, 2, 3])).bytes).all
        fun signature => Ecdsa.verifies q.1 q.2 (Sha256.hash (Grayscale.gray [1, 2, 3])).bytes
          signature.bytes := by
    decide +kernel
  obtain ⟨⟨status, ps'⟩, hps', hanswer⟩ := Option.map_eq_some_iff.mp hok
  obtain ⟨rfl, hgray⟩ := Prod.mk.inj hanswer
  obtain ⟨session, calls, k, d, x, y, b, bundle, gray, hsession, -, -, hkey, -, -, -, hgray', hdigest,
    hsign, hpoint, hverifies⟩ := invoke_verifies (Reachable.run .create _) (Prod.ext hps' rfl)
  obtain rfl : { id := 1 } = session := Option.some.inj hsession
  obtain rfl : ⟨2376, by decide, by decide⟩ = d := Except.ok.inj hkey
  obtain rfl : ⟨Grayscale.gray [1, 2, 3], 3⟩ = gray :=
    Slot.memrefOutput.inj (Option.some.inj (hgray.symm.trans hgray'))
  rw [hpoint, Option.all_some, decide_eq_true_eq] at hcurve
  obtain ⟨hcurve, hshort, hsigned⟩ := hcurve
  rw [← hdigest, hsign, Option.all_some] at hsigned
  obtain ⟨hform, -, hvalid⟩ := hverifies hcurve
  exact ⟨ps', _, b, x, y, Prod.ext hps' rfl, hshort, hform, hvalid hsigned⟩

end Application

end AttestedImaging
