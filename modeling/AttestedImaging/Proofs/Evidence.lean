import AttestedImaging.Evidence
import AttestedImaging.Proofs.Application.Verification
import AttestedImaging.Proofs.Bundle
import AttestedImaging.Proofs.PublicForm.Point
import AttestedImaging.Proofs.PublicForm.Signature

/-!
# What the evidence shows

The report on a bundle shows all of it, so the bundle can be had back from the report. There is a report
for every bundle whose signature and key have a public form, and those that are issued are such bundles.
-/

namespace AttestedImaging

namespace Bundle

/-- The numbers of the signature are from 1 to the last one below the order of the base point. -/
def InRange (b : Bundle) : Prop :=
  let r := Bytes.toNat (b.signature.bytes.take 32)
  let s := Bytes.toNat (b.signature.bytes.drop 32)
  (0 < r ∧ r < P256.order) ∧ 0 < s ∧ s < P256.order

/-- The padded components are the coordinates of a point. -/
def OnCurve (b : Bundle) : Prop :=
  ∃ x y : Fixed 32, PublicForm.pad b.x.bytes = .ok x ∧ PublicForm.pad b.y.bytes = .ok y ∧
    (Bytes.toNat x.bytes < P256.p ∧ Bytes.toNat y.bytes < P256.p) ∧
    P256.OnCurve (Bytes.toNat x.bytes) (Bytes.toNat y.bytes)

variable {b : Bundle}

theorem inRange_iff : b.InRange ↔
    Ecdsa.inRange (Ecdsa.numbers b.signature.bytes).1 (Ecdsa.numbers b.signature.bytes).2 :=
  PublicForm.inRange_iff.symm

theorem onCurve_iff : b.OnCurve ↔
    P256.isPoint (Bytes.toNat b.x.bytes) (Bytes.toNat b.y.bytes) := by
  rw [P256.isPoint_iff]
  constructor
  · rintro ⟨x, y, hx, hy, hpoint⟩
    rwa [(PublicForm.pad_ok_iff.mp hx).2, (PublicForm.pad_ok_iff.mp hy).2] at hpoint
  · intro hpoint
    have hx := PublicForm.pad_of_le b.x.length_le
    have hy := PublicForm.pad_of_le b.y.length_le
    refine ⟨_, _, hx, hy, ?_⟩
    rwa [(PublicForm.pad_ok_iff.mp hx).2, (PublicForm.pad_ok_iff.mp hy).2]

end Bundle

namespace Evidence

variable {b b' : Bundle} {e e' : Evidence} {micros width height : Nat}

/-! ## What a report shows -/

/-- A field shows these bytes as hexadecimal text. -/
def Shows (e : Evidence) (field : String) (bytes : Bytes) : Prop :=
  ∃ text, e.fields.lookup field = some (.text text) ∧ Hex.decode? text = some bytes

/-- The fields of a report show the parts of a bundle as they are, the signature once more as what a
strict reader of DER takes for its two numbers, and the padded key once more as a point of 65 bytes. -/
structure Tells (e : Evidence) (b : Bundle) : Prop where
  digest : e.Shows "digest" b.digest.bytes
  signature : e.Shows "signature" b.signature.bytes
  x : e.Shows "pub_key_x" b.x.bytes
  y : e.Shows "pub_key_y" b.y.bytes
  der : ∃ der, e.Shows "signature_der" der ∧ Der.decode? der =
    some (Bytes.toNat (b.signature.bytes.take 32), Bytes.toNat (b.signature.bytes.drop 32))
  point : ∃ x y : Fixed 32, PublicForm.pad b.x.bytes = .ok x ∧ PublicForm.pad b.y.bytes = .ok y ∧
    e.Shows "public_key_sec1" (0x04 :: x.bytes ++ y.bytes)

theorem Shows.unique {field : String} {bytes bytes' : Bytes} (h : e.Shows field bytes)
    (h' : e'.Shows field bytes') (hfields : e.fields = e'.fields) : bytes = bytes' := by
  obtain ⟨text, hlookup, hread⟩ := h
  obtain ⟨text', hlookup', hread'⟩ := h'
  rw [hfields, hlookup'] at hlookup
  obtain rfl : text' = text := Text.Json.text.inj (Option.some.inj hlookup)
  exact Option.some.inj (hread.symm.trans hread')

theorem Tells.unique (h : e.Tells b) (h' : e'.Tells b') (hfields : e.fields = e'.fields) : b = b' := by
  have hdigest := Fixed.bytes_inj (h.digest.unique h'.digest hfields)
  have hsignature := Fixed.bytes_inj (h.signature.unique h'.signature hfields)
  have hx := Component.bytes_inj (h.x.unique h'.x hfields)
  have hy := Component.bytes_inj (h.y.unique h'.y hfields)
  cases b
  cases b'
  simp_all

/-! ## When there is a report -/

theorem ofBundle_of_not_inRange (h : ¬ b.InRange) :
    ofBundle b micros width height = .error .signatureRange := by
  have hsignature : PublicForm.signature b.signature.bytes = .error .signatureRange :=
    PublicForm.signature_error_iff.mpr (.inr ⟨b.signature.length_eq, Bundle.inRange_iff.not.mp h, rfl⟩)
  rw [ofBundle, hsignature]
  rfl

theorem ofBundle_of_not_onCurve (hrange : b.InRange) (h : ¬ b.OnCurve) :
    ofBundle b micros width height = .error .notOnCurve := by
  have hsignature := PublicForm.signature_ok_iff.mpr
    ⟨b.signature.length_eq, Bundle.inRange_iff.mp hrange, rfl⟩
  have hpoint : PublicForm.bundlePoint b = .error .notOnCurve :=
    PublicForm.point_error_iff.mpr
      (.inr (.inr ⟨b.x.length_le, b.y.length_le, rfl, Bundle.onCurve_iff.not.mp h⟩))
  rw [ofBundle, hsignature, hpoint]
  rfl

theorem ofBundle_ok (hrange : b.InRange) (h : b.OnCurve) (micros width height : Nat) :
    ∃ e, ofBundle b micros width height = .ok e ∧ e.Tells b := by
  obtain ⟨hr, hs⟩ := PublicForm.numbers_lt b.signature.length_eq
  obtain ⟨x, y, hx, hy, -⟩ := id h
  have hsignature := PublicForm.signature_ok_iff.mpr
    ⟨b.signature.length_eq, Bundle.inRange_iff.mp hrange, rfl⟩
  have hpoint : PublicForm.bundlePoint b = .ok (0x04 :: x.bytes ++ y.bytes) :=
    PublicForm.point_ok_iff.mpr ⟨x, y, hx, hy, Bundle.onCurve_iff.mp h, rfl⟩
  have hshows : ∀ {e : Evidence} {field bytes}, e.fields.lookup field = some (.text (Hex.encode bytes)) →
      e.Shows field bytes := fun hlookup => ⟨_, hlookup, Hex.decode?_encode _⟩
  rw [ofBundle, hsignature, hpoint]
  exact ⟨_, rfl, hshows rfl, hshows rfl, hshows rfl, hshows rfl,
    ⟨_, hshows rfl, Der.decode?_encode hr hs⟩, x, y, hx, hy, hshows rfl⟩

theorem ofBundle_error_iff {f : PublicForm.Fault} : ofBundle b micros width height = .error f ↔
    (¬ b.InRange ∧ f = .signatureRange) ∨ (b.InRange ∧ ¬ b.OnCurve ∧ f = .notOnCurve) := by
  by_cases hrange : b.InRange
  · by_cases hcurve : b.OnCurve
    · obtain ⟨e, he, -⟩ := ofBundle_ok hrange hcurve micros width height
      simp [he, hrange, hcurve]
    · simp [ofBundle_of_not_onCurve hrange hcurve, hrange, hcurve, eq_comm]
  · simp [ofBundle_of_not_inRange hrange, hrange, eq_comm]

theorem tells_of_ok (h : ofBundle b micros width height = .ok e) : e.Tells b := by
  have hnot : ∀ f, ¬ ofBundle b micros width height = .error f := by
    intro f hf
    rw [h] at hf
    cases hf
  have hrange : b.InRange := by
    by_contra hrange
    exact hnot _ (ofBundle_of_not_inRange hrange)
  have hcurve : b.OnCurve := by
    by_contra hcurve
    exact hnot _ (ofBundle_of_not_onCurve hrange hcurve)
  obtain ⟨e', he', htells⟩ := ofBundle_ok hrange hcurve micros width height
  obtain rfl : e = e' := Except.ok.inj (h.symm.trans he')
  exact htells

end Evidence

namespace Application

variable {config : Config} {storage : Option Storage} {limit : Nat} {randomness : Randomness}
  {a a' : Application Software}

/-! ## What is issued -/

theorem issued_valid
    (ha : Reachable Software.provider config storage { limit, randomness } a) {number : Nat}
    {session : Session} (hsession : a.session? number = some session)
    (hcurve : ∀ d x y, a.device.provider.signingKey session.context.key = .ok d →
      d.publicPoint? = some (x, y) → P256.isPoint x.val y.val)
    {command : UInt32} {ps ps' : Parameters}
    (h : a.invoke Software.provider number command ps = (some (.ok, ps'), a')) :
    ∃ bundle b, ps'[1]? = some (.memrefOutput bundle) ∧ Bundle.decode bundle.contents = .ok b ∧
      b.InRange ∧ b.OnCurve := by
  obtain ⟨session', image, bundle, gray, calls, b, key, hsession', -, -, he, hd, -, rfl⟩ := invoke_ok h
  obtain rfl : session = session' := Option.some.inj (hsession.symm.trans hsession')
  obtain ⟨d, hkey⟩ := ha.signingKey_ok hsession
  rw [ha.sound.config_eq] at he hd
  rw [ha.sound.idle number session hsession] at hd
  obtain ⟨t, hanswers, -⟩ := hd.answers.of_append
  replace hanswers : Software.provider.Answers a.device.provider calls t := hanswers
  obtain ⟨-, hsign, hx, hy, -⟩ :=
    he.attested ha.regular.1 hanswers (ha.perSession_of_key hsession) hkey
  obtain ⟨x, y, hpoint, hxs, hys⟩ := Software.coordinates hx hy
  obtain ⟨r, s, hnumbers, hrange, -⟩ := PublicForm.signature_of_sign hsign
  refine ⟨⟨b.encode ++ bundle.contents.drop 168, 168⟩, b, rfl, b.decode_encode_append _, ?_, ?_⟩
  · rwa [Bundle.inRange_iff, hnumbers]
  · rw [Bundle.onCurve_iff, hxs, hys, PublicForm.toNat_strip_val, PublicForm.toNat_strip_val]
    exact hcurve d x y hkey hpoint

end Application

namespace Evidence

open Application (Reachable shortKeyApplication)
open Invocation (slots)

/-- A report fails for a signature out of range and for a key off the curve only, it determines its bundle,
and every bundle that is issued has one. -/
theorem reports_faithful :
    (∀ (b : Bundle) micros width height f, ofBundle b micros width height = .error f ↔
      (¬ b.InRange ∧ f = .signatureRange) ∨ (b.InRange ∧ ¬ b.OnCurve ∧ f = .notOnCurve)) ∧
    (∀ b : Bundle, b.InRange → b.OnCurve → ∀ micros width height,
      ∃ e, ofBundle b micros width height = .ok e ∧ e.Tells b) ∧
    (∀ (b b' : Bundle) micros width height micros' width' height' e e',
      ofBundle b micros width height = .ok e → ofBundle b' micros' width' height' = .ok e' →
      e.fields = e'.fields → b = b') ∧
    ∀ {config storage limit randomness} {a a' : Application Software} {number session command ps ps'},
      Reachable Software.provider config storage { limit, randomness } a →
      a.session? number = some session →
      (∀ d x y, a.device.provider.signingKey session.context.key = .ok d →
        d.publicPoint? = some (x, y) → P256.isPoint x.val y.val) →
      a.invoke Software.provider number command ps = (some (.ok, ps'), a') →
      ∃ bundle b, ps'[1]? = some (.memrefOutput bundle) ∧ Bundle.decode bundle.contents = .ok b ∧
        b.InRange ∧ b.OnCurve ∧ ∀ micros width height,
          ∃ e, ofBundle b micros width height = .ok e ∧ e.Tells b := by
  refine ⟨fun _ _ _ _ _ => ofBundle_error_iff, fun _ => ofBundle_ok, ?_, ?_⟩
  · intro b b' _ _ _ _ _ _ e e' h h' hfields
    exact (tells_of_ok h).unique (tells_of_ok h') hfields
  · intro config storage limit randomness a a' number session command ps ps' ha hsession hcurve h
    obtain ⟨bundle, b, hslot, hdecode, hrange, honcurve⟩ :=
      Application.issued_valid ha hsession hcurve h
    exact ⟨bundle, b, hslot, hdecode, hrange, honcurve, ofBundle_ok hrange honcurve⟩

set_option maxRecDepth 100000 in
/-- The report on a bundle whose key has two zero bytes in front of `y`. -/
theorem reports_faithful_short :
    ∃ ps' a' bundle b e, shortKeyApplication.invoke Software.provider 0 0 (slots [1, 2, 3]
        (.ofContents (List.replicate 168 0)) (.ofContents [0, 0, 0])) = (some (.ok, ps'), a') ∧
      ps'[1]? = some (.memrefOutput bundle) ∧ Bundle.decode bundle.contents = .ok b ∧
      b.y.bytes.length = 30 ∧ ofBundle b 1500 1 1 = .ok e ∧ e.Tells b ∧
      ∀ b' e', ofBundle b' 0 1 1 = .ok e' → e.fields = e'.fields → b = b' := by
  have hok : (shortKeyApplication.invoke Software.provider 0 0 (slots [1, 2, 3]
      (.ofContents (List.replicate 168 0)) (.ofContents [0, 0, 0]))).1.map (fun answer =>
        (answer.1, (answer.2[1]?.bind Slot.output?).map fun bundle =>
          (Bundle.decode bundle.contents).toOption.map (·.y.bytes.length))) =
      some (.ok, some (some 30)) := by
    decide +kernel
  -- What is assumed of the curve, for this key.
  have hcurve : (P256.Scalar.publicPoint? ⟨2376, by decide, by decide⟩).all fun q =>
      P256.isPoint q.1.val q.2.val := by
    decide +kernel
  obtain ⟨-, hreport, hunique, hissued⟩ := reports_faithful
  obtain ⟨⟨status, ps'⟩, hps', hanswer⟩ := Option.map_eq_some_iff.mp hok
  obtain ⟨rfl, hlength⟩ := Prod.mk.inj hanswer
  have hsession : shortKeyApplication.session? 0 = some { id := 1 } := rfl
  obtain ⟨bundle, b, hslot, hdecode, hrange, honcurve, -⟩ :=
    hissued (Reachable.run .create _) hsession (by
      intro d x y hkey hpoint
      obtain rfl : ⟨2376, by decide, by decide⟩ = d := Except.ok.inj hkey
      rwa [hpoint, Option.all_some] at hcurve) (Prod.ext hps' rfl)
  obtain ⟨e, he, htells⟩ := hreport b hrange honcurve 1500 1 1
  have hshort : b.y.bytes.length = 30 := by
    simpa only [hslot, Option.bind_some, Slot.output?, Option.map_some, hdecode, Except.toOption,
      Option.some.injEq] using hlength
  exact ⟨ps', _, bundle, b, e, Prod.ext hps' rfl, hslot, hdecode, hshort, he, htells,
    fun b' e' he' hfields => hunique b b' _ _ _ _ _ _ e e' he he' hfields⟩

end Evidence

end AttestedImaging
