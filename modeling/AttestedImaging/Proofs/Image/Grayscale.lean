import AttestedImaging.Image.Grayscale
import Mathlib.Algebra.Order.Round
import Mathlib.Data.Rat.Floor
import Mathlib.Tactic.Linarith

/-!
# What it means to make pixels gray

The luminance of a pixel is its weighted mean, rounded, and lies between the least and the greatest of
its three bytes. So a gray pixel keeps its byte, and to make pixels gray twice is to do it once.
-/

namespace AttestedImaging.Grayscale

/-! ## One pixel -/

theorem weighted_le (r g b : UInt8) : weighted r g b ≤ 25500 := by
  have hr := r.toNat_lt
  have hg := g.toNat_lt
  have hb := b.toNat_lt
  unfold weighted
  omega

theorem rounded_lt (r g b : UInt8) : (weighted r g b + 50) / 100 < UInt8.size := by
  have h := weighted_le r g b
  have hsize : UInt8.size = 256 := rfl
  omega

theorem toNat_luminance (r g b : UInt8) :
    (luminance r g b).toNat = (weighted r g b + 50) / 100 := by
  rw [luminance, UInt8.toNat_ofNat_of_lt' (rounded_lt r g b)]

theorem luminance_bounds (r g b : UInt8) :
    min r.toNat (min g.toNat b.toNat) ≤ (luminance r g b).toNat ∧
      (luminance r g b).toNat ≤ max r.toNat (max g.toNat b.toNat) := by
  rw [toNat_luminance, weighted]
  omega

/-- Half of a whole number up to the next counts as the next. -/
theorem luminance_eq_round (r g b : UInt8) :
    ((luminance r g b).toNat : ℤ) =
      round ((30 * r.toNat + 59 * g.toNat + 11 * b.toNat : ℚ) / 100) := by
  have hlow : 100 * (luminance r g b).toNat ≤ weighted r g b + 50 := by
    rw [toNat_luminance]
    omega
  have hhigh : weighted r g b + 50 < 100 * (luminance r g b).toNat + 100 := by
    rw [toNat_luminance]
    omega
  have hlow' : (100 * (luminance r g b).toNat : ℚ) ≤
      30 * r.toNat + 59 * g.toNat + 11 * b.toNat + 50 := by
    exact_mod_cast hlow
  have hhigh' : (30 * r.toNat + 59 * g.toNat + 11 * b.toNat + 50 : ℚ) <
      100 * (luminance r g b).toNat + 100 := by
    exact_mod_cast hhigh
  rw [round_eq, eq_comm, Int.floor_eq_iff]
  constructor
  · push_cast
    linarith
  · push_cast
    linarith

theorem luminance_self (y : UInt8) : luminance y y y = y := by
  apply UInt8.toNat_inj.mp
  rw [toNat_luminance, weighted]
  omega

/-! ## Whole buffers -/

theorem gray_cons (r g b : UInt8) (rest : Bytes) :
    gray (r :: g :: b :: rest) =
      luminance r g b :: luminance r g b :: luminance r g b :: gray rest := rfl

theorem whole_cons {r g b : UInt8} {rest : Bytes} :
    (r :: g :: b :: rest).length % 3 = 0 ↔ rest.length % 3 = 0 := by
  simp only [List.length_cons]
  omega

theorem whole_induction {motive : (pixels : Bytes) → pixels.length % 3 = 0 → Prop}
    (nil : motive [] rfl)
    (pixel : ∀ r g b rest (h : rest.length % 3 = 0), motive rest h →
      motive (r :: g :: b :: rest) (whole_cons.mpr h))
    (pixels : Bytes) (h : pixels.length % 3 = 0) : motive pixels h := by
  induction pixels using luminances.induct with
  | case1 r g b rest ih => exact pixel r g b rest (whole_cons.mp h) (ih (whole_cons.mp h))
  | case2 pixels hp =>
    rcases pixels with _ | ⟨r, _ | ⟨g, _ | ⟨b, rest⟩⟩⟩
    · exact nil
    · simp at h
    · simp at h
    · exact absurd rfl (hp r g b rest)

theorem length_gray {pixels : Bytes} (h : pixels.length % 3 = 0) :
    (gray pixels).length = pixels.length := by
  induction pixels, h using whole_induction with
  | nil => rfl
  | pixel r g b rest hrest ih => simp only [gray_cons, List.length_cons, ih]

theorem gray_append {pixels : Bytes} (h : pixels.length % 3 = 0) (rest : Bytes) :
    gray (pixels ++ rest) = gray pixels ++ gray rest := by
  induction pixels, h using whole_induction with
  | nil => rfl
  | pixel r g b more hmore ih => simp only [List.cons_append, gray_cons, ih]

theorem gray_gray {pixels : Bytes} (h : pixels.length % 3 = 0) :
    gray (gray pixels) = gray pixels := by
  induction pixels, h using whole_induction with
  | nil => rfl
  | pixel r g b rest hrest ih => rw [gray_cons, gray_cons, luminance_self, ih]

theorem convert_of_whole {pixels : Bytes} (h : pixels.length % 3 = 0) :
    convert pixels = .ok (gray pixels) := by
  simp [convert, pixelSize, h]

theorem convert_of_broken {pixels : Bytes} (h : pixels.length % 3 ≠ 0) :
    convert pixels = .error (.brokenPixels pixels.length) := by
  simp [convert, pixelSize, h]

/-! ## Pixel by pixel -/

/-- The bytes of pixel number `i`. -/
structure PixelAt (pixels : Bytes) (i : Nat) (r g b : UInt8) : Prop where
  red : pixels[3 * i]? = some r
  green : pixels[3 * i + 1]? = some g
  blue : pixels[3 * i + 2]? = some b

/-- Whole pixels, and the three bytes of each are the same. -/
structure AllGray (pixels : Bytes) : Prop where
  whole : pixels.length % 3 = 0
  same : ∀ i r g b, PixelAt pixels i r g b → g = r ∧ b = r

theorem pixelAt_zero (r g b : UInt8) (rest : Bytes) : PixelAt (r :: g :: b :: rest) 0 r g b :=
  ⟨rfl, rfl, rfl⟩

theorem pixelAt_succ_iff {r g b r' g' b' : UInt8} {rest : Bytes} {i : Nat} :
    PixelAt (r :: g :: b :: rest) (i + 1) r' g' b' ↔ PixelAt rest i r' g' b' := by
  constructor
  · rintro ⟨hr, hg, hb⟩
    exact ⟨hr, hg, hb⟩
  · rintro ⟨hr, hg, hb⟩
    exact ⟨hr, hg, hb⟩

theorem PixelAt.gray {pixels : Bytes} {i : Nat} {r g b : UInt8} (h : PixelAt pixels i r g b) :
    PixelAt (gray pixels) i (luminance r g b) (luminance r g b) (luminance r g b) := by
  induction i generalizing pixels with
  | zero =>
    obtain ⟨hr, hg, hb⟩ := h
    rcases pixels with _ | ⟨r', _ | ⟨g', _ | ⟨b', rest⟩⟩⟩
    · cases hr
    · cases hg
    · cases hb
    · obtain rfl := Option.some.inj hr
      obtain rfl := Option.some.inj hg
      obtain rfl := Option.some.inj hb
      rw [gray_cons]
      exact pixelAt_zero _ _ _ _
  | succ i ih =>
    rcases pixels with _ | ⟨r', _ | ⟨g', _ | ⟨b', rest⟩⟩⟩
    · cases h.red
    · cases h.red
    · cases h.red
    · rw [gray_cons, pixelAt_succ_iff]
      exact ih (pixelAt_succ_iff.mp h)

theorem AllGray.of_cons {r g b : UInt8} {rest : Bytes} (h : AllGray (r :: g :: b :: rest)) :
    g = r ∧ b = r ∧ AllGray rest := by
  have hfirst := h.same 0 r g b (pixelAt_zero r g b rest)
  refine ⟨hfirst.1, hfirst.2, whole_cons.mp h.whole, ?_⟩
  intro i r' g' b' hi
  exact h.same (i + 1) r' g' b' (pixelAt_succ_iff.mpr hi)

theorem AllGray.gray_eq {pixels : Bytes} (h : AllGray pixels) : gray pixels = pixels := by
  have hwhole := h.whole
  induction pixels, hwhole using whole_induction with
  | nil => rfl
  | pixel r g b rest hrest ih =>
    obtain ⟨rfl, rfl, hmore⟩ := h.of_cons
    rw [gray_cons, luminance_self, ih hmore]

theorem allGray_of_gray_eq {pixels : Bytes} (hwhole : pixels.length % 3 = 0)
    (h : gray pixels = pixels) : AllGray pixels := by
  refine ⟨hwhole, ?_⟩
  intro i r g b hi
  have hgray := hi.gray
  rw [h] at hgray
  have hr : luminance r g b = r := Option.some.inj (hgray.red.symm.trans hi.red)
  have hg : luminance r g b = g := Option.some.inj (hgray.green.symm.trans hi.green)
  have hb : luminance r g b = b := Option.some.inj (hgray.blue.symm.trans hi.blue)
  exact ⟨hg.symm.trans hr, hb.symm.trans hr⟩

/-! ## In place -/

/-- What a buffer holds after it was to be made gray. One that is refused is left alone. -/
def applied (pixels : Bytes) : Bytes := (convert pixels).toOption.getD pixels

theorem applied_of_whole {pixels : Bytes} (h : pixels.length % 3 = 0) :
    applied pixels = gray pixels := by
  rw [applied, convert_of_whole h]
  rfl

theorem applied_of_broken {pixels : Bytes} (h : pixels.length % 3 ≠ 0) :
    applied pixels = pixels := by
  rw [applied, convert_of_broken h]
  rfl

theorem applied_applied (pixels : Bytes) : applied (applied pixels) = applied pixels := by
  by_cases h : pixels.length % 3 = 0
  · have hgray : (gray pixels).length % 3 = 0 := by rwa [length_gray h]
    rw [applied_of_whole h, applied_of_whole hgray, gray_gray h]
  · rw [applied_of_broken h, applied_of_broken h]

theorem convert_eq_self_iff (pixels : Bytes) : convert pixels = .ok pixels ↔ AllGray pixels := by
  constructor
  · intro h
    by_cases hwhole : pixels.length % 3 = 0
    · rw [convert_of_whole hwhole] at h
      exact allGray_of_gray_eq hwhole (Except.ok.inj h)
    · rw [convert_of_broken hwhole] at h
      cases h
  · intro h
    rw [convert_of_whole h.whole, h.gray_eq]

/-- Whole pixels become their weighted means, with halves rounded up and no overflow, and a second time
nothing changes. Other lengths are refused. -/
theorem converts_pixels (pixels : Bytes) :
    (∀ f : Failure, (convert pixels).mapError Failure.badParameters = .error f ↔
      pixels.length % 3 ≠ 0 ∧ f = .badParameters (.brokenPixels pixels.length)) ∧
    (pixels.length % 3 ≠ 0 → applied pixels = pixels) ∧
    (pixels.length % 3 = 0 → convert pixels = .ok (applied pixels) ∧
      (applied pixels).length = pixels.length ∧
      ∀ i r g b, PixelAt pixels i r g b → ∃ y, PixelAt (applied pixels) i y y y ∧
        (y.toNat : ℤ) = round ((30 * r.toNat + 59 * g.toNat + 11 * b.toNat : ℚ) / 100) ∧
        30 * r.toNat + 59 * g.toNat + 11 * b.toNat + 50 < UInt32.size ∧
        y.toNat = (30 * r.toNat + 59 * g.toNat + 11 * b.toNat + 50) / 100 ∧
        min r.toNat (min g.toNat b.toNat) ≤ y.toNat ∧
        y.toNat ≤ max r.toNat (max g.toNat b.toNat)) ∧
    applied (applied pixels) = applied pixels ∧
    (convert pixels = .ok pixels ↔ AllGray pixels) ∧
    ∀ rest : Bytes, pixels.length % 3 = 0 → rest.length % 3 = 0 →
      convert (pixels ++ rest) = .ok (applied pixels ++ applied rest) := by
  refine ⟨?_, applied_of_broken, ?_, applied_applied pixels, convert_eq_self_iff pixels, ?_⟩
  · intro f
    by_cases h : pixels.length % 3 = 0
    · rw [convert_of_whole h]
      simp [h, Except.mapError]
    · rw [convert_of_broken h]
      simp [h, Except.mapError, eq_comm]
  · intro h
    rw [applied_of_whole h]
    refine ⟨convert_of_whole h, length_gray h, ?_⟩
    intro i r g b hi
    have hsum := weighted_le r g b
    have hsize : UInt32.size = 4294967296 := rfl
    unfold weighted at hsum
    exact ⟨luminance r g b, hi.gray, luminance_eq_round r g b, by omega, toNat_luminance r g b,
      luminance_bounds r g b⟩
  · intro rest h hrest
    have hboth : (pixels ++ rest).length % 3 = 0 := by
      rw [List.length_append]
      omega
    rw [convert_of_whole hboth, gray_append h, applied_of_whole h, applied_of_whole hrest]

example : applied [255, 0, 0, 0, 255, 0] = [77, 77, 77, 150, 150, 150] := by decide

end AttestedImaging.Grayscale
