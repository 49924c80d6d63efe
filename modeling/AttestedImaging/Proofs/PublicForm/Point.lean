import AttestedImaging.Proofs.PublicForm
import AttestedImaging.Provider.Software

/-!
# Which components make a public key

A component stands for the number that its bytes are, so zero bytes in front make no difference. Two
components make a key if they fit into 32 bytes each and their numbers are the coordinates of a point.
-/

namespace AttestedImaging

namespace P256

/-- The equation `y² = x³ - 3x + b`, modulo `p`. -/
def OnCurve (x y : Nat) : Prop := (y : ℤ) ^ 2 ≡ x ^ 3 - 3 * x + b.val [ZMOD p]

theorem onCurve_iff (x y : Nat) :
    OnCurve x y ↔ (y * y + 3 * x) % p = (x * x * x + b.val) % p := by
  have hcast : (y * y + 3 * x) % p = (x * x * x + b.val) % p ↔
      (y * y + 3 * x : ℤ) ≡ x * x * x + b.val [ZMOD p] := by
    rw [← Nat.ModEq, ← Int.natCast_modEq_iff]
    push_cast
    rfl
  have hleft : (y * y + 3 * x : ℤ) = y ^ 2 + 3 * x := by ring
  have hright : (x * x * x + b.val : ℤ) = x ^ 3 - 3 * x + b.val + 3 * x := by ring
  rw [hcast, hleft, hright, OnCurve]
  exact ⟨Int.ModEq.add_right _, Int.ModEq.add_right_cancel' _⟩

theorem isPoint_iff {x y : Nat} : isPoint x y ↔ (x < p ∧ y < p) ∧ OnCurve x y := by
  simp [isPoint, onCurve_iff, and_assoc]

end P256

namespace PublicForm

open P256 (Scalar Field OnCurve)

theorem pad_error_iff {c : Bytes} {f : Fault} :
    pad c = .error f ↔ 32 < c.length ∧ f = .componentTooLong c.length := by
  unfold pad
  grind

theorem pad_ok_iff {c : Bytes} {padded : Fixed 32} :
    pad c = .ok padded ↔ c.length ≤ 32 ∧ Bytes.toNat padded.bytes = Bytes.toNat c := by
  by_cases h : c.length ≤ 32
  · rw [pad_of_le h, Except.ok.injEq]
    constructor
    · rintro rfl
      exact ⟨h, Bytes.toNat_ofNat_toNat h⟩
    · rintro ⟨-, heq⟩
      rw [← heq, padded.ofNat_toNat]
  · rw [pad, dif_neg h]
    simp [h]

theorem point_long_x {x : Bytes} (y : Bytes) (hx : 32 < x.length) :
    point x y = .error (.componentTooLong x.length) := by
  rw [point, pad_error_iff.mpr ⟨hx, rfl⟩]
  rfl

theorem point_long_y {x y : Bytes} (hx : x.length ≤ 32) (hy : 32 < y.length) :
    point x y = .error (.componentTooLong y.length) := by
  rw [point, pad_of_le hx, pad_error_iff.mpr ⟨hy, rfl⟩]
  rfl

theorem point_error_iff {x y : Bytes} {f : Fault} : point x y = .error f ↔
    (32 < x.length ∧ f = .componentTooLong x.length) ∨
    (x.length ≤ 32 ∧ 32 < y.length ∧ f = .componentTooLong y.length) ∨
    (x.length ≤ 32 ∧ y.length ≤ 32 ∧ f = .notOnCurve ∧
      ¬ P256.isPoint (Bytes.toNat x) (Bytes.toNat y)) := by
  rcases Nat.lt_or_ge 32 x.length with hx | hx
  · rw [point_long_x y hx]
    grind
  rcases Nat.lt_or_ge 32 y.length with hy | hy
  · rw [point_long_y hx hy]
    grind
  · rw [point_of_le hx hy]
    grind

theorem point_ok_iff {x y key : Bytes} : point x y = .ok key ↔ ∃ paddedX paddedY : Fixed 32,
    pad x = .ok paddedX ∧ pad y = .ok paddedY ∧ P256.isPoint (Bytes.toNat x) (Bytes.toNat y) ∧
    key = 0x04 :: paddedX.bytes ++ paddedY.bytes := by
  constructor
  · intro h
    have hx : x.length ≤ 32 := by
      refine Nat.not_lt.mp fun hlong => ?_
      rw [point_long_x y hlong] at h
      cases h
    have hy : y.length ≤ 32 := by
      refine Nat.not_lt.mp fun hlong => ?_
      rw [point_long_y hx hlong] at h
      cases h
    rw [point_of_le hx hy] at h
    split at h
    · next hpoint => exact ⟨_, _, pad_of_le hx, pad_of_le hy, hpoint, (Except.ok.inj h).symm⟩
    · cases h
  · rintro ⟨paddedX, paddedY, hx, hy, hpoint, rfl⟩
    obtain ⟨hlex, hvaluex⟩ := pad_ok_iff.mp hx
    obtain ⟨hley, hvaluey⟩ := pad_ok_iff.mp hy
    rw [point_of_le hlex hley, if_pos hpoint, ← hvaluex, ← hvaluey, Bytes.ofNat_toNat_bytes,
      Bytes.ofNat_toNat_bytes]

theorem point_replicate_append {x y : Bytes} {i j : Nat} (hx : i + x.length ≤ 32)
    (hy : j + y.length ≤ 32) :
    point (List.replicate i 0 ++ x) (List.replicate j 0 ++ y) = point x y := by
  rw [point_of_le (by simpa using hx) (by simpa using hy), point_of_le (by omega) (by omega),
    Bytes.toNat_replicate_append, Bytes.toNat_replicate_append]

theorem coordinate_eq {d : Scalar} {x y : Field} (h : d.publicPoint? = some (x, y)) :
    Software.coordinate .x d = .ok (Bytes.strip (Bytes.ofNat 32 x.val)) ∧
      Software.coordinate .y d = .ok (Bytes.strip (Bytes.ofNat 32 y.val)) := by
  simp only [Software.coordinate, h, and_self]

theorem pad_coordinate {d : Scalar} {x y : Field} (h : d.publicPoint? = some (x, y)) :
    (∃ bytes, Software.coordinate .x d = .ok bytes ∧ pad bytes = .ok (Fixed.ofNat 32 x.val)) ∧
      ∃ bytes, Software.coordinate .y d = .ok bytes ∧ pad bytes = .ok (Fixed.ofNat 32 y.val) := by
  obtain ⟨hx, hy⟩ := coordinate_eq h
  exact ⟨⟨_, hx, pad_strip (Fixed.ofNat 32 x.val)⟩, ⟨_, hy, pad_strip (Fixed.ofNat 32 y.val)⟩⟩

/-- Padding keeps the number, so an exported coordinate comes back, and a key with coordinates of a point is
the byte 4 and both of them. -/
theorem points_assembled :
    (∀ c f, pad c = .error f ↔ 32 < c.length ∧ f = .componentTooLong c.length) ∧
    (∀ c padded, pad c = .ok padded ↔
      c.length ≤ 32 ∧ Bytes.toNat padded.bytes = Bytes.toNat c) ∧
    (∀ c : Fixed 32, pad (Bytes.strip c.bytes) = .ok c) ∧
    (∀ (d : Scalar) x y, d.publicPoint? = some (x, y) →
      (∃ bytes, Software.coordinate .x d = .ok bytes ∧ pad bytes = .ok (Fixed.ofNat 32 x.val)) ∧
      ∃ bytes, Software.coordinate .y d = .ok bytes ∧ pad bytes = .ok (Fixed.ofNat 32 y.val)) ∧
    (∀ x y f, point x y = .error f ↔
      (32 < x.length ∧ f = .componentTooLong x.length) ∨
      (x.length ≤ 32 ∧ 32 < y.length ∧ f = .componentTooLong y.length) ∨
      (x.length ≤ 32 ∧ y.length ≤ 32 ∧ f = .notOnCurve ∧
        ¬ ((Bytes.toNat x < P256.p ∧ Bytes.toNat y < P256.p) ∧
          OnCurve (Bytes.toNat x) (Bytes.toNat y)))) ∧
    (∀ x y key, point x y = .ok key ↔ ∃ paddedX paddedY : Fixed 32,
      pad x = .ok paddedX ∧ pad y = .ok paddedY ∧
      ((Bytes.toNat x < P256.p ∧ Bytes.toNat y < P256.p) ∧
        OnCurve (Bytes.toNat x) (Bytes.toNat y)) ∧
      key = 0x04 :: paddedX.bytes ++ paddedY.bytes) ∧
    ∀ i j (x y : Bytes), i + x.length ≤ 32 → j + y.length ≤ 32 →
      point (List.replicate i 0 ++ x) (List.replicate j 0 ++ y) = point x y := by
  refine ⟨fun _ _ => pad_error_iff, fun _ _ => pad_ok_iff, pad_strip, fun _ _ _ => pad_coordinate,
    ?_, ?_, fun _ _ _ _ => point_replicate_append⟩
  · intro x y f
    rw [point_error_iff, P256.isPoint_iff]
  · intro x y key
    rw [point_ok_iff, P256.isPoint_iff]

/-- A key with two zero bytes in front of `y`, which are not exported. -/
theorem points_assembled_short : ∃ d x y ys, Scalar.publicPoint? d = some (x, y) ∧
    Software.coordinate .y d = .ok ys ∧ ys.length = 30 ∧ pad ys = .ok (Fixed.ofNat 32 y.val) ∧
    point (Bytes.ofNat 32 x.val) (List.replicate 2 0 ++ ys) = point (Bytes.ofNat 32 x.val) ys := by
  obtain ⟨-, -, -, hexports, -, -, hzeros⟩ := points_assembled
  have hshort : (Scalar.publicPoint? ⟨2376, by decide, by decide⟩).any fun q =>
      (Bytes.strip (Bytes.ofNat 32 q.2.val)).length = 30 := by
    decide +kernel
  obtain ⟨⟨x, y⟩, hpoint, hlength⟩ := (Option.any_eq_true _ _).mp hshort
  obtain ⟨-, ys, hys, hpad⟩ := hexports _ x y hpoint
  obtain rfl : Bytes.strip (Bytes.ofNat 32 y.val) = ys :=
    Except.ok.inj ((coordinate_eq hpoint).2.symm.trans hys)
  have hlength : (Bytes.strip (Bytes.ofNat 32 y.val)).length = 30 := of_decide_eq_true hlength
  refine ⟨_, x, y, _, hpoint, hys, hlength, hpad, ?_⟩
  have hsame := hzeros 0 2 (Bytes.ofNat 32 x.val) (Bytes.strip (Bytes.ofNat 32 y.val))
    (by rw [Bytes.length_ofNat]) (by rw [hlength])
  rwa [List.replicate_zero, List.nil_append] at hsame

end PublicForm

end AttestedImaging
