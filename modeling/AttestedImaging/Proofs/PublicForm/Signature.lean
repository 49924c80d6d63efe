import AttestedImaging.Crypto.PublicForm
import AttestedImaging.Proofs.Der

/-!
# The public form of a signature

A signature of 64 bytes with both numbers within their range has one DER text, from which the two numbers
are read back, and so the 64 bytes.
-/

namespace AttestedImaging.PublicForm

theorem numbers_lt {raw : Bytes} (h : raw.length = 64) :
    (Ecdsa.numbers raw).1 < 256 ^ 32 ∧ (Ecdsa.numbers raw).2 < 256 ^ 32 := by
  have hr := Bytes.toNat_lt (raw.take 32)
  have hs := Bytes.toNat_lt (raw.drop 32)
  rw [List.length_take, h] at hr
  rw [List.length_drop, h] at hs
  exact ⟨hr, hs⟩

theorem numbers_inj {raw raw' : Bytes} (h : raw.length = raw'.length)
    (heq : Ecdsa.numbers raw = Ecdsa.numbers raw') : raw = raw' := by
  obtain ⟨hr, hs⟩ := Prod.mk.inj heq
  rw [← List.take_append_drop 32 raw, ← List.take_append_drop 32 raw',
    Bytes.toNat_inj (by simp [h]) hr, Bytes.toNat_inj (by simp [h]) hs]

theorem inRange_iff {r s : Nat} :
    Ecdsa.inRange r s ↔ (0 < r ∧ r < P256.order) ∧ 0 < s ∧ s < P256.order := by
  simp [Ecdsa.inRange, and_assoc]

theorem signature_ok_iff {raw der : Bytes} : signature raw = .ok der ↔
    raw.length = 64 ∧ Ecdsa.inRange (Ecdsa.numbers raw).1 (Ecdsa.numbers raw).2 ∧
      der = Der.encode (Ecdsa.numbers raw).1 (Ecdsa.numbers raw).2 := by
  unfold signature
  grind

theorem signature_error_iff {raw : Bytes} {f : Fault} : signature raw = .error f ↔
    (raw.length ≠ 64 ∧ f = .signatureLength raw.length) ∨
    (raw.length = 64 ∧ ¬ Ecdsa.inRange (Ecdsa.numbers raw).1 (Ecdsa.numbers raw).2 ∧
      f = .signatureRange) := by
  unfold signature
  grind

/-- The DER form of a raw signature is the one text that a strict reader takes for its two numbers, which
must be in range. -/
theorem signature_strict (raw : Bytes) :
    let r := Bytes.toNat (raw.take 32)
    let s := Bytes.toNat (raw.drop 32)
    let allowed := (0 < r ∧ r < P256.order) ∧ 0 < s ∧ s < P256.order
    (∀ f, signature raw = .error f ↔
      (raw.length ≠ 64 ∧ f = .signatureLength raw.length) ∨
      (raw.length = 64 ∧ ¬ allowed ∧ f = .signatureRange)) ∧
    (∀ der, signature raw = .ok der ↔
      raw.length = 64 ∧ allowed ∧ Der.decode? der = some (r, s)) ∧
    ∀ der, signature raw = .ok der →
      (∃ a b, Der.Minimal a r ∧ Der.Minimal b s ∧
        der = Der.element 0x30 (Der.element 0x02 a ++ Der.element 0x02 b)) ∧
      8 ≤ der.length ∧ der.length ≤ 72 ∧ ∀ raw', signature raw' = .ok der → raw' = raw := by
  intro r s allowed
  have hnumbers : Ecdsa.numbers raw = (r, s) := rfl
  have hallowed : Ecdsa.inRange r s ↔ allowed := inRange_iff
  refine ⟨?_, ?_, ?_⟩
  · intro f
    rw [signature_error_iff, hnumbers, hallowed]
  · intro der
    rw [signature_ok_iff, hnumbers, hallowed]
    apply and_congr_right
    intro hlength
    obtain ⟨hr, hs⟩ : r < 256 ^ 32 ∧ s < 256 ^ 32 := numbers_lt hlength
    rw [Der.decode?_eq_some_iff_encode hr hs]
  · intro der hder
    rw [signature_ok_iff, hnumbers] at hder
    obtain ⟨hlength, -, rfl⟩ := hder
    obtain ⟨hr, hs⟩ : r < 256 ^ 32 ∧ s < 256 ^ 32 := numbers_lt hlength
    obtain ⟨hlo, hhi⟩ := Der.length_encode r s
    refine ⟨⟨_, _, Der.integerBytes_minimal hr, Der.integerBytes_minimal hs, rfl⟩, hlo, hhi, ?_⟩
    intro raw' hder'
    obtain ⟨hlength', -, heq⟩ := signature_ok_iff.mp hder'
    obtain ⟨hr', hs'⟩ := numbers_lt hlength'
    have hread := Der.decode?_encode hr hs
    rw [heq, Der.decode?_encode hr' hs'] at hread
    exact numbers_inj (hlength'.trans hlength.symm) (Option.some.inj hread)

/-- One number whose first bit is set, and one with 31 zero bytes in front. -/
theorem signature_strict_uneven :
    let raw : Bytes := 0x80 :: List.replicate 62 0 ++ [5]
    let der : Bytes := [0x30, 38, 0x02, 33, 0, 0x80] ++ List.replicate 31 0 ++ [0x02, 1, 5]
    signature raw = .ok der ∧ 8 ≤ der.length ∧ der.length ≤ 72 ∧
      ∀ raw', signature raw' = .ok der → raw' = raw := by
  intro raw der
  obtain ⟨-, hok, hform⟩ := signature_strict raw
  have hder : signature raw = .ok der :=
    (hok der).mpr ⟨by decide +kernel, by decide +kernel, by decide +kernel⟩
  exact ⟨hder, (hform der hder).2⟩

end AttestedImaging.PublicForm
