import AttestedImaging.Crypto.PublicForm
import AttestedImaging.Proofs.Bytes

/-!
# The public form of a key

A coordinate is exported without zero bytes in front and padded again before use. The two cancel, so
the public form is that of the point, however many zero bytes its coordinates begin with.
-/

namespace AttestedImaging.PublicForm

open P256 (Field)

theorem val_lt (x : Field) : x.val < 256 ^ 32 :=
  x.isLt.trans (by decide : P256.p < 256 ^ 32)

theorem pad_of_le {c : Bytes} (h : c.length ≤ 32) : pad c = .ok (Fixed.ofNat 32 (Bytes.toNat c)) := by
  rw [pad, dif_pos h, Fixed.ofNat]
  simp only [Bytes.leftpad_eq_ofNat h]

theorem pad_strip (c : Fixed 32) : pad (Bytes.strip c.bytes) = .ok c := by
  have hle := Bytes.length_strip_le c.bytes
  rw [c.length_eq] at hle
  rw [pad_of_le hle, Bytes.toNat_strip, c.ofNat_toNat]

theorem toNat_strip_val (x : Field) : Bytes.toNat (Bytes.strip (Bytes.ofNat 32 x.val)) = x.val := by
  rw [Bytes.toNat_strip, Bytes.toNat_ofNat, Nat.mod_eq_of_lt (val_lt x)]

/-- The uncompressed form of a point: the byte 4 and the two coordinates in 32 bytes each. -/
def uncompressed (x y : Field) : Bytes := 0x04 :: Bytes.ofNat 32 x.val ++ Bytes.ofNat 32 y.val

theorem length_uncompressed (x y : Field) : (uncompressed x y).length = pointSize := by
  simp [uncompressed, pointSize]

theorem point_of_le {x y : Bytes} (hx : x.length ≤ 32) (hy : y.length ≤ 32) :
    point x y = if P256.isPoint (Bytes.toNat x) (Bytes.toNat y) then
      .ok (0x04 :: Bytes.ofNat 32 (Bytes.toNat x) ++ Bytes.ofNat 32 (Bytes.toNat y))
    else .error .notOnCurve := by
  simp only [point, pad_of_le hx, pad_of_le hy, bind, Except.bind, Fixed.ofNat,
    Bytes.toNat_ofNat_toNat hx, Bytes.toNat_ofNat_toNat hy]
  rfl

theorem point_strip {x y : Field} (h : P256.isPoint x.val y.val) :
    point (Bytes.strip (Bytes.ofNat 32 x.val)) (Bytes.strip (Bytes.ofNat 32 y.val)) =
      .ok (uncompressed x y) := by
  have hle : ∀ n : Nat, (Bytes.strip (Bytes.ofNat 32 n)).length ≤ 32 := fun n =>
    (Bytes.length_strip_le _).trans_eq (Bytes.length_ofNat 32 n)
  rw [point_of_le (hle _) (hle _), toNat_strip_val, toNat_strip_val, if_pos h, uncompressed]

/-- The point with this public form. -/
def read? (key : Bytes) : Option (Field × Field) :=
  match key with
  | 0x04 :: coordinates =>
    let x := Bytes.toNat (coordinates.take 32)
    let y := Bytes.toNat (coordinates.drop 32)
    if coordinates.length = 64 ∧ P256.isPoint x y then some (Fin.ofNat P256.p x, Fin.ofNat P256.p y)
    else none
  | _ => none

/-- Whether the key with this public form has signed the digest. -/
def validates (key digest signature : Bytes) : Bool :=
  (read? key).any fun q => Ecdsa.verifies q.1 q.2 digest signature

theorem read?_uncompressed {x y : Field} (h : P256.isPoint x.val y.val) :
    read? (uncompressed x y) = some (x, y) := by
  have hx : Bytes.toNat (Bytes.ofNat 32 x.val) = x.val := by
    rw [Bytes.toNat_ofNat, Nat.mod_eq_of_lt (val_lt x)]
  have hy : Bytes.toNat (Bytes.ofNat 32 y.val) = y.val := by
    rw [Bytes.toNat_ofNat, Nat.mod_eq_of_lt (val_lt y)]
  have htake : (Bytes.ofNat 32 x.val ++ Bytes.ofNat 32 y.val).take 32 = Bytes.ofNat 32 x.val :=
    List.take_left' (Bytes.length_ofNat 32 x.val)
  have hdrop : (Bytes.ofNat 32 x.val ++ Bytes.ofNat 32 y.val).drop 32 = Bytes.ofNat 32 y.val :=
    List.drop_left' (Bytes.length_ofNat 32 x.val)
  simp only [read?, uncompressed, List.cons_append, htake, hdrop, hx, hy, h]
  simp

/-! ## Signatures -/

theorem numbers_append (r s : Fin P256.order) :
    Ecdsa.numbers ((Fixed.ofNat 32 r.val).append (Fixed.ofNat 32 s.val)).bytes = (r.val, s.val) := by
  have hlt : ∀ n : Fin P256.order, n.val < 256 ^ 32 := fun n =>
    n.isLt.trans (by decide : P256.order < 256 ^ 32)
  have hlength := Bytes.length_ofNat 32 r.val
  simp only [Ecdsa.numbers, Fixed.append, Fixed.ofNat, List.take_left' hlength, List.drop_left' hlength,
    Bytes.toNat_ofNat, Nat.mod_eq_of_lt (hlt r), Nat.mod_eq_of_lt (hlt s)]

theorem signature_of_sign {d : P256.Scalar} {digest : Bytes} {signature : Signature}
    (h : Ecdsa.sign? d digest = some signature) : ∃ r s,
      Ecdsa.numbers signature.bytes = (r, s) ∧ Ecdsa.inRange r s ∧
      PublicForm.signature signature.bytes = .ok (Der.encode r s) := by
  have hmade : ∃ r s : Fin P256.order, r ≠ 0 ∧ s ≠ 0 ∧
      signature = (Fixed.ofNat 32 r.val).append (Fixed.ofNat 32 s.val) := by
    simp only [Ecdsa.sign?, Ecdsa.signWith?, Option.bind_eq_bind, Option.bind_eq_some_iff] at h
    obtain ⟨k, -, ⟨x, y⟩, -, h⟩ := h
    split at h
    · cases h
    · rename_i hzero
      obtain ⟨hr, hs⟩ := not_or.mp hzero
      exact ⟨_, _, hr, hs, (Option.some.inj h).symm⟩
  obtain ⟨r, s, hr, hs, rfl⟩ := hmade
  have hrange : Ecdsa.inRange r.val s.val := by
    simp [Ecdsa.inRange, Fin.pos_iff_ne_zero.mpr hr, Fin.pos_iff_ne_zero.mpr hs]
  refine ⟨r.val, s.val, numbers_append r s, hrange, ?_⟩
  simp only [PublicForm.signature, if_pos (Fixed.length_eq _), numbers_append, if_pos hrange]

end AttestedImaging.PublicForm
