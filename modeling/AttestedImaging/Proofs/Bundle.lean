import AttestedImaging.Bundle
import AttestedImaging.Proofs.Bytes

/-!
# Reading bundles back

A bundle is read back from its bytes, whatever comes after them in the buffer. So bundles are told apart
by their bytes, and components by what is stored of them: a field of 32 bytes and a length.
-/

namespace AttestedImaging

namespace Component

theorem bytes_inj {c c' : Component} (h : c.bytes = c'.bytes) : c = c' := by
  cases c
  cases c'
  simpa using h

theorem ofBytes?_eq_some_iff {bytes : Bytes} {c : Component} :
    ofBytes? bytes = some c ↔ c.bytes = bytes := by
  unfold ofBytes?
  constructor
  · intro h
    split at h
    · rw [← Option.some.inj h]
    · cases h
  · rintro rfl
    rw [dif_pos c.length_le]

theorem exists_ofBytes?_iff (bytes : Bytes) :
    (∃ c, ofBytes? bytes = some c) ↔ bytes.length ≤ 32 := by
  simp only [ofBytes?_eq_some_iff]
  constructor
  · rintro ⟨c, rfl⟩
    exact c.length_le
  · intro h
    exact ⟨⟨bytes, h⟩, rfl⟩

theorem take_field (c : Component) : c.field.take c.bytes.length = c.bytes := by
  simp [field, List.rightpad]

theorem field_eq_iff {c c' : Component} :
    c.field = c'.field ∧ c.bytes.length = c'.bytes.length ↔ c.bytes = c'.bytes := by
  constructor
  · rintro ⟨hfield, hlength⟩
    rw [← c.take_field, ← c'.take_field, hfield, hlength]
  · intro h
    rw [bytes_inj h]
    exact ⟨rfl, rfl⟩

end Component

namespace Bundle

theorem length_lt (c : Component) : c.bytes.length < 256 ^ 4 := by
  have := c.length_le
  omega

theorem decodeComponent_append (which : Coordinate) (c : Component) (front rest : Bytes) :
    decodeComponent which front.length (front ++ (encodeComponent c ++ rest)) = .ok c := by
  have hlength : Bytes.toNatLE (((front ++ (encodeComponent c ++ rest)).drop
      (front.length + 32)).take 4) = c.bytes.length := by
    rw [← List.drop_drop, List.drop_left, encodeComponent, List.append_assoc,
      List.drop_left' c.length_field, List.take_left' (Bytes.length_ofNatLE 4 _), Bytes.toNatLE_ofNatLE,
      Nat.mod_eq_of_lt (length_lt c)]
  have hbytes : ((front ++ (encodeComponent c ++ rest)).drop front.length).take c.bytes.length =
      c.bytes := by
    rw [List.drop_left, encodeComponent, Component.field, List.rightpad, List.append_assoc,
      List.append_assoc, List.take_left]
  simp only [decodeComponent, hlength, hbytes, c.length_le, dite_true]

theorem decode_encode_append (b : Bundle) (rest : Bytes) : decode (b.encode ++ rest) = .ok b := by
  obtain ⟨⟨digest, hdigest⟩, ⟨signature, hsignature⟩, x, y⟩ := b
  have hx : decodeComponent .x 96
      (digest ++ signature ++ encodeComponent x ++ encodeComponent y ++ rest) = .ok x := by
    have h := decodeComponent_append .x x (digest ++ signature) (encodeComponent y ++ rest)
    simpa [hdigest, hsignature] using h
  have hy : decodeComponent .y 132
      (digest ++ signature ++ encodeComponent x ++ encodeComponent y ++ rest) = .ok y := by
    have h := decodeComponent_append .y y (digest ++ signature ++ encodeComponent x) rest
    simpa [hdigest, hsignature] using h
  have hlong : ¬ (digest ++ signature ++ encodeComponent x ++ encodeComponent y ++ rest).length <
      size := by
    simp only [List.length_append, length_encodeComponent, hdigest, hsignature, size]
    omega
  simp only [decode, encode, dif_neg hlong, hx, hy]
  simp [bind, Except.bind, pure, Except.pure, List.take_left' hdigest, List.drop_left' hdigest,
    List.take_left' hsignature]

theorem decode_encode (b : Bundle) : decode b.encode = .ok b := by
  simpa using b.decode_encode_append []

theorem encode_injective : Function.Injective encode := by
  intro b b' h
  have hread := congrArg decode h
  rw [decode_encode, decode_encode] at hread
  exact Except.ok.inj hread

/-- A bundle is read back from its bytes, whatever follows them, and its components are byte for byte what
they were. -/
theorem decode_inverts_encode :
    (∀ bytes : Bytes, (∃ c, Component.ofBytes? bytes = some c) ↔ bytes.length ≤ 32) ∧
    (∀ (digest : Digest) (signature : Signature) (x y rest : Bytes) (cx cy : Component),
      Component.ofBytes? x = some cx → Component.ofBytes? y = some cy →
        decode (encode ⟨digest, signature, cx, cy⟩ ++ rest) = .ok ⟨digest, signature, cx, cy⟩ ∧
        cx.bytes = x ∧ cy.bytes = y) ∧
    Function.Injective encode ∧
    ∀ c c' : Component, (c = c' ↔ c.bytes = c'.bytes) ∧
      (c.field = c'.field ∧ c.bytes.length = c'.bytes.length ↔ c.bytes = c'.bytes) := by
  refine ⟨Component.exists_ofBytes?_iff, ?_, encode_injective, ?_⟩
  · intro digest signature x y rest cx cy hx hy
    exact ⟨decode_encode_append _ rest, Component.ofBytes?_eq_some_iff.mp hx,
      Component.ofBytes?_eq_some_iff.mp hy⟩
  · intro c c'
    exact ⟨⟨congrArg Component.bytes, Component.bytes_inj⟩, Component.field_eq_iff⟩

/-- Zero bytes at the front, at the end and after the bundle. -/
theorem decode_inverts_encode_zeros : ∃ cx cy, Component.ofBytes? [0, 5] = some cx ∧
    Component.ofBytes? [7, 0, 0] = some cy ∧
    decode (encode ⟨.ofNat 32 1, .ofNat 64 2, cx, cy⟩ ++ [0, 9]) =
      .ok ⟨.ofNat 32 1, .ofNat 64 2, cx, cy⟩ ∧ cx.bytes = [0, 5] ∧ cy.bytes = [7, 0, 0] := by
  obtain ⟨haccepts, hreads, -⟩ := decode_inverts_encode
  obtain ⟨cx, hx⟩ := (haccepts [0, 5]).mpr (by decide)
  obtain ⟨cy, hy⟩ := (haccepts [7, 0, 0]).mpr (by decide)
  exact ⟨cx, cy, hx, hy, hreads _ _ _ _ _ cx cy hx hy⟩

end Bundle

end AttestedImaging
