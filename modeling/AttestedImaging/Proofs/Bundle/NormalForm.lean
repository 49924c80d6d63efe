import AttestedImaging.Proofs.Bundle

/-!
# Which buffers hold a bundle

A buffer holds a bundle if it is long enough and both lengths in it are at most 32. The bytes of that
bundle are those of the buffer, but for the bytes of a component's field past its length.
-/

namespace AttestedImaging

namespace Bundle

open Bytes

/-! ## One component -/

section Components

variable {bytes : Bytes} {offset : Nat} {c : Component}

theorem decodeComponent_long (which : Coordinate) (h : offset + 36 ≤ bytes.length)
    (hlong : 32 < bytes.wordAt (offset + 32)) :
    decodeComponent which offset bytes =
      .error (.componentLength which (bytes.wordAt (offset + 32))) := by
  simp only [decodeComponent, toNatLE_take_drop (show offset + 32 + 4 ≤ bytes.length by omega)]
  rw [dif_neg (by omega)]

theorem decodeComponent_fits (which : Coordinate) (h : offset + 36 ≤ bytes.length)
    (hfits : bytes.wordAt (offset + 32) ≤ 32) :
    ∃ c, decodeComponent which offset bytes = .ok c ∧
      slice? offset (bytes.wordAt (offset + 32)) bytes = some c.bytes := by
  simp only [decodeComponent, toNatLE_take_drop (show offset + 32 + 4 ≤ bytes.length by omega)]
  rw [dif_pos hfits]
  exact ⟨_, rfl, slice?_of_le (by omega)⟩

theorem ofNatLE_wordAt (h : offset + 4 ≤ bytes.length) :
    ofNatLE 4 (bytes.wordAt offset) = (bytes.drop offset).take 4 := by
  have hlength : ((bytes.drop offset).take 4).length = 4 := by
    simp
    omega
  have hback := ofNatLE_toNatLE ((bytes.drop offset).take 4)
  rwa [hlength, toNatLE_take_drop h] at hback

theorem encodeComponent_getElem? (h : offset + 36 ≤ bytes.length)
    (hread : slice? offset (bytes.wordAt (offset + 32)) bytes = some c.bytes) {k : Nat} (hk : k < 36) :
    (encodeComponent c)[k]? =
      if bytes.wordAt (offset + 32) ≤ k ∧ k < 32 then some 0 else bytes[offset + k]? := by
  have hlength := (slice?_eq_some_iff.mp hread).2
  have hle := c.length_le
  rw [encodeComponent, hlength]
  by_cases hfield : k < 32
  · rw [List.getElem?_append_left (by rwa [c.length_field]), Component.field, List.rightpad, hlength]
    by_cases hused : k < bytes.wordAt (offset + 32)
    · rw [List.getElem?_append_left (by rwa [hlength]), getElem?_of_slice? hread hused,
        if_neg (by omega)]
    · rw [List.getElem?_append_right (by omega), List.getElem?_replicate_of_lt (by omega),
        if_pos (by omega)]
  · rw [List.getElem?_append_right (by rw [c.length_field]; omega), c.length_field,
      ofNatLE_wordAt (by omega), List.getElem?_take_of_lt (by omega), List.getElem?_drop,
      if_neg (by omega)]
    congr 1
    omega

end Components

/-! ## The whole bundle -/

/-- The parts of a bundle are where they should be in a buffer, and none of them reaches past its end. -/
structure ReadFrom (b : Bundle) (bytes : Bytes) : Prop where
  digest : slice? 0 32 bytes = some b.digest.bytes
  signature : slice? 32 64 bytes = some b.signature.bytes
  x : slice? 96 (bytes.wordAt 128) bytes = some b.x.bytes
  y : slice? 132 (bytes.wordAt 164) bytes = some b.y.bytes

variable {bytes : Bytes} {b : Bundle}

theorem decode_short (h : bytes.length < 168) : decode bytes = .error (.tooShort bytes.length) :=
  dif_pos h

theorem decode_long_x (h : 168 ≤ bytes.length) (hx : 32 < bytes.wordAt 128) :
    decode bytes = .error (.componentLength .x (bytes.wordAt 128)) := by
  rw [decode, dif_neg (by simpa [size] using h), decodeComponent_long _ (by omega) hx]
  rfl

theorem decode_long_y (h : 168 ≤ bytes.length) (hx : bytes.wordAt 128 ≤ 32)
    (hy : 32 < bytes.wordAt 164) :
    decode bytes = .error (.componentLength .y (bytes.wordAt 164)) := by
  obtain ⟨x, hdecodex, -⟩ := decodeComponent_fits .x (show 96 + 36 ≤ bytes.length by omega) hx
  rw [decode, dif_neg (by simpa [size] using h), hdecodex, decodeComponent_long _ (by omega) hy]
  rfl

theorem decode_fits (h : 168 ≤ bytes.length) (hx : bytes.wordAt 128 ≤ 32)
    (hy : bytes.wordAt 164 ≤ 32) : ∃ b, decode bytes = .ok b ∧ b.ReadFrom bytes := by
  obtain ⟨x, hdecodex, hreadx⟩ := decodeComponent_fits .x (show 96 + 36 ≤ bytes.length by omega) hx
  obtain ⟨y, hdecodey, hready⟩ := decodeComponent_fits .y (show 132 + 36 ≤ bytes.length by omega) hy
  rw [decode, dif_neg (by simpa [size] using h), hdecodex, hdecodey]
  exact ⟨_, rfl, slice?_of_le (by omega), slice?_of_le (by omega), hreadx, hready⟩

theorem decode_cases (bytes : Bytes) :
    (bytes.length < 168 ∧ decode bytes = .error (.tooShort bytes.length)) ∨
    168 ≤ bytes.length ∧
      ((32 < bytes.wordAt 128 ∧ decode bytes = .error (.componentLength .x (bytes.wordAt 128))) ∨
      bytes.wordAt 128 ≤ 32 ∧
        ((32 < bytes.wordAt 164 ∧ decode bytes = .error (.componentLength .y (bytes.wordAt 164))) ∨
        (bytes.wordAt 164 ≤ 32 ∧ ∃ b, decode bytes = .ok b ∧ b.ReadFrom bytes))) := by
  rcases Nat.lt_or_ge bytes.length 168 with h | h
  · exact .inl ⟨h, decode_short h⟩
  rcases Nat.lt_or_ge 32 (bytes.wordAt 128) with hx | hx
  · exact .inr ⟨h, .inl ⟨hx, decode_long_x h hx⟩⟩
  rcases Nat.lt_or_ge 32 (bytes.wordAt 164) with hy | hy
  · exact .inr ⟨h, .inr ⟨hx, .inl ⟨hy, decode_long_y h hx hy⟩⟩⟩
  · exact .inr ⟨h, .inr ⟨hx, .inr ⟨hy, decode_fits h hx hy⟩⟩⟩

/-! ## What is left of the buffer -/

/-- The bytes of a component's field past the length that stands after the field. -/
def Unused (bytes : Bytes) (i : Nat) : Prop :=
  (96 + bytes.wordAt 128 ≤ i ∧ i < 128) ∨ (132 + bytes.wordAt 164 ≤ i ∧ i < 164)

instance (bytes : Bytes) : DecidablePred (Unused bytes) :=
  fun _ => inferInstanceAs (Decidable (_ ∨ _))

/-- The front of a buffer with its unused bytes set to zero. -/
def cleared (bytes : Bytes) : Bytes :=
  (bytes.take size).mapIdx fun i byte => if Unused bytes i then 0 else byte

theorem cleared_getElem? (bytes : Bytes) {i : Nat} (hi : i < 168) (h : 168 ≤ bytes.length) :
    (cleared bytes)[i]? = if Unused bytes i then some 0 else bytes[i]? := by
  rw [cleared, List.getElem?_mapIdx, List.getElem?_take_of_lt (by simpa [size] using hi),
    List.getElem?_eq_getElem (by omega)]
  split <;> rfl

theorem unused_x_iff {i : Nat} (hlo : 96 ≤ i) (hhi : i < 132) :
    bytes.wordAt 128 ≤ i - 96 ∧ i - 96 < 32 ↔ Unused bytes i := by
  unfold Unused
  omega

theorem unused_y_iff {i : Nat} (hlo : 132 ≤ i) :
    bytes.wordAt 164 ≤ i - 132 ∧ i - 132 < 32 ↔ Unused bytes i := by
  unfold Unused
  omega

theorem encode_getElem? (h : 168 ≤ bytes.length) (hread : b.ReadFrom bytes) {i : Nat} (hi : i < 168) :
    b.encode[i]? = if Unused bytes i then some 0 else bytes[i]? := by
  simp only [encode, List.getElem?_append, List.length_append, length_encodeComponent,
    b.digest.length_eq, b.signature.length_eq, Nat.reduceAdd]
  rcases Nat.lt_or_ge i 96 with hfront | hx
  · have hused : ¬ Unused bytes i := by
      unfold Unused
      omega
    rw [if_pos (by omega), if_pos (by omega), if_neg hused]
    split
    · next hdigest => rw [getElem?_of_slice? hread.digest hdigest, Nat.zero_add]
    · rw [getElem?_of_slice? hread.signature (by omega), Nat.add_sub_cancel' (by omega)]
  rcases Nat.lt_or_ge i 132 with hx' | hy
  · rw [if_pos hx', if_neg (by omega), encodeComponent_getElem? (by omega) hread.x (by omega),
      Nat.add_sub_cancel' hx]
    simp only [Nat.reduceAdd, unused_x_iff hx hx']
  · rw [if_neg (by omega), encodeComponent_getElem? (by omega) hread.y (by omega),
      Nat.add_sub_cancel' hy]
    simp only [Nat.reduceAdd, unused_y_iff hy]

theorem encode_eq_cleared (h : 168 ≤ bytes.length) (hread : b.ReadFrom bytes) :
    b.encode = cleared bytes := by
  apply List.ext_getElem?
  intro i
  rcases Nat.lt_or_ge i 168 with hi | hi
  · rw [encode_getElem? h hread hi, cleared_getElem? bytes hi h]
  · rw [List.getElem?_eq_none (by rwa [length_encode]), List.getElem?_eq_none]
    simp [cleared, size]
    omega

theorem cleared_eq_take_iff (h : 168 ≤ bytes.length) :
    cleared bytes = bytes.take 168 ↔ ∀ i, Unused bytes i → bytes[i]? = some 0 := by
  constructor
  · intro heq i hunused
    have hi : i < 168 := by
      unfold Unused at hunused
      omega
    rw [← List.getElem?_take_of_lt hi, ← heq, cleared_getElem? bytes hi h, if_pos hunused]
  · intro hzero
    apply List.ext_getElem?
    intro i
    rcases Nat.lt_or_ge i 168 with hi | hi
    · rw [cleared_getElem? bytes hi h, List.getElem?_take_of_lt hi]
      split
      · next hunused => rw [hzero i hunused]
      · rfl
    · rw [List.getElem?_eq_none, List.getElem?_eq_none]
      · simp
        omega
      · simp [cleared, size]
        omega

/-- The first of three faults is told, or the bundle that is read has the front of the buffer as its bytes,
with the unused ones cleared. -/
theorem decode_normal_form (bytes : Bytes) :
    (∀ n, decode bytes = .error (.tooShort n) ↔ bytes.length < 168 ∧ n = bytes.length) ∧
    (∀ n, decode bytes = .error (.componentLength .x n) ↔
      168 ≤ bytes.length ∧ 32 < bytes.wordAt 128 ∧ n = bytes.wordAt 128) ∧
    (∀ n, decode bytes = .error (.componentLength .y n) ↔
      168 ≤ bytes.length ∧ bytes.wordAt 128 ≤ 32 ∧ 32 < bytes.wordAt 164 ∧
        n = bytes.wordAt 164) ∧
    ((∃ b, decode bytes = .ok b) ↔
      168 ≤ bytes.length ∧ bytes.wordAt 128 ≤ 32 ∧ bytes.wordAt 164 ≤ 32) ∧
    ∀ b, decode bytes = .ok b →
      b.ReadFrom bytes ∧ b.encode = cleared bytes ∧
      (b.encode = bytes.take 168 ↔ ∀ i, Unused bytes i → bytes[i]? = some 0) ∧
      decode b.encode = .ok b := by
  rcases decode_cases bytes with ⟨h, hd⟩ | ⟨h, ⟨hx, hd⟩ | ⟨hx, ⟨hy, hd⟩ | ⟨hy, b, hd, hread⟩⟩⟩ <;>
    rw [hd]
  · grind
  · grind
  · grind
  · have hencode := encode_eq_cleared h hread
    refine ⟨by grind, by grind, by grind, by grind, ?_⟩
    rintro b' hb
    obtain rfl : b = b' := Except.ok.inj hb
    exact ⟨hread, hencode, hencode ▸ cleared_eq_take_iff h, b.decode_encode⟩

/-- Components of two and three bytes, with other bytes in the rest of their fields and after the
bundle. -/
def untidy : Bytes :=
  List.replicate 96 1 ++ [0, 5] ++ List.replicate 30 9 ++ [2, 0, 0, 0] ++ [7, 0, 0] ++
    List.replicate 29 9 ++ [3, 0, 0, 0] ++ [9, 9]

theorem decode_normal_form_untidy : ∃ b, decode untidy = .ok b ∧ b.encode = cleared untidy ∧
    b.encode ≠ untidy.take 168 ∧ decode b.encode = .ok b := by
  obtain ⟨-, -, -, hok, hnormal⟩ := decode_normal_form untidy
  obtain ⟨b, hb⟩ := hok.mpr (by decide +kernel)
  obtain ⟨-, hencode, hfront, hback⟩ := hnormal b hb
  refine ⟨b, hb, hencode, ?_, hback⟩
  intro heq
  exact absurd (hfront.mp heq 98 (by decide +kernel)) (by decide +kernel)

end Bundle

end AttestedImaging
