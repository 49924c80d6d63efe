import AttestedImaging.Crypto.Der
import AttestedImaging.Proofs.Bytes

/-!
# One text for each pair of numbers

The contents of an INTEGER are as short as they can be for a number that is not negative, so the number
determines them, and the reader takes a pair of numbers from one text only.
-/

namespace AttestedImaging.Der

/-! ## Contents -/

/-- Contents that stand for a number. The first bit is no sign, and no byte in front can be left out. -/
structure Minimal (contents : Bytes) (n : Nat) : Prop where
  value : Bytes.toNat contents = n
  nonempty : contents ≠ []
  positive : ∀ b rest, contents = b :: rest → b < 0x80
  shortest : ∀ c rest, contents = 0 :: c :: rest → 0x80 ≤ c

theorem readInteger?_eq_some_iff {contents : Bytes} {n : Nat} :
    readInteger? contents = some n ↔ Minimal contents n := by
  constructor
  · -- No byte, one byte, or a first byte that is needed for the second.
    intro h
    rcases contents with _ | ⟨b, _ | ⟨c, rest⟩⟩
    · cases h
    · rw [readInteger?] at h
      split at h
      · next hb =>
        obtain rfl := Option.some.inj h
        refine ⟨by simp [Bytes.toNat], by simp, ?_, by simp⟩
        rintro _ _ ⟨⟩
        exact hb
      · cases h
    · rw [readInteger?] at h
      split at h
      · next hb =>
        refine ⟨Option.some.inj h, by simp, ?_, ?_⟩
        · rintro _ _ ⟨⟩
          exact hb.1
        · rintro _ _ ⟨⟩
          exact hb.2.resolve_left fun h0 => h0 rfl
      · cases h
  · rintro ⟨rfl, hne, hpositive, hshortest⟩
    rcases contents with _ | ⟨b, _ | ⟨c, rest⟩⟩
    · exact absurd rfl hne
    · rw [readInteger?, if_pos (hpositive b [] rfl)]
      simp [Bytes.toNat]
    · rw [readInteger?, if_pos]
      refine ⟨hpositive b _ rfl, ?_⟩
      rw [or_iff_not_imp_left, not_not]
      rintro rfl
      exact hshortest c rest rfl

/-- A zero byte goes in front where the others would read as negative, or where there are no others. -/
theorem integerBytes_minimal {n : Nat} (hn : n < 256 ^ 32) : Minimal (integerBytes n) n := by
  have hvalue : Bytes.toNat (Bytes.strip (Bytes.ofNat 32 n)) = n := by
    rw [Bytes.toNat_strip, Bytes.toNat_ofNat, Nat.mod_eq_of_lt hn]
  have hfront := Bytes.head?_strip (Bytes.ofNat 32 n)
  unfold integerBytes
  generalize Bytes.strip (Bytes.ofNat 32 n) = digits at hvalue hfront ⊢
  match digits with
  | [] => exact ⟨hvalue, by simp, by rintro _ _ ⟨⟩; decide, by simp⟩
  | b :: rest =>
    have hb : b ≠ 0 := by simpa using hfront
    simp only
    split
    · next hlow =>
      -- The first bit is clear, so the digits stand by themselves.
      refine ⟨hvalue, by simp, ?_, ?_⟩
      · rintro _ _ ⟨⟩
        exact hlow
      · rintro _ _ ⟨⟩
        exact absurd rfl hb
    · next hhigh =>
      -- The first bit is set, so a zero byte goes in front.
      refine ⟨(Bytes.toNat_zero_cons _).trans hvalue, by simp, ?_, ?_⟩
      · rintro _ _ ⟨⟩
        decide
      · rintro _ _ ⟨⟩
        exact UInt8.not_lt.mp hhigh

theorem Minimal.eq_integerBytes {contents : Bytes} {n : Nat} (h : Minimal contents n)
    (hn : n < 256 ^ 32) : contents = integerBytes n := by
  have hstrip : Bytes.strip (Bytes.ofNat 32 n) = Bytes.strip contents := by
    apply Bytes.strip_congr
    rw [Bytes.toNat_ofNat, Nat.mod_eq_of_lt hn, h.value]
  rw [integerBytes, hstrip]
  match contents, h with
  | [], h => exact absurd rfl h.nonempty
  | b :: rest, h =>
    have hlow := h.positive b rest rfl
    -- A zero in front is there for the bit after it, or it is the number 0.
    by_cases hb : b = 0
    · subst hb
      match rest, h with
      | [], _ => rfl
      | c :: rest, h =>
        have hc := h.shortest c rest rfl
        have hne : c ≠ 0 := by
          rintro rfl
          exact absurd hc (by decide)
        have hdrop : Bytes.strip (0 :: c :: rest) = c :: rest := Bytes.strip_eq_self rest hne
        simp only [hdrop, if_neg (UInt8.not_lt.mpr hc)]
    · simp only [Bytes.strip_eq_self rest hb, if_pos hlow]

theorem length_integerBytes (n : Nat) :
    1 ≤ (integerBytes n).length ∧ (integerBytes n).length ≤ 33 := by
  have hle := Bytes.length_strip_le (Bytes.ofNat 32 n)
  rw [Bytes.length_ofNat] at hle
  unfold integerBytes
  split
  · simp
  · next b rest hstrip =>
    rw [hstrip, List.length_cons] at hle
    split <;> simp only [List.length_cons] <;> omega

/-! ## Elements -/

theorem length_element (tag : UInt8) (contents : Bytes) :
    (element tag contents).length = contents.length + 2 := rfl

theorem readElement?_eq_some_iff {tag : UInt8} {bytes contents rest : Bytes} :
    readElement? tag bytes = some (contents, rest) ↔
      bytes = element tag contents ++ rest ∧ contents.length < 128 := by
  constructor
  · intro h
    match bytes with
    | [] => cases h
    | [_] => cases h
    | t :: length :: following =>
      rw [readElement?] at h
      split at h
      · next hread =>
        obtain ⟨rfl, hshort, hfits⟩ := hread
        obtain ⟨rfl, rfl⟩ := Prod.mk.inj (Option.some.inj h)
        have hlt : length.toNat < 128 := hshort
        rw [element, List.length_take, Nat.min_eq_left hfits, UInt8.ofNat_toNat]
        exact ⟨by simp, hlt⟩
      · cases h
  · rintro ⟨rfl, hlt⟩
    have hlength : (UInt8.ofNat contents.length).toNat = contents.length := by
      rw [UInt8.toNat_ofNat']
      omega
    have hshort : UInt8.ofNat contents.length < 0x80 := by
      rw [UInt8.lt_iff_toNat_lt, hlength]
      exact hlt
    simp only [element, List.cons_append, readElement?, hlength, hshort, true_and]
    rw [if_pos (by simp), List.take_left, List.drop_left]

/-! ## Pairs -/

theorem decode?_eq_some_iff {bytes : Bytes} {r s : Nat} :
    decode? bytes = some (r, s) ↔ ∃ a b, Minimal a r ∧ Minimal b s ∧
      a.length + b.length < 124 ∧ bytes = element 0x30 (element 0x02 a ++ element 0x02 b) := by
  unfold decode?
  constructor
  · intro h
    -- The sequence with its two integers, and nothing after any of them.
    simp only [Option.bind_eq_bind, Option.bind_eq_some_iff] at h
    obtain ⟨⟨contents, _ | _⟩, hsequence, h⟩ := h
    · simp only [Option.bind_eq_some_iff] at h
      obtain ⟨⟨a, rest⟩, hfirst, ⟨b, _ | _⟩, hsecond, h⟩ := h
      · simp only [Option.bind_eq_some_iff] at h
        obtain ⟨r', ha, s', hb, h⟩ := h
        obtain ⟨rfl, rfl⟩ := Prod.mk.inj (Option.some.inj h)
        obtain ⟨rfl, hlength⟩ := readElement?_eq_some_iff.mp hsequence
        obtain ⟨rfl, -⟩ := readElement?_eq_some_iff.mp hfirst
        obtain ⟨rfl, -⟩ := readElement?_eq_some_iff.mp hsecond
        simp only [List.append_nil, List.length_append, length_element] at hlength ⊢
        exact ⟨a, b, readInteger?_eq_some_iff.mp ha, readInteger?_eq_some_iff.mp hb, by omega, rfl⟩
      · cases h
    · cases h
  · rintro ⟨a, b, ha, hb, hlength, rfl⟩
    have hsequence : readElement? 0x30 (element 0x30 (element 0x02 a ++ element 0x02 b)) =
        some (element 0x02 a ++ element 0x02 b, []) := by
      apply readElement?_eq_some_iff.mpr
      simp only [List.append_nil, List.length_append, length_element]
      exact ⟨trivial, by omega⟩
    have hfirst : readElement? 0x02 (element 0x02 a ++ element 0x02 b) = some (a, element 0x02 b) :=
      readElement?_eq_some_iff.mpr ⟨rfl, by omega⟩
    have hsecond : readElement? 0x02 (element 0x02 b) = some (b, []) :=
      readElement?_eq_some_iff.mpr ⟨by simp, by omega⟩
    simp [hsequence, hfirst, hsecond, readInteger?_eq_some_iff.mpr ha,
      readInteger?_eq_some_iff.mpr hb]

theorem length_encode (r s : Nat) : 8 ≤ (encode r s).length ∧ (encode r s).length ≤ 72 := by
  have hr := length_integerBytes r
  have hs := length_integerBytes s
  simp only [encode, List.length_append, length_element]
  omega

variable {r s : Nat} (hr : r < 256 ^ 32) (hs : s < 256 ^ 32)

include hr hs

theorem decode?_eq_some_iff_encode {bytes : Bytes} :
    decode? bytes = some (r, s) ↔ bytes = encode r s := by
  rw [decode?_eq_some_iff]
  constructor
  · rintro ⟨a, b, ha, hb, -, rfl⟩
    rw [ha.eq_integerBytes hr, hb.eq_integerBytes hs, encode]
  · rintro rfl
    have hlengthr := length_integerBytes r
    have hlengths := length_integerBytes s
    exact ⟨_, _, integerBytes_minimal hr, integerBytes_minimal hs, by omega, rfl⟩

theorem decode?_encode : decode? (encode r s) = some (r, s) :=
  (decode?_eq_some_iff_encode hr hs).mpr rfl

end AttestedImaging.Der
