import AttestedImaging.Bytes.Hex
import Mathlib

/-!
# Numbers as bytes, parts of bytes, and bytes as text

What is read back from the bytes of a number, from a part of a buffer, and from the digits of bytes.
-/

namespace AttestedImaging

theorem Fixed.bytes_inj {n : Nat} {a b : Fixed n} (h : a.bytes = b.bytes) : a = b := by
  cases a
  cases b
  simpa using h

namespace Bytes

theorem toNat_append_one (bytes : Bytes) (b : UInt8) :
    toNat (bytes ++ [b]) = toNat bytes * 256 + b.toNat := by
  simp [toNat, List.foldl_append]

theorem toNat_ofNat (width n : Nat) : toNat (ofNat width n) = n % 256 ^ width := by
  induction width generalizing n with
  | zero => simp [ofNat, toNat, Nat.mod_one]
  | succ width ih =>
    have digit : (UInt8.ofNat n).toNat = n % 256 := by simp
    rw [ofNat, toNat_append_one, ih, digit, Nat.pow_succ', Nat.mod_mul]
    omega

theorem toNatLE_ofNatLE (width n : Nat) : toNatLE (ofNatLE width n) = n % 256 ^ width := by
  rw [toNatLE, ofNatLE, List.reverse_reverse, toNat_ofNat]

theorem ofNat_toNat (bytes : Bytes) : ofNat bytes.length (toNat bytes) = bytes := by
  induction bytes using List.reverseRecOn with
  | nil => rfl
  | append_singleton bytes b ih =>
    have hb := b.toNat_lt
    have hrest : (toNat bytes * 256 + b.toNat) / 256 = toNat bytes := by omega
    have hlast : UInt8.ofNat (toNat bytes * 256 + b.toNat) = b := by
      apply UInt8.toNat_inj.mp
      rw [UInt8.toNat_ofNat']
      omega
    rw [List.length_append, List.length_singleton, toNat_append_one, ofNat, hrest, ih, hlast]

theorem toNat_inj {bytes bytes' : Bytes} (hlength : bytes.length = bytes'.length)
    (h : toNat bytes = toNat bytes') : bytes = bytes' := by
  rw [← ofNat_toNat bytes, hlength, h, ofNat_toNat]

theorem ofNatLE_toNatLE (bytes : Bytes) : ofNatLE bytes.length (toNatLE bytes) = bytes := by
  have h := ofNat_toNat bytes.reverse
  rw [List.length_reverse] at h
  rw [ofNatLE, toNatLE, h, List.reverse_reverse]

/-! ## Zero bytes in front -/

theorem length_strip_le (bytes : Bytes) : (strip bytes).length ≤ bytes.length :=
  List.length_dropWhile_le _ bytes

theorem head?_strip (bytes : Bytes) : (strip bytes).head? ≠ some 0 := by
  intro h
  have hhead := List.head?_dropWhile_not (· == 0) bytes
  rw [strip] at h
  rw [h] at hhead
  cases hhead

theorem toNat_zero_cons (bytes : Bytes) : toNat (0 :: bytes) = toNat bytes := rfl

theorem strip_eq_self {b : UInt8} (rest : Bytes) (h : b ≠ 0) : strip (b :: rest) = b :: rest :=
  List.dropWhile_cons_of_neg (by simpa using h)

theorem toNat_strip (bytes : Bytes) : toNat (strip bytes) = toNat bytes := by
  induction bytes with
  | nil => rfl
  | cons b rest ih =>
    by_cases hb : b = 0
    · subst hb
      rw [toNat_zero_cons, ← ih]
      rfl
    · rw [strip_eq_self rest hb]

theorem toNat_replicate_append (count : Nat) (bytes : Bytes) :
    toNat (List.replicate count 0 ++ bytes) = toNat bytes := by
  induction count with
  | zero => rfl
  | succ count ih => rw [List.replicate_succ, List.cons_append, toNat_zero_cons, ih]

theorem strip_replicate_append (count : Nat) (bytes : Bytes) :
    strip (List.replicate count 0 ++ bytes) = strip bytes := by
  apply List.dropWhile_append_of_pos
  intro b hb
  rw [List.eq_of_mem_replicate hb]
  rfl

theorem leftpad_eq_ofNat {bytes : Bytes} {width : Nat} (h : bytes.length ≤ width) :
    bytes.leftpad width 0 = ofNat width (toNat bytes) := by
  have hback := ofNat_toNat (bytes.leftpad width 0)
  rw [List.length_leftpad, Nat.max_eq_left h, List.leftpad, toNat_replicate_append] at hback
  exact hback.symm

theorem toNat_ofNat_toNat {bytes : Bytes} {width : Nat} (h : bytes.length ≤ width) :
    toNat (ofNat width (toNat bytes)) = toNat bytes := by
  rw [← leftpad_eq_ofNat h, List.leftpad, toNat_replicate_append]

theorem strip_ofNat_toNat {bytes : Bytes} {width : Nat} (h : bytes.length ≤ width) :
    strip (ofNat width (toNat bytes)) = strip bytes := by
  rw [← leftpad_eq_ofNat h, List.leftpad, strip_replicate_append]

theorem strip_congr {bytes bytes' : Bytes} (h : toNat bytes = toNat bytes') :
    strip bytes = strip bytes' := by
  rw [← strip_ofNat_toNat (Nat.le_max_left bytes.length bytes'.length), h,
    strip_ofNat_toNat (Nat.le_max_right bytes.length bytes'.length)]

theorem toNat_lt (bytes : Bytes) : toNat bytes < 256 ^ bytes.length := by
  have hread := toNat_ofNat bytes.length (toNat bytes)
  rw [ofNat_toNat] at hread
  rw [hread]
  exact Nat.mod_lt _ (by positivity)

theorem strip_ofNat_ne_nil {width n : Nat} (h0 : n ≠ 0) (hn : n < 256 ^ width) :
    strip (ofNat width n) ≠ [] := by
  intro h
  have hvalue := toNat_strip (ofNat width n)
  rw [h, toNat_ofNat, Nat.mod_eq_of_lt hn] at hvalue
  exact h0 hvalue.symm

/-! ## Parts of a buffer -/

theorem slice?_eq_some_iff {bytes part : Bytes} {offset count : Nat} :
    slice? offset count bytes = some part ↔
      part = (bytes.drop offset).take count ∧ part.length = count := by
  simp only [slice?]
  constructor
  · intro h
    split at h
    · next hcount => exact ⟨(Option.some.inj h).symm, by rwa [← Option.some.inj h]⟩
    · cases h
  · rintro ⟨rfl, hcount⟩
    rw [if_pos hcount]

theorem slice?_of_le {bytes : Bytes} {offset count : Nat} (h : offset + count ≤ bytes.length) :
    slice? offset count bytes = some ((bytes.drop offset).take count) := by
  apply slice?_eq_some_iff.mpr
  simp
  omega

theorem getElem?_of_slice? {bytes part : Bytes} {offset count i : Nat}
    (h : slice? offset count bytes = some part) (hi : i < count) : part[i]? = bytes[offset + i]? := by
  rw [(slice?_eq_some_iff.mp h).1, List.getElem?_take_of_lt hi, List.getElem?_drop]

/-- The number in the four bytes from `i` on, least significant byte first. -/
def wordAt (bytes : Bytes) (i : Nat) : Nat :=
  (bytes.getD i 0).toNat + 256 * (bytes.getD (i + 1) 0).toNat +
    65536 * (bytes.getD (i + 2) 0).toNat + 16777216 * (bytes.getD (i + 3) 0).toNat

theorem drop_eq_getD_cons {bytes : Bytes} {i : Nat} (h : i < bytes.length) :
    bytes.drop i = bytes.getD i 0 :: bytes.drop (i + 1) := by
  rw [List.drop_eq_getElem_cons h, List.getD_eq_getElem _ _ h]

theorem toNatLE_take_drop {bytes : Bytes} {i : Nat} (h : i + 4 ≤ bytes.length) :
    toNatLE ((bytes.drop i).take 4) = bytes.wordAt i := by
  rw [drop_eq_getD_cons (by omega), drop_eq_getD_cons (by omega), drop_eq_getD_cons (by omega),
    drop_eq_getD_cons (by omega)]
  simp only [List.take_succ_cons, List.take_zero, toNatLE, toNat, wordAt, List.reverse_cons,
    List.reverse_nil, List.nil_append, List.cons_append, List.foldl_cons, List.foldl_nil, Nat.add_assoc,
    Nat.reduceAdd]
  omega

end Bytes

theorem Bytes.ofNat_toNat_bytes {n : Nat} (a : Fixed n) : ofNat n (toNat a.bytes) = a.bytes := by
  have hback := ofNat_toNat a.bytes
  rwa [a.length_eq] at hback

theorem Fixed.ofNat_toNat {n : Nat} (a : Fixed n) : Fixed.ofNat n (Bytes.toNat a.bytes) = a :=
  Fixed.bytes_inj (Bytes.ofNat_toNat_bytes a)

/-! ## Hexadecimal text -/

namespace Hex

theorem digitValue?_digit (n : Nat) : digitValue? (digit n) = some (n % 16) := by
  have hall : ∀ m < 16, digitValue? (Nat.digitChar m) = some m := by decide
  exact hall (n % 16) (Nat.mod_lt n (by decide))

theorem decodeChars?_encodeChars (bytes : Bytes) : decodeChars? (encodeChars bytes) = some bytes := by
  induction bytes with
  | nil => rfl
  | cons b rest ih =>
    have hb := b.toNat_lt
    have hvalue : b.toNat / 16 % 16 * 16 + b.toNat % 16 = b.toNat := by omega
    rw [encodeChars, List.flatMap_cons, ← encodeChars, List.cons_append, List.cons_append,
      List.nil_append, decodeChars?, digitValue?_digit, digitValue?_digit, ih]
    simp only [bind, Option.bind, pure, hvalue, UInt8.ofNat_toNat]

theorem decode?_encode (bytes : Bytes) : decode? (encode bytes) = some bytes := by
  rw [decode?, encode, String.toList_ofList, decodeChars?_encodeChars]

theorem encode_inj {bytes bytes' : Bytes} (h : encode bytes = encode bytes') : bytes = bytes' := by
  have hread := congrArg decode? h
  rwa [decode?_encode, decode?_encode, Option.some.injEq] at hread

end Hex

end AttestedImaging
