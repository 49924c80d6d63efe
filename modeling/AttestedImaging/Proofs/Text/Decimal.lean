import AttestedImaging.Text.Decimal
import Mathlib.Tactic.Common

/-!
# Decimal numbers

What `read` takes is a grammar: an optional sign and then digits, of which any number may be leading
zeros. The check for the limit at every digit comes to one check of the whole number, because the
number only grows with further digits.
-/

namespace AttestedImaging.Text.Decimal

variable {limit acc n : Nat} {digits text : List Char}

/-! ## The grammar -/

/-- One or more ASCII digits, of the value `n`. -/
structure Digits (digits : List Char) (n : Nat) : Prop where
  nonempty : digits ≠ []
  all : ∀ c ∈ digits, c.isDigit = true
  value : Nat.ofDigitChars 10 digits 0 = n

/-- Digits, with a plus sign in front or without. -/
def Denotes (text : List Char) (n : Nat) : Prop :=
  Digits text n ∨ ∃ digits, text = '+' :: digits ∧ Digits digits n

theorem denotes_toString (n : Nat) : Denotes (toString n).toList n := by
  rw [Nat.toString_eq_repr, Nat.toList_repr]
  exact .inl ⟨Nat.toDigits_ne_nil, fun _ => Nat.isDigit_of_mem_toDigits (by decide) (by decide),
    Nat.ofDigitChars_ten_toDigits⟩

theorem not_digits_nil : ¬ Digits [] n := fun h => h.nonempty rfl

theorem not_digits_plus (rest : List Char) : ¬ Digits ('+' :: rest) n := fun h =>
  absurd (h.all '+' List.mem_cons_self) (by decide)

theorem not_denotes_nil : ¬ Denotes [] n := by
  simp [Denotes, not_digits_nil]

theorem denotes_plus_iff : Denotes ('+' :: digits) n ↔ Digits digits n := by
  simp [Denotes, not_digits_plus]

theorem denotes_iff_of_ne (h : text.head? ≠ some '+') : Denotes text n ↔ Digits text n := by
  refine or_iff_left ?_
  rintro ⟨digits, rfl, -⟩
  exact h rfl

theorem Denotes.mem (h : Denotes text n) {c : Char} (hc : c ∈ text) : c = '+' ∨ c.isDigit = true := by
  rcases h with h | ⟨digits, rfl, h⟩
  · exact .inr (h.all c hc)
  · rcases List.mem_cons.mp hc with rfl | hc
    · exact .inl rfl
    · exact .inr (h.all c hc)

/-! ## Reading -/

theorem digitValue?_of_isDigit {c : Char} (h : c.isDigit = true) :
    digitValue? c = some (c.toNat - '0'.toNat) :=
  if_pos (Char.isDigit_iff_toNat.mp h)

theorem digitValue?_of_not_isDigit {c : Char} (h : ¬ c.isDigit = true) : digitValue? c = none :=
  if_neg fun hc => h (Char.isDigit_iff_toNat.mpr hc)

theorem le_ofDigitChars (digits : List Char) (acc : Nat) : acc ≤ Nat.ofDigitChars 10 digits acc := by
  rw [Nat.ofDigitChars_eq_ofDigitChars_zero]
  exact Nat.le_add_right_of_le (Nat.le_mul_of_pos_left acc (Nat.pow_pos (by decide)))

theorem readDigits_ok_iff (hacc : acc < limit) : readDigits limit acc digits = .ok n ↔
    (∀ c ∈ digits, c.isDigit = true) ∧ Nat.ofDigitChars 10 digits acc = n ∧ n < limit := by
  induction digits generalizing acc with
  | nil =>
    rw [readDigits, Except.ok.injEq, Nat.ofDigitChars_nil]
    simp
    omega
  | cons c rest ih =>
    rw [readDigits, Nat.ofDigitChars_cons, List.forall_mem_cons, Nat.mul_comm 10 acc]
    by_cases hc : c.isDigit = true
    · rw [digitValue?_of_isDigit hc]
      have hgrows := le_ofDigitChars rest (acc * 10 + (c.toNat - '0'.toNat))
      by_cases hlimit : acc * 10 + (c.toNat - '0'.toNat) < limit
      · simp only [if_pos hlimit, ih hlimit, hc, true_and]
      · simp only [if_neg hlimit, reduceCtorEq, false_iff, not_and]
        omega
    · simp [digitValue?_of_not_isDigit hc, hc]

theorem readDigits_zero_ok_iff (hlimit : 0 < limit) (hne : digits ≠ []) :
    readDigits limit 0 digits = .ok n ↔ Digits digits n ∧ n < limit := by
  rw [readDigits_ok_iff hlimit]
  constructor
  · rintro ⟨hall, hvalue, hlt⟩
    exact ⟨⟨hne, hall, hvalue⟩, hlt⟩
  · rintro ⟨⟨-, hall, hvalue⟩, hlt⟩
    exact ⟨hall, hvalue, hlt⟩

theorem read_ok_iff (hlimit : 0 < limit) : read limit text = .ok n ↔ Denotes text n ∧ n < limit := by
  unfold read
  split
  · simp [not_denotes_nil]
  · simp [denotes_plus_iff, not_digits_nil]
  · rename_i rest hrest
    rw [denotes_plus_iff, readDigits_zero_ok_iff hlimit hrest]
  · rename_i hne _ hplain
    rw [denotes_iff_of_ne, readDigits_zero_ok_iff hlimit hne]
    intro hhead
    obtain ⟨rest, rfl⟩ := List.head?_eq_some_iff.mp hhead
    exact hplain rest rfl

end AttestedImaging.Text.Decimal
