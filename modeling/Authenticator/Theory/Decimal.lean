/-
# Theory.Decimal -- digit strings without a leading zero

A string of decimal digits that starts with a nonzero one is the numeral of its value, and
the numeral of a positive number is such a string.  So reading digits is injective on them,
which it is not on digit strings at large.
-/
import Mathlib.Data.List.Induction

namespace Authenticator.Theory

set_option autoImplicit false

/-- The text starts with a digit from 1 to 9. -/
def LeadsNonzero (text : List Char) : Prop :=
  ∃ c rest, text = c :: rest ∧ c.isDigit = true ∧ c ≠ '0'

theorem LeadsNonzero.append {text : List Char} (leads : LeadsNonzero text) (more : List Char) :
    LeadsNonzero (text ++ more) := by
  obtain ⟨c, rest, rfl, digit, nonzero⟩ := leads
  exact ⟨c, rest ++ more, rfl, digit, nonzero⟩

/-- The value of a digit. -/
theorem exists_digitChar {c : Char} (digit : c.isDigit = true) :
    ∃ d, d < 10 ∧ c = Nat.digitChar d ∧ c.toNat - '0'.toNat = d := by
  have range : 48 ≤ c.toNat ∧ c.toNat ≤ 57 := Char.isDigit_iff_toNat.mp digit
  have small : c.toNat - 48 < 10 := by omega
  refine ⟨c.toNat - 48, small, ?_, rfl⟩
  apply Char.toNat_inj.mp
  rw [Nat.toNat_digitChar_of_lt_ten small]
  omega

theorem leadsNonzero_digitChar {d : Nat} (small : d < 10) (positive : 0 < d) :
    LeadsNonzero [Nat.digitChar d] := by
  refine ⟨_, [], rfl, ?_, ?_⟩
  · simpa using small
  · rw [Ne, Nat.digitChar_eq_zero]
    omega

/-- The numeral of a positive number has no leading zero. -/
theorem leadsNonzero_toDigits {n : Nat} (positive : 0 < n) : LeadsNonzero (Nat.toDigits 10 n) := by
  induction n using Nat.strongRecOn with
  | ind n ih =>
      by_cases small : n < 10
      · rw [Nat.toDigits_of_lt_base small]
        exact leadsNonzero_digitChar small positive
      · have shorter : n / 10 < n := by omega
        rw [Nat.toDigits_of_base_le (by decide) (by omega)]
        exact (ih (n / 10) shorter (by omega)).append _

/-- **A digit string without a leading zero is the numeral of its value.** -/
theorem toDigits_ofDigitChars {text : List Char} (digits : ∀ c ∈ text, c.isDigit = true)
    (leads : LeadsNonzero text) :
    Nat.toDigits 10 (Nat.ofDigitChars 10 text 0) = text ∧ 0 < Nat.ofDigitChars 10 text 0 := by
  induction text using List.reverseRecOn with
  | nil =>
      obtain ⟨_, _, impossible, -⟩ := leads
      cases impossible
  | append_singleton front last ih =>
      obtain ⟨d, small, rfl, value⟩ := exists_digitChar (digits last (by simp))
      rw [Nat.ofDigitChars_append, Nat.ofDigitChars_cons_digitChar_of_lt_ten small,
        Nat.ofDigitChars_nil]
      cases front with
      | nil =>
          -- one digit: it is the leading one
          obtain ⟨c, rest, same, -, nonzero⟩ := leads
          simp only [List.nil_append, List.cons.injEq] at same
          rw [← same.1, Ne, Nat.digitChar_eq_zero] at nonzero
          simp only [Nat.ofDigitChars_nil, Nat.mul_zero, Nat.zero_add, List.nil_append]
          exact ⟨Nat.toDigits_of_lt_base small, by omega⟩
      | cons c rest =>
          have front : LeadsNonzero (c :: rest) := by
            obtain ⟨_, _, same, digit, nonzero⟩ := leads
            simp only [List.cons_append, List.cons.injEq] at same
            exact ⟨c, rest, rfl, same.1 ▸ digit, same.1 ▸ nonzero⟩
          obtain ⟨numeral, positive⟩ := ih
            (fun later member => digits later (List.mem_append_left _ member)) front
          refine ⟨?_, by omega⟩
          rw [← Nat.toDigits_append_toDigits (by decide) positive small, numeral,
            Nat.toDigits_of_lt_base small]

end Authenticator.Theory
