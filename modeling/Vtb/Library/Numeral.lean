import Mathlib.Tactic

namespace Vtb.Library

/-- The value of a digit or a letter in a numeral; no other character is below the base 36. -/
def digitValue (c : Char) : Nat :=
  if 48 ≤ c.toNat ∧ c.toNat ≤ 57 then c.toNat - 48
  else if 97 ≤ c.toNat ∧ c.toNat ≤ 122 then c.toNat - 87
  else if 65 ≤ c.toNat ∧ c.toNat ≤ 90 then c.toNat - 55
  else 36

def isDigitOf (base : Nat) (c : Char) : Bool := digitValue c < base

/-- The value of a numeral, with the first digit as the highest one. -/
def numeral (base : Nat) (digits : List Char) : Nat :=
  digits.foldl (fun value c => base * value + digitValue c) 0

@[simp] theorem numeral_nil (base : Nat) : numeral base [] = 0 := rfl

theorem numeral_concat (base : Nat) (digits : List Char) (last : Char) :
    numeral base (digits ++ [last]) = base * numeral base digits + digitValue last := by
  rw [numeral, List.foldl_append, List.foldl_cons, List.foldl_nil, ← numeral]

/-- A digit is written as the character of its value. -/
theorem digitValue_digitChar {digit : Nat} (small : digit < 16) : digitValue digit.digitChar = digit := by
  have each : ∀ digit : Fin 16, digitValue (Nat.digitChar digit) = digit := by decide
  exact each ⟨digit, small⟩

section
variable {base : Nat} (wide : 1 < base) (known : base ≤ 16)
include wide known

/-- A number is read back from its digits. -/
theorem numeral_toDigits (number : Nat) : numeral base (Nat.toDigits base number) = number := by
  induction number using Nat.strongRecOn with
  | ind number ih =>
      rw [Nat.toDigits_eq_if wide]
      split
      · next small =>
          have single := numeral_concat base [] number.digitChar
          rw [List.nil_append, numeral_nil, Nat.mul_zero, Nat.zero_add,
            digitValue_digitChar (small.trans_le known)] at single
          exact single
      · next large =>
          have less : number / base < number := Nat.div_lt_self (by omega) wide
          have digit : number % base < 16 := (Nat.mod_lt number (by omega)).trans_le known
          rw [numeral_concat, ih (number / base) less, digitValue_digitChar digit]
          exact Nat.div_add_mod number base

/-- Every character of a written number is a digit of its base. -/
theorem isDigitOf_toDigits (number : Nat) : ∀ c ∈ Nat.toDigits base number, isDigitOf base c = true := by
  induction number using Nat.strongRecOn with
  | ind number ih =>
      intro c member
      rw [Nat.toDigits_eq_if wide] at member
      split at member
      · next small =>
          obtain rfl := List.mem_singleton.mp member
          simpa [isDigitOf, digitValue_digitChar (small.trans_le known)] using small
      · next large =>
          rcases List.mem_append.mp member with front | last
          · exact ih (number / base) (Nat.div_lt_self (by omega) wide) c front
          · obtain rfl := List.mem_singleton.mp last
            have digit : number % base < base := Nat.mod_lt number (by omega)
            simpa [isDigitOf, digitValue_digitChar (digit.trans_le known)] using digit

/-- A number other than zero is written without a leading zero. -/
theorem head_toDigits {number : Nat} (positive : 0 < number) : (Nat.toDigits base number).head? ≠ some '0' := by
  induction number using Nat.strongRecOn with
  | ind number ih =>
      rw [Nat.toDigits_eq_if wide]
      split
      · simp only [List.head?_cons, ne_eq, Option.some.injEq, Nat.digitChar_eq_zero]
        omega
      · next large =>
          have quotient : 0 < number / base := Nat.div_pos (by omega) (by omega)
          rw [List.head?_append_of_ne_nil _ Nat.toDigits_ne_nil]
          exact ih (number / base) (Nat.div_lt_self positive wide) quotient

end

end Vtb.Library
