/-
Module: CognitiveKernel.Hexadecimal
Purpose: Hexadecimal digits in lower and upper case, and numbers written with a fixed count of them.
Main exports: Hexadecimal.value?, Hexadecimal.digit, Hexadecimal.digits
-/

namespace CognitiveKernel.Hexadecimal

/-- The letters that stand for the digits from ten on. -/
inductive LetterCase where
  | lower
  | upper
deriving Repr, DecidableEq

def LetterCase.ten : LetterCase → Char
  | lower => 'a'
  | upper => 'A'

/-- The value of a hexadecimal digit in either case. -/
def value? (c : Char) : Option Nat :=
  if '0' ≤ c ∧ c ≤ '9' then some (c.toNat - '0'.toNat)
  else if 'a' ≤ c ∧ c ≤ 'f' then some (c.toNat - 'a'.toNat + 10)
  else if 'A' ≤ c ∧ c ≤ 'F' then some (c.toNat - 'A'.toNat + 10)
  else none

/-- The hexadecimal digit of a number below sixteen. -/
def digit (letters : LetterCase) (value : Nat) : Char :=
  if value < 10 then Char.ofNat ('0'.toNat + value)
  else Char.ofNat (letters.ten.toNat + (value - 10))

/-- The last digits of a number. -/
def digits (letters : LetterCase) : Nat → Nat → List Char
  | 0, _ => []
  | count + 1, value => digits letters count (value / 16) ++ [digit letters (value % 16)]

/-- Every digit is read as the number that it was written for. -/
theorem value?_digit (letters : LetterCase) {value : Nat} (h : value < 16) :
    value? (digit letters value) = some value := by
  cases letters <;> (revert value; decide)

/-- Whatever is read as a digit is a digit in lower or in upper case. -/
theorem exists_digit_of_value?_eq_some {c : Char} {value : Nat} (read : value? c = some value) :
    value < 16 ∧ ∃ letters, c = digit letters value := by
  have zero : '0'.toNat = 48 := rfl
  have lower : 'a'.toNat = 97 := rfl
  have upper : 'A'.toNat = 65 := rfl
  have char (code : Nat) (same : code = c.toNat) : c = Char.ofNat code := by
    rw [same, Char.ofNat_toNat]
  rw [value?] at read
  by_cases decimal : '0' ≤ c ∧ c ≤ '9'
  · have least : 48 ≤ c.toNat := decimal.1
    have greatest : c.toNat ≤ 57 := decimal.2
    rw [if_pos decimal] at read
    cases read
    refine ⟨by omega, .lower, ?_⟩
    rw [digit, if_pos (by omega)]
    exact char _ (by omega)
  · rw [if_neg decimal] at read
    by_cases small : 'a' ≤ c ∧ c ≤ 'f'
    · have least : 97 ≤ c.toNat := small.1
      have greatest : c.toNat ≤ 102 := small.2
      rw [if_pos small] at read
      cases read
      refine ⟨by omega, .lower, ?_⟩
      rw [digit, if_neg (by omega), LetterCase.ten]
      exact char _ (by omega)
    · rw [if_neg small] at read
      by_cases capital : 'A' ≤ c ∧ c ≤ 'F'
      · have least : 65 ≤ c.toNat := capital.1
        have greatest : c.toNat ≤ 70 := capital.2
        rw [if_pos capital] at read
        cases read
        refine ⟨by omega, .upper, ?_⟩
        rw [digit, if_neg (by omega), LetterCase.ten]
        exact char _ (by omega)
      · rw [if_neg capital] at read
        cases read

end CognitiveKernel.Hexadecimal
