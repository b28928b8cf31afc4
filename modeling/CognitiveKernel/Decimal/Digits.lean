/-
Module: CognitiveKernel.Decimal.Digits
Purpose: Natural numbers written with decimal digits, most significant first.
Main exports: digits, natText, intText, ofDigits, dropTrailingZeros
-/

namespace CognitiveKernel.Decimal

/-!
The written form of a number has no superfluous leading zero, and zero is the single digit `0`.
`ofDigits` gives every list of digits its positional value, so it also reads numerals that are
padded with zeros.
-/

/-- The digit character of a number below ten. -/
def digitChar (value : Nat) : Char :=
  Char.ofNat ('0'.toNat + value)

/-- Whether a character is one of the ten decimal digits. -/
def isDigit (c : Char) : Bool :=
  '0' ≤ c && c ≤ '9'

/-- The number that a digit character stands for. -/
def digitValue (c : Char) : Nat :=
  c.toNat - '0'.toNat

/-- The decimal digits of a natural number. -/
def digits (value : Nat) : List Char :=
  if value < 10 then [digitChar value] else digits (value / 10) ++ [digitChar (value % 10)]

def natText (value : Nat) : String :=
  String.ofList (digits value)

def intText (value : Int) : String :=
  if value < 0 then "-" ++ natText value.natAbs else natText value.natAbs

/-- The positional value of a list of digits. -/
def ofDigits (ds : List Char) : Nat :=
  ds.foldl (fun value c => 10 * value + digitValue c) 0

/-- The digits of a number without the zeros at their end, and how many zeros were dropped. -/
def dropTrailingZeros (coefficient : Nat) : Nat × Nat :=
  if _ : coefficient ≠ 0 ∧ coefficient % 10 = 0 then
    let (rest, zeros) := dropTrailingZeros (coefficient / 10)
    (rest, zeros + 1)
  else
    (coefficient, 0)
termination_by coefficient
decreasing_by omega

theorem digitValue_digitChar {value : Nat} (h : value < 10) :
    digitValue (digitChar value) = value := by
  revert value
  decide

theorem isDigit_digitChar {value : Nat} (h : value < 10) : isDigit (digitChar value) = true := by
  revert value
  decide

theorem isDigit_of_mem_digits {value : Nat} {c : Char} (h : c ∈ digits value) :
    isDigit c = true := by
  induction value using digits.induct with
  | case1 value small =>
      rw [digits, if_pos small, List.mem_singleton] at h
      rw [h]
      exact isDigit_digitChar small
  | case2 value large ih =>
      rw [digits, if_neg large, List.mem_append, List.mem_singleton] at h
      rcases h with before | last
      · exact ih before
      · rw [last]
        exact isDigit_digitChar (Nat.mod_lt _ (by decide))

theorem digits_ne_nil (value : Nat) : digits value ≠ [] := by
  rw [digits]
  split <;> simp

theorem ofDigits_append_singleton (ds : List Char) (c : Char) :
    ofDigits (ds ++ [c]) = 10 * ofDigits ds + digitValue c := by
  simp [ofDigits]

/-- Writing a number and reading its digits gives the number back. -/
theorem ofDigits_digits (value : Nat) : ofDigits (digits value) = value := by
  induction value using digits.induct with
  | case1 value small =>
      rw [digits, if_pos small]
      simp [ofDigits, digitValue_digitChar small]
  | case2 value large ih =>
      rw [digits, if_neg large, ofDigits_append_singleton, ih,
        digitValue_digitChar (Nat.mod_lt _ (by decide))]
      omega

/-- Dropping trailing zeros keeps the number, counted in powers of ten. -/
theorem dropTrailingZeros_eq (coefficient : Nat) :
    (dropTrailingZeros coefficient).1 * Nat.pow 10 (dropTrailingZeros coefficient).2 =
      coefficient := by
  induction coefficient using dropTrailingZeros.induct with
  | case1 coefficient divisible rest zeros equation ih =>
      rw [dropTrailingZeros, dif_pos divisible, equation]
      rw [equation] at ih
      simp only at ih ⊢
      have step : Nat.pow 10 (zeros + 1) = Nat.pow 10 zeros * 10 := rfl
      rw [step, ← Nat.mul_assoc, ih]
      omega
  | case2 coefficient stop =>
      rw [dropTrailingZeros, dif_neg stop]
      simp

end CognitiveKernel.Decimal
