/-
Module: CognitiveKernel.Proofs.Binary64.Bits
Purpose: The 64 bits of a number, and numbers up to the bits of NaN.
Main exports: Binary64.bits, Binary64.bits_inj, Binary64.exists_bits_eq, Binary64.upToNaN,
  Binary64.upToNaN_eq_iff
-/
import CognitiveKernel.Binary64.Basic

namespace CognitiveKernel.Binary64

/-!
Numbers are data here, not patterns of bits. The two are the same: each pattern of 64 bits belongs
to one number, so that numbers which are equal agree in every bit, those of a NaN among them.
Documents have one word for all NaNs. What is read back from them is known up to this.
-/

/-! ### Bits -/

def signBit : Binary64 → Bool
  | nan bits => bits.negative
  | number negative _ => negative

/-- The bits below the sign: the rank of the magnitude, beyond infinity for a NaN. -/
def unsignedBits : Binary64 → Nat
  | nan bits => infinityRank + bits.payload
  | number _ magnitude => magnitude.rank

def bits (value : Binary64) : Nat :=
  (if value.signBit then 0x8000000000000000 else 0) + value.unsignedBits

theorem infinityRank_eq : infinityRank = 0x7FF0000000000000 := rfl

theorem ranksPerBinade_eq : ranksPerBinade = 0x10000000000000 := rfl

theorem unsignedBits_lt (value : Binary64) : value.unsignedBits < 0x8000000000000000 := by
  have top := infinityRank_eq
  have step := ranksPerBinade_eq
  cases value with
  | nan bits =>
      have below := bits.payload_lt
      rw [unsignedBits]
      omega
  | number negative magnitude =>
      have below := magnitude.rank_le
      rw [unsignedBits]
      omega

theorem bits_lt (value : Binary64) : value.bits < 0x10000000000000000 := by
  have below := value.unsignedBits_lt
  rw [bits]
  split <;> omega

/-- The sign and the bits below it tell a number: no rank is beyond infinity, and every NaN is. -/
theorem eq_of_signBit_eq_of_unsignedBits_eq {left right : Binary64}
    (sign : left.signBit = right.signBit) (rest : left.unsignedBits = right.unsignedBits) :
    left = right := by
  rcases left with ⟨negative, payload, positive, below⟩ | ⟨negative, rank, rank_le⟩ <;>
    rcases right with ⟨negative', payload', positive', below'⟩ | ⟨negative', rank', rank_le'⟩ <;>
    simp only [signBit, unsignedBits] at sign rest
  · obtain rfl : payload = payload' := Nat.add_left_cancel rest
    rw [sign]
  · omega
  · omega
  · subst sign rest
    rfl

/-- Numbers with the same bits are the same. -/
theorem bits_inj {left right : Binary64} : left.bits = right.bits ↔ left = right := by
  refine ⟨fun same => ?_, congrArg bits⟩
  have below := left.unsignedBits_lt
  have below' := right.unsignedBits_lt
  rw [bits, bits] at same
  apply eq_of_signBit_eq_of_unsignedBits_eq
  · cases sign : left.signBit <;> cases sign' : right.signBit <;> simp [sign, sign'] at same ⊢ <;>
      omega
  · split at same <;> split at same <;> omega

/-- Every pattern of bits is that of some number. -/
theorem exists_bits_eq {pattern : Nat} (fits : pattern < 0x10000000000000000) :
    ∃ value : Binary64, value.bits = pattern := by
  have top := infinityRank_eq
  have step := ranksPerBinade_eq
  obtain ⟨negative, low, split, below⟩ : ∃ (negative : Bool) (low : Nat),
      (if negative then 0x8000000000000000 else 0) + low = pattern ∧ low < 0x8000000000000000 := by
    by_cases positive : pattern < 0x8000000000000000
    · exact ⟨false, pattern, Nat.zero_add pattern, positive⟩
    · refine ⟨true, pattern - 0x8000000000000000, ?_, by omega⟩
      exact Nat.add_sub_cancel' (Nat.not_lt.mp positive)
  by_cases real : low ≤ infinityRank
  · exact ⟨number negative ⟨low, real⟩, split⟩
  · have beyond : infinityRank + (low - infinityRank) = low :=
      Nat.add_sub_cancel' (Nat.le_of_not_le real)
    refine ⟨nan ⟨negative, low - infinityRank, by omega, by omega⟩, ?_⟩
    rw [bits, unsignedBits, beyond]
    exact split

/-! ### Up to the bits of NaN -/

/-- A number with the quiet NaN in place of any other one: what is left of it in a document. -/
def upToNaN : Binary64 → Binary64
  | nan _ => nan .quiet
  | number negative magnitude => number negative magnitude

theorem upToNaN_of_isNaN_eq_false {value : Binary64} (real : value.isNaN = false) :
    value.upToNaN = value := by
  cases value with
  | nan bits => cases real
  | number negative magnitude => rfl

/-- Numbers agree up to the bits of NaN if they are the same or both of them are NaN. -/
theorem upToNaN_eq_iff {left right : Binary64} :
    left.upToNaN = right.upToNaN ↔ left = right ∨ left.isNaN = true ∧ right.isNaN = true := by
  cases left <;> cases right <;> simp [upToNaN, isNaN]

end CognitiveKernel.Binary64
