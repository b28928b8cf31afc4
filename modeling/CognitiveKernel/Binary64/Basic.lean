/-
Module: CognitiveKernel.Binary64.Basic
Purpose: Double-precision numbers as exact data, with their order.
Main exports: Magnitude, Magnitude.units, NaN, Binary64, Binary64.le, Binary64.lt, Binary64.same
-/

namespace CognitiveKernel

/-!
The magnitudes of double precision, that is zero, the positive finite numbers and infinity, are
numbered in increasing order: zero has rank 0, the least positive number has rank 1 and infinity
has rank `2047 * 2 ^ 52`. Every finite magnitude is a whole number of units of `2 ^ (-1074)`, so
comparing, rounding and printing are questions about natural numbers.

The rank is also what the 63 bits below the sign spell. The bit patterns above that of infinity are
the NaNs. No text tells two of them apart, but a number that is handed on keeps all of its bits.
-/

/-- The number of magnitudes in a binade. -/
def ranksPerBinade : Nat := Nat.pow 2 52

/-- The number of units of `2 ^ (-1074)` in the magnitude of a given rank. In each binade of
`2 ^ 52` ranks the step is twice that of the one before; the first two share the step of one
unit. The rank of infinity counts as the next power of two, `2 ^ 1024`. -/
def unitsOfRank (rank : Nat) : Nat :=
  (rank - (rank / ranksPerBinade - 1) * ranksPerBinade) *
    Nat.pow 2 (rank / ranksPerBinade - 1)

/-- The greatest rank whose magnitude has at most the given number of units. -/
def rankOfUnits (units : Nat) : Nat :=
  (Nat.log2 units - 52) * ranksPerBinade + units / Nat.pow 2 (Nat.log2 units - 52)

def infinityRank : Nat := 2047 * ranksPerBinade

/-- A magnitude of double precision, given by its rank. -/
structure Magnitude where
  /-- Position in the increasing list of all magnitudes. -/
  rank : Nat
  rank_le : rank ≤ infinityRank
deriving DecidableEq

namespace Magnitude

def zero : Magnitude := ⟨0, Nat.zero_le _⟩

def infinity : Magnitude := ⟨infinityRank, Nat.le_refl _⟩

/-- The magnitude one, `2 ^ 1074` units. -/
def one : Magnitude := ⟨1023 * ranksPerBinade, by decide⟩

/-- Whether a magnitude is a real number. -/
def isFinite (magnitude : Magnitude) : Bool :=
  magnitude.rank < infinityRank

/-- The size of a finite magnitude in units of `2 ^ (-1074)`. -/
def units (magnitude : Magnitude) : Nat :=
  unitsOfRank magnitude.rank

/-- The magnitude of a rank, and infinity for every rank beyond it. -/
def ofRank (rank : Nat) : Magnitude :=
  ⟨min rank infinityRank, Nat.min_le_right _ _⟩

end Magnitude

/-- The bits of a value that is not a number: a sign, and how far the others lie beyond infinity. -/
structure NaN where
  negative : Bool
  /-- The bits of the significand, which are not all zero. -/
  payload : Nat
  payload_pos : 0 < payload
  payload_lt : payload < ranksPerBinade
deriving DecidableEq

/-- The NaN that is put where there is no reason for another one: positive, and quiet by its
highest bit. -/
def NaN.quiet : NaN := ⟨false, Nat.pow 2 51, by decide, by decide⟩

/-- A double-precision number: NaN with its bits, or a magnitude with a sign. -/
inductive Binary64 where
  /-- A value that is not a number. -/
  | nan (bits : NaN)
  /-- A number of the extended line; zero has both signs. -/
  | number (negative : Bool) (magnitude : Magnitude)
deriving DecidableEq

namespace Binary64

def zero : Binary64 := number false Magnitude.zero

def one : Binary64 := number false Magnitude.one

def infinity : Binary64 := number false Magnitude.infinity

def negativeInfinity : Binary64 := number true Magnitude.infinity

def isNaN : Binary64 → Bool
  | nan _ => true
  | number _ _ => false

/-- Whether a number is neither NaN nor infinite. -/
def isFinite : Binary64 → Bool
  | nan _ => false
  | number _ magnitude => magnitude.isFinite

/-- Position on the extended line: the rank of the magnitude with the sign of the number. -/
def position (negative : Bool) (magnitude : Magnitude) : Int :=
  if negative then -(magnitude.rank : Int) else magnitude.rank

/-- At most, as numbers: both zeros are equal and NaN is comparable with nothing. -/
def le : Binary64 → Binary64 → Bool
  | number negative magnitude, number negative' magnitude' =>
      position negative magnitude ≤ position negative' magnitude'
  | _, _ => false

def lt : Binary64 → Binary64 → Bool
  | number negative magnitude, number negative' magnitude' =>
      position negative magnitude < position negative' magnitude'
  | _, _ => false

/-- Equal as numbers: the two zeros agree and NaN differs from itself. -/
def same : Binary64 → Binary64 → Bool
  | number negative magnitude, number negative' magnitude' =>
      position negative magnitude = position negative' magnitude'
  | _, _ => false

/-- Whether a number lies in the closed unit interval. -/
def inUnitInterval (value : Binary64) : Bool :=
  zero.le value && value.le one

/-- The nearest number of the closed unit interval, keeping a negative zero. NaN counts as one. -/
def clampToUnit (value : Binary64) : Binary64 :=
  match value with
  | nan _ => one
  | number _ _ =>
      let raised := if value.lt zero then zero else value
      if one.lt raised then one else raised

theorem isNaN_of_inUnitInterval {value : Binary64} (inside : value.inUnitInterval = true) :
    value.isNaN = false := by
  cases value with
  | nan bits => cases inside
  | number negative magnitude => rfl

/-- A clamped number lies in the unit interval, whatever it was before. -/
theorem inUnitInterval_clampToUnit (value : Binary64) :
    value.clampToUnit.inUnitInterval = true := by
  cases value with
  | nan bits =>
      have atOne : one.inUnitInterval = true := by decide
      exact atOne
  | number negative magnitude =>
      have unitEnds : zero.inUnitInterval = true ∧ one.inUnitInterval = true := by decide
      by_cases below : (number negative magnitude).lt zero = true
      · have notAbove : one.lt zero = false := by decide
        simp [clampToUnit, below, notAbove, unitEnds.1]
      · by_cases above : one.lt (number negative magnitude) = true
        · simp [clampToUnit, below, above, unitEnds.2]
        · simp only [clampToUnit, below, above, inUnitInterval, Bool.false_eq_true, if_false,
            Bool.and_eq_true]
          simp only [lt, zero, one, decide_eq_true_eq, Int.not_lt] at below above
          simp [le, zero, one, below, above]

end Binary64

end CognitiveKernel
