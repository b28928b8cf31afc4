/-
Module: CognitiveKernel.Proofs.Blueprint.Safety
Purpose: What is known of the numbers of a structured kernel that is compiled.
Main exports: isWeakLeakPenalty_eq_lt, isWeakLeakPenalty_eq_false_iff, Blueprint.Enforceable,
  Blueprint.compile_accepts_iff, Blueprint.compile_accepts_unenforceable
-/
import CognitiveKernel.Blueprint.Rendering
import CognitiveKernel.Proofs.Binary64.Value

namespace CognitiveKernel

open Binary64 (value?_eq_some_iff lt_eq_false_iff le_iff_of_finite_left inUnitInterval_iff
  lt_of_same)

/-!
The check of the profile asks whether a weight lies between two bounds, and NaN lies nowhere. The
check of the leak penalty asks whether it lies below a bound, and NaN does not do that either: it is
refused as a weight and passes as a leak penalty.
-/

theorem value?_leastLeakPenalty : leastLeakPenalty.value? = some 1000 := by
  have units : (Magnitude.ofDecimal ⟨1000, 0⟩).units = 1000 * unitsPerOne := by decide +kernel
  have size : (Magnitude.ofDecimal ⟨1000, 0⟩).value = 1000 := by
    rw [Magnitude.value, units, Nat.cast_mul]
    exact mul_div_cancel_right₀ _ cast_unitsPerOne_pos.ne'
  have finite : (Magnitude.ofDecimal ⟨1000, 0⟩).isFinite = true := by decide +kernel
  exact value?_eq_some_iff.mpr ⟨false, _, rfl, finite, size⟩

/-- Infinity need not be excepted: it is not below the least penalty anyway. -/
theorem isWeakLeakPenalty_eq_lt (penalty : Binary64) :
    isWeakLeakPenalty penalty = penalty.lt leastLeakPenalty := by
  rw [isWeakLeakPenalty]
  cases infinite : penalty.same .infinity with
  | false => rw [Bool.not_false, Bool.true_and]
  | true =>
      rw [lt_of_same infinite]
      decide +kernel

/-- A leak penalty that is not taken for weak is strong or NaN. -/
theorem isWeakLeakPenalty_eq_false_iff {penalty : Binary64} :
    isWeakLeakPenalty penalty = false ↔
      penalty.isNaN = true ∨ penalty = .infinity ∨ ∃ x, penalty.value? = some x ∧ 1000 ≤ x := by
  have real : leastLeakPenalty.isNaN = false := by rfl
  rw [isWeakLeakPenalty_eq_lt, lt_eq_false_iff, le_iff_of_finite_left value?_leastLeakPenalty]
  simp only [real, Bool.false_eq_true, false_or]

namespace Blueprint

variable {blueprint : Blueprint}

/-- What a kernel needs so that it can be enforced: a schema, weights in the unit interval, and a
leak penalty that is infinite or a large number. -/
structure Enforceable (blueprint : Blueprint) : Prop where
  schema : blueprint.schema ≠ ""
  profile : ∀ weight ∈ blueprint.tensors.profile.toList,
    ∃ x, weight.value? = some x ∧ 0 ≤ x ∧ x ≤ 1
  leakPenalty : blueprint.decoder.lambda4 = .infinity ∨
    ∃ x, blueprint.decoder.lambda4.value? = some x ∧ 1000 ≤ x

theorem findings_eq_nil_iff :
    blueprint.findings = [] ↔
      blueprint.tensors.profile.isValid = true ∧ blueprint.schema ≠ "" ∧
        isWeakLeakPenalty blueprint.decoder.lambda4 = false := by
  rw [findings, List.append_eq_nil_iff, List.append_eq_nil_iff, and_assoc]
  simp

theorem compile_eq_ok_iff :
    (∃ text, blueprint.compile ⟨true⟩ = .ok text) ↔ blueprint.findings = [] := by
  rw [compile, Bool.true_and]
  cases found : blueprint.findings with
  | nil => exact iff_of_true ⟨_, rfl⟩ rfl
  | cons finding others =>
      refine iff_of_false ?_ (List.cons_ne_nil _ _)
      rintro ⟨text, accepted⟩
      cases accepted

theorem isValid_profile_iff {profile : TraitProfile} :
    profile.isValid = true ↔
      ∀ weight ∈ profile.toList, ∃ x, weight.value? = some x ∧ 0 ≤ x ∧ x ≤ 1 := by
  simp only [TraitProfile.isValid, List.all_eq_true, inUnitInterval_iff]

/-- A structured kernel that has to be valid is compiled exactly if it can be enforced or lacks for
that nothing but a leak penalty that is a number. -/
theorem compile_accepts_iff (blueprint : Blueprint) :
    (∃ text, blueprint.compile ⟨true⟩ = .ok text) ↔
      blueprint.schema ≠ "" ∧
        (∀ weight ∈ blueprint.tensors.profile.toList,
          ∃ x, weight.value? = some x ∧ 0 ≤ x ∧ x ≤ 1) ∧
        (blueprint.decoder.lambda4.isNaN = true ∨ blueprint.decoder.lambda4 = .infinity ∨
          ∃ x, blueprint.decoder.lambda4.value? = some x ∧ 1000 ≤ x) := by
  rw [compile_eq_ok_iff, findings_eq_nil_iff, isValid_profile_iff,
    isWeakLeakPenalty_eq_false_iff]
  exact and_left_comm

/-- The reference kernel with NaN for its leak penalty is compiled and cannot be enforced. -/
theorem compile_accepts_unenforceable :
    ¬∀ (blueprint : Blueprint) (text : String), blueprint.compile ⟨true⟩ = .ok text →
      blueprint.Enforceable := by
  intro enforceable
  let leaking : Blueprint :=
    { reference with decoder := { reference.decoder with lambda4 := .nan .quiet } }
  have unfound : leaking.findings = [] := by decide +kernel
  obtain ⟨text, accepted⟩ := compile_eq_ok_iff.mpr unfound
  rcases (enforceable leaking text accepted).leakPenalty with infinite | ⟨x, real, -⟩
  · cases infinite
  · cases real

end Blueprint

end CognitiveKernel
