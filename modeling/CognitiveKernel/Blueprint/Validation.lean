/-
Module: CognitiveKernel.Blueprint.Validation
Purpose: Structural validation of structured kernels.
Main exports: Issue, ValidationReport, Blueprint.validate
-/
import CognitiveKernel.Blueprint.Invariant
import CognitiveKernel.Log

namespace CognitiveKernel

structure Issue where
  code : String
  message : String
  /-- Dotted path of the field at fault, when there is one. -/
  path : Option String
deriving Repr, DecidableEq

structure ValidationReport where
  isValid : Bool
  errors : List Issue
  warnings : List Issue
  invariants : List InvariantResult
deriving Repr, DecidableEq

/-- Leak penalties below this draw a warning. -/
def leastLeakPenalty : Binary64 := Binary64.ofDecimal false ⟨1000, 0⟩

/-- Whether a leak penalty is not infinite and below the least one. -/
def isWeakLeakPenalty (penalty : Binary64) : Bool :=
  !penalty.same .infinity && penalty.lt leastLeakPenalty

namespace Issue

def missingSchema : Issue := ⟨"E001", "Missing schema declaration", some "schema"⟩

def invalidProfile : Issue :=
  ⟨"E002", "Invalid trait profile: all values must be in [0, 1]", some "tensors.profile"⟩

def emptyInternalSet : Issue :=
  ⟨"E003", "Internal symbol set (ℬ_int) cannot be empty", some "boundary.internal_set"⟩

def weakLeakPenalty : Issue :=
  ⟨"W001", "λ₄ (leak penalty) should be very large or Infinity for proper syntax firewall",
    some "decoder.lambda4"⟩

/-- The finding for an invariant that does not hold. An outcome without a complaint gives none. -/
def ofInvariant? (result : InvariantResult) : Option Issue :=
  match result.isValid, result.complaint with
  | false, some complaint => some ⟨"INV_" ++ result.invariant.name, complaint, none⟩
  | _, _ => none

@[simp] theorem ofInvariant?_pass (invariant : Invariant) : ofInvariant? (.pass invariant) = none :=
  rfl

@[simp] theorem ofInvariant?_fail (invariant : Invariant) (complaint : String) :
    ofInvariant? (.fail invariant complaint) =
      some ⟨"INV_" ++ invariant.name, complaint, none⟩ := rfl

theorem code_of_ofInvariant?_eq_some {result : InvariantResult} {issue : Issue}
    (found : ofInvariant? result = some issue) : issue.code = "INV_" ++ result.invariant.name := by
  rw [ofInvariant?] at found
  split at found
  · cases found
    rfl
  · cases found

end Issue

namespace Blueprint

/-- The errors of a structured kernel: structure first, then the invariants. -/
def errors (blueprint : Blueprint) : List Issue :=
  (if blueprint.schema = "" then [Issue.missingSchema] else []) ++
    (if blueprint.tensors.profile.isValid then [] else [Issue.invalidProfile]) ++
    (if blueprint.boundary.internalSet.isEmpty then [Issue.emptyInternalSet] else []) ++
    blueprint.invariantResults.filterMap Issue.ofInvariant?

def warnings (blueprint : Blueprint) : List Issue :=
  if isWeakLeakPenalty blueprint.decoder.lambda4 then [Issue.weakLeakPenalty] else []

/-- The whole outcome. Warnings do not make a kernel invalid. -/
def report (blueprint : Blueprint) : ValidationReport :=
  { isValid := blueprint.errors.isEmpty
    errors := blueprint.errors
    warnings := blueprint.warnings
    invariants := blueprint.invariantResults }

/-- The verdict in the report is the one its list of errors gives. -/
theorem isValid_report (blueprint : Blueprint) :
    blueprint.report.isValid = blueprint.report.errors.isEmpty := rfl

/-- Validates a structured kernel and records how many errors it has, if any. -/
def validate (blueprint : Blueprint) : Traced ValidationReport :=
  { records :=
      if blueprint.errors.isEmpty then []
      else [.validationFailed blueprint.errors.length]
    value := blueprint.report }

end Blueprint

end CognitiveKernel
