/-
Module: CognitiveKernel.Proofs.Blueprint.Compilation
Purpose: Which structured kernels are compiled: the report of the validator decides it.
Main exports: ValidationReport.hasError, ValidationReport.hasWarning, ValidationReport.Obstructs,
  ValidationReport.refusals, Blueprint.findings_eq_refusals, Blueprint.CompiledAsReported,
  Blueprint.compile_agrees_with_validate
-/
import CognitiveKernel.Blueprint.Rendering

namespace CognitiveKernel

/-!
The validator and the compiler check a kernel apart from each other. The compiler asks in another
order, passes over the set of internal symbols and the invariants, and refuses a weak leak penalty,
which is no more than a warning to the validator. The codes of the findings link the two.
-/

namespace ValidationReport

/-- Whether an error of a certain code is reported. -/
def hasError (report : ValidationReport) (code : String) : Bool :=
  report.errors.any (·.code = code)

/-- Whether a warning of a certain code is reported. -/
def hasWarning (report : ValidationReport) (code : String) : Bool :=
  report.warnings.any (·.code = code)

/-- Whether one of the three findings is reported that keep a kernel from being compiled. -/
def Obstructs (report : ValidationReport) : Prop :=
  report.hasError "E001" ∨ report.hasError "E002" ∨ report.hasWarning "W001"

instance (report : ValidationReport) : Decidable report.Obstructs :=
  inferInstanceAs (Decidable (_ ∨ _))

/-- What the compiler has to say about a kernel with a certain report. -/
def refusals (report : ValidationReport) : List String :=
  (if report.hasError "E002" then ["Invalid trait profile: all values must be in [0, 1]"]
    else []) ++
    (if report.hasError "E001" then ["Missing schema declaration"] else []) ++
    (if report.hasWarning "W001" then ["λ₄ (leak penalty) should be very large or Infinity"]
      else [])

theorem refusals_ne_nil_iff (report : ValidationReport) :
    report.refusals ≠ [] ↔ report.Obstructs := by
  rw [refusals, Obstructs]
  cases report.hasError "E001" <;> cases report.hasError "E002" <;>
    cases report.hasWarning "W001" <;> decide

/-- A report without errors and warnings has none of any code. -/
theorem not_obstructs {report : ValidationReport} (faultless : report.errors = [])
    (unwarned : report.warnings = []) : ¬report.Obstructs := by
  simp [Obstructs, hasError, hasWarning, faultless, unwarned]

end ValidationReport

namespace Blueprint

/-! ### What is reported under a code -/

/-- An invariant is reported under a code that starts with `INV_`. -/
theorem any_code_ofInvariant? (results : List InvariantResult) {code : String} {c : Char}
    {rest : List Char} (start : code.toList = c :: rest) (other : c ≠ 'I') :
    (results.filterMap Issue.ofInvariant?).any (·.code = code) = false := by
  apply List.any_eq_false.mpr
  intro issue member
  obtain ⟨result, -, found⟩ := List.mem_filterMap.mp member
  have initial : ("INV_" ++ result.invariant.name).toList =
      'I' :: ("NV_" ++ result.invariant.name).toList := by
    rw [String.toList_append, String.toList_append]
    rfl
  simp only [decide_eq_true_eq]
  intro same
  rw [← same, Issue.code_of_ofInvariant?_eq_some found, initial] at start
  exact other (List.cons.inj start).1.symm

variable (blueprint : Blueprint)

/-- Under a code of another kind there are only the findings about the structure. -/
theorem hasError_eq {code : String} {c : Char} {rest : List Char}
    (start : code.toList = c :: rest) (other : c ≠ 'I') :
    blueprint.report.hasError code =
      (decide (blueprint.schema = "") && decide ("E001" = code) ||
        !blueprint.tensors.profile.isValid && decide ("E002" = code) ||
        blueprint.boundary.internalSet.isEmpty && decide ("E003" = code)) := by
  have invariants := any_code_ofInvariant? blueprint.invariantResults start other
  rw [ValidationReport.hasError, report, errors, List.any_append, invariants, List.any_append,
    List.any_append, Bool.or_false]
  congr 1
  · congr 1
    · split <;> simp_all [Issue.missingSchema]
    · split <;> simp_all [Issue.invalidProfile]
  · split <;> simp_all [Issue.emptyInternalSet]

theorem hasError_missingSchema :
    blueprint.report.hasError "E001" = decide (blueprint.schema = "") := by
  rw [blueprint.hasError_eq rfl (by decide)]
  simp

theorem hasError_invalidProfile :
    blueprint.report.hasError "E002" = !blueprint.tensors.profile.isValid := by
  rw [blueprint.hasError_eq rfl (by decide)]
  simp

theorem hasWarning_weakLeakPenalty :
    blueprint.report.hasWarning "W001" = isWeakLeakPenalty blueprint.decoder.lambda4 := by
  rw [ValidationReport.hasWarning, report, warnings]
  cases isWeakLeakPenalty blueprint.decoder.lambda4 <;> rfl

/-! ### What is compiled -/

theorem findings_eq_refusals : blueprint.findings = blueprint.report.refusals := by
  rw [findings, ValidationReport.refusals, hasError_missingSchema, hasError_invalidProfile,
    hasWarning_weakLeakPenalty]
  cases blueprint.tensors.profile.isValid <;> simp

/-- How the compiler deals with a kernel that has a certain report. -/
structure CompiledAsReported (blueprint : Blueprint) (report : ValidationReport) : Prop where
  refused_iff : (∃ error, blueprint.compile ⟨true⟩ = .error error) ↔ report.Obstructs
  refusal : report.Obstructs →
    blueprint.compile ⟨true⟩ = .error (.invalidDefinition report.refusals)
  text : ¬report.Obstructs → blueprint.compile ⟨true⟩ = .ok blueprint.render
  text_of_valid : report.isValid = true → report.warnings = [] →
    blueprint.compile ⟨true⟩ = .ok blueprint.render
  text_unvalidated : blueprint.compile ⟨false⟩ = .ok blueprint.render

/-- A kernel that has to be valid is refused exactly if the validator reports a missing schema or an
invalid profile as an error or a weak leak penalty as a warning, and then with the words for these
findings. Every other kernel is compiled, and so is any kernel that need not be valid. -/
theorem compile_agrees_with_validate : blueprint.CompiledAsReported blueprint.validate.value := by
  let report := blueprint.report
  have refusals : blueprint.findings = report.refusals := blueprint.findings_eq_refusals
  have refused : report.Obstructs →
      blueprint.compile ⟨true⟩ = .error (.invalidDefinition report.refusals) := by
    intro obstructed
    have nonempty := report.refusals_ne_nil_iff.mpr obstructed
    rw [compile, refusals, List.isEmpty_eq_false_iff.mpr nonempty]
    rfl
  have compiled : ¬report.Obstructs → blueprint.compile ⟨true⟩ = .ok blueprint.render := by
    intro free
    have empty : report.refusals = [] :=
      Decidable.not_not.mp (mt report.refusals_ne_nil_iff.mp free)
    rw [compile, refusals, empty]
    rfl
  constructor
  case refused_iff =>
    refine ⟨fun ⟨error, failed⟩ => ?_, fun obstructed => ⟨_, refused obstructed⟩⟩
    refine Decidable.byContradiction fun free => ?_
    rw [compiled free] at failed
    cases failed
  case refusal => exact refused
  case text => exact compiled
  case text_of_valid =>
    intro valid unwarned
    have faultless : report.errors = [] :=
      List.isEmpty_iff.mp (blueprint.isValid_report.symm.trans valid)
    exact compiled (ValidationReport.not_obstructs faultless unwarned)
  case text_unvalidated => rfl

/-- No set of internal symbols, a leak penalty that is no number and a profile with a negative zero
are no obstacle, while a profile with a weight that is no number is one. -/
theorem compile_unchecked :
    let profile (weight : Binary64) : TraitProfile := reference.tensors.profile.set 0 weight
    let blueprint (weight : Binary64) : Blueprint :=
      { reference with
        tensors := { reference.tensors with profile := profile weight }
        boundary := { reference.boundary with internalSet := [] }
        decoder := { reference.decoder with lambda4 := .nan .quiet } }
    let negativeZero := blueprint (.number true .zero)
    let unreal := blueprint (.nan .quiet)
    negativeZero.report.isValid = false ∧ negativeZero.compile ⟨true⟩ = .ok negativeZero.render ∧
      unreal.compile ⟨true⟩ =
        .error (.invalidDefinition ["Invalid trait profile: all values must be in [0, 1]"]) := by
  intro profile blueprint negativeZero unreal
  refine ⟨by decide +kernel, ?_, ?_⟩
  · exact (compile_agrees_with_validate negativeZero).text (by decide +kernel)
  · have words : unreal.report.refusals =
        ["Invalid trait profile: all values must be in [0, 1]"] := by decide +kernel
    rw [← words]
    exact (compile_agrees_with_validate unreal).refusal (by decide +kernel)

end Blueprint

end CognitiveKernel
