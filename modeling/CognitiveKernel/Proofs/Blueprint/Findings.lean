/-
Module: CognitiveKernel.Proofs.Blueprint.Findings
Purpose: The validator reports each flaw of a structured kernel once, in a fixed order.
Main exports: Flaw, Flaw.Present, Blueprint.errors_eq, Blueprint.hasError_iff,
  Blueprint.isWellFormed_iff, InvariantResult.MatchesErrors, Blueprint.FlawsReported,
  Blueprint.validate_reports_flaws
-/
import CognitiveKernel.Proofs.Blueprint.Compilation
import Mathlib.Data.List.Infix
import Mathlib.Data.List.TakeWhile

namespace CognitiveKernel

/-!
What can be wrong with a structured kernel is said here without the checks: in terms of its texts,
its characters and the order of numbers. The report is then compared with it as a whole.
-/

/-- Only a text of blanks is trimmed to nothing. -/
theorem Text.trim_eq_empty_iff {text : String} :
    trim text = "" ↔ ∀ c ∈ text.toList, isBlank c = true := by
  -- What is left of a text behind its first blanks does not begin with one.
  have behind : (∀ c ∈ text.toList.dropWhile isBlank, isBlank c = true) ↔
      text.toList.dropWhile isBlank = [] := by
    have start := List.head?_dropWhile_not isBlank text.toList
    cases kept : text.toList.dropWhile isBlank with
    | nil => simp
    | cons c rest =>
        rw [kept] at start
        refine ⟨fun blank => ?_, fun empty => ?_⟩
        · have first := blank c List.mem_cons_self
          rw [start] at first
          cases first
        · cases empty
  rw [trim, String.ofList_eq_empty_iff, trimChars, List.reverse_eq_nil_iff,
    List.dropWhile_eq_nil_iff, ← List.dropWhile_eq_nil_iff (l := text.toList), ← behind]
  simp only [List.mem_reverse]

/-- What does not lie in the unit interval is no number, or lies below or above it. -/
theorem Binary64.inUnitInterval_eq_false_iff {value : Binary64} :
    value.inUnitInterval = false ↔
      value.isNaN = true ∨ value.lt .zero = true ∨ Binary64.one.lt value = true := by
  cases value with
  | nan => simp [inUnitInterval, le, zero, isNaN]
  | number negative magnitude =>
      simp only [inUnitInterval, le, lt, zero, one, isNaN, Bool.and_eq_false_iff,
        decide_eq_false_iff_not, decide_eq_true_eq, Int.not_le, Bool.false_eq_true, false_or]

/-! ### The flaws -/

/-- What can be wrong with a structured kernel. -/
inductive Flaw where
  | schema
  | profile
  | internalSet
  | invariant (invariant : Invariant)
deriving DecidableEq

namespace Flaw

/-- All flaws, in the order in which they are reported. -/
def all : List Flaw :=
  [schema, profile, internalSet, invariant .epistemicAnchor, invariant .syntaxFirewall,
    invariant .nullAssumption]

/-- The code under which a flaw is reported. -/
def code : Flaw → String
  | schema => "E001"
  | profile => "E002"
  | internalSet => "E003"
  | invariant .epistemicAnchor => "INV_ϑ-Invariant"
  | invariant .syntaxFirewall => "INV_ζ-Invariant"
  | invariant .nullAssumption => "INV_σ-Invariant"

/-- The field with the flaw; an invariant is not reported at a field. -/
def path : Flaw → Option String
  | schema => some "schema"
  | profile => some "tensors.profile"
  | internalSet => some "boundary.internal_set"
  | invariant _ => none

/-- Whether a structured kernel has a flaw. -/
def Present (blueprint : Blueprint) : Flaw → Prop
  | schema => blueprint.schema = ""
  | profile =>
      ∃ weight ∈ blueprint.tensors.profile.toList,
        weight.isNaN = true ∨ weight.lt .zero = true ∨ Binary64.one.lt weight = true
  | internalSet => blueprint.boundary.internalSet = []
  | invariant .epistemicAnchor => blueprint.init.precedence.primary ≠ "ϑ"
  | invariant .syntaxFirewall =>
      ¬"Leak".toList <:+: blueprint.boundary.enforcement.toList ∨
        '0' ∉ blueprint.boundary.enforcement.toList
  | invariant .nullAssumption => ∀ c ∈ blueprint.solver.nullCheck.toList, Text.isBlank c = true

instance (blueprint : Blueprint) : DecidablePred (Present blueprint)
  | schema => inferInstanceAs (Decidable (_ = _))
  | profile => List.decidableBEx _ _
  | internalSet => inferInstanceAs (Decidable (_ = _))
  | invariant .epistemicAnchor => inferInstanceAs (Decidable (_ ≠ _))
  | invariant .syntaxFirewall => inferInstanceAs (Decidable (_ ∨ _))
  | invariant .nullAssumption => List.decidableBAll _ _

/-- The finding for a flaw. -/
def issue (blueprint : Blueprint) : Flaw → Issue
  | schema => .missingSchema
  | profile => .invalidProfile
  | internalSet => .emptyInternalSet
  | invariant failed => ⟨"INV_" ++ failed.name, failed.complaint blueprint, none⟩

theorem mem_all (flaw : Flaw) : flaw ∈ all := by
  cases flaw with
  | invariant failed => cases failed <;> decide
  | _ => decide

/-- Different flaws are reported under different codes. -/
theorem code_inj {left right : Flaw} (same : left.code = right.code) : left = right := by
  have distinct : ∀ left ∈ all, ∀ right ∈ all, left.code = right.code → left = right := by decide
  exact distinct left left.mem_all right right.mem_all same

theorem code_issue (blueprint : Blueprint) (flaw : Flaw) :
    (flaw.issue blueprint).code = flaw.code := by
  cases flaw with
  | invariant failed => cases failed <;> rfl
  | _ => rfl

theorem path_issue (blueprint : Blueprint) (flaw : Flaw) :
    (flaw.issue blueprint).path = flaw.path := by
  cases flaw <;> rfl

/-- A kernel has the flaw of an invariant exactly if the invariant does not hold. -/
theorem present_invariant_iff {blueprint : Blueprint} {failed : Invariant} :
    (invariant failed).Present blueprint ↔ failed.holds blueprint = false := by
  cases failed with
  | epistemicAnchor => simp [Present, Invariant.holds]
  | syntaxFirewall =>
      rw [Present, Invariant.holds, Bool.and_eq_false_iff, ← Bool.not_eq_true, Text.occursIn,
        Text.occursInChars_iff_infix, ← Bool.not_eq_true (List.contains _ _),
        List.contains_iff_mem]
  | nullAssumption =>
      rw [Present, ← Text.trim_eq_empty_iff, Invariant.holds]
      simp

/-- The outcome of a check tells whether the flaw is there, and only then has a complaint. -/
theorem check_eq (blueprint : Blueprint) (checked : Invariant) :
    checked.check blueprint =
      if (invariant checked).Present blueprint then .fail checked (checked.complaint blueprint)
      else .pass checked := by
  rw [Invariant.check]
  cases held : checked.holds blueprint with
  | true => rw [if_neg (mt present_invariant_iff.mp (by simp [held]))]; rfl
  | false => rw [if_pos (present_invariant_iff.mpr held)]; rfl

theorem invariant_check (blueprint : Blueprint) (checked : Invariant) :
    (checked.check blueprint).invariant = checked := by
  rw [Invariant.check]
  split <;> rfl

theorem isValid_check_eq_false_iff {blueprint : Blueprint} {checked : Invariant} :
    (checked.check blueprint).isValid = false ↔ (invariant checked).Present blueprint := by
  rw [check_eq]
  by_cases present : (invariant checked).Present blueprint
  · simp [present, InvariantResult.fail]
  · simp [present, InvariantResult.pass]

theorem complaint_check_eq_some_iff {blueprint : Blueprint} {checked : Invariant}
    {message : String} :
    (checked.check blueprint).complaint = some message ↔
      (invariant checked).Present blueprint ∧ checked.complaint blueprint = message := by
  rw [check_eq]
  by_cases present : (invariant checked).Present blueprint
  · simp [present, InvariantResult.fail]
  · simp [present, InvariantResult.pass]

/-- What is reported for a list of flaws. -/
def reported (blueprint : Blueprint) (flaws : List Flaw) : List Issue :=
  (flaws.filter (·.Present blueprint)).map (issue blueprint)

theorem reported_append (blueprint : Blueprint) (left right : List Flaw) :
    reported blueprint (left ++ right) = reported blueprint left ++ reported blueprint right := by
  rw [reported, List.filter_append, List.map_append]
  rfl

theorem reported_singleton (blueprint : Blueprint) (flaw : Flaw) :
    reported blueprint [flaw] =
      if flaw.Present blueprint then [flaw.issue blueprint] else [] := by
  by_cases present : flaw.Present blueprint
  · simp [reported, present]
  · simp [reported, present]

/-- No failed check is lost on the way from the outcomes to the errors. -/
theorem filterMap_check (blueprint : Blueprint) (invariants : List Invariant) :
    (invariants.map (·.check blueprint)).filterMap Issue.ofInvariant? =
      reported blueprint (invariants.map invariant) := by
  induction invariants with
  | nil => rfl
  | cons checked rest ih =>
      rw [List.map_cons, List.map_cons, ← List.singleton_append (l := rest.map invariant),
        reported_append, reported_singleton, ← ih, List.filterMap_cons, check_eq]
      by_cases present : (invariant checked).Present blueprint
      · rw [if_pos present, if_pos present, Issue.ofInvariant?_fail]
        rfl
      · rw [if_neg present, if_neg present, Issue.ofInvariant?_pass]
        rfl

end Flaw

/-- The outcome for an invariant tells of a flaw exactly if the errors do, with the same words. -/
structure InvariantResult.MatchesErrors (blueprint : Blueprint) (errors : List Issue)
    (result : InvariantResult) : Prop where
  failed_iff : result.isValid = false ↔ (Flaw.invariant result.invariant).Present blueprint
  complains_iff : result.isValid = false ↔ ∃ message, result.complaint = some message
  error_iff : ∀ message, result.complaint = some message ↔
    ⟨(Flaw.invariant result.invariant).code, message, none⟩ ∈ errors

namespace Blueprint

variable (blueprint : Blueprint)

/-! ### The report -/

/-- The errors are the flaws that are there, in order. -/
theorem errors_eq : blueprint.errors = Flaw.reported blueprint Flaw.all := by
  have split : Flaw.all = [.schema] ++ [.profile] ++ [.internalSet] ++
      Invariant.all.map Flaw.invariant := rfl
  have profile : Flaw.profile.Present blueprint ↔ blueprint.tensors.profile.isValid = false := by
    simp only [Flaw.Present, TraitProfile.isValid, List.all_eq_false, Bool.not_eq_true,
      Binary64.inUnitInterval_eq_false_iff]
  rw [split, Flaw.reported_append, Flaw.reported_append, Flaw.reported_append,
    Flaw.reported_singleton, Flaw.reported_singleton, Flaw.reported_singleton,
    ← Flaw.filterMap_check, errors, invariantResults]
  congr 1
  congr 1
  · congr 1
    cases valid : blueprint.tensors.profile.isValid with
    | true => rw [if_neg (mt profile.mp (by simp [valid]))]; rfl
    | false => rw [if_pos (profile.mpr valid)]; rfl
  · exact if_congr List.isEmpty_iff rfl rfl

theorem mem_errors_iff {issue : Issue} :
    issue ∈ blueprint.report.errors ↔
      ∃ flaw : Flaw, flaw.Present blueprint ∧ flaw.issue blueprint = issue := by
  rw [report, errors_eq, Flaw.reported, List.mem_map]
  simp only [List.mem_filter, Flaw.mem_all, true_and, decide_eq_true_eq]

/-- A code is reported exactly if its flaw is there. -/
theorem hasError_iff (flaw : Flaw) :
    blueprint.report.hasError flaw.code = true ↔ flaw.Present blueprint := by
  rw [ValidationReport.hasError, List.any_eq_true]
  simp only [decide_eq_true_eq, mem_errors_iff]
  constructor
  · rintro ⟨issue, ⟨found, present, rfl⟩, same⟩
    rw [Flaw.code_issue] at same
    rwa [← Flaw.code_inj same]
  · exact fun present => ⟨_, ⟨flaw, present, rfl⟩, flaw.code_issue blueprint⟩

theorem isWellFormed_iff :
    blueprint.isWellFormed = true ↔
      ∀ invariant : Invariant, ¬(Flaw.invariant invariant).Present blueprint := by
  have mem_all (invariant : Invariant) : invariant ∈ Invariant.all := by
    cases invariant <;> decide
  have isValid (invariant : Invariant) : (invariant.check blueprint).isValid = true ↔
      ¬(Flaw.invariant invariant).Present blueprint := by
    rw [← Flaw.isValid_check_eq_false_iff, Bool.not_eq_false]
  rw [isWellFormed, invariantResults, List.all_map, List.all_eq_true]
  simp only [Function.comp_apply, isValid, mem_all, forall_true_left]

theorem names_invariantResults :
    blueprint.invariantResults.map (·.invariant.name) = Invariant.all.map Invariant.name := by
  rw [invariantResults, List.map_map]
  refine List.map_congr_left fun checked _ => ?_
  rw [Function.comp_apply, Flaw.invariant_check]

/-- A complaint about an invariant is the message of an error, and the other way round. -/
theorem complaint_eq_some_iff_mem_errors {checked : Invariant} {message : String} :
    (checked.check blueprint).complaint = some message ↔
      ⟨(Flaw.invariant checked).code, message, none⟩ ∈ blueprint.report.errors := by
  rw [Flaw.complaint_check_eq_some_iff, mem_errors_iff]
  constructor
  · rintro ⟨present, rfl⟩
    refine ⟨.invariant checked, present, ?_⟩
    rw [← Flaw.code_issue blueprint]
    rfl
  · rintro ⟨flaw, present, found⟩
    have same : flaw = .invariant checked := by
      apply Flaw.code_inj
      rw [← Flaw.code_issue blueprint, found]
    subst same
    exact ⟨present, congrArg Issue.message found⟩

theorem matchesErrors_check (checked : Invariant) :
    (checked.check blueprint).MatchesErrors blueprint blueprint.report.errors where
  failed_iff := by rw [Flaw.invariant_check, Flaw.isValid_check_eq_false_iff]
  complains_iff := by
    simp only [Flaw.isValid_check_eq_false_iff, Flaw.complaint_check_eq_some_iff, exists_and_left,
      exists_eq', and_true]
  error_iff message := by
    rw [Flaw.invariant_check]
    exact blueprint.complaint_eq_some_iff_mem_errors

/-- A report has what is wrong with a structured kernel and nothing else. -/
structure FlawsReported (blueprint : Blueprint) (report : ValidationReport) : Prop where
  errors_eq : report.errors.map (fun error => (error.code, error.path)) =
    (Flaw.all.filter (·.Present blueprint)).map fun flaw => (flaw.code, flaw.path)
  isValid_iff : report.isValid = true ↔ report.errors = []
  isWellFormed_iff : blueprint.isWellFormed = true ↔
    ∀ invariant, report.hasError (Flaw.invariant invariant).code = false
  invariants_eq :
    report.invariants.map (·.invariant.name) = ["ϑ-Invariant", "ζ-Invariant", "σ-Invariant"]
  results : ∀ result ∈ report.invariants, result.MatchesErrors blueprint report.errors

/-- The report of any structured kernel. Its errors are the flaws of the kernel, each once and in
a fixed order, with its code and the field it is found at; it is valid if there are none. The kernel
is well-formed exactly if no invariant is among them. The outcomes for the three invariants have a
complaint exactly if they fail, and it is the message of the error with their code. -/
theorem validate_reports_flaws : blueprint.FlawsReported blueprint.validate.value where
  errors_eq := by
    change blueprint.errors.map _ = _
    rw [blueprint.errors_eq, Flaw.reported, List.map_map]
    refine List.map_congr_left fun flaw _ => ?_
    rw [Function.comp_apply, Flaw.code_issue, Flaw.path_issue]
  isValid_iff := by
    change blueprint.report.isValid = true ↔ _
    rw [isValid_report]
    exact List.isEmpty_iff
  isWellFormed_iff := by
    rw [blueprint.isWellFormed_iff]
    refine forall_congr' fun invariant => ?_
    rw [← hasError_iff, Bool.not_eq_true]
    rfl
  invariants_eq := blueprint.names_invariantResults
  results result member := by
    obtain ⟨checked, -, rfl⟩ := List.mem_map.mp member
    exact blueprint.matchesErrors_check checked

/-- A blank after the primary precedence, a leak in small letters, a null check of blanks that are
not ASCII and a weight that is no number are found; a blank schema, a negative zero and a set of one
empty symbol are no flaws. -/
theorem validate_reports_almostWellFormed :
    let profile : TraitProfile :=
      (reference.tensors.profile.set 0 (.nan .quiet) (by decide)).set 1 (.number true .zero)
        (by decide)
    let blueprint : Blueprint :=
      { reference with
        schema := " "
        init := { reference.init with precedence := ⟨"ϑ ", "β", "ζ"⟩ }
        tensors := { reference.tensors with profile := profile }
        solver := { reference.solver with nullCheck := "\u3000\u0085" }
        boundary :=
          { reference.boundary with internalSet := [""], enforcement := "leak(ℓ, Σ_CTN) = 0" } }
    let report := blueprint.validate.value
    let anchor := Invariant.epistemicAnchor.check blueprint
    report.errors.map (fun error => (error.code, error.path)) =
        [("E002", some "tensors.profile"), ("INV_ϑ-Invariant", none), ("INV_ζ-Invariant", none),
          ("INV_σ-Invariant", none)] ∧
      blueprint.isWellFormed = false ∧ anchor ∈ report.invariants ∧ anchor.isValid = false ∧
      ⟨"INV_ϑ-Invariant", "Truth (ϑ) must be primary in precedence, found: ϑ ", none⟩ ∈
        report.errors := by
  intro profile blueprint report anchor
  have outcome := validate_reports_flaws blueprint
  have member : anchor ∈ report.invariants := by decide +kernel
  have anchored := outcome.results anchor member
  refine ⟨outcome.errors_eq.trans (by decide +kernel), by decide +kernel, member, ?_, ?_⟩
  · exact anchored.failed_iff.mpr (by decide +kernel)
  · exact (anchored.error_iff _).mp (by decide +kernel)

end Blueprint

end CognitiveKernel
