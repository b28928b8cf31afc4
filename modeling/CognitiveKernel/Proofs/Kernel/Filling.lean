/-
Module: CognitiveKernel.Proofs.Kernel.Filling
Purpose: What becomes of a template: the three replacements amount to one pass, and nothing of the
  tokens is left.
Main exports: Kernel.tokens, Kernel.rules, Kernel.TokensApart, Kernel.WellFormed.shielded,
  Kernel.compile_eq_singlePass, Kernel.compile_leaves_no_token
-/
import CognitiveKernel.Proofs.Kernel.Reachable
import CognitiveKernel.Proofs.Text.SinglePass
import Mathlib.Data.List.Chain

namespace CognitiveKernel

namespace Kernel

/-! ### Tokens and what is put in for them -/

/-- The tokens that a template may contain. -/
def tokens : List String := [weightsToken, vectorsToken, solverToken]

/-- The tokens with the texts that a kernel puts in: its weights, the lines of its vectors and the
formula of its mode. -/
def rules (kernel : Kernel) : List Text.Rule :=
  [ ⟨weightsToken.toList, kernel.weightText.toList⟩,
    ⟨vectorsToken.toList, kernel.vectorText.toList⟩,
    ⟨solverToken.toList, kernel.mode.solverLogic.toList⟩ ]

/-- No occurrence of a token overlaps an occurrence of another token. Occurrences of the same token
may overlap each other. -/
def TokensApart (template : String) : Prop :=
  ∀ left ∈ tokens, ∀ right ∈ tokens, left ≠ right →
    Text.Apart left.toList right.toList template.toList

instance (template : String) : Decidable (TokensApart template) :=
  inferInstanceAs (Decidable (∀ left ∈ tokens, ∀ right ∈ tokens, _ → _))

theorem token_ne_nil {token : String} (h : token ∈ tokens) : token.toList ≠ [] := by
  revert token
  decide

/-- A property of texts that joining with a separator keeps holds of a joined text. -/
theorem intercalate_induction {P : List Char → Prop} {separator : List Char}
    {parts : List (List Char)} (nonempty : parts ≠ []) (part : ∀ text ∈ parts, P text)
    (join : ∀ left right, P left → P right → P (left ++ separator ++ right)) :
    P (separator.intercalate parts) := by
  induction parts with
  | nil => exact absurd rfl nonempty
  | cons first rest ih =>
      have firstHolds : P first := part first List.mem_cons_self
      cases rest with
      | nil => simpa using firstHolds
      | cons second more =>
          have restHolds := ih (List.cons_ne_nil second more) fun text member =>
            part text (List.mem_cons_of_mem first member)
          simpa using join first _ firstHolds restHolds

/-! ### Weights -/

/-- The characters that weights are written with. -/
def isWeightChar (c : Char) : Bool :=
  Decimal.isDigit c || ['-', '.', ',', ' ', 'N', 'a', 'i', 'n', 'f'].contains c

theorem no_weightChar_of_mem_tokens :
    ∀ token ∈ tokens, token.toList.any isWeightChar = false := by
  decide

theorem isWeightChar_of_isDigit {c : Char} (h : Decimal.isDigit c = true) :
    isWeightChar c = true := by
  rw [isWeightChar, h, Bool.true_or]

theorem writeHundredths_chars (hundredths : Nat) :
    (Decimal.writeHundredths hundredths).all isWeightChar = true := by
  have digitChar (number : Nat) : isWeightChar (Decimal.digitChar (number % 10)) = true :=
    isWeightChar_of_isDigit (Decimal.isDigit_digitChar (Nat.mod_lt _ (by decide)))
  have whole : (Decimal.digits (hundredths / 100)).all isWeightChar = true :=
    List.all_eq_true.mpr fun _ member =>
      isWeightChar_of_isDigit (Decimal.isDigit_of_mem_digits member)
  have point : isWeightChar '.' = true := by decide
  rw [Decimal.writeHundredths, List.all_append, whole]
  simp only [List.all_cons, List.all_nil, digitChar, point, Bool.and_self]

/-- Every weight is written with these characters, and with at least one. -/
theorem twoDecimals_chars (value : Binary64) :
    value.twoDecimals.toList ≠ [] ∧ value.twoDecimals.toList.all isWeightChar = true := by
  cases value with
  | nan bits =>
      have word : (Binary64.nan bits).twoDecimals = "NaN" := rfl
      rw [word]
      decide
  | number negative magnitude =>
      have sign : (if negative then ['-'] else []).all isWeightChar = true := by
        cases negative <;> decide
      have infinity : Binary64.Spelling.words.infinity.all isWeightChar = true := by decide
      rw [Binary64.twoDecimals, String.toList_ofList, Binary64.writeWith, List.all_append, sign,
        Bool.true_and]
      cases magnitude.isFinite with
      | true => exact ⟨by simp [Decimal.writeHundredths], writeHundredths_chars _⟩
      | false => exact ⟨by simp [Binary64.Spelling.words], infinity⟩

/-- The weight text of a well-formed kernel is not empty and has no character of a token. -/
theorem WellFormed.weightText_chars {kernel : Kernel} (wellFormed : kernel.WellFormed) :
    kernel.weightText.toList ≠ [] ∧ kernel.weightText.toList.all isWeightChar = true := by
  have nonempty : kernel.vectors ≠ [] := by
    intro empty
    simpa [empty, standardBasis, Axis.all] using wellFormed.texts_eq
  have separator : ", ".toList.all isWeightChar = true := by decide
  rw [weightText, String.toList_intercalate]
  apply intercalate_induction
    (P := fun text => text ≠ [] ∧ text.all isWeightChar = true)
  · simpa [weightList] using nonempty
  · intro text member
    simp only [List.mem_map] at member
    obtain ⟨_, ⟨weight, _, rfl⟩, rfl⟩ := member
    exact twoDecimals_chars weight
  · intro left right leftChars rightChars
    refine ⟨by simp, ?_⟩
    rw [List.all_append, List.all_append, leftChars.2, separator, rightChars.2]
    rfl

/-! ### Formulas -/

/-- No two underscores stand next to each other. -/
def Single (text : List Char) : Prop :=
  text.IsChain fun left right => left ≠ '_' ∨ right ≠ '_'

instance (text : List Char) : Decidable (Single text) :=
  inferInstanceAs (Decidable (List.IsChain _ text))

theorem Single.append {left right : List Char} (leftSingle : Single left)
    (rightSingle : Single right) (boundary : right.head? ≠ some '_') :
    Single (left ++ right) := by
  refine List.isChain_append.mpr ⟨leftSingle, rightSingle, fun _ _ c isHead => Or.inr ?_⟩
  rintro rfl
  exact boundary isHead

theorem Single.of_forall {text : List Char} (h : ∀ c ∈ text, c ≠ '_') : Single text := by
  induction text with
  | nil => exact .nil
  | cons c rest ih =>
      refine List.isChain_cons.mpr ⟨fun _ _ => Or.inl (h c List.mem_cons_self), ?_⟩
      exact ih fun other member => h other (List.mem_cons_of_mem c member)

theorem not_single_of_mem_tokens : ∀ token ∈ tokens, ¬ Single token.toList := by
  decide

/-- The texts that vectors and modes contribute: they begin with a backslash, end with a bracket
and have no two underscores in a row, while every token begins with two. -/
structure Formula (text : List Char) : Prop where
  head : text.head? = some '\\'
  last : text.getLast? = some '\x7d' ∨ text.getLast? = some ')'
  single : Single text

theorem Formula.shielded {text : List Char} (formula : Formula text) {token : String}
    (isToken : token ∈ tokens) : Text.Shielded token.toList text where
  head := by
    refine ⟨'\\', formula.head, ?_⟩
    revert token
    decide
  last := by
    rcases formula.last with brace | parenthesis
    · refine ⟨'\x7d', brace, ?_⟩
      revert token
      decide
    · refine ⟨')', parenthesis, ?_⟩
      revert token
      decide
  inside := by
    intro occurs
    have tokenSingle : Single token.toList := List.IsChain.infix formula.single occurs
    exact not_single_of_mem_tokens token isToken tokenSingle

theorem formula_solverLogic (mode : Mode) : Formula mode.solverLogic.toList := by
  cases mode <;> exact ⟨by decide, by decide, by decide +kernel⟩

theorem ne_underscore_of_isDigit {c : Char} (h : Decimal.isDigit c = true) : c ≠ '_' := by
  rintro rfl
  exact absurd h (by decide)

theorem formula_definitionLine (axis : Axis) (weight : Binary64) (index : Nat) :
    Formula ((axis.vector weight).definitionLine index).toList where
  head := by simp [BasisVector.definitionLine]
  last := by
    left
    rw [BasisVector.definitionLine, String.toList_append,
      List.getLast?_append_of_ne_nil _ (by decide)]
    decide
  single := by
    have number : Single (Decimal.natText index).toList ∧
        (Decimal.natText index).toList.head? ≠ some '_' := by
      rw [Decimal.natText, String.toList_ofList]
      refine ⟨.of_forall fun c member => ?_, fun isHead => ?_⟩
      · exact ne_underscore_of_isDigit (Decimal.isDigit_of_mem_digits member)
      · exact ne_underscore_of_isDigit
          (Decimal.isDigit_of_mem_digits (List.mem_of_head? isHead)) rfl
    have definition : Single axis.definition.toList ∧
        axis.definition.toList.head? ≠ some '_' := by
      cases axis <;> decide
    have constraint : Single axis.constraint.toList ∧
        axis.constraint.toList.head? ≠ some '_' := by
      cases axis <;> decide
    have opening : Single "\\vec\x7bv\x7d_\x7b".toList := by decide
    simp only [BasisVector.definitionLine, Axis.vector, String.toList_append]
    refine Single.append (Single.append (Single.append (Single.append (Single.append
      (Single.append opening number.1 number.2) ?_ ?_) definition.1 definition.2) ?_ ?_)
      constraint.1 constraint.2) ?_ ?_
    all_goals decide

theorem formula_vectorText : Formula standard.vectorText.toList := by
  rw [vectorText, String.toList_intercalate]
  apply intercalate_induction (P := Formula)
  · simp [definitionLines, standard, new, standardBasis, Axis.all]
  · intro text member
    simp only [definitionLines, standard, new, standardBasis, List.mem_map, List.mem_mapIdx]
      at member
    obtain ⟨_, ⟨index, bound, rfl⟩, rfl⟩ := member
    rw [List.getElem_map]
    exact formula_definitionLine _ _ _
  · intro left right leftFormula rightFormula
    have nonempty : right ≠ [] := by
      rintro rfl
      cases rightFormula.head
    refine ⟨?_, ?_, ?_⟩
    · rw [List.append_assoc, List.head?_append, leftFormula.head, Option.some_or]
    · rw [List.getLast?_append_of_ne_nil _ nonempty]
      exact rightFormula.last
    · refine (leftFormula.single.append (by decide) (by decide)).append rightFormula.single ?_
      simp [rightFormula.head]

/-! ### Rendering in one pass -/

/-- Whatever a well-formed kernel puts in is shielded from all tokens. -/
theorem WellFormed.shielded {kernel : Kernel} (wellFormed : kernel.WellFormed) {token : String}
    (isToken : token ∈ tokens) :
    ∀ rule ∈ kernel.rules, Text.Shielded token.toList rule.inserted := by
  intro rule member
  simp only [rules, List.mem_cons, List.not_mem_nil, or_false] at member
  rcases member with rfl | rfl | rfl
  · obtain ⟨nonempty, chars⟩ := wellFormed.weightText_chars
    refine .of_forall (token_ne_nil isToken) nonempty fun c inWeights inToken => ?_
    have tokenChars := List.any_eq_false.mp (no_weightChar_of_mem_tokens token isToken)
    exact tokenChars c inToken (List.all_eq_true.mp chars c inWeights)
  · show Text.Shielded token.toList kernel.vectorText.toList
    rw [wellFormed.vectorText_eq]
    exact formula_vectorText.shielded isToken
  · exact (formula_solverLogic kernel.mode).shielded isToken

theorem toList_fill (kernel : Kernel) (template : String) :
    (kernel.fill template).toList =
      Text.replaceAllChars solverToken.toList kernel.mode.solverLogic.toList
        (Text.replaceAllChars vectorsToken.toList kernel.vectorText.toList
          (Text.replaceAllChars weightsToken.toList kernel.weightText.toList template.toList)) := by
  simp [fill, Text.replaceAll]

/-- The three replacements amount to one pass over the template. -/
theorem WellFormed.toList_fill_eq_singlePass {kernel : Kernel} (wellFormed : kernel.WellFormed)
    {template : String} (apart : TokensApart template) :
    (kernel.fill template).toList = Text.singlePass kernel.rules template.toList := by
  have isWeights : weightsToken ∈ tokens := by decide
  have isVectors : vectorsToken ∈ tokens := by decide
  have isSolver : solverToken ∈ tokens := by decide
  have vectorsShielded := wellFormed.shielded isVectors
  have solverShielded := wellFormed.shielded isSolver
  simp only [rules, List.forall_mem_cons] at vectorsShielded solverShielded
  have vectorsPass :
      Text.replaceAllChars vectorsToken.toList kernel.vectorText.toList
          (Text.singlePass [⟨weightsToken.toList, kernel.weightText.toList⟩] template.toList) =
        Text.singlePass ([⟨weightsToken.toList, kernel.weightText.toList⟩] ++
          [⟨vectorsToken.toList, kernel.vectorText.toList⟩]) template.toList := by
    apply Text.replaceAllChars_singlePass (token_ne_nil isVectors)
    · exact List.forall_mem_singleton.mpr (token_ne_nil isWeights)
    · exact List.forall_mem_singleton.mpr vectorsShielded.1
    · exact List.forall_mem_singleton.mpr (apart _ isVectors _ isWeights (by decide))
  rw [toList_fill, Text.replaceAllChars_eq_singlePass kernel.weightText.toList, vectorsPass]
  apply Text.replaceAllChars_singlePass (token_ne_nil isSolver)
  · exact List.forall_mem_cons.mpr ⟨token_ne_nil isWeights,
      List.forall_mem_singleton.mpr (token_ne_nil isVectors)⟩
  · exact List.forall_mem_cons.mpr ⟨solverShielded.1,
      List.forall_mem_singleton.mpr solverShielded.2.1⟩
  · exact List.forall_mem_cons.mpr ⟨apart _ isSolver _ isWeights (by decide),
      List.forall_mem_singleton.mpr (apart _ isSolver _ isVectors (by decide))⟩

/-- Compiling renders the template that the loader gives, or hands on its error. -/
theorem compile_value (kernel : Kernel) (files : FileTree) :
    (kernel.compile files).value = (kernel.loadTemplate files).value.map kernel.render := by
  rw [compile, Traced.bind]
  cases (kernel.loadTemplate files).value <;> rfl

/-- When no two different tokens of a template overlap, a compiled kernel is the trimmed result of
one pass over the template: what has been put in for a token is never changed again. -/
theorem compile_eq_singlePass {kernel : Kernel} (reachable : kernel.Reachable) {files : FileTree}
    {template : String} (loaded : (kernel.loadTemplate files).value = .ok template)
    (apart : TokensApart template) :
    (kernel.compile files).value =
      .ok (Text.trim (String.ofList (Text.singlePass kernel.rules template.toList))) := by
  rw [compile_value, loaded, ← reachable.wellFormed.toList_fill_eq_singlePass apart,
    String.ofList_toList]
  rfl

/-- A token that overlaps itself is replaced at its first occurrence, and what it leaves behind is
copied. -/
theorem compile_selfOverlapping :
    let template := "__WEIGHTS__WEIGHTS__ [__VECTORS__] __SOLVER"
    let kernel := (new .counter (.nan .quiet)).replay
      [.weight "NonDual" .negativeInfinity, .loader ⟨.inline template, none⟩]
    TokensApart template ∧
      (kernel.compile .empty).value =
        .ok (Text.trim (String.ofList (Text.singlePass kernel.rules template.toList))) := by
  intro template kernel
  have apart : TokensApart template := by decide +kernel
  have reachable : kernel.Reachable := ⟨.new .counter (.nan .quiet), _, _, rfl, rfl⟩
  exact ⟨apart, compile_eq_singlePass reachable rfl apart⟩

/-! ### No token is left -/

theorem WellFormed.not_infix_fill {kernel : Kernel} (wellFormed : kernel.WellFormed)
    (template : String) {token : String} (isToken : token ∈ tokens) :
    ¬ token.toList <:+: (kernel.fill template).toList := by
  have nonempty := token_ne_nil isToken
  have shielded := wellFormed.shielded isToken
  simp only [rules, List.forall_mem_cons] at shielded
  obtain ⟨fromWeights, fromVectors, fromSolver, -⟩ := shielded
  rw [toList_fill]
  simp only [tokens, List.mem_cons, List.not_mem_nil, or_false] at isToken
  rcases isToken with rfl | rfl | rfl
  · apply Text.not_infix_replaceAllChars nonempty fromSolver
    apply Or.inr
    apply Text.not_infix_replaceAllChars nonempty fromVectors
    apply Or.inr
    exact Text.not_infix_replaceAllChars nonempty fromWeights (Or.inl rfl)
  · apply Text.not_infix_replaceAllChars nonempty fromSolver
    apply Or.inr
    exact Text.not_infix_replaceAllChars nonempty fromVectors (Or.inl rfl)
  · exact Text.not_infix_replaceAllChars nonempty fromSolver (Or.inl rfl)

/-- Whatever the template, a compiled kernel contains no token and has no blank at either end. -/
theorem compile_leaves_no_token {kernel : Kernel} (reachable : kernel.Reachable)
    {files : FileTree} {output : String} (compiled : (kernel.compile files).value = .ok output) :
    (∀ token ∈ tokens, Text.occursIn token output = false) ∧
      (∀ c ∈ output.toList.head?, Text.isBlank c = false) ∧
      ∀ c ∈ output.toList.getLast?, Text.isBlank c = false := by
  rw [compile_value] at compiled
  cases loaded : (kernel.loadTemplate files).value with
  | error error => simp [loaded, Except.map] at compiled
  | ok template =>
      simp only [loaded, Except.map, Except.ok.injEq] at compiled
      have outputEq : output.toList = Text.trimChars (kernel.fill template).toList := by
        rw [← compiled, render, Text.trim, String.toList_ofList]
      refine ⟨fun token isToken => ?_, fun c isHead => ?_, fun c isLast => ?_⟩
      · rw [Text.occursIn, outputEq, Bool.eq_false_iff, ne_eq, Text.occursInChars_iff_infix]
        intro occurs
        exact reachable.wellFormed.not_infix_fill template isToken
          (occurs.trans (Text.trimChars_infix _))
      · rw [outputEq] at isHead
        exact Text.isBlank_of_head?_trimChars isHead
      · rw [outputEq] at isLast
        exact Text.isBlank_of_getLast?_trimChars isLast

/-- Tokens that are split around each other or overlap leave nothing behind that is a token. -/
theorem compile_nestedTokens :
    let template := " __VEC__WEIGHTS__TORS__ __VECTORS__WEIGHTS__ __SOLVER__VECTORS___LOGIC__\n"
    let kernel := (new .dominance .infinity).replay
      [.weight "Ghost" (.nan .quiet), .loader ⟨.inline template, none⟩]
    ∃ output, (kernel.compile .empty).value = .ok output ∧
      ∀ token ∈ tokens, Text.occursIn token output = false := by
  intro template kernel
  have reachable : kernel.Reachable := ⟨.new .dominance .infinity, _, _, rfl, rfl⟩
  have compiled : (kernel.compile .empty).value = .ok (kernel.render template) := rfl
  exact ⟨_, compiled, (compile_leaves_no_token reachable compiled).1⟩

end Kernel

end CognitiveKernel
