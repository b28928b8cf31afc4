/-
Module: CognitiveKernel.Proofs.Text.SinglePass
Purpose: Replacing several patterns in one pass over a text, and when replacing them one after the
  other comes to the same.
Main exports: Rule, singlePass, Shielded, Apart, replaceAllChars_singlePass,
  not_infix_replaceAllChars
-/
import CognitiveKernel.Text.Substitution
import Mathlib.Data.List.Infix

namespace CognitiveKernel.Text

/-!
A later replacement goes over texts that an earlier one has put in. It leaves them alone when they
are *shielded* from its pattern: the pattern does not occur inside, and the first and the last
character of the text that was put in do not belong to the pattern, so no occurrence reaches across
an end either.
-/

/-! ### One pass -/

/-- A pattern and the text that is put in its place. -/
structure Rule where
  pattern : List Char
  inserted : List Char

/-- The first rule whose pattern stands at the start of a text. -/
def firstRule? (rules : List Rule) (text : List Char) : Option Rule :=
  rules.find? fun rule => rule.pattern.isPrefixOf text

/-- Replaces the occurrences of several non-empty patterns, found together in one pass from left to
right and without overlap. All other characters are copied. -/
def singlePass (rules : List Rule) : List Char → List Char
  | [] => []
  | c :: rest =>
      match firstRule? rules (c :: rest) with
      | some rule => rule.inserted ++ singlePass rules (rest.drop (rule.pattern.length - 1))
      | none => c :: singlePass rules rest
termination_by text => text.length
decreasing_by
  all_goals simp only [List.length_drop, List.length_cons]; omega

/-- An applicable rule comes from the list and its pattern stands at the start of the text. -/
theorem prefix_of_firstRule? {rules : List Rule} {text : List Char} {rule : Rule}
    (h : firstRule? rules text = some rule) : rule ∈ rules ∧ rule.pattern <+: text := by
  have found := List.find?_some h
  exact ⟨List.mem_of_find?_eq_some h, List.isPrefixOf_iff_prefix.mp found⟩

/-- No rule applies where none of the patterns stands. -/
theorem firstRule?_eq_none {rules : List Rule} {text : List Char}
    (h : ∀ rule ∈ rules, ¬ rule.pattern <+: text) : firstRule? rules text = none := by
  apply List.find?_eq_none.mpr
  intro rule member
  simpa [List.isPrefixOf_iff_prefix] using h rule member

/-- A further rule counts where no other applies. -/
theorem firstRule?_append (rules : List Rule) (rule : Rule) (text : List Char) :
    firstRule? (rules ++ [rule]) text = (firstRule? rules text).or (firstRule? [rule] text) :=
  List.find?_append

theorem singlePass_nil (rules : List Rule) : singlePass rules [] = [] := by
  rw [singlePass]

/-- Where a rule applies, its text takes the place of the whole pattern. -/
theorem singlePass_of_some {rules : List Rule} {text : List Char} {rule : Rule}
    (nonempty : rule.pattern ≠ []) (h : firstRule? rules text = some rule) :
    singlePass rules text =
      rule.inserted ++ singlePass rules (text.drop rule.pattern.length) := by
  obtain ⟨length, lengthEq⟩ := Nat.exists_eq_add_one.mpr (List.length_pos_iff.mpr nonempty)
  cases text with
  | nil =>
      have standing := (prefix_of_firstRule? h).2
      exact absurd (List.prefix_nil.mp standing) nonempty
  | cons c rest =>
      simp only [singlePass, h, lengthEq, Nat.add_sub_cancel, List.drop_succ_cons]

/-- Where no rule applies, a character is copied. -/
theorem singlePass_of_none {rules : List Rule} {c : Char} {rest : List Char}
    (h : firstRule? rules (c :: rest) = none) :
    singlePass rules (c :: rest) = c :: singlePass rules rest := by
  rw [singlePass, h]

/-- A stretch in which no rule applies is copied. -/
theorem singlePass_append {rules : List Rule} (copied rest : List Char)
    (h : ∀ k < copied.length, firstRule? rules ((copied ++ rest).drop k) = none) :
    singlePass rules (copied ++ rest) = copied ++ singlePass rules rest := by
  induction copied with
  | nil => rfl
  | cons c copied ih =>
      have here : firstRule? rules (c :: (copied ++ rest)) = none := h 0 (by simp)
      have later := ih fun k below => h (k + 1) (by simpa using below)
      rw [List.cons_append, singlePass_of_none here, later, List.cons_append]

/-- Replacing one pattern is a pass with one rule. -/
theorem replaceAllChars_eq_singlePass {pattern : List Char} (inserted text : List Char) :
    replaceAllChars pattern inserted text = singlePass [⟨pattern, inserted⟩] text := by
  induction text using replaceAllChars.induct pattern with
  | case1 => rw [replaceAllChars, singlePass]
  | case2 c rest standing ih =>
      rw [replaceAllChars, singlePass, if_pos standing, ih]
      simp [firstRule?, standing]
  | case3 c rest missing ih =>
      rw [replaceAllChars, singlePass, if_neg missing, ih]
      simp [firstRule?, missing]

/-- Where the pattern stands, it is replaced. -/
theorem replaceAllChars_pattern_append {pattern : List Char} (nonempty : pattern ≠ [])
    (inserted rest : List Char) :
    replaceAllChars pattern inserted (pattern ++ rest) =
      inserted ++ replaceAllChars pattern inserted rest := by
  have applicable :
      firstRule? [⟨pattern, inserted⟩] (pattern ++ rest) = some ⟨pattern, inserted⟩ := by
    simp [firstRule?]
  simp only [replaceAllChars_eq_singlePass]
  rw [singlePass_of_some nonempty applicable, List.drop_left]

/-- Where the pattern does not stand, a character is copied. -/
theorem replaceAllChars_cons_of_missing {pattern : List Char} {c : Char} {rest : List Char}
    (missing : ¬ pattern <+: c :: rest) (inserted : List Char) :
    replaceAllChars pattern inserted (c :: rest) =
      c :: replaceAllChars pattern inserted rest := by
  rw [replaceAllChars, if_neg (mt List.isPrefixOf_iff_prefix.mp missing)]

/-! ### Shielded texts -/

/-- No occurrence of the pattern meets the inserted text, whatever stands around it. -/
structure Shielded (pattern inserted : List Char) : Prop where
  head : ∃ c ∈ inserted.head?, c ∉ pattern
  last : ∃ c ∈ inserted.getLast?, c ∉ pattern
  inside : ¬ pattern <:+: inserted

/-- A text without characters of the pattern is shielded. -/
theorem Shielded.of_forall {pattern inserted : List Char} (patternNe : pattern ≠ [])
    (insertedNe : inserted ≠ []) (h : ∀ c ∈ inserted, c ∉ pattern) :
    Shielded pattern inserted where
  head := ⟨inserted.head insertedNe, by simp [List.head?_eq_some_head insertedNe],
    h _ (List.head_mem insertedNe)⟩
  last := ⟨inserted.getLast insertedNe, by simp [List.getLast?_eq_some_getLast insertedNe],
    h _ (List.getLast_mem insertedNe)⟩
  inside := by
    intro occurs
    obtain ⟨c, member⟩ := List.exists_mem_of_ne_nil pattern patternNe
    exact h c (occurs.subset member) member

/-- The pattern does not begin inside a shielded text. -/
theorem Shielded.not_prefix {pattern inserted : List Char} (shielded : Shielded pattern inserted)
    {ending : List Char} (isEnd : ending <:+ inserted) (nonempty : ending ≠ [])
    (rest : List Char) : ¬ pattern <+: ending ++ rest := by
  intro standing
  rcases List.prefix_or_prefix_of_prefix standing (List.prefix_append ending rest) with
    within | beyond
  · exact shielded.inside (within.isInfix.trans isEnd.isInfix)
  · obtain ⟨c, isLast, foreign⟩ := shielded.last
    have sameLast : ending.getLast? = inserted.getLast? := by
      obtain ⟨start, rfl⟩ := isEnd
      rw [List.getLast?_append_of_ne_nil _ nonempty]
    have member : c ∈ ending := List.mem_of_getLast? (sameLast.trans isLast)
    exact foreign (beyond.subset member)

/-- Replacing a pattern passes over a text that is shielded from it. -/
theorem replaceAllChars_append_of_shielded {pattern inserted : List Char}
    (shielded : Shielded pattern inserted) (replacement rest : List Char) :
    replaceAllChars pattern replacement (inserted ++ rest) =
      inserted ++ replaceAllChars pattern replacement rest := by
  suffices ∀ ending, ending <:+ inserted →
      replaceAllChars pattern replacement (ending ++ rest) =
        ending ++ replaceAllChars pattern replacement rest from
    this inserted (List.suffix_refl inserted)
  intro ending
  induction ending with
  | nil => intro _; rfl
  | cons c ending ih =>
      intro isEnd
      have missing : ¬ pattern <+: c :: (ending ++ rest) :=
        shielded.not_prefix isEnd (List.cons_ne_nil c ending) rest
      have later := ih ((List.suffix_cons c ending).trans isEnd)
      rw [List.cons_append, replaceAllChars_cons_of_missing missing, later, List.cons_append]

/-- A text that is shielded from a pattern adds no occurrence of it. -/
theorem Shielded.infix_of_infix_append {pattern inserted rest : List Char}
    (shielded : Shielded pattern inserted) (h : pattern <:+: inserted ++ rest) :
    pattern <:+: rest := by
  suffices ∀ ending, ending <:+ inserted → pattern <:+: ending ++ rest → pattern <:+: rest from
    this inserted (List.suffix_refl inserted) h
  intro ending
  induction ending with
  | nil => intro _ occurs; exact occurs
  | cons c ending ih =>
      intro isEnd occurs
      rcases List.infix_cons_iff.mp occurs with standing | later
      · exact absurd standing (shielded.not_prefix isEnd (List.cons_ne_nil c ending) rest)
      · exact ih ((List.suffix_cons c ending).trans isEnd) later

/-- A pattern that stands at the start of the result stood at the start of the text: it cannot
reach a text that was put in, whose first character does not belong to it. -/
theorem prefix_of_prefix_singlePass {rules : List Rule} {pattern text : List Char}
    (heads : ∀ rule ∈ rules, ∃ c ∈ rule.inserted.head?, c ∉ pattern)
    (standing : pattern <+: singlePass rules text) : pattern <+: text := by
  induction text generalizing pattern with
  | nil =>
      rwa [singlePass_nil] at standing
  | cons c rest ih =>
      cases pattern with
      | nil => exact List.nil_prefix
      | cons d pattern =>
          cases applicable : firstRule? rules (c :: rest) with
          | some rule =>
              simp only [singlePass, applicable] at standing
              obtain ⟨first, isFirst, foreign⟩ := heads rule (prefix_of_firstRule? applicable).1
              obtain ⟨tail, insertedEq⟩ := List.head?_eq_some_iff.mp isFirst
              rw [insertedEq, List.cons_append, List.cons_prefix_cons] at standing
              exact absurd (standing.1 ▸ List.mem_cons_self) foreign
          | none =>
              rw [singlePass_of_none applicable, List.cons_prefix_cons] at standing
              obtain ⟨sameHead, standingTail⟩ := standing
              have tailHeads : ∀ rule ∈ rules, ∃ c ∈ rule.inserted.head?, c ∉ pattern := by
                intro rule member
                obtain ⟨first, isFirst, foreign⟩ := heads rule member
                exact ⟨first, isFirst, fun inside => foreign (List.mem_cons_of_mem d inside)⟩
              exact List.cons_prefix_cons.mpr ⟨sameHead, ih tailHeads standingTail⟩

/-- A pattern that is shielded from all texts that are put in does not occur in the result when
every place where it stands is taken by some rule. -/
theorem not_infix_singlePass {rules : List Rule} {pattern text : List Char}
    (nonempty : pattern ≠ []) (shielded : ∀ rule ∈ rules, Shielded pattern rule.inserted)
    (taken : ∀ rest, rest <:+ text → pattern <+: rest → firstRule? rules rest ≠ none) :
    ¬ pattern <:+: singlePass rules text := by
  induction text using singlePass.induct rules with
  | case1 =>
      rw [singlePass_nil]
      exact fun occurs => nonempty (List.infix_nil.mp occurs)
  | case2 c rest rule applicable ih =>
      intro occurs
      simp only [singlePass, applicable] at occurs
      have later := (shielded rule (prefix_of_firstRule? applicable).1).infix_of_infix_append occurs
      refine ih (fun ending isEnd => taken ending ?_) later
      exact isEnd.trans ((List.drop_suffix _ rest).trans (List.suffix_cons c rest))
  | case3 c rest missing ih =>
      intro occurs
      rw [singlePass_of_none missing] at occurs
      rcases List.infix_cons_iff.mp occurs with standing | later
      · rw [← singlePass_of_none missing] at standing
        have stood := prefix_of_prefix_singlePass (fun rule member => (shielded rule member).head)
          standing
        exact taken (c :: rest) (List.suffix_refl _) stood missing
      · exact ih (fun ending isEnd => taken ending (isEnd.trans (List.suffix_cons c rest))) later

/-- Replacing a pattern leaves no occurrence of it, and brings none of another pattern, when the
text that is put in is shielded. -/
theorem not_infix_replaceAllChars {pattern inserted other text : List Char}
    (nonempty : other ≠ []) (shielded : Shielded other inserted)
    (h : other = pattern ∨ ¬ other <:+: text) :
    ¬ other <:+: replaceAllChars pattern inserted text := by
  rw [replaceAllChars_eq_singlePass]
  refine not_infix_singlePass nonempty (by simpa using shielded) ?_
  intro rest isEnd standing
  rcases h with rfl | absent
  · simp [firstRule?, standing]
  · exact absurd (standing.isInfix.trans isEnd.isInfix) absent

/-! ### Passes one after the other -/

/-- No occurrence of one pattern overlaps an occurrence of the other. -/
def Apart (left right text : List Char) : Prop :=
  ∀ i < text.length, ∀ j < text.length, left <+: text.drop i → right <+: text.drop j →
    i + left.length ≤ j ∨ j + right.length ≤ i

instance (left right text : List Char) : Decidable (Apart left right text) :=
  inferInstanceAs (Decidable (∀ i < text.length, ∀ j < text.length, _))

/-- What is apart in a text is apart behind its first characters. -/
theorem Apart.drop {left right text : List Char} (apart : Apart left right text) (count : Nat) :
    Apart left right (text.drop count) := by
  intro i iBound j jBound leftStands rightStands
  rw [List.length_drop] at iBound jBound
  rw [List.drop_drop] at leftStands rightStands
  have places := apart (count + i) (by omega) (count + j) (by omega) leftStands rightStands
  omega

/-- Inside an occurrence of a pattern no rule applies when all rules are apart from it. -/
theorem firstRule?_eq_none_of_apart {rules : List Rule} {pattern after text : List Char}
    (textEq : pattern ++ after = text) (patternsNe : ∀ rule ∈ rules, rule.pattern ≠ [])
    (apart : ∀ rule ∈ rules, Apart pattern rule.pattern text) :
    ∀ k < pattern.length, firstRule? rules ((pattern ++ after).drop k) = none := by
  intro k inside
  apply firstRule?_eq_none
  intro rule member standing
  have textLength : pattern.length ≤ text.length := by
    rw [← textEq, List.length_append]
    omega
  have patternStands : pattern <+: text.drop 0 := ⟨after, textEq⟩
  rw [textEq] at standing
  have places := apart rule member 0 (by omega) k (by omega) patternStands standing
  have rulePositive := List.length_pos_iff.mpr (patternsNe rule member)
  omega

/-- Replacing a further pattern in the result of a pass is the same as replacing it in the pass,
when its occurrences are apart from those of the other patterns and it is shielded from their
texts. -/
theorem replaceAllChars_singlePass {rules : List Rule} {pattern inserted : List Char}
    (nonempty : pattern ≠ []) (patternsNe : ∀ rule ∈ rules, rule.pattern ≠ [])
    (shielded : ∀ rule ∈ rules, Shielded pattern rule.inserted) (text : List Char)
    (apart : ∀ rule ∈ rules, Apart pattern rule.pattern text) :
    replaceAllChars pattern inserted (singlePass rules text) =
      singlePass (rules ++ [⟨pattern, inserted⟩]) text := by
  induction length : text.length using Nat.strong_induction_on generalizing text with
  | h n ih =>
      have shorter : ∀ count, 0 < count → 0 < text.length →
          replaceAllChars pattern inserted (singlePass rules (text.drop count)) =
            singlePass (rules ++ [⟨pattern, inserted⟩]) (text.drop count) := by
        intro count positive textPositive
        refine ih (text.drop count).length ?_ _ (fun rule member => (apart rule member).drop count)
          rfl
        rw [List.length_drop]
        omega
      cases text with
      | nil => simp [singlePass_nil, replaceAllChars]
      | cons c rest =>
          cases applicable : firstRule? rules (c :: rest) with
          | some rule =>
              -- An earlier rule applies; its text is passed over.
              have member := (prefix_of_firstRule? applicable).1
              have stillFirst :
                  firstRule? (rules ++ [⟨pattern, inserted⟩]) (c :: rest) = some rule := by
                rw [firstRule?_append, applicable, Option.some_or]
              rw [singlePass_of_some (patternsNe rule member) applicable,
                singlePass_of_some (patternsNe rule member) stillFirst,
                replaceAllChars_append_of_shielded (shielded rule member),
                shorter _ (List.length_pos_iff.mpr (patternsNe rule member)) (by simp)]
          | none =>
              by_cases standing : pattern <+: c :: rest
              · -- The pattern stands here, and the pass has copied all of it.
                obtain ⟨after, textEq⟩ := standing
                have unruled := firstRule?_eq_none_of_apart textEq patternsNe apart
                have nowFirst : firstRule? (rules ++ [⟨pattern, inserted⟩]) (pattern ++ after) =
                    some ⟨pattern, inserted⟩ := by
                  rw [firstRule?_append, textEq, applicable, ← textEq]
                  simp [firstRule?]
                have later := shorter pattern.length (List.length_pos_iff.mpr nonempty) (by simp)
                rw [← textEq, List.drop_left] at later
                rw [← textEq, singlePass_append pattern after unruled,
                  replaceAllChars_pattern_append nonempty, later,
                  singlePass_of_some nonempty nowFirst, List.drop_left]
              · have stillMissing : ¬ pattern <+: c :: singlePass rules rest := by
                  rw [← singlePass_of_none applicable]
                  exact mt (prefix_of_prefix_singlePass fun rule member =>
                    (shielded rule member).head) standing
                have noneFirst :
                    firstRule? (rules ++ [⟨pattern, inserted⟩]) (c :: rest) = none := by
                  rw [firstRule?_append, applicable, Option.none_or]
                  exact firstRule?_eq_none (by simpa using standing)
                have later := shorter 1 Nat.one_pos (by simp)
                rw [singlePass_of_none applicable, replaceAllChars_cons_of_missing stillMissing,
                  singlePass_of_none noneFirst]
                exact congrArg (c :: ·) later

end CognitiveKernel.Text
