/-
Module: CognitiveKernel.Proofs.Yaml.Token.Scanner
Purpose: How a scan gets from one token to the next, and how parts of a scan are put together.
Main exports: Scanner.inBlock, Scanner.Passes, Scanner.ReachesLine
-/
import CognitiveKernel.Proofs.Yaml.Cursor
import CognitiveKernel.Yaml.Token.Stream

namespace CognitiveKernel.Yaml.Scanner

variable {mark : Mark} {rest : List Char} {levels : List Nat} {keyAllowed : Bool}
  {tokens : List Token}

/-- A scan outside of flow collections, where nothing has turned up that may be a key. -/
def inBlock (cursor : Cursor) (levels : List Nat) (keyAllowed : Bool) (tokens : List Token) :
    Scanner :=
  { cursor := cursor
    levels := levels
    candidate := none
    outer := []
    keyAllowed := keyAllowed
    tokens := tokens }

/-! ### Between tokens -/

theorem skipToToken_cons (flow : Bool) {c : Char} (notReturn : c ≠ '\r') :
    skipToToken flow keyAllowed false mark (c :: rest) =
      if isBreak c then skipToToken flow (keyAllowed || !flow) false (mark.newLine [c]) rest
      else if c = ' ' || (c = '\t' && (flow || !keyAllowed)) ||
          (c = byteOrderMark && mark.column = 0) then
        skipToToken flow keyAllowed false (mark.next c) rest
      else if c = '#' then skipToToken flow keyAllowed true (mark.next c) rest
      else (keyAllowed, ⟨mark, c :: rest⟩) := by
  rw [skipToToken]
  · simp
  · intro _ isReturn _
    exact notReturn isReturn

theorem skipToToken_solid (flow : Bool) (solid : Solid rest) :
    skipToToken flow keyAllowed false mark rest = (keyAllowed, ⟨mark, rest⟩) := by
  cases rest with
  | nil => rfl
  | cons c rest =>
      obtain ⟨notBlank, notBreak, notSign, notMark⟩ := solid c rfl
      have notReturn : c ≠ '\r' := by
        rintro rfl
        cases notBreak
      simp only [isBlank, Bool.or_eq_false_iff, decide_eq_false_iff_not] at notBlank
      rw [skipToToken_cons flow notReturn]
      simp [notBreak, notBlank.1, notBlank.2, notSign, notMark]

theorem skipToToken_spaces (count : Nat) :
    skipToToken false keyAllowed false mark (spaces count ++ rest) =
      skipToToken false keyAllowed false (mark.past (spaces count)) rest := by
  induction count generalizing mark with
  | zero => rfl
  | succ count ih =>
      rw [spaces_succ, List.cons_append, Mark.past_cons_of_not_break (by decide), ← ih,
        skipToToken_cons false (by decide)]
      simp [isBreak]

theorem skipToToken_newLine :
    skipToToken false keyAllowed false mark ('\n' :: rest) =
      skipToToken false true false (mark.newLine ['\n']) rest := by
  rw [skipToToken_cons false (by decide)]
  simp [isBreak]

/-- The next token is found where blanks and line breaks end, if what may have been a key before
them can be forgotten. -/
theorem toNextToken_of_skip {cursor behind : Cursor} {candidate kept : Option Candidate}
    {allowed : Bool}
    (skip : skipToToken false keyAllowed false cursor.mark cursor.rest = (allowed, behind))
    (expire : expireCandidate behind.mark candidate = some kept) :
    toNextToken ⟨cursor, levels, candidate, [], keyAllowed, tokens⟩ =
      some (closeDeeper ⟨behind, levels, kept, [], allowed, tokens⟩) := by
  simp [toNextToken, inFlow, skip, expireCandidates, expire]

theorem toNextToken_inBlock {cursor behind : Cursor} {allowed : Bool}
    (skip : skipToToken false keyAllowed false cursor.mark cursor.rest = (allowed, behind)) :
    (inBlock cursor levels keyAllowed tokens).toNextToken =
      some (closeDeeper (inBlock behind levels allowed tokens)) :=
  toNextToken_of_skip skip rfl

/-- Nothing is closed at a column that is not left of the innermost collection. -/
theorem closeDeeper_of_le {cursor : Cursor} {candidate : Option Candidate}
    (deep : ∀ level ∈ levels.head?, level ≤ cursor.mark.column) :
    closeDeeper ⟨cursor, levels, candidate, [], keyAllowed, tokens⟩ =
      ⟨cursor, levels, candidate, [], keyAllowed, tokens⟩ := by
  cases levels with
  | nil => rfl
  | cons level levels =>
      have notLeft : ¬cursor.mark.column < level := Nat.not_lt.mpr (deep level rfl)
      simp [closeDeeper, inFlow, closeLevels, column, notLeft]

/-- A collection is closed left of its column. -/
theorem closeDeeper_of_lt {cursor : Cursor} {level : Nat} (left : cursor.mark.column < level) :
    closeDeeper (inBlock cursor (level :: levels) keyAllowed tokens) =
      closeDeeper (inBlock cursor levels keyAllowed (.blockEnd :: tokens)) := by
  simp [closeDeeper, inBlock, inFlow, closeLevels, column, left]

/-- A token that is there already is the next one. -/
theorem toNextToken_solid (solid : Solid rest)
    (deep : ∀ level ∈ levels.head?, level ≤ mark.column) :
    (inBlock ⟨mark, rest⟩ levels keyAllowed tokens).toNextToken =
      some (inBlock ⟨mark, rest⟩ levels keyAllowed tokens) := by
  rw [toNextToken_inBlock (skipToToken_solid false solid), inBlock, closeDeeper_of_le deep]

theorem toNextToken_spaces (count : Nat) :
    (inBlock ⟨mark, spaces count ++ rest⟩ levels keyAllowed tokens).toNextToken =
      (inBlock ⟨mark.past (spaces count), rest⟩ levels keyAllowed tokens).toNextToken := by
  have same := @skipToToken_spaces mark rest keyAllowed count
  cases skip : skipToToken false keyAllowed false (mark.past (spaces count)) rest with
  | mk allowed behind => rw [toNextToken_inBlock (same.trans skip), toNextToken_inBlock skip]

theorem toNextToken_newLine :
    (inBlock ⟨mark, '\n' :: rest⟩ levels keyAllowed tokens).toNextToken =
      (inBlock ⟨mark.newLine ['\n'], rest⟩ levels true tokens).toNextToken := by
  have same := @skipToToken_newLine mark rest keyAllowed
  cases skip : skipToToken false true false (mark.newLine ['\n']) rest with
  | mk allowed behind => rw [toNextToken_inBlock (same.trans skip), toNextToken_inBlock skip]

/-! ### Runs -/

/-- What a scan gives depends on its next token alone. -/
theorem run_eq_of_toNextToken {before after : Scanner}
    (same : before.toNextToken = after.toNextToken) (fuel : Nat) :
    run fuel before = run fuel after := by
  cases fuel with
  | zero => rfl
  | succ fuel => rw [run, run, same]

/-- The step over the token that a scan is at already. -/
def stepNext (scanner : Scanner) : Option Scanner :=
  match scanner.cursor.rest with
  | [] => none
  | c :: rest => scanner.step c rest

/-- One scan leads to another, in no more steps than it passes characters. -/
def Passes (before after : Scanner) : Prop :=
  ∃ steps, steps + after.cursor.rest.length ≤ before.cursor.rest.length ∧
    ∀ fuel, run (steps + fuel) before = run fuel after

namespace Passes

variable {before middle after : Scanner}

theorem trans (first : Passes before middle) (second : Passes middle after) :
    Passes before after := by
  obtain ⟨steps, enough, first⟩ := first
  obtain ⟨more, enoughMore, second⟩ := second
  refine ⟨steps + more, by omega, ?_⟩
  intro fuel
  rw [Nat.add_assoc, first, second]

/-- What lies between tokens is passed without a step. -/
theorem of_toNextToken (same : before.toNextToken = after.toNextToken)
    (shorter : after.cursor.rest.length ≤ before.cursor.rest.length) : Passes before after := by
  refine ⟨0, by omega, ?_⟩
  intro fuel
  rw [Nat.zero_add]
  exact run_eq_of_toNextToken same fuel

/-- A token is passed in one step, together with what lies behind it. -/
theorem of_step {stepped : Scanner} (next : before.toNextToken = some before)
    (step : before.stepNext = some stepped) (same : stepped.toNextToken = after.toNextToken)
    (shorter : after.cursor.rest.length < before.cursor.rest.length) : Passes before after := by
  refine ⟨1, by omega, ?_⟩
  intro fuel
  rw [Nat.add_comm, run, next]
  unfold stepNext at step
  split at step
  · cases step
  · rename_i c rest first
    simp only [first, step, Option.bind_some]
    exact run_eq_of_toNextToken same fuel

/-- A scan that leads to the end of the text gives its tokens. -/
theorem run_eq_finish (passes : Passes before after) (ended : after.cursor.rest = [])
    (next : after.toNextToken = some after) :
    run (before.cursor.rest.length + 1) before = after.finish := by
  obtain ⟨steps, enough, runs⟩ := passes
  rw [ended, List.length_nil] at enough
  have split : before.cursor.rest.length + 1 =
      steps + (before.cursor.rest.length - steps + 1) := by omega
  rw [split, runs, run, next]
  simp only [ended]

end Passes

/-- The indentation of a line is passed over. -/
theorem Passes.spaces (count : Nat) :
    Passes (inBlock ⟨mark, Yaml.spaces count ++ rest⟩ levels keyAllowed tokens)
      (inBlock ⟨mark.past (Yaml.spaces count), rest⟩ levels keyAllowed tokens) :=
  .of_toNextToken (toNextToken_spaces count) (by simp [inBlock])

theorem Passes.newLine :
    Passes (inBlock ⟨mark, '\n' :: rest⟩ levels keyAllowed tokens)
      (inBlock ⟨mark.newLine ['\n'], rest⟩ levels true tokens) :=
  .of_toNextToken toNextToken_newLine (by simp [inBlock])

/-! ### Lines -/

/-- A scan gets to the beginning of a line, with the given text before it. -/
def ReachesLine (before : Scanner) (rest : List Char) (levels : List Nat) (tokens : List Token) :
    Prop :=
  ∃ mark : Mark, mark.column = 0 ∧ Passes before (inBlock ⟨mark, rest⟩ levels true tokens)

namespace ReachesLine

variable {before middle : Scanner}

theorem of_passes (passes : Passes before middle)
    (reaches : ReachesLine middle rest levels tokens) : ReachesLine before rest levels tokens := by
  obtain ⟨mark, first, second⟩ := reaches
  exact ⟨mark, first, passes.trans second⟩

theorem trans {rest' : List Char} {levels' : List Nat} {tokens' : List Token}
    (reaches : ReachesLine before rest levels tokens)
    (next : ∀ mark : Mark, mark.column = 0 →
      ReachesLine (inBlock ⟨mark, rest⟩ levels true tokens) rest' levels' tokens') :
    ReachesLine before rest' levels' tokens' := by
  obtain ⟨mark, first, passes⟩ := reaches
  exact of_passes passes (next mark first)

/-- At a line that is indented less, a collection is closed. -/
theorem close {count level : Nat} (solid : Solid rest) (left : count < level)
    (reaches : ReachesLine before (spaces count ++ rest) (level :: levels) tokens) :
    ReachesLine before (spaces count ++ rest) levels (.blockEnd :: tokens) := by
  obtain ⟨mark, first, passes⟩ := reaches
  refine ⟨mark, first, passes.trans (.of_toNextToken ?_ (Nat.le_refl _))⟩
  have skip : skipToToken false true false mark (spaces count ++ rest) =
      (true, ⟨mark.past (spaces count), rest⟩) := by
    rw [skipToToken_spaces, skipToToken_solid false solid]
  rw [toNextToken_inBlock skip, toNextToken_inBlock skip, closeDeeper_of_lt]
  rw [Mark.column_past_spaces, first]
  omega

end ReachesLine

end CognitiveKernel.Yaml.Scanner
