/-
Module: CognitiveKernel.Proofs.Yaml.Tree
Purpose: A written tree is scanned as its tokens.
Main exports: Tree.Presentable, Tree.tokens, Tree.Scanned, Tree.scanned, scan?_print
-/
import CognitiveKernel.Proofs.Yaml.Token.Stream

namespace CognitiveKernel.Yaml

/-! ### Trees that can be written -/

mutual

/-- All scalars of a tree are written in ways that give them back. -/
def Tree.Presentable : Tree → Prop
  | .scalar content => content.Presentable
  | .sequence items => ItemsPresentable items
  | .mapping entries => EntriesPresentable entries

/-- All scalars of some items are written in ways that give them back. -/
def ItemsPresentable : List Tree → Prop
  | [] => True
  | item :: more => item.Presentable ∧ ItemsPresentable more

/-- All scalars of some entries are written in ways that give them back. -/
def EntriesPresentable : List (Scalar × Tree) → Prop
  | [] => True
  | (key, value) :: more => key.Presentable ∧ value.Presentable ∧ EntriesPresentable more

end

/-! ### Tokens -/

def Scalar.token (scalar : Scalar) : Token := .scalar scalar.text scalar.style

mutual

/-- The tokens of a tree. The beginning and the end of a sequence are tokens only where it is
indented. -/
def Tree.tokens (indented : Bool) : Tree → List Token
  | .scalar content => [content.token]
  | .sequence [] => [.flowSequenceStart, .flowSequenceEnd]
  | .sequence (item :: more) =>
      let items := tokensOfItems (item :: more)
      if indented then .blockSequenceStart :: (items ++ [.blockEnd]) else items
  | .mapping [] => [.flowMappingStart, .flowMappingEnd]
  | .mapping (entry :: more) =>
      .blockMappingStart :: (tokensOfEntries (entry :: more) ++ [.blockEnd])

/-- The tokens of the items of a sequence. -/
def tokensOfItems : List Tree → List Token
  | [] => []
  | item :: more => .blockEntry :: (item.tokens true ++ tokensOfItems more)

/-- The tokens of the entries of a mapping. -/
def tokensOfEntries : List (Scalar × Tree) → List Token
  | [] => []
  | (key, value) :: more =>
      .key :: key.token :: .value :: (value.tokens (!key.isBareKey) ++ tokensOfEntries more)

end

/-- The lines of a sequence, from its first item on. -/
def itemsText (indent : Nat) : List Tree → List Char
  | [] => []
  | item :: more => '-' :: ' ' :: (item.write (indent + 2) ++ writeItems indent more)

/-- The lines of a mapping, from its first entry on. -/
def entriesText (indent : Nat) : List (Scalar × Tree) → List Char
  | [] => []
  | (key, value) :: more =>
      key.writeKey indent value ++ value.write (key.valueIndent indent value) ++
        writeEntries indent more

theorem write_sequence (indent : Nat) (item : Tree) (more : List Tree) :
    (Tree.sequence (item :: more)).write indent = itemsText indent (item :: more) := rfl

theorem write_mapping (indent : Nat) (entry : Scalar × Tree) (more : List (Scalar × Tree)) :
    (Tree.mapping (entry :: more)).write indent = entriesText indent (entry :: more) := rfl

theorem writeItems_cons (indent : Nat) (item : Tree) (more : List Tree) :
    writeItems indent (item :: more) = spaces indent ++ itemsText indent (item :: more) := rfl

theorem writeEntries_cons (indent : Nat) (entry : Scalar × Tree) (more : List (Scalar × Tree)) :
    writeEntries indent (entry :: more) = spaces indent ++ entriesText indent (entry :: more) := by
  rw [writeEntries, entriesText, List.append_assoc, List.append_assoc, List.append_assoc]

theorem itemsText_append (indent : Nat) (item : Tree) (more : List Tree) (rest : List Char) :
    itemsText indent (item :: more) ++ rest =
      '-' :: ' ' :: (item.write (indent + 2) ++ (writeItems indent more ++ rest)) := by
  simp [itemsText]

/-! ### Scanning a tree -/

open Scanner (inBlock ReachesLine Passes Opens)

/-- A tree is scanned as its tokens, up to a line that is indented less. -/
structure Tree.Scanned (tree : Tree) : Prop where
  /-- At a position that is indented already. -/
  indented {mark : Mark} {level : Nat} {outer : List Nat} {tokens : List Token} {count : Nat}
    {rest : List Char} (column : mark.column = level + 2) (less : count ≤ level)
    (solid : Solid rest) :
    ReachesLine
      (inBlock ⟨mark, tree.write (level + 2) ++ (spaces count ++ rest)⟩ (level :: outer) true
        tokens)
      (spaces count ++ rest) (level :: outer) ((tree.tokens true).reverse ++ tokens)
  /-- Behind the colon of a key that is not marked. -/
  behindKey {mark : Mark} {level : Nat} {outer : List Nat} {tokens : List Token} {count : Nat}
    {rest : List Char} (inside : level < mark.column) (less : count ≤ level)
    (solid : Solid rest) :
    ReachesLine
      (inBlock ⟨mark, tree.valueLead level ++ (tree.write (tree.valueIndent level) ++
        (spaces count ++ rest))⟩ (level :: outer) false tokens)
      (spaces count ++ rest) (level :: outer) ((tree.tokens false).reverse ++ tokens)

/-- Some items are scanned as their tokens, from the first one on. -/
structure ItemsScanned (items : List Tree) : Prop where
  scan {mark : Mark} {column : Nat} {levels outer : List Nat} {tokens opened : List Token}
    {count : Nat} {rest : List Char} (here : mark.column = column)
    (opens : Opens .blockSequenceStart column levels tokens outer opened) (less : count ≤ column)
    (solid : Solid rest) :
    ReachesLine
      (inBlock ⟨mark, itemsText column items ++ (spaces count ++ rest)⟩ levels true tokens)
      (spaces count ++ rest) (column :: outer) ((tokensOfItems items).reverse ++ opened)

/-- Some entries are scanned as their tokens, from the first one on. -/
structure EntriesScanned (entries : List (Scalar × Tree)) : Prop where
  scan {mark : Mark} {column : Nat} {levels outer : List Nat} {tokens opened : List Token}
    {count : Nat} {rest : List Char} (here : mark.column = column)
    (opens : Opens .blockMappingStart column levels tokens outer opened) (less : count ≤ column)
    (solid : Solid rest) :
    ReachesLine
      (inBlock ⟨mark, entriesText column entries ++ (spaces count ++ rest)⟩ levels true tokens)
      (spaces count ++ rest) (column :: outer) ((tokensOfEntries entries).reverse ++ opened)

/-! ### One case for each kind of tree -/

/-- A tree on the line of its key is scanned in the same way wherever it stands. -/
theorem Tree.Scanned.of_leaf {tree : Tree} (lead : ∀ level, tree.valueLead level = [' '])
    (indent : ∀ level, tree.valueIndent level = level + 2)
    (same : tree.tokens false = tree.tokens true)
    (reaches : ∀ {mark : Mark} {level : Nat} {outer : List Nat} {keyAllowed : Bool}
      {tokens : List Token} {count : Nat} {rest : List Char}, level < mark.column → count ≤ level →
      Solid rest →
      ReachesLine
        (inBlock ⟨mark, tree.write (level + 2) ++ (spaces count ++ rest)⟩ (level :: outer)
          keyAllowed tokens)
        (spaces count ++ rest) (level :: outer) ((tree.tokens true).reverse ++ tokens)) :
    tree.Scanned where
  indented := fun column less solid => reaches (by omega) less solid
  behindKey := by
    intro mark level outer tokens count rest inside less solid
    rw [lead, indent, same]
    apply ReachesLine.of_passes (Passes.spaces 1)
    exact reaches (Nat.lt_succ_of_lt inside) less solid

theorem Tree.scanned_scalar {content : Scalar} (presentable : content.Presentable) :
    (Tree.scalar content).Scanned := by
  apply Scanned.of_leaf (fun _ => rfl) (fun _ => rfl)
  · rfl
  · exact fun inside less solid => Scanner.reachesLine_scalar presentable inside less solid

theorem Tree.scanned_emptySequence : (Tree.sequence []).Scanned := by
  apply Scanned.of_leaf (fun _ => rfl) (fun _ => rfl)
  · rfl
  · exact fun inside _ solid => Scanner.reachesLine_brackets
      (List.forall_mem_cons.mpr ⟨by decide, List.forall_mem_singleton.mpr (by decide)⟩)
      (fun scanner rest => (Scanner.step_opening scanner rest).1)
      (fun scanner rest => (Scanner.step_closing scanner rest).1) inside solid

theorem Tree.scanned_emptyMapping : (Tree.mapping []).Scanned := by
  apply Scanned.of_leaf (fun _ => rfl) (fun _ => rfl)
  · rfl
  · exact fun inside _ solid => Scanner.reachesLine_brackets
      (List.forall_mem_cons.mpr ⟨by decide, List.forall_mem_singleton.mpr (by decide)⟩)
      (fun scanner rest => (Scanner.step_opening scanner rest).2)
      (fun scanner rest => (Scanner.step_closing scanner rest).2) inside solid

/-- A sequence opens a level of its own, unless it is the value of a key that is not marked: then
its items stand at the level of the mapping. -/
theorem Tree.scanned_sequence {item : Tree} {more : List Tree}
    (items : ItemsScanned (item :: more)) : (Tree.sequence (item :: more)).Scanned where
  indented := by
    intro mark level outer tokens count rest column less solid
    have deeper : ∀ innermost ∈ (level :: outer).head?, innermost < level + 2 := by
      rintro innermost ⟨⟩
      omega
    have bound : count < level + 2 := by omega
    have opens : Opens .blockSequenceStart (level + 2) (level :: outer) tokens (level :: outer)
        (.blockSequenceStart :: tokens) := .begins deeper
    have reaches := (items.scan column opens (Nat.le_of_lt bound) solid).close solid bound
    rw [write_sequence]
    simpa [Tree.tokens] using reaches
  behindKey := by
    intro mark level outer tokens count rest inside less solid
    apply ReachesLine.of_passes (Passes.newLine.trans (Passes.spaces level))
    refine items.scan ?_ .goesOn less solid
    rw [Mark.column_past_spaces]
    exact Nat.zero_add level

/-- A mapping opens a level of its own. -/
theorem Tree.scanned_mapping {entry : Scalar × Tree} {more : List (Scalar × Tree)}
    (entries : EntriesScanned (entry :: more)) : (Tree.mapping (entry :: more)).Scanned := by
  have indented {mark : Mark} {level : Nat} {outer : List Nat} {tokens : List Token} {count : Nat}
      {rest : List Char} (column : mark.column = level + 2) (less : count ≤ level)
      (solid : Solid rest) :
      ReachesLine
        (inBlock ⟨mark, entriesText (level + 2) (entry :: more) ++ (spaces count ++ rest)⟩
          (level :: outer) true tokens)
        (spaces count ++ rest) (level :: outer)
        (((Tree.mapping (entry :: more)).tokens true).reverse ++ tokens) := by
    have deeper : ∀ innermost ∈ (level :: outer).head?, innermost < level + 2 := by
      rintro innermost ⟨⟩
      omega
    have bound : count < level + 2 := by omega
    have opens : Opens .blockMappingStart (level + 2) (level :: outer) tokens (level :: outer)
        (.blockMappingStart :: tokens) := .begins deeper
    have reaches := (entries.scan column opens (Nat.le_of_lt bound) solid).close solid bound
    simpa [Tree.tokens] using reaches
  constructor
  · exact indented
  · intro mark level outer tokens count rest inside less solid
    apply ReachesLine.of_passes (Passes.newLine.trans (Passes.spaces (level + 2)))
    refine indented ?_ less solid
    rw [Mark.column_past_spaces]
    exact Nat.zero_add _

/-! ### One more item or entry -/

theorem itemsScanned_cons {item : Tree} {more : List Tree} (first : item.Scanned)
    (following : more ≠ [] → ItemsScanned more) : ItemsScanned (item :: more) := by
  constructor
  intro mark column levels outer tokens opened count rest here opens less solid
  subst here
  have column : ((mark.next '-').next ' ').column = mark.column + 2 := rfl
  rw [itemsText_append]
  apply ReachesLine.of_passes (Passes.item opens)
  cases more with
  | nil => simpa [tokensOfItems, writeItems] using first.indented column less solid
  | cons next more =>
      have solidNext : Solid (itemsText mark.column (next :: more) ++ (spaces count ++ rest)) :=
        solid_cons (by decide) _
      rw [writeItems_cons, List.append_assoc]
      refine (first.indented column (Nat.le_refl _) solidNext).trans ?_
      intro line start
      apply ReachesLine.of_passes (Passes.spaces mark.column)
      have aligned : (line.past (spaces mark.column)).column = mark.column := by
        rw [Mark.column_past_spaces, start, Nat.zero_add]
      simpa [tokensOfItems] using
        (following (List.cons_ne_nil next more)).scan aligned .goesOn less solid

theorem endsWord_valueLead (indent : Nat) (value : Tree) (rest : List Char) :
    endsWord (value.valueLead indent ++ rest) = true := by
  unfold Tree.valueLead
  split <;> rfl

/-- A key with its value. -/
theorem reachesLine_entry {key : Scalar} {value : Tree} (presentable : key.Presentable)
    (scanned : value.Scanned) {mark : Mark} {levels outer : List Nat} {tokens opened : List Token}
    {count : Nat} {rest : List Char}
    (opens : Opens .blockMappingStart mark.column levels tokens outer opened)
    (less : count ≤ mark.column) (solid : Solid rest) :
    ReachesLine
      (inBlock ⟨mark, key.writeKey mark.column value ++
        (value.write (key.valueIndent mark.column value) ++ (spaces count ++ rest))⟩ levels true
        tokens)
      (spaces count ++ rest) (mark.column :: outer)
      ((value.tokens (!key.isBareKey)).reverse ++ .value :: key.token :: .key :: opened) := by
  cases bare : key.isBareKey with
  | true =>
      have lead := endsWord_valueLead mark.column value
        (value.write (value.valueIndent mark.column) ++ (spaces count ++ rest))
      have inside : mark.column < ((mark.past (key.write (mark.column + 2))).next ':').column := by
        have unbroken := (presentable.write_of_isBareKey bare (mark.column + 2)).1
        simp only [Mark.next, Mark.column_past unbroken]
        omega
      have indented : 0 < mark.column + 2 := Nat.succ_pos _
      have passes := Passes.bareKey presentable bare indented opens lead
      simpa [Scalar.writeKey, Scalar.valueIndent, bare, Scalar.token] using
        ReachesLine.of_passes passes (scanned.behindKey inside less solid)
  | false =>
      have column : ((mark.next '?').next ' ').column = mark.column + 2 := rfl
      have written : key.writeKey mark.column value ++
          (value.write (key.valueIndent mark.column value) ++ (spaces count ++ rest)) =
          '?' :: ' ' :: (key.writeLine (mark.column + 2) ++ (spaces mark.column ++
            ':' :: ' ' :: (value.write (mark.column + 2) ++ (spaces count ++ rest)))) := by
        simp [Scalar.writeKey, Scalar.valueIndent, bare]
      rw [written]
      apply ReachesLine.of_passes (Passes.key opens)
      have inside : mark.column < ((mark.next '?').next ' ').column := by omega
      refine (Scanner.reachesLine_scalar presentable inside (Nat.le_refl _)
        (solid_cons (by decide) _)).trans ?_
      intro line start
      apply ReachesLine.of_passes (Passes.spaces mark.column)
      have aligned : (line.past (spaces mark.column)).column = mark.column := by
        rw [Mark.column_past_spaces, start, Nat.zero_add]
      apply ReachesLine.of_passes (Passes.value aligned)
      have behind : (((line.past (spaces mark.column)).next ':').next ' ').column =
          mark.column + 2 := congrArg (· + 2) aligned
      simpa [Scalar.token] using scanned.indented behind less solid

theorem entriesText_append (indent : Nat) (key : Scalar) (value : Tree)
    (more : List (Scalar × Tree)) (rest : List Char) :
    entriesText indent ((key, value) :: more) ++ rest =
      key.writeKey indent value ++ (value.write (key.valueIndent indent value) ++
        (writeEntries indent more ++ rest)) := by
  simp [entriesText]

theorem solid_entriesText {key : Scalar} (presentable : key.Presentable) (indent : Nat)
    (value : Tree) (more : List (Scalar × Tree)) (rest : List Char) :
    Solid (entriesText indent ((key, value) :: more) ++ rest) := by
  rw [entriesText_append, Scalar.writeKey]
  split
  · rw [List.append_assoc]
    exact presentable.solid_write (indent + 2) _
  · exact solid_cons (by decide) _

theorem entriesScanned_cons {key : Scalar} {value : Tree} {more : List (Scalar × Tree)}
    (presentable : EntriesPresentable ((key, value) :: more)) (first : value.Scanned)
    (following : more ≠ [] → EntriesScanned more) : EntriesScanned ((key, value) :: more) := by
  constructor
  intro mark column levels outer tokens opened count rest here opens less solid
  subst here
  obtain ⟨presentableKey, _, presentableMore⟩ := presentable
  rw [entriesText_append]
  cases more with
  | nil =>
      simpa [tokensOfEntries, writeEntries] using
        reachesLine_entry presentableKey first opens less solid
  | cons next more =>
      have solidNext : Solid (entriesText mark.column (next :: more) ++ (spaces count ++ rest)) :=
        solid_entriesText presentableMore.1 mark.column _ _ _
      rw [writeEntries_cons, List.append_assoc]
      refine (reachesLine_entry presentableKey first opens (Nat.le_refl _) solidNext).trans ?_
      intro line start
      apply ReachesLine.of_passes (Passes.spaces mark.column)
      have aligned : (line.past (spaces mark.column)).column = mark.column := by
        rw [Mark.column_past_spaces, start, Nat.zero_add]
      simpa [tokensOfEntries] using
        (following (List.cons_ne_nil next more)).scan aligned .goesOn less solid

/-! ### Every tree -/

mutual

/-- Every tree that can be written is scanned as its tokens. -/
theorem Tree.scanned : (tree : Tree) → tree.Presentable → tree.Scanned
  | .scalar _, presentable => Tree.scanned_scalar presentable
  | .sequence [], _ => Tree.scanned_emptySequence
  | .sequence (item :: more), presentable =>
      Tree.scanned_sequence (itemsScanned (item :: more) presentable (List.cons_ne_nil item more))
  | .mapping [], _ => Tree.scanned_emptyMapping
  | .mapping (entry :: more), presentable =>
      Tree.scanned_mapping
        (entriesScanned (entry :: more) presentable (List.cons_ne_nil entry more))

theorem itemsScanned :
    (items : List Tree) → ItemsPresentable items → items ≠ [] → ItemsScanned items
  | [], _, nonempty => absurd rfl nonempty
  | item :: more, presentable, _ =>
      itemsScanned_cons (item.scanned presentable.1) (itemsScanned more presentable.2)

theorem entriesScanned :
    (entries : List (Scalar × Tree)) → EntriesPresentable entries → entries ≠ [] →
      EntriesScanned entries
  | [], _, nonempty => absurd rfl nonempty
  | (_, value) :: more, presentable, _ =>
      entriesScanned_cons presentable (value.scanned presentable.2.1)
        (entriesScanned more presentable.2.2)

end

/-! ### Characters of a document -/

theorem all_isAllowed_spaces (count : Nat) : (spaces count).all isAllowed = true :=
  List.all_eq_true.mpr fun _ => isAllowed_of_mem_spaces

theorem Scalar.Presentable.all_isAllowed {scalar : Scalar} (presentable : scalar.Presentable)
    (indent : Nat) :
    (scalar.write indent).all isAllowed = true ∧
      (scalar.writeLine indent).all isAllowed = true := by
  have written : (scalar.write indent).all isAllowed = true :=
    List.all_eq_true.mpr (presentable.isAllowed_of_mem_write indent)
  refine ⟨written, ?_⟩
  rw [writeLine, List.all_append, written]
  split <;> rfl

theorem Scalar.Presentable.all_isAllowed_writeKey {key : Scalar} (presentable : key.Presentable)
    (indent : Nat) (value : Tree) : (key.writeKey indent value).all isAllowed = true := by
  have lead : (value.valueLead indent).all isAllowed = true := by
    unfold Tree.valueLead
    split
    · exact all_isAllowed_spaces _
    · exact all_isAllowed_spaces _
    · rfl
  obtain ⟨written, line⟩ := presentable.all_isAllowed (indent + 2)
  have spaced := all_isAllowed_spaces indent
  rw [writeKey]
  split
  · rw [List.all_append, List.all_cons, written, lead]
    rfl
  · rw [List.all_cons, List.all_cons, List.all_append, List.all_append, line, spaced]
    rfl

mutual

/-- A tree is written with the characters that a document may hold. -/
theorem Tree.all_isAllowed_write : (tree : Tree) → tree.Presentable → (indent : Nat) →
    (tree.write indent).all isAllowed = true
  | .scalar _, presentable, indent => (Scalar.Presentable.all_isAllowed presentable indent).2
  | .sequence [], _, _ => rfl
  | .sequence (item :: more), presentable, indent => by
      have first := item.all_isAllowed_write presentable.1 (indent + 2)
      have following := all_isAllowed_writeItems more presentable.2 indent
      rw [Tree.write, List.all_cons, List.all_cons, List.all_append, first, following]
      rfl
  | .mapping [], _, _ => rfl
  | .mapping ((key, value) :: more), presentable, indent => by
      have name := presentable.1.all_isAllowed_writeKey indent value
      have first := value.all_isAllowed_write presentable.2.1 (key.valueIndent indent value)
      have following := all_isAllowed_writeEntries more presentable.2.2 indent
      rw [Tree.write, List.all_append, List.all_append, name, first, following]
      rfl

theorem all_isAllowed_writeItems : (items : List Tree) → ItemsPresentable items →
    (indent : Nat) → (writeItems indent items).all isAllowed = true
  | [], _, _ => rfl
  | item :: more, presentable, indent => by
      have spaced := all_isAllowed_spaces indent
      have first := item.all_isAllowed_write presentable.1 (indent + 2)
      have following := all_isAllowed_writeItems more presentable.2 indent
      rw [writeItems, List.all_append, List.all_cons, List.all_cons, List.all_append, spaced, first,
        following]
      rfl

theorem all_isAllowed_writeEntries : (entries : List (Scalar × Tree)) →
    EntriesPresentable entries → (indent : Nat) → (writeEntries indent entries).all isAllowed = true
  | [], _, _ => rfl
  | (key, value) :: more, presentable, indent => by
      have spaced := all_isAllowed_spaces indent
      have name := presentable.1.all_isAllowed_writeKey indent value
      have first := value.all_isAllowed_write presentable.2.1 (key.valueIndent indent value)
      have following := all_isAllowed_writeEntries more presentable.2.2 indent
      rw [writeEntries, List.all_append, List.all_append, List.all_append, spaced, name, first,
        following]
      rfl

end

/-! ### Documents -/

/-- The text of a mapping with entries is scanned as its tokens. -/
theorem scan?_print {entry : Scalar × Tree} {more : List (Scalar × Tree)}
    (presentable : (Tree.mapping (entry :: more)).Presentable) :
    Token.scan? (Tree.mapping (entry :: more)).print =
      some ((Tree.mapping (entry :: more)).tokens true) := by
  have allowed := Tree.all_isAllowed_write (.mapping (entry :: more)) presentable 0
  have opens : Opens .blockMappingStart 0 [] [] [] [.blockMappingStart] := .begins nofun
  have scanned := entriesScanned (entry :: more) presentable (List.cons_ne_nil entry more)
  have start : Mark.start.column = 0 := rfl
  obtain ⟨mark, first, passes⟩ := scanned.scan start opens (Nat.le_refl 0) solid_nil
  have ended : ∀ level ∈ [0].head?, level ≤ mark.column := by
    rintro level ⟨⟩
    exact Nat.zero_le _
  have run := passes.run_eq_finish rfl (Scanner.toNextToken_solid solid_nil ended)
  have text : (Tree.mapping (entry :: more)).print.toList =
      entriesText 0 (entry :: more) ++ (spaces 0 ++ []) := by
    rw [spaces, List.replicate_zero, List.nil_append, List.append_nil]
    exact String.toList_ofList
  rw [Token.scan?, text, if_pos (by simpa [spaces, write_mapping] using allowed)]
  refine run.trans ?_
  simp [Scanner.finish, Scanner.closeAll, inBlock, Scanner.inFlow, Scanner.withoutCandidate,
    dropCandidate, Tree.tokens]

end CognitiveKernel.Yaml
