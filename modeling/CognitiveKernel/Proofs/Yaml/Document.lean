/-
Module: CognitiveKernel.Proofs.Yaml.Document
Purpose: The text of a tree spells the document with that tree.
Main exports: Tree.read_tokens, Document.ofText?_print, decodeText_print
-/
import CognitiveKernel.Proofs.Yaml.Tree
import CognitiveKernel.Yaml.Decoding

namespace CognitiveKernel.Yaml

variable {handles : TagHandles} {fuel : Nat} {rest : List Token}

/-! ### Reading a node -/

/-- Where the tokens of a tree stand: as an item, or in a mapping before what is no item. -/
def Stands (indented : Bool) (surroundings : Surroundings) (rest : List Token) : Prop :=
  (indented = true ∧ surroundings = .block) ∨
    (surroundings = .blockEntry ∧ rest.head? ≠ some .blockEntry)

theorem Stands.not_flow {indented : Bool} {surroundings : Surroundings}
    (stands : Stands indented surroundings rest) : surroundings ≠ .flow := by
  rcases stands with ⟨_, rfl⟩ | ⟨rfl, _⟩ <;> nofun

theorem Stands.of_not_indented {surroundings : Surroundings}
    (stands : Stands false surroundings rest) :
    surroundings = .blockEntry ∧ rest.head? ≠ some .blockEntry := by
  rcases stands with ⟨indented, _⟩ | entry
  · cases indented
  · exact entry

theorem read_scalar {surroundings : Surroundings} (content : Scalar) :
    Node.read handles (fuel + 1) surroundings (content.token :: rest) =
      some (content.toNode, rest) := by
  cases surroundings <;> rfl

theorem read_emptySequence {surroundings : Surroundings} :
    Node.read handles (fuel + 1) surroundings (.flowSequenceStart :: .flowSequenceEnd :: rest) =
      some (.sequence .none [], rest) := by
  cases surroundings <;> simp [Node.read, readProperties, readFlowItems]

theorem read_emptyMapping {surroundings : Surroundings} :
    Node.read handles (fuel + 1) surroundings (.flowMappingStart :: .flowMappingEnd :: rest) =
      some (.mapping .none [], rest) := by
  cases surroundings <;> simp [Node.read, readProperties, readFlowEntries]

theorem read_blockSequence {surroundings : Surroundings} (block : surroundings ≠ .flow) :
    Node.read handles (fuel + 1) surroundings (.blockSequenceStart :: rest) =
      (readBlockItems (Node.read handles fuel .block) fuel rest).map fun read =>
        (.sequence .none read.1, read.2) := by
  cases surroundings with
  | flow => exact absurd rfl block
  | block => simp [Node.read, readProperties]
  | blockEntry => simp [Node.read, readProperties]

theorem read_bareSequence :
    Node.read handles (fuel + 1) .blockEntry (.blockEntry :: rest) =
      (readBareItems (Node.read handles fuel .block) fuel (.blockEntry :: rest)).map fun read =>
        (.sequence .none read.1, read.2) := by
  simp [Node.read, readProperties]

theorem read_blockMapping {surroundings : Surroundings} (block : surroundings ≠ .flow) :
    Node.read handles (fuel + 1) surroundings (.blockMappingStart :: rest) =
      (readBlockEntries (Node.read handles fuel .blockEntry) fuel rest).map fun read =>
        (.mapping .none read.1, read.2) := by
  cases surroundings with
  | flow => exact absurd rfl block
  | block => simp [Node.read, readProperties]
  | blockEntry => simp [Node.read, readProperties]

/-! ### Reading a tree -/

/-- The first token of a tree is not one of those that an empty node is recognised by. -/
theorem Tree.not_mem_stops (tree : Tree) (indented : Bool) (rest : List Token) :
    ∀ token ∈ (tree.tokens indented ++ rest).head?,
      token ∉ [.key, .value, .blockEnd] ∧ (indented = true → token ≠ .blockEntry) := by
  unfold Tree.tokens
  split
  · rintro _ ⟨⟩
    simp [Scalar.token]
  · rintro _ ⟨⟩
    simp
  · cases indented <;> rintro _ ⟨⟩ <;> simp
  · rintro _ ⟨⟩
    simp
  · rintro _ ⟨⟩
    simp

theorem readUnless_eq {stops tokens : List Token} {read : NodeReader}
    (other : ∀ token ∈ tokens.head?, token ∉ stops) :
    readUnless stops read tokens = read tokens := by
  cases tokens with
  | nil => rfl
  | cons token tokens =>
      have notStop : token ∉ stops := other token rfl
      simp [readUnless, notStop]

theorem readUnless_item {stops : List Token} {read : NodeReader} {item : Tree} {rest : List Token}
    (among : ∀ token ∈ stops, token ∈ [.blockEntry, .key, .value, .blockEnd]) :
    readUnless stops read (item.tokens true ++ rest) = read (item.tokens true ++ rest) := by
  apply readUnless_eq
  intro token first stop
  obtain ⟨notEnd, notItem⟩ := item.not_mem_stops true rest token first
  rcases List.mem_cons.mp (among token stop) with rfl | isEnd
  · exact notItem rfl rfl
  · exact notEnd isEnd

/-- A key and a value are read from their tokens, if the value is. -/
theorem readEntry_tokens {key : Scalar} {value : Tree} {indented : Bool}
    (read : Node.read handles (fuel + 1) .blockEntry (value.tokens indented ++ rest) =
      some (value.toNode, rest)) :
    readEntry [.key, .value, .blockEnd] (Node.read handles (fuel + 1) .blockEntry)
        (key.token :: .value :: (value.tokens indented ++ rest)) =
      some ((key.toNode, value.toNode), rest) := by
  have isKey : ∀ token ∈ (key.token :: .value :: (value.tokens indented ++ rest)).head?,
      token ∉ [.value, .key, .value, .blockEnd] := by
    rintro _ ⟨⟩
    simp [Scalar.token]
  have isValue := fun token first => (value.not_mem_stops indented rest token first).1
  rw [readEntry, readUnless_eq isKey, read_scalar]
  simp [readValue, readUnless_eq isValue, read]

theorem length_tokens_pos (tree : Tree) (indented : Bool) : 0 < (tree.tokens indented).length := by
  unfold Tree.tokens
  split
  · exact Nat.succ_pos _
  · exact Nat.succ_pos _
  · cases indented <;> exact Nat.succ_pos _
  · exact Nat.succ_pos _
  · exact Nat.succ_pos _

mutual

/-- The tokens of a tree are put together to the tree. -/
theorem Tree.read_tokens : (tree : Tree) → (indented : Bool) → (surroundings : Surroundings) →
    (rest : List Token) → (fuel : Nat) → Stands indented surroundings rest →
    (tree.tokens indented).length ≤ fuel →
    Node.read handles fuel surroundings (tree.tokens indented ++ rest) = some (tree.toNode, rest)
  | tree, indented, _, _, 0, _, enough =>
      absurd (Nat.lt_of_lt_of_le (length_tokens_pos tree indented) enough) (Nat.lt_irrefl 0)
  | .scalar content, _, _, _, _ + 1, _, _ => read_scalar content
  | .sequence [], _, _, _, _ + 1, _, _ => read_emptySequence
  | .sequence (item :: more), true, surroundings, rest, fuel + 1, stands, enough => by
      simp only [Tree.tokens, if_pos, List.length_cons, List.length_append] at enough
      have items := read_blockItems (item :: more) rest fuel fuel (by omega) (by omega)
      rw [Tree.tokens, if_pos rfl, List.cons_append, List.append_assoc,
        read_blockSequence stands.not_flow, List.singleton_append, items]
      rfl
  | .sequence (item :: more), false, surroundings, rest, fuel + 1, stands, enough => by
      simp only [Tree.tokens, if_neg Bool.false_ne_true] at enough
      obtain ⟨rfl, other⟩ := stands.of_not_indented
      have items := read_bareItems (item :: more) rest fuel fuel other enough enough
      rw [Tree.tokens, if_neg Bool.false_ne_true]
      exact read_bareSequence.trans (congrArg _ items)
  | .mapping [], _, _, _, _ + 1, _, _ => read_emptyMapping
  | .mapping (entry :: more), _, surroundings, rest, fuel + 1, stands, enough => by
      simp only [Tree.tokens, List.length_cons, List.length_append] at enough
      have entries := read_blockEntries (entry :: more) rest fuel fuel (by omega) (by omega)
      rw [Tree.tokens, List.cons_append, List.append_assoc, read_blockMapping stands.not_flow,
        List.singleton_append, entries]
      rfl

theorem read_blockItems : (items : List Tree) → (rest : List Token) → (fuel count : Nat) →
    (tokensOfItems items).length ≤ fuel → (tokensOfItems items).length ≤ count →
    readBlockItems (Node.read handles fuel .block) count
        (tokensOfItems items ++ .blockEnd :: rest) =
      some (nodesOfItems items, rest)
  | [], _, _, count, _, _ => by
      cases count <;> rfl
  | item :: more, rest, fuel, 0, _, counted => absurd counted (Nat.not_succ_le_zero _)
  | item :: more, rest, fuel, count + 1, enough, counted => by
      simp only [tokensOfItems, List.length_cons, List.length_append] at enough counted
      have first := item.read_tokens true .block (tokensOfItems more ++ .blockEnd :: rest) fuel
        (.inl ⟨rfl, rfl⟩) (by omega)
      have following := read_blockItems more rest fuel count (by omega) (by omega)
      rw [tokensOfItems, List.cons_append, List.append_assoc, readBlockItems,
        readUnless_item (by simp), first]
      simp [following, nodesOfItems]

theorem read_bareItems : (items : List Tree) → (rest : List Token) → (fuel count : Nat) →
    rest.head? ≠ some .blockEntry → (tokensOfItems items).length ≤ fuel + 1 →
    (tokensOfItems items).length ≤ count + 1 →
    readBareItems (Node.read handles fuel .block) count (tokensOfItems items ++ rest) =
      some (nodesOfItems items, rest)
  | [], rest, _, count, other, _, _ => by
      cases count with
      | zero => rfl
      | succ count =>
          cases rest with
          | nil => rfl
          | cons token rest =>
              rw [tokensOfItems, List.nil_append, readBareItems]
              · rfl
              · rintro _ _ _ ⟨⟩
                exact other rfl
  | item :: more, rest, fuel, 0, _, _, counted => by
      have positive := length_tokens_pos item true
      simp only [tokensOfItems, List.length_cons, List.length_append] at counted
      omega
  | item :: more, rest, fuel, count + 1, other, enough, counted => by
      have positive := length_tokens_pos item true
      simp only [tokensOfItems, List.length_cons, List.length_append] at enough counted
      have first := item.read_tokens true .block (tokensOfItems more ++ rest) fuel
        (.inl ⟨rfl, rfl⟩) (by omega)
      have following := read_bareItems more rest fuel count other (by omega) (by omega)
      rw [tokensOfItems, List.cons_append, List.append_assoc, readBareItems,
        readUnless_item (by simp), first]
      simp [following, nodesOfItems]

theorem read_blockEntries : (entries : List (Scalar × Tree)) → (rest : List Token) →
    (fuel count : Nat) → (tokensOfEntries entries).length ≤ fuel →
    (tokensOfEntries entries).length ≤ count →
    readBlockEntries (Node.read handles fuel .blockEntry) count
        (tokensOfEntries entries ++ .blockEnd :: rest) =
      some (nodesOfEntries entries, rest)
  | [], _, _, count, _, _ => by
      cases count <;> rfl
  | entry :: more, _, _, 0, _, counted => absurd counted (Nat.not_succ_le_zero _)
  | (key, value) :: more, rest, 0, count + 1, enough, _ => absurd enough (Nat.not_succ_le_zero _)
  | (key, value) :: more, rest, fuel + 1, count + 1, enough, counted => by
      simp only [tokensOfEntries, List.length_cons, List.length_append] at enough counted
      have other : (tokensOfEntries more ++ Token.blockEnd :: rest).head? ≠ some .blockEntry := by
        cases more with
        | nil => simp [tokensOfEntries]
        | cons => simp [tokensOfEntries]
      have first := value.read_tokens (!key.isBareKey) .blockEntry
        (tokensOfEntries more ++ .blockEnd :: rest) (fuel + 1) (.inr ⟨rfl, other⟩) (by omega)
      have following := read_blockEntries more rest (fuel + 1) count (by omega) (by omega)
      rw [tokensOfEntries, List.cons_append, List.cons_append, List.cons_append, List.append_assoc,
        readBlockEntries, readEntry_tokens first]
      simp [following, nodesOfEntries]

end

/-! ### Anchors -/

mutual

/-- A tree has no anchors to be numbered. -/
theorem Tree.number_toNode : (tree : Tree) → (names : AnchorNames) →
    (tree.toNode : Node String).number names = some (tree.toNode, names)
  | .scalar _, _ => rfl
  | .sequence items, names => by
      have same := number_nodesOfItems items names
      simp [Tree.toNode, Node.number, Properties.number, Properties.none, same]
  | .mapping entries, names => by
      have same := number_nodesOfEntries entries names
      simp [Tree.toNode, Node.number, Properties.number, Properties.none, same]

theorem number_nodesOfItems : (items : List Tree) → (names : AnchorNames) →
    numberItems names (nodesOfItems items) = some (nodesOfItems items, names)
  | [], _ => rfl
  | item :: more, names => by
      have first := item.number_toNode names
      have following := number_nodesOfItems more names
      simp [nodesOfItems, numberItems, first, following]

theorem number_nodesOfEntries : (entries : List (Scalar × Tree)) → (names : AnchorNames) →
    numberEntries names (nodesOfEntries entries) = some (nodesOfEntries entries, names)
  | [], _ => rfl
  | (key, value) :: more, names => by
      have name : (key.toNode : Node String).number names = some (key.toNode, names) := rfl
      have first := value.number_toNode names
      have following := number_nodesOfEntries more names
      simp [nodesOfEntries, numberEntries, name, first, following]

end

/-! ### Documents -/

variable {entry : Scalar × Tree} {more : List (Scalar × Tree)}

/-- The text of a mapping with entries spells the document with that mapping. -/
theorem Document.ofText?_print (presentable : (Tree.mapping (entry :: more)).Presentable) :
    ofText? (Tree.mapping (entry :: more)).print =
      some (ofNode (Tree.mapping (entry :: more)).toNode) := by
  have stands : Stands true .block [] := .inl ⟨rfl, rfl⟩
  have enough : ((Tree.mapping (entry :: more)).tokens true).length ≤
      3 * ((Tree.mapping (entry :: more)).tokens true).length + 3 := by omega
  have read := @Tree.read_tokens standardHandles (.mapping (entry :: more)) true .block [] _ stands
    enough
  rw [List.append_nil] at read
  have bare : beginsBare ((Tree.mapping (entry :: more)).tokens true) = true := rfl
  have nonempty : ((Tree.mapping (entry :: more)).tokens true).isEmpty = false := rfl
  have numbered := (Tree.mapping (entry :: more)).number_toNode .empty
  have node : Node.ofTokens? ((Tree.mapping (entry :: more)).tokens true) =
      some (some (Tree.mapping (entry :: more)).toNode) := by
    simp [Node.ofTokens?, nonempty, readDocument, bare, read]
  rw [ofText?, scan?_print presentable, Option.bind_some, node]
  simp [numbered]

/-- Reading the text of a tree is reading the tree. -/
theorem decodeText_print {α : Type} (decode : Decoder α)
    (presentable : (Tree.mapping (entry :: more)).Presentable) :
    decodeText false decode (Tree.mapping (entry :: more)).print =
      (decode (.ofNode (Tree.mapping (entry :: more)).toNode)
        (Tree.mapping (entry :: more)).toNode).mapError .yaml := by
  rw [decodeText, Document.ofText?_print presentable]
  rfl

end CognitiveKernel.Yaml
