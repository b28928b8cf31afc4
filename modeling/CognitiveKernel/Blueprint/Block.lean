/-
Module: CognitiveKernel.Blueprint.Block
Purpose: The seven blocks of a structured kernel, in their fixed order.
Main exports: Block, BlockDefinition, Block.definitions, Block.inOrder, Block.ofName?, Block.parse,
  Block.documentName, Block.header
-/
import CognitiveKernel.Error
import CognitiveKernel.Text.Casing

namespace CognitiveKernel

/-- A top-level block of a structured kernel. -/
inductive Block where
  | kernelSchema
  | kernelInit
  | cognitiveTensors
  | strategicSolver
  | boundaryControl
  | decoderManifold
  | selfErase
deriving Repr, DecidableEq

/-- What the library knows about a block. -/
structure BlockDefinition where
  block : Block
  /-- The symbol that the block is parameterised by; hygiene has none. -/
  symbol : String
  /-- Whether a kernel must have the block. -/
  isRequired : Bool
  /-- The position of the block in a kernel, counted from zero. -/
  order : Nat
  description : String
deriving Repr, DecidableEq

namespace Block

/-- All blocks as they are declared. -/
def all : List Block :=
  [kernelSchema, kernelInit, cognitiveTensors, strategicSolver, boundaryControl, decoderManifold,
    selfErase]

def name : Block → String
  | kernelSchema => "CTN_KERNEL_SCHEMA"
  | kernelInit => "SYS_KERNEL_INIT"
  | cognitiveTensors => "COGNITIVE_TENSORS"
  | strategicSolver => "STRATEGIC_SOLVER"
  | boundaryControl => "BOUNDARY_CONTROL"
  | decoderManifold => "DECODER_MANIFOLD"
  | selfErase => "SELF_ERASE"

/-! ### Tables -/

/-- The definitions of all blocks. -/
def definitions : Vector BlockDefinition 7 :=
  #v[⟨kernelSchema, "Σ_CTN", true, 0, "Schema container declaration"⟩,
    ⟨kernelInit, "Ψ_global", true, 1, "Global preconditions and auth"⟩,
    ⟨cognitiveTensors, "U", true, 2, "Cognitive basis vectors"⟩,
    ⟨strategicSolver, "Ω", true, 3, "Reasoning optimization target"⟩,
    ⟨boundaryControl, "ζ", true, 4, "Syntax firewall (ζ-invariant)"⟩,
    ⟨decoderManifold, "D", true, 5, "Output projection constraints"⟩,
    ⟨selfErase, "", true, 6, "Kernel hygiene directive"⟩]

/-- The blocks in the order in which a kernel has them. -/
def inOrder : List Block :=
  [kernelSchema, kernelInit, cognitiveTensors, strategicSolver, boundaryControl, decoderManifold,
    selfErase]

/-- The position of a block in its declaration. -/
def index : Block → Fin 7
  | kernelSchema => 0
  | kernelInit => 1
  | cognitiveTensors => 2
  | strategicSolver => 3
  | boundaryControl => 4
  | decoderManifold => 5
  | selfErase => 6

/-- The definition of a block, found by its position. -/
def definition (block : Block) : BlockDefinition := definitions[block.index]

/-- The definition that is found is that of the block. -/
theorem block_definition (block : Block) : block.definition.block = block := by
  cases block <;> rfl

/-- The definitions stand in the order in which the blocks are declared. -/
theorem map_block_definitions : definitions.toList.map BlockDefinition.block = all := by decide

/-- The blocks are ordered as they are declared. -/
theorem inOrder_eq_all : inOrder = all := by decide

/-- The order of a block is its position among the blocks in order. -/
theorem getElem?_order (block : Block) : inOrder[block.definition.order]? = some block := by
  cases block <;> rfl

/-! ### Names -/

/-- The block with exactly the given name. -/
def ofName? (text : String) : Option Block :=
  (definitions.toList.map BlockDefinition.block).find? fun block => block.name = text

/-- Reads a block from its name. -/
def parse (text : String) : Except KernelError Block :=
  match ofName? text with
  | some block => .ok block
  | none => .error (.unknownBlock text)

/-- The words that name a block, each with a capital. -/
def identifier : Block → String
  | kernelSchema => "CtnKernelSchema"
  | kernelInit => "SysKernelInit"
  | cognitiveTensors => "CognitiveTensors"
  | strategicSolver => "StrategicSolver"
  | boundaryControl => "BoundaryControl"
  | decoderManifold => "DecoderManifold"
  | selfErase => "SelfErase"

/-- The name under which documents hold a block. -/
def documentName (block : Block) : String :=
  Text.screamingSnakeCase block.identifier

/-- The block that documents hold under exactly the given name. -/
def ofDocumentName? (text : String) : Option Block :=
  all.find? fun block => block.documentName = text

/-- The line that opens a block: its name, with its symbol in parentheses if it has one. -/
def header (block : Block) : String :=
  let definition := block.definition
  if definition.symbol = "" then definition.block.name
  else definition.block.name ++ "(" ++ definition.symbol ++ ")"

theorem map_header_inOrder :
    inOrder.map header =
      ["CTN_KERNEL_SCHEMA(Σ_CTN)", "SYS_KERNEL_INIT(Ψ_global)", "COGNITIVE_TENSORS(U)",
        "STRATEGIC_SOLVER(Ω)", "BOUNDARY_CONTROL(ζ)", "DECODER_MANIFOLD(D)", "SELF_ERASE"] := by
  decide

/-- Every block is found under its own name. -/
theorem ofName?_name (block : Block) : ofName? block.name = some block := by
  cases block <;> decide

/-- A name belongs to at most one block. -/
theorem name_of_ofName?_eq_some {text : String} {block : Block} (h : ofName? text = some block) :
    block.name = text := by
  simpa using List.find?_some h

end Block

end CognitiveKernel
