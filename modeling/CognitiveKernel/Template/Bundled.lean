/-
Module: CognitiveKernel.Template.Bundled
Purpose: The kernel template that belongs to the library, and its name.
Main exports: Template.kernelName, Template.bundledText
-/

namespace CognitiveKernel.Template

/-- The name under which the kernel template is looked up. -/
def kernelName : String := "templates/kernel.tex"

/-- The lines of the bundled kernel template. -/
def bundledLines : List String :=
  [ "% CTN kernel template. Placeholders are substituted verbatim by the compiler.",
    "% Blocks: SYS_KERNEL_INIT(Ψ_global), COGNITIVE_TENSORS(U), STRATEGIC_SOLVER(Ω), SELF_ERASE.",
    "\\begin\x7baligned\x7d",
    "&\\textbf\x7bCTN\\_KERNEL\\_SCHEMA\x7d(\\Sigma_\x7bCTN\x7d) \\leftarrow \\\x7b \\\\",
    "&\\quad \\mathsf\x7bSYS\\_KERNEL\\_INIT\x7d(\\Psi_\x7bglobal\x7d),\\ " ++
      "\\mathsf\x7bCOGNITIVE\\_TENSORS\x7d(\\mathbb\x7bU\x7d),\\ " ++
      "\\mathsf\x7bSTRATEGIC\\_SOLVER\x7d(\\Omega),\\ \\mathsf\x7bSELF\\_ERASE\x7d \\\\",
    "&\\\x7d \\\\[6pt]",
    "&\\textbf\x7bSYS\\_KERNEL\\_INIT\x7d(\\Psi_\x7bglobal\x7d) \\leftarrow \\\x7b \\\\",
    "&\\quad \\text\x7bAuth: \x7d P_\x7bspec\x7d,\\ \\text\x7bFilter: \x7d \\Pi_\x7bsafe\x7d,\\ " ++
      "\\text\x7bPrecedence: \x7d \\vartheta \\gg \\beta \\gg \\zeta \\\\",
    "&\\\x7d \\\\[6pt]",
    "&\\textbf\x7bCOGNITIVE\\_TENSORS\x7d(\\mathbb\x7bU\x7d): \\\\",
    "&\\quad \\tau = [__WEIGHTS__] \\\\",
    "&\\quad C_\x7bnet\x7d = \\sum_\x7bi\x7d \\tau_i \\cdot \\vec\x7bv\x7d_i",
    "\\end\x7baligned\x7d",
    "",
    "\\begin\x7bgathered\x7d",
    "__VECTORS__",
    "\\end\x7bgathered\x7d",
    "",
    "\\begin\x7baligned\x7d",
    "&\\textbf\x7bSTRATEGIC\\_SOLVER\x7d(\\Omega): \\\\",
    "&\\quad __SOLVER_LOGIC__ \\\\",
    "&\\quad z^\x7b*\x7d = \\arg\\max_\x7bz \\in \\mathbb\x7bU\x7d\x7d " ++
      "\\left[ \\vartheta(z) - \\lambda_1 \\cdot " ++
      "\\mathrm\x7bProj\x7d(z, \\mathcal\x7bW\x7d) \\right] \\\\",
    "&\\quad \\sigma = 0 \\implies \\mathsf\x7bFirst\\_Principles\\_Audit\x7d(q) \\\\[6pt]",
    "&\\textbf\x7bSELF\\_ERASE\x7d: \\ " ++
      "\\mathsf\x7bDiscard\x7d(\\Sigma_\x7bCTN\x7d, \\text\x7bInternal\\_Spec\x7d)",
    "\\end\x7baligned\x7d",
    "" ]

/-- The text of the bundled kernel template. -/
def bundledText : String :=
  "\n".intercalate bundledLines

end CognitiveKernel.Template
