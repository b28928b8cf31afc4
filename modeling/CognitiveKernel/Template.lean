/-
Module: CognitiveKernel.Template
Purpose: The loader of templates, which tries one source after another.
Main exports: TemplateLoader, TemplateLoader.standard, TemplateLoader.load
-/
import CognitiveKernel.Error
import CognitiveKernel.Log
import CognitiveKernel.Template.Bundled
import CognitiveKernel.Template.Source

namespace CognitiveKernel

/-- Resolves templates through a primary source and an optional fallback. -/
structure TemplateLoader where
  primary : TemplateSource
  /-- The source that is asked when the primary one does not have a template. -/
  fallback : Option TemplateSource
deriving DecidableEq

namespace TemplateLoader

/-- The loader that asks for the bundled template before it looks into a directory. -/
def bundledOver (root : String) : TemplateLoader := ⟨.bundled, some (.directory root)⟩

/-- The directory that the library was built from, which its build puts here. -/
def sourceRoot : String := "/usr/src/ctn-kernel"

def standard : TemplateLoader := bundledOver sourceRoot

/-- Loads a template. The fallback is asked only when the primary source does not have it, and
this is recorded; a failure to read ends the search. -/
def load (loader : TemplateLoader) (files : FileTree) (name : String) :
    Traced (Except KernelError String) :=
  match loader.primary.read files name with
  | .error error => .silent (.error (.file error))
  | .ok (some text) => .silent (.ok text)
  | .ok none =>
      match loader.fallback with
      | none => .silent (.error (.templateMissing name))
      | some fallback =>
          { records := [.templateNotFound name loader.primary fallback]
            value :=
              match fallback.read files name with
              | .error error => .error (.file error)
              | .ok (some text) => .ok text
              | .ok none => .error (.templateMissing name) }

def loadKernel (loader : TemplateLoader) (files : FileTree) : Traced (Except KernelError String) :=
  loader.load files Template.kernelName

end TemplateLoader

end CognitiveKernel
