/-
Module: CognitiveKernel.Template.Source
Purpose: The sources that can hold a template.
Main exports: TemplateSource, TemplateSource.read, TemplateSource.describe
-/
import CognitiveKernel.FileTree
import CognitiveKernel.Template.Bundled
import CognitiveKernel.Text.Quoted

namespace CognitiveKernel

/-- Something that can hold the text of a named template. -/
inductive TemplateSource where
  /-- The templates that belong to the library. -/
  | bundled
  /-- The files below a directory, by relative path. -/
  | directory (root : String)
  /-- A fixed text for every name. -/
  | inline (text : String)
  /-- No templates at all. -/
  | nothing
deriving DecidableEq

namespace TemplateSource

/-- Reads a template; a source that does not have it answers with nothing, and every other
failure is an error. -/
def read (source : TemplateSource) (files : FileTree) (name : String) :
    Except FileError (Option String) :=
  match source with
  | bundled => .ok (if name = Template.kernelName then some Template.bundledText else none)
  | directory root =>
      match files.readText (FileTree.join root name) with
      | .ok text => .ok (some text)
      | .error .notFound => .ok none
      | .error error => .error error
  | inline text => .ok (some text)
  | nothing => .ok none

/-- The directory that a source reads from. -/
def root? : TemplateSource → Option String
  | directory root => some root
  | _ => none

/-- A source as it is named in records. -/
def describe : TemplateSource → String
  | bundled => "EmbeddedTemplates"
  | directory root => "DirTemplates \x7b root: " ++ Text.quote root ++ " \x7d"
  | inline text => "InlineTemplate \x7b text: " ++ Text.quote text ++ " \x7d"
  | nothing => "NoTemplates"

end TemplateSource

end CognitiveKernel
