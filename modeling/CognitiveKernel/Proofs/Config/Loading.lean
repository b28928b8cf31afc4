/-
Module: CognitiveKernel.Proofs.Config.Loading
Purpose: Which template a configured kernel is rendered into, and what is recorded on the way.
Main exports: Config.loader_of_build, Kernel.compile_of_found, Kernel.compile_of_failure,
  Config.CompiledBelow, Config.CompiledAsConfigured, Config.compile_build
-/
import CognitiveKernel.Proofs.FileTree
import CognitiveKernel.Proofs.Kernel.Reachable

namespace CognitiveKernel

/-- Whether a record tells that a kernel is rendered. -/
def LogRecord.isCompiling : LogRecord → Bool
  | compiling _ _ _ => true
  | _ => false

namespace TemplateLoader

/-- The loader that looks into a directory before it takes the bundled template. -/
def below (root : String) : TemplateLoader := ⟨.directory root, some .bundled⟩

/-- The path of the kernel template below a directory. -/
def kernelPath (root : String) : String := FileTree.join root Template.kernelName

/-- The record of a kernel template that is not found below a directory. -/
def notFoundBelow (root : String) : LogRecord :=
  .templateNotFound Template.kernelName (.directory root) .bundled

/-- Such a record is a warning that names the template and both sources. -/
theorem line_notFoundBelow (root : String) :
    (notFoundBelow root).line =
      "WARN Template templates/kernel.tex not found in DirTemplates \x7b root: " ++
        Text.quote root ++ " \x7d, trying EmbeddedTemplates" := by
  have line : (notFoundBelow root).line = "WARN " ++ ("Template " ++ Template.kernelName ++
      " not found in " ++ ("DirTemplates \x7b root: " ++ Text.quote root ++ " \x7d") ++
      ", trying " ++ "EmbeddedTemplates") := rfl
  have front : "WARN Template templates/kernel.tex not found in DirTemplates \x7b root: " =
      "WARN " ++ ("Template " ++ Template.kernelName ++ " not found in " ++
        "DirTemplates \x7b root: ") := by decide
  have back : " \x7d, trying EmbeddedTemplates" =
      " \x7d" ++ ", trying " ++ "EmbeddedTemplates" := by decide
  rw [line, front, back]
  simp only [String.append_assoc]

variable {files : FileTree} {root : String}

/-- The bundled template is found before any directory is looked into. -/
theorem loadKernel_bundledOver :
    (bundledOver root).loadKernel files = .silent (.ok Template.bundledText) := rfl

/-- A directory is absolute or relative together with the path of the template below it. -/
theorem isAbsolute_kernelPath (root : String) :
    FileTree.isAbsolute (kernelPath root) = FileTree.isAbsolute root := by
  have relative : FileTree.isAbsolute Template.kernelName = false := by decide
  rw [kernelPath, FileTree.join, relative, Bool.false_or]
  by_cases empty : root = ""
  · subst empty
    decide
  · rw [if_neg (mt of_decide_eq_true empty)]
    split
    · exact FileTree.isAbsolute_append empty _
    · rw [String.append_assoc]
      exact FileTree.isAbsolute_append empty _

theorem loadKernel_below_of_text {text : String}
    (read : files.readText (kernelPath root) = .ok text) :
    (below root).loadKernel files = .silent (.ok text) := by
  have found : TemplateSource.read (.directory root) files Template.kernelName =
      .ok (some text) := by
    rw [kernelPath] at read
    unfold TemplateSource.read
    simp only [read]
  rw [loadKernel, load, below, found]

theorem loadKernel_below_of_notFound
    (absent : files.readText (kernelPath root) = .error .notFound) :
    (below root).loadKernel files = ⟨[notFoundBelow root], .ok Template.bundledText⟩ := by
  have missing : TemplateSource.read (.directory root) files Template.kernelName = .ok none := by
    rw [kernelPath] at absent
    unfold TemplateSource.read
    simp only [absent]
  rw [loadKernel, load, below, missing]
  rfl

theorem loadKernel_below_of_failure {error : FileError}
    (failed : files.readText (kernelPath root) = .error error) (present : error ≠ .notFound) :
    (below root).loadKernel files = .silent (.error (.file error)) := by
  have failure : TemplateSource.read (.directory root) files Template.kernelName =
      .error error := by
    rw [kernelPath] at failed
    unfold TemplateSource.read
    simp only [failed]
  rw [loadKernel, load, below, failure]

/-- The files have a part in the loading by what is read from one path. -/
theorem loadKernel_below_congr {others : FileTree}
    (same : files.readText (kernelPath root) = others.readText (kernelPath root)) :
    (below root).loadKernel files = (below root).loadKernel others := by
  cases read : others.readText (kernelPath root) with
  | ok text => rw [loadKernel_below_of_text (same.trans read), loadKernel_below_of_text read]
  | error error =>
      by_cases absent : error = .notFound
      · subst absent
        rw [loadKernel_below_of_notFound (same.trans read), loadKernel_below_of_notFound read]
      · rw [loadKernel_below_of_failure (same.trans read) absent,
          loadKernel_below_of_failure read absent]

end TemplateLoader

namespace Kernel

variable {kernel : Kernel} {files : FileTree}

/-- The record of the rendering of a kernel. -/
def compilingRecord (kernel : Kernel) : LogRecord :=
  .compiling kernel.mode kernel.rigor kernel.weightList

theorem compile_of_found (records : List LogRecord) {template : String}
    (found : kernel.loader.loadKernel files = ⟨records, .ok template⟩) :
    kernel.compile files = ⟨records ++ [kernel.compilingRecord], .ok (kernel.render template)⟩ := by
  rw [compile, loadTemplate, found]
  rfl

theorem compile_of_failure {error : KernelError}
    (failed : kernel.loader.loadKernel files = .silent (.error error)) :
    kernel.compile files = .silent (.error error) := by
  rw [compile, loadTemplate, failed]
  rfl

theorem loader_of_withWeights {next : Kernel} {weights : List (String × Binary64)}
    (weighted : kernel.withWeights weights = .ok next) : next.loader = kernel.loader := by
  have kept : (behind (kernel.setWeights weights)).loader = kernel.loader :=
    setWeights_preserves (P := fun next => next.loader = kernel.loader) weights
      (fun name weight same => by rw [behind_setWeight, ← same]) rfl
  rwa [withWeights_eq_ok_iff.mp weighted] at kept

end Kernel

namespace Config

open TemplateLoader (kernelPath notFoundBelow)

theorem loader_of_build {config : Config} {kernel : Kernel} (built : config.build = .ok kernel) :
    kernel.loader = config.templateDir.elim .standard TemplateLoader.below := by
  rw [build] at built
  cases weighted : (Kernel.new config.mode config.rigor).withWeights config.weights.entries with
  | error error => simp [weighted, Except.map] at built
  | ok middle =>
      simp only [weighted, Except.map, Except.ok.injEq] at built
      subst built
      cases config.templateDir with
      | none => exact Kernel.loader_of_withWeights weighted
      | some root => rfl

section

variable {config : Config} {kernel : Kernel} {files : FileTree} {root : String}

theorem loader_of_noDir (built : config.build = .ok kernel) (noDir : config.templateDir = none) :
    kernel.loader = .standard := by
  rw [loader_of_build built, noDir]
  rfl

theorem loader_of_dir (built : config.build = .ok kernel) (dir : config.templateDir = some root) :
    kernel.loader = .below root := by
  rw [loader_of_build built, dir]
  rfl

theorem compile_of_noDir (built : config.build = .ok kernel) (noDir : config.templateDir = none) :
    kernel.compile files =
      ⟨[kernel.compilingRecord], .ok (kernel.render Template.bundledText)⟩ := by
  apply Kernel.compile_of_found []
  rw [loader_of_noDir built noDir]
  exact TemplateLoader.loadKernel_bundledOver

theorem compile_of_text (built : config.build = .ok kernel) (dir : config.templateDir = some root)
    {text : String} (read : files.readText (kernelPath root) = .ok text) :
    kernel.compile files = ⟨[kernel.compilingRecord], .ok (kernel.render text)⟩ := by
  apply Kernel.compile_of_found []
  rw [loader_of_dir built dir]
  exact TemplateLoader.loadKernel_below_of_text read

theorem compile_of_notFound (built : config.build = .ok kernel)
    (dir : config.templateDir = some root)
    (absent : files.readText (kernelPath root) = .error .notFound) :
    kernel.compile files =
      ⟨[notFoundBelow root, kernel.compilingRecord],
        .ok (kernel.render Template.bundledText)⟩ := by
  apply Kernel.compile_of_found [notFoundBelow root]
  rw [loader_of_dir built dir]
  exact TemplateLoader.loadKernel_below_of_notFound absent

theorem compile_of_unreadable (built : config.build = .ok kernel)
    (dir : config.templateDir = some root) {error : FileError}
    (failed : files.readText (kernelPath root) = .error error) (present : error ≠ .notFound) :
    kernel.compile files = .silent (.error (.file error)) := by
  apply Kernel.compile_of_failure
  rw [loader_of_dir built dir]
  exact TemplateLoader.loadKernel_below_of_failure failed present

end

/-- The ways in which the compilation of a configured kernel ends. -/
inductive Outcome (config : Config) (kernel : Kernel) : Traced (Except KernelError String) → Prop
  | rendered (template : String) :
      Outcome config kernel ⟨[kernel.compilingRecord], .ok (kernel.render template)⟩
  | replaced (root : String) (dir : config.templateDir = some root) :
      Outcome config kernel
        ⟨[notFoundBelow root, kernel.compilingRecord], .ok (kernel.render Template.bundledText)⟩
  | unreadable (error : FileError) : Outcome config kernel ⟨[], .error (.file error)⟩

theorem outcome_compile {config : Config} {kernel : Kernel} (built : config.build = .ok kernel)
    (files : FileTree) : Outcome config kernel (kernel.compile files) := by
  cases dir : config.templateDir with
  | none =>
      rw [compile_of_noDir built dir]
      exact .rendered _
  | some root =>
      cases read : files.readText (kernelPath root) with
      | ok text =>
          rw [compile_of_text built dir read]
          exact .rendered text
      | error error =>
          by_cases absent : error = .notFound
          · subst absent
            rw [compile_of_notFound built dir read]
            exact .replaced root dir
          · rw [compile_of_unreadable built dir read absent]
            exact .unreadable error

namespace Outcome

variable {config : Config} {kernel : Kernel} {compiled : Traced (Except KernelError String)}

theorem not_missing (outcome : Outcome config kernel compiled) (name : String) :
    compiled.value ≠ .error (.templateMissing name) := by
  cases outcome <;> nofun

/-- A rendering is recorded exactly if there is one. -/
theorem recorded_iff (outcome : Outcome config kernel compiled) :
    (∃ record ∈ compiled.records, record.isCompiling = true) ↔
      ∃ text, compiled.value = .ok text := by
  cases outcome with
  | rendered template => exact ⟨fun _ => ⟨_, rfl⟩, fun _ => ⟨_, .head _, rfl⟩⟩
  | replaced root dir => exact ⟨fun _ => ⟨_, rfl⟩, fun _ => ⟨_, .tail _ (.head _), rfl⟩⟩
  | unreadable error => exact ⟨nofun, nofun⟩

/-- The only warning is that the template is not found below the directory. -/
theorem warning_iff (outcome : Outcome config kernel compiled) {record : LogRecord}
    (member : record ∈ compiled.records) :
    record.isWarning = true ↔
      ∃ root, config.templateDir = some root ∧ record = notFoundBelow root := by
  have compiling : kernel.compilingRecord.isWarning = true ↔
      ∃ root, config.templateDir = some root ∧ kernel.compilingRecord = notFoundBelow root :=
    ⟨nofun, nofun⟩
  cases outcome with
  | rendered template =>
      rw [List.mem_singleton.mp member]
      exact compiling
  | replaced root dir =>
      rcases List.mem_cons.mp member with first | second
      · rw [first]
        exact ⟨fun _ => ⟨root, dir, rfl⟩, fun _ => rfl⟩
      · rw [List.mem_singleton.mp second]
        exact compiling
  | unreadable error => cases member

end Outcome

/-- How a kernel is compiled that looks for its template below a directory: what is read there is
rendered; where nothing is found, the bundled template is, with a warning; and whatever else keeps
the template from being read is handed on, with no record of a search. -/
structure CompiledBelow (root : String) (kernel : Kernel) (files : FileTree) : Prop where
  of_text : ∀ text, files.readText (kernelPath root) = .ok text →
    kernel.compile files = ⟨[kernel.compilingRecord], .ok (kernel.render text)⟩
  of_notFound : files.readText (kernelPath root) = .error .notFound →
    kernel.compile files =
      ⟨[notFoundBelow root, kernel.compilingRecord], .ok (kernel.render Template.bundledText)⟩
  of_failure : ∀ error, files.readText (kernelPath root) = .error error → error ≠ .notFound →
    kernel.compile files = ⟨[], .error (.file error)⟩
  of_obstructed : ∀ error, files.Obstructed (kernelPath root) error →
    kernel.compile files = ⟨[], .error (.file error)⟩
  of_isAbsolute : FileTree.isAbsolute root = true →
    ∀ working, kernel.compile { files with working := working } = kernel.compile files

/-- How a configured kernel is compiled in a state of the files. No template is ever missing. A
rendering is recorded for debugging if there is one, and the only warning is that a template is not
found below the directory. -/
structure CompiledAsConfigured (config : Config) (kernel : Kernel) (files : FileTree) : Prop where
  bundled : config.templateDir = none →
    kernel.compile files = ⟨[kernel.compilingRecord], .ok (kernel.render Template.bundledText)⟩
  anywhere : config.templateDir = none → ∀ others, kernel.compile others = kernel.compile files
  below : ∀ root, config.templateDir = some root → CompiledBelow root kernel files
  not_missing : ∀ name, (kernel.compile files).value ≠ .error (.templateMissing name)
  recorded_iff : (∃ record ∈ (kernel.compile files).records, record.isCompiling = true) ↔
    ∃ text, (kernel.compile files).value = .ok text
  compiling_level : kernel.compilingRecord.isWarning = false
  compiling_line : kernel.compilingRecord.line = "DEBUG " ++ kernel.compilingRecord.text
  warning_iff : ∀ record ∈ (kernel.compile files).records,
    record.isWarning = true ↔ ∃ root, config.templateDir = some root ∧ record = notFoundBelow root
  warning_line : ∀ root, (notFoundBelow root).line =
    "WARN Template templates/kernel.tex not found in DirTemplates \x7b root: " ++
      Text.quote root ++ " \x7d, trying EmbeddedTemplates"

section

variable {config : Config} {kernel : Kernel}

theorem compiledBelow_of_build (built : config.build = .ok kernel) {root : String}
    (dir : config.templateDir = some root) (files : FileTree) :
    CompiledBelow root kernel files where
  of_text _ read := compile_of_text built dir read
  of_notFound absent := compile_of_notFound built dir absent
  of_failure _ failed present := compile_of_unreadable built dir failed present
  of_obstructed error obstructed := by
    obtain ⟨failed, present⟩ := FileTree.readText_of_obstructed obstructed
    exact compile_of_unreadable built dir failed present
  of_isAbsolute absolute working := by
    have same := @FileTree.readText_of_isAbsolute files (kernelPath root)
      ((TemplateLoader.isAbsolute_kernelPath root).trans absolute) working
    rw [Kernel.compile, Kernel.compile, Kernel.loadTemplate, Kernel.loadTemplate,
      loader_of_dir built dir]
    exact congrArg (Traced.bind · _) (TemplateLoader.loadKernel_below_congr same)

/-- A configured kernel is compiled with its directory taken as it is given, absolute or relative,
in any state of the files. -/
theorem compile_build (built : config.build = .ok kernel) (files : FileTree) :
    CompiledAsConfigured config kernel files where
  bundled noDir := compile_of_noDir built noDir
  anywhere noDir others := by rw [compile_of_noDir built noDir, compile_of_noDir built noDir]
  below root dir := compiledBelow_of_build built dir files
  not_missing := (outcome_compile built files).not_missing
  recorded_iff := (outcome_compile built files).recorded_iff
  compiling_level := rfl
  compiling_line := rfl
  warning_iff _ member := (outcome_compile built files).warning_iff member
  warning_line := TemplateLoader.line_notFoundBelow

/-- A template in Greek below a relative directory, an absolute one and one that leads up from the
working directory; a file in place of the directory, a directory in place of the template, octets
that are no text, a template that may not be read, a link that leads in a circle, and nothing. -/
theorem compile_build_below :
    let config (root : String) : Config :=
      { standard with weights := .ofList [("NonDual", .nan .quiet)], templateDir := some root }
    let denied : SystemError := ⟨13, "Permission denied", by decide⟩
    let circle : SystemError := ⟨40, "Too many levels of symbolic links", by decide⟩
    let tree : List (String × ByteArray) → List String → FileTree :=
      .ofLists ["home", "user"]
    let served := tree [("/srv/kernels/templates/kernel.tex", "λ __WEIGHTS__".toUTF8)] []
    ∃ relative absolute above : Kernel, (config "d").build = .ok relative ∧
      (config "/srv/kernels").build = .ok absolute ∧ (config "../shared").build = .ok above ∧
      relative.compile (tree [("d/templates/kernel.tex", "λ __WEIGHTS__".toUTF8)] []) =
        ⟨[relative.compilingRecord], .ok (relative.render "λ __WEIGHTS__")⟩ ∧
      absolute.compile served =
        ⟨[absolute.compilingRecord], .ok (absolute.render "λ __WEIGHTS__")⟩ ∧
      above.compile (tree [("/home/shared/templates/kernel.tex", "λ __WEIGHTS__".toUTF8)] []) =
        ⟨[above.compilingRecord], .ok (above.render "λ __WEIGHTS__")⟩ ∧
      relative.compile (tree [("d", "λ".toUTF8)] []) = ⟨[], .error (.file .notADirectory)⟩ ∧
      relative.compile (tree [] ["d/templates/kernel.tex"]) =
        ⟨[], .error (.file .isADirectory)⟩ ∧
      relative.compile (tree [("d/templates/kernel.tex", ⟨#[0xFF]⟩)] []) =
        ⟨[], .error (.file .invalidText)⟩ ∧
      absolute.compile { served with refusesReading? := fun _ => some (.other denied) } =
        ⟨[], .error (.file (.other denied))⟩ ∧
      absolute.compile { served with link? := fun _ => some (.error (.other circle)) } =
        ⟨[], .error (.file (.other circle))⟩ ∧
      (above.compile served).records = [notFoundBelow "../shared", above.compilingRecord] := by
  intro config denied circle tree served
  refine ⟨_, _, _, rfl, rfl, rfl, ?_⟩
  have relative (files : FileTree) := (@compile_build (config "d") _ rfl files).below "d" rfl
  have absolute (files : FileTree) :=
    (@compile_build (config "/srv/kernels") _ rfl files).below "/srv/kernels" rfl
  have above (files : FileTree) :=
    (@compile_build (config "../shared") _ rfl files).below "../shared" rfl
  refine ⟨(relative _).of_text _ rfl, (absolute _).of_text _ rfl, (above _).of_text _ ?_, ?_, ?_,
    ?_, ?_, ?_, ?_⟩
  · rfl
  · have shape : kernelPath "d" = "d" ++ "/" ++ "templates/kernel.tex" := by decide
    have leads : (tree [("d", "λ".toUTF8)] []).resolve "d" = .ok ["home", "user", "d"] := rfl
    exact (relative _).of_obstructed _ (.belowFile shape ⟨by decide, by decide⟩ leads rfl)
  · exact (relative _).of_obstructed _ (.directory rfl rfl rfl)
  · exact (relative _).of_obstructed _ (.undecodable rfl rfl rfl (by decide))
  · exact (absolute _).of_obstructed _ (.refusedReading rfl rfl rfl nofun)
  · exact (absolute _).of_failure _ rfl nofun
  · exact congrArg Traced.records ((above _).of_notFound rfl)

end

end Config

end CognitiveKernel
