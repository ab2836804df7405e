import BasicLint.Allowance
import BasicLint.Event
import BasicLint.FileTree
import BasicLint.Glob
import BasicLint.Report
import BasicLint.Selection
import BasicLint.Text.Utf8

/-!
# The analyzer

Checking one source: every rule that is switched on runs, the settings drop findings and change their
severity, and allow directives have the last word. Checking a root: the source files below it are
found, put in order and checked one by one.
-/
namespace BasicLint

structure Analyzer where
  /-- The file or directory to check. -/
  root : List Char := ['.']
  rules : List Rule := []
  excludes : List Glob := []
  settings : Settings := {}
  strict : Bool := false

namespace Analyzer

/-- Why there is no analyzer. -/
inductive BuildError where
  | badPattern (error : Glob.Error)
  /-- The system does not start the workers that the settings ask for. -/
  | noWorkers (reason : String)
  deriving DecidableEq, Repr

def BuildError.message : BuildError → String
  | badPattern error => "Invalid glob pattern: " ++ error.message
  | noWorkers reason => "Failed to build worker pool: " ++ reason

/-- What lies behind an error, from the outside in. The pool that cannot be built passes on the
words of the system as its own. -/
def BuildError.causes : BuildError → List String
  | badPattern error => [error.message]
  | noWorkers reason => [reason, reason]

/-- An analyzer for the given settings, on a system that answers a call for workers by starting them
or by a reason not to. Patterns of the request come before those of the settings, and the first bad
one is the error. Without a word on strictness the settings decide. -/
def build (startWorkers : Nat → Except String Unit) (root : List Char) (rules : List Rule)
    (exclude : List String) (settings : Settings) (strict : Option Bool) :
    Except BuildError Analyzer := do
  let excludes ← ((exclude ++ settings.exclude).mapM Glob.parse).mapError .badPattern
  (settings.parallelism.elim (.ok ()) startWorkers).mapError .noWorkers
  .ok { root, rules, excludes, settings, strict := strict.getD settings.strict }

/-! ## One source -/

/-- Whether a rule runs. -/
def runs (analyzer : Analyzer) (rule : Rule) : Bool :=
  analyzer.settings.isEnabled rule.name && (!rule.kind.strictOnly || analyzer.strict)

/-- Drops a finding that is switched off, and gives others the severity of the settings. -/
def override? (settings : Settings) (d : Diagnostic) : Option Diagnostic :=
  if settings.isEnabled d.id then
    some { d with severity := (settings.severity? d.id d.rule).getD d.severity }
  else none

/-- The findings of all rules that run, as the settings want them. -/
def findings (analyzer : Analyzer) (source : Source) : List Diagnostic :=
  (analyzer.rules.filter analyzer.runs).flatMap fun rule =>
    (rule.check source).filterMap (override? analyzer.settings)

/-- The findings on a text that no directive excuses. -/
def checkText (analyzer : Analyzer) (text : List Char) : List Diagnostic :=
  let source : Source := { text, strict := analyzer.strict }
  Directive.apply source.rows (analyzer.findings source)

def checkSource (analyzer : Analyzer) (path : String) (text : List Char) : FileReport :=
  ⟨path, analyzer.checkText text⟩

/-! ## Finding sources -/

/-- The path of something at `names` below a root. -/
def below (root : List Char) (names : Location) : List Char := names.foldl Path.join root

/-- Whether the path of a directory is short enough to list what it holds. -/
def isListable (path : List Char) : Bool := Text.byteLength path < FileTree.pathLimit

/-- What lies at a place, with the path to it from `root`, if the place is below a location and can be
listed. -/
def entryBelow? (location : Location) (root : List Char) :
    Location × Entry → Option (List Char × Entry)
  | (place, entry) =>
    match location.isPrefixOf? place with
    | some (name :: names) =>
      if isListable (below root (name :: names).dropLast) then
        some (below root (name :: names), entry)
      else none
    | _ => none

/-- What lies below a directory at a location and can be listed, with the path to it from `root`. -/
def entriesBelow (tree : FileTree) (location : Location) (root : List Char) :
    List (List Char × Entry) :=
  tree.entries.filterMap (entryBelow? location root)

/-- A file, or a link that does not lead to a directory. -/
def isCandidate (workspace : Workspace) (path : List Char) : Entry → Bool
  | .file _ => true
  | .directory => false
  | .link _ => !workspace.isDirectory path

def isExcluded (analyzer : Analyzer) (path : List Char) : Bool :=
  analyzer.excludes.any (·.excludes path)

/-- The source files below a directory at a location, excluded ones among them. -/
def sourcesBelow (analyzer : Analyzer) (workspace : Workspace) (location : Location) :
    List (List Char) :=
  ((entriesBelow workspace.tree location analyzer.root).filter fun (path, entry) =>
    isCandidate workspace path entry
      && Path.hasExtension analyzer.settings.extensions path).map (·.1)

/-- The files to check, in the order of their paths. -/
def discover (analyzer : Analyzer) (workspace : Workspace) :
    Except FileFailure (List (List Char)) :=
  let failure := fun kind message =>
    Except.error (⟨String.ofList analyzer.root, kind, message⟩ : FileFailure)
  match workspace.locate analyzer.root with
  | .error _ => failure .notFound "Path not found"
  | .ok location =>
    match workspace.tree.get? location with
    | some .directory =>
      .ok (((analyzer.sourcesBelow workspace location).filter (!analyzer.isExcluded ·)).mergeSort
        Path.le)
    | some _ =>
      if Path.hasExtension analyzer.settings.extensions analyzer.root then .ok [analyzer.root]
      else failure .notSourceFile "Not an InfoBasic file"
    | none => failure .notFound "Path not found"

/-- The location of the root, if it is a directory. -/
def directory? (analyzer : Analyzer) (workspace : Workspace) : Option Location :=
  match workspace.locate analyzer.root with
  | .ok location => if workspace.tree.isDirectory location then some location else none
  | .error _ => none

/-- The paths that the patterns leave out. -/
def excluded (analyzer : Analyzer) (workspace : Workspace) : List (List Char) :=
  match analyzer.directory? workspace with
  | some location => (analyzer.sourcesBelow workspace location).filter analyzer.isExcluded
  | none => []

/-- The directories below the root that cannot be listed. -/
def unlisted (analyzer : Analyzer) (workspace : Workspace) : List (List Char) :=
  match analyzer.directory? workspace with
  | some location =>
    (entriesBelow workspace.tree location analyzer.root).filterMap fun
      | (path, .directory) => if isListable path then none else some path
      | _ => none
  | none => []

/-! ## A whole run -/

/-- Reads and checks a file. -/
def checkFile (analyzer : Analyzer) (workspace : Workspace) (path : List Char) :
    Except FileFailure FileReport :=
  match workspace.read path with
  | .ok bytes => .ok (analyzer.checkSource (String.ofList path) (Text.decodeLossy bytes))
  | .error e => .error ⟨String.ofList path, .unreadable, "Cannot read file: " ++ e.message⟩

/-- The result of checking files one by one. -/
def collect (outcomes : List (Except FileFailure FileReport)) : LintResult where
  files := outcomes.filterMap fun
    | .ok report => some report
    | .error _ => none
  failures := outcomes.filterMap fun
    | .ok _ => none
    | .error failure => some failure
  filesChecked := outcomes.countP fun
    | .ok _ => true
    | .error _ => false

def analyze (analyzer : Analyzer) (workspace : Workspace) : LintResult :=
  match analyzer.discover workspace with
  | .error failure => { failures := [failure] }
  | .ok files => collect (files.map (analyzer.checkFile workspace))

/-! ## What a run says -/

/-- The rules that are switched off, one event each. -/
def skips (analyzer : Analyzer) : List Event :=
  (analyzer.rules.filter (!analyzer.settings.isEnabled ·.name)).map fun rule =>
    .debug ("Skipping disabled rule: " ++ rule.name)

def fileEvents (analyzer : Analyzer) (workspace : Workspace) (path : List Char) : List Event :=
  .debug ("Analyzing: " ++ String.ofList path)
    :: match workspace.read path with
      | .ok _ => analyzer.skips
      | .error _ => []

def unlistedEvent (path : List Char) : Event :=
  .warn ("Skipping unreadable entry: IO error for operation on " ++ String.ofList path ++ ": "
    ++ FileError.nameTooLong.message)

def summary (result : LintResult) : String :=
  let counts := result.counts
  "Analysis complete: " ++ toString counts.errors ++ " error(s), " ++ toString counts.warnings
    ++ " warning(s), " ++ toString counts.infos ++ " info(s) in " ++ toString result.filesChecked
    ++ " files"

/-- The events of a run with the given result, in order. -/
def events (analyzer : Analyzer) (workspace : Workspace) (result : LintResult) : List Event :=
  let root := String.ofList analyzer.root
  .info ("Starting analysis at " ++ root)
    :: (analyzer.unlisted workspace).map unlistedEvent
    ++ (analyzer.excluded workspace).map (fun path => .debug ("Excluding: " ++ String.ofList path))
    ++ match analyzer.discover workspace with
      | .error failure => [.warn failure.headline]
      | .ok [] => [.warn ("No InfoBasic files found in " ++ root)]
      | .ok files =>
        .info ("Found " ++ toString files.length ++ " files to analyze")
          :: files.flatMap (analyzer.fileEvents workspace)
          ++ result.failures.map (fun failure => .warn ("Failed to read " ++ failure.headline))
          ++ [.info (summary result)]

end Analyzer

end BasicLint
