import BasicLint.FileTree
import BasicLint.Report.Excerpt
import BasicLint.Report.Json
import BasicLint.Text.Utf8

/-!
# Output formats

The four ways to print a result. The one with excerpts reads the files again. JSON is text
throughout, so a result that names a path which is no text cannot be printed that way.
-/
namespace BasicLint

inductive Format where
  | text
  | json
  | compact
  | pretty
  deriving DecidableEq, Repr

def Format.ofName? : String → Option Format
  | "text" => some .text
  | "json" => some .json
  | "compact" => some .compact
  | "pretty" => some .pretty
  | _ => none

/-- Why a result cannot be printed. -/
inductive RenderError where
  | pathNotText
  deriving DecidableEq, Repr

def RenderError.message : RenderError → String
  | pathNotText => "path contains invalid UTF-8 characters"

namespace LintResult

def ruler : String := String.ofList (List.replicate 70 '=')

/-- Each failure on a line, or a warning that nothing was found. -/
def preamble (result : LintResult) : String :=
  String.join (result.failures.map fun failure => "ERROR: " ++ failure.headline ++ "\n")
    ++ (if result.isEmptyRun then "WARNING: No InfoBasic files found\n" else "")

/-- The warnings of a summary: an empty run counts as one. -/
def summaryWarnings (result : LintResult) : Nat :=
  result.counts.warnings + (if result.isEmptyRun then 1 else 0)

def summary (result : LintResult) : String :=
  "\n" ++ ruler ++ "\nSUMMARY: " ++ toString result.filesSeen ++ " file(s) checked\n  Errors:   "
    ++ toString result.counts.errors ++ "\n  Warnings: " ++ toString result.summaryWarnings
    ++ "\n  Infos:    " ++ toString result.counts.infos ++ "\n" ++ ruler ++ "\n"

/-- A file with its findings in full, or a tick. -/
def fileText (report : FileReport) : String :=
  if report.isClean then "✓ " ++ report.path ++ " - No issues found\n"
  else
    "\n" ++ ruler ++ "\nFILE: " ++ report.path ++ "\n" ++ ruler ++ "\n"
      ++ String.join (report.sorted.map fun d => "\n" ++ d.format)

def renderText (result : LintResult) : String :=
  result.preamble ++ String.join (result.files.map fileText) ++ result.summary

/-- The paths that a result names. -/
def paths (result : LintResult) : List String :=
  result.files.map (·.path) ++ result.failures.map (·.path)

def renderJson (result : LintResult) (isText : String → Bool) : Except RenderError String :=
  if result.paths.all isText then .ok (result.toJson.pretty ++ "\n") else .error .pathNotText

def compactFailure (failure : FileFailure) : String :=
  failure.path ++ ":0: ERROR [" ++ failure.kind.key ++ "] " ++ failure.message ++ "\n"

def compactDiagnostic (path : String) (d : Diagnostic) : String :=
  path ++ ":" ++ toString d.line ++ ": " ++ d.severity.name ++ " [" ++ d.id ++ "] " ++ d.message
    ++ "\n"

/-- A line for each failure and each finding. -/
def renderCompact (result : LintResult) : String :=
  String.join (result.failures.map compactFailure)
    ++ String.join (result.files.map fun report =>
      String.join (report.sorted.map (compactDiagnostic report.path)))

/-- The findings of a file with their excerpts; without them, if the file cannot be read again. -/
def fileExcerpts (workspace : Workspace) (report : FileReport) : String :=
  match workspace.read report.path.toList with
  | .ok bytes =>
    let page := Page.ofText (Text.decodeLossy bytes)
    String.join (report.sorted.map fun d => d.excerpt report.path page ++ "\n")
  | .error _ => String.join (report.sorted.map (·.format))

def renderPretty (result : LintResult) (workspace : Workspace) : String :=
  result.preamble ++ String.join (result.withIssues.map (fileExcerpts workspace)) ++ result.summary

def render (result : LintResult) (workspace : Workspace) (isText : String → Bool) :
    Format → Except RenderError String
  | .text => .ok result.renderText
  | .json => result.renderJson isText
  | .compact => .ok result.renderCompact
  | .pretty => .ok (result.renderPretty workspace)

end LintResult

end BasicLint
