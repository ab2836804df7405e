import BasicLint.Diagnostic
import BasicLint.Path

/-!
# Reports

The findings of each file of a run, and the paths that could not be looked at. A failure counts as an
error.
-/
namespace BasicLint

structure FileReport where
  path : String
  diagnostics : List Diagnostic := []
  deriving DecidableEq, Repr

namespace FileReport

def isClean (report : FileReport) : Bool := report.diagnostics.isEmpty

def hasErrors (report : FileReport) : Bool := report.diagnostics.any (·.severity = .error)

def counts (report : FileReport) : Counts := Counts.ofDiagnostics report.diagnostics

/-- The findings in the order of display. -/
def sorted (report : FileReport) : List Diagnostic := Diagnostic.sorted report.diagnostics

end FileReport

/-- Why a path could not be looked at. -/
inductive FailureKind where
  | notFound
  | notSourceFile
  | unreadable
  deriving DecidableEq, Repr

namespace FailureKind

def key : FailureKind → String
  | notFound => "not-found"
  | notSourceFile => "not-source-file"
  | unreadable => "unreadable"

def all : List FailureKind := [notFound, notSourceFile, unreadable]

def ofKey? (key : String) : Option FailureKind := all.find? (·.key = key)

@[simp] theorem ofKey?_key (kind : FailureKind) : ofKey? kind.key = some kind := by
  cases kind <;> decide

end FailureKind

structure FileFailure where
  path : String
  kind : FailureKind
  message : String
  deriving DecidableEq, Repr

def FileFailure.headline (failure : FileFailure) : String := failure.path ++ ": " ++ failure.message

structure LintResult where
  files : List FileReport := []
  failures : List FileFailure := []
  /-- How many files the rules ran on. -/
  filesChecked : Nat := 0
  deriving DecidableEq, Repr

namespace LintResult

/-- The findings of all files. -/
def diagnostics (result : LintResult) : List Diagnostic := result.files.flatMap (·.diagnostics)

/-- The reports with findings. -/
def withIssues (result : LintResult) : List FileReport := result.files.filter (!·.isClean)

/-- The first report on a path. -/
def reportFor? (result : LintResult) (path : String) : Option FileReport :=
  result.files.find? fun report => Path.same report.path.toList path.toList

def counts (result : LintResult) : Counts :=
  let counts := Counts.ofDiagnostics result.diagnostics
  { counts with errors := counts.errors + result.failures.length }

def hasErrors (result : LintResult) : Bool :=
  !result.failures.isEmpty || result.files.any (·.hasErrors)

/-- Whether some finding is at least as grave as a threshold. -/
def hasViolations (result : LintResult) (threshold : Severity) : Bool :=
  result.diagnostics.any (·.severity.reaches threshold)

/-- Nothing was checked and nothing failed. -/
def isEmptyRun (result : LintResult) : Bool := result.files.isEmpty && result.failures.isEmpty

/-- How many files were looked at, readable or not. -/
def filesSeen (result : LintResult) : Nat :=
  result.filesChecked + (result.failures.filter (·.kind = .unreadable)).length

end LintResult

end BasicLint
