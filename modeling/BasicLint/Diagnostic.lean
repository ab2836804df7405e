/-!
# Diagnostics

A diagnostic is a flat value: it owns its text and says nothing about the file it came from. The
order of display goes by line and then by the *name* of the severity, which is not the order of
severities.
-/
namespace BasicLint

inductive Severity where
  | info
  | warning
  | error
  deriving DecidableEq, Repr

namespace Severity

/-- The name in reports, which also decides the order of display. -/
def name : Severity → String
  | info => "INFO"
  | warning => "WARNING"
  | error => "ERROR"

/-- The name in settings and in structured output. -/
def key : Severity → String
  | info => "info"
  | warning => "warning"
  | error => "error"

def all : List Severity := [info, warning, error]

def ofKey? (key : String) : Option Severity := all.find? (·.key = key)

def rank : Severity → Nat
  | info => 0
  | warning => 1
  | error => 2

/-- Whether a severity is at least as grave as a threshold. -/
def reaches (severity threshold : Severity) : Bool := threshold.rank ≤ severity.rank

@[simp] theorem ofKey?_key (severity : Severity) : ofKey? severity.key = some severity := by
  cases severity <;> decide

end Severity

structure Diagnostic where
  /-- The code of the finding, such as `S001`. -/
  id : String
  /-- The name of the rule that reports it. -/
  rule : String
  severity : Severity
  line : Nat
  message : String
  /-- The trimmed text of the line, empty where there is none. -/
  snippet : String := ""
  suggestion : Option String := none
  deriving DecidableEq, Repr

namespace Diagnostic

/-- The diagnostic on one line. -/
def headline (d : Diagnostic) : String :=
  "[" ++ d.severity.name ++ "] Line " ++ toString d.line ++ " (" ++ d.id ++ "): " ++ d.message

/-- The diagnostic with its code and its suggestion, each on a line of its own. -/
def format (d : Diagnostic) : String :=
  d.headline ++ "\n"
    ++ (if d.snippet = "" then "" else "  Code: " ++ d.snippet ++ "\n")
    ++ (match d.suggestion with
      | none => ""
      | some text => "  Suggestion: " ++ text ++ "\n")

def displayLe (a b : Diagnostic) : Bool :=
  a.line < b.line || (a.line = b.line && decide (a.severity.name ≤ b.severity.name))

/-- Diagnostics in the order of display; those that tie keep their order. -/
def sorted (ds : List Diagnostic) : List Diagnostic := ds.mergeSort displayLe

end Diagnostic

/-- How many findings there are of each severity. -/
structure Counts where
  errors : Nat := 0
  warnings : Nat := 0
  infos : Nat := 0
  deriving DecidableEq, Repr

namespace Counts

def add (counts : Counts) : Severity → Counts
  | .error => { counts with errors := counts.errors + 1 }
  | .warning => { counts with warnings := counts.warnings + 1 }
  | .info => { counts with infos := counts.infos + 1 }

def ofDiagnostics (ds : List Diagnostic) : Counts :=
  ds.foldl (fun counts d => counts.add d.severity) {}

end Counts

end BasicLint
