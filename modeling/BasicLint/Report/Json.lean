import BasicLint.Json
import BasicLint.Report

/-!
# Reports as JSON

Each kind of record is written with its fields in a fixed order, and read back by name or by
position. An empty snippet and a missing suggestion are left out; an empty suggestion is written.
-/
namespace BasicLint

namespace Diagnostic

def keys : List String :=
  ["rule_id", "rule", "severity", "line_number", "message", "code_snippet", "suggestion"]

def toJson (d : Diagnostic) : Json :=
  .object <|
    [("rule_id", .str d.id), ("rule", .str d.rule), ("severity", .str d.severity.key),
      ("line_number", .int d.line), ("message", .str d.message)]
    ++ (if d.snippet = "" then [] else [("code_snippet", .str d.snippet)])
    ++ (match d.suggestion with
      | none => []
      | some text => [("suggestion", .str text)])

/-- A text that is empty where it is missing. -/
def readSnippet? : Option Json → Option String
  | none => some ""
  | some json => json.asStr?

/-- A text that may be missing or null. -/
def readSuggestion? : Option Json → Option (Option String)
  | none | some .null => some none
  | some json => json.asStr?.map some

def ofJson? (json : Json) : Option Diagnostic := do
  let values ← json.asRecord? keys
  let id ← (← Json.required values 0).asStr?
  let rule ← (← Json.required values 1).asStr?
  let severity ← Severity.ofKey? (← (← Json.required values 2).asChoice?)
  let line ← (← Json.required values 3).asCount?
  let message ← (← Json.required values 4).asStr?
  let snippet ← readSnippet? values[5]?.join
  let suggestion ← readSuggestion? values[6]?.join
  some { id, rule, severity, line, message, snippet, suggestion }

end Diagnostic

namespace FileReport

def keys : List String := ["path", "diagnostics"]

def toJson (report : FileReport) : Json :=
  .object [("path", .str report.path),
    ("diagnostics", .array (report.diagnostics.map (·.toJson)))]

def ofJson? (json : Json) : Option FileReport := do
  let values ← json.asRecord? keys
  let path ← (← Json.required values 0).asStr?
  let diagnostics ← (← (← Json.required values 1).asItems?).mapM Diagnostic.ofJson?
  some { path, diagnostics }

end FileReport

namespace FileFailure

def keys : List String := ["path", "kind", "message"]

def toJson (failure : FileFailure) : Json :=
  .object [("path", .str failure.path), ("kind", .str failure.kind.key),
    ("message", .str failure.message)]

def ofJson? (json : Json) : Option FileFailure := do
  let values ← json.asRecord? keys
  let path ← (← Json.required values 0).asStr?
  let kind ← FailureKind.ofKey? (← (← Json.required values 1).asChoice?)
  let message ← (← Json.required values 2).asStr?
  some { path, kind, message }

end FileFailure

namespace LintResult

def keys : List String := ["files", "failures", "files_checked"]

def toJson (result : LintResult) : Json :=
  .object [("files", .array (result.files.map (·.toJson))),
    ("failures", .array (result.failures.map (·.toJson))),
    ("files_checked", .int result.filesChecked)]

def ofJson? (json : Json) : Option LintResult := do
  let values ← json.asRecord? keys
  let files ← (← (← Json.required values 0).asItems?).mapM FileReport.ofJson?
  let failures ← (← (← Json.required values 1).asItems?).mapM FileFailure.ofJson?
  let filesChecked ← (← Json.required values 2).asCount?
  some { files, failures, filesChecked }

end LintResult

end BasicLint
