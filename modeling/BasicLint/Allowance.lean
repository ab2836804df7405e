import BasicLint.Diagnostic
import BasicLint.Text.Cursor

/-!
# Allow directives

A comment such as `* infobasic-lint: allow(A001, naming) reason="legacy layout"` excuses the findings
it names on its own line and on the next one. An error is excused only with a reason: without one it
stays, as a warning that asks for the reason.
-/
namespace BasicLint

open Text

/-- What an allow directive says. -/
structure Directive where
  /-- The codes and names of rules it excuses. -/
  keys : List String
  reason : Option String
  deriving DecidableEq, Repr

namespace Directive

/-- The text behind a comment leader: a star, a bang, or the word `REM` in any case. -/
def commentBody? (line : List Char) : Option (List Char) :=
  match trim line with
  | '*' :: s => some (trim s)
  | '!' :: s => some (trim s)
  | r :: e :: m :: ' ' :: s =>
    if r.toUpper = 'R' ∧ e.toUpper = 'E' ∧ m.toUpper = 'M' then some (trim s) else none
  | _ => none

/-- The text before and behind the first occurrence of a character. -/
def cut? (c : Char) (s : List Char) : Option (List Char × List Char) :=
  match s.dropWhile (· != c) with
  | [] => none
  | _ :: rest => some (s.takeWhile (· != c), rest)

/-- The entries of a comma-separated list, trimmed, without the empty ones. -/
def entries (s : List Char) : List String :=
  ((s.splitOn ',').map trim).filterMap fun entry =>
    if entry.isEmpty then none else some (String.ofList entry)

/-- The quoted text behind `reason=`. -/
def reason? (s : List Char) : Option String := do
  let s ← after? "reason=".toList (trim s)
  let s ← after? ['"'] (trim s)
  let (reason, _) ← cut? '"' s
  some (String.ofList reason)

/-- The directive that a line holds. -/
def ofLine? (line : List Char) : Option Directive := do
  let s ← commentBody? line
  let s ← after? "infobasic-lint:".toList s
  let s ← after? "allow(".toList (trim s)
  let (keys, rest) ← cut? ')' (trim s)
  guard !(entries keys).isEmpty
  some ⟨entries keys, reason? rest⟩

/-- Whether a directive excuses a finding. -/
def covers (directive : Directive) (d : Diagnostic) : Bool :=
  directive.keys.contains "all" || directive.keys.contains d.id || directive.keys.contains d.rule

/-- The directive on the line with the given number, if it excuses the finding. -/
def covering? (lines : Array (List Char)) (number : Nat) (d : Diagnostic) : Option Directive := do
  guard (number ≠ 0)
  let line ← lines[number - 1]?
  let directive ← ofLine? line
  guard (directive.covers d)
  some directive

/-- The directive that excuses a finding. The line above is asked first. -/
def find? (lines : Array (List Char)) (d : Diagnostic) : Option Directive :=
  (covering? lines (d.line - 1) d).or (covering? lines d.line d)

/-- The warning in place of an error that is excused without a reason. -/
def askReason (d : Diagnostic) : Diagnostic :=
  { d with
    severity := .warning
    message := "Allow directive for '" ++ d.id ++ "' is missing required reason"
    suggestion := some "Add reason=\"...\" to explain why this exception is necessary" }

/-- What is left of a finding. -/
def excuse? (lines : Array (List Char)) (d : Diagnostic) : Option Diagnostic :=
  match find? lines d with
  | none => some d
  | some directive =>
    if directive.reason.isNone && d.severity = .error then some (askReason d) else none

/-- What is left of the findings on a file with the given lines. -/
def apply (lines : Array (List Char)) (ds : List Diagnostic) : List Diagnostic :=
  ds.filterMap (excuse? lines)

end Directive

end BasicLint
