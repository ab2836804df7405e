import BasicLint.Diagnostic
import BasicLint.Text.Lines

/-!
# Excerpts

A finding shown with its line, the line before and the line after. The finding marks the trimmed text
of its line.
-/
namespace BasicLint

open Text

/-- A stretch of a text, in bytes. -/
structure Span where
  offset : Nat
  length : Nat
  deriving DecidableEq, Repr

namespace Span

def stop (span : Span) : Nat := span.offset + span.length

/-- The trimmed text of a line that starts at `offset`. -/
def ofLineText (offset : Nat) (line : List Char) : Span :=
  let body := trimEnd line
  let trimmed := trimStart body
  ⟨offset + (byteLength body - byteLength trimmed), byteLength trimmed⟩

end Span

/-- How grave a finding is where it is shown with its line. -/
def Severity.grade : Severity → String
  | info => "Advice"
  | warning => "Warning"
  | error => "Error"

/-- A line of a page, with the byte at which it starts. -/
structure Row where
  offset : Nat
  text : List Char
  deriving DecidableEq, Repr

/-- Lines that start at `offset`. -/
def rowsFrom : (offset : Nat) → List (List Char) → List Row
  | _, [] => []
  | offset, line :: lines => ⟨offset, line⟩ :: rowsFrom (offset + byteLength line) lines

/-- A text laid out in lines. -/
structure Page where
  rows : Array Row
  /-- The number of its bytes. -/
  size : Nat

namespace Page

def ofText (text : List Char) : Page := ⟨(rowsFrom 0 (lines text)).toArray, byteLength text⟩

/-- The trimmed text of the line with the given number; without such a line, the end of the text. -/
def span (page : Page) (number : Nat) : Span :=
  match (if number = 0 then none else page.rows[number - 1]?) with
  | some row => Span.ofLineText row.offset row.text
  | none => ⟨page.size, 0⟩

/-- How many lines have a line feed at their end: all, or all but the last. -/
def ended (page : Page) : Nat :=
  if page.rows.back?.any (·.text.getLast? == some '\n') then page.rows.size else page.rows.size - 1

/-- The place of the line with the given number, which is not behind the last line that ended. -/
def focus (page : Page) (number : Nat) : Nat :=
  if number = 0 then page.ended else min (number - 1) page.ended

/-- How many lines are shown behind that one: one, or two if it is the first and holds nothing. -/
def tail (page : Page) (focus : Nat) : Nat :=
  if focus = 0 && page.rows[0]?.any (·.text == ['\n']) then 2 else 1

/-- The place of the first line that is shown for a number. -/
def start (page : Page) (number : Nat) : Nat := page.focus number - 1

/-- The lines that are shown for a number: its own, the one before and what comes behind. -/
def around (page : Page) (number : Nat) : List Row :=
  let focus := page.focus number
  (page.rows.extract (page.start number) (focus + page.tail focus + 1)).toList

end Page

/-- The trimmed text of a line of a text. -/
def Span.ofLine (text : List Char) (number : Nat) : Span := (Page.ofText text).span number

/-- A line without its terminator. -/
def chomp (line : List Char) : List Char :=
  if line.getLast? = some '\n' then
    let line := line.dropLast
    if line.getLast? = some '\r' then line.dropLast else line
  else line

/-- The mark under a line that starts at `offset` and holds the span; columns count from one. -/
def markLine (span : Span) (rule : String) (offset number : Nat) (line : List Char) : String :=
  let first := span.offset - offset + 1
  let last := if span.length = 0 then first else span.stop - offset
  if offset ≤ span.offset && span.stop ≤ offset + byteLength line then
    "    label at line " ++ toString number
      ++ (if first = last then ", column " ++ toString first
        else ", columns " ++ toString first ++ " to " ++ toString last)
      ++ ": " ++ rule ++ "\n"
  else ""

/-- Lines, the first with the given number, and the mark of a span. -/
def renderRows (span : Span) (rule : String) (number : Nat) (rows : List Row) : String :=
  String.join <| (rows.zipIdx number).map fun (row, number) =>
    "snippet line " ++ toString number ++ ": " ++ String.ofList (chomp row.text) ++ "\n"
      ++ markLine span rule row.offset number (chomp row.text)

/-- A finding with the lines around it. -/
def Diagnostic.excerpt (d : Diagnostic) (path : String) (page : Page) : String :=
  let first := page.start d.line + 1
  d.message ++ "\n    Diagnostic severity: " ++ d.severity.grade.toLower
    ++ "\nBegin snippet for " ++ path ++ " starting at line " ++ toString first
    ++ ", column 1\n\n"
    ++ renderRows (page.span d.line) d.rule first (page.around d.line)
    ++ (match d.suggestion with
      | none => ""
      | some text => "diagnostic help: " ++ text ++ "\n")
    ++ "diagnostic code: " ++ d.id ++ "\n"

end BasicLint
