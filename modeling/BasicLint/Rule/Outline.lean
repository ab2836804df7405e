import BasicLint.Rule.Declaration
import BasicLint.Source

/-!
# The outline of a file

A source declares a subroutine or a function and holds a line with nothing but `END`. A subroutine
is expected to be divided into sections: it jumps to one, or labels one.
-/
namespace BasicLint.Outline

open Text

def name : String := "structure"

/-- `GOSUB` as the first word from the start of a line on. Lines above it may be blank. -/
def jump : Recognizer Unit := indented isBlank (Cursor.keyword? "GOSUB".toList)

/-- The characters of a label after its first letter. -/
def isLabelChar (c : Char) : Bool := c.isUpper || c.isDigit || c == '.' || c == '_'

/-- The end of a line, or of the text. -/
def lineEnd? (s : Cursor) : Option Cursor := if s.head?.all (· == '\n') then some s else none

/-- The end of a line behind blanks, and of several such lines the last one. -/
def endOfLine? (s : Cursor) : Option Cursor := s.behindBlanks? lineEnd?

/-- `END` and nothing else up to the end of its line. -/
def closed? (s : Cursor) : Option (Unit × Cursor) := do
  let s ← s.after? "END".toList
  let s ← endOfLine? s
  some ((), s)

/-- A line that holds a label and nothing else. -/
def label : Recognizer Unit := fun before s => do
  guard (lineEdge before)
  guard (s.head?.any Char.isUpper)
  let s ← (s.skip isLabelChar).after? [':']
  let s ← endOfLine? s
  some ((), s)

/-- A line that holds `END` and nothing else, or blank lines and such a line. -/
def closing : Recognizer Unit := indented isBlank closed?

/-- Whether the text is divided into sections. -/
def isSectioned (text : List Char) : Bool := occurs jump text || occurs label text

/-- The hint for a subroutine on `line` that has no sections. -/
def unsectioned (source : Source) (line : Nat) : List Diagnostic :=
  if source.strict && !isSectioned source.text then
    [source.diagnostic "S002" name .info line
      "SUBROUTINE should use GOSUB sections for code organization"
      (some "Consider organizing code with labeled sections and GOSUB calls")]
  else []

/-- The finding that no line closes the source. -/
def unclosed (source : Source) : List Diagnostic :=
  if occurs closing source.text then []
  else [source.diagnostic "S003" name .error (max source.lineCount 1)
    "Code must end with END statement"]

def check (source : Source) : List Diagnostic :=
  match Callable.line? .subroutine source.text, Callable.line? .function source.text with
  | none, none =>
    [source.diagnostic "S001" name .error 1 "File must define either SUBROUTINE or FUNCTION"]
  | some line, _ => unsectioned source line ++ unclosed source
  | none, some _ => unclosed source

example : occurs label "A.1:  \nX".toList = true := by decide
example : occurs closing " END;".toList = false := by decide
example : (closing none ⟨0, "\n \n END \n\nX".toList⟩).map (·.2.passed) = some 9 := by decide

end BasicLint.Outline
