import BasicLint.Diagnostic
import BasicLint.Text.Lines

/-!
# Sources

What a rule gets to see: the whole text of a file with its lines, and whether the run is strict.
-/
namespace BasicLint

structure Source where
  text : List Char
  strict : Bool
  /-- The lines of the text, at hand by their place. -/
  rows : Array (List Char) := (Text.lines text).toArray
  rows_eq : rows = (Text.lines text).toArray := by rfl

namespace Source

def lines (source : Source) : List (List Char) := source.rows.toList

def lineCount (source : Source) : Nat := source.rows.size

/-- The trimmed text of a line; nothing where there is no such line. -/
def snippet (source : Source) (line : Nat) : List Char :=
  Text.trim (if line = 0 then [] else source.rows[line - 1]?.getD [])

@[simp] theorem lines_eq (source : Source) : source.lines = Text.lines source.text := by
  simp [lines, source.rows_eq]

@[simp] theorem lineCount_eq (source : Source) :
    source.lineCount = (Text.lines source.text).length := by
  simp [lineCount, source.rows_eq]

@[simp] theorem snippet_eq (source : Source) (line : Nat) :
    source.snippet line = Text.snippet source.text line := by
  unfold snippet Text.snippet Text.line?
  split <;> simp [source.rows_eq]

/-- A finding on a line, with the trimmed text of that line. -/
def diagnostic (source : Source) (id rule : String) (severity : Severity) (line : Nat)
    (message : String) (suggestion : Option String := none) : Diagnostic where
  id := id
  rule := rule
  severity := severity
  line := line
  message := message
  snippet := String.ofList (source.snippet line)
  suggestion := suggestion

end Source

end BasicLint
