import BasicLint.Text.Scan

/-!
# Declarations

A source declares a callable by a keyword that opens a line, behind indentation only.
-/
namespace BasicLint

open Text

inductive Callable where
  | subroutine
  | function
  deriving DecidableEq, Repr

namespace Callable

def keyword : Callable → String
  | subroutine => "SUBROUTINE"
  | function => "FUNCTION"

/-- The keyword at the start of a line, set off from what it declares. -/
def declaration (callable : Callable) : Recognizer Unit :=
  indented isInlineBlank (Cursor.keyword? callable.keyword.toList)

/-- The line of the first declaration. -/
def line? (callable : Callable) (text : List Char) : Option Nat :=
  (first? callable.declaration 1 text).map (·.line)

example : line? .subroutine "\n  SUBROUTINE X".toList = some 2 := by decide
example : line? .function "FUNCTION".toList = none := by decide

end Callable

end BasicLint
