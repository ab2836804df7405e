import BasicLint.Source
import BasicLint.Text.Scan

/-!
# Raw file access

Opening, reading or writing an `F.` file by a statement of the language, past the framework.
-/
namespace BasicLint.RawFileAccess

open Text

def name : String := "raw-file-io"

/-- The characters of a record variable. -/
def isRecordChar (c : Char) : Bool := isWord c || c == '.'

/-- `OPEN` and a quoted file name. -/
def opening (s : Cursor) : Option Cursor := do
  let s ← s.after? "OPEN".toList
  let s ← s.blanks?
  let s ← s.one? fun c => c == '\'' || c == '"'
  s.after? "F.".toList

/-- A verb, a record, a preposition and a file name. -/
def transfer (verb preposition : List Char) (s : Cursor) : Option Cursor := do
  let s ← s.after? verb
  let s ← s.blanks?
  let (_, s) ← s.run? isRecordChar
  let s ← s.blanks?
  let s ← s.after? preposition
  let s ← s.blanks?
  s.after? "F.".toList

def statement : Recognizer Unit := fun _ s =>
  (opening s <|> transfer "READ".toList "FROM".toList s
    <|> transfer "WRITE".toList "TO".toList s).map fun s => ((), s)

def check (source : Source) : List Diagnostic :=
  (scan statement 1 source.text).map fun hit =>
    source.diagnostic "A004" name .error hit.line
      "Using raw jBC file I/O instead of T24 framework APIs"
      (some "Use framework services (EB.API, DAS layer) instead")

end BasicLint.RawFileAccess
