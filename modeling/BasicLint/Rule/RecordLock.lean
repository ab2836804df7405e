import BasicLint.Source
import BasicLint.Text.Scan

/-!
# Record locks

`F.READU` locks a record of its target until the target is written or released. The release is
looked for anywhere behind the read.
-/
namespace BasicLint.RecordLock

open Text

def name : String := "unreleased-lock"

/-- The characters of an argument on one line. -/
def isArgumentChar (c : Char) : Bool := c != ',' && c != ')' && c != '\n'

/-- An argument with another one behind it, without the blanks around it. -/
def argument? (s : Cursor) : Option (List Char × Cursor) := do
  let (argument, s) ← s.run? isArgumentChar
  let s ← s.after? [',']
  some (trim argument, s)

/-- A locking read with more than one argument, and its first argument. If only blanks stand there,
the last of them is the argument. -/
def lock : Recognizer (List Char) := fun _ s => do
  let s ← s.after? "F.READU".toList
  let s ← s.skipBlanks.after? ['(']
  s.behindBlanks? argument?

/-- A write or a release of the target. -/
@[inline] def release (target : List Char) : Recognizer Unit := startingWith 'F' fun _ s => do
  let s ← s.after? "F.".toList
  let s ← s.after? "WRITE".toList <|> s.after? "RELEASE".toList
  let s ← s.skipBlanks.after? ['(']
  let s ← s.skipBlanks.after? target
  let s ← s.skipBlanks.one? fun c => c == ',' || c == ')'
  some ((), s)

def message (target : List Char) : String :=
  "F.READU lock on '" ++ String.ofList target ++ "' may not be released"

def suggestion (target : List Char) : String :=
  "Ensure F.WRITE(" ++ String.ofList target ++ ", ...) or F.RELEASE(" ++ String.ofList target
    ++ ", id) is called before returning"

/-- The locks of a text. A read without a target is none. -/
def locks (text : List Char) : List (Hit (List Char)) :=
  (scan lock 1 text).filter (!·.value.isEmpty)

def check (source : Source) : List Diagnostic :=
  ((locks source.text).filter fun hit => !occurs (release hit.value) hit.rest).map fun hit =>
    source.diagnostic "A003" name .warning hit.line (message hit.value)
      (some (suggestion hit.value))

end BasicLint.RecordLock
