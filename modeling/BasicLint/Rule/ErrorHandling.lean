import BasicLint.Source
import BasicLint.Text.Scan

/-!
# Errors of service calls

A service call at the start of a line is followed, within a few lines, by something that looks at
its outcome. The lines behind the call are searched as one text, so a signal may span them.
-/
namespace BasicLint.ErrorHandling

open Text

def name : String := "error-handling"

def defaultLookahead : Nat := 5

/-- The characters of a routine name. -/
def isRoutineChar (c : Char) : Bool := c.isAlphanum || c == '.' || c == '_'

/-- The routine behind `CALL`. -/
def called? (s : Cursor) : Option (List Char × Cursor) := do
  let s ← s.after? "CALL".toList
  let s ← s.blanks?
  guard (s.head?.any Char.isAlpha)
  s.run? isRoutineChar

/-- A framework routine, called by its name in the given namespace. -/
def framework? (space : List Char) (s : Cursor) : Option (List Char × Cursor) := do
  let s ← s.after? space
  let (routine, s) ← s.run? isRoutineChar
  some (space ++ routine, s)

/-- A service call that opens a line, up to its opening parenthesis. -/
def call : Recognizer (List Char) := indented isInlineBlank fun s => do
  let (routine, s) ← called? s <|> framework? "F.".toList s <|> framework? "ST.".toList s
  let s ← s.skipBlanks.after? ['(']
  some (routine, s)

/-- A literal that is a word of its own. -/
def wholeWord (word : List Char) : Recognizer Unit := fun before s => do
  guard (wordEdge before)
  let s ← s.after? word
  guard (wordEdge s.head?)
  some ((), s)

/-- `IF`, a word and `THEN`. -/
def condition : Recognizer Unit := fun _ s => do
  let s ← s.after? "IF".toList
  let s ← s.blanks?
  let (_, s) ← s.run? isWord
  let s ← s.blanks?
  let s ← s.after? "THEN".toList
  some ((), s)

/-- A literal anywhere. -/
def literal (text : List Char) : Recognizer Unit := fun _ s =>
  (s.after? text).map fun s => ((), s)

/-- Something that looks at the outcome of a call. -/
@[inline] def signal : Recognizer Unit := fun before s =>
  match s.rest with
  | 'E' :: _ => wholeWord "ERR".toList before s <|> wholeWord "ETEXT".toList before s
  | 'I' :: _ => condition before s
  | 'g' :: _ => literal "getEtext".toList before s
  | '.' :: _ => literal ".error".toList before s <|> literal ".returnCode".toList before s
  | _ => none

/-- The text up to the line feed that ends its `count`-th line; a count of zero is taken for one. -/
def window : (count : Nat) → List Char → List Char
  | _, [] => []
  | count, c :: s =>
    if c = '\n' then
      if count ≤ 1 then [] else c :: window (count - 1) s
    else c :: window count s

/-- Whether the outcome of a call is looked at within the given number of lines. -/
def isChecked (lookahead : Nat) (rest : List Char) : Bool := occurs signal (window lookahead rest)

def message (routine : List Char) : String :=
  "Service call to '" ++ String.ofList routine ++ "' should check for errors afterwards"

def calls (text : List Char) : List (Hit (List Char)) := scan call 1 text

def check (lookahead : Nat) (source : Source) : List Diagnostic :=
  if source.strict then
    ((calls source.text).filter (!isChecked lookahead ·.rest)).map fun hit =>
      source.diagnostic "E001" name .warning hit.line (message hit.value)
        (some "Add: IF ERR THEN ... or IF ETEXT THEN ... or check error variable")
  else []

example : window 1 "a\nb\nc".toList = ['a'] := by decide
example : window 2 "a\nb\nc".toList = "a\nb".toList := by decide
example : occurs signal "MYERR".toList = false ∧ occurs signal "X.ERR=".toList = true := by decide

end BasicLint.ErrorHandling
