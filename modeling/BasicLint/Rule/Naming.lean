import BasicLint.Source
import BasicLint.Text.Scan

/-!
# Variable names

The target of an assignment is in capitals throughout or starts with one of the prefixes in use. A
name is looked for on each line by itself.
-/
namespace BasicLint.Naming

open Text

def name : String := "naming"

/-- Keywords and system variables that may stand left of an equals sign. -/
def reserved : List String := ["COMI", "ETEXT", "RETURN", "IF", "THEN", "ELSE", "END"]

def universalPrefixes : List String :=
  ["FN.", "R.", "ERR.", "MY.", "EB", "TP", "AA", "AC", "ST", "LD", "FX"]

/-- The characters of a name after its first letter. -/
def isNameChar (c : Char) : Bool := c.isAlphanum || c == '_' || c == '.'

/-- A capitalised name of two characters or more, left of an equals sign. -/
def assignment : Recognizer (List Char) := fun before s => do
  guard (wordEdge before)
  let first ← s.head?
  let s ← s.one? Char.isUpper
  let (tail, s) ← s.run? isNameChar
  let s ← s.skipBlanks.after? ['=']
  some (first :: tail, s)

def isCapitals (name : List Char) : Bool := name.any Char.isUpper && !name.any Char.isLower

def isCamelCase (name : List Char) : Bool := name.head?.any Char.isLower

def followsConvention (extraPrefixes : List String) (name : List Char) : Bool :=
  (universalPrefixes ++ extraPrefixes).any (·.toList.isPrefixOf name)
    || isCapitals name || isCamelCase name

def isAccepted (extraPrefixes : List String) (name : List Char) : Bool :=
  reserved.contains (String.ofList name) || followsConvention extraPrefixes name

def message (target : List Char) : String :=
  "Variable '" ++ String.ofList target
    ++ "' should follow universal naming: FN.*, R.*, ERR.*, MY.*, UPPERCASE, or camelCase"

/-- The names a line with the given number assigns to, in order. -/
def assigned (line : List Char) (number : Nat) : List (Hit (List Char)) :=
  scan assignment number line

def check (extraPrefixes : List String) (source : Source) : List Diagnostic :=
  if source.strict then
    (source.lines.zipIdx 1).flatMap fun (line, number) =>
      ((assigned line number).filter (!isAccepted extraPrefixes ·.value)).map fun hit =>
        source.diagnostic "N002" name .info number (message hit.value)
  else []

end BasicLint.Naming
