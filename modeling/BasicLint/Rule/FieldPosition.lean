import BasicLint.Source
import BasicLint.Text.Scan

/-!
# Field positions

A literal position in a field access such as `R<15>` is tolerated up to a limit.
-/
namespace BasicLint.FieldPosition

open Text

def name : String := "hardcoded-position"

def defaultLimit : Nat := 10

structure Access where
  record : List Char
  digits : List Char
  deriving DecidableEq, Repr

/-- A word and a literal position in angle brackets. -/
def positioned? (s : Cursor) : Option (Access × Cursor) := do
  let (record, s) ← s.run? isWord
  let s ← s.skipBlanks.after? ['<']
  let (digits, s) ← s.skipBlanks.run? isDecimal
  let s ← s.skipBlanks.after? ['>']
  some (⟨record, digits⟩, s)

/-- An access, from the start of its word on. -/
def access : Recognizer Access := fun before s => do
  guard (wordEdge before)
  positioned? s

/-- The number that ASCII digits write. -/
def value (digits : List Char) : Nat :=
  digits.foldl (fun n c => 10 * n + (c.toNat - '0'.toNat)) 0

/-- Positions are counted in words of 64 bits. -/
def wordSize : Nat := 0x10000000000000000

/-- Whether a position lies above the limit. Digits of another script, and numbers that no word
holds, always do. -/
def exceeds (digits : List Char) (limit : Nat) : Bool :=
  match digits.dropWhile (· == '0') with
  | [] => false
  | significant =>
    !significant.all Char.isDigit || wordSize ≤ value significant || limit < value significant

def message (found : Access) : String :=
  "Hard-coded field position " ++ String.ofList found.digits ++ " in '"
    ++ String.ofList found.record ++ "<" ++ String.ofList found.digits ++ ">'"

def accesses (text : List Char) : List (Hit Access) := scan access 1 text

def check (limit : Nat) (source : Source) : List Diagnostic :=
  ((accesses source.text).filter (exceeds ·.value.digits limit)).map fun hit =>
    source.diagnostic "A001" name .error hit.line (message hit.value)
      (some "Use field equates instead of position numbers")

example : exceeds "0011".toList 10 = true ∧ exceeds "010".toList 10 = false := by decide

end BasicLint.FieldPosition
