import BasicLint.Source

/-!
# Nesting

The depth of a text is the highest value of a counter that goes up at an opening bracket and down at
a closing one, but never below zero.
-/
namespace BasicLint.Nesting

def name : String := "nesting-depth"

def defaultLimit : Nat := 3

/-- Which brackets close. -/
inductive Mode where
  /-- Both parentheses and braces. -/
  | balanced
  /-- Braces only, so that every opening parenthesis counts for good. -/
  | legacy
  deriving DecidableEq, Repr

namespace Mode

def ofName? (name : String) : Option Mode :=
  if name.toLower = "balanced" then some balanced
  else if name.toLower = "legacy" then some legacy
  else none

def closes : Mode → Char → Bool
  | balanced, c => c == '}' || c == ')'
  | legacy, c => c == '}'

end Mode

def opens (c : Char) : Bool := c == '(' || c == '{'

/-- The counter, with its highest value so far. -/
structure Level where
  depth : Nat := 0
  deepest : Nat := 0
  deriving DecidableEq, Repr

def Level.step (mode : Mode) (level : Level) (c : Char) : Level :=
  if opens c then ⟨level.depth + 1, max level.deepest (level.depth + 1)⟩
  else if mode.closes c then { level with depth := level.depth - 1 }
  else level

/-- The greatest depth that a text reaches. -/
def depth (mode : Mode) (text : List Char) : Nat := (text.foldl (Level.step mode) {}).deepest

def message (depth limit : Nat) : String :=
  "Code has nesting depth of " ++ toString depth ++ " (should be max " ++ toString limit ++ ")"

def check (limit : Nat) (mode : Mode) (source : Source) : List Diagnostic :=
  if depth mode source.text ≤ limit then []
  else [source.diagnostic "A006" name .info 1 (message (depth mode source.text) limit)
    (some "Consider using early returns to reduce nesting")]

example : depth .balanced "a(b(c)) {d}".toList = 2 := by decide
example : depth .legacy "(a) (b)".toList = 2 := by decide

end BasicLint.Nesting
