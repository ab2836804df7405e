import BasicLint.Text.Cursor
import BasicLint.Text.Lines
import BasicLint.Text.Word

/-!
# Scanning

A recogniser looks at a text from one position on, knowing the character before it, and answers with
what it found and the place behind it. A scan tries every position from left to right, the end of
the text too, and goes on behind each hit, so hits never overlap.
-/
namespace BasicLint.Text

/-- Given the character before a position and a cursor there, what begins there and the cursor behind
it. -/
abbrev Recognizer (α : Type) := Option Char → Cursor → Option (α × Cursor)

/-- Something found on a line, with the text that follows it. -/
structure Hit (α : Type) where
  line : Nat
  value : α
  rest : List Char

/-- The hits of a text that starts on `line` behind `before`, once `skip` characters are passed. -/
@[specialize] def scanFrom {α : Type} (p : Recognizer α) :
    (before : Option Char) → (line skip : Nat) → List Char → List (Hit α)
  | _, _, _ + 1, [] => []
  | before, line, 0, [] =>
    match p before ⟨0, []⟩ with
    | none => []
    | some (value, found) => [⟨line, value, found.rest⟩]
  | _, line, skip + 1, c :: s => scanFrom p (some c) (nextLine c line) skip s
  | before, line, 0, here@(c :: s) =>
    match p before ⟨0, here⟩ with
    | none => scanFrom p (some c) (nextLine c line) 0 s
    | some (value, found) =>
      ⟨line, value, found.rest⟩ :: scanFrom p (some c) (nextLine c line) (found.passed - 1) s

/-- The hits of a whole text that starts on `line`. -/
@[inline] def scan {α : Type} (p : Recognizer α) (line : Nat) (s : List Char) : List (Hit α) :=
  scanFrom p none line 0 s

/-- The first hit of a text that starts on `line` behind `before`. -/
@[specialize] def firstFrom? {α : Type} (p : Recognizer α) :
    (before : Option Char) → (line : Nat) → List Char → Option (Hit α)
  | before, line, [] =>
    match p before ⟨0, []⟩ with
    | none => none
    | some (value, found) => some ⟨line, value, found.rest⟩
  | before, line, here@(c :: s) =>
    match p before ⟨0, here⟩ with
    | none => firstFrom? p (some c) (nextLine c line) s
    | some (value, found) => some ⟨line, value, found.rest⟩

/-- The first hit of a whole text that starts on `line`. -/
@[inline] def first? {α : Type} (p : Recognizer α) (line : Nat) (s : List Char) : Option (Hit α) :=
  firstFrom? p none line s

/-- Whether something is recognised at some position behind `before`. -/
@[specialize] def occursFrom {α : Type} (p : Recognizer α) :
    (before : Option Char) → List Char → Bool
  | before, [] => (p before ⟨0, []⟩).isSome
  | before, here@(c :: s) => (p before ⟨0, here⟩).isSome || occursFrom p (some c) s

/-- Whether something is recognised anywhere in a text. -/
@[inline] def occurs {α : Type} (p : Recognizer α) (s : List Char) : Bool := occursFrom p none s

/-- Recognises only what starts with the given character. -/
@[inline] def startingWith {α : Type} (first : Char) (p : Recognizer α) : Recognizer α :=
  fun before s =>
    match s.rest with
    | [] => none
    | c :: _ => if c = first then p before s else none

/-- A line begins here. -/
def lineEdge (before : Option Char) : Bool := before.all (· == '\n')

@[simp] theorem lineEdge_none : lineEdge none = true := rfl

@[simp] theorem lineEdge_some (c : Char) : lineEdge (some c) = (c == '\n') := rfl

/-- Recognises what stands at the start of a line, behind all characters of a class. -/
@[inline] def indented {α : Type} (space : Char → Bool) (p : Cursor → Option (α × Cursor)) :
    Recognizer α := fun before s => do
  guard (lineEdge before)
  p (s.skip space)

/-- The first hit of a scan needs no scan of the text behind it. -/
theorem firstFrom?_eq {α : Type} (p : Recognizer α) (before : Option Char) (line : Nat)
    (s : List Char) : firstFrom? p before line s = (scanFrom p before line 0 s).head? := by
  induction s generalizing before line with
  | nil =>
    simp only [firstFrom?, scanFrom]
    split <;> rfl
  | cons c s ih =>
    simp only [firstFrom?, scanFrom]
    split
    · exact ih _ _
    · rfl

theorem first?_eq {α : Type} (p : Recognizer α) (line : Nat) (s : List Char) :
    first? p line s = (scan p line s).head? := firstFrom?_eq p none line s

end BasicLint.Text
