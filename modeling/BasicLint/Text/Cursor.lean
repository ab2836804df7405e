import BasicLint.Text.Blank

/-!
# Cursors

A cursor is a place in a text that knows how many characters it has passed.
-/
namespace BasicLint.Text

/-- The text behind a literal it starts with. -/
def after? : (literal : List Char) → List Char → Option (List Char)
  | [], s => some s
  | _ :: _, [] => none
  | l :: literal, c :: s => if l = c then after? literal s else none

@[simp] theorem after?_append (literal s : List Char) : after? literal (literal ++ s) = some s := by
  induction literal with
  | nil => rfl
  | cons c literal ih => simp [after?, ih]

theorem after?_eq_some_iff {literal s rest : List Char} :
    after? literal s = some rest ↔ s = literal ++ rest := by
  induction literal generalizing s with
  | nil => simp [after?, eq_comm]
  | cons l literal ih =>
    cases s with
    | nil => simp [after?]
    | cons c s =>
      by_cases h : l = c
      · simp [after?, h, ih]
      · simp [after?, h, Ne.symm h]

/-- A place in a text. -/
structure Cursor where
  /-- How many characters have been passed. -/
  passed : Nat := 0
  /-- The text from here on. -/
  rest : List Char
  deriving DecidableEq, Repr

namespace Cursor

/-- The character at a cursor. -/
def head? (s : Cursor) : Option Char := s.rest.head?

/-- Passes one character of a class. -/
def one? (p : Char → Bool) (s : Cursor) : Option Cursor :=
  match s.rest with
  | [] => none
  | c :: rest => if p c then some ⟨s.passed + 1, rest⟩ else none

/-- Passes a literal. -/
def after? (literal : List Char) (s : Cursor) : Option Cursor :=
  (Text.after? literal s.rest).map fun rest => ⟨s.passed + literal.length, rest⟩

/-- Passes all characters of a class, up to the first other one. -/
@[specialize] def skip (p : Char → Bool) (s : Cursor) : Cursor := go s.passed s.rest
where
  go : Nat → List Char → Cursor
    | passed, [] => ⟨passed, []⟩
    | passed, c :: rest => if p c then go (passed + 1) rest else ⟨passed, c :: rest⟩

/-- Passes blanks, if there are any. -/
def skipBlanks (s : Cursor) : Cursor := s.skip isBlank

/-- Passes blanks, of which there has to be one. -/
def blanks? (s : Cursor) : Option Cursor := (s.one? isBlank).map skipBlanks

/-- Passes a word and the blanks that set it off from what follows. -/
def keyword? (word : List Char) (s : Cursor) : Option (Unit × Cursor) := do
  let s ← s.after? word
  let s ← s.blanks?
  some ((), s)

/-- What `p` finds behind blanks. All blanks are passed first; they are given back one after another
as long as `p` finds nothing. -/
@[specialize] def behindBlanks? {α : Type} (p : Cursor → Option α) (s : Cursor) : Option α :=
  go s.passed s.rest
where
  go : Nat → List Char → Option α
    | passed, [] => p ⟨passed, []⟩
    | passed, c :: rest =>
      if isBlank c then go (passed + 1) rest <|> p ⟨passed, c :: rest⟩ else p ⟨passed, c :: rest⟩

/-- Passes the longest run of characters of a class, which may not be empty. -/
@[specialize] def run? (p : Char → Bool) (s : Cursor) : Option (List Char × Cursor) :=
  let run := s.rest.takeWhile p
  if run.isEmpty then none else some (run, s.skip p)

theorem go_eq (p : Char → Bool) (passed : Nat) (rest : List Char) :
    skip.go p passed rest = ⟨passed + (rest.takeWhile p).length, rest.dropWhile p⟩ := by
  induction rest generalizing passed with
  | nil => rfl
  | cons c rest ih =>
    by_cases h : p c = true
    · simp only [skip.go, h, ih, List.takeWhile_cons, List.dropWhile_cons, ↓reduceIte,
        List.length_cons, Cursor.mk.injEq, and_true]
      omega
    · simp [skip.go, h]

@[simp] theorem rest_skip (p : Char → Bool) (s : Cursor) :
    (s.skip p).rest = s.rest.dropWhile p := by
  simp [skip, go_eq]

@[simp] theorem passed_skip (p : Char → Bool) (s : Cursor) :
    (s.skip p).passed = s.passed + (s.rest.takeWhile p).length := by
  simp [skip, go_eq]

end Cursor

end BasicLint.Text
