import BasicLint.Text.Blank

/-!
# Lines

A text is cut after every line feed, and each line keeps its terminator. Lines are numbered from one.
-/
namespace BasicLint.Text

/-- Puts a character in front of the lines that follow it. -/
def extendLines (c : Char) (rest : List (List Char)) : List (List Char) :=
  if c = '\n' then [c] :: rest
  else match rest with
    | [] => [[c]]
    | line :: rest => (c :: line) :: rest

def lines (s : List Char) : List (List Char) := s.foldr extendLines []

@[simp] theorem lines_nil : lines [] = [] := rfl

@[simp] theorem lines_cons (c : Char) (s : List Char) : lines (c :: s) = extendLines c (lines s) :=
  rfl

@[simp] theorem flatten_extendLines (c : Char) (rest : List (List Char)) :
    (extendLines c rest).flatten = c :: rest.flatten := by
  unfold extendLines
  split
  · simp
  · cases rest <;> simp

/-- Cutting a text into lines loses nothing. -/
theorem flatten_lines (s : List Char) : (lines s).flatten = s := by
  induction s with
  | nil => rfl
  | cons c s ih => simp [ih]

/-- The number of a line after a character has been read on line `line`. -/
def nextLine (c : Char) (line : Nat) : Nat := if c = '\n' then line + 1 else line

/-- The line on which the byte `offset` of a text that starts on line `line` lies. -/
def lineFrom (line : Nat) : List Char → Nat → Nat
  | [], _ => line
  | _ :: _, 0 => line
  | c :: s, offset + 1 => lineFrom (nextLine c line) s (offset + 1 - c.utf8Size)

/-- The line of a byte offset: one more than the line feeds before it. -/
def lineAt (s : List Char) (offset : Nat) : Nat := lineFrom 1 s offset

/-- The line with the given number, if there is one. -/
def line? (s : List Char) (number : Nat) : Option (List Char) :=
  if number = 0 then none else (lines s)[number - 1]?

/-- The trimmed text of a line; nothing where there is no such line. -/
def snippet (s : List Char) (number : Nat) : List Char := trim ((line? s number).getD [])

/-- The number of bytes of a text. -/
def byteLength (s : List Char) : Nat := s.foldr (fun c n => c.utf8Size + n) 0

@[simp] theorem byteLength_nil : byteLength [] = 0 := rfl

@[simp] theorem byteLength_cons (c : Char) (s : List Char) :
    byteLength (c :: s) = c.utf8Size + byteLength s := rfl

@[simp] theorem byteLength_append (s t : List Char) :
    byteLength (s ++ t) = byteLength s + byteLength t := by
  induction s with
  | nil => simp
  | cons c s ih => simp only [List.cons_append, byteLength_cons, ih]; omega

example : lines "a\n\nb".toList = ["a\n".toList, "\n".toList, "b".toList] := by decide
example : lineAt "a\nb".toList 1 = 1 ∧ lineAt "a\nb".toList 2 = 2 := by decide
example : snippet " a \n b\r\n".toList 2 = ['b'] := by decide

end BasicLint.Text
