/-!
# Blank characters

The White_Space characters, and trimming. A line feed is blank, but it is not blank *within* a line.
-/
namespace BasicLint.Text

/-- Whether a code point lies in one of the closed ranges of a table in increasing order. The search
ends at the first range that starts behind it. -/
def inRanges : (table : List (Nat × Nat)) → Char → Bool
  | [], _ => false
  | (low, high) :: table, c => low ≤ c.toNat && (c.toNat ≤ high || inRanges table c)

/-- The ranges of the White_Space property. -/
def blankRanges : List (Nat × Nat) :=
  [(0x09, 0x0D), (0x20, 0x20), (0x85, 0x85), (0xA0, 0xA0), (0x1680, 0x1680), (0x2000, 0x200A),
    (0x2028, 0x2029), (0x202F, 0x202F), (0x205F, 0x205F), (0x3000, 0x3000)]

def isBlank (c : Char) : Bool := inRanges blankRanges c

/-- Blank, and not the end of a line. -/
def isInlineBlank (c : Char) : Bool := isBlank c && c != '\n'

def trimStart (s : List Char) : List Char := s.dropWhile isBlank

def trimEnd (s : List Char) : List Char := (s.reverse.dropWhile isBlank).reverse

def trim (s : List Char) : List Char := trimEnd (trimStart s)

@[simp] theorem isBlank_newline : isBlank '\n' = true := by decide

@[simp] theorem isInlineBlank_newline : isInlineBlank '\n' = false := by decide

theorem isInlineBlank_of_ne {c : Char} (h : c ≠ '\n') : isInlineBlank c = isBlank c := by
  simp [isInlineBlank, h]

@[simp] theorem trim_nil : trim [] = [] := rfl

example : trim " \t A B \r\n".toList = "A B".toList := by decide
example : isBlank (Char.ofNat 0x200B) = false := by decide

end BasicLint.Text
