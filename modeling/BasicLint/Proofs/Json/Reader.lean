import BasicLint.Json
import BasicLint.Text.Cursor
import BasicLint.Toml.Scalar

/-!
# Reading JSON texts

A reader of the grammar of JSON: what value a text stands for. Blanks may stand between any two
parts of a text, and nothing but blanks around the value.
-/
namespace BasicLint.Json

open Toml (Reader)

/-- The characters that may stand between the parts of a text. -/
def isSpace (c : Char) : Bool := c == ' ' || c == '\n' || c == '\r' || c == '\t'

def skipSpaces (s : List Char) : List Char := s.dropWhile isSpace

/-- Puts something in front of what a reader gives. -/
def prepend {α : Type} (x : α) (result : List α × List Char) : List α × List Char :=
  (x :: result.1, result.2)

/-! ## Strings -/

/-- The character that is written behind a backslash. -/
def escaped? (c : Char) : Option Char := if c = '/' then some '/' else Toml.escape? c

/-- A number in digits of base sixteen. -/
def hex? (digits : List Char) : Option Nat :=
  if digits.all Toml.isHex then some (Toml.number 16 digits) else none

/-- The codes of a string behind its opening quote: those of its characters, and those that four
digits give. -/
def codes : Reader (List Nat)
  | [] => none
  | '"' :: s => some ([], s)
  | '\\' :: 'u' :: a :: b :: c :: d :: s =>
    (hex? [a, b, c, d]).bind fun n => (codes s).map (prepend n)
  | '\\' :: c :: s => (escaped? c).bind fun c => (codes s).map (prepend c.toNat)
  | c :: s => if 0x20 ≤ c.toNat && c != '\\' then (codes s).map (prepend c.toNat) else none

/-- The character of a code, which may be no surrogate. -/
def character? (n : Nat) : Option Char := if n.isValidChar then some (Char.ofNat n) else none

/-- The characters of a list of codes, in which two surrogates stand for one character. -/
def characters? : List Nat → Option (List Char)
  | [] => some []
  | [n] => (character? n).map ([·])
  | high :: low :: ns =>
    if 0xD800 ≤ high ∧ high < 0xDC00 ∧ 0xDC00 ≤ low ∧ low < 0xE000 then
      (characters? ns).map (Char.ofNat (0x10000 + 0x400 * (high - 0xD800) + (low - 0xDC00)) :: ·)
    else (character? high).bind fun c => (characters? (low :: ns)).map (c :: ·)

def string : Reader String
  | '"' :: s => do
    let (ns, s) ← codes s
    some (String.ofList (← characters? ns), s)
  | _ => none

/-! ## Numbers -/

def digits? (s : List Char) : Option (List Char × List Char) :=
  if (s.takeWhile Char.isDigit).isEmpty then none
  else some (s.takeWhile Char.isDigit, s.dropWhile Char.isDigit)

/-- Digits without a leading zero. -/
def plainDigits? : Reader (List Char)
  | '0' :: s => some (['0'], s)
  | s => digits? s

/-- The text behind a fraction, if there is one. -/
def skipFraction? : List Char → Option (List Char)
  | '.' :: s => (digits? s).map (·.2)
  | s => some s

/-- The text behind a power of ten, if there is one. -/
def skipPower? : List Char → Option (List Char)
  | [] => some []
  | c :: s => if c = 'e' ∨ c = 'E' then (digits? (Toml.sign s).2).map (·.2) else some (c :: s)

/-- A number without a sign. One with a fraction or a power of ten is no integer. -/
def natural? (s : List Char) : Option (Option Nat × List Char) := do
  let (digits, t) ← plainDigits? s
  let rest ← skipPower? (← skipFraction? t)
  some (if rest = t then some (Nat.ofDigitChars 10 digits 0) else none, rest)

/-- The value of a number without a sign. -/
def ofNatural : Option Nat → Json
  | some n => .int n
  | none => .real

/-- The value of a number behind a minus sign. Minus zero is no integer. -/
def negated : Option Nat → Json
  | some (n + 1) => .int (.negSucc n)
  | _ => .real

def number : Reader Json
  | '-' :: s => (natural? s).map (Prod.map negated id)
  | s => (natural? s).map (Prod.map ofNatural id)

/-! ## Values -/

/-- A value written as a word. -/
def constant (word : String) (json : Json) (s : List Char) : Option (Json × List Char) :=
  (Text.after? word.toList s).map fun s => (json, s)

/-- A value without brackets. -/
def scalar (s : List Char) : Option (Json × List Char) :=
  (string s).map (fun (text, s) => (.str text, s)) <|> constant "null" .null s
    <|> constant "true" (.bool true) s <|> constant "false" (.bool false) s <|> number s

/-- Items with commas between them, up to the closing bracket; `fuel` bounds their number. -/
def listed {α : Type} (item : Reader α) (close : Char) : (fuel : Nat) → Reader (List α)
  | 0, _ => none
  | fuel + 1, s => do
    let (x, s) ← item (skipSpaces s)
    match skipSpaces s with
    | ',' :: s => (listed item close fuel s).map (prepend x)
    | c :: s => if c = close then some ([x], s) else none
    | [] => none

/-- What stands behind an opening bracket, which may be nothing. -/
def enclosed {α : Type} (item : Reader α) (close : Char) (s : List Char) :
    Option (List α × List Char) :=
  match skipSpaces s with
  | [] => none
  | c :: t => if c = close then some ([], t) else listed item close s.length (c :: t)

def field (value : Reader Json) (s : List Char) : Option ((String × Json) × List Char) := do
  let (key, s) ← string s
  let s ← Toml.expect ':' (skipSpaces s)
  let (value, s) ← value (skipSpaces s)
  some ((key, value), s)

/-- A value in which brackets nest at most `depth` deep. -/
def value : (depth : Nat) → Reader Json
  | 0, s => scalar s
  | depth + 1, s =>
    match s with
    | '[' :: s => (enclosed (value depth) ']' s).map fun (items, s) => (.array items, s)
    | '{' :: s => (enclosed (field (value depth)) '}' s).map fun (fields, s) => (.object fields, s)
    | s => scalar s

/-- How deep values in brackets may nest. -/
def nestingLimit : Nat := 127

/-- The value of a whole text. -/
def read? (s : List Char) : Option Json := do
  let (json, s) ← value nestingLimit (skipSpaces s)
  if (skipSpaces s).isEmpty then some json else none

example : read? "[1, -0,\t\"\\ud83d\\ude00\\/\" ]\n".toList =
    some (.array [.int 1, .real, .str (String.ofList [Char.ofNat 0x1F600, '/'])]) := by rfl
example : (read? "[1,]".toList).isNone = true := by rfl

end BasicLint.Json
