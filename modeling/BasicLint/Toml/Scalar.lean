import BasicLint.Toml.Value

/-!
# Scalars of TOML

Strings, numbers and truth values, and which of them a text starts with.
-/
namespace BasicLint.Toml

/-- Space within a line. -/
def isSpace (c : Char) : Bool := c == ' ' || c == '\t'

def skipSpaces (s : List Char) : List Char := s.dropWhile isSpace

/-- A character that may stand in a comment: no control character but the tab. -/
def isPrintable (c : Char) : Bool := c == '\t' || (0x20 ≤ c.toNat && c.toNat != 0x7F)

/-- The text behind a line end. -/
def newline? : List Char → Option (List Char)
  | '\n' :: s => some s
  | '\r' :: '\n' :: s => some s
  | _ => none

/-! ## Strings -/

def hexValue (c : Char) : Nat :=
  if c.isDigit then c.toNat - '0'.toNat else c.toLower.toNat - 'a'.toNat + 10

def isHex (c : Char) : Bool := c.isDigit || ('a' ≤ c.toLower && c.toLower ≤ 'f')

/-- The character with a code point in hexadecimal. -/
def scalar? (digits : List Char) : Option Char :=
  let n := digits.foldl (fun n c => 16 * n + hexValue c) 0
  if digits.all isHex && (n < 0xD800 || (0xE000 ≤ n && n ≤ 0x10FFFF)) then some (Char.ofNat n)
  else none

def escape? : Char → Option Char
  | 'b' => some '\x08'
  | 't' => some '\t'
  | 'n' => some '\n'
  | 'f' => some '\x0C'
  | 'r' => some '\r'
  | '"' => some '"'
  | '\\' => some '\\'
  | _ => none

/-- Puts a character in front of what a reader gives. -/
def push (c : Char) (result : Option (List Char × List Char)) : Option (List Char × List Char) :=
  result.map fun (text, rest) => (c :: text, rest)

/-- A basic string behind its opening quote. -/
def basic : Reader (List Char)
  | [] => none
  | '"' :: s => some ([], s)
  | '\\' :: 'u' :: a :: b :: c :: d :: s =>
    (scalar? [a, b, c, d]).bind fun x => push x (basic s)
  | '\\' :: 'U' :: a :: b :: c :: d :: e :: f :: g :: h :: s =>
    (scalar? [a, b, c, d, e, f, g, h]).bind fun x => push x (basic s)
  | '\\' :: e :: s => (escape? e).bind fun x => push x (basic s)
  | c :: s => if isPrintable c && c != '\\' then push c (basic s) else none

/-- A basic string over several lines, behind its opening quotes. While `trimming`, blanks and line
ends behind a backslash at the end of a line are dropped. -/
def multiline : (trimming : Bool) → Reader (List Char)
  | _, [] => none
  | true, '\r' :: '\n' :: s => multiline true s
  | false, '\r' :: '\n' :: s => push '\n' (multiline false s)
  | _, '"' :: '"' :: '"' :: '"' :: '"' :: s => some (['"', '"'], s)
  | _, '"' :: '"' :: '"' :: '"' :: s => some (['"'], s)
  | _, '"' :: '"' :: '"' :: s => some ([], s)
  | _, '\\' :: 'u' :: a :: b :: c :: d :: s =>
    (scalar? [a, b, c, d]).bind fun x => push x (multiline false s)
  | _, '\\' :: 'U' :: a :: b :: c :: d :: e :: f :: g :: h :: s =>
    (scalar? [a, b, c, d, e, f, g, h]).bind fun x => push x (multiline false s)
  | _, '\\' :: e :: s =>
    match escape? e with
    | some x => push x (multiline false s)
    | none =>
      if (newline? (skipSpaces (e :: s))).isSome then multiline true s else none
  | trimming, c :: s =>
    if trimming && (isSpace c || c == '\n') then multiline true s
    else if (isPrintable c || c == '\n') && c != '\\' then push c (multiline false s)
    else none

/-- A literal string behind its opening quote. -/
def literal (s : List Char) : Option (List Char × List Char) :=
  match s.dropWhile fun c => isPrintable c && c != '\'' with
  | '\'' :: rest => some (s.takeWhile fun c => isPrintable c && c != '\'', rest)
  | _ => none

/-- A literal string over several lines, behind its opening quotes. -/
def multilineLiteral : Reader (List Char)
  | [] => none
  | '\r' :: '\n' :: s => push '\n' (multilineLiteral s)
  | '\'' :: '\'' :: '\'' :: '\'' :: '\'' :: s => some (['\'', '\''], s)
  | '\'' :: '\'' :: '\'' :: '\'' :: s => some (['\''], s)
  | '\'' :: '\'' :: '\'' :: s => some ([], s)
  | c :: s => if isPrintable c || c == '\n' then push c (multilineLiteral s) else none

/-- A line end right behind opening quotes is no part of the string. -/
def dropNewline (s : List Char) : List Char := (newline? s).getD s

def string : Reader (List Char)
  | '"' :: '"' :: '"' :: s => multiline false (dropNewline s)
  | '"' :: s => basic s
  | '\'' :: '\'' :: '\'' :: s => multilineLiteral (dropNewline s)
  | '\'' :: s => literal s
  | _ => none

/-! ## Numbers -/

/-- Digits, each of which may have one underscore in front. -/
def moreDigits (p : Char → Bool) : List Char → List Char × List Char
  | [] => ([], [])
  | '_' :: c :: s =>
    if p c then
      let (digits, rest) := moreDigits p s
      (c :: digits, rest)
    else ([], '_' :: c :: s)
  | c :: s =>
    if p c then
      let (digits, rest) := moreDigits p s
      (c :: digits, rest)
    else ([], c :: s)

/-- A digit and those that follow it. -/
def digits? (p : Char → Bool) : Reader (List Char)
  | [] => none
  | c :: s => if p c then let (digits, rest) := moreDigits p s; some (c :: digits, rest) else none

/-- Digits without a leading zero. -/
def plainDigits? : Reader (List Char)
  | '0' :: s => some (['0'], s)
  | s => digits? Char.isDigit s

def number (base : Nat) (digits : List Char) : Nat :=
  digits.foldl (fun n c => base * n + hexValue c) 0

/-- Whether a number is negative, and the text behind its sign. -/
def sign : List Char → Bool × List Char
  | '-' :: s => (true, s)
  | '+' :: s => (false, s)
  | s => (false, s)

/-- An integer of 64 bits. -/
def bounded? (n : Int) : Option Value :=
  if -0x8000000000000000 ≤ n ∧ n < 0x8000000000000000 then some (.int n) else none

def radix? (base : Nat) (p : Char → Bool) (s : List Char) : Option (Value × List Char) := do
  let (digits, s) ← digits? p s
  some (← bounded? (number base digits), s)

def integer : Reader Value
  | '0' :: 'x' :: s => radix? 16 isHex s
  | '0' :: 'o' :: s => radix? 8 (fun c => '0' ≤ c && c ≤ '7') s
  | '0' :: 'b' :: s => radix? 2 (fun c => c == '0' || c == '1') s
  | s => do
    let (negative, s) := sign s
    let (digits, s) ← plainDigits? s
    let n : Int := number 10 digits
    some (← bounded? (if negative then -n else n), s)

/-- The power of ten behind `e`. -/
def power? : Reader Int
  | c :: s => do
    guard (c = 'e' ∨ c = 'E')
    let (negative, s) := sign s
    let (digits, s) ← digits? Char.isDigit s
    let n : Int := number 10 digits
    some (if negative then -n else n, s)
  | [] => none

/-- The digits behind the point. -/
def fraction? : Reader (List Char)
  | '.' :: s => digits? Char.isDigit s
  | _ => none

/-- A decimal with a fraction, a power of ten or both. Too large a number is refused. -/
def decimal (s : List Char) : Option (Value × List Char) := do
  let (negative, s) := sign s
  let (whole, s) ← plainDigits? s
  let (fraction, s) := (fraction? s).getD ([], s)
  let exponent := power? s
  guard (!fraction.isEmpty || exponent.isSome)
  let (power, s) := exponent.getD (0, s)
  let x := Binary64.ofDecimal negative (number 10 (whole ++ fraction)) (power - fraction.length)
  guard (x ≠ .infinite false)
  some (.float x, s)

def special (s : List Char) : Option (Value × List Char) :=
  let (negative, s) := sign s
  match s with
  | 'i' :: 'n' :: 'f' :: s => some (.float (.infinite negative), s)
  | 'n' :: 'a' :: 'n' :: s => some (.float .nan, s)
  | _ => none

/-- A value without brackets. -/
def scalar (s : List Char) : Option (Value × List Char) :=
  match s with
  | 't' :: 'r' :: 'u' :: 'e' :: s => some (.bool true, s)
  | 'f' :: 'a' :: 'l' :: 's' :: 'e' :: s => some (.bool false, s)
  | s =>
    ((string s).map fun (text, s) => (.str (String.ofList text), s))
      <|> ((Datetime.read s).map fun (value, s) => (.datetime value, s))
      <|> decimal s <|> special s <|> integer s

end BasicLint.Toml
