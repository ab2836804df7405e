/-!
# Path patterns

A pattern is a list of tokens. A star runs over any text, slashes included; a double star runs over
whole directories and must be a component of its own.
-/
namespace BasicLint

namespace Glob

/-- A set of characters in brackets: single ones and ranges. -/
abbrev CharSet := List (Char × Char)

def CharSet.has (set : CharSet) (c : Char) : Bool :=
  set.any fun range => range.1 ≤ c && c ≤ range.2

inductive Token where
  | char (c : Char)
  | anyChar
  | within (set : CharSet)
  | except (set : CharSet)
  /-- Any text. -/
  | star
  /-- Any number of whole directories. -/
  | directories
  deriving DecidableEq, Repr

inductive Fault where
  | stars
  | component
  | range
  deriving DecidableEq, Repr

/-- Why a text is no pattern, and where. -/
structure Error where
  position : Nat
  fault : Fault
  deriving DecidableEq, Repr

def Fault.message : Fault → String
  | stars => "wildcards are either regular `*` or recursive `**`"
  | component => "recursive wildcards must form a single path component"
  | range => "invalid range pattern"

def Error.message (e : Error) : String :=
  "Pattern syntax error near position " ++ toString e.position ++ ": " ++ e.fault.message

/-- The set that the text between brackets writes. -/
def CharSet.ofText : List Char → CharSet
  | a :: '-' :: b :: s => (a, b) :: CharSet.ofText s
  | c :: s => (c, c) :: CharSet.ofText s
  | [] => []

/-- The text up to the bracket that closes a set, and the text behind it. The first character of a
set is never that bracket. -/
def closeSet? : List Char → Option (List Char × List Char)
  | [] => none
  | c :: s =>
    match s.dropWhile (· != ']') with
    | [] => none
    | _ :: rest => some (c :: s.takeWhile (· != ']'), rest)

/-- A set behind its opening bracket, as a token. -/
def bracket? : List Char → Option (Token × List Char)
  | '!' :: s => (closeSet? s).map fun (set, rest) => (.except (CharSet.ofText set), rest)
  | s => (closeSet? s).map fun (set, rest) => (.within (CharSet.ofText set), rest)

/-- The token that starts with `c` at `position`, and how many characters of the text behind `c`
belong to it. -/
def token (before : Option Char) (position : Nat) (c : Char) (s : List Char) :
    Except Error (Token × Nat) :=
  if c = '?' then .ok (.anyChar, 0)
  else if c = '*' then
    match s with
    | '*' :: '*' :: _ => .error ⟨position + 2, .stars⟩
    | '*' :: rest =>
      if before.all (· == '/') then
        match rest with
        | [] => .ok (.directories, 1)
        | '/' :: _ => .ok (.directories, 2)
        | _ => .error ⟨position + 2, .component⟩
      else .error ⟨position - 1, .component⟩
    | _ => .ok (.star, 0)
  else if c = '[' then
    match bracket? s with
    | none => .error ⟨position, .range⟩
    | some (token, rest) => .ok (token, s.length - rest.length)
  else .ok (.char c, 0)

/-- The tokens of the text at `position` behind `before`, once `skip` characters are passed. -/
def tokensFrom : (before : Option Char) → (position skip : Nat) → List Char →
    Except Error (List Token)
  | _, _, _, [] => .ok []
  | _, position, skip + 1, c :: s => tokensFrom (some c) (position + 1) skip s
  | before, position, 0, c :: s => do
    let (first, skip) ← token before position c s
    let more ← tokensFrom (some c) (position + 1) skip s
    .ok (first :: more)

/-- The ends of a text: the text itself and all that is left after dropping characters. -/
def suffixes : List Char → List (List Char)
  | [] => [[]]
  | c :: s => (c :: s) :: suffixes s

/-- What a run over whole directories can leave: all of a text, what stands behind one of its
slashes, or nothing. -/
def behindDirectories (s : List Char) : List (List Char) := s :: behindSlashes s
where
  behindSlashes : List Char → List (List Char)
    | [] => [[]]
    | c :: s => if c = '/' then s :: behindSlashes s else behindSlashes s

/-- Whether a token that stands for one character stands for `c`. -/
def Token.accepts : Token → Char → Bool
  | char d, c => d == c
  | anyChar, _ => true
  | within set, c => set.has c
  | except set, c => !set.has c
  | star, _ | directories, _ => false

/-- Whether tokens stand for a text. -/
def tokensMatch : List Token → List Char → Bool
  | [], s => s.isEmpty
  | .star :: tokens, s => (suffixes s).any (tokensMatch tokens)
  | .directories :: tokens, s => (behindDirectories s).any (tokensMatch tokens)
  | _ :: _, [] => false
  | token :: tokens, c :: s => token.accepts c && tokensMatch tokens s

/-! ## Matching row by row

A row holds, for each end of a text, whether some tokens stand for it. The row of one token more comes
from it in one pass, so the time is that of the table and not that of all ways to match. -/

/-- The row with a token for one character in front. -/
def charRow (token : Token) : List Char → List Bool → List Bool
  | c :: s, _ :: row => (token.accepts c && row.headD false) :: charRow token s row
  | _, _ => [false]

/-- The row with a star in front. -/
def starRow : List Bool → List Bool
  | [] => []
  | b :: row =>
    let behind := starRow row
    (b || behind.headD false) :: behind

/-- For each end of a text, whether the row holds somewhere behind a slash in it, or at its end. -/
def slashRow : List Char → List Bool → List Bool
  | c :: s, _ :: row =>
    let behind := slashRow s row
    ((c == '/' && row.headD false) || behind.headD false) :: behind
  | _, row => row

/-- The row with a token in front. -/
def Token.row (s : List Char) (row : List Bool) : Token → List Bool
  | star => starRow row
  | directories => row.zipWith (· || ·) (slashRow s row)
  | token => charRow token s row

/-- The row of tokens. -/
def rowOf : List Token → List Char → List Bool
  | [], s => (suffixes s).map List.isEmpty
  | token :: tokens, s => token.row s (rowOf tokens s)

theorem headD_map_suffixes (f : List Char → Bool) (s : List Char) :
    ((suffixes s).map f).headD false = f s := by
  cases s <;> rfl

theorem charRow_suffixes (token : Token) (f : List Char → Bool) (s : List Char) :
    charRow token s ((suffixes s).map f)
      = (suffixes s).map fun
        | [] => false
        | c :: s => token.accepts c && f s := by
  induction s with
  | nil => rfl
  | cons c s ih =>
    simp only [suffixes, List.map_cons, charRow, headD_map_suffixes]
    exact congrArg _ ih

theorem starRow_suffixes (f : List Char → Bool) (s : List Char) :
    starRow ((suffixes s).map f) = (suffixes s).map fun s => (suffixes s).any f := by
  induction s with
  | nil => simp [suffixes, starRow]
  | cons c s ih =>
    simp only [suffixes, List.map_cons, starRow, ih, headD_map_suffixes, List.any_cons]

theorem slashRow_suffixes (f : List Char → Bool) (s : List Char) :
    slashRow s ((suffixes s).map f)
      = (suffixes s).map fun s => (behindDirectories.behindSlashes s).any f := by
  induction s with
  | nil => simp [suffixes, slashRow, behindDirectories.behindSlashes]
  | cons c s ih =>
    simp only [suffixes, List.map_cons, slashRow, ih, headD_map_suffixes]
    by_cases h : c = '/' <;> simp [behindDirectories.behindSlashes, h]

/-- The row of tokens says of each end of a text whether they stand for it. -/
theorem rowOf_eq (tokens : List Token) (s : List Char) :
    rowOf tokens s = (suffixes s).map (tokensMatch tokens) := by
  induction tokens with
  | nil => rfl
  | cons token tokens ih =>
    have single : ∀ token : Token, (∀ s, tokensMatch (token :: tokens) s = match s with
        | [] => false
        | c :: s => token.accepts c && tokensMatch tokens s) →
        charRow token s (rowOf tokens s) = (suffixes s).map (tokensMatch (token :: tokens)) := by
      intro token h
      rw [ih, charRow_suffixes]
      exact congrArg (List.map · _) (funext fun s => by rw [h s])
    cases token with
    | star => rw [rowOf, Token.row, ih, starRow_suffixes]; rfl
    | directories =>
      rw [rowOf, Token.row, ih, slashRow_suffixes]
      simp [List.zipWith_map, List.zipWith_self, tokensMatch, behindDirectories]
    | char | anyChar | within | except => exact single _ fun s => by cases s <;> rfl

end Glob

/-- A path pattern: its text and its tokens. -/
structure Glob where
  text : List Char
  tokens : List Glob.Token

namespace Glob

def parse (text : String) : Except Error Glob :=
  (tokensFrom none 0 0 text.toList).map fun tokens => ⟨text.toList, tokens⟩

def isMatch (glob : Glob) (path : List Char) : Bool := (rowOf glob.tokens path).headD false

theorem isMatch_eq (glob : Glob) (path : List Char) :
    glob.isMatch path = tokensMatch glob.tokens path := by
  rw [isMatch, rowOf_eq, headD_map_suffixes]

/-- A text without its double stars. -/
def withoutStars : List Char → List Char
  | '*' :: '*' :: s => withoutStars s
  | c :: s => c :: withoutStars s
  | [] => []

/-- Whether a text occurs in a path. -/
def occursIn (part path : List Char) : Bool := (suffixes path).any part.isPrefixOf

/-- Whether a pattern leaves out a path: it matches it, or the pattern without its double stars
occurs in it. -/
def excludes (glob : Glob) (path : List Char) : Bool :=
  let part := withoutStars glob.text
  glob.isMatch path || (!part.isEmpty && part != ['/'] && occursIn part path)

example : (parse "a**").toOption.isNone = true := by decide
example : ((parse "**/*.b").toOption.map (·.isMatch "x/y.b".toList)) = some true := by decide

end Glob

end BasicLint
