/-!
# Paths

A path is a text; its components are what lies between its slashes. Doubled slashes, a trailing
slash and a dot that is not in front mean nothing. Two dots are a component like any other: a path
is never simplified.
-/
namespace BasicLint

namespace Path

inductive Component where
  | root
  | current
  | parent
  | name (text : List Char)
  deriving DecidableEq, Repr

/-- The order of components: the root, one dot, two dots, then names. -/
def Component.rank : Component → Nat
  | root => 0
  | current => 1
  | parent => 2
  | name _ => 3

def Component.text : Component → List Char
  | name text => text
  | _ => []

/-- Components in order; names by code points. -/
def Component.before (a b : Component) : Bool :=
  a.rank < b.rank || (a.rank = b.rank && decide (a.text < b.text))

/-- The pieces of a path between its slashes. -/
def pieces (path : List Char) : List (List Char) := path.splitOn '/'

def isAbsolute (path : List Char) : Bool := path.head? == some '/'

/-- Whether a piece names something in a directory. -/
def isName (piece : List Char) : Bool :=
  !piece.isEmpty && piece != ['.'] && piece != ['.', '.'] && !piece.contains '/'

/-- A piece that stands for a component; `front` says that nothing stands before it. -/
def component? (front : Bool) (piece : List Char) : Option Component :=
  if piece.isEmpty then none
  else if piece = ['.'] then if front then some .current else none
  else if piece = ['.', '.'] then some .parent
  else some (.name piece)

/-- The components of a path. -/
def components (path : List Char) : List Component :=
  match pieces path with
  | [] => []
  | first :: rest =>
    let front := if isAbsolute path then some Component.root else component? true first
    front.toList ++ rest.filterMap (component? false)

/-- Paths are equal when their components are. -/
def same (a b : List Char) : Bool := components a = components b

/-- Component after component; a path comes before those that go on from it. -/
def componentsLe : List Component → List Component → Bool
  | [], _ => true
  | _ :: _, [] => false
  | a :: as, b :: bs => a.before b || (a = b && componentsLe as bs)

def le (a b : List Char) : Bool := componentsLe (components a) (components b)

/-- The path of something inside a directory. An absolute path stays as it is. -/
def join (directory path : List Char) : List Char :=
  if isAbsolute path then path
  else if directory.isEmpty || directory.getLast? == some '/' then directory ++ path
  else directory ++ '/' :: path

/-- The pieces up to the last one that stands for a component. -/
def significant (path : List Char) : List (List Char) :=
  let front := !isAbsolute path
  let marked := (pieces path).zipIdx.reverse.dropWhile fun (piece, i) =>
    (component? (front && i = 0) piece).isNone
  marked.reverse.map (·.1)

/-- The path that pieces write; an absolute one keeps its slash. -/
def ofPieces (absolute : Bool) (pieces : List (List Char)) : List Char :=
  if absolute && pieces.length ≤ 1 then ['/'] else ['/'].intercalate pieces

/-- The path without its last component. The root and the empty path have no parent. -/
def parent? (path : List Char) : Option (List Char) :=
  let pieces := significant path
  if pieces.isEmpty then none
  else
    let outer := ofPieces (isAbsolute path) pieces.dropLast
    some (ofPieces (isAbsolute path) (significant outer))

/-- A path and those above it; `fuel` bounds their number. -/
def ancestorsFrom : (fuel : Nat) → List Char → List (List Char)
  | 0, path => [path]
  | fuel + 1, path =>
    path :: match parent? path with
      | none => []
      | some outer => ancestorsFrom fuel outer

def ancestors (path : List Char) : List (List Char) := ancestorsFrom path.length path

/-- The name of the last component, unless that is one or two dots. -/
def fileName? (path : List Char) : Option (List Char) :=
  match (components path).getLast? with
  | some (.name text) => some text
  | _ => none

/-- The text behind the last dot of a name, unless that dot is the first character. -/
def extensionOf? (name : List Char) : Option (List Char) :=
  let tail := (name.reverse.takeWhile (· != '.')).reverse
  if tail.length + 1 < name.length then some tail else none

def extension? (path : List Char) : Option (List Char) := (fileName? path).bind extensionOf?

/-- Whether two texts differ at most in the case of ASCII letters. -/
def sameLetters (a b : List Char) : Bool := a.map Char.toLower = b.map Char.toLower

/-- Whether a path has one of the extensions, whatever their case. -/
def hasExtension (extensions : List String) (path : List Char) : Bool :=
  (extension? path).any fun found => extensions.any (sameLetters ·.toList found)

example : parent? "a//b/./c.b".toList = some "a//b".toList := by decide
example : parent? "/a".toList = some "/".toList ∧ parent? "/".toList = none := by decide
example : extension? "x/A.b/.".toList = some "b".toList := by decide
example : extension? ".b".toList = none := by decide
example : same "./a//b/".toList "./a/./b".toList = true := by decide
example : same "./a".toList "a".toList = false := by decide

end Path

end BasicLint
