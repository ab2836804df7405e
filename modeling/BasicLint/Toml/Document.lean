import BasicLint.Toml.Scalar

/-!
# TOML documents

A document is a list of statements, one a line, and reading it means carrying them out one after
another on an empty table.
-/
namespace BasicLint.Toml

/-- How deep values in brackets may nest. -/
def nestingLimit : Nat := 79

/-- Drops spaces, line ends and comments. -/
def skipGap : (comment : Bool) → List Char → List Char
  | _, [] => []
  | comment, c :: s =>
    if (comment && isPrintable c) || c == '#' then skipGap true s
    else if isSpace c || c == '\n' || (c == '\r' && s.head? == some '\n') then skipGap false s
    else c :: s

def isBareKey (c : Char) : Bool := c.isAlphanum || c == '_' || c == '-'

def key (s : List Char) : Option (String × List Char) :=
  match s with
  | '"' :: s => (basic s).map fun (text, s) => (String.ofList text, s)
  | '\'' :: s => (literal s).map fun (text, s) => (String.ofList text, s)
  | s =>
    if (s.takeWhile isBareKey).isEmpty then none
    else some (String.ofList (s.takeWhile isBareKey), s.dropWhile isBareKey)

/-- Keys joined by dots, with the spaces around them; `fuel` bounds their number. -/
def keysFrom : (fuel : Nat) → Reader (List String)
  | 0, _ => none
  | fuel + 1, s => do
    let (first, s) ← key (skipSpaces s)
    match skipSpaces s with
    | '.' :: s =>
      let (more, s) ← keysFrom fuel s
      some (first :: more, s)
    | s => some ([first], s)

/-- The tables that a dotted key goes through, and the key in the last of them. -/
def keyPath (s : List Char) : Option ((List String × String) × List Char) := do
  let (keys, s) ← keysFrom nestingLimit s
  let last ← keys.getLast?
  some ((keys.dropLast, last), s)

/-- A dotted key, an equals sign and a value. -/
def keyValue (value : Reader Value) (s : List Char) :
    Option ((List String × String × Value) × List Char) := do
  let ((path, last), s) ← keyPath s
  let s ← expect '=' s
  let (value, s) ← value (skipSpaces s)
  some ((path, last, value), s)

/-- The items of an array behind its bracket; `fuel` bounds their number. -/
def items (value : Reader Value) : (fuel : Nat) → Reader (List Value)
  | 0, _ => none
  | fuel + 1, s =>
    match skipGap false s with
    | ']' :: s => some ([], s)
    | s => do
      let (item, s) ← value s
      match skipGap false s with
      | ',' :: s =>
        let (more, s) ← items value fuel s
        some (item :: more, s)
      | ']' :: s => some ([item], s)
      | _ => none

/-- The fields of an inline table behind its brace; `fuel` bounds their number. -/
def fieldsFrom (value : Reader Value) : (fuel : Nat) → Fields → Reader Fields
  | 0, _, _ => none
  | fuel + 1, fields, s => do
    let ((path, last, item), s) ← keyValue value s
    let fields ← fields.assign .inline path last item
    match skipSpaces s with
    | ',' :: s => fieldsFrom value fuel fields s
    | '}' :: s => some (fields, s)
    | _ => none

/-- A value in which brackets nest at most `depth` deep. -/
def value : (depth : Nat) → Reader Value
  | 0, s => scalar s
  | depth + 1, s =>
    match s with
    | '[' :: s => (items (value depth) (s.length + 1) s).map fun (items, s) => (.array false items, s)
    | '{' :: s =>
      match skipSpaces s with
      | '}' :: s => some (.table .inline [], s)
      | s =>
        (fieldsFrom (value depth) (s.length + 1) [] s).map fun (fields, s) =>
          (.table .inline fields, s)
    | s => scalar s

inductive Statement where
  | assign (path : List String) (key : String) (value : Value)
  | openTable (path : List String) (key : String)
  | openArray (path : List String) (key : String)

/-- What may stand behind a statement on its line. -/
def endStatement (s : List Char) : Option (List Char) :=
  let s := skipSpaces s
  let s := if s.head? = some '#' then s.dropWhile isPrintable else s
  if s.isEmpty then some [] else newline? s

/-- A statement with the rest of its line. -/
def statement (s : List Char) : Option (Statement × List Char) :=
  match s with
  | '[' :: '[' :: s => do
    let ((path, last), s) ← keyPath s
    let s ← expect ']' s
    let s ← expect ']' s
    some (.openArray path last, ← endStatement s)
  | '[' :: s => do
    let ((path, last), s) ← keyPath s
    let s ← expect ']' s
    some (.openTable path last, ← endStatement s)
  | s => do
    let ((path, last, item), s) ← keyValue (value nestingLimit) s
    some (.assign path last item, ← endStatement s)

/-- The statements of a document; `fuel` bounds the number of its lines. -/
def statementsFrom : (fuel : Nat) → List Char → Option (List Statement)
  | 0, _ => none
  | fuel + 1, s =>
    match skipSpaces s with
    | [] => some []
    | s =>
      match s.head? with
      | some '#' => (endStatement s).bind (statementsFrom fuel)
      | _ =>
        match newline? s with
        | some s => statementsFrom fuel s
        | none => do
          let (first, s) ← statement s
          let more ← statementsFrom fuel s
          some (first :: more)

/-- The statements of a document, which may start with a byte order mark. -/
def statements (s : List Char) : Option (List Statement) :=
  let s := if s.head? = some (Char.ofNat 0xFEFF) then s.drop 1 else s
  statementsFrom (s.length + 1) s

/-- A document in the making: its fields, and the table that assignments go to. -/
structure Draft where
  fields : Fields := []
  current : List String := []

def Draft.step (draft : Draft) : Statement → Option Draft
  | .assign path key value => do
    let fields ← draft.fields.reach .implied
      (fun origin inner => Fields.assign origin inner path key value) draft.current .header
    some { draft with fields }
  | .openTable path key => do
    some ⟨← draft.fields.openTable path key, path ++ [key]⟩
  | .openArray path key => do
    some ⟨← draft.fields.openArray path key, path ++ [key]⟩

/-- The fields of a document. -/
def parse? (s : List Char) : Option Fields := do
  let draft ← (← statements s).foldlM Draft.step {}
  some draft.fields

end BasicLint.Toml
