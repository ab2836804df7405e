/-!
# JSON

Values, and their text with an indentation of two spaces.
-/
namespace BasicLint

inductive Json where
  | null
  | bool (value : Bool)
  | int (value : Int)
  /-- A number that is not written as an integer. -/
  | real
  | str (text : String)
  | array (items : List Json)
  | object (fields : List (String × Json))
  deriving Inhabited

namespace Json

/-- A digit of base sixteen. -/
def hexDigit (n : Nat) : Char := (Nat.toDigits 16 n).headD '0'

/-- A character inside quotes. -/
def escape (c : Char) : List Char :=
  if c = '"' then "\\\"".toList
  else if c = '\\' then "\\\\".toList
  else if c = '\n' then "\\n".toList
  else if c = '\r' then "\\r".toList
  else if c = '\t' then "\\t".toList
  else if c.toNat = 0x08 then "\\b".toList
  else if c.toNat = 0x0C then "\\f".toList
  else if c.toNat < 0x20 then
    "\\u00".toList ++ [hexDigit (c.toNat / 16), hexDigit (c.toNat % 16)]
  else [c]

/-- A text in quotes. -/
def quote (text : String) : String :=
  "\"" ++ String.ofList (text.toList.flatMap escape) ++ "\""

/-- The start of a line at the given depth. -/
def indent (depth : Nat) : String := "\n" ++ String.ofList (List.replicate (2 * depth) ' ')

mutual

/-- The text of a value, in pieces; what it holds starts on lines of depth `depth + 1`. -/
def pieces (depth : Nat) : Json → List String
  | null => ["null"]
  | bool value => [if value then "true" else "false"]
  | int value => [toString value]
  | real => ["0.0"]
  | str text => [quote text]
  | array [] => ["[]"]
  | array (item :: items) =>
    ["[", indent (depth + 1)] ++ pieces (depth + 1) item ++ itemPieces (depth + 1) items
      ++ [indent depth, "]"]
  | object [] => ["\x7b\x7d"]
  | object (field :: fields) =>
    ["\x7b", indent (depth + 1)] ++ fieldPieces (depth + 1) field
      ++ fieldsPieces (depth + 1) fields ++ [indent depth, "\x7d"]
termination_by structural json => json

/-- The items behind the first one. -/
def itemPieces (depth : Nat) : List Json → List String
  | [] => []
  | item :: items => "," :: indent depth :: pieces depth item ++ itemPieces depth items
termination_by structural items => items

/-- The fields behind the first one. -/
def fieldsPieces (depth : Nat) : List (String × Json) → List String
  | [] => []
  | field :: fields => "," :: indent depth :: fieldPieces depth field ++ fieldsPieces depth fields
termination_by structural fields => fields

def fieldPieces (depth : Nat) : String × Json → List String
  | (key, value) => quote key :: ": " :: pieces depth value
termination_by structural field => field

end

/-- The text of a whole document. -/
def pretty (json : Json) : String := String.join (json.pieces 0)

/-! ## Reading values -/

def asStr? : Json → Option String
  | str text => some text
  | _ => none

/-- A count that a word of 64 bits holds. -/
def asCount? : Json → Option Nat
  | int value => if 0 ≤ value ∧ value < 0x10000000000000000 then some value.toNat else none
  | _ => none

def asItems? : Json → Option (List Json)
  | array items => some items
  | _ => none

/-- The key of a choice without contents: its name, or an object with only that key. -/
def asChoice? : Json → Option String
  | str text => some text
  | object [(key, null)] => some key
  | _ => none

/-- The values of a record, in the order of the given keys. A record is an object with those keys, of
which other ones are ignored, or an array of no more values than keys. -/
def asRecord? (keys : List String) : Json → Option (List (Option Json))
  | object fields => some (keys.map fun key => fields.lookup key)
  | array items => if items.length ≤ keys.length then some (items.map some) else none
  | _ => none

/-- A value of a record that has to be there. -/
def required (values : List (Option Json)) (index : Nat) : Option Json := values[index]?.join

end Json

end BasicLint
