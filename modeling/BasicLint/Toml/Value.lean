import BasicLint.Toml.Binary64
import BasicLint.Toml.Datetime

/-!
# TOML values

A table remembers how it came about, because that decides whether later lines may add to it.
-/
namespace BasicLint.Toml

/-- How a table came about. -/
inductive Origin where
  /-- Named by a header of its own. -/
  | header
  /-- Implied by the header of a table inside it. -/
  | implied
  /-- Implied by a dotted key. -/
  | dotted
  /-- Written in braces, and complete. -/
  | inline
  deriving DecidableEq, Repr

inductive Value where
  | str (text : String)
  | int (value : Int)
  | float (value : Binary64)
  | bool (value : Bool)
  | datetime (value : Datetime)
  /-- An array; headers in double brackets may add to a `growing` one. -/
  | array (growing : Bool) (items : List Value)
  | table (origin : Origin) (fields : List (String × Value))

abbrev Fields := List (String × Value)

namespace Value

def asInt? : Value → Option Int
  | int value => some value
  | _ => none

def asStr? : Value → Option String
  | str text => some text
  | _ => none

def asBool? : Value → Option Bool
  | bool value => some value
  | _ => none

def asArray? : Value → Option (List Value)
  | array _ items => some items
  | _ => none

/-- The key under which a date is the only field of a table. -/
def datetimeKey : String := "$__toml_private_datetime"

/-- The fields of a table. A date counts as a table with its text as the only field. -/
def asFields? : Value → Option Fields
  | table _ fields => some fields
  | datetime value => some [(datetimeKey, .str (String.ofList value.text))]
  | _ => none

/-- The strings of an array of strings. -/
def asStrings? (value : Value) : Option (List String) := do
  let items ← value.asArray?
  items.mapM asStr?

mutual

/-- A value in which tables that stand for dates are dates. A table whose first key is that of a date
has to stand for one. -/
def settle? : Value → Option Value
  | array growing items => (settleItems? items).map (array growing)
  | table origin fields =>
    match fields with
    | (key, value) :: more =>
      if key = datetimeKey then
        match value, more with
        | str text, [] => (Datetime.ofText? text.toList).map datetime
        | _, _ => none
      else (settleFields? fields).map (table origin)
    | [] => some (table origin [])
  | value => some value
termination_by structural value => value

def settleItems? : List Value → Option (List Value)
  | [] => some []
  | item :: items => do some ((← settle? item) :: (← settleItems? items))
termination_by structural items => items

def settleFields? : List (String × Value) → Option (List (String × Value))
  | [] => some []
  | field :: fields => do some ((← settleField? field) :: (← settleFields? fields))
termination_by structural fields => fields

def settleField? : String × Value → Option (String × Value)
  | (key, value) => (settle? value).map fun value => (key, value)
termination_by structural field => field

end

end Value

namespace Fields

/-- Replaces the value of a key. -/
def put (fields : Fields) (key : String) (value : Value) : Fields :=
  fields.map fun field => if field.1 = key then (key, value) else field

/-- Changes the table at a path, going into the last table of a growing array. Missing tables are
made with the origin `fresh`. A complete table is closed, and a dotted key does not reopen a table
that has a header. -/
def reach (fresh : Origin) (change : Origin → Fields → Option Fields) :
    List String → Origin → Fields → Option Fields
  | [], origin, fields => change origin fields
  | key :: path, _, fields =>
    match fields.lookup key with
    | none => do
      let inner ← reach fresh change path fresh []
      some (fields ++ [(key, .table fresh inner)])
    | some (.table origin inner) =>
      if origin = .inline ∨ (fresh = .dotted ∧ origin = .header) then none
      else do
        let inner ← reach fresh change path origin inner
        some (put fields key (.table origin inner))
    | some (.array true items) =>
      match items.getLast? with
      | some (.table origin inner) => do
        let inner ← reach fresh change path origin inner
        some (put fields key (.array true (items.dropLast ++ [.table origin inner])))
      | _ => none
    | some _ => none

/-- Adds a value under a dotted key. No key is given twice. -/
def assign (origin : Origin) (fields : Fields) (path : List String) (key : String) (value : Value) :
    Option Fields :=
  reach .dotted (fun reached inner =>
    if (!path.isEmpty && reached != .dotted) || (inner.lookup key).isSome then none
    else some (inner ++ [(key, value)])) path origin fields

/-- Opens the table that a header names. One that was only implied moves behind the others. -/
def openTable (fields : Fields) (path : List String) (key : String) : Option Fields :=
  reach .implied (fun _ inner =>
    match inner.lookup key with
    | none => some (inner ++ [(key, .table .header [])])
    | some (.table .implied fields) =>
      some (inner.filter (·.1 ≠ key) ++ [(key, .table .header fields)])
    | some _ => none) path .header fields

/-- Opens a new table in the array that a header names. -/
def openArray (fields : Fields) (path : List String) (key : String) : Option Fields :=
  reach .implied (fun _ inner =>
    match inner.lookup key with
    | none => some (inner ++ [(key, .array true [.table .header []])])
    | some (.array true items) => some (put inner key (.array true (items ++ [.table .header []])))
    | some _ => none) path .header fields

end Fields

end BasicLint.Toml
