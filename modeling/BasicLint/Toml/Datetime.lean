/-!
# Dates and times

A date, a time of day, or both; with both a zone may follow. A text stands for a date if it is spelled
as one in a document would be, from its first character to its last.
-/
namespace BasicLint.Toml

/-- Takes a value off the front of a text and gives the text behind it. -/
abbrev Reader (α : Type) := List Char → Option (α × List Char)

/-- Passes one character. -/
def expect (c : Char) : List Char → Option (List Char)
  | [] => none
  | d :: s => if c = d then some s else none

structure Date where
  year : Nat
  month : Nat
  day : Nat
  deriving DecidableEq, Repr

structure Time where
  hour : Nat
  minute : Nat
  second : Nat
  nanosecond : Nat := 0
  deriving DecidableEq, Repr

inductive Zone where
  | utc
  /-- So many minutes ahead. -/
  | ahead (minutes : Int)
  deriving DecidableEq, Repr

structure Datetime where
  date : Option Date := none
  time : Option Time := none
  zone : Option Zone := none
  deriving DecidableEq, Repr

/-! ## Writing -/

/-- A number with zeros in front up to a width. -/
def padded (width n : Nat) : List Char :=
  let digits := Nat.toDigits 10 n
  List.replicate (width - digits.length) '0' ++ digits

def Date.text (date : Date) : List Char :=
  padded 4 date.year ++ '-' :: padded 2 date.month ++ '-' :: padded 2 date.day

/-- A fraction of a second without the zeros at its end. -/
def fractionText (nanosecond : Nat) : List Char :=
  if nanosecond = 0 then []
  else '.' :: ((padded 9 nanosecond).reverse.dropWhile (· == '0')).reverse

def Time.text (time : Time) : List Char :=
  padded 2 time.hour ++ ':' :: padded 2 time.minute ++ ':' :: padded 2 time.second
    ++ fractionText time.nanosecond

def Zone.text : Zone → List Char
  | utc => ['Z']
  | ahead minutes =>
    (if minutes < 0 then '-' else '+')
      :: padded 2 (minutes.natAbs / 60) ++ ':' :: padded 2 (minutes.natAbs % 60)

/-- The one text of a date, however it was spelled. -/
def Datetime.text (value : Datetime) : List Char :=
  ((value.date.map Date.text).getD [])
    ++ (if value.date.isSome && value.time.isSome then ['T'] else [])
    ++ ((value.time.map Time.text).getD []) ++ ((value.zone.map Zone.text).getD [])

/-! ## Reading -/

/-- The number that decimal digits write. -/
def decimalValue (digits : List Char) : Nat :=
  digits.foldl (fun n c => 10 * n + (c.toNat - '0'.toNat)) 0

/-- A number of exactly `count` digits within bounds. -/
def field (count low high : Nat) (s : List Char) : Option (Nat × List Char) :=
  let digits := s.take count
  let n := decimalValue digits
  if digits.length = count && digits.all Char.isDigit && low ≤ n && n ≤ high then
    some (n, s.drop count)
  else none

def daysOf (year month : Nat) : Nat :=
  if month = 2 then
    if year % 4 = 0 ∧ (year % 100 ≠ 0 ∨ year % 400 = 0) then 29 else 28
  else if month ∈ [4, 6, 9, 11] then 30 else 31

def Date.read (s : List Char) : Option (Date × List Char) := do
  let (year, s) ← field 4 0 9999 s
  let s ← expect '-' s
  let (month, s) ← field 2 1 12 s
  let s ← expect '-' s
  let (day, s) ← field 2 1 (daysOf year month) s
  some (⟨year, month, day⟩, s)

/-- The billionths that the digits behind a point write; more than nine are cut off. -/
def billionths (digits : List Char) : Nat :=
  decimalValue ((digits ++ List.replicate 9 '0').take 9)

/-- The fraction of a second that may follow it. -/
def readFraction (s : List Char) : Option (Nat × List Char) :=
  match s with
  | '.' :: s =>
    if (s.takeWhile Char.isDigit).isEmpty then none
    else some (billionths (s.takeWhile Char.isDigit), s.dropWhile Char.isDigit)
  | s => some (0, s)

/-- A time of day; the second 60 is one that is put in now and then. -/
def Time.read (s : List Char) : Option (Time × List Char) := do
  let (hour, s) ← field 2 0 23 s
  let s ← expect ':' s
  let (minute, s) ← field 2 0 59 s
  let s ← expect ':' s
  let (second, s) ← field 2 0 60 s
  let (nanosecond, s) ← readFraction s
  some (⟨hour, minute, second, nanosecond⟩, s)

/-- The middle zone, or the distance from it in hours and minutes. -/
def Zone.read (s : List Char) : Option (Zone × List Char) :=
  match s with
  | [] => none
  | c :: s =>
    if c = 'Z' ∨ c = 'z' then some (.utc, s)
    else if c = '+' ∨ c = '-' then do
      let (hours, s) ← field 2 0 23 s
      let s ← expect ':' s
      let (minutes, s) ← field 2 0 59 s
      let distance : Int := 60 * hours + minutes
      some (.ahead (if c = '-' then -distance else distance), s)
    else none

/-- Passes what may stand between a date and a time. -/
def clockMark? : List Char → Option (List Char)
  | [] => none
  | c :: s => if c = 'T' ∨ c = 't' ∨ c = ' ' then some s else none

namespace Datetime

/-- The time of day and the zone behind a date. -/
def readClock (date : Date) (s : List Char) : Option (Datetime × List Char) := do
  let (time, s) ← Time.read (← clockMark? s)
  match Zone.read s with
  | some (zone, s) => some ({ date, time, zone }, s)
  | none => some ({ date, time }, s)

/-- A date or a time, as much of it as there is. -/
def read (s : List Char) : Option (Datetime × List Char) :=
  match Date.read s with
  | some (date, s) => some ((readClock date s).getD ({ date }, s))
  | none => (Time.read s).map fun (time, s) => ({ time }, s)

/-- The date that a whole text stands for. -/
def ofText? (s : List Char) : Option Datetime :=
  match read s with
  | some (value, []) => some value
  | _ => none

example : (ofText? "1979-05-27 07:32:00.250-01:30".toList).map text
    = some "1979-05-27T07:32:00.25-01:30".toList := by decide
example : (read "07:32:00 #".toList).map (·.2) = some " #".toList := by decide
example : ofText? "07:32:00Z".toList = none := by decide
example : ofText? "24:00:00".toList = none := by decide

end Datetime

end BasicLint.Toml
