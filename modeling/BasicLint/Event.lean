import BasicLint.Text.Visible

/-!
# Log events

What a run says about its progress. Details are kept for verbose runs. The text of an event is free
of the controls that a terminal obeys; the values behind it are quoted.
-/
namespace BasicLint

inductive Level where
  | debug
  | info
  | warn
  deriving DecidableEq, Repr

def Level.name : Level → String
  | debug => "DEBUG"
  | info => "INFO"
  | warn => "WARN"

structure Event where
  level : Level
  text : String
  /-- Values that the event is about, by name. -/
  values : List (String × String) := []
  deriving DecidableEq, Repr

namespace Event

def debug (text : String) : Event := { level := .debug, text }

def info (text : String) : Event := { level := .info, text }

def warn (text : String) (values : List (String × String) := []) : Event :=
  { level := .warn, text, values }

/-- A code point in hexadecimal, in braces. -/
def codePoint (c : Char) : List Char :=
  "\\u\x7b".toList ++ Nat.toDigits 16 c.toNat ++ "\x7d".toList

/-- A character inside quotes: one that is not visible is written by its code point. -/
def quoteChar (c : Char) : List Char :=
  if c = '"' then "\\\"".toList
  else if c = '\\' then "\\\\".toList
  else if c = '\n' then "\\n".toList
  else if c = '\r' then "\\r".toList
  else if c = '\t' then "\\t".toList
  else if c.toNat = 0 then "\\0".toList
  else if Text.isVisible c then [c]
  else codePoint c

/-- A character of the text of an event: the controls that a terminal obeys are spelled out. -/
def textChar (c : Char) : List Char :=
  if c.toNat = 0x07 then "\\x07".toList
  else if c.toNat = 0x08 then "\\x08".toList
  else if c.toNat = 0x0C then "\\x0c".toList
  else if c.toNat = 0x1B then "\\x1b".toList
  else if c.toNat = 0x7F then "\\x7f".toList
  else if 0x80 ≤ c.toNat && c.toNat ≤ 0x9F then codePoint c
  else [c]

/-- A named value behind the text of an event. -/
def detail (name value : String) : String :=
  " " ++ name ++ "=\"" ++ String.ofList (value.toList.flatMap quoteChar) ++ "\""

/-- The event on one line. -/
def line (event : Event) : String :=
  event.level.name ++ " " ++ String.ofList (event.text.toList.flatMap textChar)
    ++ String.join (event.values.map fun value => detail value.1 value.2)

example : quoteChar (Char.ofNat 0xA0) = "\\u\x7ba0\x7d".toList := by decide

end Event

end BasicLint
