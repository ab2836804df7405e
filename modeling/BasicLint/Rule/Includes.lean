import BasicLint.Rule.Declaration
import BasicLint.Source

/-!
# Inserts and imports

Field definitions come from `$INSERT` and framework modules from `$USING`. A module is named in
capitals, with dots.
-/
namespace BasicLint.Includes

open Text

def name : String := "includes"

/-- `$INSERT` as the first word from the start of a line on. -/
def insertion : Recognizer Unit := indented isBlank (Cursor.keyword? "$INSERT".toList)

/-- The characters of a module name: neither blank nor a separator. -/
def isModuleChar (c : Char) : Bool := !isBlank c && c != ',' && c != ';'

/-- The module that a `$USING` line imports. -/
def imported : Recognizer (List Char) := indented isInlineBlank fun s => do
  let s ← s.after? "$USING".toList
  let s ← s.one? isInlineBlank
  (s.skip isInlineBlank).run? isModuleChar

/-- Capitals, digits and dots, with a capital in front. -/
def isModuleName (name : List Char) : Bool :=
  name.head?.any Char.isUpper && name.all fun c => c.isUpper || c.isDigit || c == '.'

def imports (text : List Char) : List (Hit (List Char)) := scan imported 1 text

/-- The finding on a function that imports nothing. -/
def withoutImports (source : Source) : List Diagnostic :=
  match Callable.line? .function source.text with
  | none => []
  | some line =>
    if (imports source.text).isEmpty then
      [source.diagnostic "I001" name .warning line
        "FUNCTION should include $USING directives for framework imports"
        (some "Add: $USING EB.API or project-specific service modules")]
    else []

/-- The hint on a source that inserts nothing. -/
def withoutInsertions (source : Source) : List Diagnostic :=
  if occurs insertion source.text then []
  else [source.diagnostic "I002" name .info 1
    "Consider adding $INSERT directives for field definitions and common variables"
    (some "Add: $INSERT I_F.* (field equates) and $INSERT I_EQUATE (constants)")]

/-- The findings on modules with an unusual name. -/
def misnamed (source : Source) : List Diagnostic :=
  ((imports source.text).filter (!isModuleName ·.value)).map fun hit =>
    source.diagnostic "I003" name .warning hit.line
      ("$USING module '" ++ String.ofList hit.value
        ++ "' should be UPPERCASE with dots (universal pattern)")

def check (source : Source) : List Diagnostic :=
  (if source.strict then withoutImports source ++ withoutInsertions source else [])
    ++ misnamed source

end BasicLint.Includes
