import BasicLint.Rule
import BasicLint.Settings

/-!
# Choosing rules

Which rules a run has: those of a preset, or those that a filter names, each with the options that
the settings give it.
-/
namespace BasicLint

inductive Preset where
  | recommended
  | strict
  | minimal
  deriving DecidableEq, Repr

namespace Preset

def ofName? (name : String) : Option Preset :=
  if name.toLower = "recommended" then some recommended
  else if name.toLower = "strict" then some strict
  else if name.toLower = "minimal" then some minimal
  else none

def kinds : Preset → List RuleKind
  | recommended | strict => RuleKind.all
  | minimal => [.outline, .fieldPosition, .rawFileAccess]

def isStrict (preset : Preset) : Bool := preset = strict

end Preset

namespace RuleKind

/-- A number that an option may not take below zero. -/
def count (value : Int) (fallback : Nat) : Nat := if 0 ≤ value then value.toNat else fallback

/-- The entry of the settings that holds the options of a kind that has some. -/
def optionsIn? (kind : RuleKind) (settings : Settings) : Option RuleEntry :=
  settings.options? kind.name (kind.codes.headD "")

def modeName (settings : Settings) : Option String :=
  (optionsIn? .nesting settings).map (·.str "paren_mode" "balanced")

/-- The rule of a kind, with its options. -/
def configure (kind : RuleKind) (settings : Settings) : Rule :=
  let entry := kind.optionsIn? settings
  let number := fun key (fallback : Nat) =>
    (entry.map fun e => count (e.int key fallback) fallback).getD fallback
  match kind with
  | outline => .outline
  | naming => .naming ((entry.map (·.strs "prefixes")).getD [])
  | includes => .includes
  | errorHandling =>
    .errorHandling (max (number "lookahead_lines" ErrorHandling.defaultLookahead) 1)
  | fieldPosition => .fieldPosition (number "max_index" FieldPosition.defaultLimit)
  | recordLock => .recordLock
  | rawFileAccess => .rawFileAccess
  | nesting =>
    .nesting (number "max_depth" Nesting.defaultLimit)
      (((modeName settings).bind Nesting.Mode.ofName?).getD .balanced)

@[simp] theorem kind_configure (kind : RuleKind) (settings : Settings) :
    (kind.configure settings).kind = kind := by
  cases kind <;> rfl

/-- A bracket mode in the settings that there is not. -/
def unknownMode? (kind : RuleKind) (settings : Settings) : Option String :=
  if kind = nesting then (modeName settings).filter (Nesting.Mode.ofName? · |>.isNone) else none

end RuleKind

namespace Settings

/-- The preset that the settings name; an unknown name stands for the recommended one. -/
def presetOrDefault (settings : Settings) : Preset :=
  (settings.preset.bind Preset.ofName?).getD .recommended

/-- A preset in the settings that there is not. -/
def unknownPreset? (settings : Settings) : Option String :=
  settings.preset.filter (Preset.ofName? · |>.isNone)

/-- The kinds of rule that the preset of the settings selects. -/
def kinds (settings : Settings) : List RuleKind := settings.presetOrDefault.kinds

/-- The rules that the preset of the settings selects. -/
def selectedRules (settings : Settings) : List Rule := settings.kinds.map (·.configure settings)

/-- The rule with the given name or code. -/
def rule? (settings : Settings) (key : String) : Option Rule :=
  (RuleKind.ofKey? key).map (·.configure settings)

end Settings

/-- A list of names and codes that picks rules. -/
structure RuleFilter where
  keys : List String

namespace RuleFilter

/-- The filter that a comma-separated text writes; empty entries do not count. -/
def ofText (text : String) : RuleFilter where
  keys := ((text.toList.splitOn ',').map Text.trim).filterMap fun key =>
    if key.isEmpty then none else some (String.ofList key)

/-- The kinds that a filter names, in order, and each only once. -/
def kinds (filter : RuleFilter) : List RuleKind := (filter.keys.filterMap RuleKind.ofKey?).eraseDups

/-- The keys that name no rule. -/
def unknown (filter : RuleFilter) : List String :=
  filter.keys.filter fun key => (RuleKind.ofKey? key).isNone

def rules (filter : RuleFilter) (settings : Settings) : List Rule :=
  filter.kinds.map (·.configure settings)

end RuleFilter

end BasicLint
