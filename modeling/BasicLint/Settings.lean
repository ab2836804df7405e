import BasicLint.Diagnostic
import BasicLint.Toml.Document

/-!
# Settings

The settings of a run, read from a TOML document. The table of rules is keyed both by names of rules
and by codes of findings: the two kinds of entry are asked for in an order that depends on the
question.
-/
namespace BasicLint

/-- What the settings say about a rule or a code. -/
structure RuleEntry where
  enabled : Option Bool := none
  severity : Option Severity := none
  /-- All other fields. -/
  options : Toml.Fields := []

namespace RuleEntry

def int (entry : RuleEntry) (key : String) (fallback : Int) : Int :=
  ((entry.options.lookup key).bind Toml.Value.asInt?).getD fallback

def str (entry : RuleEntry) (key : String) (fallback : String) : String :=
  ((entry.options.lookup key).bind Toml.Value.asStr?).getD fallback

/-- The strings of an array; items of another type are left out. -/
def strs (entry : RuleEntry) (key : String) : List String :=
  (((entry.options.lookup key).bind Toml.Value.asArray?).getD []).filterMap Toml.Value.asStr?

end RuleEntry

structure Settings where
  preset : Option String := none
  strict : Bool := false
  /-- Patterns of paths that a scan leaves out. -/
  exclude : List String := []
  /-- Extensions of source files, without the dot. -/
  extensions : List String := ["b"]
  parallelism : Option Nat := none
  /-- Entries by name of rule or code of finding. -/
  rules : List (String × RuleEntry) := []

namespace Settings

def entryFor? (settings : Settings) (key : String) : Option RuleEntry := settings.rules.lookup key

/-- Whether a rule or a code is not switched off. -/
def isEnabled (settings : Settings) (key : String) : Bool :=
  ((settings.entryFor? key).bind (·.enabled)).getD true

/-- The severity that replaces the one of a finding; the entry of its code wins over that of its
rule. -/
def severity? (settings : Settings) (id rule : String) : Option Severity :=
  ((settings.entryFor? id).bind (·.severity)).or ((settings.entryFor? rule).bind (·.severity))

/-- The entry with the options of a rule: that of its name, and only without one that of its code. -/
def options? (settings : Settings) (name code : String) : Option RuleEntry :=
  (settings.entryFor? name).or (settings.entryFor? code)

/-! ## Reading -/

/-- A severity: its name, or a table with that name as the only key and nothing behind it. -/
def readSeverity? : Toml.Value → Option Severity
  | .str text => Severity.ofKey? text
  | .table _ [(key, .table _ [])] => Severity.ofKey? key
  | .table _ [(key, .array _ [])] => Severity.ofKey? key
  | _ => none

/-- A field that may be missing, but not be of the wrong type. -/
def optional? {α : Type} (read : Toml.Value → Option α) (value : Option Toml.Value) :
    Option (Option α) :=
  match value with
  | none => some none
  | some value => (read value).map some

def readCount? (value : Toml.Value) : Option Nat := do
  let n ← value.asInt?
  if 0 ≤ n then some n.toNat else none

def readRule? (value : Toml.Value) : Option RuleEntry := do
  let fields ← value.asFields?
  let enabled ← optional? Toml.Value.asBool? (fields.lookup "enabled")
  let severity ← optional? readSeverity? (fields.lookup "severity")
  let options ← Toml.Value.settleFields?
    (fields.filter fun field => field.1 ≠ "enabled" ∧ field.1 ≠ "severity")
  some { enabled, severity, options }

/-- The fields that say what is scanned, by name or, in an array, by position. -/
def readScan? (settings : Settings) (value : Toml.Value) : Option Settings := do
  let (exclude, extensions, parallelism) ← match value with
    | .array _ items => some (items[0]?, items[1]?, items[2]?)
    | _ => value.asFields?.map fun fields =>
      (fields.lookup "exclude", fields.lookup "extensions", fields.lookup "parallelism")
  let exclude ← optional? Toml.Value.asStrings? exclude
  let extensions ← optional? Toml.Value.asStrings? extensions
  let parallelism ← optional? readCount? parallelism
  some { settings with
    exclude := exclude.getD settings.exclude
    extensions := extensions.getD settings.extensions
    parallelism }

def readRules? (value : Toml.Value) : Option (List (String × RuleEntry)) := do
  let fields ← value.asFields?
  fields.mapM fun field => (readRule? field.2).map fun entry => (field.1, entry)

/-- The settings in the fields of a document. Fields of other names are ignored. -/
def ofFields? (fields : Toml.Fields) : Option Settings := do
  let preset ← optional? Toml.Value.asStr? (fields.lookup "preset")
  let strict ← optional? Toml.Value.asBool? (fields.lookup "strict")
  let rules ← optional? readRules? (fields.lookup "rules")
  let settings : Settings := { preset, strict := strict.getD false, rules := rules.getD [] }
  match fields.lookup "analyzer" with
  | none => some settings
  | some value => readScan? settings value

def parse? (text : List Char) : Option Settings := (Toml.parse? text).bind ofFields?

end Settings

end BasicLint
