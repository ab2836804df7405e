import BasicLint.Selection
import Mathlib.Tactic.Common

/-!
# Where the options of a rule come from

A rule with options has two entries in the settings, that of its name and that of its code. One of
them is asked, and it is asked for all options: the entry of the name, and only where there is none
the entry of the code. So an entry of the name that says nothing about an option still hides what the
entry of the code says about it.
-/
namespace BasicLint

/-- The options that settings can give to rules. -/
inductive Tunable where
  | prefixes
  | lookahead
  | maxIndex
  | maxDepth
  | bracketMode
  deriving DecidableEq, Repr

namespace Tunable

/-- What an option can be set to. -/
inductive Value where
  | texts (items : List String)
  | number (n : Nat)
  | mode (mode : Nesting.Mode)
  deriving DecidableEq, Repr

/-- The kind of rule that has an option. -/
def kind : Tunable → RuleKind
  | prefixes => .naming
  | lookahead => .errorHandling
  | maxIndex => .fieldPosition
  | maxDepth | bracketMode => .nesting

/-- The code of the rule that has an option. -/
def code (option : Tunable) : String := option.kind.codes.headD ""

/-- The field of an entry that sets an option. -/
def key : Tunable → String
  | prefixes => "prefixes"
  | lookahead => "lookahead_lines"
  | maxIndex => "max_index"
  | maxDepth => "max_depth"
  | bracketMode => "paren_mode"

/-- The value that a field stands for, if it is a valid one. A window has at least one line. -/
def read? : Tunable → Toml.Value → Option Value
  | prefixes, field => field.asArray?.map fun items => .texts (items.filterMap Toml.Value.asStr?)
  | lookahead, field => (Settings.readCount? field).map fun n => .number (max n 1)
  | maxIndex, field | maxDepth, field => (Settings.readCount? field).map .number
  | bracketMode, field => (field.asStr?.bind Nesting.Mode.ofName?).map .mode

/-- The value of an option that is not set. -/
def fallback : Tunable → Value
  | prefixes => .texts []
  | lookahead => .number ErrorHandling.defaultLookahead
  | maxIndex => .number FieldPosition.defaultLimit
  | maxDepth => .number Nesting.defaultLimit
  | bracketMode => .mode .balanced

/-- The value with which a rule works. -/
def valueIn? : Tunable → Rule → Option Value
  | prefixes, .naming extraPrefixes => some (.texts extraPrefixes)
  | lookahead, .errorHandling lines => some (.number lines)
  | maxIndex, .fieldPosition limit => some (.number limit)
  | maxDepth, .nesting limit _ => some (.number limit)
  | bracketMode, .nesting _ mode => some (.mode mode)
  | _, _ => none

/-- The value that an entry gives to an option; the default where it gives no valid one. -/
def valueFrom (option : Tunable) (entry : Option RuleEntry) : Value :=
  (entry.bind fun e => (e.options.lookup option.key).bind option.read?).getD option.fallback

/-- A number in an entry, read with a default, is the valid number that the field stands for, or the
default. -/
lemma count_int (entry : RuleEntry) (key : String) (fallback : Nat) :
    RuleKind.count (entry.int key fallback) fallback =
      ((entry.options.lookup key).bind Settings.readCount?).getD fallback := by
  unfold RuleEntry.int RuleKind.count
  cases entry.options.lookup key with
  | none => simp
  | some field =>
    cases hfield : field.asInt? with
    | none => simp [hfield, Settings.readCount?]
    | some n => by_cases hn : 0 ≤ n <;> simp [hfield, Settings.readCount?, hn]

/-- An option that is a number takes it from the field of an entry, or is the default. -/
lemma valueFrom_number {option : Tunable} (make : Nat → Value) (fallback : Nat)
    (hread : ∀ field, option.read? field = (Settings.readCount? field).map make)
    (hfallback : option.fallback = make fallback) (entry : Option RuleEntry) :
    option.valueFrom entry =
      make ((entry.map fun e => RuleKind.count (e.int option.key fallback) fallback).getD
        fallback) := by
  unfold valueFrom
  rw [hfallback]
  cases entry with
  | none => rfl
  | some e =>
    simp only [Option.bind_some, Option.map_some, Option.getD_some, count_int]
    cases e.options.lookup option.key with
    | none => rfl
    | some field => simp only [Option.bind_some, hread, Option.getD_map]

/-- A configured rule works with the values that one entry gives to its options. -/
theorem valueIn?_configure (option : Tunable) (settings : Settings) :
    option.valueIn? (option.kind.configure settings) =
      some (option.valueFrom (option.kind.optionsIn? settings)) := by
  cases option with
  | prefixes =>
    simp only [valueFrom, kind, valueIn?, RuleKind.configure, key]
    cases RuleKind.optionsIn? .naming settings with
    | none => rfl
    | some e =>
      cases h : e.options.lookup "prefixes" with
      | none => simp [RuleEntry.strs, h, fallback]
      | some field => cases hf : field.asArray? <;> simp [RuleEntry.strs, h, hf, read?, fallback]
  | lookahead =>
    rw [valueFrom_number (fun n => .number (max n 1)) ErrorHandling.defaultLookahead
      (fun _ => rfl) rfl]
    rfl
  | maxIndex =>
    rw [valueFrom_number .number FieldPosition.defaultLimit (fun _ => rfl) rfl]
    rfl
  | maxDepth =>
    rw [valueFrom_number .number Nesting.defaultLimit (fun _ => rfl) rfl]
    rfl
  | bracketMode =>
    have hbalanced : Nesting.Mode.ofName? "balanced" = some .balanced := by decide +kernel
    simp only [valueFrom, kind, valueIn?, RuleKind.configure, RuleKind.modeName, key]
    cases RuleKind.optionsIn? .nesting settings with
    | none => rfl
    | some e =>
      cases h : e.options.lookup "paren_mode" with
      | none => simp [RuleEntry.str, h, fallback, hbalanced]
      | some field =>
        cases hf : field.asStr? with
        | none => simp [RuleEntry.str, h, hf, read?, fallback, hbalanced]
        | some name =>
          cases hm : Nesting.Mode.ofName? name <;>
            simp [RuleEntry.str, h, hf, hm, read?, fallback]

variable {settings : Settings}

/-- Both ways to a rule, by the preset and by a name or code, configure it. -/
lemma eq_configure {rule : Rule}
    (h : rule ∈ settings.selectedRules ∨ ∃ name, settings.rule? name = some rule) :
    rule = rule.kind.configure settings := by
  rcases h with h | ⟨name, h⟩
  · obtain ⟨kind, -, rfl⟩ := List.mem_map.1 h
    rw [RuleKind.kind_configure]
  · obtain ⟨kind, -, rfl⟩ := Option.map_eq_some_iff.1 h
    rw [RuleKind.kind_configure]

/-- The entry of a code sets an option to a valid value, and that of the name says nothing about it.
Then a rule, however it is chosen, works with that value where there is no entry of the name, and
with the default where there is one. -/
theorem valueIn?_of_code_entry (option : Tunable) {rule : Rule} {entry : RuleEntry}
    {field : Toml.Value} {value : Value}
    (hrule : rule ∈ settings.selectedRules ∨ ∃ name, settings.rule? name = some rule)
    (hkind : rule.kind = option.kind)
    (hentry : settings.entryFor? option.code = some entry)
    (hfield : entry.options.lookup option.key = some field)
    (hvalue : option.read? field = some value)
    (hname : ∀ e, settings.entryFor? option.kind.name = some e →
      e.options.lookup option.key = none) :
    option.valueIn? rule =
      some (if (settings.entryFor? option.kind.name).isNone then value else option.fallback) := by
  rw [eq_configure hrule, hkind, valueIn?_configure, RuleKind.optionsIn?, Settings.options?]
  change some (option.valueFrom ((settings.entryFor? option.kind.name).or
    (settings.entryFor? option.code))) = _
  cases hn : settings.entryFor? option.kind.name with
  | none => simp [hentry, valueFrom, hfield, hvalue]
  | some e => simp [valueFrom, hname e hn]

theorem valueIn?_of_code_entry_legacy :
    let settings : Settings := { rules := [("A006", { options := [("paren_mode", .str "legacy")] })] }
    Rule.nesting 3 .legacy ∈ settings.selectedRules ∧
      bracketMode.valueIn? (.nesting 3 .legacy) = some (.mode .legacy) := by
  intro settings
  have hrule : Rule.nesting 3 .legacy ∈ settings.selectedRules := by decide +kernel
  have hvalue : bracketMode.read? (.str "legacy") = some (.mode .legacy) := by decide +kernel
  have hname : ∀ e, settings.entryFor? "nesting-depth" = some e →
      e.options.lookup "paren_mode" = none := by
    rintro e ⟨⟩
  exact ⟨hrule, valueIn?_of_code_entry bracketMode (.inl hrule) rfl rfl rfl hvalue hname⟩

/-- An entry of the name that only changes the severity hides the option that the entry of the code
sets. -/
theorem not_valueIn?_of_code_entry :
    ¬ ∀ (option : Tunable) (settings : Settings) (rule : Rule) (entry : RuleEntry)
      (field : Toml.Value) (value : Value),
      (rule ∈ settings.selectedRules ∨ ∃ name, settings.rule? name = some rule) →
      rule.kind = option.kind →
      settings.entryFor? option.code = some entry →
      entry.options.lookup option.key = some field →
      option.read? field = some value →
      (∀ e, settings.entryFor? option.kind.name = some e → e.options.lookup option.key = none) →
      option.valueIn? rule = some value := by
  intro h
  let settings : Settings :=
    { rules := [("hardcoded-position", { severity := some .warning }),
        ("A001", { options := [("max_index", .int 3)] })] }
  have hrule : Rule.fieldPosition 10 ∈ settings.selectedRules := by decide +kernel
  have hname : ∀ e, settings.entryFor? "hardcoded-position" = some e →
      e.options.lookup "max_index" = none := by
    rintro e ⟨⟩
    rfl
  have hvalue := h .maxIndex settings _ _ _ (.number 3) (.inl hrule) rfl rfl rfl rfl hname
  contradiction

end Tunable

end BasicLint
