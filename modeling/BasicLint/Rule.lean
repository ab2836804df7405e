import BasicLint.Rule.ErrorHandling
import BasicLint.Rule.FieldPosition
import BasicLint.Rule.Includes
import BasicLint.Rule.Naming
import BasicLint.Rule.Nesting
import BasicLint.Rule.Outline
import BasicLint.Rule.RawFileAccess
import BasicLint.Rule.RecordLock

/-!
# Rules

There are eight kinds of rule. A rule is a kind with its options, and checking a source with it is a
function of the source alone.
-/
namespace BasicLint

inductive RuleKind where
  | outline
  | naming
  | includes
  | errorHandling
  | fieldPosition
  | recordLock
  | rawFileAccess
  | nesting
  deriving DecidableEq, Repr

namespace RuleKind

/-- Every kind, in the order of reporting. -/
def all : List RuleKind :=
  [outline, naming, includes, errorHandling, fieldPosition, recordLock, rawFileAccess, nesting]

theorem mem_all (kind : RuleKind) : kind ∈ all := by cases kind <;> decide

def name : RuleKind → String
  | outline => Outline.name
  | naming => Naming.name
  | includes => Includes.name
  | errorHandling => ErrorHandling.name
  | fieldPosition => FieldPosition.name
  | recordLock => RecordLock.name
  | rawFileAccess => RawFileAccess.name
  | nesting => Nesting.name

/-- The codes of the findings that a rule reports. -/
def codes : RuleKind → List String
  | outline => ["S001", "S002", "S003"]
  | naming => ["N002"]
  | includes => ["I001", "I002", "I003"]
  | errorHandling => ["E001"]
  | fieldPosition => ["A001"]
  | recordLock => ["A003"]
  | rawFileAccess => ["A004"]
  | nesting => ["A006"]

def description : RuleKind → String
  | outline => "Requires a SUBROUTINE/FUNCTION declaration, GOSUB sections and a closing END"
  | naming => "Variables should use FN.*, R.*, ERR.*, MY.*, UPPERCASE or camelCase names"
  | includes => "Checks $INSERT field definitions and $USING module imports"
  | errorHandling => "Service calls should be followed by an ERR/ETEXT check"
  | fieldPosition => "Use field equates instead of hard-coded field positions"
  | recordLock => "F.READU locks must be released by F.WRITE or F.RELEASE"
  | rawFileAccess => "Use T24 framework APIs instead of raw jBC file I/O"
  | nesting => "Keeps bracket nesting shallow"

/-- Whether all findings of a rule are kept for strict runs. -/
def strictOnly : RuleKind → Bool
  | naming | errorHandling => true
  | _ => false

def ofName? (name : String) : Option RuleKind := all.find? (·.name = name)

/-- The kind with the given name or code, whatever its case and the blanks around it. -/
def ofKey? (key : String) : Option RuleKind :=
  let key := String.ofList (Text.trim key.toList)
  (all.find? (key.toUpper ∈ ·.codes)).or (ofName? key.toLower)

@[simp] theorem ofName?_name (kind : RuleKind) : ofName? kind.name = some kind := by
  cases kind <;> decide

theorem name_injective {a b : RuleKind} (h : a.name = b.name) : a = b :=
  Option.some.inj (by rw [← ofName?_name a, ← ofName?_name b, h])

end RuleKind

/-- A kind of rule with its options. -/
inductive Rule where
  | outline
  | naming (extraPrefixes : List String)
  | includes
  | errorHandling (lookahead : Nat)
  | fieldPosition (limit : Nat)
  | recordLock
  | rawFileAccess
  | nesting (limit : Nat) (mode : Nesting.Mode)
  deriving DecidableEq, Repr

namespace Rule

def kind : Rule → RuleKind
  | outline => .outline
  | naming _ => .naming
  | includes => .includes
  | errorHandling _ => .errorHandling
  | fieldPosition _ => .fieldPosition
  | recordLock => .recordLock
  | rawFileAccess => .rawFileAccess
  | nesting _ _ => .nesting

def name (rule : Rule) : String := rule.kind.name

def check : Rule → Source → List Diagnostic
  | outline => Outline.check
  | naming extraPrefixes => Naming.check extraPrefixes
  | includes => Includes.check
  | errorHandling lookahead => ErrorHandling.check lookahead
  | fieldPosition limit => FieldPosition.check limit
  | recordLock => RecordLock.check
  | rawFileAccess => RawFileAccess.check
  | nesting limit mode => Nesting.check limit mode

end Rule

end BasicLint
