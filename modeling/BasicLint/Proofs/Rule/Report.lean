import BasicLint.Rule
import Mathlib.Tactic.Common

/-!
# What each rule reports

For each rule: the codes of its findings, how grave they are, and where the line of a finding comes
from. A finding is about the first line, about the last one, about a declaration, about the line a
scan is on, or about the line of a hit.
-/
namespace BasicLint

open Text

/-- How grave findings with a code are, before settings and directives change it. -/
def Severity.ofCode (id : String) : Severity :=
  if id ∈ ["S001", "S003", "A001", "A004"] then .error
  else if id ∈ ["I001", "I003", "E001", "A003"] then .warning
  else .info

/-- A finding with the given code on the given line, whatever it says. -/
structure Source.Reports (source : Source) (id rule : String) (line : Nat) (d : Diagnostic) :
    Prop where
  id_eq : d.id = id
  rule_eq : d.rule = rule
  severity_eq : d.severity = Severity.ofCode id
  line_eq : d.line = line
  snippet_eq : d.snippet = String.ofList (Text.snippet source.text line)

lemma Source.reports_diagnostic (source : Source) {id rule : String} {severity : Severity}
    {line : Nat} {message : String} {suggestion : Option String}
    (hseverity : severity = Severity.ofCode id) :
    source.Reports id rule line (source.diagnostic id rule severity line message suggestion) where
  id_eq := rfl
  rule_eq := rfl
  severity_eq := hseverity
  line_eq := rfl
  snippet_eq := by simp [diagnostic]

variable {source : Source} {d : Diagnostic}

lemma Source.Reports.toList_snippet {id rule : String} {line : Nat}
    (h : source.Reports id rule line d) : d.snippet.toList = Text.snippet source.text line := by
  rw [h.snippet_eq, String.toList_ofList]

namespace Outline

lemma mem_unsectioned {line : Nat} (h : d ∈ unsectioned source line) :
    source.Reports "S002" name line d := by
  unfold unsectioned at h
  split_ifs at h
  · rw [List.mem_singleton.1 h]
    exact source.reports_diagnostic (by decide)
  · simp at h

lemma mem_unclosed (h : d ∈ unclosed source) :
    source.Reports "S003" name (max source.lineCount 1) d := by
  unfold unclosed at h
  split_ifs at h
  · simp at h
  · rw [List.mem_singleton.1 h]
    exact source.reports_diagnostic (by decide)

theorem mem_check (h : d ∈ check source) :
    source.Reports "S001" name 1 d ∨
      (∃ line, Callable.line? .subroutine source.text = some line ∧
        source.Reports "S002" name line d) ∨
      source.Reports "S003" name (max source.lineCount 1) d := by
  unfold check at h
  split at h
  · rw [List.mem_singleton.1 h]
    exact .inl (source.reports_diagnostic (by decide))
  · rename_i line hline
    rcases List.mem_append.1 h with h | h
    · exact .inr (.inl ⟨line, hline, mem_unsectioned h⟩)
    · exact .inr (.inr (mem_unclosed h))
  · exact .inr (.inr (mem_unclosed h))

end Outline

theorem Naming.mem_check {extraPrefixes : List String} (h : d ∈ check extraPrefixes source) :
    ∃ line number, (line, number) ∈ (lines source.text).zipIdx 1 ∧
      ∃ hit ∈ assigned line number,
        source.Reports "N002" name number d ∧ d.message = message hit.value := by
  unfold check at h
  split_ifs at h
  · obtain ⟨⟨line, number⟩, hline, h⟩ := List.mem_flatMap.1 h
    obtain ⟨hit, hhit, rfl⟩ := List.mem_map.1 h
    rw [Source.lines_eq] at hline
    exact ⟨line, number, hline, hit, (List.mem_filter.1 hhit).1,
      source.reports_diagnostic (by decide), rfl⟩
  · simp at h

namespace Includes

lemma mem_withoutImports (h : d ∈ withoutImports source) :
    ∃ line, Callable.line? .function source.text = some line ∧
      source.Reports "I001" name line d := by
  unfold withoutImports at h
  split at h
  · simp at h
  · rename_i line hline
    split_ifs at h
    · rw [List.mem_singleton.1 h]
      exact ⟨line, hline, source.reports_diagnostic (by decide)⟩
    · simp at h

lemma mem_withoutInsertions (h : d ∈ withoutInsertions source) :
    source.Reports "I002" name 1 d := by
  unfold withoutInsertions at h
  split_ifs at h
  · simp at h
  · rw [List.mem_singleton.1 h]
    exact source.reports_diagnostic (by decide)

/-- What is said about a module with an unusual name. -/
def message (module : List Char) : String :=
  "$USING module '" ++ String.ofList module ++ "' should be UPPERCASE with dots (universal pattern)"

lemma mem_misnamed (h : d ∈ misnamed source) :
    ∃ hit ∈ imports source.text,
      source.Reports "I003" name hit.line d ∧ d.message = message hit.value := by
  obtain ⟨hit, hhit, rfl⟩ := List.mem_map.1 h
  exact ⟨hit, (List.mem_filter.1 hhit).1, source.reports_diagnostic (by decide), rfl⟩

theorem mem_check (h : d ∈ check source) :
    (∃ line, Callable.line? .function source.text = some line ∧
        source.Reports "I001" name line d) ∨
      source.Reports "I002" name 1 d ∨
      ∃ hit ∈ imports source.text,
        source.Reports "I003" name hit.line d ∧ d.message = message hit.value := by
  rcases List.mem_append.1 h with h | h
  · split_ifs at h
    · rcases List.mem_append.1 h with h | h
      · exact .inl (mem_withoutImports h)
      · exact .inr (.inl (mem_withoutInsertions h))
    · simp at h
  · exact .inr (.inr (mem_misnamed h))

end Includes

theorem ErrorHandling.mem_check {lookahead : Nat} (h : d ∈ check lookahead source) :
    ∃ hit ∈ calls source.text, source.Reports "E001" name hit.line d := by
  unfold check at h
  split_ifs at h
  · obtain ⟨hit, hhit, rfl⟩ := List.mem_map.1 h
    exact ⟨hit, (List.mem_filter.1 hhit).1, source.reports_diagnostic (by decide)⟩
  · simp at h

theorem FieldPosition.mem_check {limit : Nat} (h : d ∈ check limit source) :
    ∃ hit ∈ accesses source.text,
      source.Reports "A001" name hit.line d ∧ d.message = message hit.value := by
  obtain ⟨hit, hhit, rfl⟩ := List.mem_map.1 h
  exact ⟨hit, (List.mem_filter.1 hhit).1, source.reports_diagnostic (by decide), rfl⟩

theorem RecordLock.mem_check (h : d ∈ check source) :
    ∃ hit ∈ locks source.text, source.Reports "A003" name hit.line d := by
  obtain ⟨hit, hhit, rfl⟩ := List.mem_map.1 h
  exact ⟨hit, (List.mem_filter.1 hhit).1, source.reports_diagnostic (by decide)⟩

theorem RawFileAccess.mem_check (h : d ∈ check source) :
    ∃ hit ∈ scan statement 1 source.text, source.Reports "A004" name hit.line d := by
  obtain ⟨hit, hhit, rfl⟩ := List.mem_map.1 h
  exact ⟨hit, hhit, source.reports_diagnostic (by decide)⟩

theorem Nesting.mem_check {limit : Nat} {mode : Mode} (h : d ∈ check limit mode source) :
    source.Reports "A006" name 1 d := by
  unfold check at h
  split_ifs at h
  · simp at h
  · rw [List.mem_singleton.1 h]
    exact source.reports_diagnostic (by decide)

end BasicLint
