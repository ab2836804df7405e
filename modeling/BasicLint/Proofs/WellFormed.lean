import BasicLint.Proofs.Findings
import BasicLint.Proofs.Recognition
import BasicLint.Proofs.Rule.Report

/-!
# Diagnostics point into the text

A diagnostic carries a code of the rule that it names. Its line is a line of the text, or the first
one where the text has none, and it shows that line.
-/
namespace BasicLint

open Text

/-- A diagnostic that a rule may report on a text. -/
structure Diagnostic.WellFormed (rule : Rule) (text : List Char) (d : Diagnostic) : Prop where
  rule_eq : d.rule = rule.name
  id_mem : d.id ∈ rule.kind.codes
  line_pos : 1 ≤ d.line
  line_le : d.line ≤ max 1 (lines text).length
  snippet_eq : d.snippet = String.ofList (trim ((line? text d.line).getD []))
  blank_of_snippet : d.snippet = "" → ∀ l, line? text d.line = some l → ∀ c ∈ l, isBlank c = true

/-- Settings and directives leave a diagnostic well formed. -/
lemma Diagnostic.WellFormed.of_sameFinding {rule : Rule} {text : List Char} {d e : Diagnostic}
    (hd : d.WellFormed rule text) (h : d.SameFinding e) : e.WellFormed rule text where
  rule_eq := h.rule_eq.trans hd.rule_eq
  id_mem := h.id_eq ▸ hd.id_mem
  line_pos := h.line_eq ▸ hd.line_pos
  line_le := h.line_eq ▸ hd.line_le
  snippet_eq := by rw [h.snippet_eq, h.line_eq, hd.snippet_eq]
  blank_of_snippet := by
    rw [h.snippet_eq, h.line_eq]
    exact hd.blank_of_snippet

variable {source : Source} {d : Diagnostic}

lemma Source.Reports.wellFormed {rule : Rule} {id : String} {line : Nat}
    (h : source.Reports id rule.name line d) (hid : id ∈ rule.kind.codes)
    (hpos : 1 ≤ line) (hle : line ≤ max 1 (Text.lines source.text).length) :
    d.WellFormed rule source.text := by
  have hsnippet : d.snippet = String.ofList (trim ((line? source.text d.line).getD [])) := by
    rw [h.snippet_eq, h.line_eq, Text.snippet]
  refine ⟨h.rule_eq, h.id_eq ▸ hid, h.line_eq ▸ hpos, h.line_eq ▸ hle, hsnippet, ?_⟩
  intro he l hl
  rw [hsnippet, hl, Option.getD_some, String.ofList_eq_empty_iff] at he
  exact trim_eq_nil_iff.1 he

/-! ## The lines of findings -/

lemma Source.Reports.wellFormed_first {rule : Rule} {id : String}
    (h : source.Reports id rule.name 1 d) (hid : id ∈ rule.kind.codes) :
    d.WellFormed rule source.text :=
  h.wellFormed hid le_rfl (le_max_left _ _)

lemma Source.Reports.wellFormed_last {rule : Rule} {id : String}
    (h : source.Reports id rule.name (max source.lineCount 1) d) (hid : id ∈ rule.kind.codes) :
    d.WellFormed rule source.text := by
  rw [source.lineCount_eq, max_comm] at h
  exact h.wellFormed hid (le_max_left _ _) le_rfl

lemma Source.Reports.wellFormed_hit {rule : Rule} {id : String} {α : Type} {p : Recognizer α}
    {hit : Hit α} (h : source.Reports id rule.name hit.line d) (hid : id ∈ rule.kind.codes)
    (hp : p.Advances) (hhit : hit ∈ scan p 1 source.text) : d.WellFormed rule source.text := by
  obtain ⟨site⟩ := mem_scan hhit
  have hline := site.line_mem hp
  exact h.wellFormed hid hline.1 (hline.2.trans (le_max_right _ _))

lemma Source.Reports.wellFormed_declaration {rule : Rule} {id : String} {callable : Callable}
    {line : Nat} (h : source.Reports id rule.name line d) (hid : id ∈ rule.kind.codes)
    (hline : callable.line? source.text = some line) : d.WellFormed rule source.text := by
  obtain ⟨hit, hhit, rfl⟩ := Option.map_eq_some_iff.1 hline
  rw [first?_eq] at hhit
  exact h.wellFormed_hit hid callable.advances_declaration (List.mem_of_head? hhit)

theorem Rule.wellFormed_of_mem_check {rule : Rule} (h : d ∈ rule.check source) :
    d.WellFormed rule source.text := by
  cases rule with
  | outline =>
    obtain hr | ⟨line, hline, hr⟩ | hr := Outline.mem_check h
    · exact hr.wellFormed_first (by decide)
    · exact hr.wellFormed_declaration (by decide) hline
    · exact hr.wellFormed_last (by decide)
  | naming extraPrefixes =>
    obtain ⟨l, number, hl, -, -, hr, -⟩ := Naming.mem_check h
    obtain ⟨hpos, hle⟩ := bounds_of_line? (line?_of_mem_zipIdx hl)
    exact hr.wellFormed (List.mem_singleton_self _) hpos (hle.trans (le_max_right _ _))
  | includes =>
    obtain ⟨line, hline, hr⟩ | hr | ⟨hit, hhit, hr, -⟩ := Includes.mem_check h
    · exact hr.wellFormed_declaration (by decide) hline
    · exact hr.wellFormed_first (by decide)
    · exact hr.wellFormed_hit (by decide) Includes.advances_imported hhit
  | errorHandling lookahead =>
    obtain ⟨hit, hhit, hr⟩ := ErrorHandling.mem_check h
    exact hr.wellFormed_hit (List.mem_singleton_self _) ErrorHandling.advances_call hhit
  | fieldPosition limit =>
    obtain ⟨hit, hhit, hr, -⟩ := FieldPosition.mem_check h
    exact hr.wellFormed_hit (List.mem_singleton_self _) FieldPosition.advances_access hhit
  | recordLock =>
    obtain ⟨hit, hhit, hr⟩ := RecordLock.mem_check h
    exact hr.wellFormed_hit (List.mem_singleton_self _) RecordLock.advances_lock
      (RecordLock.mem_locks.1 hhit).1
  | rawFileAccess =>
    obtain ⟨hit, hhit, hr⟩ := RawFileAccess.mem_check h
    exact hr.wellFormed_hit (List.mem_singleton_self _) RawFileAccess.advances_statement hhit
  | nesting limit mode =>
    exact (Nesting.mem_check h).wellFormed_first (List.mem_singleton_self _)

/-! ## Reports -/

/-- Every diagnostic of a report is well formed for a rule of the analyzer. -/
theorem Analyzer.wellFormed_of_mem_checkSource {analyzer : Analyzer} {path : String}
    {text : List Char} {d : Diagnostic} (h : d ∈ (analyzer.checkSource path text).diagnostics) :
    ∃ rule ∈ analyzer.rules, d.WellFormed rule text := by
  obtain ⟨rule, hrule, -, finding, hfinding, hsame⟩ := mem_checkText h
  exact ⟨rule, hrule, (Rule.wellFormed_of_mem_check hfinding).of_sameFinding hsame⟩

/-- An access over two lines is reported on the line of its record. -/
theorem Analyzer.wellFormed_of_mem_checkSource_access :
    let analyzer : Analyzer := { rules := [.outline, .fieldPosition 10] }
    let text := "FUNCTION A\n R\n<11> ".toList
    let d : Diagnostic := Source.diagnostic { text, strict := false } "A001" "hardcoded-position"
      .error 2 "Hard-coded field position 11 in 'R<11>'"
      (some "Use field equates instead of position numbers")
    d ∈ (analyzer.checkSource "A.b" text).diagnostics ∧
      ∃ rule ∈ analyzer.rules, d.WellFormed rule text := by
  intro analyzer text d
  have h : d ∈ (analyzer.checkSource "A.b" text).diagnostics := by decide +kernel
  exact ⟨h, wellFormed_of_mem_checkSource h⟩

end BasicLint
