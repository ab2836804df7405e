import BasicLint.Proofs.Findings
import BasicLint.Proofs.Rule.Report

/-!
# Strict runs only add findings

A strict run reports everything that the same run reports when it is not strict, in the same order
and unchanged. What it adds are findings with codes of their own.
-/
namespace BasicLint

/-- The codes of findings that only strict runs report. -/
def strictCodes : List String := ["S002", "N002", "I001", "I002", "E001"]

/-- Whether a code is reported in strict and in other runs alike. -/
def isLaxCode (id : String) : Bool := id ∉ strictCodes

lemma filter_isLaxCode_eq_self {ds : List Diagnostic} (id : String) (hid : isLaxCode id = true)
    (h : ∀ d ∈ ds, d.id = id) : ds.filter (isLaxCode ·.id) = ds := by
  rw [List.filter_eq_self]
  intro d hd
  rw [h d hd, hid]

lemma filter_isLaxCode_eq_nil {ds : List Diagnostic} (id : String) (hid : isLaxCode id = false)
    (h : ∀ d ∈ ds, d.id = id) : ds.filter (isLaxCode ·.id) = [] := by
  rw [List.filter_eq_nil_iff]
  intro d hd
  simp [h d hd, hid]

/-! ## Single rules -/

variable (text : List Char)

theorem Outline.check_lax : check { text, strict := false } =
    (check { text, strict := true }).filter (isLaxCode ·.id) := by
  have hkeep : (unclosed { text, strict := true }).filter (isLaxCode ·.id) =
      unclosed { text, strict := false } :=
    filter_isLaxCode_eq_self "S003" (by decide) fun _ hd => (mem_unclosed hd).id_eq
  have hdrop (line : Nat) :
      (unsectioned { text, strict := true } line).filter (isLaxCode ·.id) = [] :=
    filter_isLaxCode_eq_nil "S002" (by decide) fun _ hd => (mem_unsectioned hd).id_eq
  unfold check
  dsimp only
  split
  · rfl
  · rw [List.filter_append, hdrop, hkeep]
    rfl
  · rw [hkeep]

theorem Naming.check_lax (extraPrefixes : List String) :
    check extraPrefixes { text, strict := false } =
      (check extraPrefixes { text, strict := true }).filter (isLaxCode ·.id) := by
  have hid : ∀ d ∈ check extraPrefixes { text, strict := true }, d.id = "N002" := by
    intro d hd
    obtain ⟨_, _, _, _, _, hr, _⟩ := mem_check hd
    exact hr.id_eq
  rw [filter_isLaxCode_eq_nil "N002" (by decide) hid]
  rfl

theorem Includes.check_lax : check { text, strict := false } =
    (check { text, strict := true }).filter (isLaxCode ·.id) := by
  have himports : (withoutImports { text, strict := true }).filter (isLaxCode ·.id) = [] := by
    refine filter_isLaxCode_eq_nil "I001" (by decide) fun d hd => ?_
    obtain ⟨_, _, hr⟩ := mem_withoutImports hd
    exact hr.id_eq
  have hinsertions : (withoutInsertions { text, strict := true }).filter (isLaxCode ·.id) = [] :=
    filter_isLaxCode_eq_nil "I002" (by decide) fun d hd => (mem_withoutInsertions hd).id_eq
  have hmisnamed : (misnamed { text, strict := true }).filter (isLaxCode ·.id) =
      misnamed { text, strict := false } := by
    refine filter_isLaxCode_eq_self "I003" (by decide) fun d hd => ?_
    obtain ⟨_, _, hr, _⟩ := mem_misnamed hd
    exact hr.id_eq
  unfold check
  rw [List.filter_append, hmisnamed, if_pos rfl, List.filter_append, himports, hinsertions]
  rfl

theorem ErrorHandling.check_lax (lookahead : Nat) :
    check lookahead { text, strict := false } =
      (check lookahead { text, strict := true }).filter (isLaxCode ·.id) := by
  have hid : ∀ d ∈ check lookahead { text, strict := true }, d.id = "E001" := by
    intro d hd
    obtain ⟨_, _, hr⟩ := mem_check hd
    exact hr.id_eq
  rw [filter_isLaxCode_eq_nil "E001" (by decide) hid]
  rfl

/-- A strict check of a single rule adds findings with codes of strict runs and changes none. -/
theorem Rule.check_lax (rule : Rule) : rule.check { text, strict := false } =
    (rule.check { text, strict := true }).filter (isLaxCode ·.id) := by
  cases rule with
  | outline => exact Outline.check_lax text
  | naming extraPrefixes => exact Naming.check_lax text extraPrefixes
  | includes => exact Includes.check_lax text
  | errorHandling lookahead => exact ErrorHandling.check_lax text lookahead
  | fieldPosition limit =>
    refine (filter_isLaxCode_eq_self "A001" (by decide) fun d hd => ?_).symm
    obtain ⟨_, _, hr, _⟩ := FieldPosition.mem_check hd
    exact hr.id_eq
  | recordLock =>
    refine (filter_isLaxCode_eq_self "A003" (by decide) fun d hd => ?_).symm
    obtain ⟨_, _, hr⟩ := RecordLock.mem_check hd
    exact hr.id_eq
  | rawFileAccess =>
    refine (filter_isLaxCode_eq_self "A004" (by decide) fun d hd => ?_).symm
    obtain ⟨_, _, hr⟩ := RawFileAccess.mem_check hd
    exact hr.id_eq
  | nesting limit mode =>
    refine (filter_isLaxCode_eq_self "A006" (by decide) fun d hd => ?_).symm
    exact (Nesting.mem_check hd).id_eq

/-- A rule that is kept for strict runs finds nothing in others. -/
lemma Rule.check_eq_nil_of_strictOnly {rule : Rule} (h : rule.kind.strictOnly = true) :
    rule.check { text, strict := false } = [] := by
  cases rule with
  | naming _ => rfl
  | errorHandling _ => rfl
  | outline => simp [Rule.kind, RuleKind.strictOnly] at h
  | includes => simp [Rule.kind, RuleKind.strictOnly] at h
  | fieldPosition _ => simp [Rule.kind, RuleKind.strictOnly] at h
  | recordLock => simp [Rule.kind, RuleKind.strictOnly] at h
  | rawFileAccess => simp [Rule.kind, RuleKind.strictOnly] at h
  | nesting _ _ => simp [Rule.kind, RuleKind.strictOnly] at h

/-! ## Whole runs -/

namespace Analyzer

/-- What the settings make of the findings of one rule. -/
lemma share_lax (analyzer : Analyzer) (rule : Rule) :
    share { analyzer with strict := false } { text, strict := false } rule =
      (share { analyzer with strict := true } { text, strict := true } rule).filter
        (isLaxCode ·.id) := by
  have hpass : ((rule.check { text, strict := true }).filterMap
      (override? analyzer.settings)).filter (isLaxCode ·.id) =
      (rule.check { text, strict := false }).filterMap (override? analyzer.settings) := by
    rw [filter_filterMap_of_id (fun _ _ => sameFinding_of_override?), rule.check_lax text]
  unfold share runs
  dsimp only
  cases he : analyzer.settings.isEnabled rule.name with
  | false => simp
  | true =>
    cases hs : rule.kind.strictOnly with
    | false => simpa using hpass.symm
    | true =>
      rw [rule.check_eq_nil_of_strictOnly text hs] at hpass
      simpa using hpass

lemma findings_lax (analyzer : Analyzer) :
    findings { analyzer with strict := false } { text, strict := false } =
      (findings { analyzer with strict := true } { text, strict := true }).filter
        (isLaxCode ·.id) := by
  rw [findings_eq, findings_eq, List.filter_flatMap]
  exact List.flatMap_congr fun rule _ => analyzer.share_lax text rule

/-- Without strictness an analyzer reports what it reports with it, less the findings with codes of
strict runs. So strictness neither removes nor changes a finding, nor does it change their order. -/
theorem checkSource_lax (analyzer : Analyzer) (path : String) (text : List Char) :
    (checkSource { analyzer with strict := false } path text).diagnostics =
        (checkSource { analyzer with strict := true } path text).diagnostics.filter
          (·.id ∉ strictCodes) ∧
      (checkSource { analyzer with strict := false } path text).diagnostics.Sublist
        (checkSource { analyzer with strict := true } path text).diagnostics := by
  have h : (checkSource { analyzer with strict := false } path text).diagnostics =
      (checkSource { analyzer with strict := true } path text).diagnostics.filter
        (isLaxCode ·.id) := by
    change Directive.apply _ (findings { analyzer with strict := false } _) =
      (Directive.apply _ (findings { analyzer with strict := true } _)).filter _
    unfold Directive.apply
    rw [filter_filterMap_of_id (fun _ _ => Directive.sameFinding_of_excuse?),
      ← findings_lax text analyzer]
  refine ⟨h, ?_⟩
  rw [h]
  exact List.filter_sublist

end Analyzer

end BasicLint
