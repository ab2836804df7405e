import BasicLint.Analyzer
import Mathlib.Data.List.Basic

/-!
# From findings to reports

Between a rule and a report stand the settings and the allow directives. Both look at one finding at
a time and keep it, drop it or change how grave it is. What a finding is about stays: its code, its
rule, its line and the text of that line.
-/
namespace BasicLint

/-- The second diagnostic is about the same thing on the same line. -/
structure Diagnostic.SameFinding (d e : Diagnostic) : Prop where
  id_eq : e.id = d.id
  rule_eq : e.rule = d.rule
  line_eq : e.line = d.line
  snippet_eq : e.snippet = d.snippet

lemma Diagnostic.SameFinding.trans {a b c : Diagnostic} (h : a.SameFinding b)
    (h' : b.SameFinding c) : a.SameFinding c where
  id_eq := h'.id_eq.trans h.id_eq
  rule_eq := h'.rule_eq.trans h.rule_eq
  line_eq := h'.line_eq.trans h.line_eq
  snippet_eq := h'.snippet_eq.trans h.snippet_eq

lemma Analyzer.sameFinding_of_override? {settings : Settings} {d e : Diagnostic}
    (h : override? settings d = some e) : d.SameFinding e := by
  rw [override?, Option.ite_none_right_eq_some] at h
  obtain rfl := Option.some.inj h.2
  exact ⟨rfl, rfl, rfl, rfl⟩

lemma Directive.sameFinding_of_excuse? {lines : Array (List Char)} {d e : Diagnostic}
    (h : excuse? lines d = some e) : d.SameFinding e := by
  unfold excuse? at h
  split at h
  · obtain rfl := Option.some.inj h
    exact ⟨rfl, rfl, rfl, rfl⟩
  · rw [Option.ite_none_right_eq_some] at h
    obtain rfl := Option.some.inj h.2
    exact ⟨rfl, rfl, rfl, rfl⟩

/-- A pass over findings that keeps what they are about may as well be made after some are dropped
for what they are about. -/
lemma filter_filterMap_of_sameFinding {f : Diagnostic → Option Diagnostic}
    (hf : ∀ d e, f d = some e → d.SameFinding e) {keep : Diagnostic → Bool}
    (hkeep : ∀ d e : Diagnostic, d.SameFinding e → keep e = keep d) (ds : List Diagnostic) :
    (ds.filterMap f).filter keep = (ds.filter keep).filterMap f := by
  rw [List.filter_filterMap, List.filterMap_filter]
  congr 1
  funext d
  cases hd : f d with
  | none => simp
  | some e => simp [Option.filter, hkeep d e (hf d e hd)]

lemma filter_filterMap_of_id {f : Diagnostic → Option Diagnostic}
    (hf : ∀ d e, f d = some e → d.SameFinding e) (keep : String → Bool) (ds : List Diagnostic) :
    (ds.filterMap f).filter (keep ·.id) = (ds.filter (keep ·.id)).filterMap f :=
  filter_filterMap_of_sameFinding hf (fun _ _ h => congrArg keep h.id_eq) ds

/-- What adds nothing to a list may as well be left out. -/
lemma flatMap_filter_of_eq_nil {α β : Type} {f : α → List β} {keep : α → Bool} {l : List α}
    (h : ∀ a ∈ l, keep a = false → f a = []) : (l.filter keep).flatMap f = l.flatMap f := by
  induction l with
  | nil => rfl
  | cons a l ih =>
    have hl := ih fun b hb => h b (List.mem_cons_of_mem a hb)
    cases ha : keep a with
    | false => rw [List.filter_cons_of_neg (by simp [ha]), List.flatMap_cons,
        h a List.mem_cons_self ha, hl, List.nil_append]
    | true => rw [List.filter_cons_of_pos ha, List.flatMap_cons, List.flatMap_cons, hl]

namespace Analyzer

/-- What one rule adds to the findings of an analyzer. -/
def share (analyzer : Analyzer) (source : Source) (rule : Rule) : List Diagnostic :=
  if analyzer.runs rule then (rule.check source).filterMap (override? analyzer.settings) else []

theorem findings_eq (analyzer : Analyzer) (source : Source) :
    analyzer.findings source = analyzer.rules.flatMap (analyzer.share source) := by
  unfold findings
  induction analyzer.rules with
  | nil => rfl
  | cons rule rules ih =>
    rw [List.flatMap_cons, ← ih, share]
    cases hr : analyzer.runs rule <;> simp [hr]

/-- What one rule adds to a report. It depends on the settings, on strictness and on the rule, not
on the other rules. -/
def reported (analyzer : Analyzer) (source : Source) (rule : Rule) : List Diagnostic :=
  (analyzer.share source rule).filterMap (Directive.excuse? source.rows)

/-- A report is what each rule adds to it, rule after rule. -/
theorem checkText_eq (analyzer : Analyzer) (text : List Char) :
    analyzer.checkText text =
      analyzer.rules.flatMap (analyzer.reported { text, strict := analyzer.strict }) := by
  unfold checkText Directive.apply
  dsimp only
  rw [findings_eq, List.filterMap_flatMap]
  rfl

/-- What a rule adds to a report are its findings, as settings and directives leave them. -/
lemma mem_reported {analyzer : Analyzer} {source : Source} {rule : Rule} {d : Diagnostic}
    (h : d ∈ analyzer.reported source rule) :
    ∃ finding ∈ rule.check source,
      ∃ e, override? analyzer.settings finding = some e ∧
        Directive.excuse? source.rows e = some d := by
  obtain ⟨e, he, hd⟩ := List.mem_filterMap.1 h
  unfold share at he
  split at he
  · obtain ⟨finding, hfinding, he⟩ := List.mem_filterMap.1 he
    exact ⟨finding, hfinding, e, he, hd⟩
  · simp at he

/-- Every diagnostic of a report goes back to a finding of a rule that runs. -/
theorem mem_checkText {analyzer : Analyzer} {text : List Char} {d : Diagnostic}
    (h : d ∈ analyzer.checkText text) :
    ∃ rule ∈ analyzer.rules, analyzer.runs rule = true ∧
      ∃ finding ∈ rule.check { text, strict := analyzer.strict }, finding.SameFinding d := by
  obtain ⟨b, hb, hd⟩ := List.mem_filterMap.1 h
  obtain ⟨rule, hrule, hb⟩ := List.mem_flatMap.1 hb
  obtain ⟨a, ha, hab⟩ := List.mem_filterMap.1 hb
  obtain ⟨hmem, hruns⟩ := List.mem_filter.1 hrule
  exact ⟨rule, hmem, hruns, a, ha,
    (sameFinding_of_override? hab).trans (Directive.sameFinding_of_excuse? hd)⟩

end Analyzer

end BasicLint
