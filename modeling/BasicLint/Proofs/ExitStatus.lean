import Mathlib
import BasicLint.Command.Run
import BasicLint.Proofs.Text.Lines

/-!
# Exit status, counts and summary

Three computations look at the result of a run: the search for an error decides the exit status, a
fold counts the findings of each severity, and the summary prints the counts at the end of a report.
The counts are those of the findings and of the failures, so the first of them is positive if and
only if the search succeeds. A printed summary is read back from its end, since the text before it
can hold anything.
-/
namespace BasicLint

/-! ## Counting -/

namespace Counts

/-- How many findings were counted. -/
def total (counts : Counts) : Nat := counts.errors + counts.warnings + counts.infos

lemma total_add (counts : Counts) (severity : Severity) :
    (counts.add severity).total = counts.total + 1 := by
  cases severity <;> simp only [add, total] <;> omega

lemma errors_add (counts : Counts) (severity : Severity) :
    (counts.add severity).errors = counts.errors + if severity = .error then 1 else 0 := by
  cases severity <;> rfl

/-- Every finding is counted, whatever has been counted before. -/
lemma total_foldl_add (ds : List Diagnostic) (counts : Counts) :
    (ds.foldl (fun counts d => counts.add d.severity) counts).total
      = counts.total + ds.length := by
  induction ds generalizing counts with
  | nil => rfl
  | cons d ds ih =>
    rw [List.foldl_cons, ih, total_add, List.length_cons]
    omega

lemma errors_foldl_add (ds : List Diagnostic) (counts : Counts) :
    (ds.foldl (fun counts d => counts.add d.severity) counts).errors
      = counts.errors + ds.countP (·.severity = .error) := by
  induction ds generalizing counts with
  | nil => rfl
  | cons d ds ih =>
    rw [List.foldl_cons, ih, errors_add, List.countP_cons]
    simp only [decide_eq_true_eq]
    omega

theorem total_ofDiagnostics (ds : List Diagnostic) : (ofDiagnostics ds).total = ds.length := by
  have hempty : total {} = 0 := rfl
  rw [ofDiagnostics, total_foldl_add, hempty, Nat.zero_add]

theorem errors_ofDiagnostics (ds : List Diagnostic) :
    (ofDiagnostics ds).errors = ds.countP (·.severity = .error) := by
  rw [ofDiagnostics, errors_foldl_add, Nat.zero_add]

end Counts

namespace LintResult

/-- A run fails if a path could not be looked at or a finding is an error. -/
def Fails (result : LintResult) : Prop :=
  result.failures ≠ [] ∨ ∃ d ∈ result.diagnostics, d.severity = .error

instance (result : LintResult) : Decidable result.Fails :=
  inferInstanceAs (Decidable (_ ∨ _))

theorem hasErrors_iff (result : LintResult) : result.hasErrors = true ↔ result.Fails := by
  have hfiles : result.files.any (·.hasErrors) = true ↔
      ∃ d ∈ result.diagnostics, d.severity = .error := by
    simp only [List.any_eq_true, FileReport.hasErrors, decide_eq_true_eq, diagnostics,
      List.mem_flatMap]
    grind
  rw [hasErrors, Bool.or_eq_true, hfiles, Fails, Bool.not_eq_true', List.isEmpty_eq_false_iff]

theorem total_counts (result : LintResult) :
    result.counts.total = result.diagnostics.length + result.failures.length := by
  have htotal := Counts.total_ofDiagnostics result.diagnostics
  simp only [Counts.total, counts] at htotal ⊢
  omega

theorem errors_counts_pos_iff (result : LintResult) : 0 < result.counts.errors ↔ result.Fails := by
  have herrors : result.counts.errors
      = result.diagnostics.countP (·.severity = .error) + result.failures.length := by
    rw [counts, Counts.errors_ofDiagnostics]
  rw [herrors, Nat.add_pos_iff_pos_or_pos, List.countP_pos_iff, List.length_pos_iff, Fails, or_comm]
  simp only [decide_eq_true_eq]

/-! ## The summary, read back -/

/-- A line of a summary: a label and a count. -/
def row (label : String) (n : Nat) : List Char := label.toList ++ (toString n).toList

lemma newline_not_mem_row {label : String} (h : '\n' ∉ label.toList) (n : Nat) :
    '\n' ∉ row label n := by
  intro hrow
  rcases List.mem_append.1 hrow with hlabel | hdigits
  · exact h hlabel
  · exact Text.newline_not_mem_toString n hdigits

lemma newline_not_mem_ruler : '\n' ∉ ruler.toList := by
  have htext : ruler.toList = List.replicate 70 '=' := String.toList_ofList
  simp [htext]

/-- The number behind a label, on the last line of an output that starts with the label. -/
def shownCount? (label output : String) : Option Nat := do
  let number ← (Text.lines output.toList).reverse.findSome? (Text.after? label.toList)
  (String.ofList number.dropLast).toNat?

/-- A summary ends with the counts and a ruler, whatever is printed before it. -/
lemma lines_append_summary (result : LintResult) (report : String) :
    ∃ start, Text.lines (report ++ result.summary).toList = start ++
      [row "  Errors:   " result.counts.errors ++ ['\n'],
        row "  Warnings: " result.summaryWarnings ++ ['\n'],
        row "  Infos:    " result.counts.infos ++ ['\n'], ruler.toList ++ ['\n']] := by
  let start := report ++ "\n" ++ ruler ++ "\nSUMMARY: " ++ toString result.filesSeen
    ++ " file(s) checked"
  have hsplit : (report ++ result.summary).toList = start.toList ++ '\n' ::
      (row "  Errors:   " result.counts.errors ++ '\n' ::
        (row "  Warnings: " result.summaryWarnings ++ '\n' ::
          (row "  Infos:    " result.counts.infos ++ '\n' :: (ruler.toList ++ '\n' :: [])))) := by
    unfold summary
    simp [start, row]
  refine ⟨Text.lines (start.toList ++ ['\n']), ?_⟩
  rw [hsplit, Text.lines_append_newline_append,
    Text.lines_append_newline (newline_not_mem_row (by decide) _),
    Text.lines_append_newline (newline_not_mem_row (by decide) _),
    Text.lines_append_newline (newline_not_mem_row (by decide) _),
    Text.lines_append_newline newline_not_mem_ruler, Text.lines_nil]

/-- The row of a label is read if no line behind it starts with the label. -/
lemma shownCount?_of_lines {label output : String} {start rest : List (List Char)} {n : Nat}
    (h : Text.lines output.toList = start ++ (row label n ++ ['\n']) :: rest)
    (hrest : ∀ line ∈ rest, Text.after? label.toList line = none) :
    shownCount? label output = some n := by
  have hbehind : rest.reverse.findSome? (Text.after? label.toList) = none :=
    List.findSome?_eq_none_iff.2 fun line hline => hrest line (List.mem_reverse.1 hline)
  have hnumber : (Text.lines output.toList).reverse.findSome? (Text.after? label.toList)
      = some ((toString n).toList ++ ['\n']) := by
    simp only [h, row, List.reverse_append, List.reverse_cons, List.append_assoc,
      List.findSome?_append, hbehind, Option.none_or, List.findSome?_cons, Text.after?_append,
      List.cons_append, List.nil_append]
  rw [shownCount?, hnumber, Option.bind_eq_bind, Option.bind_some, List.dropLast_concat,
    String.ofList_toList, Nat.toString_eq_repr, Nat.toNat?_repr]

/-- An output ends with the counts of a result. An empty run has a warning of its own. -/
structure ShowsCounts (result : LintResult) (output : String) : Prop where
  errors : shownCount? "  Errors:   " output = some result.counts.errors
  warnings : shownCount? "  Warnings: " output =
    some (result.counts.warnings + if result.files = [] ∧ result.failures = [] then 1 else 0)
  infos : shownCount? "  Infos:    " output = some result.counts.infos

theorem showsCounts_append_summary (result : LintResult) (report : String) :
    result.ShowsCounts (report ++ result.summary) := by
  obtain ⟨start, herrors⟩ := lines_append_summary result report
  have hwarnings := herrors.trans (List.append_cons ..)
  have hinfos := hwarnings.trans (List.append_cons ..)
  have hsummary : result.summaryWarnings
      = result.counts.warnings + if result.files = [] ∧ result.failures = [] then 1 else 0 := by
    simp only [summaryWarnings, isEmptyRun, Bool.and_eq_true, List.isEmpty_iff]
  -- No two labels are the same, and none is the start of a ruler.
  refine ⟨shownCount?_of_lines herrors ?_, hsummary ▸ shownCount?_of_lines hwarnings ?_,
    shownCount?_of_lines hinfos ?_⟩
  · exact List.forall_mem_cons.2 ⟨rfl, List.forall_mem_cons.2 ⟨rfl, List.forall_mem_singleton.2 rfl⟩⟩
  · exact List.forall_mem_cons.2 ⟨rfl, List.forall_mem_singleton.2 rfl⟩
  · exact List.forall_mem_singleton.2 rfl

/-! ## Printing -/

/-- A format can print a result: JSON cannot if one of the paths is no text. -/
def Printable (result : LintResult) (isText : String → Bool) (format : Format) : Prop :=
  format = .json → ∀ path ∈ result.paths, isText path = true

variable {result : LintResult} {isText : String → Bool} {format : Format}

/-- What can be printed is printed, with the counts at its end in the two formats with a summary. -/
lemma exists_render (workspace : Workspace) (h : result.Printable isText format) :
    ∃ output, result.render workspace isText format = .ok output ∧
      (format ∈ [Format.text, .pretty] → result.ShowsCounts output) := by
  cases format with
  | text => exact ⟨_, rfl, fun _ => result.showsCounts_append_summary _⟩
  | json => exact ⟨_, if_pos (List.all_eq_true.2 (h rfl)), fun hsummary => by simp at hsummary⟩
  | compact => exact ⟨_, rfl, fun hsummary => by simp at hsummary⟩
  | pretty => exact ⟨_, rfl, fun _ => result.showsCounts_append_summary _⟩

lemma render_eq_error (workspace : Workspace) (h : ¬result.Printable isText format) :
    result.render workspace isText format = .error .pathNotText := by
  obtain ⟨rfl, hpaths⟩ := Classical.not_imp.1 h
  exact if_neg (mt List.all_eq_true.1 hpaths)

end LintResult

/-! ## Runs -/

namespace Command

/-- Effects that all succeed succeed together. -/
lemma exists_mapM_eq_ok {α β ε : Type} {f : α → Except ε β} {xs : List α}
    (h : ∀ x ∈ xs, ∃ y, f x = .ok y) : ∃ ys, xs.mapM f = .ok ys := by
  induction xs with
  | nil => exact ⟨[], rfl⟩
  | cons x xs ih =>
    rw [List.forall_mem_cons] at h
    obtain ⟨y, hy⟩ := h.1
    obtain ⟨ys, hys⟩ := ih h.2
    refine ⟨y :: ys, ?_⟩
    rw [List.mapM_cons, hy, hys]
    rfl

/-- A computation succeeds if its result has a property to show. -/
lemma exists_eq_ok_of_map {α β ε : Type} {f : α → β} {x : Except ε α} {y : β}
    (h : x.toOption.map f = some y) : ∃ a, x = .ok a ∧ f a = y := by
  cases x with
  | error e => cases h
  | ok a => exact ⟨a, rfl, Option.some.inj h⟩

/-- The failure of a run that has no workers. -/
def withoutWorkers (reason : String) : Failure where
  text := "Failed to build analyzer"
  causes := ["Failed to build worker pool: " ++ reason, reason, reason]

/-- Valid patterns give an analyzer, unless the system does not start the workers. -/
lemma analyzer_cases (environment : Environment) {request : CheckRequest} {settings : Settings}
    (h : ∀ pattern ∈ request.exclude ++ settings.exclude, ∃ glob, Glob.parse pattern = .ok glob) :
    (∃ workers reason, settings.parallelism = some workers ∧
      environment.startWorkers workers = .error reason ∧
        request.analyzer environment settings = .error (withoutWorkers reason)) ∨
      ∃ analyzer, request.analyzer environment settings = .ok analyzer := by
  obtain ⟨excludes, hexcludes⟩ := exists_mapM_eq_ok h
  simp only [CheckRequest.analyzer, Analyzer.build, hexcludes]
  cases settings.parallelism with
  | none => exact .inr ⟨_, rfl⟩
  | some workers =>
    cases hstart : environment.startWorkers workers with
    | error reason =>
      refine .inl ⟨workers, reason, rfl, hstart, ?_⟩
      simp only [Option.elim_some, hstart]
      rfl
    | ok started =>
      right
      simp only [Option.elim_some, hstart]
      exact ⟨_, rfl⟩

section

variable {environment : Environment} {shared : Shared} {settings : Settings} {analyzer : Analyzer}
  (request : CheckRequest)
  (hload : (resolve environment (request.path.getD ['.']) shared.config).load
    environment.workspace = .ok settings)
include hload

/-- A run without an analyzer fails as the analyzer does. -/
lemma runCheck_of_error {failure : Failure}
    (hanalyzer : request.analyzer environment settings = .error failure) :
    (runCheck environment shared request).status = 1 ∧
      (runCheck environment shared request).failure = some failure := by
  simp only [runCheck, hload, hanalyzer, Outcome.failed, and_self]

/-- A run that finds its settings and its analyzer prints the result and exits accordingly. -/
lemma runCheck_of_render {output : String}
    (hanalyzer : request.analyzer environment settings = .ok analyzer)
    (hrender : (analyzer.analyze environment.workspace).render environment.workspace
      environment.isText (request.format.getD .text) = .ok output) :
    (runCheck environment shared request).failure = none ∧
      (runCheck environment shared request).status =
        (if (analyzer.analyze environment.workspace).Fails then 1 else 0) ∧
      (runCheck environment shared request).output = output := by
  simp only [runCheck, hload, hanalyzer, hrender, LintResult.hasErrors_iff, and_self]

/-- A run that cannot print its result fails. -/
lemma runCheck_of_render_error {error : RenderError}
    (hanalyzer : request.analyzer environment settings = .ok analyzer)
    (hrender : (analyzer.analyze environment.workspace).render environment.workspace
      environment.isText (request.format.getD .text) = .error error) :
    (runCheck environment shared request).status = 1 ∧
      (runCheck environment shared request).failure = some ⟨error.message, []⟩ := by
  simp only [runCheck, hload, hanalyzer, hrender, Outcome.failed, and_self]

end

/-- A run that finds its settings fails in every format if the system does not start its workers.
Else the exit status, the counts of the result and the counts that a summary shows agree, and the
format has no part in it, as long as it can print the result. A run with a format that cannot print
the result fails. -/
theorem status_runCheck (environment : Environment) (shared : Shared) (request : CheckRequest)
    {settings : Settings}
    (hload : (resolve environment (request.path.getD ['.']) shared.config).load
      environment.workspace = .ok settings)
    (hexclude : ∀ pattern ∈ request.exclude ++ settings.exclude,
      ∃ glob, Glob.parse pattern = .ok glob) :
    let outcome := fun format => runCheck environment shared { request with format }
    (∃ workers reason, settings.parallelism = some workers ∧
      environment.startWorkers workers = .error reason ∧
        ∀ format, (outcome format).status = 1 ∧
          (outcome format).failure = some (withoutWorkers reason)) ∨
    ∃ analyzer, request.analyzer environment settings = .ok analyzer ∧
      let result := analyzer.analyze environment.workspace
      let prints := fun format : Option Format =>
        result.Printable environment.isText (format.getD .text)
      (∀ format, prints format → (outcome format).failure = none ∧
        (outcome format).status = if result.Fails then 1 else 0) ∧
      (∀ format, ¬prints format → (outcome format).status = 1 ∧
        (outcome format).failure = some ⟨RenderError.pathNotText.message, []⟩) ∧
      (result.Fails ↔ 0 < result.counts.errors) ∧
      (∀ format, format.getD .text ∈ [Format.text, .pretty] →
        result.ShowsCounts (outcome format).output) ∧
      result.counts.errors + result.counts.warnings + result.counts.infos
        = result.diagnostics.length + result.failures.length ∧
      ∀ format format', prints format → prints format' →
        (outcome format).status = (outcome format').status := by
  intro outcome
  -- Neither the settings nor the analyzer depend on the format.
  rcases analyzer_cases environment hexclude with
    ⟨workers, reason, hworkers, hstart, hanalyzer⟩ | ⟨analyzer, hanalyzer⟩
  · refine .inl ⟨workers, reason, hworkers, hstart, fun format => ?_⟩
    exact runCheck_of_error { request with format } hload hanalyzer
  refine .inr ⟨analyzer, hanalyzer, ?_⟩
  intro result prints
  have hrun (format : Option Format) (hprints : prints format) :
      (outcome format).failure = none ∧
        (outcome format).status = (if result.Fails then 1 else 0) ∧
        (format.getD .text ∈ [Format.text, .pretty] →
          result.ShowsCounts (outcome format).output) := by
    obtain ⟨output, hrender, hshown⟩ := LintResult.exists_render environment.workspace hprints
    obtain ⟨hfailure, hstatus, houtput⟩ :=
      runCheck_of_render { request with format } hload hanalyzer hrender
    exact ⟨hfailure, hstatus, fun hsummary => houtput ▸ hshown hsummary⟩
  refine ⟨fun format hprints => ⟨(hrun format hprints).1, (hrun format hprints).2.1⟩,
    fun format hprints => ?_, result.errors_counts_pos_iff.symm, fun format hsummary => ?_,
    result.total_counts, fun format format' hprints hprints' => ?_⟩
  · exact runCheck_of_render_error { request with format } hload hanalyzer
      (LintResult.render_eq_error environment.workspace hprints)
  · have hprints : prints format := fun hjson => by simp [hjson] at hsummary
    exact (hrun format hprints).2.2 hsummary
  · rw [(hrun format hprints).2.1, (hrun format' hprints').2.1]

/-- A source without a declaration, in a project that leaves old copies out. -/
def undeclaredTree : FileTree where
  entries :=
    [(["infobasic-lint.toml".toList],
        .file "[analyzer]\nexclude = [\"**/old/**\"]\n".toUTF8.toList),
      (["A.b".toList], .file "X = 1\n".toUTF8.toList)]
  distinct := by decide
  places := by decide
  grounded := by decide

theorem status_runCheck_undeclared :
    let environment : Environment := { workspace := { tree := undeclaredTree } }
    let request : CheckRequest := { path := some "A.b".toList, exclude := ["*.bak"] }
    ∃ settings analyzer,
      (resolve environment "A.b".toList none).load environment.workspace = .ok settings ∧
      settings.exclude = ["**/old/**"] ∧ request.analyzer environment settings = .ok analyzer ∧
      0 < (analyzer.analyze environment.workspace).counts.errors ∧
      ∀ format, (runCheck environment {} { request with format }).status = 1 := by
  intro environment request
  have hexcludes : ((resolve environment "A.b".toList none).load
      environment.workspace).toOption.map (·.exclude) = some ["**/old/**"] := by decide +kernel
  obtain ⟨settings, hload, hold⟩ := exists_eq_ok_of_map hexcludes
  have hpatterns : ∀ pattern ∈ request.exclude ++ settings.exclude,
      ∃ glob, Glob.parse pattern = .ok glob := by
    rw [hold]
    simp only [request, List.cons_append, List.nil_append, List.forall_mem_cons]
    exact ⟨⟨_, rfl⟩, ⟨_, rfl⟩, by simp⟩
  have hone : (runCheck environment {} request).status = 1 := by decide +kernel
  have hnone : (runCheck environment {} request).failure = none := by decide +kernel
  rcases status_runCheck environment {} request hload hpatterns with
    ⟨workers, reason, -, -, hfailed⟩ | ⟨analyzer, hanalyzer, hstatus, -, hfails, -, -, hsame⟩
  · exact absurd ((hfailed none).2.symm.trans hnone) (by simp)
  have hprints (format : Option Format) :
      (analyzer.analyze environment.workspace).Printable environment.isText (format.getD .text) :=
    fun _ _ _ => rfl
  refine ⟨settings, analyzer, hload, hold, hanalyzer, hfails.1 ?_, fun format => ?_⟩
  · by_contra hnot
    have hzero := (hstatus none (hprints none)).2.symm.trans hone
    rw [if_neg hnot] at hzero
    omega
  · exact (hsame format none (hprints format) (hprints none)).trans hone

/-- A clean source whose name is no text. -/
def namelessTree : FileTree where
  entries := [(["\ufffd.b".toList], .file "SUBROUTINE A\nEND\n".toUTF8.toList)]
  distinct := by decide
  places := by decide
  grounded := by decide

/-- A clean source, in a project that asks for more workers than there are numbers for. -/
def crowdedTree : FileTree where
  entries :=
    [(["infobasic-lint.toml".toList], .file "[analyzer]\nparallelism = 65535\n".toUTF8.toList),
      (["A.b".toList], .file "SUBROUTINE A\nEND\n".toUTF8.toList)]
  distinct := by decide
  places := by decide
  grounded := by decide

def sourcelessTree : FileTree where
  entries := [(["README".toList], .file [])]
  distinct := by decide
  places := by decide
  grounded := by decide

/-- A clean source with a name that is no text fails in JSON alone, a clean project without its
workers fails in every format, and the printed counts of an empty run have one more than there is. -/
theorem not_status_runCheck :
    (let environment : Environment :=
        { workspace := { tree := namelessTree }, isText := (· != "./\ufffd.b") }
      let analyzer : Analyzer := { rules := chosenRules {} {} }
      (resolve environment ['.'] none).load environment.workspace = .ok {} ∧
      CheckRequest.analyzer {} environment {} = .ok analyzer ∧
      ¬(analyzer.analyze environment.workspace).Fails ∧
      (runCheck environment {} { format := some .text }).status = 0 ∧
      (runCheck environment {} { format := some .json }).status = 1) ∧
    (let environment : Environment := { workspace := { tree := crowdedTree } }
      ∃ settings, (resolve environment ['.'] none).load environment.workspace = .ok settings ∧
        settings.exclude = [] ∧
        (runCheck { environment with startWorkers := fun _ => .ok () } {} {}).status = 0 ∧
        ∀ format, (runCheck environment {} { format }).status = 1) ∧
    (let environment : Environment := { workspace := { tree := sourcelessTree } }
      let analyzer : Analyzer := { rules := chosenRules {} {} }
      let result := analyzer.analyze environment.workspace
      (resolve environment ['.'] none).load environment.workspace = .ok {} ∧
      CheckRequest.analyzer {} environment {} = .ok analyzer ∧
      result.diagnostics.length + result.failures.length = 0 ∧
      LintResult.shownCount? "  Warnings: " (runCheck environment {} {}).output = some 1) := by
  refine ⟨?nameless, ?crowded, ?empty⟩
  case nameless =>
    intro environment analyzer
    have horigin : resolve environment ['.'] none = .defaults := by decide +kernel
    refine ⟨by rw [horigin]; rfl, rfl, ?_, ?_, ?_⟩ <;> decide +kernel
  case crowded =>
    intro environment
    have hexcludes : ((resolve environment ['.'] none).load
        environment.workspace).toOption.map (·.exclude) = some [] := by decide +kernel
    obtain ⟨settings, hload, hnone⟩ := exists_eq_ok_of_map hexcludes
    refine ⟨settings, hload, hnone, by decide +kernel, fun format => ?_⟩
    rcases format with - | format
    · decide +kernel
    · cases format <;> decide +kernel
  case empty =>
    intro environment analyzer result
    have horigin : resolve environment ['.'] none = .defaults := by decide +kernel
    refine ⟨by rw [horigin]; rfl, rfl, by decide +kernel, ?_⟩
    have houtput : (runCheck environment {} {}).output = result.renderText := by decide +kernel
    rw [houtput]
    exact (result.showsCounts_append_summary _).warnings.trans (by decide +kernel)

end Command

end BasicLint
