import BasicLint.Proofs.Accounting
import BasicLint.Proofs.Display
import BasicLint.Proofs.Recognition
import BasicLint.Proofs.WellFormed
import BasicLint.Report.Render

/-!
# One line a record

Compact output is read line by line, so no part of a record may hold a line feed. What a message
takes from the source is of a class of characters without it, also where the construct goes over
several lines. What else stands in a record is fixed, a number, or a path.
-/
namespace BasicLint

open Text

/-! ## Texts on one line -/

namespace Text

/-- A text without a line feed. -/
def OneLine (s : String) : Prop := '\n' ∉ s.toList

/-- A fixed text, taken as the characters that it is written with and not as the bytes that they
come to. -/
lemma oneLine_literal {s : String} {chars : List Char} (h : s = String.ofList chars)
    (hchars : '\n' ∉ chars) : OneLine s := by
  rw [h, OneLine, String.toList_ofList]
  exact hchars

@[simp] lemma oneLine_append {s t : String} : OneLine (s ++ t) ↔ OneLine s ∧ OneLine t := by
  simp [OneLine]

@[simp] lemma oneLine_toString (n : Nat) : OneLine (toString n) := newline_not_mem_toString n

@[simp] lemma oneLine_ofList {s : List Char} : OneLine (String.ofList s) ↔ '\n' ∉ s := by
  simp [OneLine]

/-- Characters of a class that leaves out the line feed make up a text on one line. -/
lemma oneLine_of_class {p : Char → Bool} (hp : p '\n' = false) {s : List Char}
    (hs : ∀ c ∈ s, p c = true) : OneLine (String.ofList s) :=
  oneLine_ofList.2 (newline_not_mem_of_class hp hs)

/-- A text that is put between two others. -/
lemma oneLine_splice {start s stop : String} (hstart : OneLine start) (hs : OneLine s)
    (hstop : OneLine stop) : OneLine (start ++ s ++ stop) := by
  simp only [oneLine_append, hstart, hs, hstop, and_true]

/-- A text on one line is a record with the line feed that is put behind it. -/
lemma OneLine.exists_record {s : String} (h : OneLine s) :
    ∃ body, '\n' ∉ body ∧ (s ++ "\n").toList = body ++ ['\n'] := ⟨s.toList, h, by simp⟩

end Text

/-! ## Messages -/

variable {source : Source} {d : Diagnostic}

lemma Source.oneLine_diagnostic {id rule message : String} {severity : Severity} {line : Nat}
    {suggestion : Option String} (h : OneLine message) :
    OneLine (source.diagnostic id rule severity line message suggestion).message := h

lemma Outline.oneLine_of_mem_check (h : d ∈ check source) : OneLine d.message := by
  have hunclosed (h : d ∈ unclosed source) : OneLine d.message := by
    unfold unclosed at h
    split_ifs at h
    · simp at h
    · rw [List.mem_singleton.1 h]
      exact Source.oneLine_diagnostic (oneLine_literal rfl (by decide))
  unfold check at h
  split at h
  · rw [List.mem_singleton.1 h]
    exact Source.oneLine_diagnostic (oneLine_literal rfl (by decide))
  · rcases List.mem_append.1 h with h | h
    · unfold unsectioned at h
      split_ifs at h
      · rw [List.mem_singleton.1 h]
        exact Source.oneLine_diagnostic (oneLine_literal rfl (by decide))
      · simp at h
    · exact hunclosed h
  · exact hunclosed h

lemma Naming.oneLine_of_mem_check {extraPrefixes : List String}
    (h : d ∈ check extraPrefixes source) : OneLine d.message := by
  obtain ⟨line, number, -, hit, hhit, -, hmessage⟩ := mem_check h
  obtain ⟨site⟩ := mem_scan hhit
  obtain ⟨-, hname, -⟩ := assignment_eq_some site.recognized
  have htarget : OneLine (String.ofList hit.value) := oneLine_of_class (by decide) hname
  rw [hmessage]
  unfold message
  exact oneLine_splice (oneLine_literal rfl (by decide)) htarget
    (oneLine_literal rfl (by decide))

lemma Includes.oneLine_of_mem_check (h : d ∈ check source) : OneLine d.message := by
  rcases List.mem_append.1 h with h | h
  · split_ifs at h
    · rcases List.mem_append.1 h with h | h
      · unfold withoutImports at h
        split at h
        · simp at h
        · split_ifs at h
          · rw [List.mem_singleton.1 h]
            exact Source.oneLine_diagnostic (oneLine_literal rfl (by decide))
          · simp at h
      · unfold withoutInsertions at h
        split_ifs at h
        · simp at h
        · rw [List.mem_singleton.1 h]
          exact Source.oneLine_diagnostic (oneLine_literal rfl (by decide))
    · simp at h
  · obtain ⟨hit, hhit, -, hmessage⟩ := mem_misnamed h
    obtain ⟨site⟩ := mem_scan hhit
    obtain ⟨-, -, hname, -⟩ := imported_eq_some site.recognized
    have hmodule : OneLine (String.ofList hit.value) := oneLine_of_class (by decide) hname
    rw [hmessage]
    unfold message
    exact oneLine_splice (oneLine_literal rfl (by decide)) hmodule
      (oneLine_literal rfl (by decide))

namespace ErrorHandling

/-- The name of a routine is one word, though `CALL` may stand on a line above it. -/
lemma isRoutineChar_of_call {before : Option Char} {s t : Cursor} {routine : List Char}
    (h : call before s = some (routine, t)) : ∀ c ∈ routine, isRoutineChar c = true := by
  have hframework {space : List Char} {s t : Cursor} {routine : List Char}
      (hspace : space.all isRoutineChar = true) (h : framework? space s = some (routine, t)) :
      ∀ c ∈ routine, isRoutineChar c = true := by
    simp only [framework?, bind, Option.bind_eq_some_iff, Option.some.injEq, Prod.mk.injEq] at h
    obtain ⟨s₁, -, ⟨run, s₂⟩, h₂, rfl, -⟩ := h
    obtain ⟨-, hrun, -⟩ := Cursor.run?_eq_some h₂
    exact List.forall_mem_append.2 ⟨List.all_eq_true.1 hspace, hrun⟩
  obtain ⟨-, h⟩ := indented_eq_some_iff.1 h
  simp only [bind, Option.bind_eq_some_iff, Option.some.injEq, Prod.mk.injEq] at h
  obtain ⟨⟨name, s₁⟩, h₁, s₂, -, rfl, -⟩ := h
  simp only [Option.orElse_eq_orElse, Option.orElse_eq_or, Option.or_eq_some_iff] at h₁
  rcases h₁ with hcalled | ⟨-, hfile | ⟨-, hsystem⟩⟩
  · simp only [called?, bind, Option.bind_eq_some_iff] at hcalled
    obtain ⟨s₃, -, s₄, -, -, -, hrun⟩ := hcalled
    exact (Cursor.run?_eq_some hrun).2.1
  · exact hframework (by decide) hfile
  · exact hframework (by decide) hsystem

lemma oneLine_of_mem_check {lookahead : Nat} (h : d ∈ check lookahead source) :
    OneLine d.message := by
  unfold check at h
  split_ifs at h
  · obtain ⟨hit, hhit, rfl⟩ := List.mem_map.1 h
    obtain ⟨site⟩ := mem_scan (List.mem_filter.1 hhit).1
    have hroutine : OneLine (String.ofList hit.value) :=
      oneLine_of_class (by decide) (isRoutineChar_of_call site.recognized)
    refine Source.oneLine_diagnostic ?_
    unfold message
    exact oneLine_splice (oneLine_literal rfl (by decide)) hroutine
      (oneLine_literal rfl (by decide))
  · simp at h

end ErrorHandling

lemma FieldPosition.oneLine_of_mem_check {limit : Nat} (h : d ∈ check limit source) :
    OneLine d.message := by
  obtain ⟨hit, hhit, -, hmessage⟩ := mem_check h
  obtain ⟨site⟩ := mem_scan hhit
  obtain ⟨⟨-, hword⟩, ⟨-, hdecimal⟩, -⟩ := access_eq_some site.recognized
  have hrecord : OneLine (String.ofList hit.value.record) := oneLine_of_class (by decide) hword
  have hdigits : OneLine (String.ofList hit.value.digits) := oneLine_of_class (by decide) hdecimal
  rw [hmessage]
  unfold message
  simp only [oneLine_append, hrecord, hdigits, and_true]
  refine ⟨⟨⟨?_, ?_⟩, ?_⟩, ?_⟩ <;> exact oneLine_literal rfl (by decide)

/-- The argument of a lock ends with its line, though blanks before it may go over several. -/
lemma RecordLock.oneLine_of_mem_check (h : d ∈ check source) : OneLine d.message := by
  obtain ⟨hit, hhit, rfl⟩ := List.mem_map.1 h
  obtain ⟨site⟩ := mem_scan (mem_locks.1 (List.mem_filter.1 hhit).1).1
  obtain ⟨argument, hvalue, hargument, -⟩ := lock_eq_some site.recognized
  have htarget : OneLine (String.ofList hit.value) := by
    refine oneLine_of_class (by decide) fun c hc => hargument.all c ?_
    rw [hvalue] at hc
    exact (trim_isInfix argument).subset hc
  refine Source.oneLine_diagnostic ?_
  unfold message
  exact oneLine_splice (oneLine_literal rfl (by decide)) htarget
    (oneLine_literal rfl (by decide))

lemma RawFileAccess.oneLine_of_mem_check (h : d ∈ check source) : OneLine d.message := by
  obtain ⟨hit, -, rfl⟩ := List.mem_map.1 h
  exact Source.oneLine_diagnostic (oneLine_literal rfl (by decide))

lemma Nesting.oneLine_of_mem_check {limit : Nat} {mode : Mode} (h : d ∈ check limit mode source) :
    OneLine d.message := by
  unfold check at h
  split_ifs at h
  · simp at h
  · rw [List.mem_singleton.1 h]
    refine Source.oneLine_diagnostic ?_
    unfold message
    simp only [oneLine_append, oneLine_toString, and_true]
    refine ⟨⟨?_, ?_⟩, ?_⟩ <;> exact oneLine_literal rfl (by decide)

theorem Rule.oneLine_of_mem_check {rule : Rule} (h : d ∈ rule.check source) :
    OneLine d.message := by
  cases rule with
  | outline => exact Outline.oneLine_of_mem_check h
  | naming => exact Naming.oneLine_of_mem_check h
  | includes => exact Includes.oneLine_of_mem_check h
  | errorHandling => exact ErrorHandling.oneLine_of_mem_check h
  | fieldPosition => exact FieldPosition.oneLine_of_mem_check h
  | recordLock => exact RecordLock.oneLine_of_mem_check h
  | rawFileAccess => exact RawFileAccess.oneLine_of_mem_check h
  | nesting => exact Nesting.oneLine_of_mem_check h

lemma RuleKind.oneLine_of_mem_codes {kind : RuleKind} {id : String} (h : id ∈ kind.codes) :
    OneLine id := by
  have hall : ∀ kind ∈ RuleKind.all, ∀ id ∈ kind.codes, '\n' ∉ id.toList := by decide
  exact hall kind (mem_all kind) id h

/-- A directive without a reason puts a message of its own in place of the message of the rule. -/
lemma Directive.oneLine_of_excuse? {lines : Array (List Char)} {d e : Diagnostic}
    (h : excuse? lines d = some e) (hid : OneLine d.id) (hmessage : OneLine d.message) :
    OneLine e.message := by
  unfold excuse? at h
  split at h
  · rwa [← Option.some.inj h]
  · rw [Option.ite_none_right_eq_some] at h
    rw [← Option.some.inj h.2, askReason]
    exact oneLine_splice (oneLine_literal rfl (by decide)) hid (oneLine_literal rfl (by decide))

/-- Why a file cannot be read is said on one line. -/
lemma FileError.oneLine_message (error : FileError) : OneLine error.message := by
  cases error <;> exact oneLine_literal rfl (by decide)

namespace Analyzer

/-- The code and the message of a diagnostic are each on one line. -/
theorem oneLine_of_mem_checkSource {analyzer : Analyzer} {path : String} {text : List Char}
    (h : d ∈ (analyzer.checkSource path text).diagnostics) : OneLine d.id ∧ OneLine d.message := by
  obtain ⟨rule, -, hd⟩ := wellFormed_of_mem_checkSource h
  refine ⟨RuleKind.oneLine_of_mem_codes hd.id_mem, ?_⟩
  change d ∈ analyzer.checkText text at h
  rw [checkText_eq, List.mem_flatMap] at h
  obtain ⟨rule, -, h⟩ := h
  obtain ⟨finding, hfinding, e, he, hd⟩ := mem_reported h
  have hid : OneLine finding.id :=
    RuleKind.oneLine_of_mem_codes (Rule.wellFormed_of_mem_check hfinding).id_mem
  have hmessage := Rule.oneLine_of_mem_check hfinding
  rw [override?, Option.ite_none_right_eq_some] at he
  obtain rfl := Option.some.inj he.2
  exact Directive.oneLine_of_excuse? hd hid hmessage

/-! ## Paths -/

/-- No path of a run holds a line feed: no name of the tree does, and neither does a root that is not
in the tree. -/
structure PlainNames (analyzer : Analyzer) (workspace : Workspace) : Prop where
  names : ∀ entry ∈ workspace.tree.entries, ∀ name ∈ entry.1, '\n' ∉ name
  missing : ∀ error, workspace.locate analyzer.root = .error error → '\n' ∉ analyzer.root

variable {analyzer : Analyzer} {workspace : Workspace}

namespace PlainNames

lemma newline_not_mem_root (h : analyzer.PlainNames workspace) : '\n' ∉ analyzer.root := by
  cases hlocate : workspace.locate analyzer.root with
  | error error => exact h.missing error hlocate
  | ok location =>
    -- A root that leads somewhere goes by names of the tree, also through links.
    intro hmem
    obtain ⟨-, -, -, hwalk⟩ := Workspace.locate_eq_ok_iff.1 hlocate
    rw [← Path.intercalate_pieces analyzer.root] at hmem
    obtain ⟨piece, hpiece, hnewline⟩ := Path.mem_intercalate (by decide) hmem
    obtain hstay | rfl | ⟨entry, hentry, hname⟩ := FileTree.isWaypoint_of_walk hwalk piece hpiece
    · rw [Path.isStep, Bool.not_eq_false', Bool.or_eq_true, List.isEmpty_iff, decide_eq_true_eq]
        at hstay
      rcases hstay with rfl | rfl <;> simp at hnewline
    · simp at hnewline
    · exact h.names entry hentry piece hname hnewline

/-- The paths of the files that are found are on one line each. -/
lemma newline_not_mem_of_discover (h : analyzer.PlainNames workspace) {files : List (List Char)}
    (hfiles : analyzer.discover workspace = .ok files) : ∀ path ∈ files, '\n' ∉ path := by
  obtain ⟨location, found, hcovers⟩ | hroot | ⟨kind, message, -, herror⟩ :=
    analyzer.discover_cases workspace
  · obtain rfl : files = found := Except.ok.inj (hfiles.symm.trans hcovers.discovered)
    intro path hpath hnewline
    obtain ⟨names, entry, hsource, rfl⟩ := (hcovers.exact path).1 hpath
    obtain ⟨outer, name, rfl, hat⟩ := hsource.scanned.exists_concat
    have hplace := FileTree.mem_of_get? hat (by simp)
    rcases mem_below (by decide) hnewline with hmem | ⟨step, hstep, hmem⟩
    · exact h.newline_not_mem_root hmem
    · exact h.names _ hplace step (List.mem_append_right _ hstep) hmem
  · obtain rfl : files = [analyzer.root] := Except.ok.inj (hfiles.symm.trans hroot)
    simpa using h.newline_not_mem_root
  · rw [herror] at hfiles
    contradiction

lemma oneLine_of_mem_files (h : analyzer.PlainNames workspace) {report : FileReport}
    (hreport : report ∈ (analyzer.analyze workspace).files) :
    OneLine report.path ∧ ∀ d ∈ report.diagnostics, OneLine d.id ∧ OneLine d.message := by
  unfold analyze at hreport
  split at hreport
  · simp at hreport
  · rename_i files hfiles
    obtain ⟨path, hpath, bytes, -, rfl⟩ :=
      (analyzer.mem_files_collect workspace files).1 hreport
    exact ⟨oneLine_ofList.2 (h.newline_not_mem_of_discover hfiles path hpath),
      fun d => oneLine_of_mem_checkSource⟩

lemma oneLine_of_mem_failures (h : analyzer.PlainNames workspace) {failure : FileFailure}
    (hfailure : failure ∈ (analyzer.analyze workspace).failures) :
    OneLine failure.path ∧ OneLine failure.message := by
  unfold analyze at hfailure
  split at hfailure
  · rename_i error herror
    obtain rfl : failure = error := List.mem_singleton.1 hfailure
    obtain ⟨location, files, hcovers⟩ | hroot | ⟨kind, message, hmessage, hfound⟩ :=
      analyzer.discover_cases workspace
    · rw [hcovers.discovered] at herror
      contradiction
    · rw [hroot] at herror
      contradiction
    · have hall : ∀ s ∈ ["Path not found", "Not an InfoBasic file"], '\n' ∉ s.toList := by decide
      obtain rfl := Except.error.inj (herror.symm.trans hfound)
      exact ⟨oneLine_ofList.2 h.newline_not_mem_root, hall message hmessage⟩
  · rename_i files hfiles
    obtain ⟨path, hpath, error, -, rfl⟩ :=
      (analyzer.mem_failures_collect workspace files).1 hfailure
    refine ⟨oneLine_ofList.2 (h.newline_not_mem_of_discover hfiles path hpath), ?_⟩
    exact oneLine_append.2 ⟨oneLine_literal rfl (by decide), error.oneLine_message⟩

end PlainNames

end Analyzer

/-! ## Records -/

namespace LintResult

/-- What compact output is made of: the failures, then the findings of one file after another. -/
def compactRecords (result : LintResult) : List String :=
  result.failures.map compactFailure ++
    result.files.flatMap fun report => report.sorted.map (compactDiagnostic report.path)

lemma toList_renderCompact (result : LintResult) :
    result.renderCompact.toList = result.compactRecords.flatMap String.toList := by
  simp only [renderCompact, compactRecords, String.toList_append, String.toList_join,
    List.flatMap_append, List.flatMap_map, List.flatMap_assoc]

lemma length_compactRecords (result : LintResult) :
    result.compactRecords.length = result.failures.length + result.diagnostics.length := by
  simp [compactRecords, diagnostics, FileReport.sorted, Diagnostic.sorted]

lemma exists_compactFailure {failure : FileFailure} (hpath : OneLine failure.path)
    (hmessage : OneLine failure.message) :
    ∃ body, '\n' ∉ body ∧ (compactFailure failure).toList = body ++ ['\n'] := by
  have hkind : OneLine failure.kind.key := by
    cases failure.kind <;> exact oneLine_literal rfl (by decide)
  refine OneLine.exists_record ?_
  simp only [oneLine_append, hpath, hkind, hmessage, and_true, true_and]
  constructor <;> exact oneLine_literal rfl (by decide)

lemma exists_compactDiagnostic {path : String} {d : Diagnostic} (hpath : OneLine path)
    (hid : OneLine d.id) (hmessage : OneLine d.message) :
    ∃ body, '\n' ∉ body ∧ (compactDiagnostic path d).toList = body ++ ['\n'] := by
  have hseverity : OneLine d.severity.name := by
    cases d.severity <;> exact oneLine_literal rfl (by decide)
  refine OneLine.exists_record ?_
  simp only [oneLine_append, oneLine_toString, hpath, hseverity, hid, hmessage, and_true, true_and]
  refine ⟨⟨⟨?_, ?_⟩, ?_⟩, ?_⟩ <;> exact oneLine_literal rfl (by decide)

end LintResult

namespace Analyzer

variable {analyzer : Analyzer} {workspace : Workspace}

/-- Every record of a run ends in its only line feed. -/
lemma PlainNames.exists_record (h : analyzer.PlainNames workspace) {record : List Char}
    (hrecord : record ∈ (analyzer.analyze workspace).compactRecords.map String.toList) :
    ∃ body, '\n' ∉ body ∧ record = body ++ ['\n'] := by
  obtain ⟨record, hmem, rfl⟩ := List.mem_map.1 hrecord
  rcases List.mem_append.1 hmem with hmem | hmem
  · obtain ⟨failure, hfailure, rfl⟩ := List.mem_map.1 hmem
    obtain ⟨hpath, hmessage⟩ := h.oneLine_of_mem_failures hfailure
    exact LintResult.exists_compactFailure hpath hmessage
  · obtain ⟨report, hreport, hmem⟩ := List.mem_flatMap.1 hmem
    obtain ⟨d, hd, rfl⟩ := List.mem_map.1 hmem
    obtain ⟨hpath, hall⟩ := h.oneLine_of_mem_files hreport
    obtain ⟨hid, hmessage⟩ := hall d (List.mem_mergeSort.1 hd)
    exact LintResult.exists_compactDiagnostic hpath hid hmessage

/-- Compact output has a line for each failure and each finding. No message holds a line feed. With
names that hold none, the lines of the output are first those of the failures, in order, each with
the path, the kind and the message, and then those of the findings, file by file and in the order of
display, each with the path, the line, the severity, the code and the message. Each line is ended. -/
theorem lines_renderCompact (analyzer : Analyzer) (workspace : Workspace)
    (h : analyzer.PlainNames workspace) :
    let result := analyzer.analyze workspace
    let output := lines result.renderCompact.toList
    (∀ path text, ∀ d ∈ (analyzer.checkSource path text).diagnostics, '\n' ∉ d.message.toList) ∧
      output =
        (result.failures.map fun failure =>
          (failure.path ++ ":0: ERROR [" ++ failure.kind.key ++ "] " ++ failure.message
            ++ "\n").toList) ++
        (result.files.flatMap fun report => report.sorted.map fun d =>
          (report.path ++ ":" ++ toString d.line ++ ": " ++ d.severity.name ++ " [" ++ d.id ++ "] "
            ++ d.message ++ "\n").toList) ∧
      (∀ report ∈ result.files, Diagnostic.Shows report.sorted report.diagnostics) ∧
      output.length = result.failures.length + result.diagnostics.length ∧
      ∀ line ∈ output, line.getLast? = some '\n' := by
  intro result output
  have houtput : output = result.compactRecords.map String.toList := by
    rw [← lines_flatten fun _ => h.exists_record, ← List.flatMap_def,
      ← LintResult.toList_renderCompact]
  refine ⟨fun path text d hd => (oneLine_of_mem_checkSource hd).2, ?_,
    fun report _ => Diagnostic.shows_sorted report.diagnostics, ?_, ?_⟩
  · rw [houtput, LintResult.compactRecords, List.map_append, List.map_map, List.map_flatMap]
    simp only [List.map_map]
    rfl
  · rw [houtput, List.length_map, LintResult.length_compactRecords]
  · intro line hline
    rw [houtput] at hline
    obtain ⟨body, -, rfl⟩ := h.exists_record hline
    exact List.getLast?_concat

/-- Calls that go over several lines. -/
def brokenCallsTree : FileTree where
  entries :=
    [(["A.b".toList], .file "F.READU\n(\n R.X, 1)\n CALL\nS.GET\n(A)\n".toUTF8.data.toList)]
  distinct := by decide
  places := by decide
  grounded := by decide

theorem lines_renderCompact_brokenCalls :
    let analyzer : Analyzer :=
      { root := "A.b".toList, rules := [.recordLock, .errorHandling 5], strict := true }
    let workspace : Workspace := { tree := brokenCallsTree }
    analyzer.PlainNames workspace ∧
      (lines (analyzer.analyze workspace).renderCompact.toList).length = 3 := by
  intro analyzer workspace
  have h : analyzer.PlainNames workspace := ⟨by decide, fun _ _ => by decide⟩
  obtain ⟨-, -, -, hlength, -⟩ := lines_renderCompact analyzer workspace h
  refine ⟨h, hlength.trans ?_⟩
  decide +kernel

end Analyzer

end BasicLint
