import BasicLint.Proofs.Json.Document
import BasicLint.Report.Render

/-!
# Reports that are read back

A result is written as JSON without loss: the text is that of one value, and reading the records of
this value gives the result back. What is left out, an empty snippet or a missing suggestion, is
what is filled in.
-/
namespace BasicLint

/-- How many numbers a word of 64 bits can hold. -/
def wordLimit : Nat := 0x10000000000000000

/-- The counts of a result fit in a word of 64 bits. -/
structure LintResult.Countable (result : LintResult) : Prop where
  line_lt : ∀ d ∈ result.diagnostics, d.line < wordLimit
  filesChecked_lt : result.filesChecked < wordLimit

lemma Json.asCount?_int {n : Nat} (h : n < wordLimit) : (Json.int n).asCount? = some n := by
  have hbound : (n : Int) < 0x10000000000000000 := by
    unfold wordLimit at h
    omega
  rw [asCount?, if_pos ⟨Int.natCast_nonneg n, hbound⟩, Int.toNat_natCast]

/-- Records that are read back one by one are read back as a list. -/
lemma mapM_map_eq_some {α : Type} {toJson : α → Json} {ofJson? : Json → Option α} {xs : List α}
    (h : ∀ x ∈ xs, ofJson? (toJson x) = some x) : (xs.map toJson).mapM ofJson? = some xs := by
  induction xs with
  | nil => rfl
  | cons x xs ih =>
    have hx := h x List.mem_cons_self
    have hxs := ih fun y hy => h y (List.mem_cons_of_mem x hy)
    simp [hx, hxs]

/-! ## Records -/

namespace Diagnostic

/-- The values of a record by its keys: only an empty snippet and a missing suggestion have none. -/
lemma asRecord?_toJson (d : Diagnostic) :
    d.toJson.asRecord? keys =
      some [some (.str d.id), some (.str d.rule), some (.str d.severity.key), some (.int d.line),
        some (.str d.message), if d.snippet = "" then none else some (.str d.snippet),
        d.suggestion.map .str] := by
  simp only [toJson, Json.asRecord?, keys]
  split <;> split <;> simp [List.lookup_cons, *]

lemma readSnippet?_eq (snippet : String) :
    readSnippet? (if snippet = "" then none else some (.str snippet)) = some snippet := by
  split_ifs with h
  · rw [h]
    rfl
  · rfl

lemma readSuggestion?_eq (suggestion : Option String) :
    readSuggestion? (suggestion.map .str) = some suggestion := by
  cases suggestion <;> rfl

theorem ofJson?_toJson {d : Diagnostic} (h : d.line < wordLimit) : ofJson? d.toJson = some d := by
  simp only [ofJson?, bind, Option.bind_eq_some_iff, Option.some.injEq]
  -- One line a field: its value is there, and it is of the kind of the field.
  exact ⟨_, asRecord?_toJson d,
    _, rfl, _, rfl,
    _, rfl, _, rfl,
    _, rfl, _, rfl, _, Severity.ofKey?_key d.severity,
    _, rfl, _, Json.asCount?_int h,
    _, rfl, _, rfl,
    _, readSnippet?_eq d.snippet,
    _, readSuggestion?_eq d.suggestion, rfl⟩

/-- Nothing in a finding nests. -/
lemma within_toJson (d : Diagnostic) (depth : Nat) : Json.Within (depth + 1) d.toJson := by
  refine .object ?_
  simp only [List.forall_mem_append, List.forall_mem_cons]
  refine ⟨⟨⟨.str _, .str _, .str _, .int _, .str _, by simp⟩, ?_⟩, ?_⟩
  · split_ifs
    · simp
    · simpa using Json.Within.str d.snippet
  · cases d.suggestion with
    | none => simp
    | some text => simpa using Json.Within.str text

end Diagnostic

namespace FileReport

theorem ofJson?_toJson {report : FileReport} (h : ∀ d ∈ report.diagnostics, d.line < wordLimit) :
    ofJson? report.toJson = some report := by
  have hdiagnostics := mapM_map_eq_some fun d hd => Diagnostic.ofJson?_toJson (h d hd)
  have hrecord : report.toJson.asRecord? keys =
      some [some (.str report.path), some (.array (report.diagnostics.map (·.toJson)))] := by
    simp [toJson, Json.asRecord?, keys, List.lookup_cons]
  simp only [ofJson?, bind, Option.bind_eq_some_iff, Option.some.injEq]
  exact ⟨_, hrecord,
    _, rfl, _, rfl,
    _, rfl, _, rfl, _, hdiagnostics, rfl⟩

lemma within_toJson (report : FileReport) (depth : Nat) :
    Json.Within (depth + 3) report.toJson := by
  have hdiagnostics : Json.Within (depth + 2) (.array (report.diagnostics.map (·.toJson))) := by
    refine .array ?_
    simpa using fun d _ => Diagnostic.within_toJson d depth
  refine .object ?_
  simp only [List.forall_mem_cons]
  exact ⟨.str _, hdiagnostics, by simp⟩

end FileReport

namespace FileFailure

theorem ofJson?_toJson (failure : FileFailure) : ofJson? failure.toJson = some failure := by
  have hrecord : failure.toJson.asRecord? keys =
      some [some (.str failure.path), some (.str failure.kind.key),
        some (.str failure.message)] := by
    simp [toJson, Json.asRecord?, keys, List.lookup_cons]
  simp only [ofJson?, bind, Option.bind_eq_some_iff, Option.some.injEq]
  exact ⟨_, hrecord,
    _, rfl, _, rfl,
    _, rfl, _, rfl, _, FailureKind.ofKey?_key failure.kind,
    _, rfl, _, rfl, rfl⟩

lemma within_toJson (failure : FileFailure) (depth : Nat) :
    Json.Within (depth + 1) failure.toJson := by
  refine .object ?_
  simp only [List.forall_mem_cons]
  exact ⟨.str _, .str _, .str _, by simp⟩

end FileFailure

namespace LintResult

theorem ofJson?_toJson {result : LintResult} (h : result.Countable) :
    ofJson? result.toJson = some result := by
  have hfiles := mapM_map_eq_some fun report hreport =>
    FileReport.ofJson?_toJson fun d hd => h.line_lt d (List.mem_flatMap.2 ⟨report, hreport, hd⟩)
  have hfailures := mapM_map_eq_some fun failure (_ : failure ∈ result.failures) =>
    FileFailure.ofJson?_toJson failure
  have hrecord : result.toJson.asRecord? keys =
      some [some (.array (result.files.map (·.toJson))),
        some (.array (result.failures.map (·.toJson))), some (.int result.filesChecked)] := by
    simp [toJson, Json.asRecord?, keys, List.lookup_cons]
  simp only [ofJson?, bind, Option.bind_eq_some_iff, Option.some.injEq]
  exact ⟨_, hrecord,
    _, rfl, _, rfl, _, hfiles,
    _, rfl, _, rfl, _, hfailures,
    _, rfl, _, Json.asCount?_int h.filesChecked_lt, rfl⟩

lemma within_toJson (result : LintResult) (depth : Nat) :
    Json.Within (depth + 5) result.toJson := by
  have hfiles : Json.Within (depth + 4) (.array (result.files.map (·.toJson))) := by
    refine .array ?_
    simpa using fun report _ => FileReport.within_toJson report depth
  have hfailures : Json.Within (depth + 4) (.array (result.failures.map (·.toJson))) := by
    refine .array ?_
    simpa using fun failure _ => FileFailure.within_toJson failure (depth + 2)
  refine .object ?_
  simp only [List.forall_mem_cons]
  exact ⟨hfiles, hfailures, .int _, by simp⟩

/-- A result whose paths are text is printed. The output is that of one value, and the value is read
back as the result. -/
theorem read?_renderJson {result : LintResult} {isText : String → Bool} (h : result.Countable)
    (htext : ∀ path ∈ result.paths, isText path = true) :
    ∃ output, result.renderJson isText = .ok output ∧
      Json.read? output.toList = some result.toJson ∧ ofJson? result.toJson = some result := by
  have hnewline : ∀ c ∈ "\n".toList, Json.isSpace c = true := by simp [Json.isSpace]
  refine ⟨result.toJson.pretty ++ "\n", if_pos (List.all_eq_true.2 htext), ?_, ofJson?_toJson h⟩
  rw [String.toList_append]
  exact Json.read?_pretty (within_toJson result 122) hnewline

/-- A result in which every severity and every kind of failure occurs, with an empty snippet, no
suggestion and an empty suggestion. -/
theorem read?_renderJson_mixed :
    let result : LintResult :=
      { files := [⟨"A.b", [⟨"S001", "structure", .error, 1, "no \"END\"", "", none⟩,
          ⟨"E001", "error-handling", .info, 0xFFFFFFFFFFFFFFFF, "tab\t", "F.READ(X)", some ""⟩]⟩,
          ⟨"\u00e4\\B.b", [⟨"N001", "naming", .warning, 3, "x", "y", some "z"⟩]⟩]
        failures := [⟨"C.b", .notFound, ""⟩, ⟨"D", .notSourceFile, "d"⟩, ⟨"E.b", .unreadable, "e"⟩]
        filesChecked := 2 }
    let isText (path : String) : Bool := path != "\ufffd.b"
    result.Countable ∧ (∀ path ∈ result.paths, isText path = true) ∧
      ∃ output, result.renderJson isText = .ok output ∧
        Json.read? output.toList = some result.toJson ∧ ofJson? result.toJson = some result := by
  intro result isText
  have hresult : result.Countable := ⟨by decide, by decide⟩
  have htext : ∀ path ∈ result.paths, isText path = true := by decide
  exact ⟨hresult, htext, read?_renderJson hresult htext⟩

end LintResult

end BasicLint
