import BasicLint.Proofs.Recognition
import BasicLint.Proofs.Rule.Report
import BasicLint.Proofs.Text.LineWise
import BasicLint.Proofs.Text.Lowered

/-!
# Findings on one line

Names are looked for on each line, modules in the whole text. In both cases a finding comes from its
own line: the findings on a text are the findings on its lines, each checked as a text of its own.
So a text may be cut wherever a line begins.
-/
namespace BasicLint

open Text

/-- The same finding, `k` lines further down. -/
def Diagnostic.moveDown (k : Nat) (d : Diagnostic) : Diagnostic := { d with line := d.line + k }

lemma Diagnostic.moveDown_add (k m : Nat) (d : Diagnostic) :
    d.moveDown (k + m) = (d.moveDown m).moveDown k := by
  simp only [moveDown, Diagnostic.mk.injEq, true_and, and_true]
  omega

/-- A check that looks at one line at a time. -/
structure LineLocal (check : List Char → List Diagnostic) : Prop where
  /-- Every finding is made on its own line. -/
  own_line : ∀ text, check text = (lines text).zipIdx.flatMap fun (line, above) =>
    (check line).map (Diagnostic.moveDown above)
  /-- A text is cut at the start of a line. -/
  append : ∀ a b, (a = [] ∨ a.getLast? = some '\n') →
    check (a ++ b) = check a ++ (check b).map (Diagnostic.moveDown (lines a).length)

namespace LineLocal

variable {check : List Char → List Diagnostic}

lemma of_own_line (h : ∀ text, check text = (lines text).zipIdx.flatMap fun (line, above) =>
    (check line).map (Diagnostic.moveDown above)) : LineLocal check where
  own_line := h
  append a b ha := by
    have hedge : lineEdge a.getLast? = true := by
      rcases ha with rfl | ha
      · rfl
      · simp [ha]
    have hmove (k above : Nat) : Diagnostic.moveDown k ∘ Diagnostic.moveDown above =
        Diagnostic.moveDown (k + above) := by
      funext d
      exact (d.moveDown_add k above).symm
    rw [h (a ++ b), lines_append_of_lineEdge hedge, List.zipIdx_append, List.flatMap_append, ← h a,
      h b, List.map_flatMap, List.zipIdx_eq_map_add, List.flatMap_map]
    simp only [Nat.zero_add, List.map_map, hmove]

/-- A check that reports what is found on each line, on that line. -/
lemma of_found (strict : Bool) (id rule : String) (severity : Severity)
    (message : List Char → String) (found : List Char → List (List Char))
    (h : ∀ text, check text = ((lines text).zipIdx 1).flatMap fun (line, number) =>
      (found line).map fun value =>
        ({ text, strict } : Source).diagnostic id rule severity number (message value)) :
    LineLocal check := by
  refine of_own_line fun text => ?_
  rw [h text, List.zipIdx_succ, List.flatMap_map]
  refine List.flatMap_congr ?_
  rintro ⟨line, above⟩ hmem
  have hline : lines line = [line] := lines_of_mem_lines (List.fst_mem_of_mem_zipIdx hmem)
  have hsnippet : snippet text (above + 1) = snippet line 1 := by
    have hget : (lines text)[above]? = some line := List.mem_zipIdx_iff_getElem?.1 hmem
    simp [snippet, line?, hget, hline]
  simp [h line, hline, Source.diagnostic, Diagnostic.moveDown, hsnippet, Nat.add_comm]

end LineLocal

namespace Naming

/-- The names that a line by itself gives cause to report. -/
def unusual (extraPrefixes : List String) (line : List Char) : List (List Char) :=
  ((assigned line 0).map (·.value)).filter (!isAccepted extraPrefixes ·)

lemma lineLocal_check (extraPrefixes : List String) :
    LineLocal fun text => check extraPrefixes { text, strict := true } := by
  refine LineLocal.of_found true "N002" name .info message (unusual extraPrefixes) fun text => ?_
  rw [check, if_pos rfl, Source.lines_eq]
  refine List.flatMap_congr ?_
  rintro ⟨line, number⟩ -
  simp only [unusual, assigned, ← map_value_scan assignment number, List.filter_map, List.map_map]
  rfl

end Naming

namespace Includes

lemma anchored_imported : imported.Anchored := anchored_indented _ _

/-- Nothing in an import is a line feed: neither the blanks nor the keyword nor the module. -/
lemma readsLine_imported : imported.ReadsLine where
  anchored := anchored_imported
  start before s h := by simp [imported, indented, h]
  onLine s := by
    have hmodule : isModuleChar '\n' = false := by decide
    have hword : '\n' ∉ "$USING".toList := by decide
    simp only [imported, indented, bind, Option.map_bind, Cursor.skip_onLine isInlineBlank_newline,
      Cursor.after?_onLine hword, Option.bind_map, Function.comp_def,
      Cursor.one?_onLine isInlineBlank_newline, Cursor.run?_onLine hmodule]
  passes h := by
    obtain ⟨-, -, hmodule, a, b, ha, hb, hp⟩ := imported_eq_some h
    have hindent := newline_not_mem_of_class isInlineBlank_newline ha
    have hblanks := newline_not_mem_of_class isInlineBlank_newline hb
    have hname := newline_not_mem_of_class (by decide) hmodule
    refine ⟨_, by simp, ?_, hp⟩
    simp [hindent, hblanks, hname]

/-- The modules with an unusual name that a line by itself imports: one at most. -/
def unusual (line : List Char) : List (List Char) :=
  (imported.value? line).toList.filter (!isModuleName ·)

lemma misnamed_eq (source : Source) : misnamed source =
    ((lines source.text).zipIdx 1).flatMap fun (line, number) => (unusual line).map fun module =>
      source.diagnostic "I003" name .warning number (message module) := by
  have hhits : misnamed source =
      (((imports source.text).map fun hit => (hit.value, hit.line)).filter
        fun x => !isModuleName x.1).map fun x =>
          source.diagnostic "I003" name .warning x.2 (message x.1) := by
    rw [List.filter_map, List.map_map]
    rfl
  rw [hhits, imports, readsLine_imported.map_scan, List.filter_flatMap, List.map_flatMap]
  refine List.flatMap_congr ?_
  rintro ⟨line, number⟩ -
  simp only [unusual, List.filter_map, List.map_map]
  rfl

lemma lineLocal_check : LineLocal fun text => check { text, strict := false } :=
  LineLocal.of_found false "I003" name .warning message unusual fun _ => misnamed_eq _

/-- The findings on modules are the same in a strict run, where others come before them. -/
lemma filter_check_eq_misnamed (source : Source) :
    (check source).filter (·.id = "I003") = misnamed source := by
  have hmodules : (misnamed source).filter (·.id = "I003") = misnamed source := by
    rw [List.filter_eq_self]
    intro d hd
    obtain ⟨_, _, hreports, _⟩ := mem_misnamed hd
    simp [hreports.id_eq]
  have himports : (withoutImports source).filter (·.id = "I003") = [] := by
    rw [List.filter_eq_nil_iff]
    intro d hd
    obtain ⟨_, _, hreports⟩ := mem_withoutImports hd
    simp [hreports.id_eq]
  have hinsertions : (withoutInsertions source).filter (·.id = "I003") = [] := by
    rw [List.filter_eq_nil_iff]
    intro d hd
    simp [(mem_withoutInsertions hd).id_eq]
  rw [check, List.filter_append, hmodules]
  split_ifs
  · rw [List.filter_append, himports, hinsertions]
    rfl
  · rfl

lemma pairwise_line_misnamed (source : Source) :
    (misnamed source).Pairwise (·.line < ·.line) := by
  rw [misnamed, List.pairwise_map]
  exact (pairwise_line_scan anchored_imported 1 source.text).filter _

end Includes

/-- Names and modules are found line by line. The lines of a text may be checked one at a time, or in
two texts if the first ends where a line does, and the findings are the same but for the numbers of
their lines. On no line is there more than one finding on a module. -/
theorem lineLocal_names_and_modules :
    (∀ extraPrefixes, LineLocal fun text => Naming.check extraPrefixes { text, strict := true }) ∧
      (LineLocal fun text => Includes.check { text, strict := false }) ∧
      ∀ source : Source,
        (Includes.check source).filter (·.id = "I003") =
            Includes.check { text := source.text, strict := false } ∧
          ((Includes.check source).filter (·.id = "I003")).Pairwise (·.line < ·.line) := by
  refine ⟨Naming.lineLocal_check, Includes.lineLocal_check, fun source => ?_⟩
  rw [Includes.filter_check_eq_misnamed]
  refine ⟨?_, Includes.pairwise_line_misnamed source⟩
  obtain ⟨text, strict, rows, hrows⟩ := source
  subst hrows
  rfl

/-- The module of the second line is reported on the first line of the part behind the cut. -/
theorem lineLocal_names_and_modules_cut :
    let front := "$USING eb.API\n".toList
    let back := " $USING\tst.CORE;x".toList
    Includes.check { text := front ++ back, strict := false } =
        Includes.check { text := front, strict := false } ++
          (Includes.check { text := back, strict := false }).map (Diagnostic.moveDown 1) ∧
      (Includes.check { text := front ++ back, strict := false }).map (·.line) = [1, 2] := by
  intro front back
  obtain ⟨-, hmodules, -⟩ := lineLocal_names_and_modules
  refine ⟨hmodules.append front back (.inr (by decide)), ?_⟩
  decide +kernel

end BasicLint
