import BasicLint.Proofs.Rule.Blindness
import BasicLint.Proofs.Rule.Report
import BasicLint.Proofs.Text.Lowered

/-!
# Empty lines on top

Empty lines on top of a source move its findings down by as many lines and change nothing else. Only
the findings on the source as a whole stay on the first line, which is then an empty one. This is
shown for a single empty line, rule by rule, and follows for more of them by induction.
-/
namespace BasicLint

open Text

/-- The codes of the findings on a source as a whole, which are reported on the first line. -/
def topCodes : List String := ["S001", "I002", "A006"]

/-- What becomes of a finding when `k` empty lines are put on top of the source. -/
def Diagnostic.lower (k : Nat) (d : Diagnostic) : Diagnostic :=
  if d.id ∈ topCodes then { d with line := 1, snippet := if k = 0 then d.snippet else "" }
  else { d with line := d.line + k }

lemma Diagnostic.lower_succ (k : Nat) (d : Diagnostic) : d.lower (k + 1) = (d.lower k).lower 1 := by
  by_cases hd : d.id ∈ topCodes
  · simp [lower, hd]
  · simp [lower, hd, Nat.add_assoc]

namespace Source

/-- The source with `k` empty lines on top. -/
def below (source : Source) (k : Nat) : Source where
  text := List.replicate k '\n' ++ source.text
  strict := source.strict

variable (source : Source)

lemma below_zero : source.below 0 = source := by
  obtain ⟨text, strict, rows, hrows⟩ := source
  subst hrows
  rfl

lemma below_succ (k : Nat) : source.below (k + 1) = (source.below k).below 1 := rfl

lemma text_below_one : (source.below 1).text = '\n' :: source.text := rfl

lemma strict_below (k : Nat) : (source.below k).strict = source.strict := rfl

variable {id rule message : String} {severity : Severity} {suggestion : Option String}

lemma diagnostic_below_one {line : Nat} (hid : id ∉ topCodes) :
    (source.below 1).diagnostic id rule severity (line + 1) message suggestion =
      (source.diagnostic id rule severity line message suggestion).lower 1 := by
  simp [Diagnostic.lower, diagnostic, hid, text_below_one, snippet_cons_newline]

lemma diagnostic_below_one_of_top (hid : id ∈ topCodes) :
    (source.below 1).diagnostic id rule severity 1 message suggestion =
      (source.diagnostic id rule severity 1 message suggestion).lower 1 := by
  have hsnippet : Text.snippet ('\n' :: source.text) 1 = [] := by
    rw [snippet_cons_newline]
    rfl
  simp [Diagnostic.lower, diagnostic, hid, text_below_one, hsnippet]

end Source

/-- Findings that go with the hits of a scan go down with them. -/
lemma map_filter_lower {α : Type} {hits : List (Hit α)} {keep : Hit α → Bool}
    {report report' : Hit α → Diagnostic} (hkeep : ∀ hit, keep hit.lower = keep hit)
    (hreport : ∀ hit, report' hit.lower = (report hit).lower 1) :
    ((hits.map Hit.lower).filter keep).map report' =
      ((hits.filter keep).map report).map (Diagnostic.lower 1) := by
  have hk : keep ∘ Hit.lower = keep := funext hkeep
  have hr : report' ∘ Hit.lower = Diagnostic.lower 1 ∘ report := funext hreport
  rw [List.filter_map, hk, List.map_map, hr, List.map_map]

/-- A recogniser that finds nothing at the end of a line is settled, if to it a text starts like any
line. -/
lemma Text.Recognizer.Blind.settled {α : Type} {cut : Bool} {p : Recognizer α} (h : p.Blind cut)
    (hstart : ∀ s, p (some '\n') s = p none s) : p.Settled where
  newline before s := h.lineEnd before (atLineEnd_newline s)
  start := hstart

lemma Callable.line?_cons_newline (callable : Callable) (text : List Char) :
    callable.line? ('\n' :: text) = (callable.line? text).map (· + 1) := by
  have hsettled := callable.blind_declaration.settled fun _ => rfl
  rw [line?, hsettled.first?_cons_newline, line?, Option.map_map, Option.map_map]
  rfl

namespace Outline

variable (source : Source)

lemma isSectioned_cons_newline (text : List Char) :
    isSectioned ('\n' :: text) = isSectioned text := by
  have hjump := (blind_keyword (show Solid "GOSUB".toList by decide)).settled fun _ => rfl
  rw [isSectioned, isSectioned, occurs_jump, occurs_jump, hjump.occurs_cons_newline,
    (blind_label.settled fun _ => rfl).occurs_cons_newline]

lemma unsectioned_below_one (line : Nat) :
    unsectioned (source.below 1) (line + 1) =
      (unsectioned source line).map (Diagnostic.lower 1) := by
  unfold unsectioned
  rw [Source.strict_below, Source.text_below_one, isSectioned_cons_newline]
  split_ifs
  · rw [source.diagnostic_below_one, List.map_singleton]
    decide
  · rfl

/-- An empty source has no last line to be moved; it declares nothing either. -/
lemma unclosed_below_one (hne : source.text ≠ []) :
    unclosed (source.below 1) = (unclosed source).map (Diagnostic.lower 1) := by
  have hpos : 0 < (lines source.text).length := List.length_pos_iff.2 (lines_ne_nil hne)
  have hlast : max (source.below 1).lineCount 1 = max source.lineCount 1 + 1 := by
    rw [Source.lineCount_eq, Source.lineCount_eq, Source.text_below_one, lines_cons_newline,
      List.length_cons]
    omega
  unfold unclosed
  rw [Source.text_below_one, occurs_closing, occurs_closing,
    (blind_closed?.settled fun _ => rfl).occurs_cons_newline, hlast]
  split_ifs
  · rfl
  · rw [source.diagnostic_below_one, List.map_singleton]
    decide

theorem check_below_one : check (source.below 1) = (check source).map (Diagnostic.lower 1) := by
  have hne {callable : Callable} {line : Nat} (h : callable.line? source.text = some line) :
      source.text ≠ [] := by
    intro hnil
    rw [hnil] at h
    cases callable <;> cases h
  unfold check
  rw [Source.text_below_one, Callable.line?_cons_newline, Callable.line?_cons_newline]
  cases hs : Callable.line? .subroutine source.text with
  | some line =>
    dsimp only [Option.map_some]
    rw [unsectioned_below_one, unclosed_below_one source (hne hs), List.map_append]
  | none =>
    cases hf : Callable.line? .function source.text with
    | some line => exact unclosed_below_one source (hne hf)
    | none =>
      dsimp only [Option.map_none]
      rw [source.diagnostic_below_one_of_top, List.map_singleton]
      decide

end Outline

theorem Naming.check_below_one (extraPrefixes : List String) (source : Source) :
    check extraPrefixes (source.below 1) =
      (check extraPrefixes source).map (Diagnostic.lower 1) := by
  have hnone : assigned ['\n'] 1 = [] := rfl
  unfold check
  rw [Source.lines_eq, Source.lines_eq, Source.strict_below, Source.text_below_one,
    lines_cons_newline]
  split_ifs
  · rw [List.zipIdx_cons, List.flatMap_cons, List.zipIdx_succ, List.flatMap_map, List.map_flatMap]
    dsimp only
    rw [hnone, List.filter_nil, List.map_nil, List.nil_append]
    refine List.flatMap_congr ?_
    rintro ⟨line, number⟩ -
    have hassigned : assigned line (number + 1) = (assigned line number).map Hit.lower :=
      scanFrom_succ assignment none number 0 line
    dsimp only
    rw [hassigned]
    exact map_filter_lower (fun _ => rfl) fun hit => source.diagnostic_below_one (by decide)
  · rfl

namespace Includes

variable (source : Source)

lemma imports_cons_newline (text : List Char) :
    imports ('\n' :: text) = (imports text).map Hit.lower :=
  (blind_imported.settled fun _ => rfl).scan_cons_newline 1 text

lemma withoutImports_below_one :
    withoutImports (source.below 1) = (withoutImports source).map (Diagnostic.lower 1) := by
  unfold withoutImports
  rw [Source.text_below_one, Callable.line?_cons_newline, imports_cons_newline, List.isEmpty_map]
  cases Callable.line? .function source.text with
  | none => rfl
  | some line =>
    dsimp only [Option.map_some]
    split_ifs
    · rw [source.diagnostic_below_one, List.map_singleton]
      decide
    · rfl

lemma withoutInsertions_below_one :
    withoutInsertions (source.below 1) = (withoutInsertions source).map (Diagnostic.lower 1) := by
  have hsettled := (blind_keyword (show Solid "$INSERT".toList by decide)).settled fun _ => rfl
  unfold withoutInsertions
  rw [Source.text_below_one, occurs_insertion, occurs_insertion, hsettled.occurs_cons_newline]
  split_ifs
  · rfl
  · rw [source.diagnostic_below_one_of_top, List.map_singleton]
    decide

lemma misnamed_below_one :
    misnamed (source.below 1) = (misnamed source).map (Diagnostic.lower 1) := by
  unfold misnamed
  rw [Source.text_below_one, imports_cons_newline]
  exact map_filter_lower (fun _ => rfl) fun hit => source.diagnostic_below_one (by decide)

theorem check_below_one : check (source.below 1) = (check source).map (Diagnostic.lower 1) := by
  unfold check
  rw [Source.strict_below, withoutImports_below_one, withoutInsertions_below_one,
    misnamed_below_one, List.map_append]
  split_ifs
  · rw [List.map_append]
  · rfl

end Includes

theorem ErrorHandling.check_below_one (lookahead : Nat) (source : Source) :
    check lookahead (source.below 1) = (check lookahead source).map (Diagnostic.lower 1) := by
  have hcalls : calls ('\n' :: source.text) = (calls source.text).map Hit.lower :=
    (blind_call.settled fun _ => rfl).scan_cons_newline 1 source.text
  unfold check
  rw [Source.strict_below, Source.text_below_one, hcalls]
  split_ifs
  · exact map_filter_lower (fun _ => rfl) fun hit => source.diagnostic_below_one (by decide)
  · rfl

theorem FieldPosition.check_below_one (limit : Nat) (source : Source) :
    check limit (source.below 1) = (check limit source).map (Diagnostic.lower 1) := by
  have haccesses : accesses ('\n' :: source.text) = (accesses source.text).map Hit.lower :=
    (blind_access.settled fun _ => rfl).scan_cons_newline 1 source.text
  unfold check
  rw [Source.text_below_one, haccesses]
  exact map_filter_lower (fun _ => rfl) fun hit => source.diagnostic_below_one (by decide)

theorem RecordLock.check_below_one (source : Source) :
    check (source.below 1) = (check source).map (Diagnostic.lower 1) := by
  have hlocks : locks ('\n' :: source.text) = (locks source.text).map Hit.lower := by
    rw [locks, (blind_lock.settled fun _ => rfl).scan_cons_newline, List.filter_map]
    rfl
  unfold check
  rw [Source.text_below_one, hlocks]
  exact map_filter_lower (fun _ => rfl) fun hit => source.diagnostic_below_one (by decide)

theorem RawFileAccess.check_below_one (source : Source) :
    check (source.below 1) = (check source).map (Diagnostic.lower 1) := by
  unfold check
  rw [Source.text_below_one, (blind_statement.settled fun _ => rfl).scan_cons_newline,
    List.map_map, List.map_map]
  exact List.map_congr_left fun hit _ => source.diagnostic_below_one (by decide)

theorem Nesting.check_below_one (limit : Nat) (mode : Mode) (source : Source) :
    check limit mode (source.below 1) = (check limit mode source).map (Diagnostic.lower 1) := by
  have hdepth : depth mode ('\n' :: source.text) = depth mode source.text := by
    have hstep : Level.step mode {} '\n' = {} := by cases mode <;> rfl
    rw [depth, List.foldl_cons, hstep, depth]
  unfold check
  rw [Source.text_below_one, hdepth]
  split_ifs
  · rfl
  · rw [source.diagnostic_below_one_of_top, List.map_singleton]
    decide

/-- With no empty lines on top a finding stays where it is. -/
lemma Source.Reports.lower_zero {source : Source} {d : Diagnostic} {id rule : String} {line : Nat}
    (h : source.Reports id rule line d) (hid : id ∉ topCodes ∨ line = 1) : d.lower 0 = d := by
  rw [← h.id_eq, ← h.line_eq] at hid
  rcases hid with hid | hline
  · rw [Diagnostic.lower, if_neg hid, Nat.add_zero]
  · rw [Diagnostic.lower, if_pos rfl, ← hline, Nat.add_zero, ite_self]

namespace Rule

variable (rule : Rule) (source : Source)

lemma lower_zero_of_mem_check {d : Diagnostic} (h : d ∈ rule.check source) : d.lower 0 = d := by
  cases rule with
  | outline =>
    rcases Outline.mem_check h with hr | ⟨line, -, hr⟩ | hr
    · exact hr.lower_zero (.inr rfl)
    · exact hr.lower_zero (.inl (by decide))
    · exact hr.lower_zero (.inl (by decide))
  | naming extraPrefixes =>
    obtain ⟨_, _, _, _, _, hr, -⟩ := Naming.mem_check h
    exact hr.lower_zero (.inl (by decide))
  | includes =>
    rcases Includes.mem_check h with ⟨line, -, hr⟩ | hr | ⟨hit, -, hr, -⟩
    · exact hr.lower_zero (.inl (by decide))
    · exact hr.lower_zero (.inr rfl)
    · exact hr.lower_zero (.inl (by decide))
  | errorHandling lookahead =>
    obtain ⟨hit, -, hr⟩ := ErrorHandling.mem_check h
    exact hr.lower_zero (.inl (by decide))
  | fieldPosition limit =>
    obtain ⟨hit, -, hr, -⟩ := FieldPosition.mem_check h
    exact hr.lower_zero (.inl (by decide))
  | recordLock =>
    obtain ⟨hit, -, hr⟩ := RecordLock.mem_check h
    exact hr.lower_zero (.inl (by decide))
  | rawFileAccess =>
    obtain ⟨hit, -, hr⟩ := RawFileAccess.mem_check h
    exact hr.lower_zero (.inl (by decide))
  | nesting limit mode => exact (Nesting.mem_check h).lower_zero (.inr rfl)

lemma check_below_one :
    rule.check (source.below 1) = (rule.check source).map (Diagnostic.lower 1) := by
  cases rule with
  | outline => exact Outline.check_below_one source
  | naming extraPrefixes => exact Naming.check_below_one extraPrefixes source
  | includes => exact Includes.check_below_one source
  | errorHandling lookahead => exact ErrorHandling.check_below_one lookahead source
  | fieldPosition limit => exact FieldPosition.check_below_one limit source
  | recordLock => exact RecordLock.check_below_one source
  | rawFileAccess => exact RawFileAccess.check_below_one source
  | nesting limit mode => exact Nesting.check_below_one limit mode source

/-- Empty lines on top of a source move each finding of a rule down by as many lines. The findings
on the source as a whole are on line one, with and without them. -/
theorem check_below (k : Nat) :
    rule.check (source.below k) = (rule.check source).map (Diagnostic.lower k) := by
  induction k with
  | zero =>
    have hstay : (rule.check source).map (Diagnostic.lower 0) = (rule.check source).map id :=
      List.map_congr_left fun _ hd => rule.lower_zero_of_mem_check source hd
    rw [source.below_zero, hstay, List.map_id]
  | succ k ih =>
    have hlower : Diagnostic.lower 1 ∘ Diagnostic.lower k = Diagnostic.lower (k + 1) :=
      funext fun d => (d.lower_succ k).symm
    rw [source.below_succ, rule.check_below_one, ih, List.map_map, hlower]

end Rule

example :
    let source : Source := { text := "FUNCTION F".toList, strict := true }
    (Includes.check (source.below 2)).map (fun d => (d.id, d.line)) =
      [("I001", 3), ("I002", 1)] := by
  decide

end BasicLint
