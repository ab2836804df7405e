import BasicLint.Proofs.Recognition
import BasicLint.Proofs.Rule.Report

/-!
# Findings show what they are about

A finding comes with the trimmed text of its line. Where a finding is about a construct of the text,
this line shows the part of the construct that names it, also if the construct goes on over several
lines: a recogniser crosses the end of a line only behind that part.
-/
namespace BasicLint

open Text

/-! ## From what is recognised to what is shown -/

namespace Text.Site

variable {α : Type} {p : Recognizer α} {text : List Char} {hit : Hit α}

/-- What a recogniser passes first stands on the line of its hit. -/
lemma infix_of_passes (site : Site p none 1 text hit) {x r : List Char} {t : Cursor}
    (hp : Cursor.Passes ⟨0, site.back⟩ (x ++ r) t) (hx : Solid x) :
    x <:+: snippet text hit.line := by
  have hback : site.back = [] ++ (x ++ (r ++ t.rest)) := by simpa using hp.rest_eq
  exact site.infix_snippet hback (by simp) hx

/-- What follows the indentation stands at the start of the trimmed line. -/
lemma prefix_of_indented (site : Site p none 1 text hit) {x : List Char} {t : Cursor}
    (h : Indented (site.front.getLast?.or none) ⟨0, site.back⟩ x t) (hx : Solid x) :
    x <+: snippet text hit.line := by
  obtain ⟨hedge, a, r, ha, hp⟩ := h
  rw [Option.or_none] at hedge
  have hback : site.back = a ++ (x ++ (r ++ t.rest)) := by simpa using hp.rest_eq
  exact site.prefix_snippet hedge hback ha hx

end Text.Site

theorem Callable.keyword_prefix {callable : Callable} {text : List Char} {line : Nat}
    (h : callable.line? text = some line) : callable.keyword.toList <+: snippet text line := by
  obtain ⟨hit, hhit, rfl⟩ := Option.map_eq_some_iff.1 h
  obtain ⟨site⟩ := first?_eq_some hhit
  exact site.prefix_of_indented (declaration_eq_some site.recognized)
    (by cases callable <;> decide)

theorem ErrorHandling.opening_prefix {text : List Char} {hit : Hit (List Char)}
    (h : hit ∈ calls text) : ∃ x ∈ openings, x <+: snippet text hit.line := by
  obtain ⟨site⟩ := mem_scan h
  obtain ⟨x, hx, hindented⟩ := call_eq_some site.recognized
  have hsolid : ∀ x ∈ openings, Solid x := by decide
  exact ⟨x, hx, site.prefix_of_indented hindented (hsolid x hx)⟩

theorem RawFileAccess.verb_infix {text : List Char} {hit : Hit Unit}
    (h : hit ∈ scan statement 1 text) : ∃ x ∈ verbs, x <:+: snippet text hit.line := by
  obtain ⟨site⟩ := mem_scan h
  obtain ⟨x, hx, r, hp⟩ := statement_eq_some site.recognized
  have hsolid : ∀ x ∈ verbs, Solid x := by decide
  exact ⟨x, hx, site.infix_of_passes hp (hsolid x hx)⟩

theorem RecordLock.statement_infix {text : List Char} {hit : Hit (List Char)}
    (h : hit ∈ locks text) : "F.READU".toList <:+: snippet text hit.line := by
  obtain ⟨site⟩ := mem_scan (mem_locks.1 h).1
  obtain ⟨argument, -, -, a, b, -, -, hp⟩ := lock_eq_some site.recognized
  exact site.infix_of_passes hp (by decide)

theorem FieldPosition.record_infix {text : List Char} {hit : Hit Access}
    (h : hit ∈ accesses text) :
    (hit.value.record ≠ [] ∧ ∀ c ∈ hit.value.record, isWord c = true) ∧
      (hit.value.digits ≠ [] ∧ ∀ c ∈ hit.value.digits, isDecimal c = true) ∧
      hit.value.record <:+: snippet text hit.line := by
  obtain ⟨site⟩ := mem_scan h
  obtain ⟨hrecord, hdigits, r, hp⟩ := access_eq_some site.recognized
  have hsolid : Solid hit.value.record :=
    ⟨hrecord.1, fun c hc => isBlank_eq_false_of_isWord (hrecord.2 c hc)⟩
  exact ⟨hrecord, hdigits, site.infix_of_passes hp hsolid⟩

theorem Includes.import_prefix {text : List Char} {hit : Hit (List Char)}
    (h : hit ∈ imports text) :
    "$USING".toList <+: snippet text hit.line ∧ hit.value ≠ [] ∧
      hit.value <:+: snippet text hit.line := by
  obtain ⟨site⟩ := mem_scan h
  obtain ⟨hedge, hne, hall, a, b, ha, hb, hp⟩ := imported_eq_some site.recognized
  rw [Option.or_none] at hedge
  have hsolid : Solid hit.value := by
    refine ⟨hne, fun c hc => ?_⟩
    have hc := hall c hc
    simp only [isModuleChar, Bool.and_eq_true, Bool.not_eq_true'] at hc
    exact hc.1.1
  have hback : site.back = a ++ ("$USING".toList ++ (b ++ (hit.value ++ site.found.rest))) := by
    simpa using hp.rest_eq
  refine ⟨site.prefix_snippet hedge hback ha (by decide), hne, ?_⟩
  -- The module stands behind text without a line feed, so it is on the line of the hit.
  have hline : '\n' ∉ a ++ ("$USING".toList ++ b) := by
    intro hmem
    rcases List.mem_append.1 hmem with hmem | hmem
    · have hn := ha _ hmem
      simp at hn
    · rcases List.mem_append.1 hmem with hmem | hmem
      · simp at hmem
      · have hn := hb _ hmem
        simp at hn
  exact site.infix_snippet (by simpa using hback) hline hsolid

/-- A name is looked for on one line, so that line shows it. -/
theorem Naming.target_infix {text line : List Char} {number : Nat} {hit : Hit (List Char)}
    (hline : (line, number) ∈ (lines text).zipIdx 1) (h : hit ∈ assigned line number) :
    hit.value ≠ [] ∧ (∀ c ∈ hit.value, isNameChar c = true) ∧
      hit.value <:+: snippet text number := by
  obtain ⟨site⟩ := mem_scan h
  obtain ⟨hne, hall, r, hp⟩ := assignment_eq_some site.recognized
  have hsolid : Solid hit.value := by
    refine ⟨hne, fun c hc => ?_⟩
    have hc := hall c hc
    simp only [isNameChar, Bool.or_eq_true, beq_iff_eq] at hc
    obtain (hc | rfl) | rfl := hc
    · exact isBlank_eq_false_of_isAlphanum hc
    · decide
    · decide
  have hsplit : line = site.front ++ (hit.value ++ (r ++ site.found.rest)) := by
    have hback : site.back = hit.value ++ (r ++ site.found.rest) := by simpa using hp.rest_eq
    rw [← hback]
    exact site.text_eq
  refine ⟨hne, hall, ?_⟩
  rw [snippet, line?_of_mem_zipIdx hline, Option.getD_some, hsplit, trim_append_solid hsolid]
  exact ⟨_, _, List.append_assoc _ _ _⟩

/-! ## What findings show -/

/-- The line of a finding shows the construct that its code is about. -/
def Diagnostic.ShowsConstruct (d : Diagnostic) : Prop :=
  match d.id with
  | "A001" => ∃ found : FieldPosition.Access, d.message = FieldPosition.message found ∧
      (found.record ≠ [] ∧ ∀ c ∈ found.record, isWord c = true) ∧
      (found.digits ≠ [] ∧ ∀ c ∈ found.digits, isDecimal c = true) ∧
      found.record <:+: d.snippet.toList
  | "A004" => ∃ verb ∈ RawFileAccess.verbs, verb <:+: d.snippet.toList
  | "A003" => "F.READU".toList <:+: d.snippet.toList
  | "E001" => ∃ opening ∈ ErrorHandling.openings, opening <+: d.snippet.toList
  | "N002" => ∃ target, d.message = Naming.message target ∧
      target ≠ [] ∧ (∀ c ∈ target, Naming.isNameChar c = true) ∧ target <:+: d.snippet.toList
  | "I003" => "$USING".toList <+: d.snippet.toList ∧
      ∃ module, d.message = Includes.message module ∧ module ≠ [] ∧ module <:+: d.snippet.toList
  | "S002" => "SUBROUTINE".toList <+: d.snippet.toList
  | "I001" => "FUNCTION".toList <+: d.snippet.toList
  | _ => True

/-- Every finding of a rule shows the construct that it is about. -/
theorem Rule.showsConstruct_of_mem_check {rule : Rule} {source : Source} {d : Diagnostic}
    (h : d ∈ rule.check source) : d.ShowsConstruct := by
  unfold Diagnostic.ShowsConstruct
  cases rule with
  | outline =>
    obtain hr | ⟨line, hline, hr⟩ | hr := Outline.mem_check h
    · simp [hr.id_eq]
    · have hp := Callable.keyword_prefix hline
      rw [hr.id_eq, hr.toList_snippet]
      exact hp
    · simp [hr.id_eq]
  | naming extraPrefixes =>
    obtain ⟨line, number, hline, hit, hhit, hr, hm⟩ := Naming.mem_check h
    rw [hr.id_eq, hr.toList_snippet]
    exact ⟨hit.value, hm, Naming.target_infix hline hhit⟩
  | includes =>
    obtain ⟨line, hline, hr⟩ | hr | ⟨hit, hhit, hr, hm⟩ := Includes.mem_check h
    · have hp := Callable.keyword_prefix hline
      rw [hr.id_eq, hr.toList_snippet]
      exact hp
    · simp [hr.id_eq]
    · rw [hr.id_eq, hr.toList_snippet]
      obtain ⟨hp, hshown⟩ := Includes.import_prefix hhit
      exact ⟨hp, hit.value, hm, hshown⟩
  | errorHandling lookahead =>
    obtain ⟨hit, hhit, hr⟩ := ErrorHandling.mem_check h
    rw [hr.id_eq, hr.toList_snippet]
    exact ErrorHandling.opening_prefix hhit
  | fieldPosition limit =>
    obtain ⟨hit, hhit, hr, hm⟩ := FieldPosition.mem_check h
    rw [hr.id_eq, hr.toList_snippet]
    exact ⟨hit.value, hm, FieldPosition.record_infix hhit⟩
  | recordLock =>
    obtain ⟨hit, hhit, hr⟩ := RecordLock.mem_check h
    rw [hr.id_eq, hr.toList_snippet]
    exact RecordLock.statement_infix hhit
  | rawFileAccess =>
    obtain ⟨hit, hhit, hr⟩ := RawFileAccess.mem_check h
    rw [hr.id_eq, hr.toList_snippet]
    exact RawFileAccess.verb_infix hhit
  | nesting limit mode => simp [(Nesting.mem_check h).id_eq]

/-- An access over three lines shows its record on the first of them. -/
theorem Rule.showsConstruct_of_mem_check_access :
    let source : Source := { text := "Y = 1\n X = Y.REC\n<11\n> ".toList, strict := false }
    let d := source.diagnostic "A001" "hardcoded-position" .error 2
      "Hard-coded field position 11 in 'REC<11>'"
      (some "Use field equates instead of position numbers")
    d ∈ (Rule.fieldPosition 10).check source ∧ d.ShowsConstruct := by
  intro source d
  have h : d ∈ (Rule.fieldPosition 10).check source := by decide +kernel
  exact ⟨h, showsConstruct_of_mem_check h⟩

end BasicLint
