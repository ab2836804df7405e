import BasicLint.Analyzer
import BasicLint.Proofs.Rule.Blindness

/-!
# Line endings do not matter

Ending every line of a text with a carriage return and a line feed changes no finding: neither the
findings of a single rule nor, since directives are read from trimmed lines, what an analyzer makes
of them.
-/
namespace BasicLint

open Text

lemma filter_map_eq_of_forall₂ {α β γ : Type} {R : α → β → Prop} {l : List α} {l' : List β}
    (h : List.Forall₂ R l l') {q : α → Bool} {q' : β → Bool} {f : α → γ} {f' : β → γ}
    (hq : ∀ a ∈ l, ∀ b, R a b → q' b = q a) (hf : ∀ a b, R a b → f' b = f a) :
    (l'.filter q').map f' = (l.filter q).map f := by
  induction h with
  | nil => rfl
  | @cons a b l l' hab _ ih =>
    have ih := ih fun x hx => hq x (List.mem_cons_of_mem a hx)
    have hqa := hq a List.mem_cons_self b hab
    cases hb : q a
    · rw [List.filter_cons_of_neg (by simp [hqa, hb]), List.filter_cons_of_neg (by simp [hb]), ih]
    · rw [List.filter_cons_of_pos (by simp [hqa, hb]), List.filter_cons_of_pos hb, List.map_cons,
        List.map_cons, ih, hf a b hab]

/-- The source with every line ended by a carriage return and a line feed. -/
def Source.crlf (source : Source) : Source where
  text := Text.crlf source.text
  strict := source.strict

@[simp] lemma Source.text_crlf (source : Source) : source.crlf.text = Text.crlf source.text := rfl

@[simp] lemma Source.strict_crlf (source : Source) : source.crlf.strict = source.strict := rfl

@[simp] lemma Source.diagnostic_crlf (source : Source) (id rule : String) (severity : Severity)
    (line : Nat) (message : String) (suggestion : Option String) :
    source.crlf.diagnostic id rule severity line message suggestion =
      source.diagnostic id rule severity line message suggestion := by
  simp [diagnostic, snippet_crlf]

lemma Callable.line?_crlf (callable : Callable) {text : List Char} (h : '\r' ∉ text) :
    callable.line? (crlf text) = callable.line? text := by
  have halike := (mirrors_crlf h).scan_alike callable.blind_declaration
    callable.advances_declaration 1
  unfold line?
  rw [first?_eq, first?_eq]
  generalize scan callable.declaration 1 text = hits at halike
  generalize scan callable.declaration 1 (crlf text) = hits' at halike
  cases halike with
  | nil => rfl
  | cons hab _ => simp [hab.1]

namespace Outline

variable {source : Source}

lemma unsectioned_crlf (h : '\r' ∉ source.text) (line : Nat) :
    unsectioned source.crlf line = unsectioned source line := by
  have hm := mirrors_crlf h
  have hs : isSectioned source.crlf.text = isSectioned source.text := by
    rw [isSectioned, isSectioned, occurs_jump, occurs_jump, Source.text_crlf,
      hm.occurs_eq (blind_keyword (by decide)), hm.occurs_eq blind_label]
  simp only [unsectioned, hs, Source.strict_crlf, Source.diagnostic_crlf]

lemma unclosed_crlf (h : '\r' ∉ source.text) : unclosed source.crlf = unclosed source := by
  have hc : occurs closing source.crlf.text = occurs closing source.text := by
    rw [occurs_closing, occurs_closing, Source.text_crlf,
      (mirrors_crlf h).occurs_eq blind_closed?]
  have hl : source.crlf.lineCount = source.lineCount := by
    simp [lines_crlf]
  simp only [unclosed, hc, hl, Source.diagnostic_crlf]

theorem check_crlf (h : '\r' ∉ source.text) : check source.crlf = check source := by
  unfold check
  rw [Source.text_crlf, Callable.line?_crlf .subroutine h, Callable.line?_crlf .function h]
  split
  · rw [Source.diagnostic_crlf]
  · rw [unsectioned_crlf h, unclosed_crlf h]
  · rw [unclosed_crlf h]

end Outline

theorem Naming.check_crlf (extraPrefixes : List String) {source : Source}
    (h : '\r' ∉ source.text) :
    check extraPrefixes source.crlf = check extraPrefixes source := by
  have hline : ∀ line number, (line, number) ∈ (lines source.text).zipIdx 1 →
      List.Forall₂ Mirrors.HitAlike (assigned line number) (assigned (crlf line) number) := by
    intro line number hmem
    have hr : '\r' ∉ line := by
      intro hr
      apply h
      rw [← flatten_lines source.text]
      exact List.mem_flatten.2 ⟨line, List.fst_mem_of_mem_zipIdx hmem, hr⟩
    exact (mirrors_crlf hr).scan_alike blind_assignment advances_assignment number
  unfold check
  rw [Source.lines_eq, Source.lines_eq, Source.text_crlf, Source.strict_crlf, lines_crlf,
    List.zipIdx_map, List.flatMap_map]
  split_ifs
  · refine List.flatMap_congr ?_
    rintro ⟨line, number⟩ hmem
    refine filter_map_eq_of_forall₂ (hline line number hmem) ?_ ?_
    · intro a _ b hab
      rw [hab.2.1]
    · intro a b hab
      rw [Source.diagnostic_crlf, hab.2.1]
      rfl
  · rfl

namespace Includes

variable {source : Source}

lemma imports_crlf {text : List Char} (h : '\r' ∉ text) :
    List.Forall₂ Mirrors.HitAlike (imports text) (imports (crlf text)) :=
  (mirrors_crlf h).scan_alike blind_imported advances_imported 1

lemma withoutImports_crlf (h : '\r' ∉ source.text) :
    withoutImports source.crlf = withoutImports source := by
  have he : (imports (crlf source.text)).isEmpty = (imports source.text).isEmpty := by
    rw [Bool.eq_iff_iff, List.isEmpty_iff, List.isEmpty_iff, ← List.length_eq_zero_iff,
      ← List.length_eq_zero_iff, (imports_crlf h).length_eq]
  unfold withoutImports
  rw [Source.text_crlf, Callable.line?_crlf .function h, he]
  simp only [Source.diagnostic_crlf]

lemma withoutInsertions_crlf (h : '\r' ∉ source.text) :
    withoutInsertions source.crlf = withoutInsertions source := by
  unfold withoutInsertions
  rw [occurs_insertion, occurs_insertion, Source.text_crlf,
    (mirrors_crlf h).occurs_eq (blind_keyword (by decide)), Source.diagnostic_crlf]

lemma misnamed_crlf (h : '\r' ∉ source.text) : misnamed source.crlf = misnamed source := by
  refine filter_map_eq_of_forall₂ (imports_crlf h) ?_ ?_
  · intro a _ b hab
    rw [hab.2.1]
  · intro a b hab
    rw [Source.diagnostic_crlf, hab.1, hab.2.1]

theorem check_crlf (h : '\r' ∉ source.text) : check source.crlf = check source := by
  unfold check
  rw [Source.strict_crlf, withoutImports_crlf h, withoutInsertions_crlf h, misnamed_crlf h]

end Includes

theorem ErrorHandling.check_crlf (lookahead : Nat) {source : Source} (h : '\r' ∉ source.text) :
    check lookahead source.crlf = check lookahead source := by
  have hcalls : List.Forall₂ Mirrors.HitAlike (calls source.text) (calls (crlf source.text)) :=
    (mirrors_crlf h).scan_alike blind_call advances_call 1
  unfold check
  rw [Source.strict_crlf, Source.text_crlf]
  split_ifs
  · refine filter_map_eq_of_forall₂ hcalls ?_ ?_
    · intro a _ b hab
      rw [isChecked, isChecked, (mirrors_window hab.2.2 lookahead).occurs_eq blind_signal]
    · intro a b hab
      rw [Source.diagnostic_crlf, hab.1, hab.2.1]
  · rfl

theorem FieldPosition.check_crlf (limit : Nat) {source : Source} (h : '\r' ∉ source.text) :
    check limit source.crlf = check limit source := by
  have haccesses : List.Forall₂ Mirrors.HitAlike (accesses source.text)
      (accesses (crlf source.text)) :=
    (mirrors_crlf h).scan_alike blind_access advances_access 1
  refine filter_map_eq_of_forall₂ haccesses ?_ ?_
  · intro a _ b hab
    rw [hab.2.1]
  · intro a b hab
    rw [Source.diagnostic_crlf, hab.1, hab.2.1]

namespace RecordLock

/-- The target of a lock is part of a line. -/
lemma unbroken_target {text : List Char} (h : '\r' ∉ text) {hit : Hit (List Char)}
    (hmem : hit ∈ scan lock 1 text) : Unbroken hit.value := by
  obtain ⟨site⟩ := mem_scan hmem
  obtain ⟨argument, htarget, hrun, a, b, -, -, hp⟩ := lock_eq_some site.recognized
  have hsub : ∀ c ∈ hit.value, c ∈ argument := by
    rw [htarget]
    exact (trim_isInfix argument).subset
  constructor
  · intro hn
    have hn' := hrun.all _ (hsub _ hn)
    simp [isArgumentChar] at hn'
  · intro hr
    apply h
    have hback : site.back = _ := hp.rest_eq
    rw [site.text_eq, hback]
    simp [hsub _ hr]

theorem check_crlf {source : Source} (h : '\r' ∉ source.text) :
    check source.crlf = check source := by
  have hlocks := (mirrors_crlf h).scan_alike blind_lock advances_lock 1
  unfold check locks
  rw [List.filter_filter, List.filter_filter]
  refine filter_map_eq_of_forall₂ hlocks ?_ ?_
  · intro a ha b hab
    have hr := hab.2.2.occurs_eq (blind_release (unbroken_target h ha))
    rw [← hab.2.1, hr]
  · intro a b hab
    rw [Source.diagnostic_crlf, hab.1, hab.2.1]

end RecordLock

theorem RawFileAccess.check_crlf {source : Source} (h : '\r' ∉ source.text) :
    check source.crlf = check source := by
  have hstatements := (mirrors_crlf h).scan_alike blind_statement advances_statement 1
  unfold check
  rw [Source.text_crlf]
  generalize scan statement 1 source.text = hits at hstatements
  generalize scan statement 1 (crlf source.text) = hits' at hstatements
  induction hstatements with
  | nil => rfl
  | cons hab _ ih => rw [List.map_cons, List.map_cons, ih, Source.diagnostic_crlf, hab.1]

namespace Nesting

lemma foldl_step_crlf (mode : Mode) (text : List Char) (level : Level) :
    (crlf text).foldl (Level.step mode) level = text.foldl (Level.step mode) level := by
  induction text generalizing level with
  | nil => rfl
  | cons c text ih =>
    by_cases hc : c = '\n'
    · subst hc
      have hr : level.step mode '\r' = level := by cases mode <;> rfl
      rw [crlf_newline, List.foldl_cons, List.foldl_cons, List.foldl_cons, hr, ih]
    · rw [crlf_cons_of_ne hc, List.foldl_cons, List.foldl_cons, ih]

theorem check_crlf (limit : Nat) (mode : Mode) (source : Source) :
    check limit mode source.crlf = check limit mode source := by
  unfold check depth
  rw [Source.text_crlf, foldl_step_crlf]
  simp only [Source.diagnostic_crlf]

end Nesting

theorem Rule.check_crlf (rule : Rule) (source : Source) (h : '\r' ∉ source.text) :
    rule.check source.crlf = rule.check source := by
  cases rule with
  | outline => exact Outline.check_crlf h
  | naming extraPrefixes => exact Naming.check_crlf extraPrefixes h
  | includes => exact Includes.check_crlf h
  | errorHandling lookahead => exact ErrorHandling.check_crlf lookahead h
  | fieldPosition limit => exact FieldPosition.check_crlf limit h
  | recordLock => exact RecordLock.check_crlf h
  | rawFileAccess => exact RawFileAccess.check_crlf h
  | nesting limit mode => exact Nesting.check_crlf limit mode source

namespace Directive

/-- A directive is read from the trimmed line. -/
lemma ofLine?_congr {a b : List Char} (h : trim a = trim b) : ofLine? a = ofLine? b := by
  unfold ofLine? commentBody?
  rw [h]

lemma covering?_crlf (source : Source) (number : Nat) (d : Diagnostic) :
    covering? source.crlf.rows number d = covering? source.rows number d := by
  unfold covering?
  rw [source.rows_eq, source.crlf.rows_eq, Source.text_crlf, lines_crlf, List.getElem?_toArray,
    List.getElem?_toArray, List.getElem?_map]
  cases hl : (lines source.text)[number - 1]? with
  | none => rfl
  | some line =>
    have hline := ofLine?_congr (trim_crlf_of_mem_lines (List.mem_of_getElem? hl))
    simp only [Option.map_some, bind, Option.bind_some, hline]

lemma apply_crlf (source : Source) (ds : List Diagnostic) :
    apply source.crlf.rows ds = apply source.rows ds := by
  have he : excuse? source.crlf.rows = excuse? source.rows := by
    funext d
    simp only [excuse?, find?, covering?_crlf]
  rw [apply, he, apply]

end Directive

/-- An analyzer reports the same findings whether lines end with a line feed alone or with a
carriage return in front of it. -/
theorem Analyzer.checkSource_crlf (analyzer : Analyzer) (path : String) {text : List Char}
    (h : '\r' ∉ text) :
    analyzer.checkSource path (crlf text) = analyzer.checkSource path text := by
  let source : Source := { text, strict := analyzer.strict }
  have hfindings : analyzer.findings source.crlf = analyzer.findings source := by
    unfold findings
    refine List.flatMap_congr fun rule _ => ?_
    rw [rule.check_crlf source h]
  have hcheck : analyzer.checkText (crlf text) = analyzer.checkText text := by
    change Directive.apply source.crlf.rows (analyzer.findings source.crlf) =
      Directive.apply source.rows (analyzer.findings source)
    rw [hfindings, Directive.apply_crlf]
  rw [checkSource, hcheck, checkSource]

/-- A call whose check stands on the last line that is looked at, and an access over two lines. -/
theorem Analyzer.checkSource_crlf_call :
    '\r' ∉ "CALL A(\nERR\nR\n<11>".toList ∧
      let analyzer : Analyzer := { rules := [.errorHandling 2, .fieldPosition 10], strict := true }
      analyzer.checkSource "A.b" (crlf "CALL A(\nERR\nR\n<11>".toList) =
        analyzer.checkSource "A.b" "CALL A(\nERR\nR\n<11>".toList :=
  ⟨by decide, Analyzer.checkSource_crlf _ _ (by decide)⟩

end BasicLint
