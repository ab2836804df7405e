import BasicLint.Proofs.Recognition

/-!
# The outline of a file, line by line

The rule on outlines searches the whole text, and the blanks around what it looks for may go on for
several lines. The same findings still come from tests of single lines: which lines open with a
keyword, which hold a label, and which hold the closing `END`.
-/
namespace BasicLint.Outline

open Text

/-! ## Tests of a line -/

/-- A keyword opens the line, behind blanks, and a blank of the same line follows it. -/
def isOpenedBy (keyword line : List Char) : Bool :=
  ((after? keyword (trimStart line)).bind List.head?).any isBlank

/-- Without the blanks at its end the line is a name in capitals and a colon. -/
def isLabelLine (line : List Char) : Bool :=
  let name := (trimEnd line).dropLast
  (trimEnd line).getLast? == some ':' && name.head?.any Char.isUpper && name.all isLabelChar

/-- Without the blanks around it the line is `END`. -/
def isClosingLine (line : List Char) : Bool := trim line == "END".toList

/-- The findings on a source from tests of its lines: that none declares a callable; or else that the
first subroutine stands in a text without jumps and labels, and that no line closes the text. -/
def checkLines (source : Source) : List Diagnostic :=
  let lines := Text.lines source.text
  let declares (callable : Callable) := isOpenedBy callable.keyword.toList
  if !lines.any (declares .subroutine) && !lines.any (declares .function) then
    [source.diagnostic "S001" name .error 1 "File must define either SUBROUTINE or FUNCTION"]
  else
    (match lines.findIdx? (declares .subroutine) with
      | some index =>
        if source.strict && !lines.any (isOpenedBy "GOSUB".toList) && !lines.any isLabelLine then
          [source.diagnostic "S002" name .info (index + 1)
            "SUBROUTINE should use GOSUB sections for code organization"
            (some "Consider organizing code with labeled sections and GOSUB calls")]
        else []
      | none => [])
    ++ if lines.any isClosingLine then []
      else [source.diagnostic "S003" name .error lines.length "Code must end with END statement"]

/-! ## The end of a line -/

/-- A text without blanks is what trimming leaves exactly if only blanks follow it. -/
lemma trimEnd_eq_iff {x : List Char} (hx : Solid x) {s : List Char} :
    trimEnd s = x ↔ ∃ b, (∀ c ∈ b, isBlank c = true) ∧ s = x ++ b := by
  constructor
  · rintro rfl
    exact exists_trimEnd s
  · rintro ⟨b, hb, rfl⟩
    rw [trimEnd_append_of_blank hb]
    simpa [trimEnd] using trimEnd_append_solid hx [] []

/-! ## Keywords -/

/-- A callable is declared, and a section jumped to, on the lines that the keyword opens. -/
theorem lineWise_opening {keyword : List Char} (hk : Solid keyword) :
    (indented isInlineBlank (Cursor.keyword? keyword)).LineWise (isOpenedBy keyword) := by
  convert (LineTest.keyword hk).lineWise using 2 with line
  rw [isOpenedBy, Option.any_bind]
  rfl

/-! ## The closing line -/

theorem lineWise_closed? : (indented isInlineBlank closed?).LineWise isClosingLine := by
  have hsolid : Solid "END".toList := by decide
  convert lineTest_closed?.lineWise using 2 with line
  rw [isClosingLine, Bool.eq_iff_iff, beq_iff_eq, trim, trimEnd_eq_iff hsolid]
  simp only [Option.any_eq_true, after?_eq_some_iff, List.all_eq_true, and_comm]

/-! ## Labels -/

lemma isBlank_eq_false_of_isLabelChar {c : Char} (h : isLabelChar c = true) :
    isBlank c = false := by
  simp only [isLabelChar, Bool.or_eq_true, beq_iff_eq] at h
  obtain ((h | h) | rfl) | rfl := h
  · exact isBlank_eq_false_of_isAlphanum
      (Bool.or_eq_true_iff.2 (.inl (Bool.or_eq_true_iff.2 (.inl h))))
  · exact isBlank_eq_false_of_isAlphanum (Bool.or_eq_true_iff.2 (.inr h))
  · decide
  · decide

/-- The name of a label: a capital, and capitals, digits, points and underscores. -/
def IsLabelName (name : List Char) : Prop :=
  name.head?.any Char.isUpper = true ∧ ∀ c ∈ name, isLabelChar c = true

lemma IsLabelName.solid {name : List Char} (h : IsLabelName name) : Solid (name ++ [':']) := by
  refine ⟨by simp, fun c hc => ?_⟩
  rcases List.mem_append.1 hc with hc | hc
  · exact isBlank_eq_false_of_isLabelChar (h.2 c hc)
  · rw [List.mem_singleton.1 hc]
    decide

lemma isLabelLine_iff {line : List Char} :
    isLabelLine line = true ↔ ∃ name, IsLabelName name ∧ trimEnd line = name ++ [':'] := by
  simp only [isLabelLine, Bool.and_eq_true, beq_iff_eq, List.all_eq_true]
  constructor
  · rintro ⟨⟨hcolon, hupper⟩, hchars⟩
    exact ⟨_, ⟨hupper, hchars⟩, (List.dropLast_append_getLast? ':' hcolon).symm⟩
  · rintro ⟨name, ⟨hupper, hchars⟩, hline⟩
    simp [hline, hupper]
    exact hchars

lemma isSome_label_iff {before : Option Char} (hedge : lineEdge before = true) {s : List Char} :
    (label before ⟨0, s⟩).isSome = true ↔
      ∃ name t, IsLabelName name ∧ s = (name ++ [':']) ++ t ∧
        ∀ c ∈ firstLine t, isBlank c = true := by
  simp only [label, hedge, guard_true, bind, pure, Option.bind_some, Option.isSome_bind,
    Option.isSome_some, Option.any_true]
  constructor
  · intro h
    obtain ⟨_, hupper, h⟩ := (Option.any_eq_true _ _).1 h
    obtain ⟨t, ht, hend⟩ := (Option.any_eq_true _ _).1 h
    have hname := (Cursor.passes_skip isLabelChar ⟨0, s⟩).trans (Cursor.after?_eq_some_iff.1 ht)
    refine ⟨s.takeWhile isLabelChar, t.rest, ⟨?_, fun c hc => List.mem_takeWhile_imp hc⟩,
      hname.rest_eq, by simpa [isSome_endOfLine?] using hend⟩
    cases s with
    | nil => simp [Cursor.head?] at hupper
    | cons c s =>
      have hc : c.isUpper = true := (Option.guard_eq_some' _).1 hupper
      have hlabel : isLabelChar c = true := by simp [isLabelChar, hc]
      simp [hlabel, hc]
  · rintro ⟨name, t, ⟨hupper, hchars⟩, rfl, hblank⟩
    have hhead : (name ++ [':'] ++ t).head?.any Char.isUpper = true := by
      cases name with
      | nil => simp at hupper
      | cons c name => simpa using hupper
    obtain ⟨r, hr, hcolon⟩ := Cursor.passes_append_iff.1
      (Cursor.passes_of_rest_eq (s := ⟨0, name ++ [':'] ++ t⟩) rfl)
    have hstop : ∀ c ∈ r.head?, isLabelChar c = false := by
      intro c hc
      rw [List.mem_singleton.1 (hcolon.mem_of_head? (by simp) hc)]
      decide
    simp only [Cursor.head?, hhead, guard_true, pure, Option.any_some]
    rw [hr.skip_eq hchars hstop, Cursor.after?_eq_some_iff.2 hcolon, Option.any_some]
    rw [isSome_endOfLine?, List.all_eq_true]
    exact hblank

theorem lineWise_label : label.LineWise isLabelLine where
  anchored before s h := by
    simp only [label, h]
    rfl
  nil := rfl
  isSome_eq before s hedge := by
    rw [Bool.eq_iff_iff, isLabelLine_iff, isSome_label_iff hedge]
    refine exists_congr fun name => ?_
    rw [exists_and_left]
    refine and_congr_right fun hname => ?_
    rw [trimEnd_eq_iff hname.solid]
    simp only [firstLine_eq_append_iff hname.solid.newline_not_mem]
    constructor
    · rintro ⟨t, hs, hblank⟩
      exact ⟨_, hblank, t, hs, rfl⟩
    · rintro ⟨_, hblank, t, hs, rfl⟩
      exact ⟨t, hs, hblank⟩

/-! ## The findings -/

lemma line?_eq (callable : Callable) (text : List Char) :
    callable.line? text =
      ((lines text).findIdx? (isOpenedBy callable.keyword.toList)).map (· + 1) := by
  have hsolid : Solid callable.keyword.toList := by cases callable <;> decide
  exact (lineWise_opening hsolid).first?_eq text

lemma isSectioned_eq (text : List Char) :
    isSectioned text =
      ((lines text).any (isOpenedBy "GOSUB".toList) || (lines text).any isLabelLine) := by
  rw [isSectioned, occurs_jump, (lineWise_opening (by decide)).occurs_eq, lineWise_label.occurs_eq]

/-- A source with a line that passes some test has a last line. -/
lemma unclosed_eq {source : Source} {q : List Char → Bool} {index : Nat}
    (h : (lines source.text).findIdx? q = some index) :
    unclosed source =
      if (lines source.text).any isClosingLine then []
      else [source.diagnostic "S003" name .error (lines source.text).length
        "Code must end with END statement"] := by
  have hlt : index < (lines source.text).length := (List.findIdx?_eq_some_iff_findIdx_eq.1 h).1
  have hlast : max source.lineCount 1 = (lines source.text).length := by
    rw [Source.lineCount_eq]
    omega
  rw [unclosed, occurs_closing, lineWise_closed?.occurs_eq, hlast]

/-- The outline of a source is checked as if each of its lines were looked at alone. -/
theorem check_eq_checkLines (source : Source) : check source = checkLines source := by
  simp only [check, checkLines, line?_eq, ← List.findIdx?_isSome]
  cases hsub : (lines source.text).findIdx? (isOpenedBy Callable.subroutine.keyword.toList) with
  | none =>
    cases hfun : (lines source.text).findIdx? (isOpenedBy Callable.function.keyword.toList) with
    | none => simp
    | some index => simp [unclosed_eq hfun]
  | some index => simp [unsectioned, isSectioned_eq, unclosed_eq hsub, and_assoc]

end BasicLint.Outline
