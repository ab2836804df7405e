import BasicLint.Proofs.Findings
import Mathlib.Data.Option.Basic

/-!
# What directives do to findings

Directives are applied to each finding by itself. The line above a finding is asked first, then its
own line, and the first of the two that holds a directive for the finding decides. An error needs a
reason to disappear: without one it stays as a warning, so no directive hides an error unexplained.
-/
namespace BasicLint.Directive

/-- The line with the given number. Lines are counted from one. -/
def numbered? (lines : Array (List Char)) (number : Nat) : Option (List Char) :=
  if number = 0 then none else lines[number - 1]?

/-- The line with the given number holds the directive, and the directive names the finding: by its
code, by its rule or along with all others. -/
structure Excuses (lines : Array (List Char)) (number : Nat) (d : Diagnostic)
    (directive : Directive) : Prop where
  held : ∃ line, numbered? lines number = some line ∧ ofLine? line = some directive
  named : "all" ∈ directive.keys ∨ d.id ∈ directive.keys ∨ d.rule ∈ directive.keys

/-- Neither the line above a finding nor its own line excuses it. -/
def Unexcused (lines : Array (List Char)) (d : Diagnostic) : Prop :=
  (∀ directive, ¬ Excuses lines (d.line - 1) d directive) ∧
    ∀ directive, ¬ Excuses lines d.line d directive

/-- The directive that decides about a finding. That of the line above comes first. -/
def Decides (lines : Array (List Char)) (d : Diagnostic) (directive : Directive) : Prop :=
  Excuses lines (d.line - 1) d directive ∨
    (∀ other, ¬ Excuses lines (d.line - 1) d other) ∧ Excuses lines d.line d directive

/-- What may become of a finding. -/
inductive Outcome (lines : Array (List Char)) (d : Diagnostic) : List Diagnostic → Prop
  | kept (h : Unexcused lines d) : Outcome lines d [d]
  | dropped {directive : Directive} (h : Decides lines d directive)
      (hdrop : directive.reason.isSome = true ∨ d.severity ≠ .error) : Outcome lines d []
  | lowered {directive : Directive} {e : Diagnostic} (h : Decides lines d directive)
      (hreason : directive.reason = none) (herror : d.severity = .error)
      (hseverity : e.severity = .warning) (hsame : d.SameFinding e) : Outcome lines d [e]

variable {lines : Array (List Char)} {number : Nat} {d : Diagnostic} {directive : Directive}

lemma covers_iff :
    directive.covers d = true ↔
      "all" ∈ directive.keys ∨ d.id ∈ directive.keys ∨ d.rule ∈ directive.keys := by
  simp [covers, or_assoc]

lemma numbered?_eq_some_iff {line : List Char} :
    numbered? lines number = some line ↔ number ≠ 0 ∧ lines[number - 1]? = some line :=
  Option.ite_none_left_eq_some

theorem covering?_eq_some_iff :
    covering? lines number d = some directive ↔ Excuses lines number d directive := by
  simp only [covering?, bind, Option.bind_eq_some_iff, Option.guard_eq_some', covers_iff,
    Option.some.injEq]
  constructor
  · rintro ⟨-, hnumber, line, hline, found, hfound, -, hnamed, rfl⟩
    exact ⟨⟨line, numbered?_eq_some_iff.2 ⟨hnumber, hline⟩, hfound⟩, hnamed⟩
  · rintro ⟨⟨line, hline, hfound⟩, hnamed⟩
    obtain ⟨hnumber, hline⟩ := numbered?_eq_some_iff.1 hline
    exact ⟨(), hnumber, line, hline, directive, hfound, (), hnamed, rfl⟩

lemma covering?_eq_none_iff :
    covering? lines number d = none ↔ ∀ directive, ¬ Excuses lines number d directive := by
  simp only [Option.eq_none_iff_forall_ne_some, ne_eq, covering?_eq_some_iff]

lemma find?_eq_none_iff : find? lines d = none ↔ Unexcused lines d := by
  rw [find?, Option.or_eq_none_iff, covering?_eq_none_iff, covering?_eq_none_iff, Unexcused]

lemma find?_eq_some_iff : find? lines d = some directive ↔ Decides lines d directive := by
  rw [find?, Option.or_eq_some_iff, covering?_eq_none_iff, covering?_eq_some_iff,
    covering?_eq_some_iff, Decides]

lemma apply_singleton : apply lines [d] = (excuse? lines d).toList := by
  cases h : excuse? lines d <;> simp [apply, h]

lemma apply_eq_flatMap (ds : List Diagnostic) :
    apply lines ds = ds.flatMap fun d => apply lines [d] := by
  induction ds with
  | nil => rfl
  | cons d ds ih =>
    rw [List.flatMap_cons, ← ih]
    exact List.filterMap_append (l := [d])

theorem outcome_apply_singleton (lines : Array (List Char)) (d : Diagnostic) :
    Outcome lines d (apply lines [d]) := by
  rw [apply_singleton, excuse?]
  cases hfind : find? lines d with
  | none => exact .kept (find?_eq_none_iff.1 hfind)
  | some directive =>
    have hdecides := find?_eq_some_iff.1 hfind
    dsimp only
    split_ifs with hasked
    · rw [Bool.and_eq_true, Option.isNone_iff_eq_none, decide_eq_true_eq] at hasked
      exact .lowered hdecides hasked.1 hasked.2 rfl ⟨rfl, rfl, rfl, rfl⟩
    · refine .dropped hdecides ?_
      rw [Bool.and_eq_true, decide_eq_true_eq, not_and_or] at hasked
      exact hasked.imp_left (by cases directive.reason <;> simp)

/-- An error stays an error exactly where nothing excuses it. -/
lemma Outcome.exists_error_iff {left : List Diagnostic} (h : Outcome lines d left)
    (herror : d.severity = .error) :
    (∃ e ∈ left, e.severity = .error) ↔ Unexcused lines d := by
  -- A directive that decides about a finding excuses it.
  have hdecided {directive : Directive} (hdecides : Decides lines d directive) :
      ¬ Unexcused lines d := by
    rintro ⟨habove, hown⟩
    rcases hdecides with hexcuses | ⟨-, hexcuses⟩
    · exact habove directive hexcuses
    · exact hown directive hexcuses
  cases h with
  | kept hunexcused => simpa [herror] using hunexcused
  | dropped hdecides => simpa using hdecided hdecides
  | lowered hdecides _ _ hseverity => simpa [hseverity] using hdecided hdecides

lemma Outcome.reaches {left : List Diagnostic} (h : Outcome lines d left) :
    ∀ e ∈ left, d.severity.reaches e.severity = true := by
  intro e he
  cases h with
  | kept =>
    rw [List.mem_singleton.1 he]
    simp [Severity.reaches]
  | dropped => simp at he
  | lowered _ _ herror hseverity =>
    rw [List.mem_singleton.1 he, herror, hseverity]
    decide

/-- Two files with the same lines above and at a finding have the same directives for it. -/
lemma covering?_congr {lines' : Array (List Char)}
    (h : numbered? lines' number = numbered? lines number) :
    covering? lines' number d = covering? lines number d := by
  refine Option.ext fun directive => ?_
  rw [covering?_eq_some_iff, covering?_eq_some_iff]
  constructor
  · rintro ⟨hheld, hnamed⟩
    exact ⟨h ▸ hheld, hnamed⟩
  · rintro ⟨hheld, hnamed⟩
    exact ⟨h.symm ▸ hheld, hnamed⟩

lemma apply_singleton_congr {lines' : Array (List Char)}
    (h : ∀ number ∈ [d.line - 1, d.line], numbered? lines' number = numbered? lines number) :
    apply lines' [d] = apply lines [d] := by
  have habove := covering?_congr (d := d) (h (d.line - 1) (by simp))
  have hown := covering?_congr (d := d) (h d.line (by simp))
  rw [apply_singleton, apply_singleton, excuse?, excuse?, find?, find?, habove, hown]

/-- Findings are dealt with one by one, in order. Each is kept unless the line above or its own line
excuses it, and then the first of the two decides: with a reason it is dropped, without one it is
dropped unless it is an error, which becomes a warning about the same thing. So an error stays an
error exactly if nothing excuses it, no finding gets graver, and only two lines matter to it. -/
theorem apply_pointwise (lines : Array (List Char)) (ds : List Diagnostic) :
    apply lines ds = ds.flatMap (fun d => apply lines [d]) ∧
      ∀ d, Outcome lines d (apply lines [d]) ∧
        (d.severity = .error →
          ((∃ e ∈ apply lines [d], e.severity = .error) ↔ Unexcused lines d)) ∧
        (∀ e ∈ apply lines [d], d.severity.reaches e.severity = true) ∧
        ∀ lines' : Array (List Char),
          (∀ number ∈ [d.line - 1, d.line], numbered? lines' number = numbered? lines number) →
            apply lines' [d] = apply lines [d] := by
  refine ⟨apply_eq_flatMap ds, fun d => ?_⟩
  have houtcome := outcome_apply_singleton lines d
  exact ⟨houtcome, houtcome.exists_error_iff, houtcome.reaches, fun _ => apply_singleton_congr⟩

/-- An error that is excused without a reason, and a file that goes on behind it. -/
theorem apply_pointwise_unexplained :
    let lines : Array (List Char) := #["* infobasic-lint: allow(A001)".toList, "Y = R<15>".toList]
    let lines' := lines.push "* infobasic-lint: allow(all)".toList
    let d : Diagnostic :=
      { id := "A001", rule := "hardcoded-position", severity := .error, line := 2, message := "" }
    d.severity = .error ∧ ((∃ e ∈ apply lines [d], e.severity = .error) ↔ Unexcused lines d) ∧
      (∀ number ∈ [d.line - 1, d.line], numbered? lines' number = numbered? lines number) ∧
      apply lines' [d] = apply lines [d] := by
  intro lines lines' d
  obtain ⟨-, herror, -, hlines⟩ := (apply_pointwise lines [d]).2 d
  have hsame : ∀ number ∈ [d.line - 1, d.line],
      numbered? lines' number = numbered? lines number := by decide
  exact ⟨rfl, herror rfl, hsame, hlines lines' hsame⟩

end BasicLint.Directive
