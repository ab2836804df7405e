import BasicLint.Proofs.Text.LineWise
import BasicLint.Rule
import Mathlib.Data.Option.Basic

/-!
# What the rules recognise

For each construct that a rule reports: the text that its recogniser has passed, with the part that
identifies the construct. A construct that opens a line stands behind indentation only.
-/
namespace BasicLint

open Text

/-- What a recogniser at the start of a line has passed: indentation, then `x`, then the rest. -/
def Indented (before : Option Char) (s : Cursor) (x : List Char) (t : Cursor) : Prop :=
  lineEdge before = true ∧
    ∃ a r, (∀ c ∈ a, isInlineBlank c = true) ∧ s.Passes (a ++ (x ++ r)) t

lemma Indented.advances {before : Option Char} {s t : Cursor} {x : List Char}
    (h : Indented before s x t) (hx : x ≠ []) : ∃ u, u ≠ [] ∧ s.Passes u t := by
  obtain ⟨-, a, r, -, hp⟩ := h
  exact ⟨_, by simp [hx], hp⟩

lemma mem_takeWhile_inlineBlank {s : List Char} :
    ∀ c ∈ s.takeWhile isInlineBlank, isInlineBlank c = true :=
  fun _ hc => List.mem_takeWhile_imp hc

lemma indented_eq_some_iff {α : Type} {space : Char → Bool} {k : Cursor → Option (α × Cursor)}
    {before : Option Char} {s : Cursor} {found : α × Cursor} :
    indented space k before s = some found ↔
      lineEdge before = true ∧ k (s.skip space) = some found := by
  simp [indented, bind, Option.bind_eq_some_iff, Option.guard_eq_some']

theorem Callable.declaration_eq_some {callable : Callable} {before : Option Char} {s t : Cursor}
    {value : Unit} (h : callable.declaration before s = some (value, t)) :
    Indented before s callable.keyword.toList t := by
  obtain ⟨hedge, h⟩ := indented_eq_some_iff.1 h
  simp only [Cursor.keyword?, bind, Option.bind_eq_some_iff, Option.some.injEq,
    Prod.mk.injEq] at h
  obtain ⟨s₁, h₁, s₂, h₂, -, rfl⟩ := h
  obtain ⟨r, -, -, hr⟩ := Cursor.blanks?_eq_some h₂
  exact ⟨hedge, _, r, mem_takeWhile_inlineBlank,
    (s.passes_skip isInlineBlank).trans ((Cursor.after?_eq_some_iff.1 h₁).trans hr)⟩

lemma Callable.advances_declaration (callable : Callable) : callable.declaration.Advances :=
  fun h => (declaration_eq_some h).advances (by cases callable <;> decide)

theorem Includes.imported_eq_some {before : Option Char} {s t : Cursor} {module : List Char}
    (h : imported before s = some (module, t)) :
    lineEdge before = true ∧ module ≠ [] ∧ (∀ c ∈ module, isModuleChar c = true) ∧
      ∃ a b, (∀ c ∈ a, isInlineBlank c = true) ∧ (∀ c ∈ b, isInlineBlank c = true) ∧
        s.Passes (a ++ ("$USING".toList ++ (b ++ module))) t := by
  obtain ⟨hedge, h⟩ := indented_eq_some_iff.1 h
  simp only [bind, Option.bind_eq_some_iff] at h
  obtain ⟨s₁, h₁, s₂, h₂, h₃⟩ := h
  obtain ⟨c, hc, hp⟩ := Cursor.one?_eq_some_iff.1 h₂
  obtain ⟨hne, hall, hm⟩ := Cursor.run?_eq_some h₃
  refine ⟨hedge, hne, hall, _, c :: s₂.rest.takeWhile isInlineBlank, mem_takeWhile_inlineBlank,
    ?_, (s.passes_skip isInlineBlank).trans ((Cursor.after?_eq_some_iff.1 h₁).trans
      ((hp.trans (s₂.passes_skip isInlineBlank)).trans hm))⟩
  intro x hx
  rcases List.mem_cons.1 hx with rfl | hx
  · exact hc
  · exact mem_takeWhile_inlineBlank x hx

lemma Includes.advances_imported : imported.Advances := by
  intro before s t module h
  obtain ⟨-, -, -, a, b, -, -, hp⟩ := imported_eq_some h
  exact ⟨_, by simp, hp⟩

namespace ErrorHandling

/-- The texts that open a service call. -/
def openings : List (List Char) := ["CALL".toList, "F.".toList, "ST.".toList]

lemma called?_eq_some {s t : Cursor} {routine : List Char} (h : called? s = some (routine, t)) :
    ∃ r, s.Passes ("CALL".toList ++ r) t := by
  simp only [called?, bind, Option.bind_eq_some_iff] at h
  obtain ⟨s₁, h₁, s₂, h₂, -, -, h₃⟩ := h
  obtain ⟨b, -, -, hb⟩ := Cursor.blanks?_eq_some h₂
  obtain ⟨-, -, hr⟩ := Cursor.run?_eq_some h₃
  exact ⟨_, (Cursor.after?_eq_some_iff.1 h₁).trans (hb.trans hr)⟩

lemma framework?_eq_some {space : List Char} {s t : Cursor} {routine : List Char}
    (h : framework? space s = some (routine, t)) : ∃ r, s.Passes (space ++ r) t := by
  simp only [framework?, bind, Option.bind_eq_some_iff, Option.some.injEq, Prod.mk.injEq] at h
  obtain ⟨s₁, h₁, ⟨run, s₂⟩, h₂, -, rfl⟩ := h
  obtain ⟨-, -, hr⟩ := Cursor.run?_eq_some h₂
  exact ⟨_, (Cursor.after?_eq_some_iff.1 h₁).trans hr⟩

/-- Each way to name a routine starts with its own text. -/
lemma routine_eq_some {s t : Cursor} {routine : List Char}
    (h : (called? s <|> framework? "F.".toList s <|> framework? "ST.".toList s) =
      some (routine, t)) : ∃ x ∈ openings, ∃ r, s.Passes (x ++ r) t := by
  simp only [Option.orElse_eq_orElse, Option.orElse_eq_or, Option.or_eq_some_iff] at h
  rcases h with h | ⟨-, h | ⟨-, h⟩⟩
  · exact ⟨_, by simp [openings], called?_eq_some h⟩
  · exact ⟨_, by simp [openings], framework?_eq_some h⟩
  · exact ⟨_, by simp [openings], framework?_eq_some h⟩

theorem call_eq_some {before : Option Char} {s t : Cursor} {routine : List Char}
    (h : call before s = some (routine, t)) :
    ∃ x ∈ openings, Indented before s x t := by
  obtain ⟨hedge, h⟩ := indented_eq_some_iff.1 h
  simp only [bind, Option.bind_eq_some_iff, Option.some.injEq, Prod.mk.injEq] at h
  obtain ⟨⟨name, s₁⟩, h₁, s₂, h₂, -, rfl⟩ := h
  obtain ⟨x, hx, r, hr⟩ := routine_eq_some h₁
  have hcall := hr.trans (s₁.passes_skipBlanks.trans (Cursor.after?_eq_some_iff.1 h₂))
  rw [List.append_assoc] at hcall
  exact ⟨x, hx, hedge, _, _, mem_takeWhile_inlineBlank,
    (s.passes_skip isInlineBlank).trans hcall⟩

/-- A call is passed up to its opening parenthesis. -/
lemma exists_passes_call {before : Option Char} {s t : Cursor} {routine : List Char}
    (h : call before s = some (routine, t)) : ∃ u, s.Passes (u ++ ['(']) t := by
  obtain ⟨-, h⟩ := indented_eq_some_iff.1 h
  simp only [bind, Option.bind_eq_some_iff, Option.some.injEq, Prod.mk.injEq] at h
  obtain ⟨⟨name, s₁⟩, h₁, s₂, h₂, -, rfl⟩ := h
  obtain ⟨x, -, r, hr⟩ := routine_eq_some h₁
  exact ⟨_, ((s.passes_skip isInlineBlank).trans (hr.trans s₁.passes_skipBlanks)).trans
    (Cursor.after?_eq_some_iff.1 h₂)⟩

lemma advances_call : call.Advances := by
  intro before s t routine h
  obtain ⟨x, hx, hi⟩ := call_eq_some h
  refine hi.advances ?_
  rintro rfl
  simp [openings] at hx

/-- The first character of a signal decides which one it can be. -/
lemma signal_cons (before : Option Char) (n : Nat) (c : Char) (s : List Char) :
    signal before ⟨n, c :: s⟩ =
      if c = 'E' then wholeWord "ERR".toList before ⟨n, c :: s⟩ <|>
        wholeWord "ETEXT".toList before ⟨n, c :: s⟩
      else if c = 'I' then condition before ⟨n, c :: s⟩
      else if c = 'g' then literal "getEtext".toList before ⟨n, c :: s⟩
      else if c = '.' then literal ".error".toList before ⟨n, c :: s⟩ <|>
        literal ".returnCode".toList before ⟨n, c :: s⟩
      else none := by
  unfold signal
  split <;> simp_all

end ErrorHandling

namespace FieldPosition

/-- A literal position in angle brackets, with blanks around the digits or none. -/
inductive IsBracketed (digits : List Char) : List Char → Prop
  | intro {a b : List Char} (ha : ∀ c ∈ a, isBlank c = true) (hb : ∀ c ∈ b, isBlank c = true)
      (hdigits : IsRun isDecimal digits) :
      IsBracketed digits (['<'] ++ (a ++ (digits ++ (b ++ ['>']))))

/-- A move over a class ends at the blanks before a text that does not go on with the class. -/
lemma eq_false_of_mem_head?_blanks {p : Char → Bool} {a x : List Char} {first : Char}
    (ha : ∀ c ∈ a, isBlank c = true) (hp : ∀ c, p c = true → isBlank c = false)
    (hfirst : p first = false) : ∀ c ∈ (a ++ first :: x).head?, p c = false := by
  intro c hc
  cases a with
  | nil =>
    obtain rfl : first = c := by simpa using hc
    exact hfirst
  | cons d a =>
    obtain rfl : d = c := by simpa using hc
    by_contra hclass
    have hblank := hp d (Bool.not_eq_false _ ▸ hclass)
    exact absurd ((ha d List.mem_cons_self).symm.trans hblank) (by decide)

/-- Exactly a word and a bracketed position behind it are recognised. -/
theorem positioned?_eq_some_iff {s t : Cursor} {found : Access} :
    positioned? s = some (found, t) ↔
      IsRun isWord found.record ∧
        ∃ a x, (∀ c ∈ a, isBlank c = true) ∧ IsBracketed found.digits x ∧
          s.Passes (found.record ++ (a ++ x)) t := by
  obtain ⟨record, digits⟩ := found
  simp only [positioned?, bind, Option.bind_eq_some_iff, Option.some.injEq, Prod.mk.injEq,
    Access.mk.injEq, Cursor.after?_eq_some_iff]
  constructor
  · rintro ⟨⟨_, s₁⟩, h₁, s₂, h₂, ⟨_, s₃⟩, h₃, s₄, h₄, ⟨rfl, rfl⟩, rfl⟩
    obtain ⟨hne, hall, h₁⟩ := Cursor.run?_eq_some h₁
    obtain ⟨hdne, hdall, h₃⟩ := Cursor.run?_eq_some h₃
    exact ⟨⟨hne, hall⟩, _, _, mem_takeWhile_blank,
      .intro mem_takeWhile_blank mem_takeWhile_blank ⟨hdne, hdall⟩,
      h₁.trans (s₁.passes_skipBlanks.trans (h₂.trans (s₂.passes_skipBlanks.trans
        (h₃.trans (s₃.passes_skipBlanks.trans h₄)))))⟩
  · rintro ⟨hrecord, a, _, ha, @⟨b, d, hb, hd, hdigits⟩, h⟩
    obtain ⟨s₁, h₁, h⟩ := Cursor.passes_append_iff.1 h
    have hstop₁ : ∀ c ∈ s₁.head?, isWord c = false := by
      rw [Cursor.head?, h.rest_eq, List.append_assoc]
      exact eq_false_of_mem_head?_blanks ha (fun _ => isBlank_eq_false_of_isWord) (by decide)
    obtain ⟨s₂, h₂, h⟩ := Cursor.passes_append_iff.1
      (skipBlanks_of_passes ha ⟨'<', rfl, by decide⟩ h)
    obtain ⟨first, rest, rfl⟩ := List.exists_cons_of_ne_nil hdigits.ne_nil
    have hfirst := isBlank_eq_false_of_isDecimal (hdigits.all first List.mem_cons_self)
    obtain ⟨s₃, h₃, h⟩ := Cursor.passes_append_iff.1
      (skipBlanks_of_passes hb ⟨first, rfl, hfirst⟩ h)
    have hstop₃ : ∀ c ∈ s₃.head?, isDecimal c = false := by
      rw [Cursor.head?, h.rest_eq, List.append_assoc]
      exact eq_false_of_mem_head?_blanks hd (fun _ => isBlank_eq_false_of_isDecimal) (by decide)
    exact ⟨(record, s₁), h₁.run?_eq hrecord hstop₁, s₂, h₂, (_, s₃),
      h₃.run?_eq hdigits hstop₃, t, skipBlanks_of_passes hd ⟨'>', rfl, by decide⟩ h, ⟨rfl, rfl⟩,
      rfl⟩

lemma access_of_wordEdge {before : Option Char} (hedge : wordEdge before = true) (s : Cursor) :
    access before s = positioned? s := by
  simp [access, hedge]

/-- Exactly the accesses are recognised, each with the whole word before its bracket. -/
theorem access_eq_some_iff {before : Option Char} {s t : Cursor} {found : Access} :
    access before s = some (found, t) ↔
      wordEdge before = true ∧ IsRun isWord found.record ∧
        ∃ a x, (∀ c ∈ a, isBlank c = true) ∧ IsBracketed found.digits x ∧
          s.Passes (found.record ++ (a ++ x)) t := by
  rw [← positioned?_eq_some_iff]
  simp [access, bind, Option.bind_eq_some_iff, Option.guard_eq_some']

theorem access_eq_some {before : Option Char} {s t : Cursor} {found : Access}
    (h : access before s = some (found, t)) :
    (found.record ≠ [] ∧ ∀ c ∈ found.record, isWord c = true) ∧
      (found.digits ≠ [] ∧ ∀ c ∈ found.digits, isDecimal c = true) ∧
      ∃ r, s.Passes (found.record ++ r) t := by
  obtain ⟨-, hrecord, a, x, -, ⟨-, -, hdigits⟩, hp⟩ := access_eq_some_iff.1 h
  exact ⟨⟨hrecord.ne_nil, hrecord.all⟩, ⟨hdigits.ne_nil, hdigits.all⟩, _, hp⟩

lemma advances_access : access.Advances := by
  intro before s t found h
  obtain ⟨⟨hne, -⟩, -, r, hp⟩ := access_eq_some h
  exact ⟨_, by simp [hne], hp⟩

end FieldPosition

namespace RecordLock

lemma argument?_eq_some {s t : Cursor} {target : List Char} (h : argument? s = some (target, t)) :
    ∃ argument, target = trim argument ∧ IsRun isArgumentChar argument ∧
      s.Passes (argument ++ [',']) t := by
  simp only [argument?, bind, Option.bind_eq_some_iff, Option.some.injEq, Prod.mk.injEq] at h
  obtain ⟨⟨argument, s₁⟩, h₁, s₂, h₂, rfl, rfl⟩ := h
  obtain ⟨hne, hall, hr⟩ := Cursor.run?_eq_some h₁
  exact ⟨argument, rfl, ⟨hne, hall⟩, hr.trans (Cursor.after?_eq_some_iff.1 h₂)⟩

/-- The target of a lock is its first argument without the blanks around it. -/
theorem lock_eq_some {before : Option Char} {s t : Cursor} {target : List Char}
    (h : lock before s = some (target, t)) :
    ∃ argument, target = trim argument ∧ IsRun isArgumentChar argument ∧
      ∃ a b, (∀ c ∈ a, isBlank c = true) ∧ (∀ c ∈ b, isBlank c = true) ∧
        s.Passes ("F.READU".toList ++ (a ++ (['('] ++ (b ++ (argument ++ [',']))))) t := by
  simp only [lock, bind, Option.bind_eq_some_iff, Cursor.after?_eq_some_iff] at h
  obtain ⟨s₁, h₁, s₂, h₂, h⟩ := h
  obtain ⟨b, s₃, hb, h₃, h⟩ := Cursor.behindBlanks?_eq_some h
  obtain ⟨argument, htarget, hrun, h⟩ := argument?_eq_some h
  exact ⟨argument, htarget, hrun, _, b, mem_takeWhile_blank, hb,
    h₁.trans (s₁.passes_skipBlanks.trans (h₂.trans (h₃.trans h)))⟩

lemma mem_locks {text : List Char} {hit : Hit (List Char)} :
    hit ∈ locks text ↔ hit ∈ scan lock 1 text ∧ hit.value ≠ [] := by
  simp [locks, List.mem_filter]

lemma advances_lock : lock.Advances := by
  intro before s t target h
  obtain ⟨argument, -, -, a, b, -, -, hp⟩ := lock_eq_some h
  exact ⟨_, by simp, hp⟩

end RecordLock

theorem Naming.assignment_eq_some {before : Option Char} {s t : Cursor} {target : List Char}
    (h : assignment before s = some (target, t)) :
    target ≠ [] ∧ (∀ c ∈ target, isNameChar c = true) ∧ ∃ r, s.Passes (target ++ r) t := by
  simp only [assignment, bind, Option.bind_eq_some_iff, Option.some.injEq, Prod.mk.injEq] at h
  obtain ⟨-, -, first, hfirst, s₁, h₁, ⟨tail, s₂⟩, h₂, s₃, h₃, rfl, rfl⟩ := h
  obtain ⟨c, hc, hp⟩ := Cursor.one?_eq_some_iff.1 h₁
  obtain ⟨-, hall, ht⟩ := Cursor.run?_eq_some h₂
  have hcf : c = first := by simpa [Cursor.head?, hp.rest_eq] using hfirst
  subst hcf
  refine ⟨by simp, ?_, _, (hp.trans ht).trans
    (s₂.passes_skipBlanks.trans (Cursor.after?_eq_some_iff.1 h₃))⟩
  intro x hx
  rcases List.mem_cons.1 hx with rfl | hx
  · have hx : x.isAlphanum = true :=
      Bool.or_eq_true_iff.2 (.inl (Bool.or_eq_true_iff.2 (.inl hc)))
    simp [isNameChar, hx]
  · exact hall x hx

lemma Naming.advances_assignment : assignment.Advances := by
  intro before s t target h
  obtain ⟨hne, -, r, hp⟩ := assignment_eq_some h
  exact ⟨_, by simp [hne], hp⟩

namespace RawFileAccess

/-- The verbs of raw file access. -/
def verbs : List (List Char) := ["OPEN".toList, "READ".toList, "WRITE".toList]

/-- The verbs that move a record, each with the preposition before the file. -/
def transfers : List (List Char × List Char) :=
  [("READ".toList, "FROM".toList), ("WRITE".toList, "TO".toList)]

/-- A statement of raw file access, up to the start of the file name. -/
inductive IsStatement : List Char → Prop
  | opening {a : List Char} {quote : Char} (ha : IsRun isBlank a) (hquote : quote ∈ ['\'', '"']) :
      IsStatement ("OPEN".toList ++ (a ++ ([quote] ++ "F.".toList)))
  | transfer {verb preposition a record b c : List Char} (hverb : (verb, preposition) ∈ transfers)
      (ha : IsRun isBlank a) (hrecord : IsRun isRecordChar record) (hb : IsRun isBlank b)
      (hc : IsRun isBlank c) :
      IsStatement (verb ++ (a ++ (record ++ (b ++ (preposition ++ (c ++ "F.".toList))))))

lemma isBlank_eq_false_of_isRecordChar {c : Char} (h : isRecordChar c = true) :
    isBlank c = false := by
  rcases Bool.or_eq_true_iff.1 h with h | h
  · exact isBlank_eq_false_of_isWord h
  · rw [beq_iff_eq.1 h]
    decide

lemma isRecordChar_eq_false_of_isBlank {c : Char} (h : isBlank c = true) :
    isRecordChar c = false := by
  by_contra hrecord
  have hblank := isBlank_eq_false_of_isRecordChar (Bool.not_eq_false _ ▸ hrecord)
  exact absurd (h.symm.trans hblank) (by decide)

lemma opening_eq_some_iff {s t : Cursor} :
    opening s = some t ↔
      ∃ a quote, IsRun isBlank a ∧ quote ∈ ['\'', '"'] ∧
        s.Passes ("OPEN".toList ++ (a ++ ([quote] ++ "F.".toList))) t := by
  simp only [opening, bind, Option.bind_eq_some_iff, Cursor.after?_eq_some_iff,
    Cursor.one?_eq_some_iff]
  constructor
  · rintro ⟨s₁, h₁, s₂, h₂, s₃, ⟨quote, hquote, h₃⟩, h₄⟩
    obtain ⟨a, hne, ha, h₂⟩ := Cursor.blanks?_eq_some h₂
    exact ⟨a, quote, ⟨hne, ha⟩, by simpa using hquote, h₁.trans (h₂.trans (h₃.trans h₄))⟩
  · rintro ⟨a, quote, ha, hquote, h⟩
    obtain ⟨s₁, h₁, h⟩ := Cursor.passes_append_iff.1 h
    obtain ⟨s₂, h₂, h⟩ := Cursor.passes_append_iff.1 h
    obtain ⟨s₃, h₃, h₄⟩ := Cursor.passes_append_iff.1 h
    have hstop : ∀ c ∈ s₂.head?, isBlank c = false := by
      intro c hc
      have hquotes : ['\'', '"'].all (!isBlank ·) = true := by decide
      rw [List.mem_singleton.1 (h₃.mem_of_head? (by simp) hc)]
      simpa using List.all_eq_true.1 hquotes quote hquote
    exact ⟨s₁, h₁, s₂, h₂.blanks?_eq ha hstop, s₃, ⟨quote, by simpa using hquote, h₃⟩, h₄⟩

lemma transfer_eq_some_iff {verb preposition : List Char} (hpreposition : Solid preposition)
    {s t : Cursor} :
    transfer verb preposition s = some t ↔
      ∃ a record b c, IsRun isBlank a ∧ IsRun isRecordChar record ∧ IsRun isBlank b ∧
        IsRun isBlank c ∧
          s.Passes (verb ++ (a ++ (record ++ (b ++ (preposition ++ (c ++ "F.".toList)))))) t := by
  simp only [transfer, bind, Option.bind_eq_some_iff, Cursor.after?_eq_some_iff]
  constructor
  · rintro ⟨s₁, h₁, s₂, h₂, ⟨record, s₃⟩, h₃, s₄, h₄, s₅, h₅, s₆, h₆, h₇⟩
    obtain ⟨a, hane, ha, h₂⟩ := Cursor.blanks?_eq_some h₂
    obtain ⟨hne, hall, h₃⟩ := Cursor.run?_eq_some h₃
    obtain ⟨b, hbne, hb, h₄⟩ := Cursor.blanks?_eq_some h₄
    obtain ⟨c, hcne, hc, h₆⟩ := Cursor.blanks?_eq_some h₆
    exact ⟨a, record, b, c, ⟨hane, ha⟩, ⟨hne, hall⟩, ⟨hbne, hb⟩, ⟨hcne, hc⟩,
      h₁.trans (h₂.trans (h₃.trans (h₄.trans (h₅.trans (h₆.trans h₇)))))⟩
  · rintro ⟨a, record, b, c, ha, hrecord, hb, hc, h⟩
    obtain ⟨s₁, h₁, h⟩ := Cursor.passes_append_iff.1 h
    obtain ⟨s₂, h₂, h⟩ := Cursor.passes_append_iff.1 h
    obtain ⟨s₃, h₃, h⟩ := Cursor.passes_append_iff.1 h
    obtain ⟨s₄, h₄, h⟩ := Cursor.passes_append_iff.1 h
    obtain ⟨s₅, h₅, h⟩ := Cursor.passes_append_iff.1 h
    obtain ⟨s₆, h₆, h₇⟩ := Cursor.passes_append_iff.1 h
    have hstop₂ : ∀ c ∈ s₂.head?, isBlank c = false := fun c hc =>
      isBlank_eq_false_of_isRecordChar (hrecord.all c (h₃.mem_of_head? hrecord.ne_nil hc))
    have hstop₃ : ∀ c ∈ s₃.head?, isRecordChar c = false := fun c hc =>
      isRecordChar_eq_false_of_isBlank (hb.all c (h₄.mem_of_head? hb.ne_nil hc))
    have hstop₄ : ∀ c ∈ s₄.head?, isBlank c = false := fun c hc =>
      hpreposition.not_blank c (h₅.mem_of_head? hpreposition.ne_nil hc)
    have hfile : Solid "F.".toList := by decide
    have hstop₆ : ∀ c ∈ s₆.head?, isBlank c = false := fun c hc =>
      hfile.not_blank c (h₇.mem_of_head? hfile.ne_nil hc)
    exact ⟨s₁, h₁, s₂, h₂.blanks?_eq ha hstop₂, (record, s₃), h₃.run?_eq hrecord hstop₃, s₄,
      h₄.blanks?_eq hb hstop₄, s₅, h₅, s₆, h₆.blanks?_eq hc hstop₆, h₇⟩

/-- Exactly the statements are recognised. -/
theorem statement_eq_some_iff {before : Option Char} {s t : Cursor} {value : Unit} :
    statement before s = some (value, t) ↔ ∃ x, IsStatement x ∧ s.Passes x t := by
  have hread : Solid "FROM".toList := by decide
  have hwrite : Solid "TO".toList := by decide
  simp only [statement, Option.map_eq_some_iff, Prod.mk.injEq, true_and, exists_eq_right,
    Option.orElse_eq_orElse, Option.orElse_eq_or]
  constructor
  · intro h
    rcases Option.or_eq_some_iff.1 h with h | ⟨-, h⟩
    · obtain ⟨a, quote, ha, hquote, h⟩ := opening_eq_some_iff.1 h
      exact ⟨_, .opening ha hquote, h⟩
    rcases Option.or_eq_some_iff.1 h with h | ⟨-, h⟩
    · obtain ⟨a, record, b, c, ha, hrecord, hb, hc, h⟩ := (transfer_eq_some_iff hread).1 h
      exact ⟨_, .transfer (by simp [transfers]) ha hrecord hb hc, h⟩
    · obtain ⟨a, record, b, c, ha, hrecord, hb, hc, h⟩ := (transfer_eq_some_iff hwrite).1 h
      exact ⟨_, .transfer (by simp [transfers]) ha hrecord hb hc, h⟩
  · rintro ⟨x, hx, h⟩
    have hrest := h.rest_eq
    cases hx with
    | opening ha hquote =>
      rw [opening_eq_some_iff.2 ⟨_, _, ha, hquote, h⟩, Option.some_or]
    | transfer hverb ha hrecord hb hc =>
      -- The first letters of the verbs differ, so the other ways to go on fail.
      simp only [transfers, List.mem_cons, List.not_mem_nil, or_false, Prod.mk.injEq] at hverb
      obtain ⟨rfl, rfl⟩ | ⟨rfl, rfl⟩ := hverb
      · have hopening : opening s = none := by
          rw [opening, Cursor.after?, hrest]
          rfl
        rw [hopening, Option.none_or,
          (transfer_eq_some_iff hread).2 ⟨_, _, _, _, ha, hrecord, hb, hc, h⟩, Option.some_or]
      · have hopening : opening s = none := by
          rw [opening, Cursor.after?, hrest]
          rfl
        have hreading : transfer "READ".toList "FROM".toList s = none := by
          rw [transfer, Cursor.after?, hrest]
          rfl
        rw [hopening, Option.none_or, hreading, Option.none_or,
          (transfer_eq_some_iff hwrite).2 ⟨_, _, _, _, ha, hrecord, hb, hc, h⟩]

lemma IsStatement.exists_verb {x : List Char} (h : IsStatement x) :
    ∃ verb ∈ verbs, ∃ r, x = verb ++ r := by
  cases h with
  | opening => exact ⟨_, by simp [verbs], _, rfl⟩
  | transfer hverb =>
    have hverbs : ∀ move ∈ transfers, move.1 ∈ verbs := by decide
    exact ⟨_, hverbs _ hverb, _, rfl⟩

theorem statement_eq_some {before : Option Char} {s t : Cursor} {value : Unit}
    (h : statement before s = some (value, t)) : ∃ x ∈ verbs, ∃ r, s.Passes (x ++ r) t := by
  obtain ⟨x, hx, hp⟩ := statement_eq_some_iff.1 h
  obtain ⟨verb, hverb, r, rfl⟩ := hx.exists_verb
  exact ⟨verb, hverb, r, hp⟩

lemma advances_statement : statement.Advances := by
  intro before s t value h
  obtain ⟨x, hx, r, hp⟩ := statement_eq_some h
  refine ⟨_, ?_, hp⟩
  rintro hnil
  obtain rfl := (List.append_eq_nil_iff.1 hnil).1
  simp [verbs] at hx

end RawFileAccess

/-! ## What is only looked for

Whether a text holds a jump, a closing line or an insertion is all that is asked. Blank lines above
the construct make no difference to that.
-/

namespace Outline

lemma isSome_lineEnd? (s : Cursor) : (lineEnd? s).isSome = s.head?.all (· == '\n') := by
  unfold lineEnd?
  split_ifs with h <;> simp [h]

/-- Only blanks lead to the end of a line exactly if the rest of the line is blank, for the blanks
that are passed may go on behind the line but need not. -/
lemma isSome_endOfLine? (s : Cursor) :
    (endOfLine? s).isSome = (firstLine s.rest).all isBlank := by
  rw [Bool.eq_iff_iff, List.all_eq_true, endOfLine?]
  constructor
  · intro h
    obtain ⟨found, hfound⟩ := Option.isSome_iff_exists.1 h
    obtain ⟨u, t, hu, hpasses, ht⟩ := Cursor.behindBlanks?_eq_some hfound
    have hend : (lineEnd? t).isSome = true := by rw [ht, Option.isSome_some]
    rw [hpasses.rest_eq]
    refine firstLine_append_blank hu ?_
    rw [isSome_lineEnd?, Option.all_eq_true] at hend
    cases hr : t.rest with
    | nil => simp [firstLine]
    | cons c r =>
      obtain rfl : c = '\n' := by simpa [Cursor.head?, hr] using hend
      simp [firstLine_cons_newline]
  · intro h
    rw [firstLine_blank_iff] at h
    refine Cursor.isSome_behindBlanks? ?_ (s.passes_skip isInlineBlank) ?_
    · exact fun c hc => isBlank_of_isInlineBlank (List.mem_takeWhile_imp hc)
    · rw [isSome_lineEnd?, Cursor.head?, Cursor.rest_skip, Option.all_eq_true]
      simpa using h

lemma lineTest_closed? :
    LineTest closed? fun line => (after? "END".toList line).any (·.all isBlank) := by
  refine .of_literal (by decide) (p := fun s => (endOfLine? s).isSome) (fun s => ?_)
    isSome_endOfLine?
  simp [closed?, Option.isSome_bind]

lemma occurs_jump (text : List Char) :
    occurs jump text = occurs (indented isInlineBlank (Cursor.keyword? "GOSUB".toList)) text :=
  (LineTest.keyword (by decide)).occurs_indented text

lemma occurs_closing (text : List Char) :
    occurs closing text = occurs (indented isInlineBlank closed?) text :=
  lineTest_closed?.occurs_indented text

end Outline

lemma Includes.occurs_insertion (text : List Char) :
    occurs insertion text = occurs (indented isInlineBlank (Cursor.keyword? "$INSERT".toList)) text :=
  (LineTest.keyword (by decide)).occurs_indented text

end BasicLint
