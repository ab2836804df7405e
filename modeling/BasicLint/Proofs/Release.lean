import BasicLint.Proofs.Recognition
import Mathlib.Data.Nat.SuccPred

/-!
# Releases behind a lock

A lock is reported exactly if no release of its target starts behind it. For one target that leaves
a single place to compare with: the locks that end behind the start of its last release are
reported, and no others.
-/
namespace BasicLint.RecordLock

open Text

/-- A routine is applied to a target as its first argument, up to the character that ends the
argument. Blanks may stand around the parenthesis, and those of a given class behind the target. -/
inductive IsApplied (routine target : List Char) (space : Char → Bool) (close : Char) :
    List Char → Prop
  | intro {a b d : List Char} (ha : ∀ c ∈ a, isBlank c = true) (hb : ∀ c ∈ b, isBlank c = true)
      (hd : ∀ c ∈ d, space c = true) :
      IsApplied routine target space close
        (routine ++ (a ++ (['('] ++ (b ++ (target ++ (d ++ [close]))))))

/-- The target of a lock: an argument on one line with nothing to trim. -/
structure IsTarget (target : List Char) : Prop where
  ne_nil : target ≠ []
  trim_eq : trim target = target
  all : ∀ c ∈ target, isArgumentChar c = true

/-- A read that locks a record of the target, up to the comma behind the target. -/
def IsLock (target x : List Char) : Prop :=
  IsTarget target ∧ IsApplied "F.READU".toList target isInlineBlank ',' x

/-- The routines that release a record. -/
def releasing : List (List Char) := ["F.WRITE".toList, "F.RELEASE".toList]

/-- A write or a release of the target, compared character by character. -/
def IsRelease (target x : List Char) : Prop :=
  ∃ routine ∈ releasing, ∃ close ∈ [',', ')'], IsApplied routine target isBlank close x

/-- A lock stands behind the first `start` characters of the text, on its line. -/
def LockedAt (text : List Char) (hit : Hit (List Char)) (start : Nat) : Prop :=
  ∃ a x, text = a ++ (x ++ hit.rest) ∧ a.length = start ∧ hit.line = 1 + a.count '\n' ∧
    IsLock hit.value x

/-- A release of the target stands behind the first `start` characters of the text. -/
def ReleasedAt (text target : List Char) (start : Nat) : Prop :=
  ∃ a x b, text = a ++ (x ++ b) ∧ a.length = start ∧ IsRelease target x

/-- How many characters of the text there are up to the end of a hit. -/
def stop (text : List Char) (hit : Hit (List Char)) : Nat := text.length - hit.rest.length

/-- All releases of the target start before the end of the lock. -/
def Unreleased (text : List Char) (hit : Hit (List Char)) : Prop :=
  ∀ start, ReleasedAt text hit.value start → start < stop text hit

/-- What is reported about a lock. -/
def finding (source : Source) (hit : Hit (List Char)) : Diagnostic :=
  source.diagnostic "A003" name .warning hit.line (message hit.value) (some (suggestion hit.value))

/-! ## What a lock and a release are recognised by -/

lemma IsTarget.exists_head {target : List Char} (h : IsTarget target) :
    ∃ c ∈ target.head?, isBlank c = false := by
  have hhead := List.head?_eq_some_head h.ne_nil
  refine ⟨_, hhead, isBlank_eq_false_of_mem_head?_trim (s := target) ?_⟩
  rw [h.trim_eq]
  exact hhead

/-- The argument of a routine is reached over the blanks around the parenthesis. -/
lemma exists_passes_argument {s t : Cursor} {routine a b x : List Char}
    (ha : ∀ c ∈ a, isBlank c = true) (hb : ∀ c ∈ b, isBlank c = true)
    (hx : ∃ c ∈ x.head?, isBlank c = false)
    (h : s.Passes (routine ++ (a ++ (['('] ++ (b ++ x)))) t) :
    ∃ s₁ s₂, s.Passes routine s₁ ∧ s₁.skipBlanks.Passes ['('] s₂ ∧ s₂.skipBlanks.Passes x t := by
  obtain ⟨s₁, h₁, h⟩ := Cursor.passes_append_iff.1 h
  obtain ⟨s₂, h₂, h⟩ := Cursor.passes_append_iff.1
    (skipBlanks_of_passes ha ⟨'(', rfl, by decide⟩ h)
  exact ⟨s₁, s₂, h₁, h₂, skipBlanks_of_passes hb hx h⟩

lemma isArgumentChar_of_isInlineBlank {c : Char} (h : isInlineBlank c = true) :
    isArgumentChar c = true := by
  rw [isInlineBlank, Bool.and_eq_true] at h
  have hcomma : c ≠ ',' := by
    rintro rfl
    exact absurd h.1 (by decide)
  have hparen : c ≠ ')' := by
    rintro rfl
    exact absurd h.1 (by decide)
  simpa [isArgumentChar, hcomma, hparen] using h.2

/-- An argument that is not blank holds a target with blanks of its line around it. -/
lemma exists_target {argument : List Char} (h : IsRun isArgumentChar argument)
    (hne : trim argument ≠ []) :
    IsTarget (trim argument) ∧
      ∃ a d, (∀ c ∈ a, isBlank c = true) ∧ (∀ c ∈ d, isInlineBlank c = true) ∧
        argument = a ++ (trim argument ++ d) := by
  obtain ⟨a, ha, hstart⟩ := exists_trimStart argument
  obtain ⟨d, hd, hend⟩ := exists_trimEnd (trimStart argument)
  have hargument : argument = a ++ (trim argument ++ d) := by rw [trim, ← hend, ← hstart]
  refine ⟨⟨hne, trim_trim argument, fun c hc => h.all c ((trim_isInfix argument).subset hc)⟩, a, d,
    ha, fun c hc => ?_, hargument⟩
  have hline : c ≠ '\n' := by
    rintro rfl
    have hfeed : isArgumentChar '\n' = true := by
      refine h.all _ ?_
      rw [hargument]
      exact List.mem_append_right a (List.mem_append_right _ hc)
    exact absurd hfeed (by decide)
  rw [isInlineBlank_of_ne hline, hd c hc]

/-- Exactly the locks are recognised, each with its target, apart from reads that have no target. -/
theorem lock_eq_some_iff {before : Option Char} {s t : Cursor} {target : List Char} :
    lock before s = some (target, t) ∧ target ≠ [] ↔ ∃ x, s.Passes x t ∧ IsLock target x := by
  constructor
  · rintro ⟨hlock, hne⟩
    obtain ⟨argument, rfl, hrun, a, b, ha, hb, hpasses⟩ := lock_eq_some hlock
    obtain ⟨htarget, e, d, he, hd, hargument⟩ := exists_target hrun hne
    rw [hargument] at hpasses
    have hblanks : ∀ c ∈ b ++ e, isBlank c = true := List.forall_mem_append.2 ⟨hb, he⟩
    refine ⟨_, ?_, htarget, .intro ha hblanks hd⟩
    simpa using hpasses
  · rintro ⟨_, hpasses, htarget, @⟨a, b, d, ha, hb, hd⟩⟩
    obtain ⟨first, hfirst, hsolid⟩ := htarget.exists_head
    obtain ⟨s₁, s₂, h₁, h₂, h⟩ := exists_passes_argument ha hb
      ⟨first, List.mem_head?_append_of_mem_head? hfirst, hsolid⟩ hpasses
    rw [← List.append_assoc] at h
    obtain ⟨s₃, h₃, h₄⟩ := Cursor.passes_append_iff.1 h
    have hrun : IsRun isArgumentChar (target ++ d) :=
      ⟨by simp [htarget.ne_nil], fun c hc => (List.mem_append.1 hc).elim (htarget.all c)
        fun hc => isArgumentChar_of_isInlineBlank (hd c hc)⟩
    have hcomma : ∀ c ∈ s₃.head?, isArgumentChar c = false := by
      simp [Cursor.head?, h₄.rest_eq, isArgumentChar]
    have htrim : trim (target ++ d) = target := by
      rw [trim_append_of_blank fun c hc => isBlank_of_isInlineBlank (hd c hc), htarget.trim_eq]
    have hargument : argument? s₂.skipBlanks = some (target, t) := by
      simp only [argument?, h₃.run?_eq hrun hcomma, bind, Option.bind_some,
        Cursor.after?_eq_some_iff.2 h₄, htrim]
    refine ⟨?_, htarget.ne_nil⟩
    simp only [lock, bind, Option.bind_eq_some_iff, Cursor.after?_eq_some_iff]
    exact ⟨s₁, h₁, s₂, h₂, Cursor.behindBlanks?_of_skipBlanks hargument⟩

/-- A read without a target starts with the only `F` in it. -/
lemma exists_passes_of_lock_nil {before : Option Char} {s t : Cursor}
    (h : lock before s = some ([], t)) : ∃ x, 'F' ∉ x ∧ s.Passes ('F' :: x) t := by
  obtain ⟨argument, htrim, -, a, b, ha, hb, hpasses⟩ := lock_eq_some h
  have hargument : ∀ c ∈ argument, isBlank c = true := trim_eq_nil_iff.1 htrim.symm
  have hnot {u : List Char} (hu : ∀ c ∈ u, isBlank c = true) : 'F' ∉ u :=
    fun hmem => absurd (hu 'F' hmem) (by decide)
  refine ⟨".READU".toList ++ (a ++ (['('] ++ (b ++ (argument ++ [','])))), ?_, hpasses⟩
  simp [hnot ha, hnot hb, hnot hargument]

/-- The names of the releasing routines are told apart behind what they share. -/
lemma passes_releasing_iff {s t : Cursor} :
    (∃ r, s.Passes "F.".toList r ∧
      (r.after? "WRITE".toList <|> r.after? "RELEASE".toList) = some t) ↔
        ∃ routine ∈ releasing, s.Passes routine t := by
  simp only [Option.orElse_eq_orElse, Option.orElse_eq_or, Option.or_eq_some_iff,
    Cursor.after?_eq_some_iff, releasing, List.mem_cons, List.not_mem_nil, or_false,
    exists_eq_or_imp, exists_eq_left]
  constructor
  · rintro ⟨r, hr, ht | ⟨-, ht⟩⟩
    · exact .inl (hr.trans ht)
    · exact .inr (hr.trans ht)
  · rintro (h | h)
    · obtain ⟨r, hr, ht⟩ := Cursor.passes_append_iff.1
        (show s.Passes ("F.".toList ++ "WRITE".toList) t from h)
      exact ⟨r, hr, .inl ht⟩
    · obtain ⟨r, hr, ht⟩ := Cursor.passes_append_iff.1
        (show s.Passes ("F.".toList ++ "RELEASE".toList) t from h)
      refine ⟨r, hr, .inr ⟨?_, ht⟩⟩
      rw [Cursor.after?, ht.rest_eq]
      rfl

/-- Exactly the releases of a target that does not start with a blank are recognised. -/
theorem isSome_release_iff {target : List Char} (htarget : ∃ c ∈ target.head?, isBlank c = false)
    {before : Option Char} {s : Cursor} :
    (release target before s).isSome = true ↔ ∃ x b, s.rest = x ++ b ∧ IsRelease target x := by
  simp only [Option.isSome_iff_exists, release, startingWith_eq_some_iff, bind,
    Option.bind_eq_some_iff, Option.some.injEq, Cursor.after?_eq_some_iff, Cursor.one?_eq_some_iff]
  constructor
  · rintro ⟨_, -, s₁, h₁, s₂, h₂, s₃, h₃, s₄, h₄, s₅, ⟨close, hclose, h₅⟩, -⟩
    obtain ⟨routine, hroutine, h₂⟩ := passes_releasing_iff.1 ⟨s₁, h₁, h₂⟩
    have hpasses := h₂.trans (s₂.passes_skipBlanks.trans (h₃.trans
      (s₃.passes_skipBlanks.trans (h₄.trans (s₄.passes_skipBlanks.trans h₅)))))
    exact ⟨_, s₅.rest, hpasses.rest_eq, routine, hroutine, close, by simpa using hclose,
      .intro mem_takeWhile_blank mem_takeWhile_blank mem_takeWhile_blank⟩
  · rintro ⟨_, rest, hs, routine, hroutine, close, hclose, @⟨a, b, d, ha, hb, hd⟩⟩
    obtain ⟨first, hfirst, hsolid⟩ := htarget
    obtain ⟨s₂, s₃, h₂, h₃, h⟩ := exists_passes_argument ha hb
      ⟨first, List.mem_head?_append_of_mem_head? hfirst, hsolid⟩ (Cursor.passes_of_rest_eq hs)
    obtain ⟨s₄, h₄, h⟩ := Cursor.passes_append_iff.1 h
    obtain ⟨s₁, h₁, h₂⟩ := passes_releasing_iff.2 ⟨routine, hroutine, h₂⟩
    have hhead : s.head? = some 'F' := by simp [Cursor.head?, h₁.rest_eq]
    have hlast : isBlank close = false := by
      have hall : [',', ')'].all (!isBlank ·) = true := by decide
      simpa using List.all_eq_true.1 hall close hclose
    exact ⟨_, hhead, s₁, h₁, s₂, h₂, s₃, h₃, s₄, h₄, _,
      ⟨close, by simpa using hclose, skipBlanks_of_passes hd ⟨close, rfl, hlast⟩ h⟩, rfl⟩

/-! ## Behind a lock -/

lemma IsRelease.ne_nil {target x : List Char} (h : IsRelease target x) : x ≠ [] := by
  obtain ⟨routine, -, close, -, ⟨-, -, -⟩⟩ := h
  simp

/-- Behind a lock a release of its target is found exactly if one starts there. -/
lemma occurs_release_iff {target : List Char} (htarget : ∃ c ∈ target.head?, isBlank c = false)
    {upto rest : List Char} :
    occurs (release target) rest = true ↔
      ∃ start, ReleasedAt (upto ++ rest) target start ∧ upto.length ≤ start := by
  simp only [occurs_iff, isSome_release_iff htarget]
  constructor
  · rintro ⟨a, _, rfl, x, b, rfl, hx⟩
    exact ⟨_, ⟨upto ++ a, x, b, by simp, rfl, hx⟩, by simp⟩
  · rintro ⟨_, ⟨a, x, b, htext, rfl, hx⟩, hstart⟩
    obtain ⟨a, rfl, hrest⟩ := exists_append_of_length_le htext hstart
    exact ⟨a, x ++ b, hrest, x, b, rfl, hx⟩

lemma lockedAt_of_site {text : List Char} {hit : Hit (List Char)}
    (site : Site lock none 1 text hit) (hne : hit.value ≠ []) :
    LockedAt text hit site.front.length := by
  obtain ⟨x, hx, hlock⟩ := lock_eq_some_iff.1 ⟨site.recognized, hne⟩
  have hback : site.back = x ++ hit.rest := site.rest_eq ▸ hx.rest_eq
  exact ⟨site.front, x, hback ▸ site.text_eq, rfl, site.line_eq, hlock⟩

lemma exists_lockedAt {text : List Char} {hit : Hit (List Char)} (h : hit ∈ locks text) :
    ∃ start, LockedAt text hit start := by
  obtain ⟨hscan, hne⟩ := mem_locks.1 h
  obtain ⟨site⟩ := mem_scan hscan
  exact ⟨_, lockedAt_of_site site hne⟩

/-- No lock starts inside a read without a target. -/
lemma value_ne_nil_of_covers {text a b : List Char} {hit : Hit (List Char)}
    (site : Site lock none 1 text hit) (htext : text = a ++ 'F' :: b)
    (hfront : site.front.length < a.length) (hrest : hit.rest.length < ('F' :: b).length) :
    hit.value ≠ [] := by
  intro hnil
  have hfound := site.recognized
  rw [hnil] at hfound
  obtain ⟨x, hx, hpasses⟩ := exists_passes_of_lock_nil hfound
  have hback : site.back = 'F' :: x ++ hit.rest := site.rest_eq ▸ hpasses.rest_eq
  obtain ⟨p, rfl, hcut⟩ := exists_append_of_length_le (site.text_eq.symm.trans htext) hfront.le
  rw [hback, List.cons_append] at hcut
  rcases List.cons_eq_append_iff.1 hcut with ⟨rfl, -⟩ | ⟨p, rfl, hrest_eq⟩
  · simp at hfront
  have hlength : p.length ≤ x.length := by
    have hsum := congrArg List.length hrest_eq
    simp only [List.length_append] at hsum
    omega
  obtain ⟨q, rfl, hq⟩ := exists_append_of_length_le hrest_eq.symm hlength
  rcases List.cons_eq_append_iff.1 hq with ⟨rfl, hq⟩ | ⟨q, rfl, -⟩
  · simp [hq] at hrest
  · simp at hx

/-- A lock that is no hit starts inside one. -/
lemma mem_locks_or_inside {text : List Char} {hit : Hit (List Char)} {start : Nat}
    (h : LockedAt text hit start) :
    hit ∈ locks text ∨
      ∃ other ∈ locks text, ∃ first, LockedAt text other first ∧ first < start ∧
        start < stop text other := by
  obtain ⟨a, x, rfl, rfl, hline, hlock⟩ := h
  obtain ⟨b, hb⟩ : ∃ b, x ++ hit.rest = 'F' :: b := by
    obtain ⟨-, ⟨-, -, -⟩⟩ := hlock
    exact ⟨_, rfl⟩
  obtain ⟨hfound, hne⟩ := (@lock_eq_some_iff a.getLast? ⟨0, x ++ hit.rest⟩ _ _).2
    ⟨x, Cursor.passes_of_rest_eq rfl, hlock⟩
  refine (@mem_scan_or_covered _ lock advances_lock 1 a _ _ _ (by simp [hb]) hfound).imp ?_ ?_
  · intro hmem
    rw [← hline] at hmem
    exact mem_locks.2 ⟨hmem, hne⟩
  · rintro ⟨other, hother, site, hfront, hrest⟩
    have hvalue : other.value ≠ [] :=
      value_ne_nil_of_covers site (by rw [hb]) hfront (by rwa [← hb])
    refine ⟨other, mem_locks.2 ⟨hother, hvalue⟩, _, lockedAt_of_site site hvalue, hfront, ?_⟩
    rw [stop, List.length_append]
    omega

/-- The text behind a lock decides whether the lock is released. -/
lemma unreleased_iff {text : List Char} {hit : Hit (List Char)} (h : hit ∈ locks text) :
    Unreleased text hit ↔ occurs (release hit.value) hit.rest = false := by
  obtain ⟨_, a, x, htext, -, -, htarget, -⟩ := exists_lockedAt h
  rw [← List.append_assoc] at htext
  have hstop : stop text hit = (a ++ x).length := by
    rw [stop, htext, List.length_append, Nat.add_sub_cancel]
  have hoccurs : occurs (release hit.value) hit.rest = true ↔
      ∃ start, ReleasedAt text hit.value start ∧ stop text hit ≤ start := by
    rw [occurs_release_iff htarget.exists_head, ← htext, hstop]
  rw [← Bool.not_eq_true, hoccurs, Unreleased]
  push Not
  rfl

lemma ReleasedAt.start_le {text target : List Char} {start : Nat}
    (h : ReleasedAt text target start) : start ≤ text.length := by
  obtain ⟨a, x, b, rfl, rfl, -⟩ := h
  simp

/-- Among the releases of a target there is a last one, and it decides about all of its locks. -/
lemma exists_last_release (text target : List Char) :
    (∀ start, ¬ReleasedAt text target start) ∨
      ∃ last, IsGreatest {start | ReleasedAt text target start} last ∧
        ∀ hit : Hit (List Char), hit.value = target →
          (Unreleased text hit ↔ last < stop text hit) := by
  by_cases hne : {start | ReleasedAt text target start}.Nonempty
  · have hbounded : BddAbove {start | ReleasedAt text target start} :=
      ⟨text.length, fun _ h => h.start_le⟩
    obtain ⟨last, hlast⟩ := hbounded.exists_isGreatest_of_nonempty hne
    refine .inr ⟨last, hlast, ?_⟩
    rintro hit rfl
    exact ⟨fun h => h last hlast.1, fun h start hstart => lt_of_le_of_lt (hlast.2 hstart) h⟩
  · exact .inl fun start h => hne ⟨start, h⟩

open Classical in
/-- The hits are locks where they stand, and a lock is a hit unless it starts inside one. Reported
are, in order and once each, the hits with no release of their target behind them: all hits of a
target that is never released, and else those that end behind the start of its last release. -/
theorem check_eq_unreleased (source : Source) :
    (∀ hit ∈ locks source.text, ∃ start, LockedAt source.text hit start) ∧
      (∀ hit start, LockedAt source.text hit start →
        hit ∈ locks source.text ∨
          ∃ other ∈ locks source.text, ∃ first, LockedAt source.text other first ∧
            first < start ∧ start < stop source.text other) ∧
      check source =
        ((locks source.text).filter (Unreleased source.text ·)).map (finding source) ∧
      ∀ target,
        ((∀ start, ¬ReleasedAt source.text target start) ∧
          ∀ hit : Hit (List Char), hit.value = target → Unreleased source.text hit) ∨
        ∃ last, IsGreatest {start | ReleasedAt source.text target start} last ∧
          ∀ hit : Hit (List Char), hit.value = target →
            (Unreleased source.text hit ↔ last < stop source.text hit) := by
  refine ⟨fun _ => exists_lockedAt, fun _ _ => mem_locks_or_inside, ?_, fun target => ?_⟩
  · refine congrArg (List.map _) (List.filter_congr fun hit hhit => ?_)
    rw [Bool.eq_iff_iff, decide_eq_true_eq, unreleased_iff hhit, Bool.not_eq_true']
  · refine (exists_last_release source.text target).imp_left fun hnone => ⟨hnone, ?_⟩
    rintro hit rfl start h
    exact absurd h (hnone start)

example :
    (check { text := "F.READU( A.B , ID)\nF.WRITE(AXB, I)\nF.RELEASE (A.B)\nF.READU(A.B, X)".toList,
             strict := false }).map (·.line) = [4] := by
  decide +kernel

end BasicLint.RecordLock
