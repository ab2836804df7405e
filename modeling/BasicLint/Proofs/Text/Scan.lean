import BasicLint.Proofs.Text.Cursor
import BasicLint.Proofs.Text.Lines

/-!
# The places of hits

Every hit of a scan stands at a place of the text, and the recogniser has read it there. Its line is
the line of that place, which is not the end of the text if the recogniser passes any text. Behind a
hit the scan goes on with the text that the recogniser has not passed.
-/
namespace BasicLint.Text

variable {α : Type}

/-- A recogniser passes some text whenever it finds something. -/
def Recognizer.Advances (p : Recognizer α) : Prop :=
  ∀ {before : Option Char} {s t : Cursor} {value : α}, p before s = some (value, t) →
    ∃ u, u ≠ [] ∧ s.Passes u t

/-- There is nothing to pass at the end of a text. -/
lemma Recognizer.Advances.eq_none {p : Recognizer α} (hp : p.Advances) (before : Option Char)
    (passed : Nat) : p before ⟨passed, []⟩ = none := by
  rw [Option.eq_none_iff_forall_ne_some]
  rintro ⟨value, t⟩ h
  obtain ⟨u, hu, hpasses⟩ := hp h
  exact hu (List.append_eq_nil_iff.1 hpasses.rest_eq.symm).1

/-- The place of a hit in a text that starts on `line` behind `before`. -/
structure Site (p : Recognizer α) (before : Option Char) (line : Nat) (text : List Char)
    (hit : Hit α) where
  /-- The text before the hit. -/
  front : List Char
  /-- The text from the hit on. -/
  back : List Char
  found : Cursor
  text_eq : text = front ++ back
  recognized : p (front.getLast?.or before) ⟨0, back⟩ = some (hit.value, found)
  rest_eq : hit.rest = found.rest
  line_eq : hit.line = line + front.count '\n'

/-- The character before a place, whether the text before it or what precedes that text holds it. -/
lemma getLast?_cons_or (c : Char) (u : List Char) (before : Option Char) :
    (c :: u).getLast?.or before = u.getLast?.or (some c) := by
  rw [List.getLast?_cons]
  cases u.getLast? <;> rfl

/-- A place in the text behind a character is a place in the whole text. -/
def Site.cons {p : Recognizer α} {before : Option Char} {line : Nat} {c : Char} {s : List Char}
    {hit : Hit α} (site : Site p (some c) (nextLine c line) s hit) :
    Site p before line (c :: s) hit where
  front := c :: site.front
  back := site.back
  found := site.found
  text_eq := congrArg (c :: ·) site.text_eq
  recognized := by
    rw [getLast?_cons_or]
    exact site.recognized
  rest_eq := site.rest_eq
  line_eq := site.line_eq.trans (nextLine_add_count c line site.front)

theorem mem_scanFrom {p : Recognizer α} {before : Option Char} {line skip : Nat} {s : List Char}
    {hit : Hit α} (h : hit ∈ scanFrom p before line skip s) :
    Nonempty (Site p before line s hit) := by
  induction s generalizing before line skip with
  | nil =>
    cases skip with
    | succ skip => simp [scanFrom] at h
    | zero =>
      simp only [scanFrom] at h
      split at h
      · simp at h
      · rename_i value found hp
        obtain rfl := List.mem_singleton.1 h
        exact ⟨⟨[], [], found, rfl, by simpa using hp, rfl, by simp⟩⟩
  | cons c s ih =>
    cases skip with
    | succ skip =>
      simp only [scanFrom] at h
      exact (ih h).map Site.cons
    | zero =>
      simp only [scanFrom] at h
      split at h
      · exact (ih h).map Site.cons
      · rename_i value found hp
        rcases List.mem_cons.1 h with rfl | h
        · exact ⟨⟨[], c :: s, found, rfl, by simpa using hp, rfl, by simp⟩⟩
        · exact (ih h).map Site.cons

theorem mem_scan {p : Recognizer α} {line : Nat} {text : List Char} {hit : Hit α}
    (h : hit ∈ scan p line text) : Nonempty (Site p none line text hit) := mem_scanFrom h

theorem first?_eq_some {p : Recognizer α} {line : Nat} {text : List Char} {hit : Hit α}
    (h : first? p line text = some hit) : Nonempty (Site p none line text hit) := by
  rw [first?_eq] at h
  exact mem_scan (List.mem_of_head? h)

namespace Site

variable {p : Recognizer α} {text : List Char} {hit : Hit α}

/-- The line that a hit carries is the line of the byte at which it starts. -/
theorem line_eq_lineAt (site : Site p none 1 text hit) :
    hit.line = lineAt text (byteLength site.front) := by
  rw [site.line_eq, ← lineAt_append site.front site.back, ← site.text_eq]

lemma back_ne_nil {before : Option Char} {line : Nat} (hp : p.Advances)
    (site : Site p before line text hit) : site.back ≠ [] := by
  intro hnil
  have h := site.recognized
  rw [hnil, hp.eq_none] at h
  contradiction

/-- A hit lies on a line of the text. -/
theorem line_mem (hp : p.Advances) (site : Site p none 1 text hit) :
    1 ≤ hit.line ∧ hit.line ≤ (lines text).length := by
  have h := count_newline_lt_length_lines site.front (site.back_ne_nil hp)
  rw [← site.text_eq] at h
  have hl := site.line_eq
  omega

/-- The trimmed line of a hit: what stands before it on its line and the first line from it on. -/
theorem snippet_eq (site : Site p none 1 text hit) (hback : site.back ≠ []) :
    snippet text hit.line = trim (lineStart site.front ++ firstLine site.back) := by
  have h := line?_append site.front hback
  rw [← site.text_eq] at h
  rw [snippet, site.line_eq, h, Option.getD_some]

/-- The trimmed line of a hit shows what is found on the line of the hit. -/
theorem infix_snippet (site : Site p none 1 text hit) {a x r : List Char}
    (hback : site.back = a ++ (x ++ r)) (ha : '\n' ∉ a) (hx : Solid x) :
    x <:+: snippet text hit.line := by
  have hne : site.back ≠ [] := by simp [hback, hx.ne_nil]
  rw [site.snippet_eq hne, hback, firstLine_append ha, firstLine_append hx.newline_not_mem,
    ← List.append_assoc, trim_append_solid hx]
  exact ⟨_, _, List.append_assoc _ _ _⟩

/-- The trimmed line of a hit at the start of a line begins with what follows the indentation. -/
theorem prefix_snippet (site : Site p none 1 text hit) {a x r : List Char}
    (hedge : lineEdge site.front.getLast? = true) (hback : site.back = a ++ (x ++ r))
    (ha : ∀ c ∈ a, isInlineBlank c = true) (hx : Solid x) :
    x <+: snippet text hit.line := by
  have hn : '\n' ∉ a := by
    intro h
    have hb := ha _ h
    simp at hb
  have hblank : ∀ c ∈ a, isBlank c = true := by
    intro c hc
    exact isBlank_of_isInlineBlank (ha c hc)
  have hne : site.back ≠ [] := by simp [hback, hx.ne_nil]
  rw [site.snippet_eq hne, lineStart_of_lineEdge hedge, List.nil_append, hback,
    firstLine_append hn, firstLine_append hx.newline_not_mem, trim_append_solid hx,
    trimStart_eq_nil hblank, List.nil_append]
  exact List.prefix_append _ _

end Site

/-! ## Behind a hit -/

/-- Passing a piece of text by counting it off. -/
lemma scanFrom_length (p : Recognizer α) (before : Option Char) (line : Nat) (u s : List Char) :
    scanFrom p before line u.length (u ++ s) =
      scanFrom p (u.getLast?.or before) (line + u.count '\n') 0 s := by
  induction u generalizing before line with
  | nil => simp
  | cons c u ih =>
    rw [List.length_cons, List.cons_append, scanFrom, ih, getLast?_cons_or, nextLine_add_count]

lemma scanFrom_of_none {p : Recognizer α} {before : Option Char} {line : Nat} {c : Char}
    {s : List Char} (h : p before ⟨0, c :: s⟩ = none) :
    scanFrom p before line 0 (c :: s) = scanFrom p (some c) (nextLine c line) 0 s := by
  simp [scanFrom, h]

/-- A hit that passes `u` is followed by the hits of the text behind `u`. -/
lemma scanFrom_of_some {p : Recognizer α} {before : Option Char} {line : Nat} {u : List Char}
    {value : α} {t : Cursor} (hu : u ≠ []) (ht : Cursor.Passes ⟨0, u ++ t.rest⟩ u t)
    (h : p before ⟨0, u ++ t.rest⟩ = some (value, t)) :
    scanFrom p before line 0 (u ++ t.rest) =
      ⟨line, value, t.rest⟩ ::
        scanFrom p (u.getLast?.or before) (line + u.count '\n') 0 t.rest := by
  obtain ⟨c, v, rfl⟩ := List.exists_cons_of_ne_nil hu
  have hlen : t.passed = (c :: v).length := by simpa using ht.passed_eq
  rw [← scanFrom_length p before line (c :: v) t.rest]
  rw [List.cons_append] at h ⊢
  simp only [scanFrom, h, hlen, List.length_cons, Nat.add_sub_cancel]

/-! ## Hits at the start of a line -/

/-- A recogniser that finds something only where a line begins. -/
def Recognizer.Anchored (p : Recognizer α) : Prop :=
  ∀ before s, lineEdge before = false → p before s = none

lemma anchored_indented (space : Char → Bool) (k : Cursor → Option (α × Cursor)) :
    (indented space k).Anchored := by
  intro before s h
  have hguard : (guard (lineEdge before = true) : Option Unit) = none :=
    if_neg (ne_true_of_eq_false h)
  rw [indented, hguard]
  rfl

lemma indented_of_lineEdge {space : Char → Bool} {k : Cursor → Option (α × Cursor)}
    {before : Option Char} (h : lineEdge before = true) (s : Cursor) :
    indented space k before s = k (s.skip space) := by
  have hguard : (guard (lineEdge before = true) : Option Unit) = some () := if_pos h
  rw [indented, hguard]
  rfl

/-- Such a recogniser finds nothing more on the line of a character. -/
lemma lt_line_of_mem_scanFrom {p : Recognizer α} (hp : p.Anchored) {c : Char} {line skip : Nat}
    {s : List Char} {hit : Hit α} (h : hit ∈ scanFrom p (some c) (nextLine c line) skip s) :
    line < hit.line := by
  obtain ⟨site⟩ := mem_scanFrom h
  have hlast : lineEdge ((c :: site.front).getLast?.or none) = true := by
    rw [getLast?_cons_or]
    by_contra hedge
    have hnone := hp _ ⟨0, site.back⟩ (Bool.not_eq_true _ ▸ hedge)
    rw [site.recognized] at hnone
    exact absurd hnone (by simp)
  have hmem : '\n' ∈ c :: site.front := by
    rw [Option.or_none, List.getLast?_eq_some_getLast (List.cons_ne_nil _ _), lineEdge_some,
      beq_iff_eq] at hlast
    exact hlast ▸ List.getLast_mem (List.cons_ne_nil _ _)
  have hcount := List.count_pos_iff.2 hmem
  rw [site.line_eq, nextLine_add_count]
  omega

/-- Hits at the start of a line are each on a line of their own. -/
theorem pairwise_line_scan {p : Recognizer α} (hp : p.Anchored) (line : Nat) (s : List Char) :
    (scan p line s).Pairwise (·.line < ·.line) := by
  suffices h : ∀ before skip, (scanFrom p before line skip s).Pairwise (·.line < ·.line) from
    h none 0
  induction s generalizing line with
  | nil =>
    intro before skip
    cases skip with
    | succ skip => exact .nil
    | zero =>
      simp only [scanFrom]
      split <;> simp
  | cons c s ih =>
    intro before skip
    cases skip with
    | succ skip => exact ih (nextLine c line) (some c) skip
    | zero =>
      simp only [scanFrom]
      split
      · exact ih (nextLine c line) (some c) 0
      · exact .cons (fun _ => lt_line_of_mem_scanFrom hp) (ih (nextLine c line) (some c) _)

/-! ## Every place is looked at -/

/-- Something occurs in a text exactly if it is recognised at a place of the text. -/
theorem occursFrom_iff {p : Recognizer α} {before : Option Char} {s : List Char} :
    occursFrom p before s = true ↔
      ∃ a b, s = a ++ b ∧ (p (a.getLast?.or before) ⟨0, b⟩).isSome = true := by
  induction s generalizing before with
  | nil => simp [occursFrom]
  | cons c s ih =>
    rw [occursFrom, Bool.or_eq_true, ih]
    constructor
    · rintro (h | ⟨a, b, rfl, h⟩)
      · exact ⟨[], c :: s, rfl, h⟩
      · exact ⟨c :: a, b, rfl, by rwa [getLast?_cons_or]⟩
    · rintro ⟨a, b, hs, h⟩
      rcases List.cons_eq_append_iff.1 hs with ⟨rfl, rfl⟩ | ⟨a, rfl, rfl⟩
      · exact .inl h
      · exact .inr ⟨a, b, rfl, by rwa [getLast?_cons_or] at h⟩

theorem occurs_iff {p : Recognizer α} {s : List Char} :
    occurs p s = true ↔ ∃ a b, s = a ++ b ∧ (p a.getLast? ⟨0, b⟩).isSome = true := by
  rw [occurs, occursFrom_iff]
  simp only [Option.or_none]

/-- A place behind the first piece of a text is a place of the rest. -/
lemma exists_append_of_length_le {upto rest a b : List Char} (h : upto ++ rest = a ++ b)
    (hlength : upto.length ≤ a.length) : ∃ a', a = upto ++ a' ∧ rest = a' ++ b := by
  obtain ⟨a', rfl⟩ : upto <+: a :=
    List.prefix_of_prefix_length_le ⟨rest, rfl⟩ ⟨b, h.symm⟩ hlength
  rw [List.append_assoc, List.append_cancel_left_eq] at h
  exact ⟨a', rfl, h⟩

lemma occursFrom_eq_isSome (p : Recognizer α) (before : Option Char) (line : Nat) (s : List Char) :
    occursFrom p before s = (firstFrom? p before line s).isSome := by
  induction s generalizing before line with
  | nil =>
    simp only [occursFrom, firstFrom?]
    cases p before ⟨0, []⟩ <;> rfl
  | cons c s ih =>
    simp only [occursFrom, firstFrom?]
    cases p before ⟨0, c :: s⟩ with
    | none => simpa using ih (some c) (nextLine c line)
    | some found => rfl

lemma startingWith_eq_some_iff {first : Char} {p : Recognizer α} {before : Option Char} {s : Cursor}
    {found : α × Cursor} :
    startingWith first p before s = some found ↔
      s.head? = some first ∧ p before s = some found := by
  rw [startingWith, Cursor.head?]
  cases s.rest with
  | nil => simp
  | cons c rest => simp

/-- A place of the text lies inside the text that an earlier hit has passed. -/
def Covered (p : Recognizer α) (before : Option Char) (line : Nat) (text a b : List Char)
    (hits : List (Hit α)) : Prop :=
  ∃ hit ∈ hits, ∃ site : Site p before line text hit,
    site.front.length < a.length ∧ hit.rest.length < b.length

/-- A scan that has `skip` characters still to pass finds what is recognised behind them, unless an
earlier hit has passed the place. -/
lemma mem_scanFrom_or_covered {p : Recognizer α} (hp : p.Advances) {before : Option Char}
    {line skip : Nat} {text a b : List Char} {value : α} {t : Cursor} (htext : text = a ++ b)
    (hb : b ≠ []) (h : p (a.getLast?.or before) ⟨0, b⟩ = some (value, t)) (hskip : skip ≤ a.length) :
    ⟨line + a.count '\n', value, t.rest⟩ ∈ scanFrom p before line skip text ∨
      Covered p before line text a b (scanFrom p before line skip text) := by
  induction text generalizing before line skip a with
  | nil => exact absurd (List.append_eq_nil_iff.1 htext.symm).2 hb
  | cons c s ih =>
    -- What the scan of the rest says about a place behind the first character.
    have later {a : List Char} {k : Nat} (hs : s = a ++ b) (hk : k ≤ a.length)
        (h : p ((c :: a).getLast?.or before) ⟨0, b⟩ = some (value, t)) :
        ⟨line + (c :: a).count '\n', value, t.rest⟩ ∈ scanFrom p (some c) (nextLine c line) k s ∨
          Covered p before line (c :: s) (c :: a) b
            (scanFrom p (some c) (nextLine c line) k s) := by
      rw [getLast?_cons_or] at h
      rw [← nextLine_add_count]
      refine (ih hs h hk).imp_right ?_
      rintro ⟨hit, hhit, site, hfront, hrest⟩
      exact ⟨hit, hhit, site.cons, by simpa [Site.cons] using hfront, hrest⟩
    cases skip with
    | succ skip =>
      rcases List.cons_eq_append_iff.1 htext with ⟨rfl, -⟩ | ⟨a, rfl, hs⟩
      · simp at hskip
      · exact later hs (by simpa using hskip) h
    | zero =>
      rcases List.cons_eq_append_iff.1 htext with ⟨rfl, rfl⟩ | ⟨a, rfl, hs⟩
      · left
        have h : p before ⟨0, c :: s⟩ = some (value, t) := by simpa using h
        simp [scanFrom, h]
      · cases hc : p before ⟨0, c :: s⟩ with
        | none =>
          rw [scanFrom_of_none hc]
          exact later hs (Nat.zero_le _) h
        | some result =>
          obtain ⟨first, found⟩ := result
          simp only [scanFrom, hc, List.mem_cons]
          by_cases hpassed : found.passed - 1 ≤ a.length
          · refine (later hs hpassed h).imp .inr ?_
            rintro ⟨hit, hhit, hcovered⟩
            exact ⟨hit, List.mem_cons_of_mem _ hhit, hcovered⟩
          · right
            obtain ⟨u, -, hu⟩ := hp hc
            have hlength := congrArg List.length hu.rest_eq
            have hpassed := hu.passed_eq
            refine ⟨_, List.mem_cons_self, ⟨[], c :: s, found, rfl, by simpa using hc, rfl, by simp⟩,
              by simp, ?_⟩
            simp only [hs, List.length_cons, List.length_append, Nat.zero_add] at hlength hpassed ⊢
            omega

/-- Whatever is recognised at some place of a text is a hit there, or an earlier hit has passed the
place. -/
theorem mem_scan_or_covered {p : Recognizer α} (hp : p.Advances) {line : Nat} {a b : List Char}
    {value : α} {t : Cursor} (hb : b ≠ []) (h : p a.getLast? ⟨0, b⟩ = some (value, t)) :
    ⟨line + a.count '\n', value, t.rest⟩ ∈ scan p line (a ++ b) ∨
      Covered p none line (a ++ b) a b (scan p line (a ++ b)) :=
  mem_scanFrom_or_covered hp rfl hb (by simpa using h) (Nat.zero_le _)

end BasicLint.Text
