import BasicLint.Proofs.Json.Reader
import Mathlib.Data.List.TakeWhile

/-!
# Scalars that are read back

A quoted text is read back character by character, each from its own escape. A number is read back
digit by digit, if no part of a number follows it.
-/
namespace BasicLint.Json

open Toml (Reader)

/-! ## Between the parts -/

/-- The characters that end a value or stand behind one, and begin none. -/
def isEnd (c : Char) : Bool := isSpace c || c == ',' || c == ']' || c == '}'

/-- What may stand behind a value. -/
def Ends (s : List Char) : Prop := ∀ c ∈ s.head?, isEnd c = true

/-- A text that is read back as `x`, whatever ends it. -/
structure ReadsBack {α : Type} (read : Reader α) (text : List Char) (x : α) : Prop where
  start : ∃ c ∈ text.head?, isEnd c = false
  read_eq : ∀ rest, Ends rest → read (text ++ rest) = some (x, rest)

lemma skipSpaces_append {gap : List Char} (h : ∀ c ∈ gap, isSpace c = true) (s : List Char) :
    skipSpaces (gap ++ s) = skipSpaces s := by
  rw [skipSpaces, List.dropWhile_append_of_pos h, skipSpaces]

lemma isSpace_eq_false {c : Char} (h : isEnd c = false) : isSpace c = false := by
  simp only [isEnd, Bool.or_eq_false_iff] at h
  exact h.1.1.1

namespace ReadsBack

variable {α : Type} {read : Reader α} {text : List Char} {x : α}

lemma exists_cons (h : ReadsBack read text x) : ∃ c u, text = c :: u ∧ isEnd c = false := by
  obtain ⟨c, hc, hend⟩ := h.start
  obtain ⟨u, rfl⟩ := List.head?_eq_some_iff.1 hc
  exact ⟨c, u, rfl, hend⟩

/-- Blanks before a text that is read back are passed, and nothing of the text is. -/
lemma skipSpaces_eq (h : ReadsBack read text x) {gap : List Char}
    (hgap : ∀ c ∈ gap, isSpace c = true) (rest : List Char) :
    skipSpaces (gap ++ (text ++ rest)) = text ++ rest := by
  obtain ⟨c, u, rfl, hend⟩ := h.exists_cons
  rw [skipSpaces_append hgap]
  simp [skipSpaces, isSpace_eq_false hend]

end ReadsBack

lemma ends_append {gap : List Char} (hgap : ∀ c ∈ gap, isSpace c = true) {s : List Char}
    (hs : Ends s) : Ends (gap ++ s) := by
  cases gap with
  | nil => exact hs
  | cons c gap => simp [Ends, isEnd, hgap c List.mem_cons_self]

/-! ## Strings that are read back -/

lemma hex?_hexDigit :
    ∀ n < 0x20, hex? ['0', '0', hexDigit (n / 16), hexDigit (n % 16)] = some n := by
  decide

/-- One character inside quotes is read back as its code. -/
lemma codes_escape (c : Char) (s : List Char) :
    codes (escape c ++ s) = (codes s).map (prepend c.toNat) := by
  unfold escape
  split_ifs with hquote hslash hfeed hreturn htab hback hform hcontrol
  · rw [hquote]
    rfl
  · rw [hslash]
    rfl
  · rw [hfeed]
    rfl
  · rw [hreturn]
    rfl
  · rw [htab]
    rfl
  · rw [hback]
    rfl
  · rw [hform]
    rfl
  · show (hex? ['0', '0', hexDigit (c.toNat / 16), hexDigit (c.toNat % 16)]).bind _ = _
    rw [hex?_hexDigit _ hcontrol]
    rfl
  · have hprinted : 0x20 ≤ c.toNat := by omega
    simp [codes, hslash, hprinted]

lemma codes_flatMap_escape (cs rest : List Char) :
    codes (cs.flatMap escape ++ '"' :: rest) = some (cs.map Char.toNat, rest) := by
  induction cs with
  | nil => rfl
  | cons c cs ih =>
    rw [List.flatMap_cons, List.append_assoc, codes_escape, ih]
    rfl

lemma character?_toNat (c : Char) : character? c.toNat = some c := by
  have hvalid : c.toNat.isValidChar := c.valid
  rw [character?, if_pos hvalid, Char.ofNat_toNat]

/-- No character is half of a pair. -/
lemma characters?_map_toNat (cs : List Char) : characters? (cs.map Char.toNat) = some cs := by
  induction cs with
  | nil => rfl
  | cons c cs ih =>
    cases cs with
    | nil => simp [characters?, character?_toNat]
    | cons d cs =>
      have hvalid : c.toNat.isValidChar := c.valid
      have hsingle : ¬(0xD800 ≤ c.toNat ∧ c.toNat < 0xDC00 ∧ 0xDC00 ≤ d.toNat ∧
          d.toNat < 0xE000) := by
        rw [Nat.isValidChar] at hvalid
        omega
      rw [List.map_cons] at ih
      rw [List.map_cons, List.map_cons, characters?, if_neg hsingle, character?_toNat, ih]
      rfl

lemma string_quote (text : String) (rest : List Char) :
    string ((quote text).toList ++ rest) = some (text, rest) := by
  have hquote : (quote text).toList ++ rest =
      '"' :: (text.toList.flatMap escape ++ '"' :: rest) := by
    simp [quote]
  simp [hquote, string, codes_flatMap_escape, characters?_map_toNat]

/-! ## Numbers that are read back -/

lemma toDigits_head?_ne {n : Nat} (h : 0 < n) : (Nat.toDigits 10 n).head? ≠ some '0' := by
  induction n using Nat.strongRecOn with
  | ind n ih =>
    by_cases hn : n < 10
    · have hdigit : ∀ n < 10, 0 < n → (Nat.digitChar n) ≠ '0' := by decide
      simpa [Nat.toDigits_of_lt_base hn] using hdigit n hn h
    · have hmore := ih (n / 10) (by omega) (by omega)
      rw [Nat.toDigits_of_base_le (by decide) (by omega), List.head?_append]
      cases hhead : (Nat.toDigits 10 (n / 10)).head? with
      | none => exact absurd (List.head?_eq_none_iff.1 hhead) Nat.toDigits_ne_nil
      | some c => simpa [hhead] using hmore

/-- The characters that a number starts with. -/
def isNumeric (c : Char) : Bool := c == '-' || c.isDigit

lemma ne_of_isNumeric {c d : Char} (hc : isNumeric c = true) (hd : isNumeric d = false) :
    c ≠ d := by
  rintro rfl
  exact absurd (hc.symm.trans hd) (by decide)

/-- No number goes on where a value may end. -/
lemma not_numeric_of_isEnd {c : Char} (h : isEnd c = true) :
    isNumeric c = false ∧ c.isDigit = false ∧ c ≠ '.' ∧ c ≠ 'e' ∧ c ≠ 'E' := by
  simp only [isEnd, isSpace, Bool.or_eq_true, beq_iff_eq] at h
  rcases h with (((((rfl | rfl) | rfl) | rfl) | rfl) | rfl) | rfl <;> decide

/-- Digits are read up to their end. -/
lemma digits?_append {digits rest : List Char} (hne : digits ≠ [])
    (hdigits : ∀ c ∈ digits, c.isDigit = true) (h : Ends rest) :
    digits? (digits ++ rest) = some (digits, rest) := by
  have hstop : rest.takeWhile Char.isDigit = [] ∧ rest.dropWhile Char.isDigit = rest := by
    cases rest with
    | nil => simp
    | cons c rest => simp [(not_numeric_of_isEnd (h c rfl)).2.1]
  rw [digits?, List.takeWhile_append_of_pos hdigits, List.dropWhile_append_of_pos hdigits, hstop.1,
    hstop.2, List.append_nil, if_neg (by simpa using hne)]

lemma plainDigits?_toDigits (n : Nat) {rest : List Char} (h : Ends rest) :
    plainDigits? (Nat.toDigits 10 n ++ rest) = some (Nat.toDigits 10 n, rest) := by
  by_cases hn : n = 0
  · rw [hn]
    rfl
  · obtain ⟨c, digits, hdigits⟩ := List.exists_cons_of_ne_nil (@Nat.toDigits_ne_nil n 10)
    have hzero : c ≠ '0' := by simpa [hdigits] using toDigits_head?_ne (Nat.pos_of_ne_zero hn)
    have hall : ∀ d ∈ Nat.toDigits 10 n, d.isDigit = true :=
      fun d hd => Nat.isDigit_of_mem_toDigits (by decide) (by decide) hd
    rw [← digits?_append Nat.toDigits_ne_nil hall h, hdigits]
    simp [plainDigits?, hzero]

lemma skipFraction?_of_ends {rest : List Char} (h : Ends rest) :
    skipFraction? rest = some rest := by
  cases rest with
  | nil => rfl
  | cons c rest => simp [skipFraction?, (not_numeric_of_isEnd (h c rfl)).2.2.1]

lemma skipPower?_of_ends {rest : List Char} (h : Ends rest) : skipPower? rest = some rest := by
  cases rest with
  | nil => rfl
  | cons c rest => simp [skipPower?, (not_numeric_of_isEnd (h c rfl)).2.2.2]

lemma natural?_toDigits (n : Nat) {rest : List Char} (h : Ends rest) :
    natural? (Nat.toDigits 10 n ++ rest) = some (some n, rest) := by
  simp [natural?, plainDigits?_toDigits n h, skipFraction?_of_ends h, skipPower?_of_ends h,
    Nat.ofDigitChars_ten_toDigits]

lemma toList_ofNat (n : Nat) : (toString (Int.ofNat n)).toList = Nat.toDigits 10 n :=
  Nat.toList_repr

lemma toList_negSucc (n : Nat) :
    (toString (Int.negSucc n)).toList = '-' :: Nat.toDigits 10 (n + 1) := by
  show ("-" ++ (n + 1).repr).toList = _
  simp

lemma exists_toDigits_eq_cons (n : Nat) :
    ∃ c digits, Nat.toDigits 10 n = c :: digits ∧ c.isDigit = true := by
  obtain ⟨c, digits, hdigits⟩ := List.exists_cons_of_ne_nil (@Nat.toDigits_ne_nil n 10)
  exact ⟨c, digits, hdigits,
    Nat.isDigit_of_mem_toDigits (by decide) (by decide) (hdigits ▸ List.mem_cons_self)⟩

lemma exists_toString_eq_cons (n : Int) :
    ∃ c s, (toString n).toList = c :: s ∧ isNumeric c = true := by
  cases n with
  | ofNat n =>
    obtain ⟨c, digits, hdigits, hc⟩ := exists_toDigits_eq_cons n
    exact ⟨c, digits, (toList_ofNat n).trans hdigits, by simp [isNumeric, hc]⟩
  | negSucc n => exact ⟨'-', _, toList_negSucc n, rfl⟩

lemma number_toString (n : Int) {rest : List Char} (h : Ends rest) :
    number ((toString n).toList ++ rest) = some (.int n, rest) := by
  cases n with
  | ofNat n =>
    have hread := natural?_toDigits n h
    obtain ⟨c, digits, hdigits, hc⟩ := exists_toDigits_eq_cons n
    have hsign : c ≠ '-' := by
      rintro rfl
      exact absurd hc (by decide)
    rw [hdigits, List.cons_append] at hread
    rw [toList_ofNat, hdigits, List.cons_append]
    simp [number, hsign, hread, ofNatural]
  | negSucc n =>
    rw [toList_negSucc, List.cons_append]
    simp [number, natural?_toDigits (n + 1) h, negated]

end BasicLint.Json
