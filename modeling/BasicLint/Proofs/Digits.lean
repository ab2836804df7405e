import BasicLint.Rule.FieldPosition
import Mathlib.Data.List.TakeWhile

/-!
# The number behind the digits

A position is compared with the limit by the number that its digits write, with any count of
leading zeros and also where no word holds the number. That is so for the digits of ASCII. A digit of
another script is not read at all: a position with one counts as above every limit, and so is judged
like its transcription into ASCII only if the number really is above.
-/
namespace BasicLint.FieldPosition

open Text

/-! ## Digits of ASCII -/

/-- Leading zeros do not change a number. -/
lemma value_dropWhile (digits : List Char) :
    value (digits.dropWhile (· == '0')) = value digits := by
  induction digits with
  | nil => rfl
  | cons c digits ih =>
    by_cases hc : c = '0'
    · subst hc
      simpa [value] using ih
    · simp [hc]

/-- For digits of ASCII the number that they write decides. -/
theorem exceeds_iff_of_ascii {digits : List Char} (hdigits : ∀ c ∈ digits, c.isDigit = true)
    {limit : Nat} (hlimit : limit < wordSize) :
    exceeds digits limit = true ↔ limit < Nat.ofDigitChars 10 digits 0 := by
  have hvalue : value (digits.dropWhile (· == '0')) = Nat.ofDigitChars 10 digits 0 :=
    value_dropWhile digits
  have hsignificant : (digits.dropWhile (· == '0')).all Char.isDigit = true :=
    List.all_eq_true.2 fun c hc => hdigits c ((List.dropWhile_suffix _).subset hc)
  rw [exceeds, ← hvalue]
  generalize digits.dropWhile (· == '0') = significant at hsignificant
  cases significant with
  | nil => simp [value]
  | cons c significant =>
    simp only [hsignificant, Bool.not_true, Bool.false_or, Bool.or_eq_true, decide_eq_true_eq]
    omega

/-! ## Digits of other scripts -/

/-- The zero of the script that a decimal digit belongs to. -/
def scriptZero (c : Char) : Nat :=
  (decimalZeros.find? fun start => start ≤ c.toNat && c.toNat < start + 10).getD '0'.toNat

/-- The digit of ASCII with the value of a decimal digit of any script. -/
def toAscii (c : Char) : Char := Char.ofNat ('0'.toNat + (c.toNat - scriptZero c))

lemma lt_scriptZero_add {c : Char} (h : isDecimal c = true) : c.toNat < scriptZero c + 10 := by
  have hsome := List.find?_isSome.2 (List.any_eq_true.1 h)
  obtain ⟨start, hstart⟩ := Option.isSome_iff_exists.1 hsome
  have hbounds := List.find?_some hstart
  rw [Bool.and_eq_true, decide_eq_true_eq, decide_eq_true_eq] at hbounds
  rw [scriptZero, hstart, Option.getD_some]
  exact hbounds.2

lemma isDigit_toAscii {c : Char} (h : isDecimal c = true) : (toAscii c).isDigit = true := by
  have hbound := lt_scriptZero_add h
  have hdigits : ∀ n < 10, (Char.ofNat ('0'.toNat + n)).isDigit = true := by decide
  exact hdigits (c.toNat - scriptZero c) (by omega)

lemma toAscii_of_isDigit {c : Char} (h : c.isDigit = true) : toAscii c = c := by
  obtain ⟨hlow, hhigh⟩ := Char.isDigit_iff_toNat.1 h
  have hbounds : ('0'.toNat ≤ c.toNat && c.toNat < '0'.toNat + 10) = true := by
    rw [Bool.and_eq_true, decide_eq_true_eq, decide_eq_true_eq]
    exact ⟨hlow, Nat.lt_succ_of_le hhigh⟩
  have hfirst : decimalZeros = '0'.toNat :: decimalZeros.tail := rfl
  have hzero : scriptZero c = '0'.toNat := by
    rw [scriptZero, hfirst, List.find?_cons]
    simp only [hbounds, Option.getD_some]
  rw [toAscii, hzero, Nat.add_sub_cancel' hlow, Char.ofNat_toNat]

/-- A digit of another script puts a position above every limit. -/
lemma exceeds_of_foreign {digits : List Char} {c : Char} (hmem : c ∈ digits)
    (hc : c.isDigit = false) (limit : Nat) : exceeds digits limit = true := by
  have hne : c ≠ '0' := by
    rintro rfl
    exact absurd hc (by decide)
  have hsignificant : c ∈ digits.dropWhile (· == '0') := by
    rw [← List.takeWhile_append_dropWhile (p := (· == '0')) (l := digits)] at hmem
    refine (List.mem_append.1 hmem).resolve_left fun hzeros => hne ?_
    simpa using List.mem_takeWhile_imp hzeros
  rw [exceeds]
  generalize digits.dropWhile (· == '0') = significant at hsignificant
  cases significant with
  | nil => simp at hsignificant
  | cons d significant =>
    have hall : (d :: significant).all Char.isDigit = false :=
      List.all_eq_false.2 ⟨c, hsignificant, by simp [hc]⟩
    simp only [hall, Bool.not_false, Bool.true_or]

/-- The transcription of a position into ASCII is judged by the number that the position writes. The
position itself is judged in the same way exactly if it is written in ASCII or the number is above
the limit. -/
theorem exceeds_eq_toAscii_iff {digits : List Char} (hdigits : ∀ c ∈ digits, isDecimal c = true)
    {limit : Nat} (hlimit : limit < wordSize) :
    (exceeds (digits.map toAscii) limit = true ↔
        limit < Nat.ofDigitChars 10 (digits.map toAscii) 0) ∧
      (exceeds digits limit = exceeds (digits.map toAscii) limit ↔
        (∀ c ∈ digits, c.isDigit = true) ∨ limit < Nat.ofDigitChars 10 (digits.map toAscii) 0) := by
  have hascii : ∀ c ∈ digits.map toAscii, c.isDigit = true := by
    intro c hc
    obtain ⟨d, hd, rfl⟩ := List.mem_map.1 hc
    exact isDigit_toAscii (hdigits d hd)
  have hnumber := exceeds_iff_of_ascii hascii hlimit
  refine ⟨hnumber, ?_⟩
  by_cases hall : ∀ c ∈ digits, c.isDigit = true
  · have hsame : digits.map toAscii = digits :=
      (List.map_congr_left fun c hc => toAscii_of_isDigit (hall c hc)).trans (List.map_id' digits)
    rw [hsame]
    exact ⟨fun _ => .inl hall, fun _ => rfl⟩
  · have hforeign : exceeds digits limit = true := by
      simp only [not_forall] at hall
      obtain ⟨c, hmem, hc⟩ := hall
      exact exceeds_of_foreign hmem (by simpa using hc) limit
    rw [hforeign, eq_comm, hnumber]
    exact (or_iff_right hall).symm

/-- Thirty-one is above ten in any script. -/
theorem exceeds_eq_toAscii_iff_arabic :
    let digits := [Char.ofNat 0x663, Char.ofNat 0x661]
    (∀ c ∈ digits, isDecimal c = true) ∧ 10 < wordSize ∧
      (exceeds (digits.map toAscii) 10 = true ↔
        10 < Nat.ofDigitChars 10 (digits.map toAscii) 0) ∧
      (exceeds digits 10 = exceeds (digits.map toAscii) 10 ↔
        (∀ c ∈ digits, c.isDigit = true) ∨ 10 < Nat.ofDigitChars 10 (digits.map toAscii) 0) := by
  intro digits
  have hdigits : ∀ c ∈ digits, isDecimal c = true :=
    List.all_eq_true.1 (show digits.all isDecimal = true by decide)
  exact ⟨hdigits, by decide, exceeds_eq_toAscii_iff hdigits (by decide)⟩

/-- Three counts as above ten where it is written in another script. -/
theorem not_exceeds_eq_toAscii :
    ¬∀ (digits : List Char) (limit : Nat), (∀ c ∈ digits, isDecimal c = true) →
      limit < wordSize → exceeds digits limit = exceeds (digits.map toAscii) limit := by
  intro h
  have hthree := h [Char.ofNat 0x663] 10 (List.all_eq_true.1 (by decide)) (by decide)
  exact absurd hthree (by decide)

end BasicLint.FieldPosition
