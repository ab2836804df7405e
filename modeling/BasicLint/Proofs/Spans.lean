import BasicLint.Proofs.Text.Lines
import BasicLint.Report.Excerpt
import BasicLint.Source

/-!
# The marked text of a line

An excerpt marks a span of bytes, and a diagnostic carries a snippet. The span is found by adding up
the lengths of the lines before, the snippet by the number of the line, and each trims the line in its
own order. Both come to the same text, and the span begins on the line that it is for.
-/
namespace BasicLint

open Text

namespace Text

/-! ## Reading by bytes -/

/-- The text before a byte offset and the text from there on. There is none at an offset that is
inside a character or behind the end of the text. -/
def cutAt? : (offset : Nat) → List Char → Option (List Char × List Char)
  | 0, s => some ([], s)
  | _ + 1, [] => none
  | offset + 1, c :: s =>
    if c.utf8Size ≤ offset + 1 then
      (cutAt? (offset + 1 - c.utf8Size) s).map fun (front, back) => (c :: front, back)
    else none

lemma cutAt?_append (u v : List Char) : cutAt? (byteLength u) (u ++ v) = some (u, v) := by
  induction u with
  | nil => cases v <;> rfl
  | cons c u ih =>
    obtain ⟨n, hlength, hrest⟩ := exists_byteLength_cons c u
    have hfits : c.utf8Size ≤ n + 1 := by
      rw [← hlength, byteLength_cons]
      omega
    rw [List.cons_append, hlength, cutAt?, if_pos hfits, hrest, ih, Option.map_some]

/-! ## Trimming in either order -/

lemma trimStart_trimEnd (s : List Char) : trimStart (trimEnd s) = trim s := by
  by_cases hs : ∀ c ∈ s, isBlank c = true
  · have hend : trimEnd s = [] := by
      have h := trimEnd_append_of_blank hs []
      simpa [trimEnd] using h
    rw [trim_eq_nil_iff.2 hs, hend]
    rfl
  · push Not at hs
    obtain ⟨c, hmem, hc⟩ := hs
    have hsolid : Solid [c] := ⟨by simp, by simpa using hc⟩
    obtain ⟨a, b, rfl⟩ := List.append_of_mem hmem
    have hsplit : a ++ c :: b = a ++ ([c] ++ b) := rfl
    rw [hsplit, trimEnd_append_solid hsolid, trimStart_append_solid hsolid,
      trim_append_solid hsolid]

/-- The end of a line is cut off with its line feed. -/
lemma newline_not_mem_trimEnd {l s : List Char} (h : l ∈ lines s) : '\n' ∉ trimEnd l := by
  have hprefix (body : List Char) (hbody : '\n' ∉ body) : '\n' ∉ trimEnd body := by
    obtain ⟨b, -, hb⟩ := exists_trimEnd body
    rw [hb, List.mem_append, not_or] at hbody
    exact hbody.1
  obtain ⟨body, hbody, rfl | rfl⟩ := mem_lines h
  · exact hprefix l hbody
  · rw [trimEnd_append_of_blank (by simp)]
    exact hprefix body hbody

/-- A line is what stands before its trimmed text, that text, and what stands behind it. What stands
before is of the same line. -/
lemma exists_trim_of_mem_lines {l s : List Char} (h : l ∈ lines s) :
    ∃ a b, l = a ++ (trim l ++ b) ∧ trimEnd l = a ++ trim l ∧ '\n' ∉ a := by
  obtain ⟨a, -, ha⟩ := exists_trimStart (trimEnd l)
  obtain ⟨b, -, hb⟩ := exists_trimEnd l
  have hnewline := newline_not_mem_trimEnd h
  rw [trimStart_trimEnd] at ha
  rw [ha, List.mem_append, not_or] at hnewline
  refine ⟨a, b, ?_, ha, hnewline.1⟩
  rw [← List.append_assoc, ← ha]
  exact hb

end Text

/-- The text in a span. There is none if the span does not begin and end between characters of the
text. -/
def Span.read? (span : Span) (text : List Char) : Option (List Char) := do
  let (_, rest) ← cutAt? span.offset text
  let (covered, _) ← cutAt? span.length rest
  some covered

/-- A span covers what stands between the text before it and the text behind it. -/
lemma Span.read?_append (front x back : List Char) :
    (⟨byteLength front, byteLength x⟩ : Span).read? (front ++ (x ++ back)) = some x := by
  simp only [read?, cutAt?_append, Option.bind_eq_bind, Option.bind_some]

lemma getElem?_rowsFrom (offset : Nat) (ls : List (List Char)) (i : Nat) :
    (rowsFrom offset ls)[i]? =
      ls[i]?.map fun l => ⟨offset + byteLength (ls.take i).flatten, l⟩ := by
  induction ls generalizing offset i with
  | nil => rfl
  | cons l ls ih =>
    cases i with
    | zero => simp [rowsFrom]
    | succ i =>
      simp only [rowsFrom, List.getElem?_cons_succ, ih, List.take_succ_cons, List.flatten_cons,
        byteLength_append, Nat.add_assoc]

namespace Span

lemma ofLine_of_line?_eq_none {text : List Char} {n : Nat} (h : line? text n = none) :
    ofLine text n = ⟨byteLength text, 0⟩ := by
  have hrow : (if n = 0 then none else (Page.ofText text).rows[n - 1]?) = none := by
    unfold line? at h
    split_ifs at h ⊢ with hn
    · rfl
    · simp [Page.ofText, getElem?_rowsFrom, h]
  rw [ofLine, Page.span, hrow]
  rfl

/-- The span of a line stands where its trimmed text does. -/
lemma exists_ofLine_eq {text l : List Char} {n : Nat} (h : line? text n = some l) :
    ∃ front back, text = front ++ (trim l ++ back) ∧
      ofLine text n = ⟨byteLength front, byteLength (trim l)⟩ ∧ 1 + front.count '\n' = n := by
  obtain ⟨hpos, hle⟩ := bounds_of_line? h
  obtain ⟨i, rfl⟩ := Nat.exists_eq_add_one.2 hpos
  have hget : (lines text)[i]? = some l := h
  have htext := eq_append_of_getElem?_lines hget
  obtain ⟨a, b, hl, hbody, ha⟩ := exists_trim_of_mem_lines (List.mem_of_getElem? hget)
  have hrow : (Page.ofText text).rows[i]? =
      some ⟨byteLength ((lines text).take i).flatten, l⟩ := by
    simp [Page.ofText, getElem?_rowsFrom, hget]
  refine ⟨((lines text).take i).flatten ++ a, b ++ ((lines text).drop (i + 1)).flatten, ?_, ?_, ?_⟩
  · rw [hl] at htext
    simpa using htext
  · have hindent : byteLength (trimEnd l) - byteLength (trim l) = byteLength a := by
      rw [hbody, byteLength_append, Nat.add_sub_cancel]
    rw [ofLine, Page.span, if_neg (Nat.succ_ne_zero i), Nat.add_sub_cancel, hrow, byteLength_append]
    simp only [ofLineText, trimStart_trimEnd, hindent]
  · rw [List.count_append, List.count_eq_zero.2 ha, count_newline_flatten_take (by omega)]
    omega

/-- The span that is marked for a line covers the snippet of that line, and lies inside the source
between characters. Without such a line it is empty and stands at the end. Otherwise it begins on the
line. -/
theorem ofLine_covers_snippet (source : Source) (n : Nat) :
    let span := ofLine source.text n
    span.read? source.text = some (source.snippet n) ∧ span.stop ≤ byteLength source.text ∧
      (n = 0 ∨ source.lineCount < n →
        source.snippet n = [] ∧ span = ⟨byteLength source.text, 0⟩) ∧
      (1 ≤ n ∧ n ≤ source.lineCount → lineAt source.text span.offset = n) := by
  intro span
  rw [Source.snippet_eq, Source.lineCount_eq]
  cases h : line? source.text n with
  | none =>
    have hspan : span = ⟨byteLength source.text, 0⟩ := ofLine_of_line?_eq_none h
    have hsnippet : Text.snippet source.text n = [] := by
      rw [Text.snippet, h]
      rfl
    rw [hspan, hsnippet]
    refine ⟨?_, Nat.le_refl _, fun _ => ⟨rfl, rfl⟩, fun ⟨hpos, hle⟩ => ?_⟩
    · simpa using read?_append source.text [] []
    · rw [line?, if_neg (by omega), List.getElem?_eq_none_iff] at h
      omega
  | some l =>
    obtain ⟨front, back, htext, hspan, hline⟩ := exists_ofLine_eq h
    obtain ⟨hpos, hle⟩ := bounds_of_line? h
    have hsnippet : Text.snippet source.text n = trim l := by rw [Text.snippet, h, Option.getD_some]
    have hspan' : span = ⟨byteLength front, byteLength (trim l)⟩ := hspan
    rw [hspan', hsnippet]
    refine ⟨?_, ?_, fun hout => ?_, fun _ => ?_⟩
    · rw [htext]
      exact read?_append front (trim l) back
    · simp only [stop, htext, byteLength_append]
      omega
    · omega
    · rw [htext, lineAt_append, hline]

/-- A line that is indented by a blank of three bytes and ends in a carriage return. -/
theorem ofLine_covers_snippet_wide :
    let source : Source := { text := "ab\n\u3000é b\r\n".toList, strict := false }
    ofLine source.text 2 = ⟨6, 4⟩ ∧
      (ofLine source.text 2).read? source.text = some "é b".toList ∧
      lineAt source.text 6 = 2 := by
  intro source
  have hspan : ofLine source.text 2 = ⟨6, 4⟩ := by decide
  have hsnippet : source.snippet 2 = "é b".toList := by decide
  obtain ⟨hread, -, -, hline⟩ := ofLine_covers_snippet source 2
  have hat := hline (by decide)
  rw [hsnippet] at hread
  rw [hspan] at hat
  exact ⟨hspan, hread, hat⟩

end Span

end BasicLint
