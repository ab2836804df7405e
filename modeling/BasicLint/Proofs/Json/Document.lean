import BasicLint.Proofs.Json.Scalar

/-!
# Documents that are read back

The text of a value is read back as that value, however deep it is indented. The induction is on how
deep brackets nest in the value; what ends a value is a blank, a comma or a closing bracket.
-/
namespace BasicLint.Json

open Toml (Reader)

/-! ## Brackets -/

section Bracketed

variable {α : Type} {read : Reader α} {text : α → List Char} {close : Char} {depth : Nat}

lemma isSpace_of_mem_indent {c : Char} (h : c ∈ (indent depth).toList) : isSpace c = true := by
  simp only [indent, String.toList_append, String.toList_ofList, List.mem_append,
    List.mem_replicate] at h
  obtain h | ⟨-, rfl⟩ := h
  · rw [List.mem_singleton.1 h]
    decide
  · decide

/-- The items behind the first one, each on a line of its own, and the closing bracket. -/
def following (depth : Nat) (text : α → List Char) (close : Char) (items : List α) : List Char :=
  items.flatMap (fun x => ',' :: ((indent (depth + 1)).toList ++ text x)) ++
    ((indent depth).toList ++ [close])

/-- Items on lines of their own, between brackets. -/
def bracketed (depth : Nat) (text : α → List Char) (opening close : Char) : List α → List Char
  | [] => [opening, close]
  | item :: items =>
    opening :: ((indent (depth + 1)).toList ++ (text item ++ following depth text close items))

@[simp] lemma following_nil :
    following depth text close [] = (indent depth).toList ++ [close] := rfl

@[simp] lemma following_cons (item : α) (items : List α) :
    following depth text close (item :: items) =
      ',' :: ((indent (depth + 1)).toList ++ (text item ++ following depth text close items)) := by
  simp [following]

lemma ends_following (hclose : close = ']' ∨ close = '}') (items : List α) (rest : List Char) :
    Ends (following depth text close items ++ rest) := by
  cases items with
  | nil =>
    have hend : Ends (close :: rest) := by
      rcases hclose with rfl | rfl <;> simp [Ends, isEnd]
    simpa using ends_append (fun _ => isSpace_of_mem_indent) hend
  | cons item items => simp [Ends, isEnd]

/-- Items on lines of their own are read back up to the closing bracket. -/
lemma listed_following (hclose : close = ']' ∨ close = '}') {item : α} {items : List α}
    (hitems : ∀ x ∈ item :: items, ReadsBack read (text x) x) (rest : List Char) {fuel : Nat}
    (hfuel : items.length < fuel) {gap : List Char} (hgap : ∀ c ∈ gap, isSpace c = true) :
    listed read close fuel (gap ++ (text item ++ (following depth text close items ++ rest))) =
      some (item :: items, rest) := by
  induction items generalizing item fuel gap with
  | nil =>
    obtain ⟨fuel, rfl⟩ := Nat.exists_eq_succ_of_ne_zero (Nat.ne_zero_of_lt hfuel)
    have hitem := hitems item List.mem_cons_self
    have hskip : skipSpaces (following depth text close [] ++ rest) = close :: rest := by
      rw [following_nil, List.append_assoc, skipSpaces_append fun _ => isSpace_of_mem_indent]
      rcases hclose with rfl | rfl <;> rfl
    simp only [listed, hitem.skipSpaces_eq hgap, hitem.read_eq _ (ends_following hclose [] rest),
      Option.bind_eq_bind, Option.bind_some, hskip]
    rcases hclose with rfl | rfl <;> rfl
  | cons next items ih =>
    obtain ⟨fuel, rfl⟩ := Nat.exists_eq_succ_of_ne_zero (Nat.ne_zero_of_lt hfuel)
    have hitem := hitems item List.mem_cons_self
    have hmore := ih (fun x hx => hitems x (List.mem_cons_of_mem item hx))
      (Nat.lt_of_succ_lt_succ hfuel) fun c => @isSpace_of_mem_indent (depth + 1) c
    have hskip : skipSpaces (following depth text close (next :: items) ++ rest) =
        ',' :: ((indent (depth + 1)).toList ++
          (text next ++ (following depth text close items ++ rest))) := by
      rw [following_cons]
      simp [skipSpaces, isSpace]
    simp only [listed, hitem.skipSpaces_eq hgap,
      hitem.read_eq _ (ends_following hclose (next :: items) rest), Option.bind_eq_bind,
      Option.bind_some, hskip, hmore, Option.map_some, prepend]

lemma length_lt_following (items : List α) :
    items.length < (following depth text close items).length := by
  induction items with
  | nil => simp
  | cons item items ih =>
    simp only [following_cons, List.length_cons, List.length_append]
    omega

lemma enclosed_of_ne {s t : List Char} {c : Char} (h : skipSpaces s = c :: t) (hc : c ≠ close) :
    enclosed read close s = listed read close s.length (c :: t) := by
  simp [enclosed, h, hc]

/-- What is written between brackets is read back behind the opening one. -/
lemma enclosed_bracketed (hclose : close = ']' ∨ close = '}') {opening : Char} {items : List α}
    (hitems : ∀ x ∈ items, ReadsBack read (text x) x) (rest : List Char) :
    ∃ s, bracketed depth text opening close items ++ rest = opening :: s ∧
      enclosed read close s = some (items, rest) := by
  cases items with
  | nil =>
    refine ⟨close :: rest, rfl, ?_⟩
    rcases hclose with rfl | rfl <;> rfl
  | cons item items =>
    have hitem := hitems item List.mem_cons_self
    obtain ⟨c, u, htext, hc⟩ := hitem.exists_cons
    have hne : c ≠ close := by
      rintro rfl
      rcases hclose with rfl | rfl <;> exact absurd hc (by decide)
    refine ⟨(indent (depth + 1)).toList ++
      (text item ++ (following depth text close items ++ rest)), by simp [bracketed], ?_⟩
    have hskip : skipSpaces ((indent (depth + 1)).toList ++
        (text item ++ (following depth text close items ++ rest))) =
          c :: (u ++ (following depth text close items ++ rest)) := by
      rw [hitem.skipSpaces_eq fun _ => isSpace_of_mem_indent, htext, List.cons_append]
    rw [enclosed_of_ne hskip hne, ← List.cons_append, ← htext]
    have hlength := @length_lt_following _ text close depth items
    refine @listed_following _ read text close depth hclose item items hitems rest _ ?_ [] (by simp)
    simp only [List.length_append]
    omega

end Bracketed

/-! ## Values that are read back -/

/-- Brackets nest at most `depth` deep in a value. -/
inductive Within : (depth : Nat) → Json → Prop
  | null {depth : Nat} : Within depth null
  | bool {depth : Nat} (value : Bool) : Within depth (bool value)
  | int {depth : Nat} (value : Int) : Within depth (int value)
  | real {depth : Nat} : Within depth real
  | str {depth : Nat} (text : String) : Within depth (str text)
  | array {depth : Nat} {items : List Json} (h : ∀ item ∈ items, Within depth item) :
      Within (depth + 1) (array items)
  | object {depth : Nat} {fields : List (String × Json)}
      (h : ∀ field ∈ fields, Within depth field.2) : Within (depth + 1) (object fields)

/-- The characters of a value. -/
def text (depth : Nat) (json : Json) : List Char := (json.pieces depth).flatMap String.toList

/-- The characters of a field. -/
def fieldText (depth : Nat) (field : String × Json) : List Char :=
  (quote field.1).toList ++ (": ".toList ++ text depth field.2)

lemma itemPieces_eq (depth : Nat) (items : List Json) :
    itemPieces depth items =
      items.flatMap fun item => "," :: indent depth :: pieces depth item := by
  induction items with
  | nil => rfl
  | cons item items ih => simp [itemPieces, ih]

lemma fieldText_eq (depth : Nat) (field : String × Json) :
    (fieldPieces depth field).flatMap String.toList = fieldText depth field := by
  obtain ⟨key, value⟩ := field
  simp [fieldPieces, fieldText, text]

lemma fieldsPieces_eq (depth : Nat) (fields : List (String × Json)) :
    fieldsPieces depth fields =
      fields.flatMap fun field => "," :: indent depth :: fieldPieces depth field := by
  induction fields with
  | nil => rfl
  | cons field fields ih => simp [fieldsPieces, ih]

lemma text_array (depth : Nat) (items : List Json) :
    text depth (array items) = bracketed depth (text (depth + 1)) '[' ']' items := by
  cases items with
  | nil => rfl
  | cons item items =>
    simp [text, pieces, itemPieces_eq, bracketed, following, List.flatMap_assoc]

lemma text_object (depth : Nat) (fields : List (String × Json)) :
    text depth (object fields) = bracketed depth (fieldText (depth + 1)) '{' '}' fields := by
  cases fields with
  | nil => rfl
  | cons field fields =>
    simp [text, pieces, fieldsPieces_eq, fieldText_eq, bracketed, following, List.flatMap_assoc]

lemma readsBack_field {read : Reader Json} {depth : Nat} {field : String × Json}
    (h : ReadsBack read (text depth field.2) field.2) :
    ReadsBack (Json.field read) (fieldText depth field) field where
  start := ⟨'"', by simp [fieldText, quote], by decide⟩
  read_eq rest hrest := by
    have htext : fieldText depth field ++ rest =
        (quote field.1).toList ++ (':' :: ([' '] ++ (text depth field.2 ++ rest))) := by
      simp [fieldText]
    have hcolon (s : List Char) : skipSpaces (':' :: s) = ':' :: s := rfl
    have hspace : skipSpaces ([' '] ++ (text depth field.2 ++ rest)) = text depth field.2 ++ rest :=
      h.skipSpaces_eq (by simp [isSpace]) rest
    simp only [Json.field, htext, string_quote, hcolon, hspace, Toml.expect, ↓reduceIte,
      Option.bind_eq_bind, Option.bind_some, h.read_eq rest hrest]

/-- Only a bracket makes a value depend on how deep brackets may nest. -/
lemma value_eq_scalar {c : Char} (h : c ≠ '[') (h' : c ≠ '{') (depth : Nat) (s : List Char) :
    value depth (c :: s) = scalar (c :: s) := by
  cases depth with
  | zero => rfl
  | succ depth => simp [value, h, h']

lemma scalar_eq_number {c : Char} (h : isNumeric c = true) (s : List Char) :
    scalar (c :: s) = number (c :: s) := by
  have hne (d : Char) (hd : isNumeric d = false) : c ≠ d ∧ d ≠ c :=
    ⟨ne_of_isNumeric h hd, (ne_of_isNumeric h hd).symm⟩
  simp [scalar, string, constant, Text.after?, hne '"' (by decide), hne 'n' (by decide),
    hne 't' (by decide), hne 'f' (by decide)]

/-- Text that starts with no bracket is read back if it is read back as a scalar. -/
lemma readsBack_scalar {u v : List Char} {c : Char} {json : Json} (hu : u = c :: v)
    (hc : c ≠ '[' ∧ c ≠ '{' ∧ isEnd c = false)
    (hread : ∀ rest, Ends rest → scalar (u ++ rest) = some (json, rest)) (depth : Nat) :
    ReadsBack (value depth) u json where
  start := ⟨c, by simp [hu], hc.2.2⟩
  read_eq rest hrest := by
    rw [← hread rest hrest, hu]
    exact value_eq_scalar hc.1 hc.2.1 depth (v ++ rest)

lemma number_real {rest : List Char} (h : Ends rest) :
    number ("0.0".toList ++ rest) = some (.real, rest) := by
  have hzero : digits? ('0' :: rest) = some (['0'], rest) :=
    @digits?_append ['0'] rest (by simp) (by simp) h
  have hfraction : skipFraction? ('.' :: '0' :: rest) = some rest := by
    simp [skipFraction?, hzero]
  have hlonger : rest ≠ '.' :: '0' :: rest := by
    intro heq
    have hlength := congrArg List.length heq
    simp at hlength
    omega
  simp [number, natural?, plainDigits?, hfraction, skipPower?_of_ends h, hlonger, ofNatural]

/-- The text of a value is read back as that value. -/
theorem readsBack_text {depth : Nat} {json : Json} (h : Within depth json) (indentation : Nat) :
    ReadsBack (value depth) (text indentation json) json := by
  induction h generalizing indentation with
  | null => exact readsBack_scalar rfl (by decide) (fun _ _ => rfl) _
  | bool b =>
    cases b with
    | false => exact readsBack_scalar rfl (by decide) (fun _ _ => rfl) _
    | true => exact readsBack_scalar rfl (by decide) (fun _ _ => rfl) _
  | int n =>
    have htext : text indentation (int n) = (toString n).toList := by simp [text, pieces]
    obtain ⟨c, s, hs, hc⟩ := exists_toString_eq_cons n
    have hend : isEnd c = false := by
      by_contra hend
      have hnumeric := (not_numeric_of_isEnd (Bool.not_eq_false _ ▸ hend)).1
      exact absurd (hc.symm.trans hnumeric) (by decide)
    rw [htext]
    have hbracket : c ≠ '[' ∧ c ≠ '{' :=
      ⟨ne_of_isNumeric hc (by decide), ne_of_isNumeric hc (by decide)⟩
    refine readsBack_scalar hs ⟨hbracket.1, hbracket.2, hend⟩ (fun rest hrest => ?_) _
    rw [← number_toString n hrest, hs]
    exact scalar_eq_number hc (s ++ rest)
  | real =>
    refine readsBack_scalar rfl (by decide) (fun rest hrest => ?_) _
    rw [← number_real hrest]
    exact scalar_eq_number (by decide) _
  | str content =>
    have htext : text indentation (str content) = (quote content).toList := by simp [text, pieces]
    have hquote : (quote content).toList = '"' :: (content.toList.flatMap escape ++ ['"']) := by
      simp [quote]
    rw [htext]
    refine readsBack_scalar hquote (by decide) (fun rest _ => ?_) _
    simp [scalar, string_quote]
  | @array depth items h ih =>
    rw [text_array]
    refine ⟨⟨'[', by cases items <;> rfl, by decide⟩, fun rest _ => ?_⟩
    obtain ⟨s, hs, hread⟩ := enclosed_bracketed (.inl rfl)
      (fun item hitem => ih item hitem (indentation + 1)) rest
    rw [hs]
    simp [value, hread]
  | @object depth fields h ih =>
    rw [text_object]
    refine ⟨⟨'{', by cases fields <;> rfl, by decide⟩, fun rest _ => ?_⟩
    obtain ⟨s, hs, hread⟩ := enclosed_bracketed (.inr rfl)
      (fun field hfield => readsBack_field (ih field hfield (indentation + 1))) rest
    rw [hs]
    simp [value, hread]

/-- A document is read back as its value, with any blanks behind it. -/
theorem read?_pretty {json : Json} (h : Within nestingLimit json) {gap : List Char}
    (hgap : ∀ c ∈ gap, isSpace c = true) : read? (json.pretty.toList ++ gap) = some json := by
  have htext : json.pretty.toList = text 0 json := String.toList_join
  have hback := readsBack_text h 0
  have hends : Ends gap := by simpa using ends_append hgap (s := []) (by simp [Ends])
  have hskip : skipSpaces gap = [] := List.dropWhile_eq_nil_iff.2 hgap
  have hstart : skipSpaces (text 0 json ++ gap) = text 0 json ++ gap :=
    @ReadsBack.skipSpaces_eq _ _ _ _ hback [] (by simp) gap
  simp [read?, htext, hstart, hback.read_eq gap hends, hskip]

end BasicLint.Json
