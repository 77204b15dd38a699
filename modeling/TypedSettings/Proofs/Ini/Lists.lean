import TypedSettings.Proofs.Ini.Values

/-!
# Lists of written elements

An element of a list is written bare or between double quotes, and elements are joined with commas.
Such a text is read as the array of its elements, unless the first and the last of them are both
quoted: then the whole text begins and ends with a double quote, and it is read as one string.
-/

namespace TypedSettings.Ini
set_option autoImplicit false

open Text (trim Tight isBlank)

/-! ## Elements -/

/-- The text of an element: bare, or between double quotes. -/
inductive IsElementText : List Char → Prop where
  | bare {cs : List Char} (filled : cs ≠ []) (trimmed : trim cs = cs) (noComma : ',' ∉ cs)
      (noQuote : '"' ∉ cs) : IsElementText cs
  | quoted {inside : List Char} (noComma : ',' ∉ inside) (noQuote : '"' ∉ inside) :
      IsElementText ('"' :: (inside ++ ['"']))

/-- An element with white space around it. -/
structure ListElement where
  before : List Char
  text : List Char
  after : List Char
  blankBefore : ∀ c ∈ before, isBlank c = true
  blankAfter : ∀ c ∈ after, isBlank c = true
  isElementText : IsElementText text

variable {cs : List Char}

namespace IsElementText

theorem filled (h : IsElementText cs) : cs ≠ [] := by
  cases h with
  | bare filled => exact filled
  | quoted => exact List.cons_ne_nil _ _

theorem comma_not_mem (h : IsElementText cs) : ',' ∉ cs := by
  cases h with
  | bare _ _ noComma => exact noComma
  | quoted noComma => simpa using noComma

theorem tight (h : IsElementText cs) : Tight cs := by
  cases h with
  | bare _ trimmed => exact Text.trim_eq_self_iff.1 trimmed
  | quoted =>
    have quote : Tight ['"'] := Text.tight_singleton (by decide)
    exact quote.append quote (List.cons_ne_nil _ _) (List.cons_ne_nil _ _) _

/-- An element that is not quoted has no quote at all. -/
theorem quoted_or_noQuote (h : IsElementText cs) :
    (∃ inside, cs = '"' :: (inside ++ ['"'])) ∨ '"' ∉ cs := by
  cases h with
  | bare _ _ _ noQuote => exact .inr noQuote
  | quoted => exact .inl ⟨_, rfl⟩

end IsElementText

namespace ListElement

/-- The element with the white space around it. -/
def spelled (e : ListElement) : List Char := e.before ++ e.text ++ e.after

/-- The element is written between double quotes. -/
def IsQuoted (e : ListElement) : Prop := ∃ inside, e.text = '"' :: (inside ++ ['"'])

/-- A text between double quotes without white space around it. -/
def quote (inside : List Char) (noComma : ',' ∉ inside) (noQuote : '"' ∉ inside) : ListElement where
  before := []
  text := '"' :: (inside ++ ['"'])
  after := []
  blankBefore := nofun
  blankAfter := nofun
  isElementText := .quoted noComma noQuote

theorem comma_not_mem_spelled (e : ListElement) : ',' ∉ e.spelled := by
  have notBlank : isBlank ',' ≠ true := by decide
  intro mem
  rcases List.mem_append.1 mem with mem | mem
  · rcases List.mem_append.1 mem with mem | mem
    · exact notBlank (e.blankBefore _ mem)
    · exact e.isElementText.comma_not_mem mem
  · exact notBlank (e.blankAfter _ mem)

theorem trim_spelled (e : ListElement) : trim e.spelled = e.text := by
  rw [spelled, Text.trim_surrounded e.blankBefore e.blankAfter, e.isElementText.tight.trim_eq]

/-- The element without the white space before it. -/
def withoutBefore (e : ListElement) : ListElement := { e with before := [], blankBefore := nofun }

/-- The element without the white space after it. -/
def withoutAfter (e : ListElement) : ListElement := { e with after := [], blankAfter := nofun }

end ListElement

/-! ## Lists -/

/-- Elements joined with commas. -/
def joined (es : List ListElement) : List Char := [','].intercalate (es.map ListElement.spelled)

/-- The pieces between the commas are the texts of the elements. -/
theorem pieces_joined {es : List ListElement} (some : es ≠ []) :
    pieces (joined es) = es.map ListElement.text := by
  have noComma : ∀ piece ∈ es.map ListElement.spelled, ',' ∉ piece := by
    intro piece mem
    obtain ⟨e, -, rfl⟩ := List.mem_map.1 mem
    exact e.comma_not_mem_spelled
  have split : (joined es).splitOn ',' = es.map ListElement.spelled :=
    List.splitOn_intercalate ',' noComma fun none => some (List.map_eq_nil_iff.1 none)
  have trimmed : (es.map ListElement.spelled).map trim = es.map ListElement.text := by
    rw [List.map_map]
    exact List.map_congr_left fun e _ => e.trim_spelled
  rw [pieces, split, trimmed, List.filter_eq_self]
  intro piece mem
  obtain ⟨e, -, rfl⟩ := List.mem_map.1 mem
  simpa using e.isElementText.filled

variable {first last : ListElement} {middle : List ListElement}

/-- What stands between the texts of the first and of the last element. -/
def between (first : ListElement) (middle : List ListElement) (last : ListElement) : List Char :=
  first.after ++ ',' :: (middle.flatMap fun e => e.spelled ++ [',']) ++ last.before

theorem joined_eq (first : ListElement) (middle : List ListElement) (last : ListElement) :
    joined (first :: (middle ++ [last])) =
      first.before ++ (first.text ++ between first middle last ++ last.text) ++ last.after := by
  rw [joined, List.map_cons, List.map_append, List.map_singleton, Text.intercalate_cons_concat,
    List.flatMap_map, between, ListElement.spelled, ListElement.spelled]
  simp only [List.append_assoc, List.cons_append]

theorem trim_joined (first : ListElement) (middle : List ListElement) (last : ListElement) :
    trim (joined (first :: (middle ++ [last]))) =
      first.text ++ between first middle last ++ last.text := by
  have tight : Tight (first.text ++ between first middle last ++ last.text) :=
    first.isElementText.tight.append last.isElementText.tight first.isElementText.filled
      last.isElementText.filled _
  rw [joined_eq, Text.trim_surrounded first.blankBefore last.blankAfter, tight.trim_eq]

theorem pieces_trim_joined (first : ListElement) (middle : List ListElement) (last : ListElement) :
    pieces (trim (joined (first :: (middle ++ [last])))) =
      (first :: (middle ++ [last])).map ListElement.text := by
  have trimmed : trim (joined (first :: (middle ++ [last]))) =
      joined (first.withoutBefore :: (middle ++ [last.withoutAfter])) := by
    rw [trim_joined, joined_eq]
    exact (List.append_nil _).symm
  rw [trimmed, pieces_joined (List.cons_ne_nil _ _)]
  simp only [List.map_cons, List.map_append, List.map_nil]
  rfl

theorem comma_mem_between : ',' ∈ between first middle last :=
  List.mem_append_left _ (List.mem_append_right _ List.mem_cons_self)

/-- The joined text has quotes at its ends when the first and the last element have. -/
theorem exists_inside_joined (hfirst : first.IsQuoted) (hlast : last.IsQuoted) :
    ∃ inside, trim (joined (first :: (middle ++ [last]))) = '"' :: (inside ++ ['"']) := by
  obtain ⟨before, firstText⟩ := hfirst
  obtain ⟨after, lastText⟩ := hlast
  refine ⟨before ++ '"' :: between first middle last ++ '"' :: after, ?_⟩
  rw [trim_joined, firstText, lastText]
  simp

theorem unquote?_joined_eq_none (bare : ¬ (first.IsQuoted ∧ last.IsQuoted)) :
    unquote? (trim (joined (first :: (middle ++ [last])))) = none := by
  rw [trim_joined]
  rcases first.isElementText.quoted_or_noQuote with hfirst | noQuote
  · have notLast : ¬ last.IsQuoted := fun hlast => bare ⟨hfirst, hlast⟩
    have noQuote := last.isElementText.quoted_or_noQuote.resolve_left notLast
    have filled := last.isElementText.filled
    have ends : (first.text ++ between first middle last ++ last.text).getLast? =
        some (last.text.getLast filled) := by
      rw [List.getLast?_append, List.getLast?_eq_some_getLast filled, Option.some_or]
    have other : last.text.getLast filled ≠ '"' := by
      intro same
      exact noQuote (same ▸ List.getLast_mem filled)
    exact unquote?_eq_none_of_getLast? ends other
  · cases found : unquote? (first.text ++ between first middle last ++ last.text) with
    | none => rfl
    | some inside =>
      obtain ⟨c, rest, text⟩ := List.exists_cons_of_ne_nil first.isElementText.filled
      have whole := unquote?_eq_some_iff.1 found
      rw [text] at whole
      obtain ⟨rfl, -⟩ := List.cons.inj whole
      exact absurd (text ▸ List.mem_cons_self) noQuote

/-- Two elements or more that are joined with commas are read as the array of what each of them
shows, unless the first and the last of them are both quoted. Then the text as a whole is between
quotes, and it is read as the string of all that stands between the first quote and the last. -/
theorem infer_joined (first last : ListElement) (middle : List ListElement) :
    (infer (String.ofList (joined (first :: (middle ++ [last])))) =
        .array ((first :: (middle ++ [last])).map fun e => inferScalar e.text) ↔
      ¬ (first.IsQuoted ∧ last.IsQuoted)) ∧
    (first.IsQuoted → last.IsQuoted →
      ∃ inside, trim (joined (first :: (middle ++ [last]))) = '"' :: (inside ++ ['"']) ∧
        infer (String.ofList (joined (first :: (middle ++ [last])))) =
          .text (String.ofList inside)) := by
  have asText : first.IsQuoted → last.IsQuoted →
      ∃ inside, trim (joined (first :: (middle ++ [last]))) = '"' :: (inside ++ ['"']) ∧
        infer (String.ofList (joined (first :: (middle ++ [last])))) =
          .text (String.ofList inside) := by
    intro hfirst hlast
    obtain ⟨inside, whole⟩ := exists_inside_joined hfirst hlast
    refine ⟨inside, whole, infer_of_quoted ?_⟩
    rw [String.toList_ofList]
    exact unquote?_eq_some_iff.2 whole
  refine ⟨⟨?_, fun bare => ?_⟩, asText⟩
  · rintro isArray ⟨hfirst, hlast⟩
    obtain ⟨inside, -, isText⟩ := asText hfirst hlast
    rw [isText] at isArray
    cases isArray
  · have comma : ',' ∈ trim (joined (first :: (middle ++ [last]))) := by
      rw [trim_joined]
      exact List.mem_append_left _ (List.mem_append_right _ comma_mem_between)
    rw [← String.toList_ofList (l := joined (first :: (middle ++ [last])))] at comma
    rw [infer_of_comma _ comma, String.toList_ofList, pieces_trim_joined, List.map_map]
    · rfl
    · rw [String.toList_ofList]
      exact unquote?_joined_eq_none bare

/-- The list of the quoted texts `a` and `b` is read as one string with two quotes and a comma in
it. -/
theorem infer_joined_of_two_quoted :
    infer (String.ofList (joined [.quote ['a'] (by decide) (by decide),
      .quote ['b'] (by decide) (by decide)])) = .text "a\",\"b" ∧
    [ListElement.quote ['a'] (by decide) (by decide), .quote ['b'] (by decide) (by decide)].map
      (fun e => inferScalar e.text) = [.text "a", .text "b"] ∧
    ¬ ∀ (first last : ListElement) (middle : List ListElement),
      infer (String.ofList (joined (first :: (middle ++ [last])))) =
        .array ((first :: (middle ++ [last])).map fun e => inferScalar e.text) := by
  refine ⟨by decide, by decide, fun always => ?_⟩
  have asArray := always (.quote ['a'] (by decide) (by decide)) (.quote ['b'] (by decide) (by decide)) []
  exact absurd asArray (by decide)

end TypedSettings.Ini
