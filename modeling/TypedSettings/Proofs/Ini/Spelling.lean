import TypedSettings.Proofs.Ini.Values

/-!
# Raw texts of values

What is written for a value is read back as the value. The text of a scalar is never empty, has no
blank at its ends and keeps to its line; commas and quotes are only in the texts of strings, which
stand between quotes. The text of an array ends with a comma, so it is never taken for a quoted
string.
-/

namespace TypedSettings.Ini
set_option autoImplicit false

open Text (trim isBlank Tight)

variable {v : Value}

/-! ## Scalars -/

/-- A text that is read as a scalar when it stands alone and when it is a piece of a list. -/
structure Spells (raw : List Char) (v : Value) : Prop extends IsField raw where
  inferred : inferScalar raw = v

theorem toList_writeScalar_text (content : String) :
    (writeScalar (.text content)).toList = '"' :: (content.toList ++ ['"']) := by
  rw [writeScalar, String.toList_append, String.toList_append]
  rfl

theorem unquote?_writeScalar_text (content : String) :
    unquote? (writeScalar (.text content)).toList = some content.toList :=
  unquote?_eq_some_iff.2 (toList_writeScalar_text content)

theorem spells_text {content : String} (h : InLine content.toList) :
    Spells (writeScalar (.text content)).toList (.text content) where
  filled := by
    rw [toList_writeScalar_text]
    intro empty
    cases empty
  trimmed := by
    rw [toList_writeScalar_text]
    have quote : Tight ['"'] := Text.tight_singleton (by decide)
    exact (quote.append quote (by decide) (by decide) content.toList).trim_eq
  inLine := by
    rw [toList_writeScalar_text]
    have quote : InLine ['"'] := by decide
    exact quote.append (h.append quote)
  inferred := by
    rw [inferScalar_of_quoted (unquote?_writeScalar_text content), String.ofList_toList]

/-- A text without blanks, quotes, commas and comments. -/
def Bare (cs : List Char) : Prop := ∀ c ∈ cs, isBlank c = false ∧ c ∉ ['"', ',', ';', '#']

variable {cs : List Char}

instance (cs : List Char) : Decidable (Bare cs) := List.decidableBAll _ cs

theorem Bare.not_mem {c : Char} (h : Bare cs) (sign : c ∈ ['"', ',', ';', '#']) : c ∉ cs :=
  fun mem => (h c mem).2 sign

theorem Bare.tight (h : Bare cs) : Tight cs := Text.tight_of_solid fun c mem => (h c mem).1

theorem Bare.inLine (h : Bare cs) : InLine cs := by
  intro c mem
  obtain ⟨solid, sign⟩ := h c mem
  constructor
  · rintro rfl
    revert solid
    decide
  · rw [Line.startsComment, Bool.or_eq_false_iff, beq_eq_false_iff_ne, beq_eq_false_iff_ne]
    constructor
    · rintro rfl
      exact sign (by decide)
    · rintro rfl
      exact sign (by decide)

theorem Bare.unquote?_eq_none (h : Bare cs) : unquote? cs = none :=
  unquote?_eq_none_of_not_mem (h.not_mem (by decide))

theorem Bare.spells {raw : List Char} (h : Bare raw) (filled : raw ≠ [])
    (inferred : inferBare raw = v) : Spells raw v where
  filled := filled
  trimmed := h.tight.trim_eq
  inLine := h.inLine
  inferred := by rw [inferScalar_of_bare h.unquote?_eq_none, inferred]

theorem bare_integer (number : Int64) : Bare (writeScalar (.integer number)).toList := by
  intro c mem
  rw [writeScalar, Value.render] at mem
  · obtain ⟨solid, sign, -⟩ := Text.isDecimal_spec (Text.isDecimal_of_mem_repr mem)
    exact ⟨solid, sign⟩
  · intro content same
    cases same

theorem bare_boolean (truth : Bool) : Bare (writeScalar (.boolean truth)).toList := by
  cases truth <;> decide

/-- A text of a truth value begins with a letter of it. -/
theorem readTruth?_eq_none (h : ∀ c ∈ cs, c.toLower ∉ ['t', 'f']) : readTruth? cs = none := by
  unfold readTruth?
  have other : ∀ (first : Char) (rest : List Char), first ∈ ['t', 'f'] →
      cs.map Char.toLower ≠ first :: rest := by
    intro first rest letter word
    obtain ⟨c, ds, rfl, lower, -⟩ := List.map_eq_cons_iff.1 word
    exact h c (List.mem_cons_self ..) (lower ▸ letter)
  dsimp only
  rw [if_neg (other _ _ (by decide)), if_neg (other _ _ (by decide))]

theorem spells_integer (number : Int64) :
    Spells (writeScalar (.integer number)).toList (.integer number) := by
  apply (bare_integer number).spells
  · exact Text.toList_repr_ne_nil number.toInt
  · have word : readTruth? number.toInt.repr.toList = none :=
      readTruth?_eq_none fun c mem => (Text.isDecimal_spec (Text.isDecimal_of_mem_repr mem)).2.2
    show inferBare number.toInt.repr.toList = .integer number
    rw [inferBare, word, Text.readInt64?_repr]

theorem spells_boolean (truth : Bool) :
    Spells (writeScalar (.boolean truth)).toList (.boolean truth) := by
  apply (bare_boolean truth).spells
  · cases truth <;> decide
  · cases truth <;> rfl

/-- A scalar without floats is read back from its text. -/
theorem IsScalar.spells (h : IsScalar False v) : Spells (writeScalar v).toList v := by
  cases h with
  | text inLine => exact spells_text inLine
  | integer number => exact spells_integer number
  | boolean truth => exact spells_boolean truth
  | float allowed => exact allowed.elim

/-! ## Arrays -/

theorem IsElement.spells (h : IsElement False v) : Spells (writeScalar v).toList v :=
  h.isScalar.spells

theorem IsElement.comma_not_mem (h : IsElement False v) : ',' ∉ (writeScalar v).toList := by
  obtain ⟨isScalar, noComma⟩ := h
  cases isScalar with
  | text =>
    rw [toList_writeScalar_text]
    have content := noComma _ rfl
    simp [content]
  | integer number => exact (bare_integer number).not_mem (by decide)
  | boolean truth => exact (bare_boolean truth).not_mem (by decide)
  | float allowed => exact allowed.elim

variable {elements : List Value}

theorem toList_writeElements (filled : elements ≠ []) :
    (writeElements elements).toList =
      (elements.map fun v => (writeScalar v).toList).flatMap fun piece => piece ++ [','] := by
  obtain ⟨v, vs, rfl⟩ := List.exists_cons_of_ne_nil filled
  rw [writeElements, String.toList_join, List.flatMap_map, List.flatMap_map]
  · simp only [String.toList_append]
    rfl
  · intro empty
    cases empty

theorem getLast?_writeElements (elements : List Value) :
    (writeElements elements).toList.getLast? = some ',' := by
  rcases List.eq_nil_or_concat elements with rfl | ⟨vs, v, rfl⟩
  · rfl
  · rw [List.concat_eq_append, toList_writeElements (by simp), List.map_append,
      List.flatMap_append, List.map_singleton, List.flatMap_singleton, ← List.append_assoc,
      List.getLast?_concat]

theorem tight_writeElements (h : ∀ v ∈ elements, IsElement False v) :
    Tight (writeElements elements).toList where
  head c first := by
    cases elements with
    | nil =>
      obtain rfl := Option.some.inj first
      decide
    | cons v vs =>
      have spelled := (h v (List.mem_cons_self ..)).spells
      obtain ⟨d, ds, text⟩ := List.exists_cons_of_ne_nil spelled.filled
      rw [toList_writeElements (by simp), List.map_cons, List.flatMap_cons, text] at first
      exact spelled.tight.head c (text ▸ first)
  last c final := by
    rw [getLast?_writeElements] at final
    obtain rfl := Option.some.inj final
    decide

theorem inLine_writeElements (h : ∀ v ∈ elements, IsElement False v) :
    InLine (writeElements elements).toList := by
  have comma : InLine [','] := by decide
  by_cases filled : elements = []
  · rw [filled]
    exact comma
  · rw [toList_writeElements filled]
    intro c mem
    obtain ⟨piece, inPieces, inPiece⟩ := List.mem_flatMap.1 mem
    obtain ⟨v, inElements, rfl⟩ := List.mem_map.1 inPieces
    exact (h v inElements).spells.inLine.append comma c inPiece

theorem isField_writeElements (h : ∀ v ∈ elements, IsElement False v) :
    IsField (writeElements elements).toList where
  filled := List.ne_nil_of_mem (List.mem_of_getLast? (getLast?_writeElements elements))
  trimmed := (tight_writeElements h).trim_eq
  inLine := inLine_writeElements h

theorem pieces_writeElements (h : ∀ v ∈ elements, IsElement False v) :
    pieces (writeElements elements).toList = elements.map fun v => (writeScalar v).toList := by
  by_cases filled : elements = []
  · rw [filled]
    rfl
  · have noComma : ∀ piece ∈ elements.map fun v => (writeScalar v).toList, ',' ∉ piece := by
      intro piece mem
      obtain ⟨v, inElements, rfl⟩ := List.mem_map.1 mem
      exact (h v inElements).comma_not_mem
    rw [pieces, toList_writeElements filled, Text.splitOn_flatMap_append noComma, List.map_append,
      List.filter_append, List.map_map]
    have trimmed : elements.map (trim ∘ fun v => (writeScalar v).toList) =
        elements.map fun v => (writeScalar v).toList :=
      List.map_congr_left fun v mem => (h v mem).spells.trimmed
    have kept : ∀ piece ∈ elements.map fun v => (writeScalar v).toList, (!piece.isEmpty) = true := by
      intro piece mem
      obtain ⟨v, inElements, rfl⟩ := List.mem_map.1 mem
      simpa using (h v inElements).spells.filled
    rw [trimmed, List.filter_eq_self.2 kept]
    show _ ++ [] = _
    rw [List.append_nil]

/-! ## Values -/

theorem infer_writeElements (h : ∀ v ∈ elements, IsElement False v) :
    infer (writeElements elements) = .array elements := by
  have trimmed := (isField_writeElements h).trimmed
  have last := getLast?_writeElements elements
  have comma : ',' ∈ (writeElements elements).toList := List.mem_of_getLast? last
  have notQuoted := unquote?_eq_none_of_getLast? last (by decide)
  rw [← trimmed] at comma notQuoted
  rw [infer_of_comma notQuoted comma, trimmed, pieces_writeElements h, List.map_map]
  have readBack : elements.map (inferScalar ∘ fun v => (writeScalar v).toList) = elements.map id :=
    List.map_congr_left fun v mem => (h v mem).spells.inferred
  rw [readBack, List.map_id]

theorem infer_of_bare {raw : String} (spelled : Spells raw.toList v) (bare : Bare raw.toList) :
    infer raw = v := by
  have trimmed := spelled.trimmed
  have notQuoted := bare.unquote?_eq_none
  have single : ',' ∉ raw.toList := bare.not_mem (by decide)
  rw [← trimmed] at notQuoted single
  rw [infer_of_no_comma notQuoted single, trimmed, spelled.inferred]

theorem infer_writeScalar (h : IsScalar False v) : infer (writeScalar v) = v := by
  have spelled := h.spells
  cases h with
  | text =>
    rename_i content _
    have quoted := unquote?_writeScalar_text content
    rw [← spelled.trimmed] at quoted
    rw [infer_of_quoted quoted, String.ofList_toList]
  | integer number => exact infer_of_bare spelled (bare_integer number)
  | boolean truth => exact infer_of_bare spelled (bare_boolean truth)
  | float allowed => exact allowed.elim

theorem IsScalar.writeValue_eq {floats : Prop} (h : IsScalar floats v) :
    writeValue v = writeScalar v := by
  cases h <;> rfl

/-- What is written for a value can stand in a line. -/
theorem IsIniValue.isField (h : IsIniValue False v) : IsField (writeValue v).toList := by
  cases h with
  | scalar isScalar =>
    rw [isScalar.writeValue_eq]
    exact isScalar.spells.toIsField
  | array isElement => exact isField_writeElements isElement

/-- What is written for a value without floats is read back as the value. -/
theorem IsIniValue.infer_writeValue (h : IsIniValue False v) : infer (writeValue v) = v := by
  cases h with
  | scalar isScalar =>
    rw [isScalar.writeValue_eq]
    exact infer_writeScalar isScalar
  | array isElement => exact infer_writeElements isElement

end TypedSettings.Ini
