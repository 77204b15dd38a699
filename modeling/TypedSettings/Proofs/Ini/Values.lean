import TypedSettings.Ini.Infer
import TypedSettings.Ini.Line
import TypedSettings.Ini.Writer
import TypedSettings.Proofs.Text.Numerals
import TypedSettings.Proofs.Text.Splitting
import TypedSettings.Proofs.Text.Trimming

/-!
# Values with INI text

The values that INI text can spell are scalars and flat arrays of scalars without commas. Each raw
value of a line spells one of them, and each of them without floats is read back from the raw text
that is written for it.
-/

namespace TypedSettings.Ini
set_option autoImplicit false

open Text (trim Tight)

/-! ## The values -/

/-- No character ends the line or starts a comment. -/
def InLine (cs : List Char) : Prop := ∀ c ∈ cs, c ≠ '\n' ∧ Line.startsComment c = false

instance (cs : List Char) : Decidable (InLine cs) :=
  List.decidableBAll _ cs

/-- A text that a line can hold as a name or as a value: not empty, trimmed, on one line and without
a comment. -/
structure IsField (cs : List Char) : Prop where
  filled : cs ≠ []
  trimmed : trim cs = cs
  inLine : InLine cs

instance (cs : List Char) : Decidable (IsField cs) :=
  decidable_of_iff (cs ≠ [] ∧ trim cs = cs ∧ InLine cs)
    ⟨fun ⟨filled, trimmed, inLine⟩ => ⟨filled, trimmed, inLine⟩,
      fun h => ⟨h.filled, h.trimmed, h.inLine⟩⟩

/-- A scalar that a raw value can spell, with floats or without. -/
inductive IsScalar (floats : Prop) : Value → Prop where
  | text {content : String} (inLine : InLine content.toList) : IsScalar floats (.text content)
  | integer (number : Int64) : IsScalar floats (.integer number)
  | boolean (truth : Bool) : IsScalar floats (.boolean truth)
  | float (allowed : floats) (number : Binary64) : IsScalar floats (.float number)

/-- A scalar without a comma in its text. -/
structure IsElement (floats : Prop) (v : Value) : Prop where
  isScalar : IsScalar floats v
  noComma : ∀ content, v = .text content → ',' ∉ content.toList

/-- A value that a raw value can spell, with floats or without. -/
inductive IsIniValue (floats : Prop) : Value → Prop where
  | scalar {v : Value} (isScalar : IsScalar floats v) : IsIniValue floats v
  | array {elements : List Value} (isElement : ∀ v ∈ elements, IsElement floats v) :
      IsIniValue floats (.array elements)

variable {cs inside : List Char} {v : Value}

theorem IsField.tight (h : IsField cs) : Tight cs := Text.trim_eq_self_iff.1 h.trimmed

theorem InLine.mono {ds : List Char} (h : InLine cs) (within : ∀ c ∈ ds, c ∈ cs) : InLine ds :=
  fun c mem => h c (within c mem)

theorem InLine.append {ds : List Char} (h : InLine cs) (k : InLine ds) : InLine (cs ++ ds) :=
  fun c mem => (List.mem_append.1 mem).elim (h c) (k c)

theorem InLine.trim (h : InLine cs) : InLine (trim cs) := h.mono fun _ => Text.mem_of_mem_trim

/-! ## Quotes -/

theorem unquote?_eq_some_iff : unquote? cs = some inside ↔ cs = '"' :: (inside ++ ['"']) := by
  constructor
  · intro found
    unfold unquote? at found
    split at found
    · next rest =>
      split at found
      · next back ends =>
        obtain rfl := Option.some.inj found
        rw [List.reverse_eq_iff.1 ends, List.reverse_cons]
      · cases found
    · cases found
  · rintro rfl
    simp [unquote?]

/-- A text that ends otherwise is not quoted. -/
theorem unquote?_eq_none_of_getLast? {c : Char} (last : cs.getLast? = some c) (other : c ≠ '"') :
    unquote? cs = none := by
  cases found : unquote? cs with
  | none => rfl
  | some inside =>
    rw [unquote?_eq_some_iff.1 found, ← List.cons_append, List.getLast?_concat] at last
    exact absurd (Option.some.inj last).symm other

theorem unquote?_eq_none_of_not_mem (h : '"' ∉ cs) : unquote? cs = none := by
  cases found : unquote? cs with
  | none => rfl
  | some inside =>
    rw [unquote?_eq_some_iff.1 found] at h
    exact absurd (List.mem_cons_self ..) h

theorem mem_of_unquote? (h : unquote? cs = some inside) {c : Char} (mem : c ∈ inside) : c ∈ cs := by
  rw [unquote?_eq_some_iff.1 h]
  exact List.mem_cons_of_mem _ (List.mem_append_left _ mem)

/-! ## The steps of inference -/

theorem inferScalar_of_quoted (h : unquote? cs = some inside) :
    inferScalar cs = .text (String.ofList inside) := by
  rw [inferScalar, h]

theorem inferScalar_of_bare (h : unquote? cs = none) : inferScalar cs = inferBare cs := by
  rw [inferScalar, h]

variable {raw : String}

theorem infer_of_quoted (h : unquote? (trim raw.toList) = some inside) :
    infer raw = .text (String.ofList inside) := by
  rw [infer, h]

theorem infer_of_comma (bare : unquote? (trim raw.toList) = none) (comma : ',' ∈ trim raw.toList) :
    infer raw = .array ((pieces (trim raw.toList)).map inferScalar) := by
  rw [infer, bare]
  exact if_pos comma

theorem infer_of_no_comma (bare : unquote? (trim raw.toList) = none)
    (single : ',' ∉ trim raw.toList) : infer raw = inferScalar (trim raw.toList) := by
  rw [infer, bare]
  exact if_neg single

/-! ## What a raw value spells -/

theorem isScalar_inferBare (h : InLine cs) : IsScalar True (inferBare cs) := by
  unfold inferBare
  split
  · exact .boolean _
  · split
    · exact .integer _
    · split
      · exact .float trivial _
      · exact .text (by rwa [String.toList_ofList])

theorem isScalar_text_of_unquote? (h : InLine cs) (found : unquote? cs = some inside) :
    IsScalar True (.text (String.ofList inside)) := by
  refine .text (h.mono fun c mem => ?_)
  rw [String.toList_ofList] at mem
  exact mem_of_unquote? found mem

theorem isScalar_inferScalar (h : InLine cs) : IsScalar True (inferScalar cs) := by
  cases found : unquote? cs with
  | some inside =>
    rw [inferScalar_of_quoted found]
    exact isScalar_text_of_unquote? h found
  | none =>
    rw [inferScalar_of_bare found]
    exact isScalar_inferBare h

theorem mem_of_inferBare_eq_text {content : String} (h : inferBare cs = .text content) {c : Char}
    (mem : c ∈ content.toList) : c ∈ cs := by
  unfold inferBare at h
  split at h
  · cases h
  · split at h
    · cases h
    · split at h
      · cases h
      · obtain rfl := Value.text.inj h
        rwa [String.toList_ofList] at mem

/-- A text that a scalar spells has no other characters than the scalar. -/
theorem mem_of_inferScalar_eq_text {content : String} (h : inferScalar cs = .text content) {c : Char}
    (mem : c ∈ content.toList) : c ∈ cs := by
  cases found : unquote? cs with
  | some inside =>
    rw [inferScalar_of_quoted found] at h
    obtain rfl := Value.text.inj h
    rw [String.toList_ofList] at mem
    exact mem_of_unquote? found mem
  | none =>
    rw [inferScalar_of_bare found] at h
    exact mem_of_inferBare_eq_text h mem

theorem mem_of_mem_pieces {piece : List Char} (h : piece ∈ pieces cs) {c : Char} (mem : c ∈ piece) :
    c ∈ cs ∧ c ≠ ',' := by
  obtain ⟨whole, split, rfl⟩ := List.mem_map.1 (List.mem_filter.1 h).1
  exact Text.mem_of_mem_splitOn split (Text.mem_of_mem_trim mem)

theorem isElement_of_mem_pieces {piece : List Char} (h : InLine cs) (mem : piece ∈ pieces cs) :
    IsElement True (inferScalar piece) where
  isScalar := isScalar_inferScalar (h.mono fun _ inPiece => (mem_of_mem_pieces mem inPiece).1)
  noComma _ spelled comma :=
    (mem_of_mem_pieces mem (mem_of_inferScalar_eq_text spelled comma)).2 rfl

/-- A raw value of a line spells a value. -/
theorem isIniValue_infer (h : InLine raw.toList) : IsIniValue True (infer raw) := by
  cases found : unquote? (trim raw.toList) with
  | some inside =>
    rw [infer_of_quoted found]
    exact .scalar (isScalar_text_of_unquote? h.trim found)
  | none =>
    by_cases comma : ',' ∈ trim raw.toList
    · rw [infer_of_comma found comma]
      refine .array fun v mem => ?_
      obtain ⟨piece, inPieces, rfl⟩ := List.mem_map.1 mem
      exact isElement_of_mem_pieces h.trim inPieces
    · rw [infer_of_no_comma found comma]
      exact .scalar (isScalar_inferScalar h.trim)

end TypedSettings.Ini
