import TypedSettings.Proofs.Ini.Documents
import TypedSettings.Proofs.Ini.Written

/-!
# Written and read documents

Reading inverts writing. A document with names and values that INI text can hold is read back from
its own text, and whatever text is read gives such a document, up to floats: there is none in a
written document, while numerals of a text may be read as some.
-/

namespace TypedSettings.Ini
set_option autoImplicit false

open Text (Tight)

variable {d : Document} {v : Value}

/-! ## What is written is read back -/

theorem raw?_writtenLines {name item : String} {raw : Option String} :
    ((writtenLines d).foldl Reading.add .start).sections.raw? (name, item) = some raw ↔
      ∃ g v, d.find? ⟨g, item⟩ = some v ∧ g.name = name ∧ some (writeValue v) = raw := by
  rw [raw?_foldl_start, lookup_reverse_eq_some_iff (functional_assignments_writtenLines d _)]
  exact mem_assignments_writtenLines

/-- Each written section has a name. -/
theorem keepsApart_writtenLines (d : Document) :
    KeepsApart ((writtenLines d).foldl Reading.add .start).sections := by
  intro item raw other found
  obtain ⟨g, -, -, unnamed, -⟩ := raw?_writtenLines.1 found
  exact absurd unnamed g.name_ne_empty

theorem IsIniDocument.ofSections_eq (h : IsIniDocument False d) :
    ofSections ((writtenLines d).foldl Reading.add .start).sections = d := by
  apply Document.ext_find?
  intro k
  apply Option.ext
  intro v
  rw [(keepsApart_writtenLines d).find?_ofSections]
  constructor
  · rintro ⟨name, item, raw, found, rfl, rfl⟩
    obtain ⟨g, w, held, rfl, rfl⟩ := raw?_writtenLines.1 found
    have value := (h _ _ held).2.2
    show d.find? (Key.of g.name item) = some (infer (writeValue w))
    rw [Key.of, Group.of_name, value.infer_writeValue, held]
  · intro held
    have value := (h _ _ held).2.2
    exact ⟨k.group.name, k.item, some (writeValue v),
      raw?_writtenLines.2 ⟨k.group, v, held, rfl, rfl⟩, Key.of_group_item k,
      value.infer_writeValue⟩

theorem IsIniDocument.read_write (h : IsIniDocument False d) : read (write d) = .ok d :=
  read_eq_ok_iff.2 ⟨writtenLines d, h.read_lines, h.ofSections_eq.symm⟩

/-! ## What is read can be written -/

/-- The lines of a text have no line feed, so what they say can be written again. -/
theorem isProper_of_mem {text : String} {ls : List Line}
    (all : (lines text).map Line.read = ls.map .ok) {line : Line} (mem : line ∈ ls) :
    line.IsProper := by
  have said : Except.ok line ∈ (lines text).map Line.read := by
    rw [all]
    exact List.mem_map.2 ⟨line, mem, rfl⟩
  obtain ⟨cs, inText, read⟩ := List.mem_map.1 said
  refine Line.isProper_of_read (fun newline => ?_) read
  exact (Text.mem_of_mem_splitOn inText newline).2 rfl

/-- A section without a name belongs to the default group, so each group has a name. -/
theorem isField_of_tight {cs : List Char} (tight : Tight cs) (inLine : InLine cs) :
    IsField (Group.of (String.ofList cs)).name.toList := by
  by_cases unnamed : String.ofList cs = ""
  · rw [unnamed, Group.of_empty, Group.name_of_defaultGroupName]
    decide
  · rw [Group.name_of unnamed, String.toList_ofList]
    refine ⟨fun empty => unnamed ?_, tight.trim_eq, inLine⟩
    rw [empty]

theorem isIniDocument_of_read {text : String} (h : read text = .ok d) : IsIniDocument True d := by
  obtain ⟨ls, all, rfl⟩ := read_eq_ok_iff.1 h
  intro k v held
  obtain ⟨name, item, raw, found, rfl, rfl⟩ := exists_raw?_of_find? held
  rw [raw?_foldl_start] at found
  obtain ⟨opened, key, value, assigned, rfl, rfl⟩ := mem_assignments (mem_of_lookup_reverse found)
  obtain ⟨itemName, values⟩ := isProper_of_mem all assigned
  refine ⟨?_, ?_, ?_⟩
  · rcases opened with rfl | ⟨cs, header, rfl⟩
    · show IsField (Group.of defaultGroupName).name.toList
      decide
    · obtain ⟨tight, inLine⟩ := isProper_of_mem all header
      exact isField_of_tight tight inLine
  · show IsItemName (String.ofList key).toList
    rwa [String.toList_ofList]
  · apply isIniValue_infer
    cases value with
    | none =>
      show InLine "".toList
      decide
    | some raw =>
      show InLine (String.ofList raw).toList
      rw [String.toList_ofList]
      exact values raw rfl

/-! ## Floats -/

/-- Neither a float nor an array with a float among its elements. -/
def HasNoFloat (v : Value) : Prop :=
  ∀ number, v ≠ .float number ∧ ∀ elements, v = .array elements → .float number ∉ elements

theorem IsScalar.withoutFloat (h : IsScalar True v) (noFloat : ∀ number, v ≠ .float number) :
    IsScalar False v := by
  cases h with
  | text inLine => exact .text inLine
  | integer number => exact .integer number
  | boolean truth => exact .boolean truth
  | float _ number => exact absurd rfl (noFloat number)

theorem IsIniValue.withoutFloat (h : IsIniValue True v) (noFloat : HasNoFloat v) :
    IsIniValue False v := by
  cases h with
  | scalar isScalar => exact .scalar (isScalar.withoutFloat fun number => (noFloat number).1)
  | array isElement =>
    refine .array fun v mem => ⟨(isElement v mem).isScalar.withoutFloat ?_, (isElement v mem).noComma⟩
    rintro number rfl
    exact (noFloat number).2 _ rfl mem

theorem IsScalar.ne_float (h : IsScalar False v) (number : Binary64) : v ≠ .float number := by
  rintro rfl
  cases h with
  | float allowed => exact allowed

theorem IsIniValue.hasNoFloat (h : IsIniValue False v) : HasNoFloat v := by
  intro number
  cases h with
  | scalar isScalar =>
    refine ⟨isScalar.ne_float number, ?_⟩
    rintro elements rfl
    cases isScalar
  | array isElement =>
    refine ⟨by rintro ⟨⟩, ?_⟩
    intro elements same mem
    obtain rfl := Value.array.inj same
    exact (isElement _ mem).isScalar.ne_float number rfl

/-! ## The round trip -/

/-- Reading inverts writing on the documents without floats whose names and values INI text can
hold. Up to floats these are all documents that are read: the documents without floats that some
text is read as are exactly those that are read back from what is written for them. -/
theorem read_inverts_write :
    (∀ d, IsIniDocument False d → read (write d) = .ok d) ∧
    (∀ text d, read text = .ok d → IsIniDocument True d) ∧
    ∀ d, IsIniDocument False d ↔
      (∃ text, read text = .ok d) ∧ ∀ k v, d.find? k = some v → HasNoFloat v := by
  refine ⟨fun d h => h.read_write, fun text d h => isIniDocument_of_read h, fun d => ?_⟩
  constructor
  · intro h
    exact ⟨⟨write d, h.read_write⟩, fun k v held => (h k v held).2.2.hasNoFloat⟩
  · rintro ⟨⟨text, h⟩, noFloats⟩ k v held
    obtain ⟨group, item, value⟩ := isIniDocument_of_read h k v held
    exact ⟨group, item, value.withoutFloat (noFloats k v held)⟩

/-- Settings in the default group and in a group with brackets in its name: a text that looks like
a list, a key with a bracket, an array of texts and other scalars, and an array without elements. -/
def sample : List (Key × Value) :=
  [(Key.of "" "note", .text " 1, true "),
    (Key.of "a]b [c" "x]", .array [.text "\"no\"", .integer (-5), .boolean true]),
    (Key.of "a]b [c" "none", .array [])]

theorem isIniDocument_sample : IsIniDocument False (.ofList sample) := by
  apply isIniDocument_ofList
  have elements : ∀ v ∈ [Value.text "\"no\"", .integer (-5), .boolean true], IsElement False v := by
    intro v mem
    rcases List.mem_cons.1 mem with rfl | mem
    · refine ⟨.text (by decide), fun content same => ?_⟩
      rw [← Value.text.inj same]
      decide
    rcases List.mem_cons.1 mem with rfl | mem
    · exact ⟨.integer _, fun content same => by cases same⟩
    · obtain rfl := List.mem_singleton.1 mem
      exact ⟨.boolean _, fun content same => by cases same⟩
  intro e mem
  rcases List.mem_cons.1 mem with rfl | mem
  · exact ⟨by decide, by decide, .scalar (.text (by decide))⟩
  rcases List.mem_cons.1 mem with rfl | mem
  · exact ⟨by decide, by decide, .array elements⟩
  · obtain rfl := List.mem_singleton.1 mem
    exact ⟨by decide, by decide, .array fun v none => by cases none⟩

/-- The sample is read back from its text, and as a document that was read it is writable. -/
theorem read_inverts_write_sample :
    IsIniDocument False (.ofList sample) ∧ read (write (.ofList sample)) = .ok (.ofList sample) ∧
      IsIniDocument True (.ofList sample) :=
  have readBack := read_inverts_write.1 _ isIniDocument_sample
  ⟨isIniDocument_sample, readBack, read_inverts_write.2.1 _ _ readBack⟩

end TypedSettings.Ini
