import Mathlib.Data.List.Basic
import TypedSettings.Proofs.Ini.Assignments
import TypedSettings.Proofs.Ini.Lines
import TypedSettings.Proofs.Ini.Spelling

/-!
# Lines of written documents

A document is written as a header for each group and an assignment for each item. When its names
and values can stand in INI text, each line is read as what it was written for, and the lines
assign exactly the settings of the document.
-/

namespace TypedSettings.Ini
set_option autoImplicit false

/-- The names and the values of a document can stand in INI text, with floats or without. -/
def IsIniDocument (floats : Prop) (d : Document) : Prop :=
  ∀ k v, d.find? k = some v →
    IsField k.group.name.toList ∧ IsItemName k.item.toList ∧ IsIniValue floats v

theorem isIniDocument_ofList {floats : Prop} {es : List (Key × Value)}
    (h : ∀ e ∈ es,
      IsField e.1.group.name.toList ∧ IsItemName e.1.item.toList ∧ IsIniValue floats e.2) :
    IsIniDocument floats (.ofList es) := by
  intro k v held
  rw [Document.find?_ofList] at held
  exact h _ (mem_of_lookup_reverse held)

/-! ## The lines of a written document -/

/-- The text of a header. -/
def headerText (g : Group) : List Char := '[' :: (g.name.toList ++ [']'])

/-- The text of an assignment. -/
def assignmentText (item : String) (v : Value) : List Char :=
  item.toList ++ [' ', '=', ' '] ++ (writeValue v).toList

/-- The texts of the lines that are written for a group. -/
def groupTexts (d : Document) (g : Group) : List (List Char) :=
  headerText g :: (d.items g).map fun e => assignmentText e.1 e.2

/-- What an item and its value are read as. -/
def pair (item : String) (v : Value) : List Char × Option (List Char) :=
  (item.toList, some (writeValue v).toList)

/-- What the lines that are written for a group say. -/
def groupLines (d : Document) (g : Group) : List Line :=
  .header g.name.toList :: ((d.items g).map fun e => pair e.1 e.2).map fun e => .assignment e.1 e.2

/-- What the lines of a written document say; the last of them is empty. -/
def writtenLines (d : Document) : List Line := d.groups.flatMap (groupLines d) ++ [.blank]

variable {d : Document}

theorem toList_writeAssignment (item : String) (v : Value) :
    (writeAssignment item v).toList = assignmentText item v ++ ['\n'] := by
  rw [writeAssignment, String.toList_append, String.toList_append, String.toList_append,
    assignmentText]
  rfl

theorem toList_writeGroup (d : Document) (g : Group) :
    (writeGroup d g).toList = (groupTexts d g).flatMap fun text => text ++ ['\n'] := by
  have header : ("[" ++ g.name ++ "]\n").toList = headerText g ++ ['\n'] := by
    rw [String.toList_append, String.toList_append, headerText]
    show '[' :: (g.name.toList ++ ([']'] ++ ['\n'])) = '[' :: (g.name.toList ++ [']'] ++ ['\n'])
    rw [List.append_assoc]
  rw [writeGroup, String.toList_append, header, String.toList_join, groupTexts, List.flatMap_cons,
    List.flatMap_map, List.flatMap_map]
  simp only [toList_writeAssignment]

theorem toList_write (d : Document) :
    (write d).toList = (d.groups.flatMap (groupTexts d)).flatMap fun text => text ++ ['\n'] := by
  rw [write, String.toList_join, List.flatMap_map, List.flatMap_assoc]
  simp only [toList_writeGroup]

/-- The groups and items that are written have names and values that can stand in INI text. -/
theorem IsIniDocument.of_mem_items {floats : Prop} (h : IsIniDocument floats d) {g : Group}
    {e : String × Value} (mem : e ∈ d.items g) :
    IsItemName e.1.toList ∧ IsIniValue floats e.2 := by
  obtain ⟨-, item, value⟩ := h _ _ (Document.mem_items_iff.1 mem)
  exact ⟨item, value⟩

theorem IsIniDocument.of_mem_groups {floats : Prop} (h : IsIniDocument floats d) {g : Group}
    (mem : g ∈ d.groups) : IsField g.name.toList := by
  obtain ⟨item, v, found⟩ := Document.mem_groups_iff.1 mem
  exact (h _ _ found).1

/-- Each text that is written is read as what it was written for. -/
theorem IsIniDocument.read_groupTexts (h : IsIniDocument False d) {g : Group}
    (mem : g ∈ d.groups) : (groupTexts d g).map Line.read = (groupLines d g).map .ok := by
  have header := Line.read_header (h.of_mem_groups mem)
  rw [groupTexts, groupLines, List.map_cons, List.map_cons, headerText, header, List.map_map,
    List.map_map, List.map_map]
  refine congrArg (List.cons _) (List.map_congr_left fun e mem => ?_)
  obtain ⟨item, value⟩ := h.of_mem_items mem
  simp only [Function.comp_apply]
  rw [assignmentText, pair, Line.read_assignment item value.isField]

/-- No text that is written has a line feed of its own. -/
theorem IsIniDocument.newline_not_mem (h : IsIniDocument False d) {g : Group}
    (mem : g ∈ d.groups) : ∀ text ∈ groupTexts d g, '\n' ∉ text := by
  have outside : ∀ {cs : List Char}, InLine cs → '\n' ∉ cs := fun inLine mem => (inLine _ mem).1 rfl
  intro text inGroup
  rcases List.mem_cons.1 inGroup with rfl | inItems
  · have name := outside (h.of_mem_groups mem).inLine
    simp [headerText, name]
  · obtain ⟨e, isItem, rfl⟩ := List.mem_map.1 inItems
    obtain ⟨item, value⟩ := h.of_mem_items isItem
    have itemOutside := outside item.inLine
    have valueOutside := outside value.isField.inLine
    simp [assignmentText, itemOutside, valueOutside]

/-- The lines of a written document are read as what they were written for. -/
theorem IsIniDocument.read_lines (h : IsIniDocument False d) :
    (lines (write d)).map Line.read = (writtenLines d).map .ok := by
  have inside : ∀ text ∈ d.groups.flatMap (groupTexts d), '\n' ∉ text := by
    intro text mem
    obtain ⟨g, isGroup, inGroup⟩ := List.mem_flatMap.1 mem
    exact h.newline_not_mem isGroup text inGroup
  rw [lines, toList_write, Text.splitOn_flatMap_append inside, writtenLines, List.map_append,
    List.map_append, List.map_flatMap, List.map_flatMap]
  rw [List.flatMap_congr fun g mem => h.read_groupTexts mem]
  rfl

/-! ## What the lines assign -/

/-- The lines of groups assign the items of each group under its name. -/
theorem assignments_writtenLines (d : Document) (current : String) :
    assignments current (writtenLines d) =
      d.groups.flatMap fun g =>
        (d.items g).map fun e => ((g.name, e.1), some (writeValue e.2)) := by
  unfold writtenLines
  generalize d.groups = gs
  induction gs generalizing current with
  | nil => rfl
  | cons g gs ih =>
    rw [List.flatMap_cons, List.flatMap_cons, List.append_assoc, groupLines, List.cons_append,
      assignments, assignments_append, String.ofList_toList, ih, List.map_map]
    refine congrArg (· ++ _) (List.map_congr_left fun e _ => ?_)
    show ((g.name, String.ofList e.1.toList), some (String.ofList (writeValue e.2).toList)) = _
    rw [String.ofList_toList, String.ofList_toList]

/-- The lines assign the settings of the document and nothing else. -/
theorem mem_assignments_writtenLines {current name item : String} {raw : Option String} :
    ((name, item), raw) ∈ assignments current (writtenLines d) ↔
      ∃ g v, d.find? ⟨g, item⟩ = some v ∧ g.name = name ∧ some (writeValue v) = raw := by
  rw [assignments_writtenLines]
  constructor
  · intro mem
    obtain ⟨g, -, inGroup⟩ := List.mem_flatMap.1 mem
    obtain ⟨⟨i, v⟩, isItem, same⟩ := List.mem_map.1 inGroup
    obtain ⟨names, rawRead⟩ := Prod.mk.inj same
    obtain ⟨nameRead, itemRead⟩ := Prod.mk.inj names
    obtain rfl : i = item := itemRead
    exact ⟨g, v, Document.mem_items_iff.1 isItem, nameRead, rawRead⟩
  · rintro ⟨g, v, found, rfl, rfl⟩
    exact List.mem_flatMap.2 ⟨g, Document.mem_groups_iff.2 ⟨item, v, found⟩,
      List.mem_map.2 ⟨(item, v), Document.mem_items_iff.2 found, rfl⟩⟩

/-- No two lines assign to one key. -/
theorem functional_assignments_writtenLines (d : Document) (current : String) :
    Functional (assignments current (writtenLines d)) := by
  rintro ⟨name, item⟩ raw raw' first second
  obtain ⟨g, v, found, gName, rfl⟩ := mem_assignments_writtenLines.1 first
  obtain ⟨h, w, found', hName, rfl⟩ := mem_assignments_writtenLines.1 second
  obtain rfl : g = h := Group.ext_name (gName.trans hName.symm)
  rw [Option.some.inj (found.symm.trans found')]

end TypedSettings.Ini
