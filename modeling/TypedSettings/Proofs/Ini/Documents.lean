import TypedSettings.Ini.Reader
import TypedSettings.Proofs.Enumerations
import TypedSettings.Proofs.Ini.Assignments

/-!
# Documents of sections

A document of sections holds nothing but the values of their raw values. When the section without
a name and the default section share no key, no two raw values belong to one key, and the document
holds the value of each of them.
-/

namespace TypedSettings.Ini
set_option autoImplicit false

/-- The settings of sections, in the order of the sections. -/
def settings (sections : List (String × List (String × Option String))) : List (Key × Value) :=
  sections.flatMap fun s => s.2.map fun e => (Key.of s.1 e.1, infer (e.2.getD ""))

theorem ofSectionList_eq_ofList (sections : List (String × List (String × Option String))) :
    ofSectionList sections = Document.ofList (settings sections) := by
  rw [← Document.foldl_set_empty, settings, List.foldl_flatMap, ofSectionList]
  simp only [setSection, List.foldl_map]

/-- They are the values that come up, under the keys that their names stand for. -/
theorem settings_eq_map (sections : List (String × List (String × Option String))) :
    settings sections =
      (OrderedMap.paired sections).map fun e => (Key.of e.1.1 e.1.2, infer (e.2.getD "")) := by
  rw [settings, OrderedMap.paired, List.map_flatMap]
  simp only [List.map_map]
  rfl

variable {sections : Sections} {l : List (String × List (String × Option String))} {k : Key}
  {v : Value}

/-- The settings of sections in any order are the values of their raw values. -/
theorem mem_settings_iff (h : sections.EnumeratedBy l) :
    (k, v) ∈ settings l ↔
      ∃ name item raw, sections.raw? (name, item) = some raw ∧ Key.of name item = k ∧
        infer (raw.getD "") = v := by
  rw [settings_eq_map, List.mem_map]
  constructor
  · rintro ⟨⟨⟨name, item⟩, raw⟩, mem, same⟩
    obtain ⟨sameKey, sameValue⟩ := Prod.mk.inj same
    exact ⟨name, item, raw, h.mem_paired_iff.1 mem, sameKey, sameValue⟩
  · rintro ⟨name, item, raw, found, rfl, rfl⟩
    exact ⟨((name, item), raw), h.mem_paired_iff.2 found, rfl⟩

/-- A document of sections holds nothing but the values of their raw values. -/
theorem exists_raw?_of_find? (h : (ofSections sections).find? k = some v) :
    ∃ name item raw, sections.raw? (name, item) = some raw ∧ Key.of name item = k ∧
      infer (raw.getD "") = v := by
  rw [ofSections, ofSectionList_eq_ofList, Document.find?_ofList] at h
  exact (mem_settings_iff sections.enumeratedBy_entries).1 (mem_of_lookup_reverse h)

/-- The section without a name and the default section share no key. -/
def KeepsApart (sections : Sections) : Prop :=
  ∀ item raw other, sections.raw? ("", item) = some raw →
    sections.raw? (defaultGroupName, item) ≠ some other

/-- In sections that keep apart a key belongs to one section. -/
theorem KeepsApart.name_eq (apart : KeepsApart sections) {name other item : String}
    {raw rest : Option String} (here : sections.raw? (name, item) = some raw)
    (there : sections.raw? (other, item) = some rest) (same : Group.of name = Group.of other) :
    name = other := by
  rw [Group.of_eq_of_iff] at same
  split at same
  · next unnamed =>
    split at same
    · next otherUnnamed => rw [unnamed, otherUnnamed]
    · subst unnamed
      rw [← same] at there
      exact absurd there (apart item raw rest here)
  · split at same
    · next otherUnnamed =>
      subst otherUnnamed
      rw [same] at here
      exact absurd here (apart item rest raw there)
    · exact same

theorem KeepsApart.functional (apart : KeepsApart sections) (h : sections.EnumeratedBy l) :
    Functional (settings l) := by
  intro k v w first second
  obtain ⟨name, item, raw, found, rfl, rfl⟩ := (mem_settings_iff h).1 first
  obtain ⟨other, item', rest, found', same, rfl⟩ := (mem_settings_iff h).1 second
  obtain ⟨rfl, sameGroup⟩ := Key.of_eq_of_iff.1 same
  obtain rfl := apart.name_eq found' found sameGroup
  obtain rfl := Option.some.inj (found.symm.trans found')
  rfl

/-- The document of sections that keep apart holds the value of each raw value, whatever the order of
the sections is. -/
theorem KeepsApart.find?_ofSectionList (apart : KeepsApart sections) (h : sections.EnumeratedBy l) :
    (ofSectionList l).find? k = some v ↔
      ∃ name item raw, sections.raw? (name, item) = some raw ∧ Key.of name item = k ∧
        infer (raw.getD "") = v := by
  rw [ofSectionList_eq_ofList, Document.find?_ofList_eq_some_iff (apart.functional h)]
  exact mem_settings_iff h

/-- A document of sections that keep apart holds the value of each raw value. -/
theorem KeepsApart.find?_ofSections (apart : KeepsApart sections) :
    (ofSections sections).find? k = some v ↔
      ∃ name item raw, sections.raw? (name, item) = some raw ∧ Key.of name item = k ∧
        infer (raw.getD "") = v :=
  apart.find?_ofSectionList sections.enumeratedBy_entries

/-- A value that was read comes from a raw text. -/
theorem exists_infer_of_find? (h : (ofSections sections).find? k = some v) :
    ∃ raw, infer raw = v := by
  obtain ⟨-, -, raw, -, -, inferred⟩ := exists_raw?_of_find? h
  exact ⟨raw.getD "", inferred⟩

/-- A text is read as a document when each of its lines can be read. -/
theorem read_eq_ok_iff {text : String} {d : Document} :
    read text = .ok d ↔
      ∃ ls : List Line, (lines text).map Line.read = ls.map .ok ∧
        d = ofSections (ls.foldl Reading.add Reading.start).sections := by
  unfold read
  cases found : readSections text with
  | error fault =>
    constructor
    · intro done
      cases done
    · rintro ⟨ls, all, -⟩
      rw [readSections_eq_ok_iff.2 ⟨ls, all, rfl⟩] at found
      cases found
  | ok sections =>
    obtain ⟨ls, all, rfl⟩ := readSections_eq_ok_iff.1 found
    constructor
    · intro done
      exact ⟨ls, all, (Except.ok.inj done).symm⟩
    · rintro ⟨ls', all', rfl⟩
      rw [readSections_eq_ok_iff.2 ⟨ls', all', rfl⟩] at found
      rw [Except.ok.inj found]

end TypedSettings.Ini
