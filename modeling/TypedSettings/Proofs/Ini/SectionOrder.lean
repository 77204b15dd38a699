import TypedSettings.Proofs.Document.Listing
import TypedSettings.Proofs.Ini.Documents

/-!
# The order of sections

The sections of a text are a map without an order of its own, and so are the keys of a section. A
document can be filled from them in any order, and it is always the same as long as the section
without a name and the default section share no key. Without this condition the order shows.
-/

namespace TypedSettings.Ini
set_option autoImplicit false

variable {sections : Sections} {l : List (String × List (String × Option String))} {k : Key}
  {v : Value} {g : Group} {name other item : String} {raw rest : Option String}

/-! ## Sections that keep apart -/

/-- Raw values under different names are settings under different keys. -/
theorem KeepsApart.nodup_settings (apart : KeepsApart sections) (h : sections.EnumeratedBy l) :
    ((settings l).map Prod.fst).Nodup := by
  have keys : (settings l).map Prod.fst =
      ((OrderedMap.paired l).map Prod.fst).map fun n => Key.of n.1 n.2 := by
    rw [settings_eq_map, List.map_map, List.map_map]
    rfl
  rw [keys]
  refine List.Nodup.map_on ?_ h.nodup_paired
  intro first inFirst second inSecond same
  obtain ⟨⟨⟨name, item⟩, raw⟩, mem, rfl⟩ := List.mem_map.1 inFirst
  obtain ⟨⟨⟨other, item'⟩, rest⟩, mem', rfl⟩ := List.mem_map.1 inSecond
  obtain ⟨rfl, sameGroup⟩ := Key.of_eq_of_iff.1 same
  rw [apart.name_eq (h.mem_paired_iff.1 mem) (h.mem_paired_iff.1 mem') sameGroup]

/-- The document has as many settings as the sections have keys. -/
theorem KeepsApart.size_ofSectionList (apart : KeepsApart sections) (h : sections.EnumeratedBy l) :
    (ofSectionList l).size = sections.innerSize := by
  have held : ∀ k, k ∈ ((settings l).map Prod.fst).toFinset ↔
      ∃ v, (ofSectionList l).find? k = some v := by
    intro k
    rw [List.mem_toFinset, List.mem_map, ofSectionList_eq_ofList]
    simp only [Document.find?_ofList_eq_some_iff (apart.functional h)]
    constructor
    · rintro ⟨⟨k, v⟩, mem, rfl⟩
      exact ⟨v, mem⟩
    · rintro ⟨v, mem⟩
      exact ⟨(k, v), mem, rfl⟩
  rw [Document.size_eq_card held, List.toFinset_card_of_nodup (apart.nodup_settings h),
    List.length_map, settings_eq_map, List.length_map, h.length_paired]

/-- A group comes from a section with a key. -/
theorem KeepsApart.mem_groups_iff (apart : KeepsApart sections) (h : sections.EnumeratedBy l) :
    g ∈ (ofSectionList l).groups ↔
      ∃ name entries, sections.find? name = some entries ∧ Group.of name = g ∧
        0 < entries.size := by
  rw [Document.mem_groups_iff]
  simp only [apart.find?_ofSectionList h]
  constructor
  · rintro ⟨item, v, name, item', raw, held, same, -⟩
    obtain ⟨entries, found, holds⟩ := Option.bind_eq_some_iff.1 held
    refine ⟨name, entries, found, congrArg Key.group same, ?_⟩
    exact List.length_pos_of_mem (OrderedMap.find?_eq_some_iff_mem.1 holds)
  · rintro ⟨name, entries, found, rfl, filled⟩
    obtain ⟨⟨item, raw⟩, isEntry⟩ := List.exists_mem_of_length_pos filled
    have holds : entries.find? item = some raw := OrderedMap.find?_eq_some_iff_mem.2 isEntry
    have held : sections.raw? (name, item) = some raw :=
      Option.bind_eq_some_iff.2 ⟨entries, found, holds⟩
    exact ⟨item, _, name, item, raw, held, rfl, rfl⟩

/-- The document of sections that keep apart is the same for every order of the sections and of the
keys in each of them. It holds the value of the raw text of each key, of the empty text when a key
has none, under the key's name in the group that the section's name stands for, and it holds nothing
else. There are as many settings as keys, and a section without keys makes no group. -/
theorem document_of_sections_in_any_order (apart : KeepsApart sections) :
    (∀ l l', sections.EnumeratedBy l → sections.EnumeratedBy l' →
      ofSectionList l = ofSectionList l') ∧
    ∀ l, sections.EnumeratedBy l →
      (∀ k v, (ofSectionList l).find? k = some v ↔
        ∃ name item raw, sections.raw? (name, item) = some raw ∧ Key.of name item = k ∧
          infer (raw.getD "") = v) ∧
      (ofSectionList l).size = sections.innerSize ∧
      ∀ g, g ∈ (ofSectionList l).groups ↔
        ∃ name entries, sections.find? name = some entries ∧ Group.of name = g ∧
          0 < entries.size := by
  refine ⟨fun l l' h h' => ?_, fun l h => ⟨fun k v => apart.find?_ofSectionList h,
    apart.size_ofSectionList h, fun g => apart.mem_groups_iff h⟩⟩
  apply Document.ext_find?
  intro k
  apply Option.ext
  intro v
  rw [apart.find?_ofSectionList h, apart.find?_ofSectionList h']

/-- Sections with keys outside any section, with an empty section and with a key without a value. -/
def mixedSections : Sections :=
  .ofList [("", .ofList [("verbose", some "yes")]), (defaultGroupName, .ofList [("host", none)]),
    ("empty", .ofList []), ("net", .ofList [("hosts", some "a, b"), ("wait", some "1.5")])]

theorem keepsApart_mixedSections : KeepsApart mixedSections := by
  intro item raw other here there
  have unnamed : mixedSections.find? "" = some (.ofList [("verbose", some "yes")]) := rfl
  have default : mixedSections.find? defaultGroupName = some (.ofList [("host", none)]) := rfl
  rw [Sections.raw?, OrderedMap.inner?, unnamed, Option.bind_some, OrderedMap.find?_ofList] at here
  rw [Sections.raw?, OrderedMap.inner?, default, Option.bind_some, OrderedMap.find?_ofList] at there
  obtain ⟨rfl, -⟩ := Prod.mk.inj (List.mem_singleton.1 (mem_of_lookup_reverse here))
  obtain ⟨same, -⟩ := Prod.mk.inj (List.mem_singleton.1 (mem_of_lookup_reverse there))
  exact absurd same (by decide)

/-- The sections in another order than that of their names. -/
def mixedOrder : List (String × List (String × Option String)) :=
  [("net", [("wait", some "1.5"), ("hosts", some "a, b")]), (defaultGroupName, [("host", none)]),
    ("", [("verbose", some "yes")]), ("empty", [])]

theorem enumeratedBy_mixedOrder : mixedSections.EnumeratedBy mixedOrder where
  outer := by decide
  inner := by
    simp only [mixedOrder, List.forall_mem_cons]
    exact ⟨⟨_, rfl, by decide⟩, ⟨_, rfl, by decide⟩, ⟨_, rfl, by decide⟩, ⟨_, rfl, by decide⟩, nofun⟩

/-- The document is the one that the sections make in the order of their names. -/
theorem document_of_mixedSections :
    KeepsApart mixedSections ∧ mixedSections.EnumeratedBy mixedOrder ∧
    ofSectionList mixedOrder = ofSections mixedSections ∧
    (ofSectionList mixedOrder).size = 4 ∧
    (ofSectionList mixedOrder).find? (.of "" "host") = some (.text "") := by
  have ⟨same, each⟩ := document_of_sections_in_any_order keepsApart_mixedSections
  have ⟨find?_iff, size, _⟩ := each mixedOrder enumeratedBy_mixedOrder
  refine ⟨keepsApart_mixedSections, enumeratedBy_mixedOrder,
    same _ _ enumeratedBy_mixedOrder mixedSections.enumeratedBy_entries, size, ?_⟩
  exact (find?_iff _ _).2 ⟨defaultGroupName, "host", none, rfl, rfl, rfl⟩

/-! ## Sections that share a key -/

/-- Any section can be the last one. -/
theorem exists_enumeratedBy_concat {entries : OrderedMap String (Option String)}
    (found : sections.find? name = some entries) :
    ∃ front, sections.EnumeratedBy (front ++ [(name, entries.entries)]) := by
  obtain ⟨before, after, split⟩ := List.append_of_mem (OrderedMap.find?_eq_some_iff_mem.1 found)
  have listed := sections.enumeratedBy_entries
  rw [split, List.map_append, List.map_cons] at listed
  refine ⟨(before ++ after).map fun e => (e.1, e.2.entries), listed.perm ?_⟩
  rw [List.map_append]
  exact (List.perm_append_singleton _ _).trans List.perm_middle.symm

/-- The values of the last section are those that the document holds. -/
theorem find?_ofSectionList_concat (front : List (String × List (String × Option String)))
    (name : String) {entries : OrderedMap String (Option String)}
    (held : entries.find? item = some raw) :
    (ofSectionList (front ++ [(name, entries.entries)])).find? (.of name item) =
      some (infer (raw.getD "")) := by
  have functional : Functional (settings [(name, entries.entries)]) := by
    intro k v w first second
    rw [settings, List.flatMap_singleton] at first second
    obtain ⟨e, isEntry, same⟩ := List.mem_map.1 first
    obtain ⟨f, isEntry', same'⟩ := List.mem_map.1 second
    obtain ⟨rfl, rfl⟩ := Prod.mk.inj same
    obtain ⟨sameKey, rfl⟩ := Prod.mk.inj same'
    have sameItem : f.1 = e.1 := (Key.of_eq_of_iff.1 sameKey).1
    have value := OrderedMap.find?_eq_some_iff_mem.2 isEntry
    have value' := OrderedMap.find?_eq_some_iff_mem.2 isEntry'
    rw [sameItem, value] at value'
    rw [Option.some.inj value']
  have mem : (Key.of name item, infer (raw.getD "")) ∈ settings [(name, entries.entries)] := by
    rw [settings, List.flatMap_singleton]
    exact List.mem_map.2 ⟨(item, raw), OrderedMap.find?_eq_some_iff_mem.1 held, rfl⟩
  rw [ofSectionList_eq_ofList, settings, List.flatMap_append, Document.find?_ofList,
    List.reverse_append, List.lookup_append]
  exact Option.or_eq_some_iff.2 (.inl ((lookup_reverse_eq_some_iff functional).2 mem))

/-- If the section without a name and the default section have different values under one key, the
document depends on which of them comes last. -/
theorem exists_orders_differ (here : sections.raw? ("", item) = some raw)
    (there : sections.raw? (defaultGroupName, item) = some rest)
    (differ : infer (raw.getD "") ≠ infer (rest.getD "")) :
    ∃ l l', sections.EnumeratedBy l ∧ sections.EnumeratedBy l' ∧
      ofSectionList l ≠ ofSectionList l' := by
  obtain ⟨entries, found, held⟩ := Option.bind_eq_some_iff.1 here
  obtain ⟨entries', found', held'⟩ := Option.bind_eq_some_iff.1 there
  obtain ⟨front, listed⟩ := exists_enumeratedBy_concat found
  obtain ⟨front', listed'⟩ := exists_enumeratedBy_concat found'
  refine ⟨_, _, listed, listed', fun same => differ ?_⟩
  have unnamed := find?_ofSectionList_concat front "" held
  have default := find?_ofSectionList_concat front' defaultGroupName held'
  have sameKey : Key.of "" item = Key.of defaultGroupName item := rfl
  rw [same, sameKey, default] at unnamed
  exact (Option.some.inj unnamed).symm

end TypedSettings.Ini
