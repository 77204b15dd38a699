import TypedSettings.Proofs.Files.Canonical

/-!
# What is read where a path leads

What a path leads to is told by the entry there: a text can be read from a file that is readable, not
too large and in UTF-8, and from nothing else. Reading under a path finds this, and so does reading
under the canonical place that the path was resolved to.
-/

namespace TypedSettings.FileTree
set_option autoImplicit false

/-- What is to be read in a tree, given where a path leads or why it leads nowhere: the text of a
file, or the reason why there is none. -/
inductive Finds (t : FileTree) :
    Except FileFault (List String) → Except FileFault String → Prop where
  | lost {cause : FileFault} : Finds t (.error cause) (.error cause)
  | missing {place : List String} (free : t.find? place = none) :
      Finds t (.ok place) (.error (.system .notFound))
  | directory {place : List String} {entries : List (String × Entry)}
      (directory : t.find? place = some (.directory entries)) :
      Finds t (.ok place) (.error (.system .isADirectory))
  | tooLarge {place : List String} {bytes : ByteArray} {readable : Bool}
      (file : t.find? place = some (.file bytes readable)) (large : fileSizeLimit < bytes.size) :
      Finds t (.ok place) (.error (.tooLarge bytes.size))
  | unreadable {place : List String} {bytes : ByteArray}
      (file : t.find? place = some (.file bytes false)) (small : bytes.size ≤ fileSizeLimit) :
      Finds t (.ok place) (.error (.system .permissionDenied))
  | notUtf8 {place : List String} {bytes : ByteArray}
      (file : t.find? place = some (.file bytes true)) (small : bytes.size ≤ fileSizeLimit)
      (other : ∀ text : String, text.toUTF8 ≠ bytes) : Finds t (.ok place) (.error .notUtf8)
  | text {place : List String} {bytes : ByteArray} {text : String}
      (file : t.find? place = some (.file bytes true)) (small : bytes.size ≤ fileSizeLimit)
      (encoded : text.toUTF8 = bytes) : Finds t (.ok place) (.ok text)

variable {t : FileTree} {located : Except FileFault (List String)} {place names : List String}
  {result : Except FileFault String} {path : String} {bytes : ByteArray}

/-- A text is found at a place only. -/
theorem Finds.exists_place {text : String} (h : t.Finds located (.ok text)) :
    ∃ place, located = .ok place := by
  cases h
  exact ⟨_, rfl⟩

/-! ## Reading bytes -/

theorem fromUTF8?_eq_some_iff {text : String} :
    String.fromUTF8? bytes = some text ↔ text.toUTF8 = bytes := by
  unfold String.fromUTF8?
  split
  · next valid =>
    constructor
    · intro same
      obtain rfl := Option.some.inj same
      rfl
    · rintro rfl
      rfl
  · next invalid =>
    constructor
    · intro none
      cases none
    · rintro rfl
      exact absurd text.isValidUTF8 invalid

theorem readBytes_of_large (large : fileSizeLimit < bytes.size) (readable : Bool) :
    readBytes bytes readable = .error (.tooLarge bytes.size) := if_pos large

theorem readBytes_of_unreadable (small : bytes.size ≤ fileSizeLimit) :
    readBytes bytes false = .error (.system .permissionDenied) := if_neg (Nat.not_lt_of_le small)

theorem readBytes_of_small (small : bytes.size ≤ fileSizeLimit) :
    readBytes bytes true =
      match String.fromUTF8? bytes with
      | some text => .ok text
      | none => .error .notUtf8 := if_neg (Nat.not_lt_of_le small)

/-! ## Reading entries -/

/-- What is to be read is read. -/
theorem Finds.read_eq (h : t.Finds located result) :
    (located.bind fun place => readEntry (t.find? place)) = result := by
  cases h with
  | lost => rfl
  | missing free => rw [Except.bind, free, readEntry]
  | directory directory => rw [Except.bind, directory, readEntry]
  | tooLarge file large => rw [Except.bind, file, readEntry, readBytes_of_large large]
  | unreadable file small => rw [Except.bind, file, readEntry, readBytes_of_unreadable small]
  | notUtf8 file small other =>
    have invalid : String.fromUTF8? _ = none :=
      Option.eq_none_iff_forall_ne_some.2 fun text same => other text (fromUTF8?_eq_some_iff.1 same)
    rw [Except.bind, file, readEntry, readBytes_of_small small, invalid]
  | text file small encoded =>
    rw [Except.bind, file, readEntry, readBytes_of_small small, fromUTF8?_eq_some_iff.2 encoded]

theorem Finds.unique {other : Except FileFault String} (h : t.Finds located result)
    (k : t.Finds located other) : result = other :=
  h.read_eq.symm.trans k.read_eq

/-- Something is to be read wherever a canonical place is, be it a reason for no text. -/
theorem Canonical.exists_finds (h : t.Canonical place) : ∃ result, t.Finds (.ok place) result := by
  cases entry : t.find? place with
  | none => exact ⟨_, .missing entry⟩
  | some e =>
    cases e with
    | directory entries => exact ⟨_, .directory entry⟩
    | link target => exact absurd entry (h.noLink target)
    | file bytes readable =>
      by_cases large : fileSizeLimit < bytes.size
      · exact ⟨_, .tooLarge entry large⟩
      have small := Nat.le_of_not_lt large
      cases readable with
      | false => exact ⟨_, .unreadable entry small⟩
      | true =>
        by_cases utf8 : ∃ text : String, text.toUTF8 = bytes
        · obtain ⟨text, encoded⟩ := utf8
          exact ⟨_, .text entry small encoded⟩
        · exact ⟨_, .notUtf8 entry small (not_exists.1 utf8)⟩

/-- A place in an opened file's path is read as what is there now. -/
theorem finds_readText (t : FileTree) (names : List String) :
    t.Finds (t.locate [] names) (t.readText names) := by
  have found : ∃ result, t.Finds (t.locate [] names) result := by
    cases located : t.locate [] names with
    | error cause => exact ⟨_, .lost⟩
    | ok place => exact (canonical_of_locate located).exists_finds
  obtain ⟨result, finds⟩ := found
  have read : t.readText names = result := finds.read_eq
  rw [read]
  exact finds

theorem exists_finds_resolve (t : FileTree) (path : String) :
    ∃ result, t.Finds (t.resolve path) result := by
  cases resolved : t.resolve path with
  | error cause => exact ⟨_, .lost⟩
  | ok names => exact (canonical_of_resolve resolved).1.exists_finds

/-- What a path leads to is read under the names that the path was resolved to. -/
theorem Finds.readText_eq (h : t.Finds (t.resolve path) result) (resolved : t.resolve path = .ok names) :
    t.readText names = result := by
  rw [resolved] at h
  rw [readText_of_resolve resolved]
  exact h.read_eq

end TypedSettings.FileTree
