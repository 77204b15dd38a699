import Mathlib.Data.List.TakeWhile
import TypedSettings.Proofs.Ini.Values

/-!
# Lines that are read

A header line is read as its name and a line with a key, a delimiter and a value as the
assignment. Conversely what a line says consists of tight names without the signs that would have
ended them.
-/

namespace TypedSettings.Ini
set_option autoImplicit false

open Text (trim isBlank Tight)

variable {cs key value : List Char} {c : Char}

/-- A name that an assignment can hold: moreover without a delimiter and not taken for a header. -/
structure IsItemName (cs : List Char) : Prop extends IsField cs where
  noDelimiter : ∀ c ∈ cs, Line.delimits c = false
  noBracket : cs.head? ≠ some '['

instance (cs : List Char) : Decidable (IsItemName cs) :=
  haveI : Decidable (∀ c ∈ cs, Line.delimits c = false) := List.decidableBAll _ cs
  decidable_of_iff
    (IsField cs ∧ (∀ c ∈ cs, Line.delimits c = false) ∧ cs.head? ≠ some '[')
    ⟨fun ⟨isField, noDelimiter, noBracket⟩ => ⟨isField, noDelimiter, noBracket⟩,
      fun h => ⟨h.toIsField, h.noDelimiter, h.noBracket⟩⟩

namespace Line

/-! ## The content of a line -/

/-- A line without a comment is its own content up to blanks. -/
theorem content_of_inLine (h : InLine cs) : content cs = trim cs := by
  have kept : ∀ c ∈ cs, (!startsComment c) = true := by
    intro c mem
    rw [(h c mem).2]
    rfl
  rw [content, List.takeWhile_eq_self_iff.2 kept]

theorem tight_content (cs : List Char) : Tight (content cs) := Text.tight_trim _

theorem inLine_content (h : '\n' ∉ cs) : InLine (content cs) := by
  intro c mem
  have before : c ∈ cs.takeWhile fun c => !startsComment c := Text.mem_of_mem_trim mem
  constructor
  · rintro rfl
    exact h (List.takeWhile_subset _ before)
  · have passed := List.mem_takeWhile_imp before
    rwa [Bool.not_eq_eq_eq_not, Bool.not_true] at passed

/-! ## Headers -/

theorem beforeLastBracket?_concat (name : List Char) :
    beforeLastBracket? (name ++ [']']) = some name := by
  rw [beforeLastBracket?, List.reverse_append, List.reverse_singleton, List.singleton_append,
    List.dropWhile_cons_of_neg (by decide)]
  exact congrArg some (List.reverse_reverse name)

theorem mem_of_beforeLastBracket? {name : List Char} (h : beforeLastBracket? cs = some name)
    (mem : c ∈ name) : c ∈ cs := by
  unfold beforeLastBracket? at h
  split at h
  · cases h
  · next bracket before found =>
    obtain rfl := Option.some.inj h
    have inside : c ∈ cs.reverse.dropWhile (· != ']') := by
      rw [found]
      exact List.mem_cons_of_mem _ (List.mem_reverse.1 mem)
    exact List.mem_reverse.1 (List.dropWhile_subset _ inside)

/-- A name between brackets is read as the header of that name. -/
theorem read_header {name : List Char} (h : IsField name) :
    read ('[' :: (name ++ [']'])) = .ok (header name) := by
  have opening : Tight ['['] := Text.tight_singleton (by decide)
  have closing : Tight [']'] := Text.tight_singleton (by decide)
  have tight := opening.append closing (by decide) (by decide) name
  have inLine : InLine ('[' :: (name ++ [']'])) := by
    intro c mem
    rcases List.mem_cons.1 mem with rfl | mem
    · decide
    rcases List.mem_append.1 mem with mem | mem
    · exact h.inLine c mem
    · rw [List.mem_singleton.1 mem]
      decide
  rw [read, content_of_inLine inLine]
  have trimmed : trim ('[' :: (name ++ [']'])) = '[' :: (name ++ [']']) := tight.trim_eq
  rw [trimmed, ofContent, readHeader, beforeLastBracket?_concat]
  exact congrArg (fun name => Except.ok (header name)) h.trimmed

/-! ## Assignments -/

theorem ofContent_of_item (filled : cs ≠ []) (noBracket : cs.head? ≠ some '[') :
    ofContent cs = readAssignment cs := by
  unfold ofContent
  split
  · exact absurd rfl filled
  · exact absurd rfl noBracket
  · rfl

/-- A key, a delimiter between blanks and a value are read as the assignment. -/
theorem read_assignment (h : IsItemName key) (k : IsField value) :
    read (key ++ [' ', '=', ' '] ++ value) = .ok (assignment key (some value)) := by
  have delimiter : InLine [' ', '=', ' '] := by decide
  have trimmed := (h.tight.append k.tight h.filled k.filled [' ', '=', ' ']).trim_eq
  rw [read, content_of_inLine ((h.inLine.append delimiter).append k.inLine), trimmed]
  obtain ⟨first, rest, text⟩ := List.exists_cons_of_ne_nil h.filled
  have noBracket : (key ++ [' ', '=', ' '] ++ value).head? ≠ some '[' := by
    have := h.noBracket
    rw [text] at this ⊢
    exact this
  rw [ofContent_of_item (by simp) noBracket]
  have beforeDelimiter : ∀ c ∈ key ++ [' '], (!delimits c) = true := by
    intro c mem
    rcases List.mem_append.1 mem with mem | mem
    · rw [h.noDelimiter c mem]
      rfl
    · rw [List.mem_singleton.1 mem]
      rfl
  have parts : key ++ [' ', '=', ' '] ++ value = (key ++ [' ']) ++ '=' :: ' ' :: value := by
    simp
  have keyRead : trim (key ++ [' ']) = key := Text.trim_append_of_blank h.tight (by decide)
  have valueRead : trim (' ' :: value) = value := by
    rw [Text.trim_cons_of_blank (by decide), k.trimmed]
  have keyFilled : key.isEmpty = false := by rw [text]; rfl
  rw [readAssignment, parts, List.takeWhile_append_of_pos beforeDelimiter,
    List.dropWhile_append_of_pos beforeDelimiter, List.takeWhile_cons_of_neg (by decide),
    List.dropWhile_cons_of_neg (by decide), List.append_nil, keyRead]
  dsimp only
  rw [keyFilled, valueRead]
  rfl

/-! ## What a line says -/

/-- The names and the raw value of a line can be written again. -/
def IsProper : Line → Prop
  | blank => True
  | header name => Tight name ∧ InLine name
  | assignment key value => IsItemName key ∧ ∀ raw, value = some raw → InLine raw

theorem isProper_of_readHeader {line : Line} (h : InLine cs) (said : readHeader cs = .ok line) :
    line.IsProper := by
  unfold readHeader at said
  split at said
  · next name found =>
    obtain rfl := Except.ok.inj said
    exact ⟨Text.tight_trim name, (h.mono fun _ => mem_of_beforeLastBracket? found).trim⟩
  · cases said

/-- The key of an assignment is the trimmed text before the first delimiter. -/
theorem isItemName_trim (h : InLine cs) (tight : Tight cs) (noBracket : cs.head? ≠ some '[')
    (filled : trim (cs.takeWhile fun c => !delimits c) ≠ []) :
    IsItemName (trim (cs.takeWhile fun c => !delimits c)) where
  filled := filled
  trimmed := (Text.tight_trim _).trim_eq
  inLine := (h.mono fun _ mem => List.takeWhile_subset _ mem).trim
  noDelimiter c mem := by
    have passed := List.mem_takeWhile_imp (Text.mem_of_mem_trim mem)
    rwa [Bool.not_eq_eq_eq_not, Bool.not_true] at passed
  noBracket := by
    have solid : ∀ c, (cs.takeWhile fun c => !delimits c).head? = some c → isBlank c = false := by
      intro c first
      rw [List.head?_takeWhile, Option.filter_eq_some_iff] at first
      exact tight.head c first.1
    rw [Text.head?_trim solid, List.head?_takeWhile]
    intro bracket
    rw [Option.filter_eq_some_iff] at bracket
    exact noBracket bracket.1

theorem isProper_of_readAssignment {line : Line} (h : InLine cs) (tight : Tight cs) (filled : cs ≠ [])
    (noBracket : cs.head? ≠ some '[') (said : readAssignment cs = .ok line) : line.IsProper := by
  unfold readAssignment at said
  dsimp only at said
  have parts : (cs.takeWhile fun c => !delimits c) ++ (cs.dropWhile fun c => !delimits c) = cs :=
    List.takeWhile_append_dropWhile
  split at said
  · next found =>
    obtain rfl := Except.ok.inj said
    rw [found, List.append_nil] at parts
    refine ⟨isItemName_trim h tight noBracket ?_, fun raw same => by cases same⟩
    rw [parts, tight.trim_eq]
    exact filled
  · next delimiter value found =>
    split at said
    · cases said
    · next nonempty =>
      obtain rfl := Except.ok.inj said
      refine ⟨isItemName_trim h tight noBracket fun empty => nonempty (List.isEmpty_iff.2 empty), ?_⟩
      intro raw same
      obtain rfl := Option.some.inj same
      refine (h.mono fun c mem => ?_).trim
      rw [← parts, found]
      exact List.mem_append_right _ (List.mem_cons_of_mem _ mem)

/-- What a line says can be written again. -/
theorem isProper_of_read {line : Line} (h : '\n' ∉ cs) (said : read cs = .ok line) :
    line.IsProper := by
  have inLine := inLine_content h
  have tight := tight_content cs
  unfold read at said
  unfold ofContent at said
  split at said
  · obtain rfl := Except.ok.inj said
    exact trivial
  · next rest found =>
    rw [found] at inLine
    exact isProper_of_readHeader (inLine.mono fun _ => List.mem_cons_of_mem _) said
  · next notEmpty notHeader =>
    refine isProper_of_readAssignment inLine tight notEmpty (fun bracket => ?_) said
    obtain ⟨rest, text⟩ := List.head?_eq_some_iff.1 bracket
    exact notHeader rest text

end Line

end TypedSettings.Ini
