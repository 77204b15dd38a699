import TypedSettings.Proofs.Ini.Lines

/-!
# The rules of lines

What a line says is told by rules on its content that name the brackets and the delimiter they turn
on: nothing, a header, an assignment, or one of two faults. Reading a line gives what these rules
tell. Lines without content are the blank lines and the comment lines.
-/

namespace TypedSettings.Ini
set_option autoImplicit false

open Text (trim isBlank Tight)

namespace Line

variable {cs before after key value name rest : List Char} {c d : Char}

/-! ## Comments and blanks -/

/-- What the content of a line says, or why it cannot be read. A content that begins with a bracket
is a header, named by what stands before its last closing bracket. All else is an assignment: the
key stands before the first delimiter, or is the whole content when there is none. -/
inductive Means : List Char → Except LineFault Line → Prop where
  | blank : Means [] (.ok .blank)
  | header {name rest : List Char} (last : ']' ∉ rest) :
      Means ('[' :: (name ++ ']' :: rest)) (.ok (.header (trim name)))
  | unclosed {rest : List Char} (unclosed : ']' ∉ rest) :
      Means ('[' :: rest) (.error .unclosedHeader)
  | assignment {key value : List Char} {d : Char} (noBracket : key.head? ≠ some '[')
      (first : ∀ c ∈ key, delimits c = false) (delimiter : delimits d = true)
      (filled : trim key ≠ []) :
      Means (key ++ d :: value) (.ok (.assignment (trim key) (some (trim value))))
  | keyless {key value : List Char} {d : Char} (noBracket : key.head? ≠ some '[')
      (first : ∀ c ∈ key, delimits c = false) (delimiter : delimits d = true)
      (empty : trim key = []) :
      Means (key ++ d :: value) (.error .emptyKey)
  | key {key : List Char} (filled : key ≠ []) (noBracket : key.head? ≠ some '[')
      (noDelimiter : ∀ c ∈ key, delimits c = false) :
      Means key (.ok (.assignment key none))

/-! ## Headers -/

theorem ne_of_bracket_not_mem (last : ']' ∉ rest) : ∀ c ∈ rest.reverse, (c != ']') = true := by
  intro c mem
  rw [bne_iff_ne]
  rintro rfl
  exact last (List.mem_reverse.1 mem)

theorem beforeLastBracket?_of_last (last : ']' ∉ rest) :
    beforeLastBracket? (name ++ ']' :: rest) = some name := by
  have reversed : (name ++ ']' :: rest).reverse = rest.reverse ++ ']' :: name.reverse := by simp
  rw [beforeLastBracket?, reversed, List.dropWhile_append_of_pos (ne_of_bracket_not_mem last),
    List.dropWhile_cons_of_neg (by decide)]
  exact congrArg some (List.reverse_reverse name)

theorem beforeLastBracket?_eq_none (unclosed : ']' ∉ rest) : beforeLastBracket? rest = none := by
  rw [beforeLastBracket?, List.dropWhile_eq_nil_iff.2 (ne_of_bracket_not_mem unclosed)]

theorem exists_last_bracket (closed : ']' ∈ cs) :
    ∃ name rest, cs = name ++ ']' :: rest ∧ ']' ∉ rest := by
  obtain ⟨rest, name, parts, last⟩ := List.eq_append_cons_of_mem (List.mem_reverse.2 closed)
  refine ⟨name.reverse, rest.reverse, ?_, fun mem => last (List.mem_reverse.1 mem)⟩
  rw [← List.reverse_reverse cs, parts]
  simp

/-! ## Assignments -/

theorem passes_of_noDelimiter (noDelimiter : ∀ c ∈ key, delimits c = false) :
    ∀ c ∈ key, (!delimits c) = true := by
  intro c mem
  rw [noDelimiter c mem]
  rfl

theorem readAssignment_of_delimiter (first : ∀ c ∈ key, delimits c = false)
    (delimiter : delimits d = true) :
    readAssignment (key ++ d :: value) =
      if (trim key).isEmpty then .error .emptyKey
      else .ok (assignment (trim key) (some (trim value))) := by
  have passed := passes_of_noDelimiter first
  have stops : ¬ (fun c => !delimits c) d = true := by simp [delimiter]
  rw [readAssignment, List.takeWhile_append_of_pos passed, List.dropWhile_append_of_pos passed,
    List.takeWhile_cons_of_neg (p := fun c => !delimits c) stops,
    List.dropWhile_cons_of_neg (p := fun c => !delimits c) stops, List.append_nil]

theorem readAssignment_of_key (noDelimiter : ∀ c ∈ key, delimits c = false) :
    readAssignment key = .ok (assignment (trim key) none) := by
  have passed := passes_of_noDelimiter noDelimiter
  rw [readAssignment, List.takeWhile_eq_self_iff.2 passed, List.dropWhile_eq_nil_iff.2 passed]

theorem ofContent_of_delimiter (noBracket : key.head? ≠ some '[') (delimiter : delimits d = true) :
    ofContent (key ++ d :: value) = readAssignment (key ++ d :: value) := by
  refine ofContent_of_item (List.append_ne_nil_of_right_ne_nil key (List.cons_ne_nil d value)) ?_
  cases key with
  | nil =>
    rintro bracket
    obtain rfl := Option.some.inj bracket
    exact absurd delimiter (by decide)
  | cons first rest => exact noBracket

/-! ## Reading by the rules -/

/-- What the rules tell about a tight content is read. -/
theorem Means.ofContent_eq {told : Except LineFault Line} (h : Means cs told) (tight : Tight cs) :
    ofContent cs = told := by
  cases h with
  | blank => rfl
  | header last => rw [ofContent, readHeader, beforeLastBracket?_of_last last]
  | unclosed unclosed => rw [ofContent, readHeader, beforeLastBracket?_eq_none unclosed]
  | assignment noBracket first delimiter filled =>
    rw [ofContent_of_delimiter noBracket delimiter, readAssignment_of_delimiter first delimiter]
    exact if_neg fun empty => filled (List.isEmpty_iff.1 empty)
  | keyless noBracket first delimiter empty =>
    rw [ofContent_of_delimiter noBracket delimiter, readAssignment_of_delimiter first delimiter]
    exact if_pos (List.isEmpty_iff.2 empty)
  | key filled noBracket noDelimiter =>
    rw [ofContent_of_item filled noBracket, readAssignment_of_key noDelimiter, tight.trim_eq]

theorem exists_means_of_item (filled : cs ≠ []) (noBracket : cs.head? ≠ some '[') :
    ∃ told, Means cs told := by
  have parts : (cs.takeWhile fun c => !delimits c) ++ (cs.dropWhile fun c => !delimits c) = cs :=
    List.takeWhile_append_dropWhile
  have stops := List.head?_dropWhile_not (fun c => !delimits c) cs
  have first : ∀ c ∈ cs.takeWhile fun c => !delimits c, delimits c = false := by
    intro c mem
    have passed := List.mem_takeWhile_imp mem
    rwa [Bool.not_eq_eq_eq_not, Bool.not_true] at passed
  generalize (cs.takeWhile fun c => !delimits c) = key at parts first
  cases after : cs.dropWhile fun c => !delimits c with
  | nil =>
    rw [after, List.append_nil] at parts
    subst parts
    exact ⟨_, .key filled noBracket first⟩
  | cons d value =>
    rw [after] at parts stops
    have delimiter : delimits d = true := by simpa using stops
    have keyNoBracket : key.head? ≠ some '[' := by
      intro bracket
      rw [← parts, List.head?_append, bracket] at noBracket
      exact noBracket rfl
    rw [← parts]
    by_cases empty : trim key = []
    · exact ⟨_, .keyless keyNoBracket first delimiter empty⟩
    · exact ⟨_, .assignment keyNoBracket first delimiter empty⟩

/-- The rules tell something about every content. -/
theorem exists_means (cs : List Char) : ∃ told, Means cs told := by
  rcases cs with _ | ⟨first, rest⟩
  · exact ⟨_, .blank⟩
  by_cases bracket : first = '['
  · subst bracket
    by_cases closed : ']' ∈ rest
    · obtain ⟨name, rest, rfl, last⟩ := exists_last_bracket closed
      exact ⟨_, .header last⟩
    · exact ⟨_, .unclosed closed⟩
  exact exists_means_of_item (List.cons_ne_nil _ _) fun same => bracket (Option.some.inj same)

/-- Reading a line gives what the rules tell about its content. -/
theorem read_eq_iff {told : Except LineFault Line} : read cs = told ↔ Means (content cs) told := by
  constructor
  · rintro rfl
    obtain ⟨told, means⟩ := exists_means (content cs)
    rw [read, means.ofContent_eq (tight_content cs)]
    exact means
  · intro means
    exact means.ofContent_eq (tight_content cs)

theorem means_content_unique {told other : Except LineFault Line} (h : Means (content cs) told)
    (k : Means (content cs) other) : told = other :=
  (read_eq_iff.2 h).symm.trans (read_eq_iff.2 k)

end Line

end TypedSettings.Ini
