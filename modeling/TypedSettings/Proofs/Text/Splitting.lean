/-!
# Facts about splitting

A list that is split at a separator falls into pieces without that separator. Pieces that are each
closed by the separator are found again, and after the last of them comes an empty piece. Pieces that
are joined have the separator between them.
-/

namespace TypedSettings.Text
set_option autoImplicit false

variable {α : Type} [BEq α] [LawfulBEq α] {sep : α}

theorem mem_of_mem_splitOn {xs piece : List α} (h : piece ∈ xs.splitOn sep) {x : α}
    (mem : x ∈ piece) : x ∈ xs ∧ x ≠ sep := by
  induction xs generalizing piece with
  | nil =>
    rw [List.splitOn_nil, List.mem_singleton] at h
    rw [h] at mem
    cases mem
  | cons y ys ih =>
    rw [List.splitOn_cons_eq_if_modifyHead] at h
    by_cases here : y = sep
    · rw [if_pos (beq_iff_eq.2 here)] at h
      rcases List.mem_cons.1 h with rfl | h
      · cases mem
      · obtain ⟨inside, other⟩ := ih h mem
        exact ⟨List.mem_cons_of_mem _ inside, other⟩
    · rw [if_neg fun same => here (beq_iff_eq.1 same)] at h
      obtain ⟨first, rest, pieces⟩ := List.exists_cons_of_ne_nil (List.splitOn_ne_nil sep ys)
      rw [pieces, List.modifyHead_cons] at h
      rw [pieces] at ih
      rcases List.mem_cons.1 h with rfl | h
      · rcases List.mem_cons.1 mem with rfl | mem
        · exact ⟨List.mem_cons_self .., here⟩
        · obtain ⟨inside, other⟩ := ih (List.mem_cons_self ..) mem
          exact ⟨List.mem_cons_of_mem _ inside, other⟩
      · obtain ⟨inside, other⟩ := ih (List.mem_cons_of_mem _ h) mem
        exact ⟨List.mem_cons_of_mem _ inside, other⟩

/-- Pieces that are each closed by the separator are found again. -/
theorem splitOn_flatMap_append {pieces : List (List α)} (h : ∀ piece ∈ pieces, sep ∉ piece) :
    (pieces.flatMap fun piece => piece ++ [sep]).splitOn sep = pieces ++ [[]] := by
  induction pieces with
  | nil => exact List.splitOn_nil sep
  | cons piece pieces ih =>
    obtain ⟨here, rest⟩ := List.forall_mem_cons.1 h
    rw [List.flatMap_cons, List.append_assoc, List.singleton_append,
      List.splitOn_append_cons_self_of_not_mem here, ih rest, List.cons_append]

/-- Joined pieces have the separator after each of them but the last. -/
theorem intercalate_cons_concat {α : Type} {sep : α} (first last : List α)
    (middle : List (List α)) :
    [sep].intercalate (first :: (middle ++ [last])) =
      first ++ sep :: (middle.flatMap fun piece => piece ++ [sep]) ++ last := by
  induction middle generalizing first with
  | nil => simp [List.intercalate_cons_cons]
  | cons piece middle ih =>
    rw [List.cons_append, List.intercalate_cons_cons, ih, List.flatMap_cons]
    simp

end TypedSettings.Text
