import Mathlib.Data.List.Basic
import Mathlib.Data.List.Nodup

/-!
# Interleavings of lists

Several parts of a program make calls, each in its own order. An interleaving is a list of all
calls, each with the part that makes it. The answers to the calls of one part are picked out of all
answers by the place of these calls in the list.
-/

namespace TypedSettings
set_option autoImplicit false

variable {ι γ δ β : Type}

/-! ## Answers to some of the calls -/

/-- Of the answers to calls, those to the calls of a class. -/
def answersWhere (p : γ → Bool) (calls : List γ) (answers : List β) : List β :=
  ((calls.zip answers).filter fun e => p e.1).map Prod.snd

theorem answersWhere_cons (p : γ → Bool) (c : γ) (calls : List γ) (b : β) (answers : List β) :
    answersWhere p (c :: calls) (b :: answers) =
      if p c then b :: answersWhere p calls answers else answersWhere p calls answers := by
  cases inside : p c <;> simp [answersWhere, inside]

theorem mem_answersWhere {p : γ → Bool} {calls : List γ} {answers : List β} {b : β} :
    b ∈ answersWhere p calls answers ↔ ∃ c, (c, b) ∈ calls.zip answers ∧ p c = true := by
  simp [answersWhere]

theorem answersWhere_map (f : δ → γ) (p : γ → Bool) (calls : List δ) (answers : List β) :
    answersWhere p (calls.map f) answers = answersWhere (fun c => p (f c)) calls answers := by
  rw [answersWhere, List.zip_map_left, List.filter_map, List.map_map]
  rfl

theorem answersWhere_congr {p q : γ → Bool} {calls : List γ} (same : ∀ c ∈ calls, p c = q c)
    (answers : List β) : answersWhere p calls answers = answersWhere q calls answers := by
  rw [answersWhere, answersWhere]
  congr 1
  exact List.filter_congr fun e mem => same e.1 (List.of_mem_zip mem).1

/-! ## Interleavings -/

section Interleavings

variable [DecidableEq ι]

/-- A list of calls, each with the part of the program that makes it, has the calls of each part in
their order. -/
def Interleaves (parts : ι → List γ) (merged : List (ι × γ)) : Prop :=
  ∀ i, (merged.filter (·.1 = i)).map Prod.snd = parts i

theorem Interleaves.mem_part {parts : ι → List γ} {merged : List (ι × γ)}
    (interleaved : Interleaves parts merged) {e : ι × γ} (mem : e ∈ merged) : e.2 ∈ parts e.1 := by
  rw [← interleaved e.1]
  exact List.mem_map_of_mem (List.mem_filter.2 ⟨mem, decide_eq_true rfl⟩)

/-- The calls of one part after those of the other. -/
def inTurn (parts : ι → List γ) (order : List ι) : List (ι × γ) :=
  order.flatMap fun i => (parts i).map (i, ·)

omit [DecidableEq ι] in
theorem map_inTurn (parts : ι → List γ) (order : List ι) :
    (inTurn parts order).map Prod.snd = order.flatMap parts := by
  simp [inTurn, List.map_flatMap, Function.comp_def]

theorem filter_inTurn_of_not_mem (parts : ι → List γ) {order : List ι} {i : ι}
    (missing : i ∉ order) : (inTurn parts order).filter (·.1 = i) = [] := by
  rw [List.filter_eq_nil_iff]
  rintro e mem
  obtain ⟨j, inside, own⟩ := List.mem_flatMap.1 mem
  obtain ⟨c, -, rfl⟩ := List.mem_map.1 own
  simpa using fun same : j = i => missing (same ▸ inside)

/-- To let each part make its calls in turn is an interleaving too. -/
theorem interleaves_inTurn (parts : ι → List γ) {order : List ι} (once : order.Nodup)
    (every : ∀ i, i ∈ order) : Interleaves parts (inTurn parts order) := by
  intro i
  have own : ((parts i).map (i, ·)).filter (fun e => decide (e.1 = i)) = (parts i).map (i, ·) := by
    rw [List.filter_eq_self]
    intro e mem
    obtain ⟨c, -, rfl⟩ := List.mem_map.1 mem
    exact decide_eq_true rfl
  -- the part has one turn, and nothing before or after it belongs to the part
  obtain ⟨before, later, rfl⟩ := List.append_of_mem (every i)
  obtain ⟨missing, -⟩ := List.nodup_cons.1 (List.nodup_middle.1 once)
  rw [List.mem_append, not_or] at missing
  have split : inTurn parts (before ++ i :: later) =
      inTurn parts before ++ ((parts i).map (i, ·) ++ inTurn parts later) := by
    simp [inTurn]
  rw [split, List.filter_append, List.filter_append, filter_inTurn_of_not_mem parts missing.1,
    filter_inTurn_of_not_mem parts missing.2, own, List.nil_append, List.append_nil, List.map_map]
  exact List.map_id _

end Interleavings

end TypedSettings
