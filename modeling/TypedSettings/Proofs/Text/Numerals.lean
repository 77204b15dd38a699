import TypedSettings.Text.Blank
import TypedSettings.Text.Numeral

/-!
# Facts about numerals

The decimal text of an integer is an integer numeral for it. It has no other characters than
digits and a minus, so it is neither blank nor a word.
-/

namespace TypedSettings.Text
set_option autoImplicit false

/-- A character of the decimal texts of integers. -/
def isDecimal (c : Char) : Bool := c == '-' || c.isDigit

theorem exists_digitChar {c : Char} (h : c.isDigit = true) : ∃ d < 10, c = Nat.digitChar d := by
  have range : 48 ≤ c.toNat ∧ c.toNat ≤ 57 := by
    simpa [Char.isDigit, UInt32.le_iff_toNat_le] using h
  refine ⟨c.toNat - 48, by omega, Char.toNat_inj.1 ?_⟩
  rw [Nat.toNat_digitChar_of_lt_ten (by omega)]
  omega

/-- Neither a blank nor a sign of any list or line, and no letter of a truth value. -/
theorem isDecimal_spec {c : Char} (h : isDecimal c = true) :
    isBlank c = false ∧ c ∉ ['"', ',', ';', '#'] ∧ c.toLower ∉ ['t', 'f'] := by
  rw [isDecimal, Bool.or_eq_true, beq_iff_eq] at h
  rcases h with rfl | digit
  · decide
  · obtain ⟨d, small, rfl⟩ := exists_digitChar digit
    have all : ∀ d < 10, isBlank (Nat.digitChar d) = false ∧
        Nat.digitChar d ∉ ['"', ',', ';', '#'] ∧ (Nat.digitChar d).toLower ∉ ['t', 'f'] := by
      decide
    exact all d small

theorem isDecimal_of_mem_repr {n : Int} {c : Char} (h : c ∈ n.repr.toList) :
    isDecimal c = true := by
  have digits : ∀ m : Nat, c ∈ m.repr.toList → isDecimal c = true := by
    intro m mem
    rw [Nat.toList_repr] at mem
    simp [isDecimal, Nat.isDigit_of_mem_toDigits (by decide) (by decide) mem]
  rw [Int.repr_eq_if] at h
  split at h
  · exact digits _ h
  · rw [String.toList_append] at h
    rcases List.mem_append.1 h with minus | mem
    · rw [List.mem_singleton.1 minus]
      rfl
    · exact digits _ mem

theorem toList_repr_ne_nil (n : Int) : n.repr.toList ≠ [] := by
  rw [Int.repr_eq_if]
  split
  · rw [Nat.toList_repr]
    exact Nat.toDigits_ne_nil
  · simp [String.toList_append]

theorem splitSign_of_digits {cs : List Char} (h : ∀ c ∈ cs, c.isDigit = true) :
    splitSign cs = (false, cs) := by
  unfold splitSign
  split
  · next rest => exact absurd (h '-' (by simp)) (by decide)
  · next rest => exact absurd (h '+' (by simp)) (by decide)
  · rfl

theorem readInt?_repr (n : Int) : readInt? n.repr.toList = some n := by
  rw [Int.repr_eq_if]
  split
  · next nonneg =>
    have sign := splitSign_of_digits fun c mem =>
      Nat.isDigit_of_mem_toDigits (b := 10) (n := n.toNat) (by decide) (by decide) mem
    rw [Nat.toList_repr, readInt?, sign, readNat?_toDigits]
    exact congrArg some (Int.toNat_of_nonneg nonneg)
  · next negative =>
    rw [String.toList_append, Nat.toList_repr]
    show (readNat? (Nat.toDigits 10 (-n).toNat)).map (signed true) = some n
    rw [readNat?_toDigits, Option.map_some, signed, if_pos rfl]
    exact congrArg some (by omega)

theorem readInt64?_repr (n : Int64) : readInt64? n.toInt.repr.toList = some n := by
  rw [readInt64?, readInt?_repr, Option.bind_some, if_pos, Int64.ofInt_toInt]
  exact ⟨n.minValue_le_toInt, n.toInt_le⟩

end TypedSettings.Text
