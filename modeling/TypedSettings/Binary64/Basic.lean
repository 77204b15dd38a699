/-!
# Binary floating-point numbers of 64 bits

A finite number is a sign and a magnitude `significand * 2 ^ (scale - 1074)`. The magnitude is
kept in its only normal form, so two magnitudes are the same number exactly when they are equal.
There is one value that is not a number, and two infinities.
-/

namespace TypedSettings
set_option autoImplicit false

/-- A finite magnitude `significand * 2 ^ (scale - 1074)` in its only normal form. -/
structure Magnitude where
  significand : Nat
  scale : Nat
  significand_lt : significand < Nat.pow 2 53
  scale_le : scale ≤ 2045
  normal : scale = 0 ∨ Nat.pow 2 52 ≤ significand
  deriving DecidableEq

namespace Magnitude

/-- The magnitude zero. -/
def zero : Magnitude := ⟨0, 0, by decide, by decide, .inl rfl⟩

/-- The magnitude is zero. -/
def isZero (m : Magnitude) : Bool := m.significand == 0

/-- The magnitude as a multiple of the least one, `2 ^ (-1074)`. -/
def units (m : Magnitude) : Nat := m.significand * Nat.pow 2 m.scale

@[simp] theorem isZero_eq_true_iff {m : Magnitude} : m.isZero = true ↔ m = zero := by
  obtain ⟨n, s, _, _, hn⟩ := m
  simp only [isZero, zero, beq_iff_eq, mk.injEq]
  exact ⟨fun h => ⟨h, by subst h; simpa using hn⟩, And.left⟩

theorem units_eq_zero_iff {m : Magnitude} : m.units = 0 ↔ m = zero := by
  rw [← isZero_eq_true_iff, isZero, beq_iff_eq]
  refine ⟨fun h => ?_, fun h => by simp [units, h]⟩
  exact (Nat.mul_eq_zero.1 h).resolve_right (Nat.ne_of_gt (Nat.two_pow_pos _))

end Magnitude

/-- A floating-point number. -/
inductive Binary64 where
  | nan
  | infinite (negative : Bool)
  | finite (negative : Bool) (magnitude : Magnitude)
  deriving DecidableEq

namespace Binary64

/-- Positive zero. -/
def zero : Binary64 := finite false .zero

instance : Inhabited Binary64 := ⟨zero⟩

/-- One of the two zeros. -/
def isZero : Binary64 → Bool
  | finite _ m => m.isZero
  | _ => false

/-- Numeric equality: the two zeros are equal, and `nan` differs from itself. -/
def equals : Binary64 → Binary64 → Bool
  | infinite s, infinite t => s == t
  | finite s m, finite t n => m == n && (s == t || m.isZero)
  | _, _ => false

theorem equals_self_iff {x : Binary64} : x.equals x = true ↔ x ≠ nan := by
  cases x <;> simp [equals]

theorem equals_comm (x y : Binary64) : x.equals y = y.equals x := by
  cases x <;> cases y <;> simp only [equals, BEq.comm]
  next s m t n =>
    by_cases h : m = n
    · subst h
      rfl
    · simp [beq_eq_false_iff_ne.2 h]

theorem isZero_eq_equals_zero (x : Binary64) : x.isZero = x.equals zero := by
  cases x <;> simp only [isZero, equals, zero]
  next s m =>
    by_cases h : m = Magnitude.zero
    · subst h
      simp [Magnitude.isZero, Magnitude.zero]
    · have hz : m.isZero = false := Bool.eq_false_iff.2 (mt Magnitude.isZero_eq_true_iff.1 h)
      simp [beq_eq_false_iff_ne.2 h, hz]

end Binary64

end TypedSettings
