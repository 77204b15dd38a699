import TypedSettings.Binary64.Basic
import TypedSettings.Text.Numeral

/-!
# Rounding to 64-bit floating point

A positive quotient of natural numbers is rounded to the nearest magnitude, a tie to the one
with an even significand; what is too large becomes infinite. Reading a decimal numeral rounds
the exact number that it spells.
-/

namespace TypedSettings
set_option autoImplicit false

/-- The natural number nearest to a quotient, of two equally near the even one. -/
def nearestEven (num den : Nat) : Nat :=
  let q := num / den
  let r := num % den
  if 2 * r < den then q else if den < 2 * r then q + 1 else q + q % 2

theorem div_le_nearestEven (num den : Nat) : num / den ≤ nearestEven num den := by
  simp only [nearestEven]
  split
  · exact Nat.le_refl _
  · split <;> omega

theorem nearestEven_le_div_add_one (num den : Nat) : nearestEven num den ≤ num / den + 1 := by
  simp only [nearestEven]
  split
  · omega
  · split <;> omega

namespace Magnitude

/-- The scale at which a number of that many whole units has a significand of 53 bits, or the
least scale for a smaller one. -/
def scaleOf (units : Nat) : Nat := units.log2 - 52

theorem units_lt_of_scaleOf (units : Nat) : units < Nat.pow 2 53 * Nat.pow 2 (scaleOf units) := by
  have hle : units.log2 + 1 ≤ 53 + scaleOf units := by
    unfold scaleOf
    omega
  have h := Nat.lt_of_lt_of_le (Nat.lt_log2_self (n := units)) (Nat.pow_le_pow_right Nat.two_pos hle)
  rwa [Nat.pow_add] at h

theorem scaleOf_eq_zero_or_le (units : Nat) :
    scaleOf units = 0 ∨ Nat.pow 2 52 * Nat.pow 2 (scaleOf units) ≤ units := by
  by_cases h : scaleOf units = 0
  · exact .inl h
  · have hlog : units.log2 = 52 + scaleOf units := by
      unfold scaleOf at h ⊢
      omega
    have hne : units ≠ 0 := by
      rintro rfl
      exact h rfl
    have hself := Nat.log2_self_le hne
    rw [hlog, Nat.pow_add] at hself
    exact .inr hself

/-- The significand of the magnitude nearest to a quotient, before a possible carry. -/
def significandOf (num den : Nat) : Nat :=
  let units := num * Nat.pow 2 1074
  nearestEven units (den * Nat.pow 2 (scaleOf (units / den)))

theorem significandOf_le (num den : Nat) : significandOf num den ≤ Nat.pow 2 53 := by
  refine Nat.le_trans (nearestEven_le_div_add_one _ _) ?_
  rw [← Nat.div_div_eq_div_mul]
  exact (Nat.div_lt_iff_lt_mul (Nat.two_pow_pos _)).2 (units_lt_of_scaleOf _)

theorem scaleOf_eq_zero_or_le_significandOf (num den : Nat) :
    scaleOf (num * Nat.pow 2 1074 / den) = 0 ∨ Nat.pow 2 52 ≤ significandOf num den := by
  rcases scaleOf_eq_zero_or_le (num * Nat.pow 2 1074 / den) with h | h
  · exact .inl h
  · refine .inr (Nat.le_trans ?_ (div_le_nearestEven _ _))
    rw [← Nat.div_div_eq_div_mul]
    exact (Nat.le_div_iff_mul_le (Nat.two_pow_pos _)).2 h

/-- The magnitude nearest to a quotient, or nothing when that lies beyond the largest one. -/
def ofQuotient? (num den : Nat) : Option Magnitude :=
  let scale := scaleOf (num * Nat.pow 2 1074 / den)
  if hcarry : significandOf num den = Nat.pow 2 53 then
    if hscale : scale + 1 ≤ 2045 then
      some ⟨Nat.pow 2 52, scale + 1, by decide, hscale, .inr (Nat.le_refl _)⟩
    else none
  else if hscale : scale ≤ 2045 then
    some ⟨significandOf num den, scale, Nat.lt_of_le_of_ne (significandOf_le num den) hcarry, hscale,
      scaleOf_eq_zero_or_le_significandOf num den⟩
  else none

end Magnitude

namespace Binary64

/-- The number with a sign and a magnitude, infinite when there is none so large. -/
def ofMagnitude? (negative : Bool) : Option Magnitude → Binary64
  | some m => finite negative m
  | none => infinite negative

open Text in
/-- The number nearest to a decimal one. A coefficient of `n` digits under the exponent `e` is at
least `10 ^ (n + e - 1)` and below `10 ^ (n + e)`; beyond 310 that is infinite and below -330 it
is zero, so no power is computed there. -/
def ofDecimal (d : Decimal) : Binary64 :=
  if d.coefficient = 0 then finite d.negative .zero
  else
    let order := (Nat.toDigits 10 d.coefficient).length + d.exponent
    if 310 < order then infinite d.negative
    else if order < -330 then finite d.negative .zero
    else match d.exponent with
      | .ofNat e => ofMagnitude? d.negative (Magnitude.ofQuotient? (d.coefficient * Nat.pow 10 e) 1)
      | .negSucc e => ofMagnitude? d.negative (Magnitude.ofQuotient? d.coefficient (Nat.pow 10 (e + 1)))

/-- The words for the values without digits, without regard to ASCII case. -/
def ofWord? (negative : Bool) (word : List Char) : Option Binary64 :=
  match String.ofList (word.map Char.toLower) with
  | "nan" => some nan
  | "inf" | "infinity" => some (infinite negative)
  | _ => none

/-- Reads a decimal numeral, or one of the words `inf`, `infinity` and `nan` under a sign. -/
def read? (cs : List Char) : Option Binary64 :=
  match Text.Decimal.read? cs with
  | some d => some (ofDecimal d)
  | none => ofWord? (Text.splitSign cs).1 (Text.splitSign cs).2

end Binary64

end TypedSettings
