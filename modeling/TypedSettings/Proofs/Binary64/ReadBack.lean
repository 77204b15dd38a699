import Mathlib.Tactic.Ring
import TypedSettings.Binary64.Rounding
import TypedSettings.Binary64.Shortest
import TypedSettings.Proofs.Text.NumeralGrammar

/-!
# Floating-point numbers are read back

The text of a floating-point number reads as the same number, the sign of a zero included. Every
decimal in the interval of a magnitude rounds to it, and the shortest decimal is taken from there.
-/

namespace TypedSettings
set_option autoImplicit false

/-! ## Rounding to a known number -/

/-- What is at most half a step from a number rounds to it; half a step away the number has to be
even. -/
theorem nearestEven_eq {num den q : Nat} (low : 2 * q * den ≤ 2 * num + den)
    (high : 2 * num ≤ 2 * q * den + den)
    (strict : q % 2 = 1 → 2 * q * den < 2 * num + den ∧ 2 * num < 2 * q * den + den)
    (pos : 0 < den) : nearestEven num den = q := by
  have parts : den * (num / den) + num % den = num := Nat.div_add_mod num den
  have less : num % den < den := Nat.mod_lt _ pos
  unfold nearestEven
  generalize num / den = p at parts ⊢
  generalize num % den = r at parts less ⊢
  have near : q = p ∨ q = p + 1 := by
    rcases Nat.lt_trichotomy q p with below | same | above
    · have := Nat.mul_le_mul_right den (show q + 1 ≤ p from below)
      grind
    · exact .inl same
    · rcases Nat.lt_or_ge (p + 1) q with far | close
      · have := Nat.mul_le_mul_right den (show p + 2 ≤ q from far)
        grind
      · exact .inr (Nat.le_antisymm close above)
  rcases near with rfl | rfl
  · grind
  · grind

namespace Magnitude

theorem scaleOf_eq {units s : Nat} (least : s = 0 ∨ 2 ^ 52 * 2 ^ s ≤ units)
    (below : units < 2 ^ 53 * 2 ^ s) : scaleOf units = s := by
  unfold scaleOf
  rw [← Nat.pow_add] at least below
  by_cases none : units = 0
  · subst none
    rcases least with rfl | filled
    · rfl
    · exact absurd filled (Nat.not_le.2 (Nat.two_pow_pos _))
  · have less := (Nat.log2_lt none).2 below
    rcases least with rfl | filled
    · omega
    · have := (Nat.le_log2 none).2 filled
      omega

/-! ## The interval of a magnitude -/

/-- The distance between two magnitudes of one scale, in least magnitudes over a denominator. -/
def step (m : Magnitude) (den : Nat) : Nat := den * 2 ^ m.scale

/-- The quotient `x / den`, counted in quarters of the least magnitude, is at most half a step away
from the magnitude. It is nearer if the significand is odd, and if it is below the least significand
of a scale, where steps are half as long, it is at most a quarter of a step away. -/
structure Surrounds (m : Magnitude) (x den : Nat) : Prop where
  low : 4 * (m.significand * m.step den) ≤ x + 2 * m.step den
  high : x ≤ 4 * (m.significand * m.step den) + 2 * m.step den
  strict : m.significand % 2 = 1 → 4 * (m.significand * m.step den) < x + 2 * m.step den ∧
    x < 4 * (m.significand * m.step den) + 2 * m.step den
  narrow : m.significand = 2 ^ 52 → m.scale ≠ 0 →
    4 * (m.significand * m.step den) ≤ x + m.step den

theorem step_pos (m : Magnitude) {den : Nat} (pos : 0 < den) : 0 < m.step den :=
  Nat.mul_pos pos (Nat.two_pow_pos _)

theorem units_mul (m : Magnitude) (den : Nat) : m.units * den = m.significand * m.step den := by
  rw [units, step, Nat.pow_eq, Nat.mul_comm den, Nat.mul_assoc]

/-- Significands have 53 bits. -/
theorem significand_mul_step_le (m : Magnitude) (den : Nat) :
    m.significand * m.step den + m.step den ≤ 2 ^ 53 * m.step den := by
  rw [← Nat.succ_mul]
  exact Nat.mul_le_mul_right _ (Nat.succ_le_of_lt m.significand_lt)

theorem Interval.bounds_of_holds {i : Interval} {num den : Nat} (holds : i.holds num den = true) :
    i.low * den ≤ num ∧ num ≤ i.high * den ∧
      (i.closed = false → i.low * den < num ∧ num < i.high * den) := by
  unfold Interval.holds at holds
  split at holds <;> grind

theorem surrounds_of_holds {m : Magnitude} {x den : Nat} (holds : m.interval.holds x den = true) :
    m.Surrounds x den := by
  obtain ⟨low, high, strict⟩ := Interval.bounds_of_holds holds
  have short : 2 ^ m.scale * den = m.step den := Nat.mul_comm ..
  have long : 2 * 2 ^ m.scale * den = 2 * m.step den := by rw [Nat.mul_assoc, short]
  simp only [interval, Nat.pow_eq, Nat.sub_mul, Nat.add_mul, Nat.mul_assoc 4, units_mul, long]
    at low high strict
  refine ⟨?_, high, ?_, ?_⟩
  · split at low <;> omega
  · intro odd
    specialize strict (by simp [odd])
    split at strict <;> omega
  · intro least large
    rw [if_pos ⟨least, large⟩] at low
    omega

/-! ## Rounding to a known magnitude -/

theorem ofQuotient?_eq_some_of {m : Magnitude} {num den : Nat}
    (scale : scaleOf (num * 2 ^ 1074 / den) = m.scale)
    (rounds : nearestEven (num * 2 ^ 1074) (m.step den) = m.significand) :
    ofQuotient? num den = some m := by
  have significand : significandOf num den = m.significand := by
    rw [step] at rounds
    simp only [significandOf, Nat.pow_eq, scale, rounds]
  have noCarry : m.significand ≠ Nat.pow 2 53 := Nat.ne_of_lt m.significand_lt
  simp only [ofQuotient?, Nat.pow_eq, scale, significand]
  rw [dif_neg noCarry, dif_pos m.scale_le]

theorem ofQuotient?_eq_some_of_carry {m : Magnitude} {num den s : Nat} (later : m.scale = s + 1)
    (least : m.significand = 2 ^ 52) (scale : scaleOf (num * 2 ^ 1074 / den) = s)
    (rounds : nearestEven (num * 2 ^ 1074) (den * 2 ^ s) = 2 ^ 53) :
    ofQuotient? num den = some m := by
  have significand : significandOf num den = Nat.pow 2 53 := by
    simp only [significandOf, Nat.pow_eq, scale, rounds]
  obtain ⟨n, t, _, large, _⟩ := m
  obtain rfl : n = 2 ^ 52 := least
  obtain rfl : t = s + 1 := later
  simp only [ofQuotient?, Nat.pow_eq, scale, significand]
  rw [dif_pos trivial, dif_pos large]

/-- A quotient rounds to the magnitude that surrounds it. -/
theorem Surrounds.ofQuotient?_eq_some {m : Magnitude} {num den : Nat}
    (near : m.Surrounds (4 * (num * 2 ^ 1074)) den) (pos : 0 < den) :
    ofQuotient? num den = some m := by
  have stepPos := m.step_pos pos
  have most := m.significand_mul_step_le den
  obtain ⟨low, high, strict, narrow⟩ := near
  by_cases own : m.scale = 0 ∨ 2 ^ 52 * m.step den ≤ num * 2 ^ 1074
  · refine ofQuotient?_eq_some_of (scaleOf_eq ?_ ?_) (nearestEven_eq ?_ ?_ ?_ stepPos)
    · refine own.imp_right fun filled => (Nat.le_div_iff_mul_le pos).2 ?_
      rwa [Nat.mul_assoc, Nat.mul_comm _ den]
    · refine Nat.div_lt_of_lt_mul ?_
      rw [Nat.mul_left_comm, ← step]
      omega
    all_goals
      rw [Nat.mul_assoc]
      omega
  -- just below the least significand of a scale, the scale is the one before and rounding carries
  · obtain ⟨large, short⟩ := not_or.1 own
    have least : m.significand = 2 ^ 52 := by
      refine Nat.le_antisymm (Nat.not_lt.1 fun more => short ?_) (m.normal.resolve_left large)
      have next := Nat.mul_le_mul_right (m.step den) (Nat.succ_le_of_lt more)
      rw [Nat.succ_mul] at next
      omega
    obtain ⟨s, later⟩ := Nat.exists_eq_succ_of_ne_zero large
    have halves : m.step den = 2 * (den * 2 ^ s) := by
      rw [step, later, Nat.pow_succ]
      ring
    specialize narrow least large
    rw [least, halves] at narrow
    rw [halves] at short stepPos
    have scale : scaleOf (num * 2 ^ 1074 / den) = s := by
      refine scaleOf_eq (.inr ((Nat.le_div_iff_mul_le pos).2 ?_)) (Nat.div_lt_of_lt_mul ?_)
      · rw [Nat.mul_assoc, Nat.mul_comm _ den]
        omega
      · rw [Nat.mul_left_comm]
        omega
    refine ofQuotient?_eq_some_of_carry later least scale (nearestEven_eq ?_ ?_ nofun ?_) <;> omega

/-! ## Sizes -/

/-- The largest magnitude is below `2 ^ 1024`. -/
theorem Surrounds.num_lt {m : Magnitude} {num den : Nat}
    (near : m.Surrounds (4 * (num * 2 ^ 1074)) den) (pos : 0 < den) : num < 2 ^ 1024 * den := by
  have stepPos := m.step_pos pos
  have most := m.significand_mul_step_le den
  have large := Nat.mul_le_mul_left den (Nat.pow_le_pow_right Nat.two_pos m.scale_le)
  rw [← step] at large
  have high := near.high
  omega

/-- The least magnitude is `2 ^ (-1074)`, and what rounds to it is at least half of that. -/
theorem Surrounds.den_le {m : Magnitude} {num den : Nat}
    (near : m.Surrounds (4 * (num * 2 ^ 1074)) den) (filled : m ≠ zero) : den ≤ num * 2 ^ 1075 := by
  have some : 1 ≤ m.significand := by
    refine Nat.one_le_iff_ne_zero.2 fun none => filled (isZero_eq_true_iff.1 ?_)
    rw [isZero, none, beq_self_eq_true]
  have least := Nat.mul_le_mul_right (m.step den) some
  have whole : den ≤ m.step den := Nat.le_mul_of_pos_right _ (Nat.two_pow_pos _)
  have low := near.low
  omega

end Magnitude

/-! ## The shortest decimal -/

namespace Magnitude

/-- A point of a grid is in the interval. -/
theorem Interval.holds_of_nearestOnGrid? {i : Interval} {e : Int} {n : Nat}
    (found : i.nearestOnGrid? e = some n) :
    i.holds (n * ((powerOfTen e).1 * Nat.pow 2 1076)) (powerOfTen e).2 = true := by
  unfold nearestOnGrid? at found
  dsimp only at found
  split at found
  · next below above =>
    obtain rfl := Option.some.inj found
    split
    · exact below
    · exact above
  · next below _ =>
    obtain rfl := Option.some.inj found
    exact below
  · next _ above =>
    obtain rfl := Option.some.inj found
    exact above
  · cases found

theorem Interval.holds_of_shortest? {i : Interval} {n : Nat} {e : Int}
    (found : i.shortest? = some (n, e)) :
    i.holds (n * ((powerOfTen e).1 * Nat.pow 2 1076)) (powerOfTen e).2 = true := by
  obtain ⟨digits, -, point⟩ := List.exists_of_findSome?_eq_some found
  obtain ⟨n', grid, same⟩ := Option.map_eq_some_iff.1 point
  obtain ⟨rfl, rfl⟩ := Prod.mk.inj same
  exact holds_of_nearestOnGrid? grid

/-- A magnitude surrounds itself. -/
theorem surrounds_self (m : Magnitude) {den : Nat} (pos : 0 < den) :
    m.Surrounds (4 * (m.units * den)) den := by
  have stepPos := m.step_pos pos
  rw [units_mul]
  constructor <;> omega

/-- All digits of a magnitude stand for it without rounding. -/
theorem surrounds_digits (m : Magnitude) (k : Nat) :
    m.Surrounds (4 * (m.units * Nat.pow 5 k * 1 * 2 ^ k)) (Nat.pow 10 k) := by
  have digits : m.units * Nat.pow 5 k * 1 * 2 ^ k = m.units * Nat.pow 10 k := by
    rw [Nat.pow_eq, Nat.pow_eq, Nat.mul_one, Nat.mul_assoc, ← Nat.mul_pow]
  rw [digits]
  exact m.surrounds_self (Nat.pow_pos (by decide))

/-- A magnitude surrounds its shortest decimal. -/
theorem surrounds_shortest (m : Magnitude) :
    m.Surrounds (4 * (m.shortest.1 * (Interval.powerOfTen m.shortest.2).1 * 2 ^ 1074))
      (Interval.powerOfTen m.shortest.2).2 := by
  unfold shortest
  cases found : m.interval.shortest? with
  | some point =>
    have quarter : Nat.pow 2 1076 = 4 * 2 ^ 1074 := by decide +kernel
    have near := surrounds_of_holds (Interval.holds_of_shortest? found)
    rw [quarter, Nat.mul_left_comm _ 4, Nat.mul_left_comm _ 4] at near
    rwa [Nat.mul_assoc]
  | none =>
    have power : Interval.powerOfTen (-1074) = (1, Nat.pow 10 1074) := by decide +kernel
    rw [Option.getD_none, power]
    generalize 1074 = k
    exact m.surrounds_digits k

end Magnitude

/-! ## Rounding of decimals -/

namespace Binary64

open Magnitude.Interval (powerOfTen)

variable {d : Text.Decimal} {m : Magnitude}

theorem powerOfTen_snd_pos (e : Int) : 0 < (powerOfTen e).2 := by
  cases e with
  | ofNat e => exact Nat.one_pos
  | negSucc e => exact Nat.pow_pos (by decide)

/-- A decimal of a high order is large. -/
theorem le_of_order {k : Nat} (filled : d.coefficient ≠ 0)
    (high : k < (Nat.toDigits 10 d.coefficient).length + d.exponent) :
    10 ^ k * (powerOfTen d.exponent).2 ≤ d.coefficient * (powerOfTen d.exponent).1 := by
  have digits : ∀ k < (Nat.toDigits 10 d.coefficient).length, 10 ^ k ≤ d.coefficient := by
    intro k short
    by_cases none : k = 0
    · exact none ▸ Nat.one_le_iff_ne_zero.2 filled
    · refine Nat.not_lt.1 fun less => Nat.not_le.2 short ?_
      exact (Nat.length_toDigits_le_iff (by decide) (Nat.pos_of_ne_zero none)).2 less
  generalize d.exponent = e at high ⊢
  cases e with
  | ofNat e =>
    rw [Int.ofNat_eq_natCast] at high
    have some : 0 < (Nat.toDigits 10 d.coefficient).length := Nat.length_toDigits_pos
    calc 10 ^ k * 1 = 10 ^ k := Nat.mul_one _
      _ ≤ 10 ^ ((Nat.toDigits 10 d.coefficient).length - 1 + e) :=
          Nat.pow_le_pow_right (by decide) (by omega)
      _ = 10 ^ ((Nat.toDigits 10 d.coefficient).length - 1) * 10 ^ e := Nat.pow_add ..
      _ ≤ d.coefficient * 10 ^ e := Nat.mul_le_mul_right _ (digits _ (by omega))
  | negSucc n =>
    calc 10 ^ k * 10 ^ (n + 1) = 10 ^ (k + (n + 1)) := (Nat.pow_add ..).symm
      _ ≤ d.coefficient := digits _ (by omega)
      _ = d.coefficient * 1 := (Nat.mul_one _).symm

/-- A decimal of a low order is small. -/
theorem lt_of_order {k : Nat} (low : (Nat.toDigits 10 d.coefficient).length + d.exponent < -k) :
    d.coefficient * (powerOfTen d.exponent).1 * 10 ^ k < (powerOfTen d.exponent).2 := by
  generalize d.exponent = e at low ⊢
  cases e with
  | ofNat e =>
    rw [Int.ofNat_eq_natCast] at low
    omega
  | negSucc n =>
    have less : d.coefficient < 10 ^ (Nat.toDigits 10 d.coefficient).length :=
      (Nat.length_toDigits_le_iff (by decide) Nat.length_toDigits_pos).1 (Nat.le_refl _)
    calc d.coefficient * 1 * 10 ^ k = d.coefficient * 10 ^ k := by rw [Nat.mul_one]
      _ < 10 ^ (Nat.toDigits 10 d.coefficient).length * 10 ^ k :=
          Nat.mul_lt_mul_of_pos_right less (Nat.pow_pos (by decide))
      _ = 10 ^ ((Nat.toDigits 10 d.coefficient).length + k) := (Nat.pow_add ..).symm
      _ ≤ 10 ^ (n + 1) := Nat.pow_le_pow_right (by decide) (by omega)

theorem two_pow_lt_ten_pow : 2 ^ 1024 < 10 ^ 310 ∧ 2 ^ 1075 < 10 ^ 330 := by decide +kernel

/-- A decimal rounds to the magnitude that surrounds it. -/
theorem ofDecimal_eq_finite (near : m.Surrounds
      (4 * (d.coefficient * (powerOfTen d.exponent).1 * 2 ^ 1074)) (powerOfTen d.exponent).2) :
    ofDecimal d = finite d.negative m := by
  have pos := powerOfTen_snd_pos d.exponent
  have rounds := near.ofQuotient?_eq_some pos
  unfold ofDecimal
  split
  · next none =>
    by_cases zero : m = .zero
    · rw [zero]
    · have least := near.den_le zero
      rw [none] at least
      omega
  · next some =>
    dsimp only
    -- beyond the bounds on the order no magnitude but zero surrounds the decimal
    split
    · next high =>
      have large := le_of_order (k := 310) some high
      have less := near.num_lt pos
      have powers := Nat.mul_lt_mul_of_pos_right two_pow_lt_ten_pow.1 pos
      exact (large.trans_lt (less.trans powers)).false.elim
    · split
      · next low =>
        by_cases zero : m = .zero
        · rw [zero]
        · have small := lt_of_order (k := 330) low
          have least := near.den_le zero
          have powers := Nat.mul_le_mul_left (d.coefficient * (powerOfTen d.exponent).1)
            two_pow_lt_ten_pow.2.le
          exact (least.trans_lt (powers.trans_lt small)).false.elim
      · generalize d.exponent = e at rounds ⊢
        cases e with
        | ofNat e => exact congrArg (ofMagnitude? d.negative) rounds
        | negSucc n =>
          rw [show (powerOfTen (Int.negSucc n)).1 = 1 from rfl, Nat.mul_one] at rounds
          exact congrArg (ofMagnitude? d.negative) rounds

end Binary64

/-! ## Positional texts -/

namespace Text

variable {cs : List Char} {n : Nat}

theorem SpellsNat.append_zeros (h : SpellsNat cs n) (k : Nat) :
    SpellsNat (cs ++ List.replicate k '0') (n * 10 ^ k) := by
  induction k with
  | zero => simpa using h
  | succ k ih =>
    have tenfold : n * 10 ^ (k + 1) = 10 * (n * 10 ^ k) + 0 := by ring
    rw [List.replicate_succ', ← List.append_assoc, tenfold]
    exact ih.concat (d := 0) (by decide)

theorem SpellsNat.zeros_append (h : SpellsNat cs n) (k : Nat) :
    SpellsNat (List.replicate k '0' ++ cs) n := by
  induction h with
  | nil =>
    have zeros := SpellsNat.nil.append_zeros k
    rw [Nat.zero_mul, List.nil_append] at zeros
    rwa [List.append_nil]
  | concat front small ih =>
    rw [← List.append_assoc]
    exact .concat ih small

theorem spellsNat_toDigits (n : Nat) : SpellsNat (Nat.toDigits 10 n) n :=
  (readNat?_eq_some_iff.1 (readNat?_toDigits n)).2

open Magnitude.Interval (powerOfTen)

/-- A number in positional notation is a numeral for a decimal of the same value. -/
theorem Decimal.exists_spells_positional {sign : List Char} {negative : Bool}
    (spellsSign : SpellsSign sign negative) (c : Nat) (e : Int) :
    ∃ d, SpellsDecimal (sign ++ positional c e) d ∧ d.negative = negative ∧
      d.coefficient * (powerOfTen d.exponent).1 = c * (powerOfTen e).1 ∧
      (powerOfTen d.exponent).2 = (powerOfTen e).2 := by
  have digits := spellsNat_toDigits c
  cases e with
  | ofNat k =>
    have whole := digits.append_zeros k
    have filled : Nat.toDigits 10 c ++ List.replicate k '0' ≠ [] :=
      List.append_ne_nil_of_left_ne_nil Nat.toDigits_ne_nil _
    rw [← List.append_nil (_ ++ _)] at whole filled
    have spelled := SpellsDecimal.intro spellsSign .none filled whole .none
    rw [List.append_nil, List.append_nil] at spelled
    exact ⟨_, spelled, rfl, Nat.mul_one _, rfl⟩
  | negSucc n =>
    have padded : SpellsNat ((Nat.toDigits 10 c).leftpad (n + 1 + 1) '0') c := digits.zeros_append _
    have long : n + 1 + 1 ≤ ((Nat.toDigits 10 c).leftpad (n + 1 + 1) '0').length := by
      rw [List.length_leftpad]
      exact Nat.le_max_left ..
    unfold positional
    dsimp only
    generalize (Nat.toDigits 10 c).leftpad (n + 1 + 1) '0' = row at padded long ⊢
    have filled : row ≠ [] := List.ne_nil_of_length_pos (by omega)
    have places : (row.drop (row.length - (n + 1))).length = n + 1 := by
      rw [List.length_drop]
      omega
    rw [← List.take_append_drop (row.length - (n + 1)) row] at padded filled
    have spelled := SpellsDecimal.intro spellsSign (.point _) filled padded .none
    rw [List.append_nil, places] at spelled
    exact ⟨_, spelled, rfl, rfl, rfl⟩

end Text

namespace Binary64

/-- Every number is read back from its text. -/
theorem read?_text (x : Binary64) : read? x.text.toList = some x := by
  cases x with
  | nan => decide
  | infinite negative => cases negative <;> decide
  | finite negative m =>
    have spellsSign : Text.SpellsSign (signText negative) negative := by
      cases negative
      · exact .none
      · exact .minus
    rw [text, String.toList_ofList]
    by_cases zero : m = .zero
    · rw [zero]
      cases negative <;> decide
    · obtain ⟨d, spelled, rfl, value, grid⟩ :=
        Text.Decimal.exists_spells_positional spellsSign m.shortest.1 m.shortest.2
      have near := m.surrounds_shortest
      rw [← value, ← grid] at near
      rw [Magnitude.text, if_neg (mt Magnitude.isZero_eq_true_iff.1 zero), read?,
        Text.Decimal.read?_eq_some_iff.2 spelled]
      exact congrArg some (ofDecimal_eq_finite near)

end Binary64

end TypedSettings
