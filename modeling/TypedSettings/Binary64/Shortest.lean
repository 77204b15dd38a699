import TypedSettings.Binary64.Basic
import TypedSettings.Text.Numeral

/-!
# The shortest decimal text of a floating-point number

A number is written with the fewest digits that read back to it: its decimal is a point of the
coarsest grid of powers of ten that meets the interval of reals rounding to the number. Of two
such points the nearer one is taken, of two equally near ones the larger. The text is
positional and never has an exponent.
-/

namespace TypedSettings
set_option autoImplicit false

namespace Magnitude

/-- The reals between two multiples of `2 ^ (-1076)` that round to a magnitude; the ends belong to
the interval when `closed` holds. -/
structure Interval where
  low : Nat
  center : Nat
  high : Nat
  closed : Bool

/-- The neighbour below is only half a step away when the significand is the least of its scale. -/
def interval (m : Magnitude) : Interval :=
  let step := Nat.pow 2 m.scale
  let below := if m.significand = Nat.pow 2 52 ∧ m.scale ≠ 0 then step else 2 * step
  let center := 4 * m.units
  ⟨center - below, center, center + 2 * step, m.significand % 2 = 0⟩

namespace Interval

/-- The interval holds the quotient. -/
def holds (i : Interval) (num den : Nat) : Bool :=
  if i.closed then i.low * den ≤ num && num ≤ i.high * den
  else i.low * den < num && num < i.high * den

/-- A power of ten as a quotient. -/
def powerOfTen : Int → Nat × Nat
  | .ofNat e => (Nat.pow 10 e, 1)
  | .negSucc e => (1, Nat.pow 10 (e + 1))

/-- The multiple of a power of ten in the interval that is nearest to its centre. -/
def nearestOnGrid? (i : Interval) (exponent : Int) : Option Nat :=
  let (up, down) := powerOfTen exponent
  let num := i.center * down
  let den := up * Nat.pow 2 1076
  let below := num / den
  let above := below + 1
  match i.holds (below * den) down, i.holds (above * den) down with
  | true, true => some (if 2 * (num % den) < den then below else above)
  | true, false => some below
  | false, true => some above
  | false, false => none

/-- The least power of ten above the centre, unless the centre is zero. -/
def order (i : Interval) : Int :=
  let one := Nat.pow 2 1076
  if one ≤ i.center then (Nat.toDigits 10 (i.center / one)).length
  else 1 - (Nat.toDigits 10 ((one - 1) / i.center)).length

/-- The point of the coarsest grid that meets the interval, as a coefficient and an exponent.
Seventeen digits always meet it. -/
def shortest? (i : Interval) : Option (Nat × Int) :=
  (List.range 18).findSome? fun (digits : Nat) =>
    let exponent := i.order - digits
    (i.nearestOnGrid? exponent).map fun n => (n, exponent)

end Interval

/-- The digits of a magnitude, and the power of ten that they count. All of its digits stand for
it should no grid with fewer meet its interval. -/
def shortest (m : Magnitude) : Nat × Int :=
  m.interval.shortest?.getD (m.units * Nat.pow 5 1074, -1074)

/-- The shortest positional text of a magnitude. -/
def text (m : Magnitude) : List Char :=
  if m.isZero then ['0'] else Text.Decimal.positional m.shortest.1 m.shortest.2

end Magnitude

namespace Binary64

/-- A minus for a negative number, also for a negative zero. -/
def signText (negative : Bool) : List Char := if negative then ['-'] else []

/-- The shortest text that reads back to the number. -/
def text : Binary64 → String
  | nan => "NaN"
  | infinite negative => String.ofList (signText negative ++ ['i', 'n', 'f'])
  | finite negative m => String.ofList (signText negative ++ m.text)

instance : ToString Binary64 := ⟨text⟩

end Binary64

end TypedSettings
