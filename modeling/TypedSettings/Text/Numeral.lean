/-!
# Numerals

Two spellings of numbers. An integer numeral is an optional sign and one or more ASCII digits.
A decimal numeral is an optional sign, digits with at most one point among them and at least one
digit, and an optional exponent, itself an integer numeral after `e` or `E`. Reading keeps the
exact number; only the machine types round or refuse it.
-/

namespace TypedSettings.Text
set_option autoImplicit false

/-- Cuts an optional sign off; `true` stands for a minus. -/
def splitSign : List Char → Bool × List Char
  | '-' :: rest => (true, rest)
  | '+' :: rest => (false, rest)
  | cs => (false, cs)

/-- The number that a run of ASCII digits spells. -/
def digitsValue (cs : List Char) : Nat := Nat.ofDigitChars 10 cs 0

/-- The number that a run of one or more ASCII digits spells. -/
def readNat? (cs : List Char) : Option Nat :=
  if !cs.isEmpty && cs.all Char.isDigit then some (digitsValue cs) else none

/-- A magnitude under its sign. -/
def signed (negative : Bool) (n : Nat) : Int := if negative then -n else n

/-- The number that an integer numeral spells. -/
def readInt? (cs : List Char) : Option Int :=
  (readNat? (splitSign cs).2).map (signed (splitSign cs).1)

/-- The number that an integer numeral spells, if it fits 64 bits. -/
def readInt64? (cs : List Char) : Option Int64 :=
  (readInt? cs).bind fun n =>
    if Int64.minValue.toInt ≤ n ∧ n ≤ Int64.maxValue.toInt then some (Int64.ofInt n) else none

/-- An exact decimal number `± coefficient * 10 ^ exponent`, with its sign kept also for zero. -/
structure Decimal where
  negative : Bool
  coefficient : Nat
  exponent : Int
  deriving DecidableEq, Repr

namespace Decimal

/-- The exponent of a decimal numeral: nothing, or an integer numeral after `e` or `E`. -/
def readExponent? : List Char → Option Int
  | [] => some 0
  | c :: rest => if c = 'e' ∨ c = 'E' then readInt? rest else none

/-- The leading digits of a text, and what follows them. -/
def splitDigits (cs : List Char) : List Char × List Char :=
  (cs.takeWhile Char.isDigit, cs.dropWhile Char.isDigit)

/-- The digits after a point, and what follows them; without a point there are none. -/
def splitFraction : List Char → List Char × List Char
  | '.' :: rest => splitDigits rest
  | cs => ([], cs)

/-- The number that a decimal numeral spells. -/
def read? (cs : List Char) : Option Decimal :=
  let (negative, body) := splitSign cs
  let (whole, afterWhole) := splitDigits body
  let (fraction, afterFraction) := splitFraction afterWhole
  if whole.isEmpty && fraction.isEmpty then none
  else (readExponent? afterFraction).map fun e =>
    ⟨negative, digitsValue (whole ++ fraction), e - fraction.length⟩

/-- The digits of `coefficient * 10 ^ exponent` in positional notation, without an exponent. -/
def positional (coefficient : Nat) (exponent : Int) : List Char :=
  let digits := Nat.toDigits 10 coefficient
  match exponent with
  | .ofNat zeros => digits ++ List.replicate zeros '0'
  | .negSucc n =>
    let places := n + 1
    let padded := digits.leftpad (places + 1) '0'
    let point := padded.length - places
    padded.take point ++ '.' :: padded.drop point

end Decimal

theorem readNat?_toDigits (n : Nat) : readNat? (Nat.toDigits 10 n) = some n := by
  have hdigit : (Nat.toDigits 10 n).all Char.isDigit = true := by
    simpa using fun c hc => Nat.isDigit_of_mem_toDigits (by decide) (by decide) hc
  have hne : (Nat.toDigits 10 n).isEmpty = false := by
    simp [Nat.toDigits_ne_nil]
  simp [readNat?, hdigit, hne, digitsValue, Nat.ofDigitChars_ten_toDigits]

end TypedSettings.Text
