import Mathlib.Data.List.Induction
import Mathlib.Data.List.TakeWhile
import TypedSettings.Proofs.Text.Numerals

/-!
# The grammar of numerals

Each relation says which texts spell which number, with no reader in it; a numeral is a row of
parts, and its number is put together from those of the parts. Each reader gives exactly the
numbers of its relation. A reader cuts its parts off from the left, each as long as it can be, so
the proofs show for every cut that what follows a part cannot prolong it.
-/

namespace TypedSettings.Text
set_option autoImplicit false

/-! ## Digits -/

/-- The text is a row of ASCII digits for the number; the last digit counts once, and each digit
ten times the one after it. -/
inductive SpellsNat : List Char → Nat → Prop where
  | nil : SpellsNat [] 0
  | concat {cs : List Char} {n d : Nat} (front : SpellsNat cs n) (small : d < 10) :
      SpellsNat (cs ++ [Nat.digitChar d]) (10 * n + d)

variable {cs : List Char} {n : Nat} {z : Int}

theorem isDigit_digitChar {d : Nat} (small : d < 10) : (Nat.digitChar d).isDigit = true := by
  have all : ∀ d < 10, (Nat.digitChar d).isDigit = true := by decide
  exact all d small

theorem digitsValue_concat {d : Nat} (small : d < 10) :
    digitsValue (cs ++ [Nat.digitChar d]) = 10 * digitsValue cs + d := by
  have digit : (Nat.digitChar d).toNat - '0'.toNat = d := by
    rw [Nat.toNat_digitChar_of_lt_ten small]
    exact Nat.add_sub_cancel_left ..
  rw [digitsValue, Nat.ofDigitChars_append, Nat.ofDigitChars_cons, Nat.ofDigitChars_nil, digit]
  rfl

theorem SpellsNat.isDigit (h : SpellsNat cs n) : ∀ c ∈ cs, c.isDigit = true := by
  induction h with
  | nil => exact fun _ mem => absurd mem List.not_mem_nil
  | concat front small ih =>
    intro c mem
    rcases List.mem_append.1 mem with before | last
    · exact ih c before
    · rw [List.mem_singleton.1 last]
      exact isDigit_digitChar small

theorem SpellsNat.eq_digitsValue (h : SpellsNat cs n) : n = digitsValue cs := by
  induction h with
  | nil => rfl
  | concat front small ih => rw [digitsValue_concat small, ih]

theorem spellsNat_digitsValue (h : ∀ c ∈ cs, c.isDigit = true) : SpellsNat cs (digitsValue cs) := by
  induction cs using List.reverseRecOn with
  | nil => exact .nil
  | append_singleton front last ih =>
    obtain ⟨d, small, rfl⟩ := exists_digitChar (h last (by simp))
    rw [digitsValue_concat small]
    exact .concat (ih fun c mem => h c (List.mem_append_left _ mem)) small

theorem readNat?_eq_some_iff : readNat? cs = some n ↔ cs ≠ [] ∧ SpellsNat cs n := by
  rw [readNat?, Option.ite_none_right_eq_some, Bool.and_eq_true, List.all_eq_true,
    Bool.not_eq_true', List.isEmpty_eq_false_iff, Option.some.injEq]
  constructor
  · rintro ⟨⟨filled, digits⟩, rfl⟩
    exact ⟨filled, spellsNat_digitsValue digits⟩
  · rintro ⟨filled, spelled⟩
    exact ⟨⟨filled, spelled.isDigit⟩, spelled.eq_digitsValue.symm⟩

/-! ## Signs -/

/-- The text is an optional sign; `true` stands for a minus. -/
inductive SpellsSign : List Char → Bool → Prop where
  | none : SpellsSign [] false
  | plus : SpellsSign ['+'] false
  | minus : SpellsSign ['-'] true

/-- The text does not begin with a sign. -/
def Unsigned (cs : List Char) : Prop := ∀ c ∈ cs.head?, c ≠ '-' ∧ c ≠ '+'

theorem exists_spellsSign (cs : List Char) :
    ∃ sign, SpellsSign sign (splitSign cs).1 ∧ cs = sign ++ (splitSign cs).2 := by
  unfold splitSign
  split
  · exact ⟨['-'], .minus, rfl⟩
  · exact ⟨['+'], .plus, rfl⟩
  · exact ⟨[], .none, rfl⟩

theorem splitSign_append {sign body : List Char} {negative : Bool}
    (spelled : SpellsSign sign negative) (unsigned : Unsigned body) :
    splitSign (sign ++ body) = (negative, body) := by
  cases spelled with
  | none =>
    rw [List.nil_append]
    unfold splitSign
    split
    · exact absurd rfl (unsigned '-' rfl).1
    · exact absurd rfl (unsigned '+' rfl).2
    · rfl
  | plus => rfl
  | minus => rfl

theorem unsigned_of_isDigit {c : Char} {rest : List Char} (h : c.isDigit = true) :
    Unsigned (c :: rest) := by
  intro first mem
  obtain rfl := Option.some.inj mem
  constructor <;>
  · rintro rfl
    revert h
    decide

/-! ## Integer numerals -/

/-- The text is an integer numeral for the number: an optional sign and one or more digits. -/
inductive SpellsInt : List Char → Int → Prop where
  | intro {sign row : List Char} {negative : Bool} {n : Nat} (spellsSign : SpellsSign sign negative)
      (filled : row ≠ []) (digits : SpellsNat row n) : SpellsInt (sign ++ row) (signed negative n)

theorem unsigned_of_digits (filled : cs ≠ []) (digits : SpellsNat cs n) : Unsigned cs := by
  obtain ⟨c, cs, rfl⟩ := List.exists_cons_of_ne_nil filled
  exact unsigned_of_isDigit (digits.isDigit c (List.mem_cons_self ..))

theorem readInt?_eq_some_iff : readInt? cs = some z ↔ SpellsInt cs z := by
  constructor
  · intro found
    obtain ⟨n, read, rfl⟩ := Option.map_eq_some_iff.1 found
    obtain ⟨filled, digits⟩ := readNat?_eq_some_iff.1 read
    obtain ⟨sign, spellsSign, whole⟩ := exists_spellsSign cs
    have spelled := SpellsInt.intro spellsSign filled digits
    rwa [← whole] at spelled
  · rintro ⟨spellsSign, filled, digits⟩
    have cutSign := splitSign_append spellsSign (unsigned_of_digits filled digits)
    rw [readInt?, cutSign, readNat?_eq_some_iff.2 ⟨filled, digits⟩]
    rfl

theorem SpellsInt.unique {z' : Int} (h : SpellsInt cs z) (k : SpellsInt cs z') : z = z' :=
  Option.some.inj ((readInt?_eq_some_iff.2 h).symm.trans (readInt?_eq_some_iff.2 k))

/-- The numerals that are read into 64 bits are those with a number in range, which is kept. -/
theorem readInt64?_eq_some_iff {number : Int64} :
    readInt64? cs = some number ↔ SpellsInt cs number.toInt := by
  rw [← readInt?_eq_some_iff, readInt64?, Option.bind_eq_some_iff]
  constructor
  · rintro ⟨z, read, fits⟩
    rw [Option.ite_none_right_eq_some] at fits
    obtain ⟨⟨low, high⟩, same⟩ := fits
    obtain rfl := Option.some.inj same
    rwa [Int64.toInt_ofInt_of_le low (Int.lt_add_one_of_le high)]
  · intro read
    refine ⟨number.toInt, read, ?_⟩
    rw [if_pos ⟨number.minValue_le_toInt, number.toInt_le⟩, Int64.ofInt_toInt]

/-- The number fits 64 bits. -/
def Fits (z : Int) : Prop := -9223372036854775808 ≤ z ∧ z ≤ 9223372036854775807

theorem fits_iff : Fits z ↔ ∃ number : Int64, number.toInt = z := by
  constructor
  · rintro ⟨low, high⟩
    exact ⟨Int64.ofInt z, Int64.toInt_ofInt_of_le low (Int.lt_add_one_of_le high)⟩
  · rintro ⟨number, rfl⟩
    exact ⟨number.minValue_le_toInt, number.toInt_le⟩

theorem readInt64?_eq_none_iff : readInt64? cs = none ↔ ∀ z, SpellsInt cs z → ¬ Fits z := by
  rw [Option.eq_none_iff_forall_ne_some]
  constructor
  · intro none z spelled fits
    obtain ⟨number, rfl⟩ := fits_iff.1 fits
    exact none number (readInt64?_eq_some_iff.2 spelled)
  · intro none number found
    exact none _ (readInt64?_eq_some_iff.1 found) (fits_iff.2 ⟨number, rfl⟩)

/-! ## Decimal numerals -/

/-- The text is the exponent of a decimal numeral: nothing, or an integer numeral after a letter. -/
inductive SpellsExponent : List Char → Int → Prop where
  | none : SpellsExponent [] 0
  | letter {c : Char} {cs : List Char} {e : Int} (isLetter : c = 'e' ∨ c = 'E')
      (integer : SpellsInt cs e) : SpellsExponent (c :: cs) e

/-- The text is the fraction of a decimal numeral, with the characters after its point: nothing, or
a point with what follows it. -/
inductive SpellsFraction : List Char → List Char → Prop where
  | none : SpellsFraction [] []
  | point (row : List Char) : SpellsFraction ('.' :: row) row

/-- The text is a decimal numeral for the number: an optional sign; digits with an optional point
before, among or after them, and at least one digit; an optional exponent. Each digit after the
point takes one from the exponent. -/
inductive SpellsDecimal : List Char → Decimal → Prop where
  | intro {sign whole point fraction exponent : List Char} {negative : Bool} {n : Nat} {e : Int}
      (spellsSign : SpellsSign sign negative) (spellsFraction : SpellsFraction point fraction)
      (filled : whole ++ fraction ≠ []) (digits : SpellsNat (whole ++ fraction) n)
      (spellsExponent : SpellsExponent exponent e) :
      SpellsDecimal (sign ++ (whole ++ (point ++ exponent))) ⟨negative, n, e - fraction.length⟩

/-- An integer numeral is a decimal numeral without point and exponent. -/
theorem SpellsInt.exists_spellsDecimal (h : SpellsInt cs z) : ∃ d, SpellsDecimal cs d := by
  obtain @⟨sign, row, negative, n, spellsSign, filled, digits⟩ := h
  have whole : row ++ [] = row := List.append_nil row
  refine ⟨⟨negative, n, 0 - (0 : Nat)⟩, ?_⟩
  rw [← whole] at filled digits ⊢
  exact .intro spellsSign .none filled digits .none

/-- The text does not begin with a digit. -/
def Undigited (cs : List Char) : Prop := ∀ c ∈ cs.head?, c.isDigit = false

section

variable {whole point fraction rest : List Char}

theorem SpellsFraction.undigited_append (h : SpellsFraction point fraction)
    (stop : Undigited rest) : Undigited (point ++ rest) := by
  cases h with
  | none => exact stop
  | point row =>
    intro c mem
    obtain rfl := Option.some.inj mem
    rfl

/-- What follows the sign of a decimal numeral begins with a digit or with a point. -/
theorem SpellsFraction.unsigned_append (h : SpellsFraction point fraction)
    (filled : whole ++ fraction ≠ []) (digits : ∀ c ∈ whole, c.isDigit = true) :
    Unsigned (whole ++ (point ++ rest)) := by
  cases whole with
  | cons c whole => exact unsigned_of_isDigit (digits c (List.mem_cons_self ..))
  | nil =>
    cases h with
    | none => exact absurd rfl filled
    | point row =>
      intro c mem
      obtain rfl := Option.some.inj mem
      exact ⟨by decide, by decide⟩

end

namespace Decimal

theorem readExponent?_eq_some_iff {e : Int} : readExponent? cs = some e ↔ SpellsExponent cs e := by
  constructor
  · intro found
    cases cs with
    | nil =>
      obtain rfl := Option.some.inj found
      exact .none
    | cons c rest =>
      rw [readExponent?, Option.ite_none_right_eq_some] at found
      exact .letter found.1 (readInt?_eq_some_iff.1 found.2)
  · intro spelled
    cases spelled with
    | none => rfl
    | letter isLetter integer =>
      rw [readExponent?, if_pos isLetter]
      exact readInt?_eq_some_iff.2 integer

theorem splitDigits_append {row rest : List Char} (digits : ∀ c ∈ row, c.isDigit = true)
    (stop : Undigited rest) : splitDigits (row ++ rest) = (row, rest) := by
  have none : rest.takeWhile Char.isDigit = [] ∧ rest.dropWhile Char.isDigit = rest := by
    cases rest with
    | nil => exact ⟨rfl, rfl⟩
    | cons c rest =>
      have other : c.isDigit = false := stop c rfl
      exact ⟨by rw [List.takeWhile_cons, other]; rfl, by rw [List.dropWhile_cons, other]; rfl⟩
  rw [splitDigits, List.takeWhile_append_of_pos digits, List.dropWhile_append_of_pos digits, none.1,
    none.2, List.append_nil]

theorem exists_splitDigits (cs : List Char) : ∃ row rest, splitDigits cs = (row, rest) ∧
    cs = row ++ rest ∧ ∀ c ∈ row, c.isDigit = true :=
  ⟨_, _, rfl, List.takeWhile_append_dropWhile.symm, fun _ mem => List.mem_takeWhile_imp mem⟩

theorem exists_splitFraction (cs : List Char) : ∃ point fraction rest,
    splitFraction cs = (fraction, rest) ∧ cs = point ++ rest ∧ SpellsFraction point fraction ∧
      ∀ c ∈ fraction, c.isDigit = true := by
  unfold splitFraction
  split
  · next after =>
    obtain ⟨row, rest, cut, whole, digits⟩ := exists_splitDigits after
    exact ⟨'.' :: row, row, rest, cut, by rw [whole, List.cons_append], .point row, digits⟩
  · exact ⟨[], [], _, rfl, rfl, .none, fun _ mem => absurd mem List.not_mem_nil⟩

theorem splitFraction_append {point fraction rest : List Char}
    (spelled : SpellsFraction point fraction) (digits : ∀ c ∈ fraction, c.isDigit = true)
    (stop : Undigited rest) (noPoint : ∀ c ∈ rest.head?, c ≠ '.') :
    splitFraction (point ++ rest) = (fraction, rest) := by
  cases spelled with
  | none =>
    rw [List.nil_append]
    unfold splitFraction
    split
    · exact absurd rfl (noPoint '.' rfl)
    · rfl
  | point row => exact splitDigits_append digits stop

/-- The reader in terms of the parts that it cuts off. -/
theorem read?_of_parts {body whole afterWhole fraction exponent : List Char} {negative : Bool}
    (sign : splitSign cs = (negative, body)) (digits : splitDigits body = (whole, afterWhole))
    (point : splitFraction afterWhole = (fraction, exponent)) :
    read? cs = if whole.isEmpty && fraction.isEmpty then none
      else (readExponent? exponent).map fun e =>
        ⟨negative, digitsValue (whole ++ fraction), e - fraction.length⟩ := by
  rw [read?, sign]
  dsimp only
  rw [digits]
  dsimp only
  rw [point]

theorem isEmpty_and_isEmpty_iff {front back : List Char} :
    (front.isEmpty && back.isEmpty) = true ↔ front ++ back = [] := by
  rw [Bool.and_eq_true, List.isEmpty_iff, List.isEmpty_iff, List.append_eq_nil_iff]

theorem spellsDecimal_of_read? {d : Decimal} (found : read? cs = some d) : SpellsDecimal cs d := by
  obtain ⟨sign, spellsSign, hsign⟩ := exists_spellsSign cs
  obtain ⟨whole, afterWhole, cutWhole, hwhole, wholeDigits⟩ := exists_splitDigits (splitSign cs).2
  obtain ⟨point, fraction, exponent, cutPoint, hpoint, spellsFraction, fractionDigits⟩ :=
    exists_splitFraction afterWhole
  rw [read?_of_parts rfl cutWhole cutPoint, Option.ite_none_left_eq_some, isEmpty_and_isEmpty_iff]
    at found
  obtain ⟨filled, found⟩ := found
  obtain ⟨e, readExponent, rfl⟩ := Option.map_eq_some_iff.1 found
  have digits : SpellsNat (whole ++ fraction) (digitsValue (whole ++ fraction)) :=
    spellsNat_digitsValue fun c mem =>
      (List.mem_append.1 mem).elim (wholeDigits c) (fractionDigits c)
  have spelled := SpellsDecimal.intro spellsSign spellsFraction filled digits
    (readExponent?_eq_some_iff.1 readExponent)
  rwa [← hpoint, ← hwhole, ← hsign] at spelled

theorem head_of_spellsExponent {e : Int} (h : SpellsExponent cs e) :
    ∀ c ∈ cs.head?, c = 'e' ∨ c = 'E' := by
  cases h with
  | none => exact fun _ mem => by cases mem
  | letter isLetter integer =>
    intro c mem
    obtain rfl := Option.some.inj mem
    exact isLetter

theorem read?_of_spellsDecimal {d : Decimal} (h : SpellsDecimal cs d) : read? cs = some d := by
  obtain @⟨sign, whole, point, fraction, exponent, negative, n, e, spellsSign, spellsFraction,
    filled, digits, spellsExponent⟩ := h
  have letter := head_of_spellsExponent spellsExponent
  have isDigit := digits.isDigit
  have wholeDigits : ∀ c ∈ whole, c.isDigit = true := fun c mem =>
    isDigit c (List.mem_append_left _ mem)
  have fractionDigits : ∀ c ∈ fraction, c.isDigit = true := fun c mem =>
    isDigit c (List.mem_append_right _ mem)
  -- no letter of an exponent prolongs the digits or begins a fraction
  have stop : Undigited exponent := by
    intro c mem
    rcases letter c mem with rfl | rfl <;> rfl
  have noPoint : ∀ c ∈ exponent.head?, c ≠ '.' := by
    intro c mem
    rcases letter c mem with rfl | rfl <;> decide
  have cutSign : splitSign (sign ++ (whole ++ (point ++ exponent))) = (negative, _) :=
    splitSign_append spellsSign (spellsFraction.unsigned_append filled wholeDigits)
  have cutWhole := splitDigits_append wholeDigits (spellsFraction.undigited_append stop)
  have cutPoint := splitFraction_append spellsFraction fractionDigits stop noPoint
  rw [read?_of_parts cutSign cutWhole cutPoint, if_neg (mt isEmpty_and_isEmpty_iff.1 filled),
    readExponent?_eq_some_iff.2 spellsExponent, ← digits.eq_digitsValue]
  rfl

theorem read?_eq_some_iff {d : Decimal} : read? cs = some d ↔ SpellsDecimal cs d :=
  ⟨spellsDecimal_of_read?, read?_of_spellsDecimal⟩

theorem read?_eq_none_iff : read? cs = none ↔ ∀ d, ¬ SpellsDecimal cs d := by
  rw [Option.eq_none_iff_forall_ne_some]
  exact forall_congr' fun d => not_congr read?_eq_some_iff

end Decimal

/-! ## The characters of numerals -/

/-- A character of the decimal numerals. -/
def isNumeralChar (c : Char) : Bool := c.isDigit || c ∈ ['.', '-', '+', 'e', 'E']

/-- The text has a digit and no other characters than those of the numerals. -/
def isNumeral (cs : List Char) : Bool := cs.any Char.isDigit && cs.all isNumeralChar

/-- No such character is a quote or a first letter of a word in the place of a number. -/
theorem isNumeralChar_spec {c : Char} (h : isNumeralChar c = true) :
    c ≠ '"' ∧ c.toLower ∉ ['t', 'f', 'n', 'i'] := by
  rw [isNumeralChar, Bool.or_eq_true, decide_eq_true_eq] at h
  rcases h with digit | sign
  · obtain ⟨d, small, rfl⟩ := exists_digitChar digit
    have all : ∀ d < 10, Nat.digitChar d ≠ '"' ∧
        (Nat.digitChar d).toLower ∉ ['t', 'f', 'n', 'i'] := by
      decide
    exact all d small
  · simp only [List.mem_cons, List.not_mem_nil, or_false] at sign
    rcases sign with rfl | rfl | rfl | rfl | rfl <;> exact ⟨by decide, by decide⟩

section

variable {c : Char}

theorem isNumeralChar_of_isDigit (h : c.isDigit = true) : isNumeralChar c = true := by
  rw [isNumeralChar, h, Bool.true_or]

theorem SpellsSign.isNumeralChar {negative : Bool} (h : SpellsSign cs negative) :
    ∀ c ∈ cs, isNumeralChar c = true := by
  intro c mem
  cases h with
  | none => exact absurd mem List.not_mem_nil
  | plus =>
    rw [List.mem_singleton.1 mem]
    rfl
  | minus =>
    rw [List.mem_singleton.1 mem]
    rfl

theorem SpellsInt.isNumeralChar (h : SpellsInt cs z) : ∀ c ∈ cs, isNumeralChar c = true := by
  obtain ⟨spellsSign, -, digits⟩ := h
  intro c mem
  rcases List.mem_append.1 mem with inSign | inRow
  · exact spellsSign.isNumeralChar c inSign
  · exact isNumeralChar_of_isDigit (digits.isDigit c inRow)

theorem SpellsExponent.isNumeralChar {e : Int} (h : SpellsExponent cs e) :
    ∀ c ∈ cs, isNumeralChar c = true := by
  cases h with
  | none => exact fun _ mem => absurd mem List.not_mem_nil
  | letter isLetter integer =>
    intro c mem
    rcases List.mem_cons.1 mem with rfl | inInteger
    · rcases isLetter with rfl | rfl <;> decide
    · exact integer.isNumeralChar c inInteger

/-- A fraction has no other characters than its digits and its point. -/
theorem SpellsFraction.eq_or_mem {point fraction : List Char} (h : SpellsFraction point fraction)
    (mem : c ∈ point) : c = '.' ∨ c ∈ fraction := by
  cases h with
  | none => exact absurd mem List.not_mem_nil
  | point row => exact List.mem_cons.1 mem

theorem SpellsFraction.mem_of_mem {point fraction : List Char} (h : SpellsFraction point fraction)
    (mem : c ∈ fraction) : c ∈ point := by
  cases h with
  | none => exact mem
  | point row => exact List.mem_cons_of_mem _ mem

theorem SpellsDecimal.isNumeralChar {d : Decimal} (h : SpellsDecimal cs d) :
    ∀ c ∈ cs, isNumeralChar c = true := by
  obtain ⟨spellsSign, spellsFraction, -, digits, spellsExponent⟩ := h
  intro c mem
  rcases List.mem_append.1 mem with inSign | mem
  · exact spellsSign.isNumeralChar c inSign
  rcases List.mem_append.1 mem with inWhole | mem
  · exact isNumeralChar_of_isDigit (digits.isDigit c (List.mem_append_left _ inWhole))
  rcases List.mem_append.1 mem with inPoint | inExponent
  · rcases spellsFraction.eq_or_mem inPoint with rfl | inFraction
    · decide
    · exact isNumeralChar_of_isDigit (digits.isDigit c (List.mem_append_right _ inFraction))
  · exact spellsExponent.isNumeralChar c inExponent

theorem SpellsDecimal.exists_isDigit {d : Decimal} (h : SpellsDecimal cs d) :
    ∃ c ∈ cs, c.isDigit = true := by
  obtain ⟨-, spellsFraction, filled, digits, -⟩ := h
  obtain ⟨c, mem⟩ := List.exists_mem_of_ne_nil _ filled
  refine ⟨c, List.mem_append_right _ ?_, digits.isDigit c mem⟩
  rcases List.mem_append.1 mem with inWhole | inFraction
  · exact List.mem_append_left _ inWhole
  · exact List.mem_append_right _ (List.mem_append_left _ (spellsFraction.mem_of_mem inFraction))

theorem SpellsDecimal.isNumeral {d : Decimal} (h : SpellsDecimal cs d) : isNumeral cs = true := by
  rw [Text.isNumeral, Bool.and_eq_true, List.any_eq_true, List.all_eq_true]
  exact ⟨h.exists_isDigit, h.isNumeralChar⟩

end

end TypedSettings.Text
