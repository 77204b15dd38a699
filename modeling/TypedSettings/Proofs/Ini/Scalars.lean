import Mathlib.Data.List.Forall2
import Mathlib.Data.String.Basic
import TypedSettings.Proofs.Ini.Spelling
import TypedSettings.Proofs.Text.NumeralGrammar

/-!
# The grammar of scalars

A scalar is inferred by readers that are tried one after the other. Here the text that each of them
takes is described without the readers: quoted texts, the two words of truth values, integer
numerals in range, decimal numerals, and all other texts. No decimal numeral is quoted or a word, so
the order of the readers matters only between integers and floats.
-/

namespace TypedSettings
set_option autoImplicit false

/-! ## Letters in two cases -/

namespace Text

variable {c letter : Char}

theorem toNat_toLower (c : Char) :
    c.toLower.toNat = if 65 ≤ c.toNat ∧ c.toNat ≤ 90 then c.toNat + 32 else c.toNat := by
  have range : (c.val ≥ 'A'.val ∧ c.val ≤ 'Z'.val) ↔ 65 ≤ c.toNat ∧ c.toNat ≤ 90 := by
    rw [ge_iff_le, UInt32.le_iff_toNat_le, UInt32.le_iff_toNat_le]
    rfl
  unfold Char.toLower
  split
  · next upper =>
    have bounds := range.1 upper
    have step : ('a'.val - 'A'.val).toNat = 32 := rfl
    rw [if_pos bounds]
    show (c.val + ('a'.val - 'A'.val)).toNat = c.toNat + 32
    rw [UInt32.toNat_add, step, Char.toNat_val]
    omega
  · next other => rw [if_neg (mt range.2 other)]

theorem toNat_toUpper (c : Char) :
    c.toUpper.toNat = if 97 ≤ c.toNat ∧ c.toNat ≤ 122 then c.toNat - 32 else c.toNat := by
  have range : (c.val ≥ 'a'.val ∧ c.val ≤ 'z'.val) ↔ 97 ≤ c.toNat ∧ c.toNat ≤ 122 := by
    rw [ge_iff_le, UInt32.le_iff_toNat_le, UInt32.le_iff_toNat_le]
    rfl
  unfold Char.toUpper
  split
  · next lower =>
    have bounds := range.1 lower
    have step : ('A'.val - 'a'.val).toNat = 4294967264 := rfl
    rw [if_pos bounds]
    show (c.val + ('A'.val - 'a'.val)).toNat = c.toNat - 32
    rw [UInt32.toNat_add, step, Char.toNat_val]
    omega
  · next other => rw [if_neg (mt range.2 other)]

theorem toLower_eq_iff (lower : 97 ≤ letter.toNat ∧ letter.toNat ≤ 122) :
    c.toLower = letter ↔ c = letter ∨ c = letter.toUpper := by
  rw [← Char.toNat_inj, ← Char.toNat_inj, ← Char.toNat_inj, toNat_toLower, toNat_toUpper,
    if_pos lower]
  split <;> omega

end Text

/-! ## Rounding gives a number -/

namespace Binary64

theorem ofMagnitude?_ne_nan (negative : Bool) (m : Option Magnitude) :
    ofMagnitude? negative m ≠ nan := by
  cases m <;> nofun

theorem ofDecimal_ne_nan (d : Text.Decimal) : ofDecimal d ≠ nan := by
  unfold ofDecimal
  dsimp only
  split
  · nofun
  · split
    · nofun
    · split
      · nofun
      · split <;> exact ofMagnitude?_ne_nan _ _

/-- Each of the words begins with one of two letters. -/
theorem ofWord?_eq_none {negative : Bool} {word : List Char}
    (h : ∀ c ∈ word, c.toLower ∉ ['n', 'i']) : ofWord? negative word = none := by
  have other : ∀ (first : Char) (rest : List Char), first ∈ ['n', 'i'] →
      String.ofList (word.map Char.toLower) ≠ String.ofList (first :: rest) := by
    intro first rest letter same
    obtain ⟨c, cs, rfl, lower, -⟩ := List.map_eq_cons_iff.1 (String.ofList_injective same)
    exact h c (List.mem_cons_self ..) (lower ▸ letter)
  unfold ofWord?
  split
  · next same => exact absurd same (other 'n' ['a', 'n'] (by decide))
  · next same => exact absurd same (other 'i' ['n', 'f'] (by decide))
  · next same => exact absurd same (other 'i' ['n', 'f', 'i', 'n', 'i', 't', 'y'] (by decide))
  · rfl

/-- Behind the filter on its characters, the general reader of floats takes the decimal numerals and
no words. -/
theorem read?_of_isNumeral (cs : List Char) :
    (if Text.isNumeral cs then read? cs else none) = (Text.Decimal.read? cs).map ofDecimal := by
  cases found : Text.Decimal.read? cs with
  | some d =>
    rw [if_pos (Text.Decimal.read?_eq_some_iff.1 found).isNumeral, read?, found]
    rfl
  | none =>
    split
    · next filtered =>
      have chars := List.all_eq_true.1 (Bool.and_eq_true_iff.1 filtered).2
      obtain ⟨sign, -, whole⟩ := Text.exists_spellsSign cs
      rw [read?, found]
      refine ofWord?_eq_none fun c mem letter => ?_
      have inText : c ∈ cs := by
        rw [whole]
        exact List.mem_append_right _ mem
      exact (Text.isNumeralChar_spec (chars c inText)).2
        (List.mem_append_right ['t', 'f'] letter)
    · rfl

end Binary64

namespace Ini

open Text

variable {cs : List Char} {truth : Bool} {d : Decimal}

/-! ## Quoted texts -/

/-- The text has two bytes or more and has a double quote at each end. -/
def Quoted (cs : List Char) : Prop :=
  2 ≤ (String.ofList cs).utf8ByteSize ∧ cs.head? = some '"' ∧ cs.getLast? = some '"'

theorem quoted_iff : Quoted cs ↔ ∃ inside, cs = '"' :: (inside ++ ['"']) := by
  constructor
  · rintro ⟨size, first, last⟩
    obtain ⟨rest, rfl⟩ := List.head?_eq_some_iff.1 first
    rcases List.eq_nil_or_concat' rest with rfl | ⟨inside, final, rfl⟩
    · exact absurd size (by decide)
    · rw [← List.cons_append, List.getLast?_concat] at last
      exact ⟨inside, by rw [Option.some.inj last]⟩
  · rintro ⟨inside, rfl⟩
    refine ⟨?_, rfl, ?_⟩
    · have quote : ('"').utf8Size = 1 := rfl
      rw [String.utf8ByteSize_ofList, String.utf8Len_cons, String.utf8Len_append,
        String.utf8Len_cons, quote]
      omega
    · rw [← List.cons_append, List.getLast?_concat]

theorem unquote?_eq_none_of_not_quoted (h : ¬ Quoted cs) : unquote? cs = none := by
  cases found : unquote? cs with
  | none => rfl
  | some inside => exact absurd (quoted_iff.2 ⟨inside, unquote?_eq_some_iff.1 found⟩) h

theorem inferScalar_of_ends (h : Quoted cs) :
    inferScalar cs = .text (String.ofList cs.tail.dropLast) := by
  obtain ⟨inside, rfl⟩ := quoted_iff.1 h
  rw [inferScalar_of_quoted (unquote?_eq_some_iff.2 rfl), List.tail_cons, List.dropLast_concat]

/-! ## Words -/

/-- The text is the word of the truth value, each letter in either case. -/
def SpellsTruth (cs : List Char) (truth : Bool) : Prop :=
  List.Forall₂ (fun c letter => c = letter ∨ c = letter.toUpper) cs (Value.truthText truth).toList

theorem map_toLower_eq_iff {word : List Char}
    (lower : ∀ letter ∈ word, 97 ≤ letter.toNat ∧ letter.toNat ≤ 122) :
    cs.map Char.toLower = word ↔
      List.Forall₂ (fun c letter => c = letter ∨ c = letter.toUpper) cs word := by
  induction word generalizing cs with
  | nil => rw [List.map_eq_nil_iff, List.forall₂_nil_right_iff]
  | cons letter word ih =>
    rw [List.map_eq_cons_iff, List.forall₂_cons_right_iff]
    have head := lower letter (List.mem_cons_self ..)
    have tail := fun c mem => lower c (List.mem_cons_of_mem letter mem)
    constructor
    · rintro ⟨c, rest, rfl, same, followed⟩
      exact ⟨c, rest, (toLower_eq_iff head).1 same, (ih tail).1 followed, rfl⟩
    · rintro ⟨c, rest, same, followed, rfl⟩
      exact ⟨c, rest, rfl, (toLower_eq_iff head).2 same, (ih tail).2 followed⟩

theorem readTruth?_eq_some_iff : readTruth? cs = some truth ↔ SpellsTruth cs truth := by
  have lower : ∀ letter ∈ (Value.truthText truth).toList,
      97 ≤ letter.toNat ∧ letter.toNat ≤ 122 := by
    have all : ((Value.truthText truth).toList.all fun letter =>
        97 ≤ letter.toNat && letter.toNat ≤ 122) = true := by
      cases truth <;> rfl
    simpa only [List.all_eq_true, Bool.and_eq_true, decide_eq_true_eq] using all
  rw [SpellsTruth, ← map_toLower_eq_iff lower]
  unfold readTruth?
  dsimp only
  cases truth with
  | true =>
    show _ ↔ cs.map Char.toLower = ['t', 'r', 'u', 'e']
    constructor
    · intro found
      split at found
      · assumption
      · split at found <;> cases found
    · intro word
      rw [if_pos word]
  | false =>
    show _ ↔ cs.map Char.toLower = ['f', 'a', 'l', 's', 'e']
    constructor
    · intro found
      split at found
      · cases found
      · split at found
        · assumption
        · cases found
    · intro word
      rw [word]
      rfl

theorem readTruth?_eq_none_iff : readTruth? cs = none ↔ ∀ truth, ¬ SpellsTruth cs truth := by
  rw [Option.eq_none_iff_forall_ne_some]
  exact forall_congr' fun truth => not_congr readTruth?_eq_some_iff

/-! ## Bare texts -/

/-- No decimal numeral is a word. -/
theorem readTruth?_of_numeral (h : SpellsDecimal cs d) : readTruth? cs = none :=
  readTruth?_eq_none fun c mem letter =>
    (isNumeralChar_spec (h.isNumeralChar c mem)).2 (List.mem_append_left ['n', 'i'] letter)

/-- No decimal numeral is quoted. -/
theorem not_quoted_of_numeral (h : SpellsDecimal cs d) : ¬ Quoted cs := fun quoted =>
  (isNumeralChar_spec (h.isNumeralChar '"' (List.mem_of_mem_head? quoted.2.1))).1 rfl

/-- The readers of a bare text in their order: a value comes from the first one that takes the
text. -/
inductive BareScalar (cs : List Char) : Value → Prop where
  | truth {truth : Bool} (word : readTruth? cs = some truth) : BareScalar cs (.boolean truth)
  | integer {number : Int64} (noWord : readTruth? cs = none) (fits : readInt64? cs = some number) :
      BareScalar cs (.integer number)
  | float {d : Decimal} (noWord : readTruth? cs = none) (noInteger : readInt64? cs = none)
      (numeral : Decimal.read? cs = some d) : BareScalar cs (.float (.ofDecimal d))
  | text (noWord : readTruth? cs = none) (noInteger : readInt64? cs = none)
      (noNumeral : Decimal.read? cs = none) : BareScalar cs (.text (String.ofList cs))

theorem bareScalar_inferBare (cs : List Char) : BareScalar cs (inferBare cs) := by
  unfold inferBare
  split
  · next word => exact .truth word
  · next noWord =>
    split
    · next fits => exact .integer noWord fits
    · next noInteger =>
      split
      · next numeral => exact .float noWord noInteger numeral
      · next noNumeral => exact .text noWord noInteger noNumeral

theorem BareScalar.inferBare_eq {v : Value} (h : BareScalar cs v) : inferBare cs = v := by
  cases h with
  | truth word => rw [inferBare, word]
  | integer noWord fits => rw [inferBare, noWord, fits]
  | float noWord noInteger numeral => rw [inferBare, noWord, noInteger, numeral]
  | text noWord noInteger noNumeral => rw [inferBare, noWord, noInteger, noNumeral]

theorem inferBare_eq_iff {v : Value} : inferBare cs = v ↔ BareScalar cs v :=
  ⟨fun same => same ▸ bareScalar_inferBare cs, BareScalar.inferBare_eq⟩

section

variable (bare : ¬ Quoted cs)
include bare

theorem inferScalar_eq_iff {v : Value} : inferScalar cs = v ↔ BareScalar cs v := by
  rw [inferScalar_of_bare (unquote?_eq_none_of_not_quoted bare), inferBare_eq_iff]

theorem inferScalar_eq_boolean_iff : inferScalar cs = .boolean truth ↔ SpellsTruth cs truth := by
  rw [inferScalar_eq_iff bare, ← readTruth?_eq_some_iff]
  constructor
  · rintro ⟨word⟩
    exact word
  · exact .truth

theorem inferScalar_eq_integer_iff {number : Int64} :
    inferScalar cs = .integer number ↔ SpellsInt cs number.toInt := by
  rw [inferScalar_eq_iff bare]
  constructor
  · rintro ⟨⟩
    next noWord fits => exact readInt64?_eq_some_iff.1 fits
  · intro spelled
    obtain ⟨d, numeral⟩ := spelled.exists_spellsDecimal
    exact .integer (readTruth?_of_numeral numeral) (readInt64?_eq_some_iff.2 spelled)

theorem exists_inferScalar_eq_integer_iff {z : Int} :
    (∃ number : Int64, number.toInt = z ∧ inferScalar cs = .integer number) ↔
      SpellsInt cs z ∧ Fits z := by
  rw [fits_iff]
  constructor
  · rintro ⟨number, rfl, inferred⟩
    exact ⟨(inferScalar_eq_integer_iff bare).1 inferred, number, rfl⟩
  · rintro ⟨spelled, number, rfl⟩
    exact ⟨number, rfl, (inferScalar_eq_integer_iff bare).2 spelled⟩

theorem inferScalar_eq_float_iff {x : Binary64} :
    inferScalar cs = .float x ↔
      (∃ d, SpellsDecimal cs d ∧ x = .ofDecimal d) ∧ ∀ z, SpellsInt cs z → ¬ Fits z := by
  rw [inferScalar_eq_iff bare, ← readInt64?_eq_none_iff]
  constructor
  · rintro ⟨⟩
    next d noWord noInteger numeral =>
      exact ⟨⟨d, Decimal.read?_eq_some_iff.1 numeral, rfl⟩, noInteger⟩
  · rintro ⟨⟨d, numeral, rfl⟩, noInteger⟩
    exact .float (readTruth?_of_numeral numeral) noInteger (Decimal.read?_eq_some_iff.2 numeral)

/-- A text that is neither a word nor a numeral stays as it is, and no other text does. -/
theorem inferScalar_eq_text_iff {content : String} :
    inferScalar cs = .text content ↔ content = String.ofList cs ∧
      (∀ truth, ¬ SpellsTruth cs truth) ∧ ∀ d, ¬ SpellsDecimal cs d := by
  rw [inferScalar_eq_iff bare, ← readTruth?_eq_none_iff, ← Decimal.read?_eq_none_iff]
  constructor
  · rintro ⟨⟩
    next noWord noInteger noNumeral => exact ⟨rfl, noWord, noNumeral⟩
  · rintro ⟨rfl, noWord, noNumeral⟩
    refine .text noWord (readInt64?_eq_none_iff.2 fun z spelled => ?_) noNumeral
    obtain ⟨d, numeral⟩ := spelled.exists_spellsDecimal
    exact absurd numeral (Decimal.read?_eq_none_iff.1 noNumeral d)

end

/-! ## Texts of every form -/

/-- An integer numeral out of range is neither wrapped around nor left as a text. -/
theorem exists_inferScalar_eq_float {z : Int} (spelled : SpellsInt cs z) (large : ¬ Fits z) :
    ∃ x, inferScalar cs = .float x := by
  obtain ⟨d, numeral⟩ := spelled.exists_spellsDecimal
  refine ⟨.ofDecimal d, (inferScalar_eq_float_iff (not_quoted_of_numeral numeral)).2 ?_⟩
  refine ⟨⟨d, numeral, rfl⟩, fun z' spelled' => ?_⟩
  rwa [spelled'.unique spelled]

theorem inferScalar_ne_nan (cs : List Char) : inferScalar cs ≠ .float .nan := by
  intro inferred
  by_cases quoted : Quoted cs
  · rw [inferScalar_of_ends quoted] at inferred
    cases inferred
  · obtain ⟨⟨d, -, rounded⟩, -⟩ := (inferScalar_eq_float_iff quoted).1 inferred
    exact Binary64.ofDecimal_ne_nan d rounded.symm

/-- Inference recognises its grammar. A quoted text gives its inside. Any other text gives a truth
value, an integer, a float or itself, each exactly when the text has the form for it. Integer
numerals out of range are floats, no text gives `nan`, and the decimal text of each integer gives
the integer. -/
theorem inferScalar_recognises_grammar (cs : List Char) :
    (Quoted cs → inferScalar cs = .text (String.ofList cs.tail.dropLast)) ∧
    (¬ Quoted cs →
      (∀ truth, inferScalar cs = .boolean truth ↔ SpellsTruth cs truth) ∧
      (∀ z : Int, (∃ number : Int64, number.toInt = z ∧ inferScalar cs = .integer number) ↔
        SpellsInt cs z ∧ Fits z) ∧
      (∀ x, inferScalar cs = .float x ↔
        (∃ d, SpellsDecimal cs d ∧ x = .ofDecimal d) ∧ ∀ z, SpellsInt cs z → ¬ Fits z) ∧
      ∀ content, inferScalar cs = .text content ↔ content = String.ofList cs ∧
        (∀ truth, ¬ SpellsTruth cs truth) ∧ ∀ d, ¬ SpellsDecimal cs d) ∧
    (∀ z, SpellsInt cs z → ¬ Fits z → ∃ x, inferScalar cs = .float x) ∧
    inferScalar cs ≠ .float .nan ∧
    (if isNumeral cs then Binary64.read? cs else none) =
      (Decimal.read? cs).map Binary64.ofDecimal ∧
    ∀ number : Int64, inferScalar number.toInt.repr.toList = .integer number := by
  refine ⟨inferScalar_of_ends, fun bare => ⟨fun truth => inferScalar_eq_boolean_iff bare,
    fun z => exists_inferScalar_eq_integer_iff bare, fun x => inferScalar_eq_float_iff bare,
    fun content => inferScalar_eq_text_iff bare⟩, fun z => exists_inferScalar_eq_float,
    inferScalar_ne_nan cs, Binary64.read?_of_isNumeral cs, fun number => ?_⟩
  exact (spells_integer number).inferred

-- the largest integer and the next one, and what lacks a digit
example : ["+9223372036854775807", "9223372036854775808", ".5E-2", ".", "1e", "-NaN"].map
    (fun text => (inferScalar text.toList).kind?) =
    [some .integer, some .float, some .float, some .string, some .string, some .string] :=
  rfl

end Ini

end TypedSettings
