import TypedSettings.Proofs.Listings
import TypedSettings.Text.Quoted

/-!
# Quoted texts are read back

A quoted text can be read back character by character: what stands behind a backslash tells a
character that is not shown as itself. Reading accepts exactly what quoting writes, so that each
text, and each list of texts, has one quoted form.
-/

namespace TypedSettings.Text
set_option autoImplicit false

/-! ## Code points in hexadecimal digits -/

/-- The value of a hexadecimal digit in lower case. -/
def hexValue (c : Char) : Nat := if c.isDigit then c.toNat - 0x30 else c.toNat - 0x61 + 10

/-- The number that hexadecimal digits spell. -/
def hexNumber (digits : List Char) : Nat := digits.foldl (fun n c => 16 * n + hexValue c) 0

theorem hexValue_digitChar {d : Nat} (small : d < 16) : hexValue d.digitChar = d := by
  have all : ∀ d < 16, hexValue (Nat.digitChar d) = d := by decide
  exact all d small

theorem hexNumber_toDigits (n : Nat) : hexNumber (Nat.toDigits 16 n) = n := by
  induction n using Nat.strongRecOn with
  | ind n ih =>
    rw [Nat.toDigits_eq_if (by decide)]
    split
    · next small =>
      rw [hexNumber, List.foldl_cons, List.foldl_nil, hexValue_digitChar small]
      omega
    · next large =>
      have shorter := ih (n / 16) (by omega)
      unfold hexNumber at shorter ⊢
      rw [List.foldl_append, shorter, List.foldl_cons, List.foldl_nil, hexValue_digitChar (by omega)]
      omega

theorem exists_digitChar_of_mem_toDigits {n : Nat} {c : Char} (mem : c ∈ Nat.toDigits 16 n) :
    ∃ d < 16, c = Nat.digitChar d := by
  induction n using Nat.strongRecOn with
  | ind n ih =>
    rw [Nat.toDigits_eq_if (by decide)] at mem
    split at mem
    · next small => exact ⟨n, small, List.mem_singleton.1 mem⟩
    · next large =>
      rcases List.mem_append.1 mem with earlier | last
      · exact ih (n / 16) (by omega) earlier
      · exact ⟨n % 16, by omega, List.mem_singleton.1 last⟩

/-- No digit ends a code point. -/
theorem digit_ne_brace {n : Nat} {c : Char} (mem : c ∈ Nat.toDigits 16 n) : (c != '\x7d') = true := by
  obtain ⟨d, small, rfl⟩ := exists_digitChar_of_mem_toDigits mem
  have all : ∀ d < 16, (Nat.digitChar d != '\x7d') = true := by decide
  exact all d small

/-! ## Characters -/

/-- The characters that a letter or sign stands for behind a backslash. -/
def marks : List (Char × Char) :=
  [('0', '\x00'), ('t', '\t'), ('n', '\n'), ('r', '\r'), ('"', '"'), ('\\', '\\')]

/-- How a character is shown: behind a backslash by its mark, or by its code point if it has no mark
and cannot be seen; any other character as itself. -/
inductive Shows (c : Char) : List Char → Prop where
  | marked {mark : Char} (stands : (mark, c) ∈ marks) : Shows c ['\\', mark]
  | coded (unmarked : c ∉ marks.map Prod.snd) (hidden : inRanges hiddenRanges c = true) :
      Shows c ('\\' :: 'u' :: '\x7b' :: (Nat.toDigits 16 c.toNat ++ ['\x7d']))
  | plain (unmarked : c ∉ marks.map Prod.snd) (visible : inRanges hiddenRanges c = false) :
      Shows c [c]

variable {c : Char} {shown cs rest : List Char}

theorem escape_of_unmarked (unmarked : c ∉ marks.map Prod.snd) :
    escape c = if inRanges hiddenRanges c then escapeCode c else [c] := by
  unfold escape
  split
  case h_7 => rfl
  all_goals exact absurd (by decide) unmarked

/-- Every character is shown in its one way. -/
theorem shows_iff : Shows c shown ↔ shown = escape c := by
  constructor
  · intro shows
    cases shows with
    | marked stands =>
      have all : ∀ m ∈ marks, ['\\', m.1] = escape m.2 := by decide
      exact all _ stands
    | coded unmarked hidden =>
      rw [escape_of_unmarked unmarked, if_pos hidden]
      rfl
    | plain unmarked visible =>
      rw [escape_of_unmarked unmarked, visible]
      rfl
  · rintro rfl
    by_cases marked : c ∈ marks.map Prod.snd
    · obtain ⟨⟨mark, c⟩, stands, rfl⟩ := List.mem_map.1 marked
      have all : ∀ m ∈ marks, escape m.2 = ['\\', m.1] := by decide
      rw [all _ stands]
      exact .marked stands
    · rw [escape_of_unmarked marked]
      cases hidden : inRanges hiddenRanges c with
      | true => exact .coded marked hidden
      | false => exact .plain marked hidden

/-! ## Reading a character -/

/-- The character with a code point, if that is how the character is shown. -/
def coded? (digits : List Char) : Option Char :=
  let c := Char.ofNat (hexNumber digits)
  if c ∉ marks.map Prod.snd ∧ inRanges hiddenRanges c ∧ digits = Nat.toDigits 16 c.toNat then some c
  else none

/-- Reads the first character of a quoted text, and gives what follows. -/
def unescape? : List Char → Option (Char × List Char)
  | '\\' :: 'u' :: '\x7b' :: rest =>
    match rest.dropWhile (· != '\x7d') with
    | _ :: after => (coded? (rest.takeWhile (· != '\x7d'))).map fun c => (c, after)
    | [] => none
  | '\\' :: mark :: rest => (marks.lookup mark).map fun c => (c, rest)
  | c :: rest => if c ∈ marks.map Prod.snd ∨ inRanges hiddenRanges c then none else some (c, rest)
  | [] => none

theorem coded?_toDigits (unmarked : c ∉ marks.map Prod.snd)
    (hidden : inRanges hiddenRanges c = true) :
    coded? (Nat.toDigits 16 c.toNat) = some c := by
  rw [coded?, hexNumber_toDigits, Char.ofNat_toNat]
  exact if_pos ⟨unmarked, hidden, rfl⟩

theorem Shows.unescape?_append (shows : Shows c shown) (rest : List Char) :
    unescape? (shown ++ rest) = some (c, rest) := by
  cases shows with
  | marked stands =>
    have all : ∀ m ∈ marks, m.1 ≠ 'u' ∧ marks.lookup m.1 = some m.2 := by decide
    obtain ⟨notCode, found⟩ := all _ stands
    rw [List.cons_append, List.singleton_append, unescape?, found]
    · rfl
    · exact fun _ code => absurd code notCode
  | coded unmarked hidden =>
    have inside : ∀ d ∈ Nat.toDigits 16 c.toNat, (d != '\x7d') = true := fun _ => digit_ne_brace
    have digits : (Nat.toDigits 16 c.toNat ++ '\x7d' :: rest).takeWhile (· != '\x7d') =
        Nat.toDigits 16 c.toNat := by
      rw [List.takeWhile_append_of_pos inside]
      exact List.append_nil _
    have after : (Nat.toDigits 16 c.toNat ++ '\x7d' :: rest).dropWhile (· != '\x7d') =
        '\x7d' :: rest := List.dropWhile_append_of_pos inside
    rw [List.cons_append, List.cons_append, List.cons_append, List.append_assoc,
      List.singleton_append, unescape?, after, digits, coded?_toDigits unmarked hidden]
    rfl
  | plain unmarked visible =>
    have noBackslash : c ≠ '\\' := by
      rintro rfl
      exact unmarked (by decide)
    rw [List.singleton_append, unescape?, if_neg (by simp [unmarked, visible])]
    · exact fun _ same => absurd same noBackslash
    · exact fun _ _ same => absurd same noBackslash

theorem shows_of_coded? {digits : List Char} (coded : coded? digits = some c) :
    Shows c ('\\' :: 'u' :: '\x7b' :: (digits ++ ['\x7d'])) := by
  dsimp only [coded?] at coded
  split at coded
  · next fits =>
    obtain ⟨unmarked, hidden, least⟩ := fits
    rw [Option.some.inj coded] at unmarked hidden least
    rw [least]
    exact .coded unmarked hidden
  · cases coded

theorem exists_shows_of_unescape? (read : unescape? cs = some (c, rest)) :
    ∃ shown, Shows c shown ∧ cs = shown ++ rest := by
  unfold unescape? at read
  split at read
  · next body =>
    split at read
    · next brace after found =>
      obtain ⟨d, coded, same⟩ := Option.map_eq_some_iff.1 read
      obtain ⟨rfl, rfl⟩ := Prod.mk.inj same
      have ends := List.head?_dropWhile_not (· != '\x7d') body
      rw [found, List.head?_cons] at ends
      obtain rfl : brace = '\x7d' := by simpa using ends
      refine ⟨_, shows_of_coded? coded, ?_⟩
      rw [List.cons_append, List.cons_append, List.cons_append, List.append_assoc,
        List.singleton_append, ← found, List.takeWhile_append_dropWhile]
    · cases read
  · next mark body notCode =>
    obtain ⟨d, found, same⟩ := Option.map_eq_some_iff.1 read
    obtain ⟨rfl, rfl⟩ := Prod.mk.inj same
    exact ⟨_, .marked (mem_of_lookup found), rfl⟩
  · next d body _ _ =>
    split at read
    · cases read
    · next shownAsItself =>
      obtain ⟨rfl, rfl⟩ := Prod.mk.inj (Option.some.inj read)
      rw [not_or, Bool.not_eq_true] at shownAsItself
      exact ⟨[d], .plain shownAsItself.1 shownAsItself.2, rfl⟩
  · cases read

/-- A character is read exactly where it is shown. -/
theorem unescape?_eq_some_iff : unescape? cs = some (c, rest) ↔ cs = escape c ++ rest := by
  constructor
  · intro read
    obtain ⟨shown, shows, rfl⟩ := exists_shows_of_unescape? read
    rw [shows_iff.1 shows]
  · rintro rfl
    exact (shows_iff.2 rfl).unescape?_append rest

theorem Shows.exists_cons (shows : Shows c shown) : ∃ d later, shown = d :: later ∧ d ≠ '"' := by
  cases shows with
  | marked stands => exact ⟨_, _, rfl, by decide⟩
  | coded unmarked hidden => exact ⟨_, _, rfl, by decide⟩
  | plain unmarked visible =>
    refine ⟨c, [], rfl, ?_⟩
    rintro rfl
    exact unmarked (by decide)

theorem length_lt_of_unescape? (read : unescape? cs = some (c, rest)) : rest.length < cs.length := by
  obtain ⟨shown, shows, rfl⟩ := exists_shows_of_unescape? read
  obtain ⟨d, later, rfl, -⟩ := shows.exists_cons
  rw [List.length_append, List.length_cons]
  omega

/-! ## Reading a text -/

/-- Reads a quoted text up to the quote that ends it, and gives what follows. -/
def readQuoted? (cs : List Char) : Option (List Char × List Char) :=
  if cs.head? = some '"' then some ([], cs.tail)
  else
    match _ : unescape? cs with
    | some (c, rest) => (readQuoted? rest).map fun r => (c :: r.1, r.2)
    | none => none
termination_by cs.length
decreasing_by exact length_lt_of_unescape? ‹_›

variable {text : List Char}

theorem readQuoted?_quote (rest : List Char) : readQuoted? ('"' :: rest) = some ([], rest) := by
  rw [readQuoted?]
  rfl

theorem readQuoted?_escape (c : Char) (cs : List Char) :
    readQuoted? (escape c ++ cs) = (readQuoted? cs).map fun r => (c :: r.1, r.2) := by
  have read := unescape?_eq_some_iff.2 (rfl : escape c ++ cs = _)
  obtain ⟨d, later, shown, noQuote⟩ := (shows_iff.2 (rfl : escape c = escape c)).exists_cons
  have inside : (escape c ++ cs).head? ≠ some '"' := by
    rw [shown]
    simpa using noQuote
  rw [readQuoted?, if_neg inside]
  split
  · next e rest found =>
    obtain ⟨rfl, rfl⟩ := Prod.mk.inj (Option.some.inj (read.symm.trans found))
    rfl
  · next none => cases read.symm.trans none

/-- A text is read exactly where its characters are shown up to a quote. -/
theorem readQuoted?_eq_some_iff :
    readQuoted? cs = some (text, rest) ↔ cs = text.flatMap escape ++ '"' :: rest := by
  constructor
  · intro read
    induction cs using readQuoted?.induct generalizing text with
    | case1 cs ends =>
      obtain ⟨after, rfl⟩ := List.head?_eq_some_iff.1 ends
      rw [readQuoted?_quote] at read
      obtain ⟨rfl, rfl⟩ := Prod.mk.inj (Option.some.inj read)
      rfl
    | case2 cs inside c after first ih =>
      obtain rfl := unescape?_eq_some_iff.1 first
      rw [readQuoted?_escape] at read
      obtain ⟨⟨later, end'⟩, found, same⟩ := Option.map_eq_some_iff.1 read
      obtain ⟨rfl, rfl⟩ := Prod.mk.inj same
      rw [ih found, List.flatMap_cons, List.append_assoc]
    | case3 cs inside noChar =>
      rw [readQuoted?, if_neg inside] at read
      split at read
      · next found => cases noChar.symm.trans found
      · cases read
  · rintro rfl
    induction text with
    | nil => exact readQuoted?_quote rest
    | cons c text ih =>
      rw [List.flatMap_cons, List.append_assoc, readQuoted?_escape, ih]
      rfl

/-! ## Reading a list -/

/-- A text between quotes. -/
def quoted (text : List Char) : List Char := '"' :: (text.flatMap escape ++ ['"'])

theorem readQuoted?_quoted : readQuoted? cs = some (text, rest) ↔ '"' :: cs = quoted text ++ rest := by
  rw [readQuoted?_eq_some_iff, quoted, List.cons_append, List.append_assoc, List.singleton_append,
    List.cons_inj_right]

theorem toList_quote (text : String) : (quote text).toList = quoted text.toList :=
  String.toList_ofList

/-- Reads a text between quotes. -/
def readText? (shown : String) : Option String :=
  match shown.toList with
  | '"' :: body =>
    match readQuoted? body with
    | some (text, []) => some (String.ofList text)
    | _ => none
  | _ => none

/-- A text is read exactly from its quoted form. -/
theorem readText?_eq_some_iff {shown text : String} :
    readText? shown = some text ↔ shown = quote text := by
  rw [← String.toList_inj, toList_quote]
  constructor
  · intro read
    unfold readText? at read
    split at read
    · next body begins =>
      split at read
      · next inside found =>
        obtain rfl := Option.some.inj read
        rw [begins, String.toList_ofList, readQuoted?_quoted.1 found, List.append_nil]
      · cases read
    · cases read
  · intro shows
    have read := readQuoted?_quoted.2 (List.append_nil (quoted text.toList)).symm
    simp only [readText?, shows, quoted, read, String.ofList_toList]

theorem length_lt_of_readQuoted? (read : readQuoted? cs = some (text, rest)) :
    rest.length < cs.length := by
  rw [readQuoted?_eq_some_iff.1 read, List.length_append, List.length_cons]
  omega

/-- Reads quoted texts with a comma and a blank between them, up to the bracket that ends the list.
-/
def readItems? (cs : List Char) : Option (List (List Char)) :=
  match cs with
  | '"' :: body =>
    match _ : readQuoted? body with
    | some (text, ',' :: ' ' :: rest) => (readItems? rest).map (text :: ·)
    | some (text, [']']) => some [text]
    | _ => none
  | _ => none
termination_by cs.length
decreasing_by
  have shorter := length_lt_of_readQuoted? ‹_›
  simp only [List.length_cons] at shorter ⊢
  omega

/-- Reads a list of quoted texts between brackets. -/
def readList? (shown : String) : Option (List String) :=
  match shown.toList with
  | ['[', ']'] => some []
  | '[' :: items => (readItems? items).map (·.map String.ofList)
  | _ => none

variable {texts : List (List Char)}

theorem readItems?_last (text : List Char) : readItems? (quoted text ++ [']']) = some [text] := by
  have read := readQuoted?_quoted.2 (rfl : quoted text ++ [']'] = _)
  rw [quoted, List.cons_append, readItems?]
  split
  · next found => cases read.symm.trans found
  · next found =>
    obtain ⟨rfl, -⟩ := Prod.mk.inj (Option.some.inj (read.symm.trans found))
    rfl
  · next none => exact absurd read (none _)

theorem readItems?_more (text rest : List Char) :
    readItems? (quoted text ++ ',' :: ' ' :: rest) = (readItems? rest).map (text :: ·) := by
  have read := readQuoted?_quoted.2 (rfl : quoted text ++ ',' :: ' ' :: rest = _)
  rw [quoted, List.cons_append, readItems?]
  split
  · next found =>
    cases read.symm.trans found
    rfl
  · next found => cases read.symm.trans found
  · next noMore _ => exact absurd read (noMore _ _)

theorem intercalate_quoted_cons (text : List Char) (filled : texts ≠ []) :
    [',', ' '].intercalate ((text :: texts).map quoted) =
      quoted text ++ ',' :: ' ' :: [',', ' '].intercalate (texts.map quoted) := by
  have filled : texts.map quoted ≠ [] := mt List.map_eq_nil_iff.1 filled
  rw [List.map_cons, List.intercalate_cons_of_ne_nil filled, List.append_assoc]
  rfl

/-- Items are read exactly where quoted texts stand with a comma and a blank between them. -/
theorem readItems?_eq_some_iff :
    readItems? cs = some texts ↔
      texts ≠ [] ∧ cs = [',', ' '].intercalate (texts.map quoted) ++ [']'] := by
  constructor
  · intro read
    fun_induction readItems? cs generalizing texts with
    | case1 body text rest found ih =>
      obtain ⟨later, items, rfl⟩ := Option.map_eq_some_iff.1 read
      obtain ⟨filled, rfl⟩ := ih items
      refine ⟨List.cons_ne_nil _ _, ?_⟩
      rw [readQuoted?_quoted.1 found, intercalate_quoted_cons text filled, List.append_assoc]
      rfl
    | case2 body text found =>
      obtain rfl := Option.some.inj read
      refine ⟨List.cons_ne_nil _ _, ?_⟩
      rw [readQuoted?_quoted.1 found, List.map_singleton, List.intercalate_singleton]
    | case3 body other => cases read
    | case4 cs other => cases read
  · rintro ⟨filled, rfl⟩
    induction texts with
    | nil => exact absurd rfl filled
    | cons text later ih =>
      by_cases last : later = []
      · rw [last, List.map_singleton, List.intercalate_singleton]
        exact readItems?_last text
      · rw [intercalate_quoted_cons text last, List.append_assoc]
        exact (readItems?_more _ _).trans (congrArg _ (ih last))

theorem toList_quoteList (texts : List String) :
    (quoteList texts).toList =
      '[' :: ([',', ' '].intercalate ((texts.map String.toList).map quoted) ++ [']']) := by
  have items : (texts.map quote).map String.toList = (texts.map String.toList).map quoted := by
    rw [List.map_map, List.map_map]
    exact List.map_congr_left fun text _ => toList_quote text
  rw [quoteList, String.toList_append, String.toList_append, String.toList_intercalate, items]
  rfl

/-- A list of texts is read exactly from its quoted form. -/
theorem readList?_eq_some_iff {shown : String} {texts : List String} :
    readList? shown = some texts ↔ shown = quoteList texts := by
  rw [← String.toList_inj, toList_quoteList]
  constructor
  · intro read
    unfold readList? at read
    split at read
    · next empty =>
      obtain rfl := Option.some.inj read
      rw [empty]
      rfl
    · next items _ listed =>
      obtain ⟨found, itemsRead, rfl⟩ := Option.map_eq_some_iff.1 read
      have same : (found.map String.ofList).map String.toList = found := by
        rw [List.map_map]
        exact (List.map_congr_left fun _ _ => String.toList_ofList).trans (List.map_id found)
      rw [listed, same, ← (readItems?_eq_some_iff.1 itemsRead).2]
    · cases read
  · intro listed
    cases texts with
    | nil =>
      rw [readList?, listed]
      rfl
    | cons text later =>
      have filled : (text :: later).map String.toList ≠ [] := List.cons_ne_nil _ _
      have items := readItems?_eq_some_iff.2 ⟨filled, rfl⟩
      obtain ⟨body, starts⟩ : ∃ body, [',', ' '].intercalate
          (((text :: later).map String.toList).map quoted) ++ [']'] = '"' :: body := by
        cases later <;> exact ⟨_, rfl⟩
      rw [starts] at items listed
      rw [readList?, listed]
      show (readItems? ('"' :: body)).map _ = _
      rw [items, Option.map_some, List.map_map]
      exact congrArg some
        ((List.map_congr_left fun _ _ => String.ofList_toList).trans (List.map_id (text :: later)))

theorem quoteList_injective : Function.Injective quoteList := by
  intro texts other same
  exact Option.some.inj ((readList?_eq_some_iff.2 rfl).symm.trans (readList?_eq_some_iff.2 same))

end TypedSettings.Text
