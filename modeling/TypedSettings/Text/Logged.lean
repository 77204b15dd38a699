import TypedSettings.Text.Quoted

/-!
# Logged text

A message may hold text from elsewhere, a path for instance. Controls with which this text could
steer the terminal that shows the log are spelled out; all other characters stay. A message with
line ends fills several lines.
-/

namespace TypedSettings.Text
set_option autoImplicit false

/-- The character is bell, backspace, form feed, escape, delete or a C1 control. -/
def steers (c : Char) : Bool :=
  c ∈ ['\x07', '\x08', '\x0c', '\x1b', '\x7f'] || 0x80 ≤ c.toNat && c.toNat ≤ 0x9F

/-- The code point of an ASCII character in two lower-case hexadecimal digits. -/
def escapeAscii (c : Char) : List Char :=
  ['\\', 'x', Nat.digitChar (c.toNat / 16), Nat.digitChar (c.toNat % 16)]

/-- A character of a logged text. -/
def spellOut (c : Char) : List Char :=
  if steers c then if c.toNat < 0x80 then escapeAscii c else escapeCode c else [c]

/-- A text as it is logged. -/
def logged (text : String) : String := String.ofList (text.toList.flatMap spellOut)

/-- The lines that a printed text fills. Only a line feed ends a line. -/
def printedLines (text : String) : List String := (text.toList.splitOn '\n').map String.ofList

theorem spellOut_of_not_steers {c : Char} (h : steers c = false) : spellOut c = [c] := by
  simp [spellOut, h]

theorem flatMap_spellOut {cs : List Char} (h : ∀ c ∈ cs, steers c = false) : cs.flatMap spellOut = cs := by
  induction cs with
  | nil => rfl
  | cons c cs ih =>
    simp only [List.mem_cons, forall_eq_or_imp] at h
    rw [List.flatMap_cons, spellOut_of_not_steers h.1, ih h.2]
    rfl

/-- A text without such controls is logged as it is. -/
theorem logged_of_not_steers {text : String} (h : ∀ c ∈ text.toList, steers c = false) :
    logged text = text := by
  rw [logged, flatMap_spellOut h, String.ofList_toList]

end TypedSettings.Text
