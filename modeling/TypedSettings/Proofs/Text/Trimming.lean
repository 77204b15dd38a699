import Mathlib.Data.List.TakeWhile
import TypedSettings.Text.Blank

/-!
# Facts about trimming

Trimming leaves a contiguous part of a text whose two ends are not blank, and it leaves a text
alone exactly when its two ends are not blank. A text is therefore called tight when trimming does
nothing to it.
-/

namespace TypedSettings.Text
set_option autoImplicit false

variable {cs ds : List Char} {c : Char}

/-- Neither end of the text is blank. -/
structure Tight (cs : List Char) : Prop where
  head : ∀ c, cs.head? = some c → isBlank c = false
  last : ∀ c, cs.getLast? = some c → isBlank c = false

/-! ## What trimming leaves -/

theorem trimStart_isSuffix (cs : List Char) : trimStart cs <:+ cs := List.dropWhile_suffix isBlank

theorem trimEnd_isPrefix (cs : List Char) : trimEnd cs <+: cs := by
  rw [trimEnd, ← List.reverse_suffix, List.reverse_reverse]
  exact trimStart_isSuffix cs.reverse

theorem mem_of_mem_trim (h : c ∈ trim cs) : c ∈ cs :=
  (trimStart_isSuffix cs).mem ((trimEnd_isPrefix _).mem h)

theorem head_trimStart (h : (trimStart cs).head? = some c) : isBlank c = false := by
  have := List.head?_dropWhile_not isBlank cs
  rw [show cs.dropWhile isBlank = trimStart cs from rfl, h] at this
  exact this

theorem tight_trim (cs : List Char) : Tight (trim cs) where
  head c h := by
    obtain ⟨rest, split⟩ := trimEnd_isPrefix (trimStart cs)
    have first : (trimStart cs).head? = some c := by
      rw [← split, List.head?_append, show (trimEnd (trimStart cs)).head? = some c from h,
        Option.some_or]
    exact head_trimStart first
  last c h := by
    rw [trim, trimEnd, List.getLast?_reverse] at h
    exact head_trimStart h

/-! ## What trimming leaves alone -/

theorem trimStart_eq_self (h : ∀ c, cs.head? = some c → isBlank c = false) : trimStart cs = cs := by
  cases cs with
  | nil => rfl
  | cons c cs => exact trimStart_cons_of_not_blank (h c rfl)

theorem trimEnd_eq_self (h : ∀ c, cs.getLast? = some c → isBlank c = false) : trimEnd cs = cs := by
  rw [trimEnd, trimStart_eq_self, List.reverse_reverse]
  rw [List.head?_reverse]
  exact h

theorem Tight.trim_eq (h : Tight cs) : trim cs = cs := by
  rw [trim, trimStart_eq_self h.head, trimEnd_eq_self h.last]

theorem trim_eq_self_iff : trim cs = cs ↔ Tight cs :=
  ⟨fun h => h ▸ tight_trim cs, Tight.trim_eq⟩

/-! ## Blanks at the ends -/

theorem Tight.ne_blank_cons (h : Tight (c :: cs)) : isBlank c = false := h.head c rfl

/-- A blank after a text that begins tight is trimmed away. -/
theorem trim_append_of_blank (h : Tight cs) (blank : isBlank c = true) : trim (cs ++ [c]) = cs := by
  cases cs with
  | nil => rw [List.nil_append, trim, trimStart_cons_of_blank blank, trimStart_nil, trimEnd_nil]
  | cons d ds =>
    rw [trim, List.cons_append, trimStart_cons_of_not_blank h.ne_blank_cons, ← List.cons_append,
      trimEnd_append_of_blank blank, trimEnd_eq_self h.last]

/-- A blank before a text is trimmed away. -/
theorem trim_cons_of_blank (blank : isBlank c = true) : trim (c :: cs) = trim cs := by
  rw [trim, trimStart_cons_of_blank blank, trim]

/-- Blanks around a text are trimmed away. -/
theorem trim_surrounded {before after : List Char} (blankBefore : ∀ c ∈ before, isBlank c = true)
    (blankAfter : ∀ c ∈ after, isBlank c = true) (cs : List Char) :
    trim (before ++ cs ++ after) = trim cs := by
  have start : trimStart (before ++ cs ++ after) = trimStart (cs ++ after) := by
    rw [List.append_assoc, trimStart, List.dropWhile_append_of_pos blankBefore]
    rfl
  have finish : ∀ ds, trimEnd (ds ++ after) = trimEnd ds := by
    intro ds
    have blank : ∀ c ∈ after.reverse, isBlank c = true :=
      fun c mem => blankAfter c (List.mem_reverse.1 mem)
    rw [trimEnd, List.reverse_append, trimStart, List.dropWhile_append_of_pos blank]
    rfl
  rw [trim, start, trimStart, List.dropWhile_append]
  split
  · next empty =>
    have allBlank : trimStart cs = [] := List.isEmpty_iff.1 empty
    have nothing : after.dropWhile isBlank = [] := List.dropWhile_eq_nil_iff.2 blankAfter
    rw [nothing, trim, allBlank]
  · exact finish _

/-- Texts that begin and end tight make a tight text, whatever stands between them. -/
theorem Tight.append (h : Tight cs) (k : Tight ds) (hne : cs ≠ []) (kne : ds ≠ []) (es : List Char) :
    Tight (cs ++ es ++ ds) where
  head c first := by
    obtain ⟨d, rest, rfl⟩ := List.exists_cons_of_ne_nil hne
    exact h.head c first
  last c final := by
    have found := List.getLast?_eq_some_getLast kne
    rw [List.getLast?_append, found, Option.some_or] at final
    exact k.last c (found.trans final)

/-- A text without blanks is tight. -/
theorem tight_of_solid (solid : ∀ c ∈ cs, isBlank c = false) : Tight cs where
  head c h := solid c (List.mem_of_head? h)
  last c h := solid c (List.mem_of_getLast? h)

theorem tight_singleton (solid : isBlank c = false) : Tight [c] where
  head d h := by
    obtain rfl := Option.some.inj h
    exact solid
  last d h := by
    obtain rfl := Option.some.inj h
    exact solid

theorem trimEnd_cons_of_not_blank (solid : isBlank c = false) :
    trimEnd (c :: cs) = c :: trimEnd cs := by
  rw [trimEnd, trimEnd, trimStart, trimStart, List.reverse_cons, List.dropWhile_append]
  cases ends : cs.reverse.dropWhile isBlank with
  | nil => simp [solid]
  | cons d ds => simp

/-- The first character of a text that begins tight is still there after trimming. -/
theorem head?_trim (h : ∀ c, cs.head? = some c → isBlank c = false) :
    (trim cs).head? = cs.head? := by
  cases cs with
  | nil => rfl
  | cons c cs => rw [trim, trimStart_eq_self h, trimEnd_cons_of_not_blank (h c rfl)]; rfl

end TypedSettings.Text
