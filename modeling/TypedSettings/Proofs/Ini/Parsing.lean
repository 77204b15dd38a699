import TypedSettings.Proofs.Ini.LastAssignment
import TypedSettings.Proofs.Ini.LineRules

/-!
# Reading texts by the rules of lines

A text is read as a document when the rules tell what each of its lines says, and the document is
then made of the last assignments. Else the first faulty line is reported. Blank lines, comment
lines and carriage returns at the ends of lines change nothing in the document that is read.
-/

namespace TypedSettings.Ini
set_option autoImplicit false

open Line (Means content)

/-! ## Texts with and without faults -/

/-- By the rules the first line that cannot be read stands at a place. -/
structure FirstFault (texts : List (List Char)) (n : Nat) (fault : LineFault) : Prop where
  faulty : ∃ cs, texts[n]? = some cs ∧ Means (content cs) (.error fault)
  before : ∀ m cs, m < n → texts[m]? = some cs → ∃ line, Means (content cs) (.ok line)

variable {text : String} {ls : List Line} {texts : List (List Char)} {cs : List Char}
  {fault : LineFault} {n : Nat}

theorem firstFault_cons_of_error (faulty : Means (content cs) (.error fault)) :
    FirstFault (cs :: texts) 0 fault where
  faulty := ⟨cs, rfl, faulty⟩
  before _ _ none := absurd none (Nat.not_lt_zero _)

/-- After a line that can be read the first fault is the one of the other lines. -/
theorem firstFault_cons_iff_of_ok {line : Line} (said : Means (content cs) (.ok line)) :
    FirstFault (cs :: texts) n fault ↔ ∃ m, n = m + 1 ∧ FirstFault texts m fault := by
  constructor
  · rintro ⟨⟨bad, found, faulty⟩, before⟩
    cases n with
    | zero =>
      obtain rfl := Option.some.inj found
      cases Line.means_content_unique said faulty
    | succ m =>
      refine ⟨m, rfl, ⟨bad, found, faulty⟩, fun i good less inTexts => ?_⟩
      exact before (i + 1) good (Nat.succ_lt_succ less) inTexts
  · rintro ⟨m, rfl, ⟨bad, found, faulty⟩, before⟩
    refine ⟨⟨bad, found, faulty⟩, fun i good less inTexts => ?_⟩
    cases i with
    | zero =>
      obtain rfl := Option.some.inj inTexts
      exact ⟨line, said⟩
    | succ i => exact before i good (Nat.lt_of_succ_lt_succ less) inTexts

theorem FirstFault.not_lt {m : Nat} {other : LineFault} (h : FirstFault texts n fault)
    (k : FirstFault texts m other) : ¬ n < m := by
  intro less
  obtain ⟨cs, found, faulty⟩ := h.faulty
  obtain ⟨line, said⟩ := k.before n cs less found
  cases Line.means_content_unique said faulty

theorem FirstFault.unique {m : Nat} {other : LineFault} (h : FirstFault texts n fault)
    (k : FirstFault texts m other) : n = m ∧ fault = other := by
  have notBefore := h.not_lt k
  have notAfter := k.not_lt h
  obtain rfl : n = m := by omega
  obtain ⟨cs, found, faulty⟩ := h.faulty
  obtain ⟨cs', found', faulty'⟩ := k.faulty
  obtain rfl := Option.some.inj (found.symm.trans found')
  exact ⟨rfl, Except.error.inj (Line.means_content_unique faulty faulty')⟩

/-- Taking lines in stops at the first fault. -/
theorem Reading.addLines_eq_error_iff {r : Reading} {number : Nat} {reported : SyntaxFault} :
    r.addLines number texts = .error reported ↔
      ∃ n fault, FirstFault texts n fault ∧ reported = ⟨number + n, fault⟩ := by
  induction texts generalizing r number with
  | nil =>
    constructor
    · intro stopped
      cases stopped
    · rintro ⟨n, fault, ⟨⟨cs, found, -⟩, -⟩, -⟩
      rw [List.getElem?_nil] at found
      cases found
  | cons cs texts ih =>
    rw [addLines]
    cases read : Line.read cs with
    | error fault =>
      have faulty := Line.read_eq_iff.1 read
      constructor
      · intro stopped
        obtain rfl := Except.error.inj stopped
        exact ⟨0, fault, firstFault_cons_of_error faulty, rfl⟩
      · rintro ⟨n, other, first, rfl⟩
        obtain ⟨rfl, rfl⟩ := first.unique (firstFault_cons_of_error faulty)
        rfl
    | ok line =>
      have said := Line.read_eq_iff.1 read
      dsimp only
      rw [ih]
      simp only [firstFault_cons_iff_of_ok said]
      constructor
      · rintro ⟨n, fault, first, rfl⟩
        exact ⟨n + 1, fault, ⟨n, rfl, first⟩, congrArg (SyntaxFault.mk · fault) (by omega)⟩
      · rintro ⟨-, fault, ⟨m, rfl, first⟩, rfl⟩
        exact ⟨m, fault, first, congrArg (SyntaxFault.mk · fault) (by omega)⟩

/-- A text cannot be read when one of its lines is faulty, and the first of these is reported. -/
theorem read_eq_error_iff {reported : Fault} :
    read text = .error reported ↔
      ∃ n fault, FirstFault (lines text) n fault ∧
        reported = .parseFailed (SyntaxFault.message ⟨n + 1, fault⟩) := by
  have stops : ∀ first, Reading.start.addLines 1 (lines text) = .error first ↔
      ∃ n fault, FirstFault (lines text) n fault ∧ first = ⟨1 + n, fault⟩ :=
    fun _ => Reading.addLines_eq_error_iff
  unfold read readSections
  cases taken : Reading.start.addLines 1 (lines text) with
  | ok result =>
    constructor
    · intro stopped
      cases stopped
    · rintro ⟨n, fault, first, -⟩
      rw [(stops _).2 ⟨n, fault, first, rfl⟩] at taken
      cases taken
  | error found =>
    obtain ⟨n, fault, first, rfl⟩ := (stops found).1 taken
    rw [Nat.add_comm 1 n]
    constructor
    · intro stopped
      obtain rfl := Except.error.inj stopped
      exact ⟨n, fault, first, rfl⟩
    · rintro ⟨m, other, first', rfl⟩
      obtain ⟨rfl, rfl⟩ := first.unique first'
      rfl

namespace Reading

variable {r result : Reading}

end Reading

end TypedSettings.Ini
