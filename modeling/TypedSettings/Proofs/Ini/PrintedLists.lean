import TypedSettings.Proofs.Ini.Documents
import TypedSettings.Proofs.Ini.Scalars
import TypedSettings.Proofs.Registry.Checks
import TypedSettings.Proofs.Registry.Contents
import TypedSettings.Proofs.Registry.Loading

/-!
# Lists that were read and are printed

A list is printed with commas between its elements, and a getter of string arrays gives the texts of
its elements. The printed text falls into these texts again, since no element that is read prints
with a comma: an element that stays a text was cut out between commas, and numbers and truth values
have no comma in their texts, however large or small the numbers are.
-/

namespace TypedSettings
set_option autoImplicit false

/-! ## Texts of scalars -/

namespace Text.Decimal

/-- A number in positional notation has no other characters than digits and a point. -/
theorem mem_positional {coefficient : Nat} {exponent : Int} {c : Char}
    (mem : c ∈ positional coefficient exponent) : c = '.' ∨ c.isDigit = true := by
  have digits : ∀ c ∈ Nat.toDigits 10 coefficient, c.isDigit = true := fun c inDigits =>
    Nat.isDigit_of_mem_toDigits (by decide) (by decide) inDigits
  have zeros : ∀ count, ∀ c ∈ List.replicate count '0', c.isDigit = true := by
    intro count c inZeros
    rw [List.eq_of_mem_replicate inZeros]
    rfl
  unfold positional at mem
  cases exponent with
  | ofNat count =>
    rcases List.mem_append.1 mem with inDigits | inZeros
    · exact .inr (digits c inDigits)
    · exact .inr (zeros _ c inZeros)
  | negSucc n =>
    have padded : ∀ c ∈ (Nat.toDigits 10 coefficient).leftpad (n + 1 + 1) '0', c.isDigit = true := by
      intro c inPadded
      rcases List.mem_append.1 inPadded with inZeros | inDigits
      · exact zeros _ c inZeros
      · exact digits c inDigits
    rcases List.mem_append.1 mem with before | after
    · exact .inr (padded c (List.mem_of_mem_take before))
    · rcases List.mem_cons.1 after with point | after
      · exact .inl point
      · exact .inr (padded c (List.mem_of_mem_drop after))

end Text.Decimal

theorem Magnitude.comma_not_mem_text (m : Magnitude) : ',' ∉ m.text := by
  unfold Magnitude.text
  split
  · decide
  · intro mem
    rcases Text.Decimal.mem_positional mem with point | digit
    · exact absurd point (by decide)
    · exact absurd digit (by decide)

/-- A float of any magnitude is written without a comma, and so are those that are not finite. -/
theorem Binary64.comma_not_mem_text (x : Binary64) : ',' ∉ x.text.toList := by
  have sign : ∀ negative, ',' ∉ signText negative := by decide
  cases x with
  | nan => decide
  | infinite negative =>
    rw [text, String.toList_ofList, List.mem_append, not_or]
    exact ⟨sign negative, by decide⟩
  | finite negative m =>
    rw [text, String.toList_ofList, List.mem_append, not_or]
    exact ⟨sign negative, m.comma_not_mem_text⟩

namespace Ini

variable {cs : List Char} {raw : String} {elements : List Value}

/-- A scalar that is read from a text without a comma is written without a comma. -/
theorem comma_not_mem_render_inferScalar (single : ',' ∉ cs) :
    ',' ∉ (inferScalar cs).render.toList := by
  cases found : unquote? cs with
  | some inside =>
    rw [inferScalar_of_quoted found, Value.render, String.toList_ofList]
    exact fun mem => single (mem_of_unquote? found mem)
  | none =>
    rw [inferScalar_of_bare found]
    have bare := bareScalar_inferBare cs
    generalize inferBare cs = v at bare ⊢
    cases bare with
    | truth word => exact (show ∀ truth, ',' ∉ (Value.truthText truth).toList by decide) _
    | integer noWord fits =>
      intro mem
      exact (Text.isDecimal_spec (Text.isDecimal_of_mem_repr mem)).2.1 (by decide)
    | float noWord noInteger numeral => exact Binary64.comma_not_mem_text _
    | text noWord noInteger noNumeral => rwa [Value.render, String.toList_ofList]

theorem inferScalar_ne_array : inferScalar cs ≠ .array elements := by
  intro inferred
  cases found : unquote? cs with
  | some inside =>
    rw [inferScalar_of_quoted found] at inferred
    cases inferred
  | none =>
    rw [inferScalar_of_bare found, inferBare_eq_iff] at inferred
    cases inferred

/-! ## Texts of lists -/

/-- The pieces of a text between its commas, as they stand. -/
def commaPieces (text : String) : List String := (text.toList.splitOn ',').map String.ofList

/-- The elements of an array that is read are scalars of pieces. -/
theorem eq_of_infer_eq_array (inferred : infer raw = .array elements) :
    elements = (pieces (Text.trim raw.toList)).map inferScalar := by
  cases found : unquote? (Text.trim raw.toList) with
  | some inside =>
    rw [infer_of_quoted found] at inferred
    cases inferred
  | none =>
    by_cases comma : ',' ∈ Text.trim raw.toList
    · rw [infer_of_comma found comma] at inferred
      exact (Value.array.inj inferred).symm
    · rw [infer_of_no_comma found comma] at inferred
      exact absurd inferred inferScalar_ne_array

theorem comma_not_mem_render_of_infer (inferred : infer raw = .array elements) :
    ∀ v ∈ elements, ',' ∉ v.render.toList := by
  intro v mem
  rw [eq_of_infer_eq_array inferred] at mem
  obtain ⟨piece, inPieces, rfl⟩ := List.mem_map.1 mem
  exact comma_not_mem_render_inferScalar fun comma => (mem_of_mem_pieces inPieces comma).2 rfl

/-- An array whose elements are written without a comma falls into their texts. -/
theorem commaPieces_render (filled : elements ≠ [])
    (noComma : ∀ v ∈ elements, ',' ∉ v.render.toList) :
    commaPieces (Value.array elements).render = elements.map Value.render := by
  have printed : (Value.array elements).render.toList =
      [','].intercalate (elements.map fun v => v.render.toList) := by
    rw [Value.render, Value.renderElements_eq_map, String.toList_intercalate, List.map_map]
    rfl
  have split : (Value.array elements).render.toList.splitOn ',' =
      elements.map fun v => v.render.toList := by
    rw [printed]
    apply List.splitOn_intercalate
    · simpa only [List.forall_mem_map] using noComma
    · rwa [ne_eq, List.map_eq_nil_iff]
  rw [commaPieces, split, List.map_map]
  exact List.map_congr_left fun v _ => String.ofList_toList

end Ini

/-! ## Lists in a registry -/

/-- A list with an element can be declared as a string array, with any default, required or not. -/
theorem Registry.Agrees.registerStringArray_of_list {r : Registry} (agrees : r.Agrees) {k : Key}
    {elements : List Value} (fresh : r.declarations.contains k = false)
    (held : r.document.find? k = some (.array elements)) (filled : elements ≠ [])
    (default : List String) (required : Bool) :
    (r.registerStringArray k default required).reply = .ok () := by
  have accepted : r.accepts k .stringArray = true := by
    rw [accepts_eq_true_iff, held]
    rintro v ⟨⟩
    rfl
  have grounds : r.Grounds ⟨k, .stringArray, some (.ofTexts default), required⟩ .accepted := by
    refine ⟨⟨rfl, accepted, fresh⟩, fun ⟨_, blank⟩ => filled ?_⟩
    rw [held] at blank
    exact List.isEmpty_iff.1 blank
  exact (agrees.outcome_of_grounds grounds).1

namespace Ini

/-- An array with an element that is inferred from a raw text is printed as the texts of its
elements between commas, none of which has a comma itself, so the printed text falls into just these
texts. Once a text is read, each such list in it can be declared as a string array with any default.
Then the getter gives the pieces of the printed text, and it does so after any requests that have
this declaration among them and bring no other document in. -/
theorem lists_print_as_their_pieces {α : Type} :
    (∀ raw elements, infer raw = .array elements → elements ≠ [] →
      ∃ texts, (infer raw).texts? = some texts ∧ texts.length = elements.length ∧
        (∀ text ∈ texts, ',' ∉ text.toList) ∧ commaPieces (infer raw).render = texts) ∧
    ∀ text, (Registry.ofSource (source text)).reply = .ok () → ∀ group item elements,
      (Registry.ofSource (source text)).state.document.find? (.of group item) =
        some (.array elements) →
      elements ≠ [] → ∀ default required,
        ((Registry.ofSource (source text)).state.registerStringArray (.of group item) default
          required).reply = .ok () ∧
        ((Registry.ofSource (source text)).state.registerStringArray (.of group item) default
          required).state.get .stringArray (.of group item) =
            .ok (commaPieces (Value.array elements).render) ∧
        ∀ qs : List (Request α), (∀ q ∈ qs, q.loaded? = none) →
          .declare ⟨group, item, .stringArray default, required⟩ ∈ qs →
          ((Registry.ofSource (source text)).state.run qs).state.get .stringArray
            (.of group item) = .ok (commaPieces (Value.array elements).render) := by
  constructor
  · intro raw elements inferred filled
    have noComma := comma_not_mem_render_of_infer inferred
    refine ⟨elements.map Value.render, by rw [inferred]; rfl, List.length_map .., ?_, ?_⟩
    · simpa only [List.forall_mem_map] using noComma
    · rw [inferred, commaPieces_render filled noComma]
  · intro text loaded group item elements held filled default required
    obtain ⟨d, read⟩ := Registry.empty.reply_load_eq_ok_iff.1 loaded
    have state : (Registry.ofSource (source text)).state = .fresh d "ini-string" :=
      congrArg Outcome.state (Registry.load_eq_of_ok .empty read)
    have pieces : commaPieces (Value.array elements).render = elements.map Value.render := by
      obtain ⟨ls, -, made⟩ := read_eq_ok_iff.1 read
      rw [state, made] at held
      obtain ⟨raw, inferred⟩ := exists_infer_of_find? held
      exact commaPieces_render filled (comma_not_mem_render_of_infer inferred)
    let declaration : Declaration := ⟨group, item, .stringArray default, required⟩
    have gets : ∀ qs : List (Request α), (∀ q ∈ qs, q.loaded? = none) → .declare declaration ∈ qs →
        ((Registry.ofSource (source text)).state.run qs).state.get .stringArray (.of group item) =
          .ok (commaPieces (Value.array elements).render) := by
      intro qs kept declaring
      obtain ⟨still, declares⟩ := (Origin.source (source text) loaded).held_of_no_document kept held
      have declared := declares _ declaring declaration.attempt rfl ⟨rfl, rfl⟩ rfl
      have agrees := (Origin.source (source text) loaded).agrees_after qs
      rw [pieces]
      refine agrees.get_eq_ok ?_ still rfl
      exact declared
    refine ⟨?_, ?_, gets⟩
    · rw [state] at held ⊢
      exact (Registry.agrees_fresh d _).registerStringArray_of_list rfl held filled default required
    · exact gets [.declare declaration] (List.forall_mem_singleton.2 rfl) (List.mem_singleton.2 rfl)

/-- A text with a list of a large and a small float, of quoted texts and of a word. -/
def mixedListText : String := "[net]\nhosts = 1e21, \" a b \", .5e-3, \"\", Off\n"

/-- The list is printed in positional notation and without quotes, and falls into the elements
again. -/
theorem mixedList_prints_as_its_pieces :
    ∃ elements, infer "1e21, \" a b \", .5e-3, \"\", Off" = .array elements ∧ elements ≠ [] ∧
      commaPieces (Value.array elements).render =
        ["1000000000000000000000", " a b ", "0.0005", "", "Off"] ∧
      ((Registry.ofSource (source mixedListText)).state.registerStringArray (.of "net" "hosts") []
        true).state.get .stringArray (.of "net" "hosts") =
        .ok ["1000000000000000000000", " a b ", "0.0005", "", "Off"] ∧
      ((Registry.ofSource (source mixedListText)).state.run (α := Unit)
        [.isRegistered "net" "hosts", .declare ⟨"net", "hosts", .stringArray ["x"], false⟩,
          .document]).state.get .stringArray (.of "net" "hosts") =
        .ok ["1000000000000000000000", " a b ", "0.0005", "", "Off"] := by
  have inferred : infer "1e21, \" a b \", .5e-3, \"\", Off" =
      .array [.float (.ofDecimal ⟨false, 1, 21⟩), .text " a b ", .float (.ofDecimal ⟨false, 5, -4⟩),
        .text "", .text "Off"] := rfl
  have ⟨printed, declared⟩ := lists_print_as_their_pieces (α := Unit)
  obtain ⟨texts, listed, -, -, pieces⟩ := printed _ _ inferred (List.cons_ne_nil _ _)
  have texts_eq : texts = ["1000000000000000000000", " a b ", "0.0005", "", "Off"] := by
    rw [inferred] at listed
    obtain rfl := Option.some.inj listed
    decide +kernel
  rw [inferred, texts_eq] at pieces
  have inText := declared mixedListText rfl "net" "hosts" _ rfl (List.cons_ne_nil _ _)
  refine ⟨_, inferred, List.cons_ne_nil _ _, pieces, ?_, ?_⟩
  · rw [← pieces]
    exact (inText [] true).2.1
  · rw [← pieces]
    refine (inText ["x"] false).2.2 _ ?_ (List.mem_cons_of_mem _ List.mem_cons_self)
    simp [Request.loaded?]

end Ini

end TypedSettings
