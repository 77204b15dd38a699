import Mathlib.Data.List.Forall2
import TypedSettings.Proofs.Binary64.ReadBack
import TypedSettings.Proofs.Ini.Values
import TypedSettings.Proofs.Text.Quoting
import TypedSettings.StartUp

/-!
# What a shown text tells

The program shows values and faults as texts. The relations here say how to tell from such a text
what it was made for, by readers only: a number, a truth value or a list is read back from it, and
so are the path and the words of a fault, which stand in quotes.
-/

namespace TypedSettings.StartUp
set_option autoImplicit false

/-! ## Values -/

/-- A text tells a scalar: a text tells itself, and any other scalar is read from it. -/
inductive TellsScalar : Value → String → Prop where
  | text (content : String) : TellsScalar (.text content) content
  | integer {number : Int64} {shown : String} (read : Text.readInt64? shown.toList = some number) :
      TellsScalar (.integer number) shown
  | float {number : Binary64} {shown : String} (read : Binary64.read? shown.toList = some number) :
      TellsScalar (.float number) shown
  | boolean {truth : Bool} {shown : String} (read : Ini.readTruth? shown.toList = some truth) :
      TellsScalar (.boolean truth) shown

/-- A text tells a scalar, or else an array: it reads as a list of texts that tell the elements,
each of them in its place. -/
inductive Tells : Value → String → Prop where
  | scalar {v : Value} {shown : String} (tells : TellsScalar v shown) : Tells v shown
  | array {elements : List Value} {shown : String} {texts : List String}
      (read : Text.readList? shown = some texts) (tells : List.Forall₂ TellsScalar elements texts) :
      Tells (.array elements) shown

variable {v : Value}

/-- A scalar that a raw value can spell is told by its text. -/
theorem tellsScalar_render (isScalar : Ini.IsScalar True v) : TellsScalar v v.render := by
  cases isScalar with
  | text => exact .text _
  | integer number => exact .integer (Text.readInt64?_repr number)
  | boolean truth => exact .boolean (by cases truth <;> rfl)
  | float _ number => exact .float number.read?_text

/-- An array of such scalars is told by the list of the texts of its elements. -/
theorem tells_quoteList {elements : List Value} (scalars : ∀ v ∈ elements, Ini.IsScalar True v) :
    Tells (.array elements) (Text.quoteList (elements.map Value.render)) := by
  refine .array (Text.readList?_eq_some_iff.2 rfl) (List.forall₂_map_right_iff.2 ?_)
  exact List.forall₂_same.2 fun v mem => tellsScalar_render (scalars v mem)

/-! ## Faults of loading -/

/-- A text tells why a file cannot be read: the number and the category of an error of the operating
system, and the words in quotes. -/
inductive TellsCause : FileFault → String → Prop where
  | system {fault : SystemFault} {quoted : String}
      (read : Text.readText? quoted = some fault.words) :
      TellsCause (.system fault) ("Os \x7b code: " ++ toString fault.code ++
        ", kind: " ++ category fault ++ ", message: " ++ quoted ++ " \x7d")
  | other {cause : FileFault} {name kind part quoted : String}
      (read : Text.readText? quoted = some cause.message) :
      TellsCause cause (name ++ " \x7b kind: " ++ kind ++ ", " ++ part ++ ": " ++ quoted ++ " \x7d")

/-- A text tells a fault of loading: for a file its path in quotes and the cause, for a text the
words in quotes. -/
inductive TellsFault : Fault → String → Prop where
  | unread {path quoted detail : String} {cause : FileFault}
      (read : Text.readText? quoted = some path) (tells : TellsCause cause detail) :
      TellsFault (.fileReadFailed path cause)
        ("FileReadFailed \x7b path: " ++ quoted ++ ", source: " ++ detail ++ " \x7d")
  | malformed {message quoted : String} (read : Text.readText? quoted = some message) :
      TellsFault (.parseFailed message) ("ParseFailed \x7b message: " ++ quoted ++ " \x7d")

theorem readText?_quote (text : String) : Text.readText? (Text.quote text) = some text :=
  Text.readText?_eq_some_iff.2 rfl

theorem tellsCause_fileFaultDetail (cause : FileFault) :
    TellsCause cause (fileFaultDetail cause) := by
  have parts : ∀ name kind part words : String, record name [("kind", kind), (part, words)] =
      name ++ " \x7b kind: " ++ kind ++ ", " ++ part ++ ": " ++ words ++ " \x7d" := by
    intro name kind part words
    apply String.toList_inj.1
    simp [record]
  cases cause with
  | system fault =>
    have shown := TellsCause.system (readText?_quote fault.words)
    convert shown using 1
    apply String.toList_inj.1
    simp [fileFaultDetail, record]
  | nulInPath | notUtf8 | tooLarge | noHome | described =>
    simp only [fileFaultDetail, parts]
    exact .other (readText?_quote _)

/-- What is said about a fault of loading tells it. -/
theorem tellsFault_unread (path : String) (cause : FileFault) :
    TellsFault (.fileReadFailed path cause) (faultDetail (.fileReadFailed path cause)) := by
  have shown := TellsFault.unread (readText?_quote path) (tellsCause_fileFaultDetail cause)
  convert shown using 1
  apply String.toList_inj.1
  simp [faultDetail, record]

theorem tellsFault_malformed (message : String) :
    TellsFault (.parseFailed message) (faultDetail (.parseFailed message)) := by
  have shown := TellsFault.malformed (readText?_quote message)
  convert shown using 1
  apply String.toList_inj.1
  simp [faultDetail, record]

end TypedSettings.StartUp
