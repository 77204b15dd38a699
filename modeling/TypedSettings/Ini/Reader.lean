import TypedSettings.Document
import TypedSettings.Ini.Infer
import TypedSettings.Ini.Sections
import TypedSettings.Source

/-!
# Documents from INI text

A section of a text is a group of the document, its keys are the items, and the raw values are
typed by their text. A key without a value holds the empty text.
-/

namespace TypedSettings.Ini
set_option autoImplicit false

/-- The extensions that files of INI text have. -/
def extensions : List String := ["ini", "cfg", "conf"]

/-- The document with the raw values of a section. -/
def setSection (d : Document) (name : String) (entries : List (String × Option String)) : Document :=
  entries.foldl (fun d e => d.set (Key.of name e.1) (infer (e.2.getD ""))) d

/-- The document of sections listed in any order. -/
def ofSectionList (sections : List (String × List (String × Option String))) : Document :=
  sections.foldl (fun d s => setSection d s.1 s.2) .empty

/-- The document of sections. -/
def ofSections (sections : Sections) : Document :=
  ofSectionList (sections.entries.map fun s => (s.1, s.2.entries))

/-- Reads a document from INI text. -/
def read (text : String) : Except Fault Document :=
  match readSections text with
  | .ok sections => .ok (ofSections sections)
  | .error fault => .error (.parseFailed fault.message)

/-- The source that holds INI text. -/
def source (text : String) : Source := .plain "ini-string" (read text)

end TypedSettings.Ini
