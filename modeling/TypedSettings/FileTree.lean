import TypedSettings.Fault

/-!
# File trees

A file tree maps paths from the root to files, directories and symbolic links. Resolving a path
follows its links and gives the canonical path of what it leads to: names only, each but the last
one a directory. What changes a tree goes the same way through its links: a file is written where a
path leads, a link is made or removed at the place of the path's last name.
-/

namespace TypedSettings
set_option autoImplicit false

/-- What a name of a directory stands for. -/
inductive Entry where
  | file (bytes : ByteArray) (readable : Bool)
  | directory (entries : List (String × Entry))
  | link (target : String)

/-- Files, directories and links under the root. -/
structure FileTree where
  entries : List (String × Entry)

namespace FileTree

/-- The tree that has a root only. -/
def empty : FileTree := ⟨[]⟩

instance : Inhabited FileTree := ⟨empty⟩

/-! ## Paths -/

/-- The pieces of a path between its slashes. -/
def splitPath (path : String) : List String := (path.toList.splitOn '/').map String.ofList

/-- A canonical path in text. -/
def canonicalText (names : List String) : String := "/" ++ "/".intercalate names

/-- The path starts at the root. -/
def isAbsolute (path : String) : Bool := path.toList.head? == some '/'

/-- A path below another one; an absolute path stands for itself. -/
def join (base path : String) : String :=
  if isAbsolute path then path
  else if base.toList.getLast? == some '/' then base ++ path
  else base ++ "/" ++ path

/-- The most bytes that a name in a directory may have. -/
def nameLimit : Nat := 255

/-- The most bytes that a canonical path may have. -/
def pathLimit : Nat := 4095

/-- The most links that resolving one path may follow. -/
def linkLimit : Nat := 40

/-! ## Entries -/

/-- What the names lead to below a directory; without names, this directory. -/
def findIn? (entries : List (String × Entry)) : List String → Option Entry
  | [] => some (.directory entries)
  | name :: rest =>
    match entries.lookup name with
    | some (.directory below) => findIn? below rest
    | some e => if rest.isEmpty then some e else none
    | none => none

/-- What the names lead to; the root is a directory. -/
def find? (t : FileTree) (names : List String) : Option Entry := findIn? t.entries names

/-- The names lead to a directory. -/
def isDirectory (t : FileTree) (names : List String) : Bool :=
  match t.find? names with
  | some (.directory _) => true
  | _ => false

/-- Changes the entries of the directory that the names lead to. -/
def changeIn (change : List (String × Entry) → List (String × Entry)) (entries : List (String × Entry)) :
    List String → List (String × Entry)
  | [] => change entries
  | name :: rest =>
    match entries.lookup name with
    | some (.directory below) =>
      (name, .directory (changeIn change below rest)) :: entries.filter (·.1 != name)
    | _ => entries

/-- The tree with an entry at a place in one of its directories. -/
def set (t : FileTree) (place : List String) (e : Entry) : FileTree :=
  match place.getLast? with
  | some name => ⟨changeIn (fun es => (name, e) :: es.filter (·.1 != name)) t.entries place.dropLast⟩
  | none => t

/-- The tree without the entry at a place. -/
def erase (t : FileTree) (place : List String) : FileTree :=
  match place.getLast? with
  | some name => ⟨changeIn (fun es => es.filter (·.1 != name)) t.entries place.dropLast⟩
  | none => t

/-! ## Resolving -/

/-- The place that one piece of a path leads to from a directory. -/
def placeFrom (here : List String) (piece : String) : List String :=
  if piece == "" || piece == "." then here
  else if piece == ".." then here.dropLast
  else here ++ [piece]

/-- The canonical path of a place is not too long. -/
def fits (place : List String) : Bool := (canonicalText place).utf8ByteSize ≤ pathLimit

/-- Goes on from a place through the pieces of a path, as long as the places on the way are admitted;
`follow` says where a link leads, given the directory it is in, its target and the pieces after it.
Every piece, be it empty or made of points, asks for a directory to stand in. Only the place of the
last piece may be free. -/
def walk (t : FileTree) (admits : List String → Bool)
    (follow : List String → String → List String → Except FileFault (List String))
    (here : List String) : List String → Except FileFault (List String)
  | [] => .ok here
  | piece :: rest =>
    let there := placeFrom here piece
    if !admits there then .error (.system .nameTooLong)
    else if !t.isDirectory here then .error (.system .notADirectory)
    else if nameLimit < piece.utf8ByteSize then .error (.system .nameTooLong)
    else
      match t.find? there with
      | some (.link target) => follow here target rest
      | some _ => walk t admits follow there rest
      | none => if rest.isEmpty then .ok there else .error (.system .notFound)

/-- Locates pieces from a place, following at most so many links. -/
def locateFrom (t : FileTree) (admits : List String → Bool) :
    Nat → List String → List String → Except FileFault (List String)
  | 0, here, pieces => t.walk admits (fun _ _ _ => .error (.system .linkLoop)) here pieces
  | links + 1, here, pieces =>
    t.walk admits (fun dir target rest =>
      locateFrom t admits links (if isAbsolute target then [] else dir) (splitPath target ++ rest))
      here pieces

/-- The place that pieces lead to from a place, all links followed. It may be free. -/
def locate (t : FileTree) (here pieces : List String) : Except FileFault (List String) :=
  t.locateFrom (fun _ => true) linkLimit here pieces

/-- A place where something is. -/
def occupied (t : FileTree) (place : List String) : Except FileFault (List String) :=
  if (t.find? place).isSome then .ok place else .error (.system .notFound)

/-- The names that a path leads to. On the way to them each canonical path has to fit. -/
def resolve (t : FileTree) (path : String) : Except FileFault (List String) :=
  if '\x00' ∈ path.toList then .error .nulInPath
  else (t.locateFrom fits linkLimit [] (splitPath path)).bind t.occupied

/-! ## Reading -/

/-- The text in the bytes of a file, unless there are too many of them or they are no UTF-8. -/
def readBytes (bytes : ByteArray) (readable : Bool) : Except FileFault String :=
  if fileSizeLimit < bytes.size then .error (.tooLarge bytes.size)
  else if !readable then .error (.system .permissionDenied)
  else match String.fromUTF8? bytes with
    | some text => .ok text
    | none => .error .notUtf8

/-- The text of what an entry is. A resolved path never leads to a link. -/
def readEntry : Option Entry → Except FileFault String
  | some (.file bytes readable) => readBytes bytes readable
  | some (.directory _) => .error (.system .isADirectory)
  | some (.link _) => .error (.system .linkLoop)
  | none => .error (.system .notFound)

/-- The text of the file that names from the root lead to. -/
def readText (t : FileTree) (names : List String) : Except FileFault String :=
  (t.locate [] names).bind fun place => readEntry (t.find? place)

/-! ## Changing -/

/-- The place of the last piece of a path, in the directory that the pieces before it lead to. A link
at this place is not followed. -/
def placeOf? (t : FileTree) (pieces : List String) : Option (List String) := do
  let last ← pieces.getLast?
  let here ← (t.locate [] pieces.dropLast).toOption
  if t.isDirectory here && last.utf8ByteSize ≤ nameLimit then some (placeFrom here last) else none

/-- The tree with a directory at every free place on the way that pieces lead from a directory. -/
def addDirectories (t : FileTree) (here : List String) : List String → FileTree
  | [] => t
  | piece :: rest =>
    match t.locate here [piece] with
    | .ok there =>
      if t.isDirectory there then addDirectories t there rest
      else if (t.find? (placeFrom here piece)).isNone then
        addDirectories (t.set there (.directory [])) there rest
      else t
    | .error _ => t

/-- The tree with the directories above a path. -/
def addParents (t : FileTree) (path : String) : FileTree :=
  t.addDirectories [] (splitPath path).dropLast

/-- The bytes become those of the file at a place, which is made if the place is free. -/
def setFile (t : FileTree) (place : List String) (bytes : ByteArray) : FileTree :=
  if t.isDirectory place then t else t.set place (.file bytes true)

/-- The tree with bytes in the file that a path leads to, and with the directories above the path. A
link that leads to a free place has its file made there. -/
def write (t : FileTree) (path : String) (bytes : ByteArray) : FileTree :=
  let t := t.addParents path
  match t.locate [] (splitPath path) with
  | .ok place => t.setFile place bytes
  | .error _ => t

/-- The tree with a directory at a path, and with those above it. -/
def makeDirectory (t : FileTree) (path : String) : FileTree := t.addDirectories [] (splitPath path)

/-- The tree with a symbolic link at a free path, and with the directories above it. -/
def makeLink (t : FileTree) (path target : String) : FileTree :=
  let t := t.addParents path
  match t.placeOf? (splitPath path) with
  | some place => if (t.find? place).isSome then t else t.set place (.link target)
  | none => t

/-- The tree without the file or the link at a path. -/
def remove (t : FileTree) (path : String) : FileTree :=
  match t.placeOf? (splitPath path) with
  | some place => if t.isDirectory place then t else t.erase place
  | none => t

/-- A change is made where the names lead. -/
theorem findIn?_changeIn {change : List (String × Entry) → List (String × Entry)} {names : List String}
    {entries below : List (String × Entry)} (h : findIn? entries names = some (.directory below)) :
    findIn? (changeIn change entries names) names = some (.directory (change below)) := by
  induction names generalizing entries with
  | nil =>
    obtain rfl : entries = below := by simpa [findIn?] using h
    rfl
  | cons name rest ih =>
    rw [findIn?] at h
    split at h
    · next inner found =>
      simp only [changeIn, found, findIn?, List.lookup_cons, beq_self_eq_true]
      exact ih h
    · next e notDirectory found =>
      split at h
      · exact absurd (Option.some.inj h) (notDirectory below)
      · cases h
    · cases h

end FileTree

end TypedSettings
