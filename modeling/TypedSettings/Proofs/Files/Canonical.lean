import TypedSettings.FileTree

/-!
# Canonical places

Resolving a path leads to a canonical place: names only, each but the last one a directory, and no
link at the end. Such a place leads to itself, so what is read there is what the path led to.
-/

namespace TypedSettings.FileTree
set_option autoImplicit false

/-- A piece of a path that names an entry of a directory. -/
structure IsName (piece : String) : Prop where
  filled : piece ≠ ""
  notHere : piece ≠ "."
  notAbove : piece ≠ ".."
  short : piece.utf8ByteSize ≤ nameLimit

/-- A place without detours: names that each but the last one stand for a directory, and the last
one for no link. Nothing has to be there. -/
structure Canonical (t : FileTree) (place : List String) : Prop where
  isName : ∀ name ∈ place, IsName name
  isDirectory : ∀ before after, place = before ++ after → after ≠ [] → t.isDirectory before = true
  noLink : ∀ target, t.find? place ≠ some (.link target)

variable {t : FileTree} {here place names pieces : List String} {piece path : String}

theorem isDirectory_iff :
    t.isDirectory place = true ↔ ∃ below, t.find? place = some (.directory below) := by
  unfold isDirectory
  split
  · next below found => exact ⟨fun _ => ⟨below, found⟩, fun _ => rfl⟩
  · next other =>
    constructor
    · intro no
      cases no
    · rintro ⟨below, found⟩
      exact absurd found (other below)

theorem noLink_of_isDirectory (h : t.isDirectory place = true) (target : String) :
    t.find? place ≠ some (.link target) := by
  obtain ⟨below, found⟩ := isDirectory_iff.1 h
  rw [found]
  nofun

/-! ## Steps of a path -/

theorem canonical_root (t : FileTree) : t.Canonical [] where
  isName := nofun
  isDirectory before after whole filled := by
    obtain ⟨-, empty⟩ := List.append_eq_nil_iff.1 whole.symm
    exact absurd empty filled
  noLink target := by
    show some (Entry.directory t.entries) ≠ some (.link target)
    nofun

/-- The directory above a canonical place is canonical; the root is above itself. -/
theorem Canonical.dropLast (h : t.Canonical place) : t.Canonical place.dropLast := by
  by_cases filled : place = []
  · rw [filled]
    exact canonical_root t
  have parts : place = place.dropLast ++ [place.getLast filled] :=
    (List.dropLast_concat_getLast filled).symm
  refine ⟨fun name mem => h.isName name ((List.dropLast_sublist place).subset mem), ?_, ?_⟩
  · intro before after whole some
    have more : after ++ [place.getLast filled] ≠ [] := List.append_ne_nil_of_left_ne_nil some _
    refine h.isDirectory before _ ?_ more
    rw [← List.append_assoc, ← whole]
    exact parts
  · exact noLink_of_isDirectory (h.isDirectory _ _ parts (List.cons_ne_nil _ _))

/-- A name below a canonical directory makes a canonical place. -/
theorem Canonical.concat (h : t.Canonical here) (directory : t.isDirectory here = true)
    (name : IsName piece) (noLink : ∀ target, t.find? (here ++ [piece]) ≠ some (.link target)) :
    t.Canonical (here ++ [piece]) where
  isName other mem := by
    rcases List.mem_append.1 mem with mem | mem
    · exact h.isName other mem
    · rw [List.mem_singleton.1 mem]
      exact name
  isDirectory before after whole filled := by
    obtain ⟨front, last, rfl⟩ : ∃ front last, after = front ++ [last] :=
      ⟨_, _, (List.dropLast_concat_getLast filled).symm⟩
    rw [← List.append_assoc] at whole
    obtain ⟨rest, -⟩ := List.append_inj' whole rfl
    by_cases last : front = []
    · rw [last, List.append_nil] at rest
      rw [← rest]
      exact directory
    · exact h.isDirectory before front rest last
  noLink := noLink

theorem placeFrom_of_isName (h : IsName piece) : placeFrom here piece = here ++ [piece] := by
  simp [placeFrom, h.filled, h.notHere, h.notAbove]

/-- Each piece of a path leads from a canonical directory to a canonical place, unless a link is
there. -/
theorem Canonical.placeFrom (h : t.Canonical here) (directory : t.isDirectory here = true)
    (short : piece.utf8ByteSize ≤ nameLimit)
    (noLink : ∀ target, t.find? (FileTree.placeFrom here piece) ≠ some (.link target)) :
    t.Canonical (FileTree.placeFrom here piece) := by
  by_cases filled : piece = ""
  · rw [filled]
    exact h
  by_cases notHere : piece = "."
  · rw [notHere]
    exact h
  by_cases notAbove : piece = ".."
  · rw [notAbove]
    exact h.dropLast
  have name : IsName piece := ⟨filled, notHere, notAbove, short⟩
  rw [placeFrom_of_isName name] at noLink ⊢
  exact h.concat directory name noLink

/-! ## Where paths lead -/

/-- A walk from a canonical place ends at one, when the links on it lead to canonical places. -/
theorem Canonical.walk {admits : List String → Bool}
    {follow : List String → String → List String → Except FileFault (List String)}
    (leads : ∀ dir target rest names, t.Canonical dir → follow dir target rest = .ok names →
      t.Canonical names)
    (h : t.Canonical here) (done : t.walk admits follow here pieces = .ok names) :
    t.Canonical names := by
  -- the invariant is that the place so far is canonical; where a link is met, it is handed on
  induction pieces generalizing here with
  | nil =>
    obtain rfl := Except.ok.inj done
    exact h
  | cons piece rest ih =>
    rw [FileTree.walk] at done
    split at done
    · cases done
    split at done
    · cases done
    next notFile =>
    have directory : t.isDirectory here = true := by simpa using notFile
    split at done
    · cases done
    next notLong =>
    have short := Nat.le_of_not_lt notLong
    split at done
    · exact leads _ _ _ _ h done
    · next e noLink found =>
      refine ih (h.placeFrom directory short fun target link => ?_) done
      exact noLink target (Option.some.inj (found.symm.trans link))
    · next free =>
      split at done
      · obtain rfl := Except.ok.inj done
        refine h.placeFrom directory short fun target link => ?_
        rw [free] at link
        cases link
      · cases done

theorem Canonical.locateFrom {admits : List String → Bool} {links : Nat} (h : t.Canonical here)
    (done : t.locateFrom admits links here pieces = .ok names) : t.Canonical names := by
  induction links generalizing here pieces names with
  | zero => exact h.walk (fun dir target rest names canonical followed => by cases followed) done
  | succ links ih =>
    refine h.walk (fun dir target rest names canonical followed => ih ?_ followed) done
    split
    · exact canonical_root t
    · exact canonical

/-- Where pieces lead from the root is canonical. -/
theorem canonical_of_locate (done : t.locate [] pieces = .ok names) : t.Canonical names :=
  (canonical_root t).locateFrom done

/-- A path that can be resolved leads to a canonical place with something in it. -/
theorem canonical_of_resolve (done : t.resolve path = .ok names) :
    t.Canonical names ∧ ∃ e, t.find? names = some e := by
  unfold resolve at done
  split at done
  · cases done
  cases located : t.locateFrom fits linkLimit [] (splitPath path) with
  | error cause =>
    rw [located] at done
    cases done
  | ok place =>
    rw [located, Except.bind, occupied] at done
    split at done
    · next something =>
      obtain rfl := Except.ok.inj done
      exact ⟨(canonical_root t).locateFrom located, Option.isSome_iff_exists.1 something⟩
    · cases done

/-! ## Canonical places lead to themselves -/

theorem Canonical.walk_eq {follow : List String → String → List String → Except FileFault (List String)}
    (h : t.Canonical (here ++ pieces)) :
    t.walk (fun _ => true) follow here pieces = .ok (here ++ pieces) := by
  -- `here` and the names still to come make up the place all the way
  induction pieces generalizing here with
  | nil =>
    rw [List.append_nil]
    rfl
  | cons piece rest ih =>
    have name := h.isName piece (List.mem_append_right _ List.mem_cons_self)
    have directory := h.isDirectory here (piece :: rest) rfl (List.cons_ne_nil _ _)
    have whole : here ++ piece :: rest = here ++ [piece] ++ rest := by simp
    rw [whole] at h ⊢
    have goesOn : rest ≠ [] → ∃ below, t.find? (here ++ [piece]) = some (.directory below) :=
      fun more => isDirectory_iff.1 (h.isDirectory _ rest rfl more)
    rw [FileTree.walk, placeFrom_of_isName name, directory, if_neg (by decide), if_neg (by decide),
      if_neg (Nat.not_lt_of_le name.short)]
    -- only at the last name may there be anything but a directory, or nothing
    by_cases more : rest = []
    · subst more
      rw [List.append_nil] at h ⊢
      split
      · next target link => exact absurd link (h.noLink target)
      · rfl
      · rfl
    · obtain ⟨below, found⟩ := goesOn more
      rw [found]
      exact ih h

theorem Canonical.locate_eq (h : t.Canonical names) : t.locate [] names = .ok names := by
  rw [locate, linkLimit, FileTree.locateFrom]
  exact h.walk_eq

/-- What is read under the names that a path was resolved to is what they stand for. -/
theorem readText_of_resolve (done : t.resolve path = .ok names) :
    t.readText names = readEntry (t.find? names) := by
  rw [readText, (canonical_of_resolve done).1.locate_eq]
  rfl

end TypedSettings.FileTree
