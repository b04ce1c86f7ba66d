import MembershipGrid.StorageError

/-!
# Paths

A path is a text of names parted by slashes. One that starts with a slash begins at the root of the
disk, any other at a directory that is known otherwise, such as the working directory; writing the
path of that directory in front of it leads to the same names (`names_under`).
-/

namespace MembershipGrid

/-- A place on the disk: the names that lead to it from the root. -/
abbrev Location := List String

namespace Path

/-- The names in a path whose first name starts with `name`, held in reverse. -/
def namesFrom (name : List Char) : List Char → List String
  | [] => if name = [] then [] else [String.ofList name.reverse]
  | '/' :: rest =>
    if name = [] then namesFrom [] rest else String.ofList name.reverse :: namesFrom [] rest
  | c :: rest => namesFrom (c :: name) rest

/-- The names in a path. Slashes at its ends and repeated ones count for nothing. -/
def names (path : String) : List String := namesFrom [] path.toList

def isAbsolute (path : String) : Bool := path.toList.head? == some '/'

/-- Whether a path ends in a slash, so that only a directory can stand there. -/
def endsInSlash (path : String) : Bool := path.toList.getLast? == some '/'

/-- A path that begins at the root: the path itself, or with the directory `base` before it. -/
def under (base path : String) : String :=
  if isAbsolute path then path
  else if base = "" ∨ endsInSlash base then base ++ path
  else base ++ "/" ++ path

theorem namesFrom_append (name front rest : List Char) :
    namesFrom name (front ++ '/' :: rest) = namesFrom name front ++ namesFrom [] rest := by
  induction front generalizing name with
  | nil => by_cases h : name = [] <;> simp [namesFrom, h]
  | cons c front ih =>
    by_cases slash : c = '/'
    · subst slash
      by_cases h : name = [] <;> simp [namesFrom, h, ih]
    · simp [namesFrom, ih]

theorem names_slash (front rest : String) :
    names (front ++ "/" ++ rest) = names front ++ names rest := by
  simp [names, namesFrom_append]

theorem names_under {path : String} (relative : isAbsolute path = false) (base : String) :
    names (under base path) = names base ++ names path := by
  by_cases blank : base = ""
  · simp [under, relative, blank, names, namesFrom]
  by_cases ends : endsInSlash base
  · have last : base.toList.getLast? = some '/' := by simpa [endsInSlash] using ends
    obtain ⟨front, split⟩ := List.getLast?_eq_some_iff.mp last
    simp [under, relative, ends, names, split, namesFrom_append, namesFrom]
  · simp [under, relative, blank, ends, names_slash]

def maxBytes : Nat := 4095

def maxNameBytes : Nat := 255

def check (path : String) : Except StorageError Unit :=
  if '\x00' ∈ path.toList then .error .nulInPath
  else if path = "" then .error .notFound
  else if maxBytes < path.utf8ByteSize then .error .nameTooLong
  else .ok ()

end Path

end MembershipGrid
