import SparkFleet.Text.Blank

/-!
# Paths

Paths of the workspace and of the file store are texts with slashes.  A directory is known by its
path without slashes at the end, and the root by a single slash; each entry belongs to the directory
before the last slash of its path.  Nothing else is normalised: two paths that differ in doubled
slashes are two paths.
-/

namespace SparkFleet.Path

/-- The root. -/
def root : String := "/"

/-- A list of characters as the path of a directory: the empty one is the root. -/
def ofChars : List Char → String
  | [] => root
  | c :: rest => String.ofList (c :: rest)

/-- The path by which a directory is known. -/
def directory (path : String) : String := ofChars (Text.dropEnd (· == '/') path.toList)

/-- The characters before the last slash; none if there is no slash. -/
def beforeLastSlash (path : List Char) : List Char :=
  (path.reverse.dropWhile (· ≠ '/')).tail.reverse

/-- The directory that an entry belongs to. -/
def parent (path : String) : String := ofChars (beforeLastSlash path.toList)

/-- The pieces between the slashes of a path, empty ones included. -/
def pieces : List Char → List (List Char)
  | [] => [[]]
  | c :: rest =>
    if c = '/' then
      [] :: pieces rest
    else
      match pieces rest with
      | [] => [[c]]
      | piece :: others => (c :: piece) :: others

/-- A text without a slash is a single piece. -/
theorem pieces_of_notMem_slash {name : List Char} (h : '/' ∉ name) : pieces name = [name] := by
  induction name with
  | nil => rfl
  | cons c rest ih =>
    obtain ⟨hc, hRest⟩ := not_or.1 (mt List.mem_cons.2 h)
    simp [pieces, Ne.symm hc, ih hRest]

/-- The names that a path is made of. -/
def names (path : String) : List (List Char) := (pieces path.toList).filter (· ≠ [])

/-- The directories that a list of names leads through, below a directory. -/
def through (above : List Char) : List (List Char) → List String
  | [] => []
  | name :: rest =>
    let here := above ++ '/' :: name
    String.ofList here :: through here rest

/-- The directories above a path, except the root. -/
def above (path : String) : List String := through [] (names path).dropLast

/-- Whether a path begins with that of a directory and a slash. -/
def isBelow (path dir : String) : Bool := (dir.toList ++ ['/']).isPrefixOf path.toList

end SparkFleet.Path
