import SparkFleet.Path
import SparkFleet.Program
import SparkFleet.SortedMap

/-!
# Local files

The local files that an upload may take its content from.  They are kept in a working directory,
where every path without a slash at its beginning starts, and each is known by the names that lead
to it.  A path is followed name by name: an empty name or a single dot stays in a directory, two
dots lead to the directory above, and nothing leads on from a file.  Of what is outside the working
directory only the directories above it are known.

The main statement is `read_write`: what is written under a plain name is read there.
-/

namespace SparkFleet

/-- Where a path leads to. -/
inductive LocalPlace where
  /-- A place in the working directory, by the names that lead to it. -/
  | inside (names : List (List Char))
  | outside

/-- The directory above a place. -/
def LocalPlace.above : LocalPlace → LocalPlace
  | .inside (name :: names) => .inside (name :: names).dropLast
  | .inside [] | .outside => .outside

/-- Local files by their paths in the working directory. -/
abbrev LocalFiles := SortedMap String ByteArray

namespace LocalFiles

/-- The path that is made of names. -/
def pathOf (names : List (List Char)) : String := String.ofList (['/'].intercalate names)

/-- The most bytes that a name may have. -/
def nameLimit : Nat := 255

/-- The number of bytes from which on a path is too long. -/
def pathLimit : Nat := 4096

/-- Whether a place that is not a file is a directory: one that contains files is. -/
def isDirectory (files : LocalFiles) : LocalPlace → Bool
  | .outside | .inside [] => true
  | .inside (name :: names) => files.any fun file _ => Path.isBelow file (pathOf (name :: names))

/-- The place that a name leads to from a place where there is a file or a directory. -/
def follow (files : LocalFiles) (place : LocalPlace) (name : List Char) :
    Except LocalFault LocalPlace :=
  if !files.isDirectory place then
    .error .notDirectory
  else if name = [] ∨ name = ['.'] then
    .ok place
  else if name = ['.', '.'] then
    .ok place.above
  else if nameLimit < (String.ofList name).utf8ByteSize then
    .error .tooLong
  else
    match place with
    | .outside => .error .notFound
    | .inside names =>
      let next := names ++ [name]
      if files.contains (pathOf next) || files.isDirectory (.inside next) then .ok (.inside next)
      else .error .notFound

/-- The place that a path leads to, from the outermost directory if it begins with a slash. -/
def placeAt (files : LocalFiles) (path : String) : Except LocalFault LocalPlace :=
  match Path.pieces path.toList with
  | [] :: names => names.foldlM files.follow .outside
  | names => names.foldlM files.follow (.inside [])

/-- The content of the file at a place. -/
def content (files : LocalFiles) : LocalPlace → Except LocalFault ByteArray
  | .outside => .error .isDirectory
  | .inside names =>
    match files.get? (pathOf names) with
    | some content => .ok content
    | none => .error .isDirectory

/-- The content of the file that a path leads to. -/
def read (files : LocalFiles) (path : String) : Except LocalFault ByteArray :=
  if '\x00' ∈ path.toList then
    .error .nulByte
  else if path = "" then
    .error .notFound
  else if pathLimit ≤ path.utf8ByteSize then
    .error .tooLong
  else
    files.placeAt path >>= files.content

/-- Write a file in the working directory, at a path that leads through no directory above. -/
def write (files : LocalFiles) (path : String) (content : ByteArray) : LocalFiles :=
  files.insert (pathOf ((Path.names path).filter (· ≠ ['.']))) content

/-! ### Plain names -/

@[simp] theorem pathOf_singleton (name : List Char) : pathOf [name] = String.ofList name := by
  simp [pathOf, List.intercalate]

/-- A file that is written under a plain name is read under it. -/
theorem read_write (files : LocalFiles) {name : List Char} (content : ByteArray)
    (hSlash : '/' ∉ name) (hNul : '\x00' ∉ name) (hNil : name ≠ []) (hDot : name ≠ ['.'])
    (hDots : name ≠ ['.', '.']) (hShort : (String.ofList name).utf8ByteSize ≤ nameLimit) :
    (files.write (String.ofList name) content).read (String.ofList name) = .ok content := by
  have hWrite : files.write (String.ofList name) content =
      files.insert (String.ofList name) content := by
    simp [write, Path.names, Path.pieces_of_notMem_slash hSlash, hNil, hDot]
  have hPath : ¬ pathLimit ≤ (String.ofList name).utf8ByteSize := by
    simp only [pathLimit, nameLimit] at hShort ⊢
    omega
  have hEmpty : String.ofList name ≠ "" := fun h => hNil (by simpa using congrArg String.toList h)
  have hPlace : placeAt (files.insert (String.ofList name) content) (String.ofList name) =
      .ok (.inside [name]) := by
    obtain ⟨c, rest, rfl⟩ := List.exists_cons_of_ne_nil hNil
    simp only [placeAt, String.toList_ofList, Path.pieces_of_notMem_slash hSlash,
      List.foldlM_cons, List.foldlM_nil]
    simpa [follow, isDirectory, hDot, hDots, SortedMap.contains] using hShort
  rw [hWrite, read, if_neg (by simpa using hNul), if_neg hEmpty, if_neg hPath, hPlace]
  change LocalFiles.content _ (.inside [name]) = _
  simp [LocalFiles.content]

end LocalFiles

end SparkFleet
