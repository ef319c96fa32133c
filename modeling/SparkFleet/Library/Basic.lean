import SparkFleet.Library.Record

/-!
# Libraries

A library is an archive at an address or a package of a repository.  The platform gives it no
identifier: two libraries are the same if their kind, their name and their repository are.

The main statement is `ofSpec?_toSpec`: the wire form of a library denotes it.
-/

namespace SparkFleet

/-- The kind of a library. -/
inductive LibraryKind where
  | jar | egg | pypi | maven | cran
  deriving DecidableEq

/-- The name of a kind. -/
def LibraryKind.name : LibraryKind → String
  | .jar => "jar"
  | .egg => "egg"
  | .pypi => "pypi"
  | .maven => "maven"
  | .cran => "cran"

/-- Every kind. -/
def LibraryKind.all : List LibraryKind := [.jar, .egg, .pypi, .maven, .cran]

/-- A library that can be installed on a cluster. -/
inductive Library where
  | jar (uri : String)
  | egg (uri : String)
  /-- A Python package, perhaps of another index than the usual one. -/
  | pypi (package : String) (repo : Option String)
  /-- A Maven artifact, perhaps of another repository, without some of its dependencies. -/
  | maven (coordinates : String) (repo : Option String) (exclusions : List String)
  /-- An R package, perhaps of another archive. -/
  | cran (package : String) (repo : Option String)
  deriving DecidableEq

namespace Library

/-- A library of a kind and name, of the usual repository. -/
def ofKind (kind : LibraryKind) (identifier : String) : Library :=
  match kind with
  | .jar => .jar identifier
  | .egg => .egg identifier
  | .pypi => .pypi identifier none
  | .maven => .maven identifier none []
  | .cran => .cran identifier none

/-- The library of another repository; an archive has none. -/
def withRepo (l : Library) (repo : String) : Library :=
  match l with
  | .pypi package _ => .pypi package (some repo)
  | .maven coordinates _ exclusions => .maven coordinates (some repo) exclusions
  | .cran package _ => .cran package (some repo)
  | l => l

/-- The artifact without some of its dependencies; other kinds have none. -/
def withExclusions (l : Library) (exclusions : List String) : Library :=
  match l with
  | .maven coordinates repo _ => .maven coordinates repo exclusions
  | l => l

/-! ### Identity -/

/-- The kind. -/
def kind : Library → LibraryKind
  | .jar _ => .jar
  | .egg _ => .egg
  | .pypi _ _ => .pypi
  | .maven _ _ _ => .maven
  | .cran _ _ => .cran

/-- The address, package or coordinates. -/
def identifier : Library → String
  | .jar uri | .egg uri => uri
  | .pypi package _ | .cran package _ => package
  | .maven coordinates _ _ => coordinates

/-- The repository, if it is not the usual one. -/
def repo : Library → Option String
  | .jar _ | .egg _ => none
  | .pypi _ repo | .maven _ repo _ | .cran _ repo => repo

/-- The dependencies that are left out of an artifact. -/
def exclusions : Library → Option (List String)
  | .maven _ _ exclusions => some exclusions
  | _ => none

/-- Whether two libraries are the same: the dependencies that are left out do not count. -/
def isSameAs (a b : Library) : Bool :=
  a.kind = b.kind && a.identifier = b.identifier && a.repo = b.repo

/-! ### Wire form -/

/-- The library on the wire. -/
def toSpec : Library → LibrarySpec
  | .jar uri => { jar := some uri }
  | .egg uri => { egg := some uri }
  | .pypi package repo => { pypi := some ⟨package, repo⟩ }
  | .maven coordinates repo exclusions => { maven := some ⟨coordinates, repo, exclusions⟩ }
  | .cran package repo => { cran := some ⟨package, repo⟩ }

/-- The library that a wire form denotes: the first field that is set counts. -/
def ofSpec? (spec : LibrarySpec) : Option Library :=
  match spec with
  | { jar := some uri, .. } => some (.jar uri)
  | { egg := some uri, .. } => some (.egg uri)
  | { pypi := some p, .. } => some (.pypi p.package p.repo)
  | { maven := some m, .. } => some (.maven m.coordinates m.repo m.exclusions)
  | { cran := some c, .. } => some (.cran c.package c.repo)
  | _ => none

@[simp] theorem ofSpec?_toSpec (l : Library) : ofSpec? l.toSpec = some l := by
  cases l <;> rfl

/-- Libraries have different wire forms. -/
theorem toSpec_injective {a b : Library} (h : a.toSpec = b.toSpec) : a = b := by
  have hSpec := congrArg ofSpec? h
  rw [ofSpec?_toSpec, ofSpec?_toSpec] at hSpec
  exact Option.some.inj hSpec

end Library

end SparkFleet
