import SparkFleet.Id

/-!
# Library records

How a library is named on the wire, and what the platform reports about the libraries of a cluster.
-/

namespace SparkFleet

open Wire

/-- A package of the Python package index. -/
structure PyPiPackage where
  /-- The name, with a version if one is asked for. -/
  package : String
  /-- The index that is used instead of the usual one. -/
  repo : Option String
  deriving DecidableEq

/-- A Python package is written with its index, if it has one. -/
def PyPiPackage.codec : Codec PyPiPackage :=
  .record PyPiPackage.mk <|
    .field "package" package .text .required <|
    .field "repo" repo (.option .text) .whenSome .done

/-- An artifact of a Maven repository. -/
structure MavenArtifact where
  /-- Group, artifact and version. -/
  coordinates : String
  /-- The repository that is used instead of the usual one. -/
  repo : Option String
  exclusions : List String
  deriving DecidableEq

/-- An artifact is written with its repository and exclusions, if it has any. -/
def MavenArtifact.codec : Codec MavenArtifact :=
  .record MavenArtifact.mk <|
    .field "coordinates" coordinates .text .required <|
    .field "repo" repo (.option .text) .whenSome <|
    .field "exclusions" exclusions (.list .text) .whenFilled .done

/-- A package of the R archive network. -/
structure CranPackage where
  package : String
  /-- The archive that is used instead of the usual one. -/
  repo : Option String
  deriving DecidableEq

/-- An R package is written with its archive, if it has one. -/
def CranPackage.codec : Codec CranPackage :=
  .record CranPackage.mk <|
    .field "package" package .text .required <|
    .field "repo" repo (.option .text) .whenSome .done

/-- A library on the wire; one of the fields is set. -/
structure LibrarySpec where
  jar : Option String := none
  egg : Option String := none
  pypi : Option PyPiPackage := none
  maven : Option MavenArtifact := none
  cran : Option CranPackage := none
  deriving DecidableEq

/-- A library is written with the field that is set. -/
def LibrarySpec.codec : Codec LibrarySpec :=
  .record LibrarySpec.mk <|
    .field "jar" jar (.option .text) .whenSome <|
    .field "egg" egg (.option .text) .whenSome <|
    .field "pypi" pypi (.option PyPiPackage.codec) .whenSome <|
    .field "maven" maven (.option MavenArtifact.codec) .whenSome <|
    .field "cran" cran (.option CranPackage.codec) .whenSome .done

/-- How far the installation of a library has come. -/
inductive InstallStatus where
  | pending
  | resolving
  | installing
  | installed
  | skipped
  | failed
  | uninstallOnRestart
  deriving DecidableEq, Inhabited

namespace InstallStatus

/-- The name of a status. -/
def name : InstallStatus → String
  | .pending => "PENDING"
  | .resolving => "RESOLVING"
  | .installing => "INSTALLING"
  | .installed => "INSTALLED"
  | .skipped => "SKIPPED"
  | .failed => "FAILED"
  | .uninstallOnRestart => "UNINSTALL_ON_RESTART"

/-- Every status. -/
def all : List InstallStatus :=
  [.pending, .resolving, .installing, .installed, .skipped, .failed, .uninstallOnRestart]

/-- A status is written as its name; other names are refused. -/
def codec : Codec InstallStatus := .enumeration (all.map fun s => (s.name, s)) none name

/-- Whether the installation has come to its end. -/
def isSettled : InstallStatus → Bool
  | .installed | .skipped | .failed | .uninstallOnRestart => true
  | .pending | .resolving | .installing => false

end InstallStatus

/-- What the platform reports about a library on a cluster. -/
structure LibraryEntry where
  library : LibrarySpec
  status : InstallStatus
  messages : List String := []
  isLibraryForAllClusters : Bool := false
  deriving DecidableEq

/-- An entry is written with its messages, if it has any. -/
def LibraryEntry.codec : Codec LibraryEntry :=
  .record LibraryEntry.mk <|
    .field "library" library LibrarySpec.codec .required <|
    .field "status" status InstallStatus.codec .required <|
    .field "messages" messages (.list .text) .whenFilled <|
    .field "is_library_for_all_clusters" isLibraryForAllClusters .flag (.defaultsTo false) .done

/-- What the platform reports about the libraries of a cluster. -/
structure ClusterLibraries where
  clusterId : ClusterId
  /-- Its libraries in the order of their installation. -/
  libraryStatuses : List LibraryEntry := []
  deriving DecidableEq

/-- The libraries of a cluster are written with every field. -/
def ClusterLibraries.codec : Codec ClusterLibraries :=
  .record ClusterLibraries.mk <|
    .field "cluster_id" clusterId ClusterId.codec .required <|
    .field "library_statuses" libraryStatuses (.list LibraryEntry.codec) (.defaultsTo []) .done

/-- A request to install libraries on a cluster or to remove them. -/
structure LibrariesRequest where
  clusterId : ClusterId
  libraries : List LibrarySpec
  deriving DecidableEq

/-- A request about libraries is written with every field. -/
def LibrariesRequest.codec : Codec LibrariesRequest :=
  .record LibrariesRequest.mk <|
    .field "cluster_id" clusterId ClusterId.codec .required <|
    .field "libraries" libraries (.list LibrarySpec.codec) .required .done

end SparkFleet
