import SparkFleet.Cluster.Handle
import SparkFleet.Library.Basic

/-!
# Libraries on clusters

Installing and removing a library, and looking up how far its installation has come.  The entry of
a library is found by its identity; entries of no known kind are passed over.
-/

namespace SparkFleet

/-- How far a library's installation on a cluster has come. -/
structure LibraryStatus where
  library : Library
  state : InstallStatus
  messages : List String
  forAllClusters : Bool
  deriving DecidableEq

/-- The status that an entry denotes; the library must be of a known kind. -/
def LibraryStatus.ofEntry (entry : LibraryEntry) : Except Error LibraryStatus :=
  match Library.ofSpec? entry.library with
  | some library =>
    .ok ⟨library, entry.status, entry.messages, entry.isLibraryForAllClusters⟩
  | none => .error (.config .library "status entry carries no known library kind")

/-- The statuses of the libraries of known kinds on a cluster. -/
def Cluster.libraryStatuses (c : Cluster) : Action (List LibraryStatus) :=
  .within .library do
    let libraries : ClusterLibraries ← .ask (.libraries (.clusterStatus c.id))
    return libraries.libraryStatuses.filterMap fun entry => (LibraryStatus.ofEntry entry).toOption

/-- A library that has been installed on a cluster. -/
structure InstalledLibrary where
  cluster : Cluster
  library : Library
  deriving DecidableEq

namespace Library

/-- Ask the platform to install the library; it is not waited for. -/
def install (l : Library) (c : Cluster) : Action InstalledLibrary :=
  .within .library do
    let _ ← Action.ask (.libraries (.install c.id [l.toSpec]))
    return ⟨c, l⟩

/-- Ask the platform to remove the library, which it does at the next restart. -/
def uninstall (l : Library) (c : Cluster) : Action Unit :=
  .within .library (.ask (.libraries (.uninstall c.id [l.toSpec])))

/-- The error where a cluster has no entry of the library. -/
def notAssociated (l : Library) (c : Cluster) : Error :=
  .config .library (l.kind.name ++ " library " ++ l.identifier ++
    " is not associated with cluster " ++ c.id.text)

/-- The status of the library on a cluster: that of the first entry of its identity. -/
def clusterStatus (l : Library) (c : Cluster) : Action LibraryStatus := do
  match (← c.libraryStatuses).find? fun status => status.library.isSameAs l with
  | some status => return status
  | none => throw (l.notAssociated c)

end Library

namespace InstalledLibrary

/-- The status as it is now. -/
def status (i : InstalledLibrary) : Action LibraryStatus := i.library.clusterStatus i.cluster

/-- Ask the platform to remove the library. -/
def uninstall (i : InstalledLibrary) : Action Unit := i.library.uninstall i.cluster

end InstalledLibrary

end SparkFleet
