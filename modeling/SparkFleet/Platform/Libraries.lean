import SparkFleet.Platform.Clusters

/-!
# Libraries on the platform

A library is installed on a cluster that exists, once for each wire form.  While the cluster runs,
each read of the statuses brings every installation nearer to its end.  A library that is removed is
only marked, and goes when the cluster comes up again; installing it anew takes the mark away.
-/

namespace SparkFleet

namespace LibraryProgress

/-- A library whose installation begins. -/
def new (library : LibrarySpec) (reads : Nat) : LibraryProgress :=
  ⟨⟨library, .pending, [], false⟩, reads⟩

/-- The library with a status that is decided. -/
def withStatus (l : LibraryProgress) (status : InstallStatus) : LibraryProgress :=
  ⟨{ l.entry with status := status }, 0⟩

/-- The library installed anew: a mark for removal is taken away. -/
def renewed (l : LibraryProgress) : LibraryProgress :=
  if l.entry.status = .uninstallOnRestart then
    { l with entry := { l.entry with status := .installed } }
  else
    l

/-- The effect of one read of the statuses while the cluster runs. -/
def observed (l : LibraryProgress) : LibraryProgress :=
  if l.entry.status.isSettled then
    l
  else
    match l.readsLeft with
    | 0 => { l with entry := { l.entry with status := .installed } }
    | reads + 1 => ⟨{ l.entry with status := .installing }, reads⟩

/-- Install a library among others: one that is there already is only installed anew. -/
def installed (reads : Nat) (library : LibrarySpec) : List LibraryProgress → List LibraryProgress
  | [] => [new library reads]
  | l :: rest =>
    if l.entry.library = library then l.renewed :: rest else l :: installed reads library rest

/-- Give a status to all libraries of a list. -/
def marked (libraries : List LibrarySpec) (status : InstallStatus) (l : LibraryProgress) :
    LibraryProgress :=
  if libraries.contains l.entry.library then l.withStatus status else l

end LibraryProgress

namespace Platform

/-- The libraries of a cluster. -/
def librariesOf (p : Platform) (id : ClusterId) : List LibraryProgress :=
  (p.libraries.get? id).getD []

/-- Install libraries on a cluster, one after the other. -/
def installLibraries (p : Platform) (id : ClusterId) (libraries : List LibrarySpec) :
    Except ApiError (Unit × Platform) := do
  let _ ← p.findCluster id
  let entries := libraries.foldl (fun entries library =>
    LibraryProgress.installed p.settleReads library entries) (p.librariesOf id)
  return ((), { p with libraries := p.libraries.insert id entries })

/-- Mark libraries of a cluster for removal. -/
def uninstallLibraries (p : Platform) (id : ClusterId) (libraries : List LibrarySpec) :
    Except ApiError (Unit × Platform) := do
  let _ ← p.findCluster id
  return ((), { p with
    libraries := p.libraries.modify id fun entries =>
      entries.map (LibraryProgress.marked libraries .uninstallOnRestart) })

/-- Read the statuses of the libraries of a cluster. -/
def readLibraries (p : Platform) (id : ClusterId) :
    Except ApiError (ClusterLibraries × Platform) := do
  let cluster ← p.findCluster id
  let entries := p.librariesOf id
  let entries :=
    if cluster.record.state = .running then entries.map LibraryProgress.observed else entries
  return (⟨id, entries.map (·.entry)⟩, { p with libraries := p.libraries.insert id entries })

/-- Do what a call about libraries asks for. -/
def performLibraries (p : Platform) : (c : LibraryCall) → Except ApiError (c.Answer × Platform)
  | .install id libraries => p.installLibraries id libraries
  | .uninstall id libraries => p.uninstallLibraries id libraries
  | .clusterStatus id => p.readLibraries id

end Platform

end SparkFleet
