import SparkFleet.Call
import SparkFleet.Path
import SparkFleet.SortedMap

/-!
# The state of the platform in memory

A platform that keeps everything in memory: its clusters, jobs, runs, libraries, notebooks and
files, the uploads that are open, and what it counts.  A change that takes time, such as the start
of a cluster, comes to its end after a number of reads, so that nothing depends on a clock.

Notebooks and files have maps of their own, but the workspace and the file store share one set of
directories.
-/

namespace SparkFleet

/-- A change of a cluster's state that takes time. -/
structure Transition where
  target : ClusterState
  /-- How many more reads show the state of the change. -/
  readsLeft : Nat
  deriving DecidableEq

/-- A cluster on the platform. -/
structure ClusterEntry where
  record : ClusterRecord
  transition : Option Transition := none
  deriving DecidableEq

/-- A library on a cluster. -/
structure LibraryProgress where
  entry : LibraryEntry
  /-- How many more reads show that it is being installed. -/
  readsLeft : Nat := 0
  deriving DecidableEq

/-- A run on the platform. -/
structure RunEntry where
  record : RunRecord
  /-- What came out of it, apart from the record. -/
  output : RunOutput := {}
  /-- How many more reads show that it has not ended. -/
  readsLeft : Nat := 0
  deriving DecidableEq

/-- An object of the workspace with its content. -/
structure ObjectEntry where
  record : ObjectRecord
  content : ByteArray

/-- An upload that is open. -/
structure Upload where
  path : String
  content : ByteArray := .empty

/-- The key of the version that is the default at first. -/
def firstSparkVersion : String := "7.3.x-scala2.12"

/-- The node type that is the default at first. -/
def firstNodeType : String := "i3.xlarge"

/-- The zone that is the default at first. -/
def firstZone : String := "us-west-2c"

/-- The state of the platform. -/
structure Platform where
  /-- How many reads show a change that takes time before it comes to its end. -/
  settleReads : Nat := 2
  /-- The number that was given to a resource last. -/
  lastNumber : Nat := 0
  clusters : SortedMap ClusterId ClusterEntry := .empty
  jobs : SortedMap JobId JobRecord := .empty
  runs : SortedMap RunId RunEntry := .empty
  /-- The libraries of each cluster, in the order of their installation. -/
  libraries : SortedMap ClusterId (List LibraryProgress) := .empty
  /-- The objects of the workspace by their paths. -/
  objects : SortedMap String ObjectEntry := .empty
  /-- The files of the file store by their paths. -/
  files : SortedMap String ByteArray := .empty
  dirs : SortedMap String Unit := .ofList [(Path.root, ())]
  uploads : SortedMap Int64 Upload := .empty
  sparkVersions : SparkVersionOffer := {
    versions := [
      ⟨firstSparkVersion, "7.3 LTS (includes Apache Spark 3.0.1, Scala 2.12)"⟩,
      ⟨"9.1.x-scala2.12", "9.1 LTS (includes Apache Spark 3.1.2, Scala 2.12)"⟩]
    defaultVersionKey := some firstSparkVersion }
  nodeTypes : NodeTypeOffer := {
    nodeTypes := [{
      nodeTypeId := firstNodeType
      memoryMb := 31232
      numCores := 4
      description := "i3.xlarge"
      instanceTypeId := some "i3.xlarge" }]
    defaultNodeTypeId := some firstNodeType }
  zones : ZoneOffer := ⟨[firstZone, "us-west-2b"], some firstZone⟩
  /-- The statuses with which the calls of an endpoint are refused. -/
  failures : SortedMap String UInt16 := .empty
  calls : SortedMap String Nat := .empty

namespace Platform

/-! ### Failures -/

/-- The failure where a named resource is not there. -/
def notFound (message : String) : ApiError := .status 404 (some ApiError.missingResource) message

/-- The failure where a request is refused, with the platform's code. -/
def refused (code message : String) : ApiError := .status 400 (some code) message

/-- The failure of a status that calls are refused with. -/
def injected (endpoint : String) (code : UInt16) : ApiError :=
  if code = 401 then .unauthenticated
  else if code = 403 then .unauthorized
  else .status code none ("injected failure for " ++ endpoint)

/-! ### Numbers -/

/-- The number that the next new resource is given. -/
def nextNumber (p : Platform) : Nat := p.lastNumber + 1

/-- The state after a number has been given. -/
def withNextNumber (p : Platform) : Platform := { p with lastNumber := p.nextNumber }

/-- A number with leading zeros, so that it has four digits at least. -/
def fourDigits (n : Nat) : String :=
  let digits := Nat.toDigits 10 n
  String.ofList (List.replicate (4 - digits.length) '0' ++ digits)

/-! ### Directories -/

/-- Create a directory and those above it. -/
def makeDirs (p : Platform) (path : String) : Platform :=
  let above := p.dirs.insertAll ((Path.above path).map (·, ()))
  { p with dirs := above.insert (Path.directory path) () }

/-- The directories directly below one. -/
def subdirs (p : Platform) (dir : String) : List String :=
  p.dirs.keys.filter fun d => d ≠ dir ∧ Path.parent d = dir

/-- Remove a directory and those below it. -/
def removeDirs (p : Platform) (dir : String) : Platform :=
  { p with dirs := p.dirs.filter fun d _ => !(Path.isBelow d dir) && d ≠ dir }

end Platform

end SparkFleet
