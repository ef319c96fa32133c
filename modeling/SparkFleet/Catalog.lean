import SparkFleet.Action

/-!
# The catalog of a session

Versions, node types and zones on offer are read when they are first needed and kept for the rest
of the session, which therefore never sees a later change.  A read that fails leaves nothing
behind, so the next access tries again.
-/

namespace SparkFleet

/-- The runtime versions that a session knows. -/
structure SparkVersions where
  /-- The versions in the platform's order, the default one included. -/
  versions : List SparkVersion
  defaultKey : Option String
  deriving DecidableEq

namespace SparkVersions

/-- The first version of a key. -/
def byKey? (v : SparkVersions) (key : String) : Option SparkVersion :=
  v.versions.find? fun version => version.key == key

/-- The default version. -/
def default? (v : SparkVersions) : Option SparkVersion := v.defaultKey.bind v.byKey?

/-- The versions on offer.  A default version that is not listed is added at the end, its key
serving as its name. -/
def ofOffer (offer : SparkVersionOffer) : SparkVersions :=
  match offer.defaultVersionKey with
  | some key =>
    if offer.versions.any fun version => version.key == key then
      ⟨offer.versions, some key⟩
    else
      ⟨offer.versions ++ [⟨key, key⟩], some key⟩
  | none => ⟨offer.versions, none⟩

end SparkVersions

/-- The node types that a session knows. -/
structure NodeTypes where
  nodeTypes : List NodeType
  /-- The identifier of the default type, which need not be listed. -/
  defaultId : Option String

namespace NodeTypes

/-- The first node type of an identifier. -/
def byId? (t : NodeTypes) (id : String) : Option NodeType :=
  t.nodeTypes.find? fun nodeType => nodeType.nodeTypeId == id

/-- The default node type, if it is listed. -/
def default? (t : NodeTypes) : Option NodeType := t.defaultId.bind t.byId?

/-- The node types on offer. -/
def ofOffer (offer : NodeTypeOffer) : NodeTypes := ⟨offer.nodeTypes, offer.defaultNodeTypeId⟩

end NodeTypes

/-- The zones that a session knows. -/
structure Zones where
  zones : List String
  /-- The default zone, which need not be listed. -/
  defaultZone : Option String
  deriving DecidableEq

/-- The zones on offer. -/
def Zones.ofOffer (offer : ZoneOffer) : Zones := ⟨offer.zones, offer.defaultZone⟩

/-- What a session has read so far. -/
structure Catalog where
  /-- The versions, once they have been read. -/
  sparkVersions : Option SparkVersions := none
  /-- The node types, once they have been read. -/
  nodeTypes : Option NodeTypes := none
  /-- The zones, once they have been read. -/
  zones : Option Zones := none

/-- A program that may fail and that shares a session's catalog; what is read stays known even if
the program fails later. -/
abbrev Session (α : Type) := ExceptT Error (StateT Catalog Program) α

namespace Session

variable {α : Type}

/-- An action that does not touch the catalog. -/
def act (a : Action α) : Session α :=
  ExceptT.mk fun catalog => do return (← a.run, catalog)

/-- The program with its errors in one family. -/
def within (f : Family) (s : Session α) : Session α :=
  ExceptT.mk (Action.failWithin f <$> s.run)

/-- The versions on offer, read on the first access. -/
def sparkVersions : Session SparkVersions := do
  match (← get).sparkVersions with
  | some versions => return versions
  | none =>
    let versions := SparkVersions.ofOffer (← act (.ask (.clusters .sparkVersions)))
    modify fun catalog => { catalog with sparkVersions := some versions }
    return versions

/-- The node types on offer, read on the first access. -/
def nodeTypes : Session NodeTypes := do
  match (← get).nodeTypes with
  | some types => return types
  | none =>
    let types := NodeTypes.ofOffer (← act (.ask (.clusters .nodeTypes)))
    modify fun catalog => { catalog with nodeTypes := some types }
    return types

/-- The zones on offer, read on the first access. -/
def zones : Session Zones := do
  match (← get).zones with
  | some zones => return zones
  | none =>
    let zones := Zones.ofOffer (← act (.ask (.clusters .zones)))
    modify fun catalog => { catalog with zones := some zones }
    return zones

end Session

end SparkFleet
