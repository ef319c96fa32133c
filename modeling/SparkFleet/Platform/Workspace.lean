import SparkFleet.Platform.State

/-!
# The workspace on the platform

Notebooks are kept by their paths.  A notebook is imported into a directory that exists, and a path
that is both a notebook and a directory is taken for the notebook.  A directory is deleted with all
that is below it, or only if nothing is.
-/

namespace SparkFleet

/-- The record of a directory. -/
def ObjectRecord.directory (path : String) : ObjectRecord where
  objectType := .directory
  path := path

namespace Platform

/-- The failure where nothing is at a workspace path. -/
def noPath (path : String) : ApiError := notFound ("Path (" ++ path ++ ") doesn't exist.")

/-- The notebook of a path with the next number. -/
def newNotebook (p : Platform) (path : String) (language : Option Language) (content : ByteArray) :
    ObjectEntry :=
  ⟨{ objectType := .notebook, path := path, language := language,
     objectId := some (.ofNat p.nextNumber) }, content⟩

/-- Read the record of what is at a path. -/
def objectStatus (p : Platform) (path : String) : Except ApiError ObjectRecord :=
  match p.objects.get? path with
  | some object => .ok object.record
  | none =>
    if p.dirs.contains (Path.directory path) then
      .ok (.directory (Path.directory path))
    else
      .error (noPath path)

/-- The objects directly below a directory: directories come first. -/
def listObjects (p : Platform) (path : String) : Except ApiError (List ObjectRecord) :=
  let dir := Path.directory path
  if p.dirs.contains dir then
    let objects := p.objects.values.map (·.record)
    .ok ((p.subdirs dir).map .directory ++ objects.filter fun o => Path.parent o.path = dir)
  else
    .error (noPath path)

/-- Delete what is at a path. -/
def deleteObject (p : Platform) (path : String) (recursive : Bool) :
    Except ApiError (Unit × Platform) :=
  let dir := Path.directory path
  -- The notebook goes and the directory stays where both have the path.
  if p.objects.contains path then
    .ok ((), { p with objects := p.objects.erase path })
  else if !p.dirs.contains dir then
    .error (noPath path)
  else if !recursive && (p.objects.any (fun o _ => Path.isBelow o dir) ||
      p.dirs.any (fun d _ => Path.isBelow d dir)) then
    .error (refused "DIRECTORY_NOT_EMPTY" ("Folder (" ++ path ++ ") is not empty"))
  else
    .ok ((), { p.removeDirs dir with objects := p.objects.filter fun o _ => !(Path.isBelow o dir) })

/-- Import a notebook. -/
def importNotebook (p : Platform) (n : NotebookImport) : Except ApiError (Unit × Platform) :=
  if p.objects.contains n.path && !n.overwrite then
    .error (refused "RESOURCE_ALREADY_EXISTS" ("Path (" ++ n.path ++ ") already exists."))
  else if !p.dirs.contains (Path.parent n.path) then
    .error (notFound ("The parent folder (" ++ Path.parent n.path ++ ") does not exist."))
  else
    let object := p.newNotebook n.path n.language n.content
    .ok ((), { p.withNextNumber with objects := p.objects.insert n.path object })

/-- Read the content of a notebook; its form does not matter. -/
def exportContent (p : Platform) (path : String) : Except ApiError ByteArray :=
  match p.objects.get? path with
  | some object => .ok object.content
  | none => .error (noPath path)

/-- Do what a call about the workspace asks for. -/
def performWorkspace (p : Platform) : (c : WorkspaceCall) → Except ApiError (c.Answer × Platform)
  | .getStatus path => (p.objectStatus path).map (·, p)
  | .list path => (p.listObjects path).map (·, p)
  | .mkdirs path => .ok ((), p.makeDirs path)
  | .delete path recursive => p.deleteObject path recursive
  | .exportNotebook path _ => (p.exportContent path).map (·, p)
  | .importNotebook n => p.importNotebook n

end Platform

end SparkFleet
