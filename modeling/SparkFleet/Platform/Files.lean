import SparkFleet.Platform.State

/-!
# The file store on the platform

A file is written through a handle: what is sent is kept apart and becomes the file when the handle
is closed, so that an upload that is not finished is never seen.  The directories above a new file
are created with it.
-/

namespace SparkFleet

namespace Platform

/-- The failure where nothing is at a path of the file store. -/
def noEntry (path : String) : ApiError :=
  notFound ("No file or directory exists on path " ++ path ++ ".")

/-- The failure where a file is at a path that must be free. -/
def entryExists (path : String) : ApiError :=
  refused "RESOURCE_ALREADY_EXISTS"
    ("A file or directory already exists at the input path " ++ path ++ ".")

/-- Write a file, creating the directories above it. -/
def writeFile (p : Platform) (path : String) (content : ByteArray) : Platform :=
  { p.makeDirs (Path.parent path) with files := p.files.insert path content }

/-! ### Uploads -/

/-- The handle of the next upload. -/
def nextHandle (p : Platform) : Int64 := .ofNat p.nextNumber

/-- The upload of a handle. -/
def findUpload (p : Platform) (handle : Int64) : Except ApiError Upload :=
  match p.uploads.get? handle with
  | some upload => .ok upload
  | none => .error (notFound ("Handle " ++ toString handle.toInt ++ " does not exist."))

/-- Open a path for writing; a file is there only if it may be replaced. -/
def openUpload (p : Platform) (path : String) (overwrite : Bool) :
    Except ApiError (Int64 × Platform) :=
  if p.files.contains path && !overwrite then
    .error (entryExists path)
  else
    .ok (p.nextHandle,
      { p.withNextNumber with uploads := p.uploads.insert p.nextHandle { path := path } })

/-- Append a block to what has been sent. -/
def appendBlock (p : Platform) (handle : Int64) (data : ByteArray) :
    Except ApiError (Unit × Platform) := do
  let upload ← p.findUpload handle
  let upload := { upload with content := upload.content ++ data }
  return ((), { p with uploads := p.uploads.insert handle upload })

/-- Close a handle: what has been sent becomes the file, whatever is there now. -/
def closeUpload (p : Platform) (handle : Int64) : Except ApiError (Unit × Platform) := do
  let upload ← p.findUpload handle
  return ((), { p.writeFile upload.path upload.content with uploads := p.uploads.erase handle })

/-! ### Entries -/

/-- The content of the file at a path. -/
def findFile (p : Platform) (path : String) : Except ApiError ByteArray :=
  match p.files.get? path with
  | some content => .ok content
  | none => .error (noEntry path)

/-- The part of some content from an offset on, of at most a length. -/
def window (content : ByteArray) (offset length : Nat) : ByteArray :=
  content.extract offset (min (offset + length) content.size)

/-- Read the record of what is at a path. -/
def fileStatus (p : Platform) (path : String) : Except ApiError FileRecord :=
  match p.files.get? path with
  | some content => .ok ⟨path, false, .ofNat content.size⟩
  | none =>
    if p.dirs.contains (Path.directory path) then
      .ok ⟨Path.directory path, true, 0⟩
    else
      .error (noEntry path)

/-- The entries directly below a directory: directories come first. -/
def listFiles (p : Platform) (path : String) : Except ApiError (List FileRecord) :=
  let dir := Path.directory path
  if p.dirs.contains dir then
    let files := p.files.entries.filter fun e => Path.parent e.1 = dir
    .ok ((p.subdirs dir).map (⟨·, true, 0⟩) ++
      files.map fun e => ⟨e.1, false, .ofNat e.2.size⟩)
  else
    .error (noEntry path)

/-- Delete what is at a path; it does not matter whether there is anything.  A directory counts as
empty if no file is below it. -/
def deleteFile (p : Platform) (path : String) (recursive : Bool) :
    Except ApiError (Unit × Platform) :=
  let dir := Path.directory path
  -- The file goes and the directory stays where both have the path.
  if p.files.contains path then
    .ok ((), { p with files := p.files.erase path })
  else if !recursive && p.files.any (fun f _ => Path.isBelow f dir) then
    .error (refused "IO_ERROR" ("Directory " ++ path ++ " is not empty"))
  else
    .ok ((), { p.removeDirs dir with files := p.files.filter fun f _ => !(Path.isBelow f dir) })

/-- Move a file to a path where none is. -/
def moveFile (p : Platform) (source destination : String) : Except ApiError (Unit × Platform) :=
  if p.files.contains destination then
    .error (entryExists destination)
  else do
    let content ← p.findFile source
    return ((), { p with files := p.files.erase source }.writeFile destination content)

/-- Do what a call about the file store asks for. -/
def performFiles (p : Platform) : (c : FileCall) → Except ApiError (c.Answer × Platform)
  | .create path overwrite => p.openUpload path overwrite
  | .addBlock handle data => p.appendBlock handle data
  | .close handle => p.closeUpload handle
  | .read path offset length =>
    (p.findFile path).map fun content => (window content offset.toNat length.toNat, p)
  | .getStatus path => (p.fileStatus path).map (·, p)
  | .delete path recursive => p.deleteFile path recursive
  | .move source destination => p.moveFile source destination
  | .mkdirs path => .ok ((), p.makeDirs path)
  | .list path => (p.listFiles path).map (·, p)

end Platform

end SparkFleet
