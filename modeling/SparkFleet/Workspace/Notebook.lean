import SparkFleet.Action

/-!
# Notebooks and the workspace

A notebook is known by its path.  What is read at the path must be a notebook.
-/

namespace SparkFleet

/-- A notebook of the workspace. -/
structure Notebook where
  path : String
  language : Option Language
  objectId : Option Int64
  deriving DecidableEq

namespace Notebook

/-- The notebook that a record describes. -/
def ofRecord (r : ObjectRecord) : Except Error Notebook :=
  if r.objectType = .notebook then
    .ok ⟨r.path, r.language, r.objectId⟩
  else
    .error (.resource (r.path ++ " is not a notebook (" ++ r.objectType.debug ++ ")"))

/-- The notebook at a path. -/
def get (path : String) : Action Notebook :=
  .within .workspace do
    match ← Action.tryAsk (.workspace (.getStatus path)) with
    | .ok record => .ofExcept (ofRecord record)
    | .error cause =>
      throw (.unresolved ("notebook " ++ path ++ " could not be found") (.transport cause))

/-- Import the text of a notebook and read it back. -/
def importSource (path : String) (language : Language) (content : ByteArray) (overwrite : Bool) :
    Action Notebook := do
  let _ ← Action.within .workspace <|
    .ask (.workspace (.importNotebook ⟨path, .source, some language, content, overwrite⟩))
  get path

/-- Export the content of the notebook. -/
def exportAs (n : Notebook) (format : ExportFormat) : Action ByteArray :=
  .within .workspace (.ask (.workspace (.exportNotebook n.path format)))

end Notebook

namespace Workspace

/-- The objects directly below a path. -/
def list (path : String) : Action (List ObjectRecord) :=
  .within .workspace (.ask (.workspace (.list path)))

/-- Create a directory and those above it. -/
def mkdirs (path : String) : Action Unit :=
  .within .workspace (.ask (.workspace (.mkdirs path)))

/-- Delete the object at a path. -/
def delete (path : String) (recursive : Bool) : Action Unit :=
  .within .workspace (.ask (.workspace (.delete path recursive)))

end Workspace

end SparkFleet
