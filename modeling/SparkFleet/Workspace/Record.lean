import SparkFleet.Wire.Codec

/-!
# Workspace records

What the platform reports about the objects of a workspace, and what is sent to import one.
-/

namespace SparkFleet

open Wire

/-- The kind of a workspace object. -/
inductive ObjectType where
  | notebook
  | directory
  | library
  | file
  | repo
  /-- A kind of a name that is not known. -/
  | unknown
  deriving DecidableEq, Inhabited

namespace ObjectType

/-- The name of a kind. -/
def name : ObjectType → String
  | .notebook => "NOTEBOOK"
  | .directory => "DIRECTORY"
  | .library => "LIBRARY"
  | .file => "FILE"
  | .repo => "REPO"
  | .unknown => "UNKNOWN"

/-- The word that stands for a kind in messages. -/
def debug : ObjectType → String
  | .notebook => "Notebook"
  | .directory => "Directory"
  | .library => "Library"
  | .file => "File"
  | .repo => "Repo"
  | .unknown => "Unknown"

/-- Every kind. -/
def all : List ObjectType := [.notebook, .directory, .library, .file, .repo, .unknown]

/-- A kind is written as its name. -/
def codec : Codec ObjectType := .enumeration (all.map fun t => (t.name, t)) (some .unknown) name

end ObjectType

/-- The language of a notebook. -/
inductive Language where
  | scala | python | sql | r
  deriving DecidableEq, Inhabited

namespace Language

/-- The name of a language. -/
def name : Language → String
  | .scala => "SCALA"
  | .python => "PYTHON"
  | .sql => "SQL"
  | .r => "R"

/-- Every language. -/
def all : List Language := [.scala, .python, .sql, .r]

/-- A language is written as its name; other names are refused. -/
def codec : Codec Language := .enumeration (all.map fun l => (l.name, l)) none name

end Language

/-- The form in which a notebook is exported or imported. -/
inductive ExportFormat where
  | source
  | html
  | jupyter
  | dbc
  deriving DecidableEq, Inhabited

namespace ExportFormat

/-- The name of a form. -/
def name : ExportFormat → String
  | .source => "SOURCE"
  | .html => "HTML"
  | .jupyter => "JUPYTER"
  | .dbc => "DBC"

/-- Every form. -/
def all : List ExportFormat := [.source, .html, .jupyter, .dbc]

/-- A form is written as its name; other names are refused. -/
def codec : Codec ExportFormat := .enumeration (all.map fun f => (f.name, f)) none name

/-- The form that is used where none is named. -/
def standard : ExportFormat := .source

end ExportFormat

/-- What the platform reports about a workspace object. -/
structure ObjectRecord where
  objectType : ObjectType
  path : String
  language : Option Language := none
  objectId : Option Int64 := none
  deriving DecidableEq

/-- An object is written with its language and identifier, if it has them. -/
def ObjectRecord.codec : Codec ObjectRecord :=
  .record ObjectRecord.mk <|
    .field "object_type" objectType ObjectType.codec .required <|
    .field "path" path .text .required <|
    .field "language" language (.option Language.codec) .whenSome <|
    .field "object_id" objectId (.option int64) .whenSome .done

/-- The answer that lists objects. -/
def ObjectRecord.listCodec : Codec (List ObjectRecord) :=
  wrappedOr "objects" (.list ObjectRecord.codec) []

/-- A notebook that is to be imported, with its content as bytes. -/
structure NotebookImport where
  path : String
  format : ExportFormat
  /-- The language; required where the form is the text. -/
  language : Option Language
  content : ByteArray
  /-- Whether it replaces a notebook at the path. -/
  overwrite : Bool

/-- A notebook import as it is sent, its content in Base64. -/
structure ImportRequest where
  /-- The path that the notebook is to have. -/
  path : String
  format : ExportFormat
  language : Option Language := none
  content : String
  /-- Whether it replaces a notebook at the path. -/
  overwrite : Bool
  deriving DecidableEq

/-- An import is written with its language, if it has one. -/
def ImportRequest.codec : Codec ImportRequest :=
  .record ImportRequest.mk <|
    .field "path" path .text .required <|
    .field "format" format ExportFormat.codec .required <|
    .field "language" language (.option Language.codec) .whenSome <|
    .field "content" content .text .required <|
    .field "overwrite" overwrite .flag .required .done

/-- The answer to an export: the content in Base64. -/
def exportCodec : Codec String := wrappedOr "content" .text ""

/-- The body of a request about a path alone. -/
def pathCodec : Codec String := wrapped "path" .text

/-- The body of a request to delete a path: whether what is below it goes too. -/
def deletionCodec : Codec (String × Bool) :=
  .record Prod.mk <|
    .field "path" (·.1) .text .required <|
    .field "recursive" (·.2) .flag .required .done

end SparkFleet
