import SparkFleet.Wire.Codec

/-!
# File-store records

What the platform reports about the entries of its file store, and what is sent to write one.  A
file is written through a handle, block by block, and read window by window.
-/

namespace SparkFleet

open Wire

/-- What the platform reports about an entry of the file store. -/
structure FileRecord where
  path : String
  isDir : Bool := false
  fileSize : UInt64 := 0
  deriving DecidableEq

/-- An entry is written with every field. -/
def FileRecord.codec : Codec FileRecord :=
  .record FileRecord.mk <|
    .field "path" path .text .required <|
    .field "is_dir" isDir .flag (.defaultsTo false) <|
    .field "file_size" fileSize uint64 (.defaultsTo 0) .done

/-- The answer that lists entries. -/
def FileRecord.listCodec : Codec (List FileRecord) :=
  wrappedOr "files" (.list FileRecord.codec) []

/-- The body of a request to open a path for writing: whether a file there is replaced. -/
def openingCodec : Codec (String × Bool) :=
  .record Prod.mk <|
    .field "path" (·.1) .text .required <|
    .field "overwrite" (·.2) .flag .required .done

/-- A record that names an open handle: the answer where one is opened, and the body of a request
to close it. -/
def handleCodec : Codec Int64 := wrapped "handle" int64

/-- The body of a request to append a block in Base64. -/
def blockCodec : Codec (Int64 × String) :=
  .record Prod.mk <|
    .field "handle" (·.1) int64 .required <|
    .field "data" (·.2) .text .required .done

/-- The answer to a read: how many bytes there are, and the bytes in Base64. -/
def windowCodec : Codec (UInt64 × String) :=
  .record Prod.mk <|
    .field "bytes_read" (·.1) uint64 (.defaultsTo 0) <|
    .field "data" (·.2) .text (.defaultsTo "") .done

/-- The body of a request to move a file: from where and to where. -/
def moveCodec : Codec (String × String) :=
  .record Prod.mk <|
    .field "source_path" (·.1) .text .required <|
    .field "destination_path" (·.2) .text .required .done

end SparkFleet
