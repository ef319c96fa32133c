import SparkFleet.Action

/-!
# Reading and writing files

A file is written through a handle in blocks of one mebibyte and read in windows of the same size
up to the first that is short.  A path may be given with the scheme `dbfs:` or without it.

The main statement is `length_blocks`: data of `n` bytes is written in `⌈n / b⌉` blocks of `b`
bytes.
-/

namespace SparkFleet

namespace FileStore

/-- The most bytes that one call writes or reads. -/
def blockSize : Nat := 1048576

/-- The scheme of the file store. -/
def scheme : String := "dbfs:"

/-- The characters after a prefix of a list that begins with it. -/
def afterPrefix? : List Char → List Char → Option (List Char)
  | [], s => some s
  | _ :: _, [] => none
  | p :: ps, c :: cs => if p = c then afterPrefix? ps cs else none

/-- An address of the file store without its scheme; an address of another scheme is none. -/
def stripScheme? (uri : String) : Option String :=
  (afterPrefix? scheme.toList uri.toList).map String.ofList

/-- A path without the scheme, if it has it. -/
def pathOf (path : String) : String := (stripScheme? path).getD path

/-! ### Writing -/

/-- How many blocks of a size hold so many bytes. -/
def blockCount (size bytes : Nat) : Nat := (bytes + size - 1) / size

/-- The data cut into blocks of a size; the last one may be shorter, and none is empty. -/
def blocks (size : Nat) (data : ByteArray) : List ByteArray :=
  (List.range (blockCount size data.size)).map fun i => data.extract (i * size) ((i + 1) * size)

@[simp] theorem length_blocks (size : Nat) (data : ByteArray) :
    (blocks size data).length = blockCount size data.size := by
  simp [blocks]

/-- Send blocks through a handle and close it.  The handle is closed also where a block is refused,
and then the refusal counts, whatever comes of closing. -/
def send (handle : Int64) : List ByteArray → Action Unit
  | [] => .ask (.files (.close handle))
  | block :: rest => do
    match ← Action.tryAsk (.files (.addBlock handle block)) with
    | .ok () => send handle rest
    | .error cause =>
      let _ ← Action.tryAsk (.files (.close handle))
      throw (.transport cause)

/-- Write data to a path. -/
def put (path : String) (data : ByteArray) (overwrite : Bool) : Action Unit := do
  let handle : Int64 ← Action.ask (.files (.create (pathOf path) overwrite))
  send handle (blocks blockSize data)

/-- Write the content of a local file to a path. -/
def putFile (localPath path : String) (overwrite : Bool) : Action Unit := do
  put path (← Action.readLocal localPath) overwrite

/-! ### Reading -/

/-- How many windows a file may have at most: more than a 64-bit offset can name. -/
def windowLimit : Nat := 17592186044416

/-- Read on after the content that has been read, through so many windows at most. -/
def readOn (path : String) (content : ByteArray) : Nat → Action ByteArray
  | 0 => return content
  | windows + 1 => do
    let window : ByteArray ←
      Action.ask (.files (.read path (.ofNat content.size) (.ofNat blockSize)))
    if window.size < blockSize then
      return content ++ window
    else
      readOn path (content ++ window) windows

/-- The content of the file at a path. -/
def get (path : String) : Action ByteArray := readOn (pathOf path) .empty windowLimit

/-! ### Entries -/

/-- The record of the entry at a path. -/
def status (path : String) : Action FileRecord := .ask (.files (.getStatus (pathOf path)))

/-- Whether there is an entry at a path; only an answer that says so counts as no. -/
def «exists» (path : String) : Action Bool := do
  match ← Action.tryAsk (.files (.getStatus (pathOf path))) with
  | .ok _ => return true
  | .error cause => if cause.isNotFound then return false else throw (.transport cause)

/-- Delete the entry at a path. -/
def delete (path : String) (recursive : Bool) : Action Unit :=
  .ask (.files (.delete (pathOf path) recursive))

/-- Move a file. -/
def move (source destination : String) : Action Unit :=
  .ask (.files (.move (pathOf source) (pathOf destination)))

/-- Create a directory and those above it. -/
def mkdirs (path : String) : Action Unit := .ask (.files (.mkdirs (pathOf path)))

/-- The entries directly below a path. -/
def list (path : String) : Action (List FileRecord) := .ask (.files (.list (pathOf path)))

/-! ### Scripts -/

/-- Check that a script can be run: one in the file store must be there and be a file, and one at
another address is taken as it is. -/
def checkScript (uri : String) : Action Unit := do
  match stripScheme? uri with
  | none => return ()
  | some path =>
    match ← Action.tryAsk (.files (.getStatus path)) with
    | .error cause =>
      throw (.unresolved ("python script " ++ uri ++ " could not be found") (.transport cause))
    | .ok record =>
      if record.isDir then throw (.resource ("python script " ++ uri ++ " is a directory"))

end FileStore

end SparkFleet
