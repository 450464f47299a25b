import Pydart.Parquet.Io
import Pydart.Table.FilePath

/-! # Files

The file system a call sees, the Parquet format as the parquet crate writes and
reads it, and the texts that error messages are made of.
-/

namespace Pydart

/-- What a path leads to, symbolic links followed. -/
inductive Node where
  | file (bytes : List UInt8)
  | directory
  | other
deriving DecidableEq

/-- Calls fail with the text of the operating system's error. -/
structure FileSystem where
  State : Type
  node : State → FilePath → Option Node
  /-- The entries of a directory, in whatever order they come. -/
  readDir : State → FilePath → Except String (List EntryName)
  readFile : State → FilePath → Except String (List UInt8)
  /-- `File::create`. -/
  create : State → FilePath → Except String State
  /-- Appends to the file that was created; a failure may leave a part of it. -/
  write : State → FilePath → List UInt8 → State × Except String Unit
  readDir_nodup : ∀ {s directory names}, readDir s directory = .ok names → names.Nodup
  readFile_node : ∀ {s path bytes}, readFile s path = .ok bytes →
    node s path = some (.file bytes)
  create_node : ∀ {s path s'}, create s path = .ok s' → node s' path = some (.file [])
  create_directory : ∀ {s path}, node s path = some .directory →
    ∃ reason, create s path = .error reason
  write_node : ∀ {s path old bytes s'}, node s path = some (.file old) →
    write s path bytes = (s', .ok ()) → node s' path = some (.file (old ++ bytes))

namespace FileSystem

variable (F : FileSystem)

def isDir (s : F.State) (path : FilePath) : Bool :=
  match F.node s path with
  | some .directory => true
  | _ => false

def isFile (s : F.State) (path : FilePath) : Bool :=
  match F.node s path with
  | some (.file _) => true
  | _ => false

def exists? (s : F.State) (path : FilePath) : Bool := (F.node s path).isSome

variable {F} {s : F.State} {path : FilePath}

theorem isDir_of_isFile (h : F.isFile s path = true) : F.isDir s path = false := by
  unfold isFile at h
  unfold isDir
  split
  · rename_i hnode
    rw [hnode] at h
    cases h
  · rfl

theorem exists_of_isFile (h : F.isFile s path = true) : F.exists? s path = true := by
  unfold isFile at h
  unfold exists?
  split at h
  · rename_i hnode
    rw [hnode]
    rfl
  · cases h

end FileSystem

/-! ## The format -/

inductive Compression where
  | snappy
  | zstd (level : Nat)
  | gzip (level : Nat)
  | uncompressed
deriving DecidableEq

/-- Setting an empty row group panics, so there is none. -/
structure WriterProperties where
  compression : Compression
  maxRowGroupRowCount : Nat
  positive : maxRowGroupRowCount ≠ 0
deriving DecidableEq

structure ParquetFormat where
  concatBatches : Schema → List RecordBatch → Except ArrowError RecordBatch
  /-- `ArrowWriter::try_new`, which maps the schema before it writes anything. It refuses
  a struct without fields, and panics on a union. -/
  tryNew : Schema → WriterProperties → Outcome Unit
  /-- `write` and `close`: the bytes they send to the file and how they end. -/
  encode : WriterProperties → RecordBatch → List UInt8 × Outcome Unit
  decode : List UInt8 → Except ParquetError ParquetFile
  concatBatches_appends : ∀ {schema batches batch}, concatBatches schema batches = .ok batch →
    batch.schema = schema ∧ batch.rows = batches.flatMap (·.rows)
  /-- Without rows a file carries just the schema. -/
  encode_empty : ∀ {properties batch}, tryNew batch.schema properties = .ok () →
    batch.rows = [] → ∃ bytes file, encode properties batch = (bytes, .ok ()) ∧
      decode bytes = .ok file ∧ file.schema = batch.schema ∧
      ∀ rowGroup ∈ file.rowGroups, rowGroup.rows = []

/-- How values appear in messages: `display` and `debugPath` for paths, `debug` for
strings. -/
structure TextFormat where
  display : FilePath → String
  debugPath : FilePath → String
  debug : String → String
  parquetError : ParquetError → String

def FileSystem.disk (F : FileSystem) (s : F.State) (format : ParquetFormat) (T : TextFormat) :
    Disk FilePath where
  openFile path :=
    match F.readFile s path with
    | .error reason => .error (.external reason)
    | .ok bytes => format.decode bytes
  display := T.display

end Pydart
