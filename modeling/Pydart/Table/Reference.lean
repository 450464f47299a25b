import Mathlib.Data.List.Dedup
import Pydart.Parquet.Reference
import Pydart.Table.FileSystem

/-! # A concrete file system and format

A file system kept as a list of paths with what they lead to, and a format that
stores a file as its place in a catalogue. They show the laws to be consistent and
let calls be evaluated.
-/

namespace Pydart

/-! ## Files -/

def EntryName.ofBytes (bytes : OsString) : Option EntryName :=
  if h : Component.ofPiece bytes = some (.normal bytes) ∧ slash ∉ bytes then
    some ⟨bytes, h.1, h.2⟩
  else none

def FilePath.entryOf (directory path : FilePath) : Option EntryName :=
  ((directory.raw ++ [slash]).isPrefixOf? path.raw).bind EntryName.ofBytes

abbrev Folder := List (FilePath × Node)

namespace Folder

def node (folder : Folder) (path : FilePath) : Option Node :=
  (folder.find? fun entry => decide (entry.1 = path)).map (·.2)

def store (folder : Folder) (path : FilePath) (bytes : List UInt8) : Folder :=
  (path, .file bytes) :: folder

theorem node_store (folder : Folder) (path : FilePath) (bytes : List UInt8) :
    (folder.store path bytes).node path = some (.file bytes) := by
  simp [node, store]

def readDir (folder : Folder) (directory : FilePath) : Except String (List EntryName) :=
  match folder.node directory with
  | some .directory => .ok (folder.filterMap fun entry => directory.entryOf entry.1).dedup
  | some _ => .error "Not a directory (os error 20)"
  | none => .error "No such file or directory (os error 2)"

def readFile (folder : Folder) (path : FilePath) : Except String (List UInt8) :=
  match folder.node path with
  | some (.file bytes) => .ok bytes
  | some .directory => .error "Is a directory (os error 21)"
  | some .other => .error "Permission denied (os error 13)"
  | none => .error "No such file or directory (os error 2)"

def create (folder : Folder) (path : FilePath) : Except String Folder :=
  match folder.node path with
  | some .directory => .error "Is a directory (os error 21)"
  | some .other => .error "Permission denied (os error 13)"
  | some (.file _) | none => .ok (folder.store path [])

def write (folder : Folder) (path : FilePath) (bytes : List UInt8) : Folder × Except String Unit :=
  match folder.node path with
  | some (.file old) => (folder.store path (old ++ bytes), .ok ())
  | _ => (folder, .error "Bad file descriptor (os error 9)")

end Folder

def folderSystem : FileSystem where
  State := Folder
  node := Folder.node
  readDir := Folder.readDir
  readFile := Folder.readFile
  create := Folder.create
  write := Folder.write
  readDir_nodup := by
    intro folder directory names h
    unfold Folder.readDir at h
    split at h
    · cases h
      exact List.nodup_dedup _
    · cases h
    · cases h
  readFile_node := by
    intro folder path bytes h
    unfold Folder.readFile at h
    split at h
    · rename_i hnode
      cases h
      exact hnode
    all_goals cases h
  create_node := by
    intro folder path after h
    unfold Folder.create at h
    split at h
    · cases h
    · cases h
    all_goals
      cases h
      exact Folder.node_store _ _ _
  create_directory := by
    intro folder path h
    exact ⟨_, by rw [Folder.create, h]⟩
  write_node := by
    intro folder path old bytes after hnode h
    rw [Folder.write, hnode] at h
    cases h
    exact Folder.node_store _ _ _

/-! ## Formats -/

/-- Schemas and rows are all a file is known by here. -/
def ParquetFile.holds (file : ParquetFile) (batch : RecordBatch) : Bool :=
  decide (file.schema = batch.schema ∧
    file.rowGroups.flatMap (fun rowGroup => rowGroup.rows.map Row.slots) = batch.rows)

/-- The struct without fields, which has no leaf. -/
def DataType.emptyStruct : DataType := .other "struct<>"

def DataType.union : DataType := .other "union"

def mapSchema : Schema → Outcome Unit
  | [] => .ok ()
  | field :: fields =>
      if field.dataType = .emptyStruct then
        .error (.parquet
          (.arrowError (.schemaError "Parquet does not support writing empty structs")))
      else if field.dataType = .union then .error .panicked
      else mapSchema fields

/-- Stores the file in position `i` of the catalogue as `i + 1` bytes, and refuses
the schemas that have no file without rows there. -/
def catalogueFormat (catalogue : List ParquetFile) : ParquetFormat where
  concatBatches := referenceConcat
  tryNew schema _ := do
    mapSchema schema
    if catalogue.any (·.holds (RecordBatch.newEmpty schema)) then .ok ()
    else .error (.parquet (.general "not in the catalogue"))
  encode _ batch :=
    match catalogue.findIdx? (·.holds batch) with
    | some i => (List.replicate (i + 1) 0, .ok ())
    | none => ([], .error (.parquet (.general "not in the catalogue")))
  decode bytes :=
    match bytes with
    | [] => .error (.general "EOF: file size of 0 is less than footer")
    | _ :: rest =>
        match catalogue[rest.length]? with
        | some file => .ok file
        | none => .error (.general "not in the catalogue")
  concatBatches_appends := by
    intro schema batches batch h
    unfold referenceConcat at h
    split at h
    · cases h
      exact ⟨rfl, rfl⟩
    · cases h
  encode_empty := by
    intro properties batch haccepts hrows
    have hbatch : batch = RecordBatch.newEmpty batch.schema := RecordBatch.ext_rows rfl hrows
    obtain ⟨_, -, haccepts⟩ := Except.bind_eq_ok.mp haccepts
    split at haccepts
    · rename_i hany
      rw [← hbatch] at hany
      obtain ⟨i, hi⟩ : ∃ i, catalogue.findIdx? (·.holds batch) = some i := by
        rw [← Option.isSome_iff_exists, List.findIdx?_isSome]
        exact hany
      obtain ⟨hlt, hholds, -⟩ := List.findIdx?_eq_some_iff_getElem.mp hi
      have hfile := of_decide_eq_true hholds
      rw [hrows] at hfile
      refine ⟨_, catalogue[i], by rw [hi], ?_, hfile.1, ?_⟩
      · simp [List.replicate_succ, List.getElem?_eq_getElem hlt]
      · intro rowGroup hmem
        have hempty := List.flatMap_eq_nil_iff.mp hfile.2 rowGroup hmem
        exact List.map_eq_nil_iff.mp hempty
    · cases haccepts

def ArrowError.message : ArrowError → String
  | schemaError message | invalidArgumentError message | castError message
  | notYetImplemented message => message

def plainText : TextFormat where
  display path := String.ofList (path.raw.map fun byte => Char.ofNat byte.toNat)
  debugPath path := "\"" ++ String.ofList (path.raw.map fun byte => Char.ofNat byte.toNat) ++ "\""
  debug text := "\"" ++ text ++ "\""
  parquetError
    | .general message => "Parquet error: " ++ message
    | .arrowError error => "Arrow: " ++ error.message
    | .external message => "External: " ++ message

end Pydart
