import Mathlib.Data.List.Lex
import Mathlib.Data.List.Sort

/-! # Paths

Unix paths as the bytes they are spelled with, and the parts the program looks at:
components, file name and extension. Paths are ordered component by component.
-/

namespace Pydart

abbrev OsString := List UInt8

def OsString.ofString (text : String) : OsString := text.toUTF8.data.toList

def slash : UInt8 := 47

def dot : UInt8 := 46

inductive Component where
  | rootDir
  | curDir
  | parentDir
  | normal (name : OsString)
deriving DecidableEq

namespace Component

/-- The component a piece between slashes stands for; none for `` and `.`. -/
def ofPiece (piece : OsString) : Option Component :=
  if piece = [] ∨ piece = [dot] then none
  else if piece = [dot, dot] then some parentDir
  else some (normal piece)

/-- Components compare by kind, names by their bytes. -/
def key : Component → List Nat
  | rootDir => [0]
  | curDir => [1]
  | parentDir => [2]
  | normal name => 3 :: name.map UInt8.toNat

end Component

structure FilePath where
  raw : OsString
deriving DecidableEq

/-- A name of a directory entry: one piece of a path, and no reference to a directory. -/
structure EntryName where
  bytes : OsString
  normal : Component.ofPiece bytes = some (.normal bytes)
  single : slash ∉ bytes
deriving DecidableEq

namespace FilePath

def ofString (text : String) : FilePath := ⟨OsString.ofString text⟩

/-- `Path::components`; only a leading `.` is kept. -/
def components (path : FilePath) : List Component :=
  let pieces := path.raw.splitOn slash
  let body := pieces.filterMap Component.ofPiece
  if path.raw.head? = some slash then .rootDir :: body
  else if pieces.head? = some [dot] then .curDir :: body
  else body

def fileName (path : FilePath) : Option OsString :=
  match path.components.getLast? with
  | some (.normal name) => some name
  | _ => none

/-- What follows the last dot of the file name, where something stands before it. -/
def extension (path : FilePath) : Option OsString :=
  path.fileName.bind fun name =>
    match name.splitOn dot with
    | [] | [_] | [[], _] => none
    | pieces => pieces.getLast?

/-- `PathBuf::join` of a directory and the name of an entry. -/
def join (directory : FilePath) (name : EntryName) : FilePath :=
  if directory.raw = [] ∨ directory.raw.getLast? = some slash then ⟨directory.raw ++ name.bytes⟩
  else ⟨directory.raw ++ slash :: name.bytes⟩

def key (path : FilePath) : List (List Nat) := path.components.map Component.key

/-- The order of `Vec<PathBuf>::sort`. -/
def le (a b : FilePath) : Bool := decide (a.key ≤ b.key)

def hasParquetExtension (path : FilePath) : Bool :=
  decide (path.extension = some (OsString.ofString "parquet"))

end FilePath

def EntryName.key (name : EntryName) : List Nat := name.bytes.map UInt8.toNat

/-! ## Entries of a directory -/

namespace EntryName

theorem key_injective {a b : EntryName} (h : a.key = b.key) : a = b := by
  have hbytes : a.bytes = b.bytes :=
    List.map_injective_iff.mpr (fun _ _ => UInt8.toNat_inj.mp) h
  cases a
  cases b
  subst hbytes
  rfl

theorem splitOn_bytes (name : EntryName) : name.bytes.splitOn slash = [name.bytes] :=
  List.splitOn_eq_singleton name.single

theorem bytes_ne_dot (name : EntryName) : name.bytes ≠ [dot] := by
  intro h
  have hnormal := name.normal
  rw [h] at hnormal
  cases hnormal

end EntryName

namespace FilePath

variable {directory : FilePath}

theorem exists_prefix (h : directory.raw ≠ []) :
    ∃ before, (∀ name : EntryName, (directory.join name).raw = before ++ slash :: name.bytes) ∧
      (before.splitOn slash).filterMap Component.ofPiece =
        (directory.raw.splitOn slash).filterMap Component.ofPiece ∧
      (before.splitOn slash).head? = (directory.raw.splitOn slash).head? ∧
      ∀ rest, (before ++ slash :: rest).head? = directory.raw.head? := by
  by_cases hslash : directory.raw.getLast? = some slash
  · obtain ⟨before, hraw⟩ := List.getLast?_eq_some_iff.mp hslash
    have hsplit : directory.raw.splitOn slash = before.splitOn slash ++ [[]] := by
      rw [hraw, List.splitOn_append_cons_self, List.splitOn_nil]
    refine ⟨before, fun name => ?_, ?_, ?_, fun rest => ?_⟩
    · rw [join, if_pos (Or.inr hslash), hraw, List.append_assoc, List.singleton_append]
    · rw [hsplit, List.filterMap_append]
      exact (List.append_nil _).symm
    · rw [hsplit, List.head?_append_of_ne_nil _ (List.splitOn_ne_nil _ _)]
    · rw [hraw]
      cases before <;> rfl
  · refine ⟨directory.raw, fun name => ?_, rfl, rfl, fun rest => ?_⟩
    · rw [join, if_neg (not_or.mpr ⟨h, hslash⟩)]
    · exact List.head?_append_of_ne_nil _ h

/-- The path of an entry has one component more than its directory. -/
theorem components_join (name : EntryName) :
    (directory.join name).components = directory.components ++ [.normal name.bytes] := by
  have hlast : [name.bytes].filterMap Component.ofPiece = [.normal name.bytes] := by
    simp [name.normal]
  by_cases hempty : directory.raw = []
  · have hraw : (directory.join name).raw = name.bytes := by
      rw [join, if_pos (Or.inl hempty), hempty, List.nil_append]
    have hhead : name.bytes.head? ≠ some slash := by
      intro h
      exact name.single (List.mem_of_mem_head? h)
    have hdir : directory.components = [] := by
      simp [components, hempty, Component.ofPiece]
    simp only [components, hraw, name.splitOn_bytes, hlast, if_neg hhead, List.head?_cons,
      Option.some.injEq, if_neg name.bytes_ne_dot]
    simp only [components] at hdir
    rw [hdir, List.nil_append]
  · obtain ⟨before, hraw, hbody, hpieces, hhead⟩ := exists_prefix hempty
    have hsplit : (directory.join name).raw.splitOn slash =
        before.splitOn slash ++ [name.bytes] := by
      rw [hraw, List.splitOn_append_cons_self, name.splitOn_bytes]
    simp only [components, hsplit, List.filterMap_append, hlast, hbody,
      List.head?_append_of_ne_nil _ (List.splitOn_ne_nil slash before), hpieces]
    rw [hraw, hhead]
    split
    · rfl
    · split <;> rfl

theorem fileName_join (name : EntryName) : (directory.join name).fileName = some name.bytes := by
  rw [fileName, components_join, List.getLast?_concat]

theorem key_join (name : EntryName) :
    (directory.join name).key = directory.key ++ [3 :: name.key] := by
  rw [key, components_join, List.map_append]
  rfl

theorem join_injective {a b : EntryName} (h : directory.join a = directory.join b) : a = b := by
  have hname := congrArg fileName h
  rw [fileName_join, fileName_join, Option.some.injEq] at hname
  cases a
  cases b
  subst hname
  rfl

end FilePath
end Pydart
