import Pydart.Table.FromParquet
import Pydart.Table.Reference

/-! # Naming the same files

A directory resolves to its Parquet files in the order of their names, whatever
order its entries come in. A list names the same files as long as each of them has
the extension a list asks for.
-/

namespace Pydart

/-! ## Sorting -/

namespace FilePath

theorem le_trans' (a b c : FilePath) (hab : a.le b = true) (hbc : b.le c = true) :
    a.le c = true := by
  rw [le, decide_eq_true_eq] at *
  exact le_trans hab hbc

theorem le_total' (a b : FilePath) : (a.le b || b.le a) = true := by
  simp only [le, Bool.or_eq_true, decide_eq_true_eq]
  exact le_total a.key b.key

variable {directory : FilePath}

theorem join_le_of_lt {a b : EntryName} (h : a.key < b.key) :
    (directory.join a).le (directory.join b) = true := by
  rw [le, decide_eq_true_eq, key_join, key_join]
  refine le_of_lt (List.append_left_lt ?_)
  exact List.cons_lt_cons_iff.mpr (Or.inl (List.cons_lt_cons_iff.mpr (Or.inr ⟨rfl, h⟩)))

theorem join_antisymm {a b : EntryName} (hab : (directory.join a).le (directory.join b) = true)
    (hba : (directory.join b).le (directory.join a) = true) : a = b := by
  rw [le, decide_eq_true_eq] at hab hba
  have hkey := le_antisymm hab hba
  rw [key_join, key_join] at hkey
  have hlast := List.append_cancel_left hkey
  rw [List.cons.injEq, List.cons.injEq] at hlast
  exact EntryName.key_injective hlast.1.2

/-- Sorting the entries gives the one list of them that is sorted by name. -/
theorem mergeSort_entries {entries names : List EntryName} {files : List FilePath}
    (hfiles : files.Nodup) (hentries : ∀ path ∈ files, ∃ name ∈ entries, directory.join name = path)
    (hmem : ∀ name, directory.join name ∈ files ↔ name ∈ names)
    (hsorted : names.Pairwise fun a b => a.key < b.key) :
    files.mergeSort le = names.map directory.join := by
  have hnames : (names.map directory.join).Nodup := by
    refine List.Nodup.map (fun _ _ => join_injective) (hsorted.imp ?_)
    rintro a b hlt rfl
    exact lt_irrefl _ hlt
  have hperm : files.Perm (names.map directory.join) := by
    rw [List.perm_ext_iff_of_nodup hfiles hnames]
    intro path
    rw [List.mem_map]
    constructor
    · intro hpath
      obtain ⟨name, -, rfl⟩ := hentries path hpath
      exact ⟨name, (hmem name).mp hpath, rfl⟩
    · rintro ⟨name, hname, rfl⟩
      exact (hmem name).mpr hname
  refine List.Perm.eq_of_pairwise ?_ (List.pairwise_mergeSort le_trans' le_total' files) ?_
    ((List.mergeSort_perm files le).trans hperm)
  · intro a b ha hb hab hba
    obtain ⟨first, -, rfl⟩ := hentries a (List.mem_mergeSort.mp ha)
    obtain ⟨second, -, rfl⟩ := List.mem_map.mp hb
    exact congrArg _ (join_antisymm hab hba)
  · exact List.pairwise_map.mpr (hsorted.imp join_le_of_lt)

end FilePath

/-! ## Resolving -/

section

variable {T : TextFormat} {F : FileSystem} {s : F.State} {directory path : FilePath}

/-- A regular file of the directory whose extension is `parquet`. -/
def isParquetEntry (F : FileSystem) (s : F.State) (directory : FilePath) (name : EntryName) :
    Bool :=
  F.isFile s (directory.join name) && (directory.join name).hasParquetExtension

theorem directoryFiles_eq {entries names : List EntryName}
    (hread : F.readDir s directory = .ok entries) (hne : names ≠ [])
    (hmem : ∀ name, name ∈ names ↔ name ∈ entries ∧ isParquetEntry F s directory name = true)
    (hsorted : names.Pairwise fun a b => a.key < b.key) :
    directoryFiles T F s directory = .ok (names.map directory.join) := by
  have hnodup : (entries.map directory.join).Nodup :=
    List.Nodup.map (fun _ _ => FilePath.join_injective) (F.readDir_nodup hread)
  have hentries : ∀ p ∈ (entries.map directory.join).filter fun p =>
      F.isFile s p && p.hasParquetExtension, ∃ name ∈ entries, directory.join name = p :=
    fun p hp => List.mem_map.mp (List.mem_filter.mp hp).1
  have hjoin : ∀ name, directory.join name ∈ ((entries.map directory.join).filter fun p =>
      F.isFile s p && p.hasParquetExtension) ↔ name ∈ names := by
    intro name
    rw [List.mem_filter, List.mem_map, hmem]
    constructor
    · rintro ⟨⟨other, hother, heq⟩, htest⟩
      rw [FilePath.join_injective heq] at hother
      exact ⟨hother, htest⟩
    · rintro ⟨hentry, htest⟩
      exact ⟨⟨name, hentry, rfl⟩, htest⟩
  have hsort := FilePath.mergeSort_entries (hnodup.filter _) hentries hjoin hsorted
  have hfull : (names.map directory.join).isEmpty = false := by
    cases names with
    | nil => exact absurd rfl hne
    | cons name names => rfl
  unfold directoryFiles
  simp only [hread, Except.mapError, Except.ok_bind, hsort, hfull]
  rfl

theorem checkListElement_ok (hfile : F.isFile s path = true)
    (hext : path.hasParquetExtension = true) : checkListElement T F s path = .ok () := by
  unfold checkListElement
  simp [F.isDir_of_isFile hfile, F.exists_of_isFile hfile, hext]

theorem checkListElement_extension (hfile : F.isFile s path = true)
    (hext : path.hasParquetExtension = false) : checkListElement T F s path =
      .error (.parquetReadError (T.display path) "expected a .parquet file extension") := by
  unfold checkListElement
  simp [F.isDir_of_isFile hfile, F.exists_of_isFile hfile, hext]

theorem resolveParquetPaths_extension (hfile : F.isFile s path = true)
    (hext : path.hasParquetExtension = false) : resolveParquetPaths T F s (.list [path]) =
      .error (.parquetReadError (T.display path) "expected a .parquet file extension") := by
  rw [resolveParquetPaths, List.isEmpty_cons, if_neg (by decide), List.forM_eq_forM,
    List.forM_cons, checkListElement_extension hfile hext]
  rfl

theorem resolveParquetPaths_list {paths : List FilePath} (hne : paths ≠ [])
    (hcheck : ∀ p ∈ paths, checkListElement T F s p = .ok ()) :
    resolveParquetPaths T F s (.list paths) = .ok paths := by
  have hall : paths.forM (checkListElement T F s) = .ok () := by
    clear hne
    rw [List.forM_eq_forM]
    induction paths with
    | nil => rfl
    | cons p paths ih =>
        rw [List.forM_cons, hcheck p List.mem_cons_self, Except.ok_bind]
        exact ih fun q hq => hcheck q (List.mem_cons_of_mem _ hq)
  have hfull : paths.isEmpty = false := by
    cases paths with
    | nil => exact absurd rfl hne
    | cons p paths => rfl
  rw [resolveParquetPaths, hfull]
  simp only [Bool.false_eq_true, if_false, hall, Except.ok_bind]
  rfl

theorem resolveParquetPaths_single (hfile : F.isFile s path = true) :
    resolveParquetPaths T F s (.single path) = .ok [path] := by
  rw [resolveParquetPaths, F.isDir_of_isFile hfile]
  rfl

end

section

variable (T : TextFormat) (F : FileSystem) (s : F.State) (C : Crates) (format : ParquetFormat)

theorem fromParquet_congr {a b : PathArgument} (columns : Option (List String))
    (filters : Option (List (String × String × PyLiteral)))
    (h : resolveParquetPaths T F s a = resolveParquetPaths T F s b) :
    Table.fromParquet T F s C format a columns filters =
      Table.fromParquet T F s C format b columns filters := by
  unfold Table.fromParquet
  rw [h]

/-- A directory reads as the list of its Parquet files sorted by name, and a list of
one regular file as that file, unless its extension is not `parquet`. -/
theorem fromParquet_sameFiles (columns : Option (List String))
    (filters : Option (List (String × String × PyLiteral))) :
    (∀ directory entries names, F.isDir s directory = true →
      F.readDir s directory = .ok entries → names ≠ [] →
      names.Pairwise (fun a b => a.key < b.key) →
      (∀ name, name ∈ names ↔ name ∈ entries ∧ isParquetEntry F s directory name = true) →
        Table.fromParquet T F s C format (.single directory) columns filters =
          Table.fromParquet T F s C format (.list (names.map directory.join)) columns filters) ∧
    ∀ path, F.isFile s path = true →
      (path.hasParquetExtension = true →
        Table.fromParquet T F s C format (.list [path]) columns filters =
          Table.fromParquet T F s C format (.single path) columns filters) ∧
      (path.hasParquetExtension = false → ∀ exprs, parseFilters T filters = .ok exprs →
        Table.fromParquet T F s C format (.list [path]) columns filters =
          .error (.raised (.parquetReadError (T.display path)
            "expected a .parquet file extension"))) := by
  refine ⟨?_, ?_⟩
  · intro directory entries names hdir hread hne hsorted hmem
    apply fromParquet_congr
    rw [resolveParquetPaths, if_pos hdir, directoryFiles_eq hread hne hmem hsorted,
      resolveParquetPaths_list (by simpa using hne)]
    intro p hp
    obtain ⟨name, hname, rfl⟩ := List.mem_map.mp hp
    have hentry := ((hmem name).mp hname).2
    rw [isParquetEntry, Bool.and_eq_true] at hentry
    exact checkListElement_ok hentry.1 hentry.2
  · intro path hfile
    refine ⟨fun hext => ?_, fun hext exprs hparse => ?_⟩
    · apply fromParquet_congr
      rw [resolveParquetPaths_single hfile, resolveParquetPaths_list (by simp)]
      intro p hp
      rw [List.mem_singleton] at hp
      rw [hp]
      exact checkListElement_ok hfile hext
    · unfold Table.fromParquet
      rw [hparse, resolveParquetPaths_extension hfile hext]
      rfl

end

/-! ## A directory -/

def numberField : Field := ⟨"n", .int64, true, false, []⟩

def numberFile : ParquetFile where
  schema := [numberField]
  rowGroups := [columnGroup numberField [some (.int 1), none] ⟨none, none⟩ (by decide) (by decide)]

def aParquet : EntryName := ⟨OsString.ofString "a.parquet", by decide, by decide⟩

def bParquet : EntryName := ⟨OsString.ofString "b.parquet", by decide, by decide⟩

/-- Two Parquet files in a directory, next to a text file and a directory with a
misleading name; and the same contents under another extension. -/
def dataFolder : Folder :=
  [(.ofString "data", .directory), (.ofString "data/b.parquet", .file [0]),
    (.ofString "data/old.parquet", .directory), (.ofString "data/notes.txt", .file []),
    (.ofString "data/a.parquet", .file [0]), (.ofString "data.bin", .file [0])]

theorem fromParquet_sameFiles_dataFolder :
    Table.fromParquet plainText folderSystem dataFolder referenceCrates
        (catalogueFormat [numberFile]) (.single (.ofString "data")) none none =
      Table.fromParquet plainText folderSystem dataFolder referenceCrates
        (catalogueFormat [numberFile])
        (.list [.ofString "data/a.parquet", .ofString "data/b.parquet"]) none none ∧
    Table.fromParquet plainText folderSystem dataFolder referenceCrates
        (catalogueFormat [numberFile]) (.list [.ofString "data/a.parquet"]) none none =
      Table.fromParquet plainText folderSystem dataFolder referenceCrates
        (catalogueFormat [numberFile]) (.single (.ofString "data/a.parquet")) none none ∧
    Table.fromParquet plainText folderSystem dataFolder referenceCrates
        (catalogueFormat [numberFile]) (.list [.ofString "data.bin"]) none none =
      .error (.raised (.parquetReadError "data.bin" "expected a .parquet file extension")) := by
  obtain ⟨entries, hread, hentries⟩ : ∃ entries,
      folderSystem.readDir dataFolder (.ofString "data") = .ok entries ∧
        entries.filter (isParquetEntry folderSystem dataFolder (.ofString "data")) =
          [bParquet, aParquet] :=
    ⟨_, rfl, by decide +kernel⟩
  obtain ⟨hdirectory, hfile⟩ := fromParquet_sameFiles plainText folderSystem dataFolder
    referenceCrates (catalogueFormat [numberFile]) none none
  refine ⟨?_, (hfile (.ofString "data/a.parquet") (by decide +kernel)).1 (by decide +kernel),
    (hfile (.ofString "data.bin") (by decide +kernel)).2 (by decide +kernel) [] rfl⟩
  refine hdirectory (.ofString "data") entries [aParquet, bParquet] (by decide +kernel) hread
    (by simp) (by decide +kernel) ?_
  intro name
  rw [← List.mem_filter, hentries]
  simp [or_comm]

/-- A regular file that reads well by its path is refused in a list of one path. -/
theorem list_refuses_extension :
    folderSystem.isFile dataFolder (.ofString "data.bin") = true ∧
      (∃ table, Table.fromParquet plainText folderSystem dataFolder referenceCrates
        (catalogueFormat [numberFile]) (.single (.ofString "data.bin")) none none = .ok table) ∧
      Table.fromParquet plainText folderSystem dataFolder referenceCrates
          (catalogueFormat [numberFile]) (.list [.ofString "data.bin"]) none none ≠
        Table.fromParquet plainText folderSystem dataFolder referenceCrates
          (catalogueFormat [numberFile]) (.single (.ofString "data.bin")) none none := by
  have hlist : Table.fromParquet plainText folderSystem dataFolder referenceCrates
      (catalogueFormat [numberFile]) (.list [.ofString "data.bin"]) none none =
        .error (.raised (.parquetReadError "data.bin" "expected a .parquet file extension")) := by
    rfl
  obtain ⟨table, hsingle⟩ : ∃ table, Table.fromParquet plainText folderSystem dataFolder
      referenceCrates (catalogueFormat [numberFile]) (.single (.ofString "data.bin")) none none =
        .ok table := ⟨_, rfl⟩
  refine ⟨by decide +kernel, ⟨table, hsingle⟩, ?_⟩
  rw [hlist, hsingle]
  simp

end Pydart
