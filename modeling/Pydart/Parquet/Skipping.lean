import Pydart.Parquet.Pruning
import Pydart.Parquet.Reference

/-! # A filtered read against the read of every group

The read that drops row groups first returns what the row filter alone returns,
except where a row to be returned stands under a hazard.
-/

namespace Pydart

section

variable {C : Crates} {file : ParquetFile} {filters : List FilterExpr}

/-- The groups are dropped without loss exactly when the lookups succeed and no
row stands under a hazard. -/
theorem surviving_lossless_iff (hstat : StatisticsBound file) {groups : List Nat}
    (hgroups : groups = (List.range file.numRowGroups).filter
      (fun g => filters.all (keepsRowGroup C file · g))) :
    ((file.locatedRows groups).filter
        (fun located => filters.all (passes C · located.row))).length =
      (file.allRows.filter (fun located => filters.all (passes C · located.row))).length ↔
      ∀ located ∈ file.allRows, filters.all (passes C · located.row) = true →
        ∀ filter ∈ filters, ¬ HazardousRow C file filter located := by
  subst hgroups
  refine (Blocks.length_scan_filter_eq_iff file.groupRows).trans ?_
  have hkeeps : ∀ located ∈ file.allRows, filters.all (passes C · located.row) = true →
      (filters.all (keepsRowGroup C file · located.group) = true ↔
        ∀ filter ∈ filters, ¬ HazardousRow C file filter located) := by
    intro located hmem hpass
    rw [List.all_eq_true]
    constructor
    · intro hkeep filter hfilter hhazard
      have hp := List.all_eq_true.mp hpass filter hfilter
      have := (keepsRowGroup_eq_false_iff hstat hmem hp).mpr hhazard
      rw [hkeep filter hfilter] at this
      cases this
    · intro hsafe filter hfilter
      have hp := List.all_eq_true.mp hpass filter hfilter
      rw [← Bool.not_eq_false, keepsRowGroup_eq_false_iff hstat hmem hp]
      exact hsafe filter hfilter
  constructor
  · intro h located hmem hpass
    have hgroup := mem_allRows.mp hmem
    obtain ⟨-, rowGroup, hg, -⟩ := mem_groupRows hgroup
    have hrange : located.group ∈ List.range file.numRowGroups :=
      List.mem_range.mpr (List.getElem?_eq_some_iff.mp hg).1
    exact (hkeeps located hmem hpass).mp (h _ hrange located hgroup hpass)
  · intro h g _ located hmem hpass
    obtain ⟨rfl, -⟩ := mem_groupRows hmem
    have hall := mem_allRows.mpr hmem
    exact (hkeeps located hall hpass).mpr (h located hall hpass)

theorem locatedRows_filter_sublist (file : ParquetFile) (keep : Nat → Bool) :
    (file.locatedRows ((List.range file.numRowGroups).filter keep)).Sublist file.allRows := by
  have h := Blocks.scan_filter_sublist file.groupRows (List.range file.numRowGroups) keep
    (fun _ => true)
  rw [Blocks.scan, Blocks.scan, List.filter_true, List.filter_true] at h
  exact h

/-- Once the read of every group succeeds, the filtered read returns the same
batch exactly when skipping is safe. -/
theorem readRowGroups_surviving_iff (hstat : StatisticsBound file) {columns : Option (List String)}
    {batch : RecordBatch}
    (hfull : readRowGroups C file (List.range file.numRowGroups) columns filters = .ok batch) :
    (∃ groups, survivingRowGroups C file filters = .ok groups ∧
        readRowGroups C file groups columns filters = .ok batch) ↔
      SkippingSafe C file filters := by
  obtain ⟨hrun, hemit⟩ := readRowGroups_eq_ok.mp hfull
  have hmap : ∀ rows : List (LocatedRow file.schema),
      (rows.map (·.row)).filter (fun row => filters.all (passes C · row)) =
        (rows.filter (fun located => filters.all (passes C · located.row))).map (·.row) := by
    intro rows
    rw [List.filter_map]
    rfl
  constructor
  · rintro ⟨groups, hgroups, hread⟩
    obtain ⟨hbounds, hgroups⟩ := survivingRowGroups_eq_ok.mp hgroups
    obtain ⟨-, hemit'⟩ := readRowGroups_eq_ok.mp hread
    refine ⟨hbounds, (surviving_lossless_iff hstat hgroups).mp ?_⟩
    have hlen := (emitRows_length hemit').symm.trans (emitRows_length hemit)
    rw [hmap, hmap, List.length_map, List.length_map] at hlen
    exact hlen
  · rintro ⟨hbounds, hsafe⟩
    refine ⟨_, survivingRowGroups_eq_ok.mpr ⟨hbounds, rfl⟩, readRowGroups_eq_ok.mpr ⟨?_, ?_⟩⟩
    · exact hrun.sublist ((locatedRows_filter_sublist _ _).map _)
    · have hlen := (surviving_lossless_iff hstat rfl).mpr hsafe
      have hsub := (locatedRows_filter_sublist file
        (fun g => filters.all (keepsRowGroup C file · g))).filter
          (fun located => filters.all (passes C · located.row))
      rw [hmap, hsub.eq_of_length hlen, ← hmap]
      exact hemit

/-! ## Reads of a disk -/

def ParquetFile.slotRows (file : ParquetFile) : List (List Slot) :=
  file.allRows.map (·.row.slots)

theorem readRowGroups_regrouped {file' : ParquetFile} (hschema : file'.schema = file.schema)
    (hrows : file'.slotRows = file.slotRows) {columns : Option (List String)}
    {batch : RecordBatch}
    (hfull : readRowGroups C file (List.range file.numRowGroups) columns filters = .ok batch) :
    readRowGroups C file' (List.range file'.numRowGroups) columns filters = .ok batch := by
  obtain ⟨schema, groups⟩ := file
  obtain ⟨schema', groups'⟩ := file'
  simp only at hschema
  subst hschema
  have hinj : Function.Injective (fun row : Row schema' => row.slots) :=
    fun a b h => Row.ext_slots h
  have hsame : (ParquetFile.allRows ⟨schema', groups'⟩).map (·.row) =
      (ParquetFile.allRows ⟨schema', groups⟩).map (·.row) := by
    apply List.map_injective_iff.mpr hinj
    rw [List.map_map, List.map_map]
    exact hrows
  rw [readRowGroups_eq_ok] at hfull ⊢
  simp only [ParquetFile.allRows] at hsame
  rw [hsame]
  exact hfull

end

variable (C : Crates) {Path : Type} (disk : Disk Path)

/-- Skipping row groups returns what the row filter alone returns exactly when it
is safe; then files with the same rows in other row groups read the same. -/
theorem readParquet_eq_unskipped_iff (path : Path) (columns : Option (List String))
    (filters : List FilterExpr) {file : ParquetFile} {batch : RecordBatch}
    (hopen : disk.openFile path = .ok file) (hstat : StatisticsBound file)
    (hfull : readRowGroups C file (List.range file.numRowGroups) columns filters = .ok batch) :
    (readParquet C disk path columns filters = .ok batch ↔ SkippingSafe C file filters) ∧
      ∀ path' file', disk.openFile path' = .ok file' → StatisticsBound file' →
        file'.schema = file.schema → file'.slotRows = file.slotRows →
        (readParquet C disk path' columns filters = .ok batch ↔ SkippingSafe C file' filters) := by
  have hone : ∀ path file, disk.openFile path = .ok file → StatisticsBound file →
      readRowGroups C file (List.range file.numRowGroups) columns filters = .ok batch →
      (readParquet C disk path columns filters = .ok batch ↔ SkippingSafe C file filters) := by
    intro path file hopen hstat hfull
    rw [readParquet_eq_ok, ← readRowGroups_surviving_iff hstat hfull]
    constructor
    · rintro ⟨file', hopen', h⟩
      rw [hopen] at hopen'
      cases hopen'
      exact h
    · exact fun h => ⟨file, hopen, h⟩
  refine ⟨hone path file hopen hstat hfull, ?_⟩
  intro path' file' hopen' hstat' hschema hrows
  exact hone path' file' hopen' hstat' (readRowGroups_regrouped hschema hrows hfull)

/-! ## A matching row that is skipped -/

section

open Ieee Ieee.Format

def countField : Field := ⟨"n", .int64, false, false, []⟩

/-- One group holding `2 ^ 53 + 1`, with exact statistics. -/
def countFile : ParquetFile where
  schema := [countField]
  rowGroups :=
    [columnGroup countField [some (.int (2 ^ 53 + 1))]
      ⟨some (.int (2 ^ 53 + 1)), some (.int (2 ^ 53 + 1))⟩ (by decide) (by decide)]

def countFilters : List FilterExpr :=
  [⟨"n", .gt, .float64 (Binary.ofInt binary64 (2 ^ 53))⟩]

theorem countFile_bound : StatisticsBound countFile := by
  unfold StatisticsBound
  decide

/-- The row filter alone returns the row, which is greater than the literal; the
statistics round it onto the literal and the read returns nothing. -/
theorem skipping_loses_row :
    StatisticsBound countFile ∧
      readRowGroups referenceCrates countFile (List.range countFile.numRowGroups) none countFilters =
        .ok (columnBatch countField [some (.int (2 ^ 53 + 1))] (by decide)) ∧
      readParquet referenceCrates (oneFile countFile) () none countFilters =
        .ok (columnBatch countField [] (by decide)) ∧
      readParquet referenceCrates (oneFile countFile) () none countFilters ≠
        .ok (columnBatch countField [some (.int (2 ^ 53 + 1))] (by decide)) := by
  refine ⟨countFile_bound, ?_, ?_, ?_⟩
  · decide +kernel
  · decide +kernel
  · decide +kernel

theorem skippingSafe_countFile :
    SkippingSafe referenceCrates countFile
      [⟨"n", .ge, .float64 (Binary.ofInt binary64 (2 ^ 53))⟩] := by
  have hfull : readRowGroups referenceCrates countFile (List.range countFile.numRowGroups) none
      [⟨"n", .ge, .float64 (Binary.ofInt binary64 (2 ^ 53))⟩] =
        .ok (columnBatch countField [some (.int (2 ^ 53 + 1))] (by decide)) := by decide +kernel
  apply (readParquet_eq_unskipped_iff referenceCrates (oneFile countFile) () none _ rfl
    countFile_bound hfull).1.mp
  decide +kernel

end
end Pydart
