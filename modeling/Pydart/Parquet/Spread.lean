import Pydart.Parquet.Conjunction
import Pydart.Parquet.Integers
import Pydart.Parquet.Query

/-! # Row groups of one file or of several

A read looks at each row group by itself: what the filters skip, keep and return of it
is decided by its own statistics and rows. So row groups may be spread over files.
-/

namespace Pydart

section

variable {schema : Schema}

/-! ## One row group -/

/-- A statistic of column `i`, as pruning sees it. -/
def trustedStatistic (schema : Schema) (i : Nat) (statistic : Slot) : Option ScalarValue :=
  (schema[i]?).bind fun field => statistic.bind (trustedValue field.dataType.storage)

/-- The filter does not skip the group, by the group's own statistics. -/
def RowGroup.keptBy (rowGroup : RowGroup schema) (filter : FilterExpr) : Bool :=
  match indexOf schema filter.column with
  | .error _ => true
  | .ok i =>
      couldMatchRange filter.op filter.value
        (trustedStatistic schema i (rowGroup.columnStatistics i).min)
        (trustedStatistic schema i (rowGroup.columnStatistics i).max)

def decodedRows (filters : List FilterExpr) (groups : List (RowGroup schema)) :
    List (Row schema) :=
  (groups.filter fun rowGroup => filters.all rowGroup.keptBy).flatMap (·.rows)

theorem decodedRows_flatten (filters : List FilterExpr) (cut : List (List (RowGroup schema))) :
    decodedRows filters cut.flatten = cut.flatMap (decodedRows filters) := by
  induction cut with
  | nil => rfl
  | cons groups cut ih =>
      rw [List.flatten_cons, List.flatMap_cons, ← ih]
      simp only [decodedRows, List.filter_append, List.flatMap_append]

theorem scalarFromArray_slot {array : ArrowArray} {i : Nat} {slot : Slot}
    (h : array.slots[i]? = some slot) :
    scalarFromArray array i = slot.bind (trustedValue array.dataType) := by
  unfold scalarFromArray ArrowArray.isNull
  rw [List.getD_eq_getElem?_getD, h]
  cases slot <;> rfl

variable {C : Crates} {groups : List (RowGroup schema)} {filter : FilterExpr}

/-- Whether a group is kept does not depend on the groups around it. -/
theorem keepsRowGroup_own {bounds : ArrowArray × ArrowArray}
    (hbounds : rowGroupBounds C ⟨schema, groups⟩ filter = .ok bounds) {g : Nat}
    {rowGroup : RowGroup schema} (hg : groups[g]? = some rowGroup) :
    keepsRowGroup C ⟨schema, groups⟩ filter g = rowGroup.keptBy filter := by
  have hread := hbounds
  unfold rowGroupBounds at hread
  obtain ⟨converter, hconverter, hread⟩ := Except.bind_eq_ok.mp hread
  obtain ⟨mins, hmins, hread⟩ := Except.bind_eq_ok.mp hread
  obtain ⟨maxes, hmaxes, hread⟩ := Except.bind_eq_ok.mp hread
  cases hread
  cases hi : indexOf schema filter.column with
  | error e =>
      obtain ⟨e', he⟩ := C.statisticsConverter_error hi
      cases he.symm.trans hconverter
  | ok i =>
      cases (C.statisticsConverter_ok hi).symm.trans hconverter
      obtain ⟨field, hfield, -⟩ := indexOf_lt hi
      obtain ⟨hminslots, hmintype⟩ := C.rowGroupMins_ok hmins
      obtain ⟨hmaxslots, hmaxtype⟩ := C.rowGroupMaxes_ok hmaxes
      have hmin : mins.slots[g]? = some (rowGroup.columnStatistics converter).min := by
        rw [hminslots, List.getElem?_map, hg, Option.map_some]
      have hmax : maxes.slots[g]? = some (rowGroup.columnStatistics converter).max := by
        rw [hmaxslots, List.getElem?_map, hg, Option.map_some]
      simp only [keepsRowGroup, hbounds, RowGroup.keptBy, hi, trustedStatistic, hfield,
        Option.bind_some, scalarFromArray_slot hmin, scalarFromArray_slot hmax,
        hmintype field hfield, hmaxtype field hfield]

/-! ## One file -/

variable {filters : List FilterExpr}

/-- The rows decoded for a read are those of the groups that no filter skips. -/
theorem survivingRowGroups_decoded {surviving : List Nat}
    (h : survivingRowGroups C ⟨schema, groups⟩ filters = .ok surviving) :
    (ParquetFile.locatedRows ⟨schema, groups⟩ surviving).map (·.row) =
      decodedRows filters groups := by
  obtain ⟨hbounds, rfl⟩ := survivingRowGroups_eq_ok.mp h
  have hkept : ((List.range groups.length).filter fun g =>
      filters.all (keepsRowGroup C ⟨schema, groups⟩ · g)) =
        (List.range groups.length).filter fun g =>
          (groups[g]?).any fun rowGroup => filters.all rowGroup.keptBy := by
    refine List.filter_congr fun g hg => ?_
    have hget := List.getElem?_eq_getElem (List.mem_range.mp hg)
    rw [hget, Option.any_some, Bool.eq_iff_iff, List.all_eq_true, List.all_eq_true]
    refine forall₂_congr fun filter hfilter => ?_
    obtain ⟨bounds, hok⟩ := hbounds filter hfilter
    rw [keepsRowGroup_own hok hget]
  rw [ParquetFile.numRowGroups, hkept, locatedRows_rows, pick_filter]
  rfl

/-! ## The filters, and what a read returns -/

theorem FiltersRun.nil (filters : List FilterExpr) : FiltersRun C filters ([] : List (Row schema)) := by
  induction filters with
  | nil => trivial
  | cons filter filters ih => exact ⟨fun h => absurd rfl h, ih⟩

theorem filtersRun_append {rows later : List (Row schema)} :
    FiltersRun C filters (rows ++ later) ↔
      FiltersRun C filters rows ∧ FiltersRun C filters later := by
  induction filters generalizing rows later with
  | nil => simp [FiltersRun]
  | cons filter filters ih =>
      have hnonempty : (rows ++ later ≠ [] → (filterPredicate C schema filter).isSome = true) ↔
          (rows ≠ [] → (filterPredicate C schema filter).isSome = true) ∧
            (later ≠ [] → (filterPredicate C schema filter).isSome = true) := by
        by_cases hrows : rows = [] <;> by_cases hlater : later = [] <;> simp [hrows, hlater]
      rw [FiltersRun, FiltersRun, FiltersRun, List.filter_append, ih, hnonempty]
      tauto

theorem filtersRun_flatMap {α : Type} {parts : List α} {rows : α → List (Row schema)} :
    FiltersRun C filters (parts.flatMap rows) ↔ ∀ part ∈ parts, FiltersRun C filters (rows part) := by
  induction parts with
  | nil => simp [FiltersRun.nil]
  | cons part parts ih => rw [List.flatMap_cons, filtersRun_append, ih, List.forall_mem_cons]

variable {columns : Option (List String)}

theorem emitRows_isOk {rows rows' : List (Row schema)} {batch : RecordBatch}
    (h : emitRows C schema columns rows = .ok batch) :
    ∃ batch', emitRows C schema columns rows' = .ok batch' := by
  cases columns with
  | none => exact ⟨_, emitRows_none⟩
  | some names =>
      obtain ⟨indices, hindices, h⟩ := Except.bind_eq_ok.mp h
      rw [liftArrow_eq_ok, RecordBatch.project] at h
      have hbound : (indices.all (decide <| · <
          (RecordBatch.ofRows (rows.map (·.pick (outputMask C schema (some names))))).schema.length)) =
            true := by
        by_contra hnot
        rw [if_neg hnot] at h
        cases h
      obtain ⟨projected, hproject⟩ : ∃ projected,
          (RecordBatch.ofRows (rows'.map (·.pick (outputMask C schema (some names))))).project
            indices = .ok projected := by
        rw [RecordBatch.project]
        exact ⟨_, if_pos hbound⟩
      exact ⟨projected,
        Except.bind_eq_ok.mpr ⟨indices, hindices, liftArrow_eq_ok.mpr hproject⟩⟩

/-! ## Reading -/

variable {Path : Type} {disk : Disk Path}

theorem readParquet_groups {path : Path} (hopen : disk.openFile path = .ok ⟨schema, groups⟩)
    {batch : RecordBatch} :
    readParquet C disk path columns filters = .ok batch ↔
      (∀ filter ∈ filters, ∃ bounds, rowGroupBounds C ⟨schema, groups⟩ filter = .ok bounds) ∧
        FiltersRun C filters (decodedRows filters groups) ∧
        emitRows C schema columns
          ((decodedRows filters groups).filter fun row => filters.all (passes C · row)) =
            .ok batch := by
  rw [readParquet_eq_ok]
  simp only [hopen, Except.ok.injEq, exists_eq_left', readRowGroups_eq_ok]
  constructor
  · rintro ⟨surviving, hsurviving, hread⟩
    rw [survivingRowGroups_decoded hsurviving] at hread
    exact ⟨(survivingRowGroups_eq_ok.mp hsurviving).1, hread⟩
  · rintro ⟨hbounds, hread⟩
    have hsurviving := survivingRowGroups_eq_ok.mpr ⟨hbounds, rfl⟩
    refine ⟨_, hsurviving, ?_⟩
    rw [survivingRowGroups_decoded hsurviving]
    exact hread

variable {paths : List Path} {cut : List (List (RowGroup schema))} {whole : Path}

theorem fileRows_spread
    (hfiles : List.Forall₂ (fun path groups => disk.openFile path = .ok ⟨schema, groups⟩)
      paths cut)
    (hreads : ∀ path ∈ paths, ∃ batch, readParquet C disk path columns filters = .ok batch) :
    paths.flatMap (fileRows C disk columns filters) =
      ((decodedRows filters cut.flatten).filter fun row => filters.all (passes C · row)).map
        fun row => columnView C schema columns row.slots := by
  induction hfiles with
  | nil => rfl
  | cons hhead _ ih =>
      obtain ⟨⟨batch, hread⟩, hrest⟩ := List.forall_mem_cons.mp hreads
      obtain ⟨-, -, hemit⟩ := (readParquet_groups hhead).mp hread
      rw [List.flatMap_cons, ih hrest, fileRows, hread, List.flatten_cons]
      simp only [(emitRows_view hemit).2, decodedRows, List.filter_append, List.flatMap_append,
        List.map_append]

theorem readParquetMulti_isOk_spread (hne : paths ≠ [])
    (hfiles : List.Forall₂ (fun path groups => disk.openFile path = .ok ⟨schema, groups⟩)
      paths cut) :
    (∃ joined, readParquetMulti C disk paths columns filters = .ok joined) ↔
      ∀ path ∈ paths, ∃ batch, readParquet C disk path columns filters = .ok batch := by
  have hraw : ∀ path ∈ paths, readRawSchema disk path = .ok schema := by
    intro path hpath
    obtain ⟨groups, -, hopen⟩ := forall₂_exists_of_mem hfiles hpath
    exact readRawSchema_eq_ok.mpr ⟨_, hopen, rfl⟩
  cases paths with
  | nil => exact absurd rfl hne
  | cons first rest =>
      rw [readParquetMulti_isOk_iff]
      refine forall₂_congr fun path hpath => ?_
      refine and_iff_left ⟨schema, hraw path hpath, fun other hother => ?_⟩
      exact ⟨schema, hraw other hother, schemasMatch_equivalence.refl schema⟩

/-- Files with the row groups of one file, spread over them in order, read as that file:
alike where both reads succeed, and both succeed or neither where the statistics of the
filtered columns can be read. -/
theorem readParquetMulti_spread (hne : paths ≠ [])
    (hfiles : List.Forall₂ (fun path groups => disk.openFile path = .ok ⟨schema, groups⟩)
      paths cut)
    (hwhole : disk.openFile whole = .ok ⟨schema, cut.flatten⟩) :
    (∀ joined batch, readParquetMulti C disk paths columns filters = .ok joined →
        readParquet C disk whole columns filters = .ok batch → joined = batch) ∧
      ((∀ filter ∈ filters, ∀ i field, indexOf schema filter.column = .ok i →
          schema[i]? = some field → field.dataType.storage.isBasic = true) →
        ((∃ joined, readParquetMulti C disk paths columns filters = .ok joined) ↔
          ∃ batch, readParquet C disk whole columns filters = .ok batch)) := by
  refine ⟨?_, fun hbasic => ?_⟩
  · intro joined batch hjoined hread
    obtain ⟨-, -, hemit⟩ := (readParquet_groups hwhole).mp hread
    obtain ⟨hschema, hrows⟩ := emitRows_view hemit
    have hreads := (readParquetMulti_isOk_spread hne hfiles).mp ⟨joined, hjoined⟩
    cases hfiles with
    | nil => exact absurd rfl hne
    | @cons first groups rest later hfirst hrest =>
        obtain ⟨_, batches, -, hall, hhead, -⟩ := readParquetMulti_eq_ok.mp hjoined
        cases hall with
        | @cons _ part _ parts hpart _ =>
            obtain ⟨-, -, hpartEmit⟩ := (readParquet_groups hfirst).mp hpart.2
            have hjoinedSchema : part.schema = joined.schema := Option.some.inj hhead
            refine RecordBatch.ext_rows ?_ ?_
            · rw [← hjoinedSchema, (emitRows_view hpartEmit).1, hschema]
            · rw [readParquetMulti_rows hjoined, fileRows_spread (.cons hfirst hrest) hreads, hrows]
  · have hbounds : ∀ groups groups' : List (RowGroup schema), ∀ filter ∈ filters,
        (∃ bounds, rowGroupBounds C ⟨schema, groups⟩ filter = .ok bounds) →
          ∃ bounds, rowGroupBounds C ⟨schema, groups'⟩ filter = .ok bounds := by
      intro groups groups' filter hfilter hok
      obtain ⟨i, hi⟩ := indexOf_of_rowGroupBounds hok
      obtain ⟨field, hfield, -⟩ := indexOf_lt hi
      exact rowGroupBounds_basic hi hfield (hbasic filter hfilter i field hi hfield)
    rw [readParquetMulti_isOk_spread hne hfiles]
    constructor
    · intro hreads
      have hparts : ∀ groups ∈ cut,
          FiltersRun C filters (decodedRows filters groups) := by
        intro groups hgroups
        obtain ⟨path, hpath, hopen⟩ := forall₂_exists_of_mem hfiles.flip hgroups
        obtain ⟨batch, hread⟩ := hreads path hpath
        exact ((readParquet_groups hopen).mp hread).2.1
      obtain ⟨path, hpath⟩ := List.exists_mem_of_ne_nil paths hne
      obtain ⟨groups, -, hopen⟩ := forall₂_exists_of_mem hfiles hpath
      obtain ⟨batch, hread⟩ := hreads path hpath
      obtain ⟨hfound, -, hemit⟩ := (readParquet_groups hopen).mp hread
      obtain ⟨batch', hemit'⟩ := emitRows_isOk hemit
      refine ⟨batch', (readParquet_groups hwhole).mpr ⟨?_, ?_, hemit'⟩⟩
      · exact fun filter hfilter => hbounds groups _ filter hfilter (hfound filter hfilter)
      · rw [decodedRows_flatten, filtersRun_flatMap]
        exact hparts
    · rintro ⟨batch, hread⟩ path hpath
      obtain ⟨groups, hgroups, hopen⟩ := forall₂_exists_of_mem hfiles hpath
      obtain ⟨hfound, hrun, hemit⟩ := (readParquet_groups hwhole).mp hread
      rw [decodedRows_flatten, filtersRun_flatMap] at hrun
      obtain ⟨batch', hemit'⟩ := emitRows_isOk hemit
      refine ⟨batch', (readParquet_groups hopen).mpr ⟨?_, hrun groups hgroups, hemit'⟩⟩
      exact fun filter hfilter => hbounds _ groups filter hfilter (hfound filter hfilter)

end

/-! ## The groups of a file, each in its own -/

def pairAndGroups : Disk (Option Nat) where
  openFile := fun
    | none => .ok pairFile
    | some g => .ok ⟨[pairField], (pairFile.rowGroups[g]?).toList⟩
  display _ := "pair.parquet"

theorem readParquetMulti_spread_pair :
    ∃ batch, readParquetMulti referenceCrates pairAndGroups [some 0, some 1] none [aboveOne] =
        .ok batch ∧
      readParquet referenceCrates pairAndGroups none none [aboveOne] = .ok batch := by
  obtain ⟨batch, hread⟩ : ∃ batch,
      readParquet referenceCrates pairAndGroups none none [aboveOne] = .ok batch := ⟨_, rfl⟩
  have hfiles : List.Forall₂ (fun path groups =>
      pairAndGroups.openFile path = .ok ⟨[pairField], groups⟩) [some 0, some 1]
        [(pairFile.rowGroups[0]?).toList, (pairFile.rowGroups[1]?).toList] :=
    List.Forall₂.cons rfl (List.Forall₂.cons rfl List.Forall₂.nil)
  have hwhole : pairAndGroups.openFile none = .ok ⟨[pairField],
      [(pairFile.rowGroups[0]?).toList, (pairFile.rowGroups[1]?).toList].flatten⟩ := rfl
  obtain ⟨hsame, hboth⟩ := readParquetMulti_spread (C := referenceCrates)
    (List.cons_ne_nil (some 0) [some 1]) hfiles hwhole
  have hbasic : ∀ filter ∈ [aboveOne], ∀ i field, indexOf [pairField] filter.column = .ok i →
      [pairField][i]? = some field → field.dataType.storage.isBasic = true := by
    intro filter _ i field _ hfield
    cases List.mem_singleton.mp (List.mem_of_getElem? hfield)
    rfl
  obtain ⟨joined, hjoined⟩ := (hboth hbasic).mpr ⟨batch, hread⟩
  refine ⟨joined, hjoined, ?_⟩
  rw [hsame joined batch hjoined hread]
  exact hread

end Pydart
