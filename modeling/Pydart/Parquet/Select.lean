import Pydart.Blocks
import Pydart.Parquet.Predicate

/-! # What a filtered read selects

The surviving row groups are those every filter keeps, and the rows returned are
the rows of those groups every filter passes, whatever the batch boundaries.
-/

namespace Pydart

section

variable (C : Crates)

/-! ## Surviving row groups -/

def rowGroupBounds (file : ParquetFile) (filter : FilterExpr) :
    Except ParquetError (ArrowArray × ArrowArray) := do
  let converter ← C.statisticsConverter file.schema filter.column
  let mins ← C.rowGroupMins file converter
  let maxes ← C.rowGroupMaxes file converter
  pure (mins, maxes)

/-- One filter alone keeps the row group. -/
def keepsRowGroup (file : ParquetFile) (filter : FilterExpr) (rowGroup : Nat) : Bool :=
  match rowGroupBounds C file filter with
  | .error _ => true
  | .ok (mins, maxes) =>
      couldMatchRange filter.op filter.value
        (scalarFromArray mins rowGroup) (scalarFromArray maxes rowGroup)

variable {C} {file : ParquetFile}

theorem indexOf_of_rowGroupBounds {filter : FilterExpr}
    (h : ∃ bounds, rowGroupBounds C file filter = .ok bounds) :
    ∃ i, indexOf file.schema filter.column = .ok i := by
  obtain ⟨bounds, hbounds⟩ := h
  cases hi : indexOf file.schema filter.column with
  | ok i => exact ⟨i, rfl⟩
  | error e =>
      obtain ⟨e', he'⟩ := C.statisticsConverter_error hi
      rw [rowGroupBounds, he'] at hbounds
      cases hbounds

theorem excludeRowGroups_eq_ok {keep kept : List Bool} {filter : FilterExpr} :
    excludeRowGroups C file keep filter = .ok kept ↔
      (∃ bounds, rowGroupBounds C file filter = .ok bounds) ∧
        kept = keep.mapIdx fun rowGroup slot => slot && keepsRowGroup C file filter rowGroup := by
  have hstep : excludeRowGroups C file keep filter =
      (fun bounds : ArrowArray × ArrowArray => keep.mapIdx fun rowGroup slot =>
        slot && couldMatchRange filter.op filter.value
          (scalarFromArray bounds.1 rowGroup) (scalarFromArray bounds.2 rowGroup)) <$>
        rowGroupBounds C file filter := by
    have hslot : ∀ slot could : Bool, (if !slot then slot else could) = (slot && could) := by
      decide
    unfold excludeRowGroups rowGroupBounds
    simp only [map_eq_pure_bind, bind_assoc, pure_bind, hslot]
  rw [hstep, Except.map_eq_ok]
  constructor
  · rintro ⟨bounds, hbounds, rfl⟩
    refine ⟨⟨bounds, hbounds⟩, ?_⟩
    simp only [keepsRowGroup, hbounds]
  · rintro ⟨⟨bounds, hbounds⟩, rfl⟩
    refine ⟨bounds, hbounds, ?_⟩
    simp only [keepsRowGroup, hbounds]

/-- The loop over the filters: a group stays when every filter keeps it. -/
theorem foldlM_excludeRowGroups {filters : List FilterExpr} {keep kept : List Bool} :
    filters.foldlM (excludeRowGroups C file) keep = .ok kept ↔
      (∀ filter ∈ filters, ∃ bounds, rowGroupBounds C file filter = .ok bounds) ∧
        kept = keep.mapIdx fun rowGroup slot =>
          slot && filters.all (keepsRowGroup C file · rowGroup) := by
  induction filters generalizing keep with
  | nil =>
      have hid : (keep.mapIdx fun _ slot => slot && true) = keep := by
        apply List.ext_getElem
        · simp
        · intro i h₁ h₂
          simp
      simp only [List.foldlM_nil, List.not_mem_nil, false_implies, implies_true, true_and,
        List.all_nil, hid]
      constructor
      · intro h
        cases h
        rfl
      · intro h
        rw [h]
        rfl
  | cons filter filters ih =>
      have hcompose : ∀ l : List Bool,
          ((l.mapIdx fun g slot => slot && keepsRowGroup C file filter g).mapIdx fun g slot =>
            slot && filters.all (keepsRowGroup C file · g)) =
          l.mapIdx fun g slot => slot && (filter :: filters).all (keepsRowGroup C file · g) := by
        intro l
        apply List.ext_getElem
        · simp
        · intro i h₁ h₂
          simp [Bool.and_assoc]
      rw [List.foldlM_cons, Except.bind_eq_ok]
      constructor
      · rintro ⟨mid, hmid, hrest⟩
        obtain ⟨hbounds, rfl⟩ := excludeRowGroups_eq_ok.mp hmid
        obtain ⟨hall, rfl⟩ := ih.mp hrest
        refine ⟨?_, hcompose keep⟩
        intro f hf
        cases List.mem_cons.mp hf with
        | inl heq =>
            subst heq
            exact hbounds
        | inr hmem => exact hall f hmem
      · rintro ⟨hall, rfl⟩
        refine ⟨_, excludeRowGroups_eq_ok.mpr ⟨hall filter List.mem_cons_self, rfl⟩, ?_⟩
        exact ih.mpr ⟨fun f hf => hall f (List.mem_cons_of_mem _ hf), (hcompose keep).symm⟩

theorem survivingRowGroups_eq_ok {filters : List FilterExpr} {groups : List Nat} :
    survivingRowGroups C file filters = .ok groups ↔
      (∀ filter ∈ filters, ∃ bounds, rowGroupBounds C file filter = .ok bounds) ∧
        groups = (List.range file.numRowGroups).filter
          (fun rowGroup => filters.all (keepsRowGroup C file · rowGroup)) := by
  unfold survivingRowGroups
  rw [Except.bind_eq_ok]
  simp only [foldlM_excludeRowGroups]
  have hkeep : ((List.range file.numRowGroups).filter fun rowGroup =>
      ((List.replicate file.numRowGroups true).mapIdx fun rowGroup slot =>
        slot && filters.all (keepsRowGroup C file · rowGroup)).getD rowGroup false) =
      (List.range file.numRowGroups).filter
        (fun rowGroup => filters.all (keepsRowGroup C file · rowGroup)) := by
    apply List.filter_congr
    intro g hg
    rw [List.mem_range] at hg
    rw [List.getD_eq_getElem?_getD, List.getElem?_mapIdx,
      List.getElem?_replicate, if_pos hg]
    simp
  constructor
  · rintro ⟨keep, ⟨hall, rfl⟩, h⟩
    cases h
    exact ⟨hall, hkeep⟩
  · rintro ⟨hall, rfl⟩
    exact ⟨_, ⟨hall, rfl⟩, by rw [hkeep]; rfl⟩

end

/-! ## The batch handed back -/

section

variable (C : Crates)

def emitRows (schema : Schema) (columns : Option (List String)) (rows : List (Row schema)) :
    Outcome RecordBatch :=
  reorderColumns columns (RecordBatch.ofRows (rows.map (·.pick (outputMask C schema columns))))

variable {C}

theorem sameColumns_refl (schema : Schema) : SameColumns schema schema := by
  rw [SameColumns, List.forall₂_same]
  exact fun _ _ => ⟨rfl, rfl⟩

/-- Cutting the selected rows into batches and joining them again changes nothing. -/
theorem collectBatches_splitSizes {schema : Schema} {sizes : List Nat} (output : List Nat)
    {selected : List (LocatedRow schema)} (hsum : sizes.sum = selected.length) :
    collectBatches C (pick schema output) ((splitSizes sizes selected).map (projectedBatch output)) =
      .ok (RecordBatch.ofRows (selected.map (·.row.pick output))) := by
  have hflat := splitSizes_flatten hsum
  generalize splitSizes sizes selected = chunks at hflat
  subst hflat
  match chunks with
  | [] => rfl
  | [chunk] =>
      rw [List.flatten_singleton]
      rfl
  | first :: second :: rest =>
      simp only [List.map_cons, collectBatches]
      have hsame : ∀ batch ∈ (first :: second :: rest).map (projectedBatch output),
          SameColumns batch.schema (pick schema output) := by
        intro batch hbatch
        obtain ⟨chunk, -, rfl⟩ := List.mem_map.mp hbatch
        exact sameColumns_refl _
      obtain ⟨result, hok, hschema, hrows⟩ := C.concatBatches_ok (by simp) hsame
      rw [List.map_cons, List.map_cons] at hok hrows
      rw [liftArrow_eq_ok, hok]
      congr 1
      apply RecordBatch.ext_rows
      · exact hschema
      · rw [hrows, ← List.map_cons, ← List.map_cons, List.flatMap_map]
        simp only [projectedBatch, RecordBatch.ofRows, List.map_map, List.map_flatten]
        rw [← List.flatMap_def]
        congr 1
        funext chunk
        simp

theorem readRowGroups_eq {file : ParquetFile} {groups : List Nat} {columns : Option (List String)}
    {filters : List FilterExpr} :
    readRowGroups C file groups columns filters =
      selectRows C file groups (buildRowFilter C file.schema filters) >>= fun selected =>
        emitRows C file.schema columns (selected.map (·.row)) := by
  have hpred : (if filters.isEmpty then [] else buildRowFilter C file.schema filters) =
      buildRowFilter C file.schema filters := by
    cases filters <;> rfl
  unfold readRowGroups readBatches
  simp only [hpred, bind_assoc, pure_bind]
  congr 1
  funext selected
  have hsum := C.batchSizes_sum file groups (buildRowFilter C file.schema filters).length
    (selected.map LocatedRow.position)
  rw [List.length_map] at hsum
  rw [collectBatches_splitSizes _ hsum, emitRows, List.map_map]
  rfl

theorem pick_range {α : Type} (entries : List α) :
    pick entries (List.range entries.length) = entries := by
  unfold pick
  induction entries with
  | nil => rfl
  | cons a entries ih =>
      rw [List.length_cons, List.range_succ_eq_map, List.filterMap_cons,
        List.getElem?_cons_zero, List.filterMap_map]
      exact congrArg (a :: ·) ih

theorem pick_filter {α : Type} (entries : List α) (p : α → Bool) :
    pick entries ((List.range entries.length).filter fun i => entries[i]?.any p) =
      entries.filter p := by
  have hslot : ∀ i : Nat, (if (entries[i]?).any p = true then entries[i]? else none) =
      (entries[i]?).filter p := by
    intro i
    cases entries[i]? <;> rfl
  calc pick entries ((List.range entries.length).filter fun i => (entries[i]?).any p)
      = (List.range entries.length).filterMap fun i => (entries[i]?).filter p := by
        rw [pick, List.filterMap_filter, funext hslot]
    _ = (pick entries (List.range entries.length)).filter p := List.filter_filterMap.symm
    _ = entries.filter p := by rw [pick_range]

theorem emitRows_none {schema : Schema} {rows : List (Row schema)} :
    emitRows C schema none rows = .ok (RecordBatch.ofRows rows) := by
  have hschema : pick schema (List.range schema.length) = schema := pick_range schema
  change Except.ok _ = Except.ok _
  congr 1
  apply RecordBatch.ext_rows hschema
  simp only [RecordBatch.ofRows, List.map_map]
  apply List.map_congr_left
  intro row _
  simp only [Function.comp, Row.pick, outputMask]
  rw [row.typed.length_eq, pick_range]

/-- The positions of the requested columns among the decoded ones. -/
def requestedIndices (schema : Schema) (names : List String) : List Nat :=
  names.filterMap fun name => (indexOf schema name).toOption

/-- The entries a caller sees, in the columns asked for: of the schema, or of a row. -/
def columnView {α : Type} (C : Crates) (schema : Schema) (columns : Option (List String))
    (entries : List α) : List α :=
  match columns with
  | none => entries
  | some names =>
      let mask := C.projectionMask schema names
      pick (pick entries mask) (requestedIndices (pick schema mask) names)

theorem emitRows_view {schema : Schema} {columns : Option (List String)}
    {rows : List (Row schema)} {batch : RecordBatch}
    (h : emitRows C schema columns rows = .ok batch) :
    batch.schema = columnView C schema columns schema ∧
      batch.rows = rows.map fun row => columnView C schema columns row.slots := by
  cases columns with
  | none =>
      rw [emitRows_none] at h
      cases h
      exact ⟨rfl, rfl⟩
  | some names =>
      obtain ⟨indices, hindices, h⟩ := Except.bind_eq_ok.mp h
      have hrequested :
          requestedIndices (pick schema (C.projectionMask schema names)) names = indices := by
        rw [Except.mapM_eq_ok] at hindices
        simp only [RecordBatch.ofRows, outputMask, liftArrow_eq_ok] at hindices
        exact Except.filterMap_toOption hindices
      rw [liftArrow_eq_ok, RecordBatch.project] at h
      split at h
      · cases h
        simp only [columnView, hrequested, RecordBatch.ofRows, List.map_map]
        exact ⟨rfl, rfl⟩
      · cases h

theorem emitRows_length {schema : Schema} {columns : Option (List String)}
    {rows : List (Row schema)} {batch : RecordBatch} (h : emitRows C schema columns rows = .ok batch) :
    batch.rows.length = rows.length := by
  rw [(emitRows_view h).2, List.length_map]

/-- The rows of a batch do not depend on which groups they came from. -/
theorem readRowGroups_eq_ok {file : ParquetFile} {groups : List Nat}
    {columns : Option (List String)} {filters : List FilterExpr} {batch : RecordBatch} :
    readRowGroups C file groups columns filters = .ok batch ↔
      FiltersRun C filters ((file.locatedRows groups).map (·.row)) ∧
        emitRows C file.schema columns
          (((file.locatedRows groups).map (·.row)).filter
            (fun row => filters.all (passes C · row))) = .ok batch := by
  have hmap : ∀ rows : List (LocatedRow file.schema),
      (rows.filter (fun located => filters.all (passes C · located.row))).map (·.row) =
        (rows.map (·.row)).filter (fun row => filters.all (passes C · row)) := by
    intro rows
    rw [List.filter_map]
    rfl
  simp only [readRowGroups_eq, Except.bind_eq_ok, selectRows_eq_ok, ← hmap]
  constructor
  · rintro ⟨selected, ⟨hrun, rfl⟩, hemit⟩
    exact ⟨hrun, hemit⟩
  · rintro ⟨hrun, hemit⟩
    exact ⟨_, ⟨hrun, rfl⟩, hemit⟩

/-! ## Whole reads -/

variable {Path : Type} {disk : Disk Path}

theorem readParquet_eq_ok {path : Path} {columns : Option (List String)}
    {filters : List FilterExpr} {batch : RecordBatch} :
    readParquet C disk path columns filters = .ok batch ↔
      ∃ file, disk.openFile path = .ok file ∧ ∃ groups,
        survivingRowGroups C file filters = .ok groups ∧
        readRowGroups C file groups columns filters = .ok batch := by
  unfold readParquet
  simp only [Except.bind_eq_ok, liftParquet_eq_ok]

theorem readParquet_unfiltered {path : Path} {file : ParquetFile}
    (hopen : disk.openFile path = .ok file) :
    readParquet C disk path none [] =
      .ok (RecordBatch.ofRows (file.allRows.map (·.row))) := by
  have hgroups : survivingRowGroups C file [] = .ok (List.range file.numRowGroups) := by
    refine survivingRowGroups_eq_ok.mpr ⟨by simp, ?_⟩
    simp
  refine readParquet_eq_ok.mpr ⟨file, hopen, _, hgroups, readRowGroups_eq_ok.mpr ⟨trivial, ?_⟩⟩
  rw [emitRows_none]
  simp [ParquetFile.allRows]

end
end Pydart
