import Mathlib.Data.List.Nodup
import Pydart.Parquet.Skipping

/-! # Filters as a conjunction

A read selects the positions of the rows that every filter's statistics and every
filter's predicate let through, so lists of filters combine by intersection.
-/

namespace Pydart

/-! ## Positions -/

def ParquetFile.rowAt (file : ParquetFile) (position : Nat × Nat) : Option (List Slot) :=
  (file.rowGroups[position.1]?).bind fun rowGroup => (rowGroup.rows[position.2]?).map Row.slots

def Before (p q : Nat × Nat) : Prop := p.1 < q.1 ∨ (p.1 = q.1 ∧ p.2 < q.2)

instance (p q : Nat × Nat) : Decidable (Before p q) := inferInstanceAs (Decidable (_ ∨ _))

theorem Before.ne {p q : Nat × Nat} (h : Before p q) : p ≠ q := by
  rintro rfl
  rcases h with h | ⟨-, h⟩ <;> omega

section

variable {file : ParquetFile}

theorem groupRows_pairwise (g : Nat) :
    (file.groupRows g).Pairwise (fun a b => Before a.position b.position) := by
  unfold ParquetFile.groupRows
  split
  · exact List.Pairwise.nil
  · rw [List.pairwise_iff_getElem]
    intro i j hi hj hij
    rw [List.getElem_mapIdx, List.getElem_mapIdx]
    exact Or.inr ⟨rfl, hij⟩

theorem allRows_pairwise (file : ParquetFile) :
    file.allRows.Pairwise (fun a b => Before a.position b.position) := by
  rw [ParquetFile.allRows, ParquetFile.locatedRows, List.pairwise_flatMap]
  refine ⟨fun g _ => groupRows_pairwise g, ?_⟩
  apply List.Pairwise.imp _ List.pairwise_lt_range
  intro g h hlt a ha b hb
  refine Or.inl ?_
  rw [LocatedRow.position, LocatedRow.position, (mem_groupRows ha).1, (mem_groupRows hb).1]
  exact hlt

theorem eq_of_position_eq {a b : LocatedRow file.schema} (ha : a ∈ file.allRows)
    (hb : b ∈ file.allRows) (h : a.position = b.position) : a = b := by
  have hnodup : (file.allRows.map LocatedRow.position).Nodup :=
    List.pairwise_map.mpr ((allRows_pairwise file).imp Before.ne)
  exact List.inj_on_of_nodup_map hnodup ha hb h

theorem rowAt_position {located : LocatedRow file.schema} (h : located ∈ file.allRows) :
    file.rowAt located.position = some located.row.slots := by
  have hmem := mem_allRows.mp h
  unfold ParquetFile.groupRows at hmem
  split at hmem
  · cases hmem
  · rename_i rowGroup hg
    obtain ⟨i, hi, heq⟩ := List.mem_mapIdx.mp hmem
    have hindex : located.index = i := by rw [← heq]
    have hrow : located.row = rowGroup.rows[i] := by rw [← heq]
    simp [ParquetFile.rowAt, LocatedRow.position, hg, hindex, hrow, List.getElem?_eq_getElem hi]

theorem filterMap_rowAt {rows : List (LocatedRow file.schema)}
    (h : ∀ located ∈ rows, located ∈ file.allRows) :
    (rows.map LocatedRow.position).filterMap file.rowAt = rows.map (·.row.slots) := by
  induction rows with
  | nil => rfl
  | cons located rows ih =>
      rw [List.map_cons, List.filterMap_cons, rowAt_position (h located List.mem_cons_self),
        List.map_cons, ih (fun l hl => h l (List.mem_cons_of_mem _ hl))]

/-- A row is selected exactly when its position is. -/
theorem position_mem_iff {located : LocatedRow file.schema} (h : located ∈ file.allRows)
    (p : LocatedRow file.schema → Bool) :
    located.position ∈ (file.allRows.filter p).map LocatedRow.position ↔ p located = true := by
  rw [List.mem_map]
  constructor
  · rintro ⟨other, hother, heq⟩
    rw [List.mem_filter] at hother
    rw [← eq_of_position_eq hother.1 h heq]
    exact hother.2
  · intro hp
    exact ⟨located, List.mem_filter.mpr ⟨h, hp⟩, rfl⟩

/-- Two selections from a file, combined on the rows and on their positions. -/
theorem positions_inter (p q : LocatedRow file.schema → Bool) :
    (file.allRows.filter (fun l => p l && q l)).map LocatedRow.position =
      ((file.allRows.filter p).map LocatedRow.position).filter
        (fun position => decide (position ∈ (file.allRows.filter q).map LocatedRow.position)) := by
  rw [List.filter_map, List.filter_filter]
  congr 1
  apply List.filter_congr
  intro located hlocated
  rw [Bool.eq_iff_iff]
  simp only [Function.comp, Bool.and_eq_true, decide_eq_true_eq, position_mem_iff hlocated q]
  exact and_comm

theorem locatedRows_surviving {C : Crates} {filters : List FilterExpr} {groups : List Nat}
    (hgroups : survivingRowGroups C file filters = .ok groups) :
    file.locatedRows groups =
      file.allRows.filter (fun located => filters.all (keepsRowGroup C file · located.group)) := by
  obtain ⟨-, rfl⟩ := survivingRowGroups_eq_ok.mp hgroups
  have htag : ∀ g ∈ List.range file.numRowGroups, ∀ located ∈ file.groupRows g,
      located.group = g := fun g _ located h => (mem_groupRows h).1
  have hscan := Blocks.scan_filter_tagged file.groupRows (fun located => located.group)
    (fun g => filters.all (keepsRowGroup C file · g)) (fun _ => true) htag
  simp only [Blocks.scan, List.filter_true, Bool.and_true] at hscan
  exact hscan

/-- A read's rows, as the rows of the file that its groups and its filters keep. -/
theorem selected_eq {C : Crates} {filters : List FilterExpr} {groups : List Nat}
    (hgroups : survivingRowGroups C file filters = .ok groups) :
    (file.locatedRows groups).filter (fun located => filters.all (passes C · located.row)) =
      file.allRows.filter (fun located =>
        filters.all fun filter =>
          keepsRowGroup C file filter located.group && passes C filter located.row) := by
  rw [locatedRows_surviving hgroups, List.filter_filter]
  apply List.filter_congr
  intro located _
  rw [Bool.eq_iff_iff]
  simp only [Bool.and_eq_true, List.all_eq_true, ← forall_and]
  exact forall_congr' fun filter => forall_congr' fun _ => and_comm

end

section

variable (C : Crates) {Path : Type} (disk : Disk Path)

def readPositions (path : Path) (filters : List FilterExpr) : Outcome (List (Nat × Nat)) := do
  let file ← liftParquet (disk.openFile path)
  let surviving ← liftParquet (survivingRowGroups C file filters)
  let selected ← selectRows C file surviving (buildRowFilter C file.schema filters)
  pure (selected.map LocatedRow.position)

end

section

variable {C : Crates} {Path : Type} {disk : Disk Path}

/-- A successful read returns the rows at its positions, which come in file order. -/
theorem readParquet_positions {path : Path} {columns : Option (List String)}
    {filters : List FilterExpr} {batch : RecordBatch}
    (h : readParquet C disk path columns filters = .ok batch) :
    ∃ file, disk.openFile path = .ok file ∧
      (∃ groups, survivingRowGroups C file filters = .ok groups) ∧
      readPositions C disk path filters =
        .ok ((file.allRows.filter fun located =>
          filters.all fun filter =>
            keepsRowGroup C file filter located.group && passes C filter located.row).map
          LocatedRow.position) ∧
      batch.rows = (file.allRows.filter fun located =>
          filters.all fun filter =>
            keepsRowGroup C file filter located.group && passes C filter located.row).map
          (fun located => columnView C file.schema columns located.row.slots) := by
  obtain ⟨file, hopen, groups, hgroups, hread⟩ := readParquet_eq_ok.mp h
  obtain ⟨hrun, hemit⟩ := readRowGroups_eq_ok.mp hread
  have hselect := selectRows_eq_ok.mpr ⟨hrun, rfl⟩
  rw [selected_eq hgroups] at hselect
  refine ⟨file, hopen, ⟨groups, hgroups⟩, ?_, ?_⟩
  · unfold readPositions
    simp only [hopen, hgroups, liftParquet, hselect, Except.bind_eq_ok, Except.ok.injEq,
      exists_eq_left']
    rfl
  · rw [(emitRows_view hemit).2, ← selected_eq hgroups, List.filter_map, List.map_map]
    rfl

theorem survivingRowGroups_conjunction (file : ParquetFile) (filters : List FilterExpr) :
    ((∃ groups, survivingRowGroups C file filters = .ok groups) ↔
        ∀ filter ∈ filters, ∃ groups, survivingRowGroups C file [filter] = .ok groups) ∧
      ∀ groups, survivingRowGroups C file filters = .ok groups →
        groups.Pairwise (· < ·) ∧
          ∀ g, g ∈ groups ↔ g < file.numRowGroups ∧ ∀ filter ∈ filters, ∀ alone,
            survivingRowGroups C file [filter] = .ok alone → g ∈ alone := by
  have halone : ∀ filter groups, survivingRowGroups C file [filter] = .ok groups ↔
      (∃ bounds, rowGroupBounds C file filter = .ok bounds) ∧
        groups = (List.range file.numRowGroups).filter (keepsRowGroup C file filter) := by
    intro filter groups
    rw [survivingRowGroups_eq_ok]
    simp
  constructor
  · simp only [survivingRowGroups_eq_ok, List.mem_singleton, forall_eq]
    constructor
    · rintro ⟨groups, hbounds, -⟩ filter hfilter
      exact ⟨_, hbounds filter hfilter, rfl⟩
    · intro h
      exact ⟨_, fun filter hfilter => (h filter hfilter).choose_spec.1, rfl⟩
  · intro groups hgroups
    obtain ⟨hbounds, rfl⟩ := survivingRowGroups_eq_ok.mp hgroups
    refine ⟨List.pairwise_lt_range.filter _, ?_⟩
    intro g
    rw [List.mem_filter, List.mem_range, List.all_eq_true]
    constructor
    · rintro ⟨hg, hkeep⟩
      refine ⟨hg, ?_⟩
      intro filter hfilter alone halone'
      obtain ⟨-, rfl⟩ := (halone filter alone).mp halone'
      exact List.mem_filter.mpr ⟨List.mem_range.mpr hg, hkeep filter hfilter⟩
    · rintro ⟨hg, hall⟩
      refine ⟨hg, ?_⟩
      intro filter hfilter
      have := hall filter hfilter _ ((halone filter _).mpr ⟨hbounds filter hfilter, rfl⟩)
      exact (List.mem_filter.mp this).2

theorem survivingRowGroups_congr {file : ParquetFile} {filters filters' : List FilterExpr}
    (hsame : ∀ filter, filter ∈ filters ↔ filter ∈ filters') {groups : List Nat}
    (h : survivingRowGroups C file filters = .ok groups) :
    survivingRowGroups C file filters' = .ok groups := by
  obtain ⟨hbounds, rfl⟩ := survivingRowGroups_eq_ok.mp h
  refine survivingRowGroups_eq_ok.mpr ⟨fun f hf => hbounds f ((hsame f).mpr hf), ?_⟩
  apply List.filter_congr
  intro g _
  rw [Bool.eq_iff_iff, List.all_eq_true, List.all_eq_true]
  exact ⟨fun h f hf => h f ((hsame f).mpr hf), fun h f hf => h f ((hsame f).mp hf)⟩

/-- Filters combine by intersection: of the row groups kept, and of the row
positions read, in file order and each once. -/
theorem filters_conjunction (path : Path) (columns : Option (List String))
    (fs gs : List FilterExpr) :
    (∀ file filters,
      ((∃ groups, survivingRowGroups C file filters = .ok groups) ↔
          ∀ filter ∈ filters, ∃ groups, survivingRowGroups C file [filter] = .ok groups) ∧
        (∀ groups, survivingRowGroups C file filters = .ok groups →
          groups.Pairwise (· < ·) ∧
            ∀ g, g ∈ groups ↔ g < file.numRowGroups ∧ ∀ filter ∈ filters, ∀ alone,
              survivingRowGroups C file [filter] = .ok alone → g ∈ alone) ∧
        ∀ filters', (∀ filter, filter ∈ filters ↔ filter ∈ filters') → ∀ groups,
          survivingRowGroups C file filters = .ok groups →
            survivingRowGroups C file filters' = .ok groups) ∧
      ∀ fsBatch gsBatch bothBatch,
        readParquet C disk path columns fs = .ok fsBatch →
        readParquet C disk path columns gs = .ok gsBatch →
        readParquet C disk path columns (fs ++ gs) = .ok bothBatch →
        ∃ file fsRows gsRows bothRows, disk.openFile path = .ok file ∧
          readPositions C disk path fs = .ok fsRows ∧
          readPositions C disk path gs = .ok gsRows ∧
          readPositions C disk path (fs ++ gs) = .ok bothRows ∧
          bothRows = fsRows.filter (fun p => decide (p ∈ gsRows)) ∧
          bothRows.Pairwise Before ∧
          fsBatch.rows = (fsRows.filterMap file.rowAt).map (columnView C file.schema columns) ∧
          gsBatch.rows = (gsRows.filterMap file.rowAt).map (columnView C file.schema columns) ∧
          bothBatch.rows =
            (bothRows.filterMap file.rowAt).map (columnView C file.schema columns) := by
  refine ⟨fun file filters => ?_, ?_⟩
  · obtain ⟨halone, hgroups⟩ := survivingRowGroups_conjunction (C := C) file filters
    exact ⟨halone, hgroups, fun _ hsame _ h => survivingRowGroups_congr hsame h⟩
  · intro fsBatch gsBatch bothBatch hfs hgs hboth
    obtain ⟨file, hopen, -, hfsPos, hfsRows⟩ := readParquet_positions hfs
    obtain ⟨file', hopen', -, hgsPos, hgsRows⟩ := readParquet_positions hgs
    rw [hopen] at hopen'
    cases hopen'
    obtain ⟨file', hopen', -, hbothPos, hbothRows⟩ := readParquet_positions hboth
    rw [hopen] at hopen'
    cases hopen'
    have hview : ∀ keep : LocatedRow file.schema → Bool,
        (file.allRows.filter keep).map (fun l => columnView C file.schema columns l.row.slots) =
          (((file.allRows.filter keep).map LocatedRow.position).filterMap file.rowAt).map
            (columnView C file.schema columns) := by
      intro keep
      rw [filterMap_rowAt (fun l hl => (List.mem_filter.mp hl).1), List.map_map]
      rfl
    refine ⟨file, _, _, _, hopen, hfsPos, hgsPos, hbothPos, ?_, ?_, ?_, ?_, ?_⟩
    · rw [← positions_inter]
      simp only [List.all_append]
    · exact List.pairwise_map.mpr ((allRows_pairwise file).filter _)
    · rw [hfsRows, hview]
    · rw [hgsRows, hview]
    · rw [hbothRows, hview]

end

/-! ## Two filters on two groups -/

def pairField : Field := ⟨"n", .int64, true, false, []⟩

def pairFile : ParquetFile where
  schema := [pairField]
  rowGroups :=
    [columnGroup pairField [some (.int 1), some (.int 2)] ⟨some (.int 1), some (.int 2)⟩
      (by decide) (by decide),
    columnGroup pairField [some (.int 3), none] ⟨some (.int 3), some (.int 3)⟩
      (by decide) (by decide)]

def aboveOne : FilterExpr := ⟨"n", .gt, .int64 1⟩

def belowThree : FilterExpr := ⟨"n", .lt, .int64 3⟩

theorem filters_conjunction_pair :
    ∃ bothRows, readPositions referenceCrates (oneFile pairFile) () [aboveOne, belowThree] =
        .ok bothRows ∧ bothRows = [(0, 1), (1, 0)].filter (fun p => decide (p ∈ [(0, 0), (0, 1)])) := by
  have hfs : readParquet referenceCrates (oneFile pairFile) () none [aboveOne] =
      .ok (columnBatch pairField [some (.int 2), some (.int 3)] (by decide)) := by decide +kernel
  have hgs : readParquet referenceCrates (oneFile pairFile) () none [belowThree] =
      .ok (columnBatch pairField [some (.int 1), some (.int 2)] (by decide)) := by decide +kernel
  have hboth : readParquet referenceCrates (oneFile pairFile) () none ([aboveOne] ++ [belowThree]) =
      .ok (columnBatch pairField [some (.int 2)] (by decide)) := by decide +kernel
  obtain ⟨-, fsRows, gsRows, bothRows, -, hfsPos, hgsPos, hbothPos, heq, -⟩ :=
    (filters_conjunction () none [aboveOne] [belowThree]).2 _ _ _ hfs hgs hboth
  have hfs' : readPositions referenceCrates (oneFile pairFile) () [aboveOne] =
      .ok [(0, 1), (1, 0)] := by decide +kernel
  have hgs' : readPositions referenceCrates (oneFile pairFile) () [belowThree] =
      .ok [(0, 0), (0, 1)] := by decide +kernel
  rw [hfs'] at hfsPos
  rw [hgs'] at hgsPos
  cases hfsPos
  cases hgsPos
  exact ⟨bothRows, hbothPos, heq⟩

end Pydart
