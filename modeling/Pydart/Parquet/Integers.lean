import Pydart.Parquet.Skipping

/-! # Integer filters

Filters of integer columns by integer literals return exactly the rows that match
over the integers: the guard and the cast agree with the mathematical comparison,
and integer statistics are compared without rounding.
-/

namespace Pydart

structure FlatSchema (schema : Schema) : Prop where
  distinct : (schema.map Field.name).Nodup
  dotless : ∀ field ∈ schema, dotless field.name = true
  flat : ∀ field ∈ schema, field.dataType.isNested = false

/-- The filter compares a plain integer column with an integer literal. -/
def IntegerFilter (schema : Schema) (filter : FilterExpr) : Prop :=
  ∃ i field v, indexOf schema filter.column = .ok i ∧ schema[i]? = some field ∧
    field.dataType.isInteger = true ∧ filter.value = .int64 v

def integerMatch (schema : Schema) (filter : FilterExpr) (slots : List Slot) : Bool :=
  match indexOf schema filter.column, filter.value with
  | .ok i, .int64 v =>
      match slots.getD i none with
      | some (.int n) => decide (filter.op.Holds n v.toInt)
      | _ => false
  | _, _ => false

section

variable {K : ArrowKernels}

theorem isBasic_of_isInteger {t : DataType} (h : t.isInteger = true) :
    t.storage.isBasic = true := by
  rw [DataType.storage_of_isInteger h]
  cases t <;> simp_all [DataType.isBasic, DataType.isInteger, DataType.integerKind]

/-- On a plain integer column the verdict is comparison over the integers, for
literals in and out of the column's range. -/
theorem rowPredicate_int64_iff {t : DataType} (ht : t.isInteger = true) {op : Op} {v : Int64}
    {verdict : Slot → Option Bool} (h : rowPredicate K t op (.int64 v) = some verdict) {n : Int}
    (hn : t.fits n = true) : verdict (some (.int n)) = some true ↔ op.Holds n v.toInt := by
  have hstorage := DataType.storage_of_isInteger ht
  refine ⟨rowPredicate_int64_integer h (hstorage.symm ▸ ht) (hstorage.symm ▸ hn), ?_⟩
  intro hholds
  rw [rowPredicate_eq_true h]
  rcases outOfRangeMatch_integer ht op v with ⟨hfits, hnone⟩ | ⟨-, all, hsome, hall⟩
  · refine Or.inr ⟨hnone, .int v.toInt, ?_, ?_⟩
    · have hl : LiteralSlot K t (.int64 v) _ := literalSlot_int64_integer ht v
      rwa [if_pos hfits] at hl
    · rw [hstorage, K.order_int ht]
      exact Op.test_compare.mpr hholds
  · refine Or.inl ?_
    rw [hsome, (hall n hn).mpr hholds]

end

section

variable {C : Crates} {schema : Schema} {filter : FilterExpr}

theorem filterPredicate_integer (hflat : FlatSchema schema) (hfilter : IntegerFilter schema filter) :
    (filterPredicate C schema filter).isSome = true := by
  obtain ⟨i, field, v, hi, hf, ht, hv⟩ := hfilter
  obtain ⟨field', hf', hname⟩ := indexOf_lt hi
  rw [hf] at hf'
  cases hf'
  have hdot := hflat.dotless field (List.mem_of_getElem? hf)
  rw [hname] at hdot
  have hsome : (rowPredicate C.toArrowKernels field.dataType filter.op filter.value).isSome := by
    rw [hv]
    exact rowPredicate_isSome_of_literal filter.op (literalSlot_int64_integer ht v)
      (C.comparable_basic (isBasic_of_isInteger ht))
  obtain ⟨verdict, hverdict⟩ := Option.isSome_iff_exists.mp hsome
  rw [filterPredicate_eq_some.mpr ⟨hdot, i, field, verdict, hi, hf, hverdict, rfl⟩]
  rfl

theorem passes_integer (hflat : FlatSchema schema) (hfilter : IntegerFilter schema filter)
    (row : Row schema) : passes C filter row = integerMatch schema filter row.slots := by
  obtain ⟨i, field, v, hi, hf, ht, hv⟩ := hfilter
  obtain ⟨test, htest⟩ := Option.isSome_iff_exists.mp
    (filterPredicate_integer (C := C) hflat ⟨i, field, v, hi, hf, ht, hv⟩)
  obtain ⟨-, i', field', verdict, hi', hf', hverdict, rfl⟩ := filterPredicate_eq_some.mp htest
  rw [hi] at hi'
  cases hi'
  rw [hf] at hf'
  cases hf'
  have hslot : row.slots.getD i none = row.slot i := rfl
  simp only [passes, htest, integerMatch, hi, hv, hslot]
  cases hx : row.slot i with
  | none => simpa using rowPredicate_null hverdict
  | some x =>
      have hxtype := row.slot_hasType hf hx
      rw [Value.hasType, DataType.storage_of_isInteger ht] at hxtype
      obtain ⟨n, rfl, hn⟩ := (Value.hasStorage_int_iff ht).mp hxtype
      rw [hv] at hverdict
      rw [Bool.eq_iff_iff, beq_iff_eq, decide_eq_true_eq]
      exact rowPredicate_int64_iff ht hverdict hn

theorem filtersRun_of_isSome {filters : List FilterExpr}
    (h : ∀ filter ∈ filters, (filterPredicate C schema filter).isSome = true)
    (rows : List (Row schema)) : FiltersRun C filters rows := by
  induction filters generalizing rows with
  | nil => trivial
  | cons filter filters ih =>
      exact ⟨fun _ => h filter List.mem_cons_self,
        ih (fun f hf => h f (List.mem_cons_of_mem _ hf)) _⟩

end

section

variable {C : Crates} {file : ParquetFile}

theorem rowGroupBounds_basic {filter : FilterExpr} {i : Nat} {field : Field}
    (hi : indexOf file.schema filter.column = .ok i) (hf : file.schema[i]? = some field)
    (hbasic : field.dataType.storage.isBasic = true) :
    ∃ bounds, rowGroupBounds C file filter = .ok bounds := by
  obtain ⟨mins, hmins⟩ := C.rowGroupMins_basic hf hbasic
  obtain ⟨maxes, hmaxes⟩ := C.rowGroupMaxes_basic hf hbasic
  unfold rowGroupBounds
  rw [C.statisticsConverter_ok hi]
  exact ⟨(mins, maxes), by simp [hmins, hmaxes, pure, Except.pure]⟩

theorem not_hazardousRow_integer {filter : FilterExpr} (hfilter : IntegerFilter file.schema filter)
    (located : LocatedRow file.schema) : ¬ HazardousRow C file filter located := by
  obtain ⟨i, field, v, hi, hf, ht, hv⟩ := hfilter
  rintro ⟨i', x, mins, maxes, lo, hi', hindex, hx, -, -, -, hhazard⟩
  rw [hi] at hindex
  cases hindex
  have hxtype := located.row.slot_hasType hf hx
  rw [Value.hasType, DataType.storage_of_isInteger ht] at hxtype
  obtain ⟨n, rfl, -⟩ := (Value.hasStorage_int_iff ht).mp hxtype
  rw [hv] at hhazard
  exact hhazard

variable (C) {Path : Type} (disk : Disk Path)

/-- Integer filters return exactly the rows that match over the integers, in file
order and with multiplicity. -/
theorem readParquet_integers (path : Path) {filters : List FilterExpr}
    (hopen : disk.openFile path = .ok file) (hstat : StatisticsBound file)
    (hflat : FlatSchema file.schema)
    (hfilters : ∀ filter ∈ filters, IntegerFilter file.schema filter) :
    ∃ batch, readParquet C disk path none filters = .ok batch ∧ batch.schema = file.schema ∧
      batch.rows = file.slotRows.filter fun slots =>
        filters.all (integerMatch file.schema · slots) := by
  have hfull : readRowGroups C file (List.range file.numRowGroups) none filters =
      .ok (RecordBatch.ofRows ((file.allRows.map (·.row)).filter
        (fun row => filters.all (passes C · row)))) := by
    refine readRowGroups_eq_ok.mpr ⟨?_, emitRows_none⟩
    exact filtersRun_of_isSome (fun f hf => filterPredicate_integer hflat (hfilters f hf)) _
  have hsafe : SkippingSafe C file filters := by
    refine ⟨fun f hf => ?_, fun located _ _ f hf => not_hazardousRow_integer (hfilters f hf) located⟩
    obtain ⟨i, field, v, hi, hfield, ht, -⟩ := hfilters f hf
    exact rowGroupBounds_basic hi hfield (isBasic_of_isInteger ht)
  obtain ⟨groups, hgroups, hread⟩ := (readRowGroups_surviving_iff hstat hfull).mpr hsafe
  refine ⟨_, readParquet_eq_ok.mpr ⟨file, hopen, groups, hgroups, hread⟩, rfl, ?_⟩
  simp only [RecordBatch.ofRows, ParquetFile.slotRows]
  have hpasses : ∀ row : Row file.schema, filters.all (passes C · row) =
      filters.all (integerMatch file.schema · row.slots) := by
    intro row
    rw [Bool.eq_iff_iff, List.all_eq_true, List.all_eq_true]
    apply forall₂_congr
    intro f hf
    rw [passes_integer hflat (hfilters f hf) row]
  simp only [hpasses]
  rw [List.filter_map, List.filter_map, List.map_map]
  rfl

end

/-! ## An eight-bit column -/

def byteField : Field := ⟨"b", .int8, true, false, []⟩

def byteFile : ParquetFile where
  schema := [byteField]
  rowGroups :=
    [columnGroup byteField [some (.int 5), none] ⟨some (.int 5), some (.int 5)⟩
      (by decide) (by decide),
    columnGroup byteField [some (.int 100)] ⟨none, none⟩ (by decide) (by decide)]

def byteFilters : List FilterExpr := [⟨"b", .lt, .int64 300⟩, ⟨"b", .ge, .int64 5⟩]

theorem byteFile_bound : StatisticsBound byteFile := by
  unfold StatisticsBound
  decide

theorem readParquet_integers_byteFile :
    ∃ batch, readParquet referenceCrates (oneFile byteFile) () none byteFilters = .ok batch ∧
      batch.schema = [byteField] ∧ batch.rows = [[some (.int 5)], [some (.int 100)]] := by
  have hflat : FlatSchema byteFile.schema := ⟨by decide, by decide, by decide⟩
  have hfilters : ∀ filter ∈ byteFilters, IntegerFilter byteFile.schema filter := by
    intro filter hfilter
    simp only [byteFilters, List.mem_cons, List.not_mem_nil, or_false] at hfilter
    rcases hfilter with rfl | rfl
    · exact ⟨0, byteField, 300, rfl, rfl, rfl, rfl⟩
    · exact ⟨0, byteField, 5, rfl, rfl, rfl, rfl⟩
  obtain ⟨batch, hread, hschema, hrows⟩ :=
    readParquet_integers referenceCrates (oneFile byteFile) () rfl byteFile_bound hflat hfilters
  refine ⟨batch, hread, hschema, ?_⟩
  rw [hrows]
  decide +kernel

end Pydart
