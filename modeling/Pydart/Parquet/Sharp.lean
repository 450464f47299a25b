import Pydart.Parquet.Conjunction
import Pydart.Parquet.Query
import Pydart.Parquet.Ranges

/-! # How much a filtered read decodes

Where the statistics of the columns are values of their group, the surviving groups
are those that each filter finds a row in. Smaller row groups never decode more.
-/

namespace Pydart

/-! ## The parts of an operator -/

namespace Op

/-- A range of values is looked into from either side for equality. -/
def parts : Op → List Op
  | eq => [le, ge]
  | op => [op]

theorem parts_of_ne {op : Op} (hne : op ≠ eq) : op.parts = [op] := by
  cases op <;> first | rfl | exact absurd rfl hne

/-- Bounds that are values themselves meet an operator when each part holds of a value. -/
theorem meets_iff_parts {α : Type} [LinearOrder α] {op : Op} {v lo hi : α} {p : α → Prop}
    (hlo : p lo) (hhi : p hi) (hbound : ∀ x, p x → lo ≤ x ∧ x ≤ hi) :
    op.Meets v lo hi ↔ ∀ part ∈ op.parts, ∃ x, p x ∧ part.Holds x v := by
  by_cases hop : op = eq
  · subst hop
    simp only [parts, List.mem_cons, List.not_mem_nil, or_false, forall_eq_or_imp, forall_eq]
    constructor
    · rintro ⟨hle, hge⟩
      exact ⟨⟨lo, hlo, hle⟩, ⟨hi, hhi, hge⟩⟩
    · rintro ⟨⟨x, hx, hxv⟩, ⟨y, hy, hvy⟩⟩
      exact ⟨le_trans (hbound x hx).1 hxv, le_trans hvy (hbound y hy).2⟩
  · rw [parts_of_ne hop, List.forall_mem_singleton]
    constructor
    · intro hmeets
      rcases bound_holds_of_meets hop hmeets with hholds | hholds
      · exact ⟨lo, hlo, hholds⟩
      · exact ⟨hi, hhi, hholds⟩
    · rintro ⟨x, hx, hholds⟩
      exact meets_of_holds (hbound x hx).1 (hbound x hx).2 hholds

end Op

def FilterExpr.parts (filter : FilterExpr) : List FilterExpr :=
  filter.op.parts.map fun op => { filter with op := op }

section

variable {schema : Schema}

/-- Each filter finds a row of the group for each of its parts. -/
def RowGroup.needed (filters : List FilterExpr) (rowGroup : RowGroup schema) : Bool :=
  filters.all fun filter => filter.parts.all fun part =>
    rowGroup.rows.any fun row => part.holds schema row.slots

/-- The statistics of the column are trusted, and values of the group. -/
def RowGroup.Sharp (rowGroup : RowGroup schema) (t : DataType) (i : Nat) : Prop :=
  ∃ min max lo hi, rowGroup.columnStatistics i = ⟨some min, some max⟩ ∧
    trustedValue t.storage min = some lo ∧ trustedValue t.storage max = some hi ∧
    (∃ row ∈ rowGroup.rows, row.slot i = some min) ∧
    ∃ row ∈ rowGroup.rows, row.slot i = some max

/-- Every group has sharp statistics of the column of the filter. -/
def FilterExpr.Sharp (file : ParquetFile) (filter : FilterExpr) : Prop :=
  ∀ i field, indexOf file.schema filter.column = .ok i → file.schema[i]? = some field →
    ∀ rowGroup ∈ file.rowGroups, rowGroup.Sharp field.dataType i

end

/-! ## One group -/

section

variable {C : Crates} {file : ParquetFile} {filter : FilterExpr}

theorem scalarFromArray_bounds {i g : Nat} {field : Field} {mins maxes : ArrowArray}
    {rowGroup : RowGroup file.schema} {min max : Value} {lo hi : ScalarValue}
    (hi' : indexOf file.schema filter.column = .ok i) (hf : file.schema[i]? = some field)
    (hbounds : rowGroupBounds C file filter = .ok (mins, maxes))
    (hg : file.rowGroups[g]? = some rowGroup)
    (hstatistics : rowGroup.columnStatistics i = ⟨some min, some max⟩)
    (hlo : trustedValue field.dataType.storage min = some lo)
    (hhi : trustedValue field.dataType.storage max = some hi) :
    scalarFromArray mins g = some lo ∧ scalarFromArray maxes g = some hi := by
  unfold rowGroupBounds at hbounds
  rw [C.statisticsConverter_ok hi', Except.bind_eq_ok] at hbounds
  obtain ⟨j, hj, hbounds⟩ := hbounds
  cases hj
  obtain ⟨mins', hmins, hbounds⟩ := Except.bind_eq_ok.mp hbounds
  obtain ⟨maxes', hmaxes, hbounds⟩ := Except.bind_eq_ok.mp hbounds
  cases hbounds
  obtain ⟨hminslots, hmintype⟩ := C.rowGroupMins_ok hmins
  obtain ⟨hmaxslots, hmaxtype⟩ := C.rowGroupMaxes_ok hmaxes
  constructor
  · refine scalarFromArray_eq_some.mpr ⟨min, ?_, (hmintype field hf).symm ▸ hlo⟩
    rw [hminslots, List.getElem?_map, hg, Option.map_some, hstatistics]
  · refine scalarFromArray_eq_some.mpr ⟨max, ?_, (hmaxtype field hf).symm ▸ hhi⟩
    rw [hmaxslots, List.getElem?_map, hg, Option.map_some, hstatistics]

/-- Trusted statistics leave integers and booleans to be compared. -/
theorem Suits.trusted {K : ArrowKernels} {t : DataType} {value scalar : ScalarValue} {x : Value}
    (h : Suits K t value) (hx : x.hasStorage t.storage = true)
    (htrusted : trustedValue t.storage x = some scalar) :
    (t.storage.isInteger = true ∧ (∃ v, value = .int64 v) ∧
        ∃ a : Int64, x = .int a.toInt ∧ scalar = .int64 a) ∨
      (t.storage = .boolean ∧ (∃ v, value = .bool v) ∧ ∃ b, x = .boolean b ∧ scalar = .bool b) := by
  have hcases := trustedValue_cases hx htrusted
  have hinteger : t.storage.isInteger = true →
      ∃ a : Int64, x = .int a.toInt ∧ scalar = .int64 a := by
    intro ht
    rcases hcases with ⟨-, n, a, rfl, rfl, rfl⟩ | ⟨h, -⟩ | ⟨h, -⟩ | ⟨h, -⟩
    · exact ⟨a, rfl, rfl⟩
    all_goals
      rw [h] at ht
      cases ht
  have htext : ∀ {t' : DataType}, K.ComparesText t' → t.storage = t' → False := by
    intro t' ht hstorage
    rw [hstorage] at htrusted
    rcases ht.text with rfl | rfl <;> cases x <;> cases htrusted
  cases h with
  | integer ht =>
      have hstorage : t.storage.isInteger = true := by
        rw [DataType.storage_of_isInteger ht]
        exact ht
      exact Or.inl ⟨hstorage, ⟨_, rfl⟩, hinteger hstorage⟩
  | dictionaryInteger _ hfits =>
      rename_i key t v _
      have ht := DataType.isInteger_of_fits hfits
      have hstorage : DataType.isInteger (DataType.storage (.dictionary key t)) = true := by
        rw [DataType.storage, DataType.storage_of_isInteger ht]
        exact ht
      exact Or.inl ⟨hstorage, ⟨_, rfl⟩, hinteger hstorage⟩
  | boolean =>
      rcases hcases with ⟨h, -⟩ | ⟨h, -⟩ | ⟨h, -⟩ | ⟨h, b, rfl, rfl⟩
      · cases h
      · cases h
      · cases h
      · exact Or.inr ⟨h, ⟨_, rfl⟩, b, rfl, rfl⟩
  | text ht => exact (htext ht ht.storage.1).elim
  | dictionaryText _ ht => exact (htext ht ht.storage.1).elim

/-- The parts of a filter find their rows where its operator meets the range of the group. -/
theorem parts_find_iff {α : Type} [LinearOrder α] {make : α → Value} {i : Nat}
    {rowGroup : RowGroup file.schema} {v a b : α}
    (hi' : indexOf file.schema filter.column = .ok i)
    (hcompares : ∀ op x, filter.value.compares op (make x) = true ↔ op.Holds x v)
    (hmake : ∀ row ∈ rowGroup.rows, ∀ x, row.slot i = some x →
      ∃ y, x = make y ∧ a ≤ y ∧ y ≤ b)
    (hinj : ∀ {x y}, make x = make y → x = y)
    (ha : ∃ row ∈ rowGroup.rows, row.slot i = some (make a))
    (hb : ∃ row ∈ rowGroup.rows, row.slot i = some (make b)) :
    filter.op.Meets v a b ↔ filter.parts.all (fun part =>
      rowGroup.rows.any fun row => part.holds file.schema row.slots) = true := by
  have hbound : ∀ x, (∃ row ∈ rowGroup.rows, row.slot i = some (make x)) → a ≤ x ∧ x ≤ b := by
    rintro x ⟨row, hrow, hx⟩
    obtain ⟨y, heq, hle⟩ := hmake row hrow _ hx
    cases hinj heq
    exact hle
  refine (Op.meets_iff_parts (p := fun x => ∃ row ∈ rowGroup.rows, row.slot i = some (make x))
    ha hb hbound).trans ?_
  rw [FilterExpr.parts, List.all_map, List.all_eq_true]
  refine forall₂_congr fun op _ => ?_
  have hholds : ∀ row : Row file.schema, FilterExpr.holds file.schema { filter with op := op }
      row.slots = (row.slot i).any (filter.value.compares op) := by
    intro row
    simp only [FilterExpr.holds, hi']
    rfl
  simp only [Function.comp_apply, List.any_eq_true, hholds, Option.any_eq_true]
  constructor
  · rintro ⟨x, ⟨row, hrow, hx⟩, hop⟩
    exact ⟨row, hrow, make x, hx, (hcompares op x).mpr hop⟩
  · rintro ⟨row, hrow, x, hx, hop⟩
    obtain ⟨y, rfl, -⟩ := hmake row hrow x hx
    exact ⟨y, ⟨row, hrow, hx⟩, (hcompares op y).mp hop⟩

theorem keepsRowGroup_sharp (hstat : StatisticsBound file)
    (htyped : filter.Typed C.toArrowKernels file.schema) (hsharp : filter.Sharp file) {g : Nat}
    {rowGroup : RowGroup file.schema} (hg : file.rowGroups[g]? = some rowGroup) :
    keepsRowGroup C file filter g = filter.parts.all fun part =>
      rowGroup.rows.any fun row => part.holds file.schema row.slots := by
  obtain ⟨⟨mins, maxes⟩, hbounds⟩ := htyped.bounds
  obtain ⟨-, i, field, hi, hf, hsuits⟩ := htyped
  have hmem := List.mem_of_getElem? hg
  obtain ⟨min, max, lo, hi', hstatistics, hlo, hhi, hmin, hmax⟩ := hsharp i field hi hf rowGroup hmem
  obtain ⟨hminimum, hmaximum⟩ := scalarFromArray_bounds hi hf hbounds hg hstatistics hlo hhi
  have hbelow : ∀ row ∈ rowGroup.rows, ∀ x, row.slot i = some x → x.isNaN = false →
      min.Below x ∧ x.Below max := by
    intro row hrow x hx hnan
    have hle := hstat rowGroup hmem row hrow i (List.getElem?_eq_some_iff.mp hf).1 x hx hnan
    rw [hstatistics] at hle
    exact ⟨hle.1 min rfl, hle.2 max rfl⟩
  have htype : ∀ row : Row file.schema, ∀ x, row.slot i = some x →
      x.hasStorage field.dataType.storage = true := fun row x hx => row.slot_hasType hf hx
  have htrustedMin := hsuits.trusted (hmin.elim fun row hrow => htype row min hrow.2) hlo
  have htrustedMax := hsuits.trusted (hmax.elim fun row hrow => htype row max hrow.2) hhi
  rw [Bool.eq_iff_iff, keepsRowGroup, hbounds]
  simp only [hminimum, hmaximum]
  rcases htrustedMin with ⟨ht, ⟨v, hv⟩, a, rfl, rfl⟩ | ⟨ht, ⟨v, hv⟩, a, rfl, rfl⟩
  · rcases htrustedMax with ⟨-, -, b, rfl, rfl⟩ | ⟨hb, -⟩
    · rw [hv, couldMatchRange_of_compare (v := v.toInt) (l := a.toInt) (h := b.toInt) rfl rfl rfl]
      refine parts_find_iff hi (fun op x => ?_) (fun row hrow x hx => ?_) Value.int.inj hmin hmax
      · rw [hv]
        exact compares_int64
      · obtain ⟨n, rfl, -⟩ := (Value.hasStorage_int_iff ht).mp (htype row x hx)
        exact ⟨n, rfl, hbelow row hrow _ hx rfl⟩
    · rw [hb] at ht
      cases ht
  · rcases htrustedMax with ⟨hb, -⟩ | ⟨-, -, b, rfl, rfl⟩
    · rw [ht] at hb
      cases hb
    · rw [hv, couldMatchRange_of_compare (v := v) (l := a) (h := b) rfl rfl rfl]
      refine parts_find_iff hi (fun op x => ?_) (fun row hrow x hx => ?_) Value.boolean.inj hmin hmax
      · rw [hv]
        exact decide_eq_true_iff
      · obtain ⟨n, rfl⟩ := Value.hasStorage_boolean_iff.mp (ht ▸ htype row x hx)
        exact ⟨n, rfl, hbelow row hrow _ hx rfl⟩

/-! ## The surviving groups -/

variable {filters : List FilterExpr}

theorem surviving_needed (hstat : StatisticsBound file)
    (htyped : ∀ filter ∈ filters, filter.Typed C.toArrowKernels file.schema)
    (hsharp : ∀ filter ∈ filters, filter.Sharp file) :
    survivingRowGroups C file filters =
      .ok ((List.range file.rowGroups.length).filter fun g =>
        (file.rowGroups[g]?).any (RowGroup.needed filters)) := by
  refine survivingRowGroups_eq_ok.mpr ⟨fun filter hfilter => (htyped filter hfilter).bounds, ?_⟩
  refine List.filter_congr fun g hg => ?_
  have hget := List.getElem?_eq_getElem (List.mem_range.mp hg)
  rw [hget, Option.any_some, RowGroup.needed, Bool.eq_iff_iff, List.all_eq_true, List.all_eq_true]
  exact forall₂_congr fun filter hfilter => by
    rw [keepsRowGroup_sharp hstat (htyped filter hfilter) (hsharp filter hfilter) hget]

/-- The rows decoded are those of the groups that are needed. -/
theorem decoded_needed (hstat : StatisticsBound file)
    (htyped : ∀ filter ∈ filters, filter.Typed C.toArrowKernels file.schema)
    (hsharp : ∀ filter ∈ filters, filter.Sharp file) {groups : List Nat}
    (hgroups : survivingRowGroups C file filters = .ok groups) :
    (file.locatedRows groups).map (·.row.slots) =
      (file.rowGroups.filter (RowGroup.needed filters)).flatMap fun rowGroup =>
        rowGroup.rows.map Row.slots := by
  cases hgroups.symm.trans (surviving_needed hstat htyped hsharp)
  rw [locatedRows_slots, pick_filter]

/-- The groups left are those in which every part of every filter holds of a row. -/
theorem survivingRowGroups_sharp (hstat : StatisticsBound file)
    (htyped : ∀ filter ∈ filters, filter.Typed C.toArrowKernels file.schema)
    (hsharp : ∀ filter ∈ filters, filter.Sharp file) :
    ∃ groups, survivingRowGroups C file filters = .ok groups ∧
      ∀ g, g ∈ groups ↔ ∃ rowGroup, file.rowGroups[g]? = some rowGroup ∧
        ∀ filter ∈ filters, ∀ part ∈ filter.parts,
          ∃ row ∈ rowGroup.rows, part.holds file.schema row.slots = true := by
  refine ⟨_, surviving_needed hstat htyped hsharp, fun g => ?_⟩
  rw [List.mem_filter, List.mem_range, Option.any_eq_true]
  simp only [RowGroup.needed, List.all_eq_true, List.any_eq_true]
  constructor
  · rintro ⟨-, hneeded⟩
    exact hneeded
  · rintro ⟨rowGroup, hget, hneeded⟩
    exact ⟨(List.getElem?_eq_some_iff.mp hget).1, rowGroup, hget, hneeded⟩

end

/-! ## Smaller row groups -/

section

variable {C : Crates} {schema : Schema} {filters : List FilterExpr}
  {coarse : List (RowGroup schema)} {blocks : List (List (RowGroup schema))}

theorem needed_of_block {rowGroup small : RowGroup schema} {block : List (RowGroup schema)}
    (hcut : rowGroup.rows = block.flatMap (·.rows)) (hmem : small ∈ block)
    (hneeded : small.needed filters = true) : rowGroup.needed filters = true := by
  simp only [RowGroup.needed, List.all_eq_true, List.any_eq_true] at hneeded ⊢
  intro filter hfilter part hpart
  obtain ⟨row, hrow, hholds⟩ := hneeded filter hfilter part hpart
  exact ⟨row, hcut ▸ List.mem_flatMap.mpr ⟨small, hmem, hrow⟩, hholds⟩

theorem needed_rows_sublist
    (hcut : List.Forall₂ (fun rowGroup block => rowGroup.rows = block.flatMap (·.rows))
      coarse blocks) :
    ((blocks.flatten.filter (RowGroup.needed filters)).flatMap (·.rows)).Sublist
      ((coarse.filter (RowGroup.needed filters)).flatMap (·.rows)) := by
  induction hcut with
  | nil => exact List.Sublist.refl _
  | cons hhead htail ih =>
      rename_i rowGroup block coarse blocks
      rw [List.flatten_cons, List.filter_append, List.flatMap_append, List.filter_cons]
      by_cases hneeded : rowGroup.needed filters = true
      · rw [if_pos hneeded, List.flatMap_cons, hhead]
        exact (List.filter_sublist.flatMap _).append ih
      · have hnone : block.filter (RowGroup.needed filters) = [] :=
          List.filter_eq_nil_iff.mpr fun small hmem hsmall =>
            hneeded (needed_of_block hhead hmem hsmall)
        rw [if_neg hneeded, hnone]
        exact ih

theorem contents_cut
    (hcut : List.Forall₂ (fun rowGroup block => rowGroup.rows = block.flatMap (·.rows))
      coarse blocks) :
    ParquetFile.contents ⟨schema, blocks.flatten⟩ = ParquetFile.contents ⟨schema, coarse⟩ := by
  refine RecordBatch.ext_rows rfl ?_
  rw [contents_rows, contents_rows]
  induction hcut with
  | nil => rfl
  | cons hhead htail ih =>
      rw [List.flatten_cons, List.flatMap_append, List.flatMap_cons, hhead, List.map_flatMap]
      exact congrArg _ ih

/-- Where the statistics are values of their groups, the rows decoded after a cut are
some of those decoded before. -/
theorem decoded_finer
    (hcut : List.Forall₂ (fun rowGroup block => rowGroup.rows = block.flatMap (·.rows))
      coarse blocks)
    (hcoarse : StatisticsBound ⟨schema, coarse⟩) (hfine : StatisticsBound ⟨schema, blocks.flatten⟩)
    (htyped : ∀ filter ∈ filters, filter.Typed C.toArrowKernels schema)
    (hcoarseSharp : ∀ filter ∈ filters, filter.Sharp ⟨schema, coarse⟩)
    (hfineSharp : ∀ filter ∈ filters, filter.Sharp ⟨schema, blocks.flatten⟩) :
    ∃ groups groups', survivingRowGroups C ⟨schema, coarse⟩ filters = .ok groups ∧
      survivingRowGroups C ⟨schema, blocks.flatten⟩ filters = .ok groups' ∧
      ((ParquetFile.locatedRows ⟨schema, blocks.flatten⟩ groups').map (·.row.slots)).Sublist
        ((ParquetFile.locatedRows ⟨schema, coarse⟩ groups).map (·.row.slots)) := by
  have hgroups := surviving_needed hcoarse htyped hcoarseSharp
  have hgroups' := surviving_needed hfine htyped hfineSharp
  refine ⟨_, _, hgroups, hgroups', ?_⟩
  rw [decoded_needed hcoarse htyped hcoarseSharp hgroups,
    decoded_needed hfine htyped hfineSharp hgroups', ← List.map_flatMap, ← List.map_flatMap]
  exact (needed_rows_sublist hcut).map Row.slots

/-- Cutting row groups into smaller ones leaves the answer of a typed query. Under sharp
statistics its read decodes no row that it did not decode before. -/
theorem readParquet_finer
    (hcut : List.Forall₂ (fun rowGroup block => rowGroup.rows = block.flatMap (·.rows))
      coarse blocks)
    (hcoarse : StatisticsBound ⟨schema, coarse⟩) (hfine : StatisticsBound ⟨schema, blocks.flatten⟩)
    (hflat : FlatNames schema) {query : Query} (htyped : query.Typed C.toArrowKernels schema)
    {Path : Type} {disk : Disk Path} {path path' : Path}
    (hopen : disk.openFile path = .ok ⟨schema, coarse⟩)
    (hopen' : disk.openFile path' = .ok ⟨schema, blocks.flatten⟩) :
    readParquet C disk path' query.columns query.filters =
        readParquet C disk path query.columns query.filters ∧
      ((∀ filter ∈ query.filters,
          filter.Sharp ⟨schema, coarse⟩ ∧ filter.Sharp ⟨schema, blocks.flatten⟩) →
        ∃ groups groups', survivingRowGroups C ⟨schema, coarse⟩ query.filters = .ok groups ∧
          survivingRowGroups C ⟨schema, blocks.flatten⟩ query.filters = .ok groups' ∧
          ((ParquetFile.locatedRows ⟨schema, blocks.flatten⟩ groups').map (·.row.slots)).Sublist
            ((ParquetFile.locatedRows ⟨schema, coarse⟩ groups).map (·.row.slots))) := by
  constructor
  · rw [readParquet_query hopen hcoarse hflat htyped, readParquet_query hopen' hfine hflat htyped,
      contents_cut hcut]
  · intro hsharp
    exact decoded_finer hcut hcoarse hfine htyped.filters (fun filter hmem => (hsharp filter hmem).1)
      fun filter hmem => (hsharp filter hmem).2

end

/-! ## Four counts in one group and in two -/

def joinedGroup : RowGroup [pairField] :=
  columnGroup pairField [some (.int 1), some (.int 2), some (.int 3), none]
    ⟨some (.int 1), some (.int 3)⟩ (by decide) (by decide)

def joinedFile : ParquetFile := ⟨[pairField], [joinedGroup]⟩

def aboveTwo : FilterExpr := ⟨"n", .gt, .int64 2⟩

theorem aboveTwo_typed {K : ArrowKernels} : aboveTwo.Typed K [pairField] :=
  ⟨by decide, 0, pairField, rfl, rfl, .integer rfl⟩

theorem sharp_column {field : Field} {rowGroups : List (RowGroup [field])}
    (h : ∀ rowGroup ∈ rowGroups, rowGroup.Sharp field.dataType 0) (filter : FilterExpr) :
    filter.Sharp ⟨[field], rowGroups⟩ := by
  intro i field' _ hf rowGroup hmem
  cases i with
  | zero =>
      cases hf
      exact h rowGroup hmem
  | succ i => cases hf

theorem pairFile_sharp (filter : FilterExpr) : filter.Sharp pairFile :=
  sharp_column (List.forall_mem_cons.mpr
    ⟨⟨_, _, _, _, rfl, rfl, rfl, by decide, by decide⟩,
      List.forall_mem_singleton.mpr ⟨_, _, _, _, rfl, rfl, rfl, by decide, by decide⟩⟩) filter

theorem joinedFile_sharp (filter : FilterExpr) : filter.Sharp joinedFile :=
  sharp_column (List.forall_mem_singleton.mpr
    ⟨_, _, _, _, rfl, rfl, rfl, by decide, by decide⟩) filter

theorem survivingRowGroups_sharp_pair :
    ∃ groups, survivingRowGroups referenceCrates pairFile [aboveTwo] = .ok groups ∧
      0 ∉ groups ∧ 1 ∈ groups := by
  have hstat : StatisticsBound pairFile := by
    unfold StatisticsBound
    decide
  have htyped : ∀ filter ∈ [aboveTwo], filter.Typed referenceCrates.toArrowKernels pairFile.schema :=
    List.forall_mem_singleton.mpr aboveTwo_typed
  obtain ⟨groups, hgroups, hneeded⟩ :=
    survivingRowGroups_sharp hstat htyped fun filter _ => pairFile_sharp filter
  refine ⟨groups, hgroups, ?_, ?_⟩
  · rw [hneeded]
    rintro ⟨rowGroup, hget, hfinds⟩
    cases hget
    revert hfinds
    decide
  · rw [hneeded]
    exact ⟨_, rfl, by decide⟩

def joinedAndParts : Disk Bool where
  openFile := fun joined => .ok (if joined then joinedFile else pairFile)
  display := toString

theorem readParquet_finer_pair :
    readParquet referenceCrates joinedAndParts false none [aboveTwo] =
      readParquet referenceCrates joinedAndParts true none [aboveTwo] ∧
    ∃ groups groups', survivingRowGroups referenceCrates joinedFile [aboveTwo] = .ok groups ∧
      survivingRowGroups referenceCrates pairFile [aboveTwo] = .ok groups' ∧
      (ParquetFile.locatedRows pairFile groups').length ≤
        (ParquetFile.locatedRows joinedFile groups).length := by
  have hcut : List.Forall₂ (fun rowGroup block => rowGroup.rows = block.flatMap (·.rows))
      joinedFile.rowGroups [pairFile.rowGroups] := List.Forall₂.cons (by decide) List.Forall₂.nil
  have hcoarse : StatisticsBound joinedFile := by
    unfold StatisticsBound
    decide
  have hfine : StatisticsBound pairFile := by
    unfold StatisticsBound
    decide
  have htyped : Query.Typed ⟨[aboveTwo], none⟩ referenceCrates.toArrowKernels [pairField] :=
    ⟨List.forall_mem_singleton.mpr aboveTwo_typed, nofun⟩
  have hopen : joinedAndParts.openFile true = .ok joinedFile := rfl
  have hopen' : joinedAndParts.openFile false = .ok pairFile := rfl
  obtain ⟨hread, hdecoded⟩ :=
    readParquet_finer hcut hcoarse hfine ⟨by decide, by decide⟩ htyped hopen hopen'
  obtain ⟨groups, groups', hgroups, hgroups', hsublist⟩ :=
    hdecoded fun filter _ => ⟨joinedFile_sharp filter, pairFile_sharp filter⟩
  refine ⟨hread, groups, groups', hgroups, hgroups', ?_⟩
  have hlength := hsublist.length_le
  rwa [List.length_map, List.length_map] at hlength

end Pydart
