import Mathlib.Data.String.Basic
import Pydart.Parquet.Dictionary
import Pydart.Parquet.Names

/-! # Typed filters

A literal suits a column type when the comparison the program runs is the one the
operator denotes. Reads with suitable literals never fail and return what the
filters denote: integers, booleans and text, plain or in a dictionary.
-/

namespace Pydart

/-! ## What a filter denotes -/

def ScalarValue.compares (op : Op) : ScalarValue → Value → Bool
  | .int64 v, .int n => decide (op.Holds n v.toInt)
  | .bool b, .boolean x => decide (op.Holds x b)
  | .utf8 text, .utf8 x => decide (op.Holds x text)
  | _, _ => false

/-- The filter on a row of slots; nulls never match. -/
def FilterExpr.holds (schema : Schema) (filter : FilterExpr) (slots : List Slot) : Bool :=
  match indexOf schema filter.column with
  | .ok i => (slots.getD i none).any (filter.value.compares filter.op)
  | .error _ => false

/-! ## Suitable literals -/

/-- The kernels take text into columns of the type and compare it as strings. -/
structure ArrowKernels.ComparesText (K : ArrowKernels) (t : DataType) : Prop where
  text : t = .utf8 ∨ t = .largeUtf8
  cast : Converts K.cast .utf8 t some
  order : ∀ a b, K.order t (.utf8 a) (.utf8 b) = Ord.compare a b

theorem ArrowKernels.comparesText_utf8 {K : ArrowKernels}
    (horder : ∀ a b, K.order .utf8 (.utf8 a) (.utf8 b) = Ord.compare a b) :
    K.ComparesText .utf8 where
  text := Or.inl rfl
  cast array harray := ⟨array, harray ▸ K.cast_same array, by simp⟩
  order := horder

/-- Column types with the literals that are compared as they denote. -/
inductive Suits (K : ArrowKernels) : DataType → ScalarValue → Prop where
  | integer {t : DataType} {v : Int64} (ht : t.isInteger = true) : Suits K t (.int64 v)
  | boolean {b : Bool} : Suits K .boolean (.bool b)
  | text {t : DataType} {s : String} (ht : K.ComparesText t) : Suits K t (.utf8 s)
  | dictionaryInteger {key t : DataType} {v : Int64} (hkey : key.isInteger = true)
      (hfits : t.fits v.toInt = true) : Suits K (.dictionary key t) (.int64 v)
  | dictionaryText {key t : DataType} {s : String} (hkey : key.isInteger = true)
      (ht : K.ComparesText t) : Suits K (.dictionary key t) (.utf8 s)

/-- The filter names a column without dots whose type its literal suits. -/
def FilterExpr.Typed (K : ArrowKernels) (schema : Schema) (filter : FilterExpr) : Prop :=
  dotless filter.column = true ∧ ∃ i field, indexOf schema filter.column = .ok i ∧
    schema[i]? = some field ∧ Suits K field.dataType filter.value

section

variable {K : ArrowKernels}

theorem ArrowKernels.ComparesText.storage {t : DataType} (h : K.ComparesText t) :
    t.storage = t ∧ t.isBasic = true ∧ t.isInteger = false := by
  rcases h.text with rfl | rfl
  · exact ⟨rfl, rfl, rfl⟩
  · exact ⟨rfl, rfl, rfl⟩

theorem Suits.storage_isBasic {t : DataType} {value : ScalarValue} (h : Suits K t value) :
    t.storage.isBasic = true := by
  cases h with
  | integer ht => exact isBasic_of_isInteger ht
  | boolean => rfl
  | text ht => rw [ht.storage.1, ht.storage.2.1]
  | dictionaryInteger _ hfits =>
      rw [DataType.storage]
      exact isBasic_of_isInteger (DataType.isInteger_of_fits hfits)
  | dictionaryText _ ht => rw [DataType.storage, ht.storage.1, ht.storage.2.1]

theorem literalSlot_utf8 {t : DataType} (ht : K.ComparesText t) (s : String) :
    LiteralSlot K t (.utf8 s) (some (.utf8 s)) :=
  literalSlot_of_converts (.utf8 s) some rfl ht.cast

theorem hasStorage_text_iff {t : DataType} {v : Value} (ht : t = .utf8 ∨ t = .largeUtf8) :
    v.hasStorage t = true ↔ ∃ s, v = .utf8 s := by
  rcases ht with rfl | rfl <;>
    cases v <;> simp [Value.hasStorage, DataType.fits, DataType.integerKind]

theorem compares_int64 {op : Op} {v : Int64} {n : Int} :
    ScalarValue.compares op (.int64 v) (.int n) = true ↔ op.Holds n v.toInt :=
  decide_eq_true_iff

/-- Where the cast literal is the literal itself, the verdict is the comparison. -/
theorem rowPredicate_of_faithful {t : DataType} (op : Op) {value : ScalarValue} {l : Value}
    (hl : LiteralSlot K t value (some l)) (hbasic : t.storage.isBasic = true)
    (hguard : outOfRangeMatch t op value = none)
    (horder : ∀ x : Value, x.hasType t = true →
      (op.test (K.order t.storage x l) = true ↔ value.compares op x = true)) :
    ∃ verdict, rowPredicate K t op value = some verdict ∧ ∀ x : Value, x.hasType t = true →
      (verdict (some x) = some true ↔ value.compares op x = true) := by
  obtain ⟨verdict, hverdict, htest⟩ :=
    rowPredicate_of_literal op hl (K.comparable_basic hbasic) hguard
  exact ⟨verdict, hverdict, fun x hx => (htest x).trans (horder x hx)⟩

/-- On a suitable literal the row predicate runs and is what the operator denotes. -/
theorem Suits.rowPredicate {t : DataType} {value : ScalarValue} (h : Suits K t value) (op : Op) :
    ∃ verdict, rowPredicate K t op value = some verdict ∧ ∀ x : Value, x.hasType t = true →
      (verdict (some x) = some true ↔ value.compares op x = true) := by
  have hbasic := h.storage_isBasic
  cases h with
  | integer ht =>
      rename_i v
      obtain ⟨verdict, hverdict⟩ := Option.isSome_iff_exists.mp
        (rowPredicate_isSome_of_literal (K := K) op (literalSlot_int64_integer ht v)
          (K.comparable_basic hbasic))
      refine ⟨verdict, hverdict, fun x hx => ?_⟩
      rw [Value.hasType, DataType.storage_of_isInteger ht] at hx
      obtain ⟨n, rfl, hn⟩ := (Value.hasStorage_int_iff ht).mp hx
      exact (rowPredicate_int64_iff ht hverdict hn).trans compares_int64.symm
  | boolean =>
      refine rowPredicate_of_faithful op (literalSlot_bool_boolean _) hbasic rfl fun x hx => ?_
      obtain ⟨b, rfl⟩ := Value.hasStorage_boolean_iff.mp hx
      exact (iff_of_eq (congrArg (fun o => op.test o = true) (K.order_boolean b _))).trans
        (Op.test_compare.trans decide_eq_true_iff.symm)
  | text ht =>
      have hguard := outOfRangeMatch_not_integer ht.storage.2.2 op
      refine rowPredicate_of_faithful op (literalSlot_utf8 ht _) hbasic (hguard _) fun x hx => ?_
      rw [Value.hasType, ht.storage.1] at hx
      obtain ⟨s, rfl⟩ := (hasStorage_text_iff ht.text).mp hx
      rw [ht.storage.1, ht.order]
      exact Op.test_compare.trans decide_eq_true_iff.symm
  | dictionaryInteger hkey hfits =>
      rename_i key t v
      have ht := DataType.isInteger_of_fits hfits
      have hstorage := DataType.storage_of_isInteger ht
      have hl : LiteralSlot K t (.int64 v) (some (.int v.toInt)) := by
        have hslot : LiteralSlot K t (.int64 v) _ := literalSlot_int64_integer ht v
        rwa [if_pos hfits] at hslot
      have hvalue : t.isBasic = true := hstorage ▸ isBasic_of_isInteger ht
      have hne : t ≠ .boolean := by
        rintro rfl
        cases ht
      refine rowPredicate_of_faithful op ((literalSlot_dictionary_iff hkey hvalue hne).mpr hl) hbasic
        (outOfRangeMatch_not_integer rfl op _) fun x hx => ?_
      rw [Value.hasType, DataType.storage, hstorage] at hx
      obtain ⟨n, rfl, -⟩ := (Value.hasStorage_int_iff ht).mp hx
      rw [DataType.storage, hstorage, K.order_int ht, Op.test_compare]
      exact compares_int64.symm
  | dictionaryText hkey ht =>
      rename_i key t s
      have hne : t ≠ .boolean := by
        rintro rfl
        rcases ht.text with h | h <;> cases h
      have hl := (literalSlot_dictionary_iff hkey ht.storage.2.1 hne).mpr (literalSlot_utf8 ht s)
      refine rowPredicate_of_faithful op hl hbasic
        (outOfRangeMatch_not_integer rfl op _) fun x hx => ?_
      rw [Value.hasType, DataType.storage, ht.storage.1] at hx
      obtain ⟨x, rfl⟩ := (hasStorage_text_iff ht.text).mp hx
      rw [DataType.storage, ht.storage.1, ht.order]
      exact Op.test_compare.trans decide_eq_true_iff.symm

end

/-! ## Filtered files -/

section

variable {C : Crates} {schema : Schema} {filter : FilterExpr}

theorem FilterExpr.Typed.filterPredicate (h : filter.Typed C.toArrowKernels schema) :
    (Pydart.filterPredicate C schema filter).isSome = true := by
  obtain ⟨hdot, i, field, hi, hf, hsuits⟩ := h
  obtain ⟨verdict, hverdict, -⟩ := hsuits.rowPredicate filter.op
  rw [filterPredicate_eq_some.mpr ⟨hdot, i, field, verdict, hi, hf, hverdict, rfl⟩]
  rfl

theorem FilterExpr.Typed.passes (h : filter.Typed C.toArrowKernels schema) (row : Row schema) :
    Pydart.passes C filter row = filter.holds schema row.slots := by
  obtain ⟨hdot, i, field, hi, hf, hsuits⟩ := h
  obtain ⟨verdict, hverdict, hdenotes⟩ := hsuits.rowPredicate filter.op
  have hslot : row.slots.getD i none = row.slot i := rfl
  simp only [FilterExpr.holds, hi, hslot]
  cases hx : row.slot i with
  | none =>
      rw [Option.any_none, ← Bool.not_eq_true]
      exact not_passes_of_null hi hx
  | some x =>
      rw [Option.any_some, Bool.eq_iff_iff, passes_iff hdot hi hf hverdict hx]
      exact hdenotes x (row.slot_hasType hf hx)

variable {file : ParquetFile}

theorem FilterExpr.Typed.bounds (h : filter.Typed C.toArrowKernels file.schema) :
    ∃ bounds, rowGroupBounds C file filter = .ok bounds := by
  obtain ⟨-, i, field, hi, hf, hsuits⟩ := h
  exact rowGroupBounds_basic hi hf hsuits.storage_isBasic

/-- Rounding is the only hazard, and suitable literals are compared without it. -/
theorem FilterExpr.Typed.not_hazardous (h : filter.Typed C.toArrowKernels file.schema)
    (located : LocatedRow file.schema) : ¬ HazardousRow C file filter located := by
  obtain ⟨-, i, field, hi, hf, hsuits⟩ := h
  rintro ⟨i', x, mins, maxes, lo, hi', hindex, hx, -, -, -, hhazard⟩
  cases hi.symm.trans hindex
  have hxtype := located.row.slot_hasType hf hx
  rw [Value.hasType] at hxtype
  generalize filter.value = value at hsuits hhazard
  generalize field.dataType = t at hsuits hxtype
  cases hsuits with
  | integer ht =>
      rw [DataType.storage_of_isInteger ht] at hxtype
      obtain ⟨n, rfl, -⟩ := (Value.hasStorage_int_iff ht).mp hxtype
      exact hhazard
  | dictionaryInteger _ hfits =>
      have ht := DataType.isInteger_of_fits hfits
      rw [DataType.storage, DataType.storage_of_isInteger ht] at hxtype
      obtain ⟨n, rfl, -⟩ := (Value.hasStorage_int_iff ht).mp hxtype
      exact hhazard
  | boolean => exact hhazard
  | text => exact hhazard
  | dictionaryText => exact hhazard

variable {Path : Type} {disk : Disk Path} {path : Path}

/-- Typed filters return the rows that all of them hold of, in file order. -/
theorem readParquet_typed (hopen : disk.openFile path = .ok file) (hstat : StatisticsBound file)
    {filters : List FilterExpr}
    (htyped : ∀ filter ∈ filters, filter.Typed C.toArrowKernels file.schema) :
    readParquet C disk path none filters = .ok (RecordBatch.ofRows
      ((file.allRows.map (·.row)).filter fun row =>
        filters.all (·.holds file.schema row.slots))) := by
  have hpasses : ∀ row : Row file.schema, filters.all (Pydart.passes C · row) =
      filters.all (·.holds file.schema row.slots) := by
    intro row
    rw [Bool.eq_iff_iff, List.all_eq_true, List.all_eq_true]
    exact forall₂_congr fun filter hfilter => by rw [(htyped filter hfilter).passes row]
  have hfull : readRowGroups C file (List.range file.numRowGroups) none filters =
      .ok (RecordBatch.ofRows ((file.allRows.map (·.row)).filter
        (fun row => filters.all (Pydart.passes C · row)))) := by
    refine readRowGroups_eq_ok.mpr ⟨?_, emitRows_none⟩
    exact filtersRun_of_isSome (fun filter hfilter => (htyped filter hfilter).filterPredicate) _
  have hsafe : SkippingSafe C file filters :=
    ⟨fun filter hfilter => (htyped filter hfilter).bounds,
      fun located _ _ filter hfilter => (htyped filter hfilter).not_hazardous located⟩
  obtain ⟨groups, hgroups, hread⟩ := (readRowGroups_surviving_iff hstat hfull).mpr hsafe
  rw [readParquet_eq_ok.mpr ⟨file, hopen, groups, hgroups, hread⟩]
  simp only [hpasses]

end
end Pydart
