import Pydart.Parquet.Reader

/-! # A concrete reading of the crates

An instance of `Crates` that computes: the conversions between numbers, one batch
for each stage, and nothing beyond the documented behaviour. It shows the laws to
be consistent and lets reads be evaluated on concrete files.
-/

namespace Pydart

open Ieee Ieee.Format

/-! ## Casts -/

def conversion : DataType → DataType → Option (Value → Slot)
  | source, .dictionary _ value =>
      if source = value then some some else conversion source value
  | .int64, .float32 => some integerToFloat32
  | .int64, .float64 => some integerToFloat64
  | .float64, .float32 => some (float64ToFloat32Slot (Binary.convert binary32))
  | .int64, target => if target.isInteger then some (integerToInteger target) else none
  | .float64, target => if target.isInteger then some (float64ToInteger target) else none
  | _, _ => none

theorem hasType_int {target : DataType} {n : Int} (h : target.fits n = true) :
    (Value.int n).hasType target = true := by
  have ht := DataType.isInteger_of_fits h
  rw [Value.hasType, DataType.storage_of_isInteger ht]
  exact (Value.hasStorage_int_iff ht).mpr ⟨n, rfl, h⟩

theorem integerToInteger_hasType {target : DataType} {v w : Value}
    (h : integerToInteger target v = some w) : w.hasType target = true := by
  cases v with
  | int n =>
      rw [integerToInteger] at h
      split at h
      · rename_i hfits
        cases h
        exact hasType_int hfits
      · cases h
  | _ => cases h

theorem float64ToInteger_hasType {target : DataType} {v w : Value}
    (h : float64ToInteger target v = some w) : w.hasType target = true := by
  cases v with
  | float64 x =>
      rw [float64ToInteger] at h
      split at h
      · rename_i hfits
        rw [Bool.and_eq_true] at hfits
        cases h
        exact hasType_int hfits.2
      · cases h
  | _ => cases h

theorem conversion_hasType {source target : DataType} {convert : Value → Slot}
    (hc : conversion source target = some convert) {v w : Value}
    (hv : v.hasType source = true) (hw : convert v = some w) : w.hasType target = true := by
  fun_induction conversion source target with
  | case1 =>
      cases hc
      cases hw
      exact hv
  | case2 _ _ _ _ ih => exact ih hc hv
  | case3 =>
      cases hc
      cases v <;> cases hw
      rfl
  | case4 =>
      cases hc
      cases v <;> cases hw
      rfl
  | case5 =>
      cases hc
      cases v <;> cases hw
      rfl
  | case6 =>
      cases hc
      exact integerToInteger_hasType hw
  | case8 =>
      cases hc
      exact float64ToInteger_hasType hw
  | _ => cases hc

def referenceCast (array : ArrowArray) (target : DataType) : Except ArrowError ArrowArray :=
  if array.dataType = target then .ok array
  else
    match hc : conversion array.dataType target with
    | none => .error (.castError "unsupported cast")
    | some convert => .ok
        { dataType := target
          slots := array.slots.map (·.bind convert)
          typed := by
            intro w hw
            obtain ⟨slot, hslot, hbind⟩ := List.mem_map.mp hw
            obtain ⟨v, rfl, hconvert⟩ := Option.bind_eq_some_iff.mp hbind
            exact conversion_hasType hc (array.typed v hslot) hconvert }

theorem referenceCast_eq_ok {array casted : ArrowArray} {target : DataType} :
    referenceCast array target = .ok casted ↔
      (array.dataType = target ∧ casted = array) ∨
        (array.dataType ≠ target ∧ ∃ convert, conversion array.dataType target = some convert ∧
          casted.dataType = target ∧ casted.slots = array.slots.map (·.bind convert)) := by
  unfold referenceCast
  by_cases heq : array.dataType = target
  · simp only [heq, if_true, ne_eq, not_true_eq_false, false_and, or_false, true_and]
    constructor
    · intro h
      cases h
      rfl
    · intro h
      rw [h]
  · simp only [heq, if_false, ne_eq, not_false_eq_true, false_and, false_or, true_and]
    split
    · simp_all
    · rename_i convert hc
      constructor
      · intro h
        cases h
        exact ⟨convert, hc, rfl, rfl⟩
      · rintro ⟨convert', hc', htype, hslots⟩
        rw [hc] at hc'
        cases hc'
        congr 1
        exact ArrowArray.ext_slots htype.symm hslots.symm

theorem referenceCast_converts {source target : DataType} {convert : Value → Slot}
    (hne : source ≠ target) (hc : conversion source target = some convert) :
    Converts referenceCast source target convert := by
  intro array htype
  subst htype
  unfold referenceCast
  rw [if_neg hne]
  split
  · simp_all
  · rename_i convert' hc'
    rw [hc] at hc'
    cases hc'
    exact ⟨_, rfl, rfl⟩

/-! ## Comparison and concatenation -/

/-- Booleans, numbers and text in their own order; the rest by their text. -/
def referenceOrder : DataType → Value → Value → Ordering
  | _, .boolean a, .boolean b => Ord.compare a b
  | _, .int a, .int b => Ord.compare a b
  | _, .float16 a, .float16 b => a.totalCmp b
  | _, .float32 a, .float32 b => a.totalCmp b
  | _, .float64 a, .float64 b => a.totalCmp b
  | _, .utf8 a, .utf8 b => Ord.compare a b
  | _, .ticks a, .ticks b => Ord.compare a b
  | _, .raw a, .raw b => Ord.compare a b
  | _, _, _ => .eq

def referenceCompare (kernel : Kernel) (column scalar : ArrowArray) :
    Except ArrowError BooleanArray :=
  if column.dataType.isNested then .error (.invalidArgumentError "nested comparison")
  else
    .ok (column.slots.map
      (kernel.slot (referenceOrder column.dataType.storage) · (scalar.slots.getD 0 none)))

theorem RowTyped.sameColumns {a b : Schema} {slots : List Slot} (h : RowTyped a slots)
    (hsame : SameColumns a b) : RowTyped b slots := by
  induction hsame generalizing slots with
  | nil => exact h
  | cons hhead _ ih =>
      cases h with
      | cons hslot hrest =>
          refine List.Forall₂.cons ?_ (ih hrest)
          revert hslot
          rename_i slot _
          cases slot with
          | none =>
              simp only [Field.admits, hhead.2]
              exact id
          | some v =>
              simp only [Field.admits, hhead.1]
              exact id

instance (a b : Schema) : Decidable (SameColumns a b) :=
  inferInstanceAs (Decidable (List.Forall₂ _ a b))

def referenceConcat (schema : Schema) (batches : List RecordBatch) :
    Except ArrowError RecordBatch :=
  if h : ∀ batch ∈ batches, SameColumns batch.schema schema then
    .ok
      { schema := schema
        rows := batches.flatMap (·.rows)
        typed := by
          intro row hrow
          obtain ⟨batch, hbatch, hmem⟩ := List.mem_flatMap.mp hrow
          exact (batch.typed row hmem).sameColumns (h batch hbatch) }
  else .error (.invalidArgumentError "column types do not match")

/-! ## The instance -/

theorem int64_integerToInteger {array : ArrowArray} (htype : array.dataType = .int64) :
    array.slots = array.slots.map (·.bind (integerToInteger .int64)) := by
  have hall : ∀ slot ∈ array.slots, Option.bind slot (integerToInteger .int64) = slot := by
    intro slot hslot
    cases slot with
    | none => rfl
    | some v =>
        have hv := array.typed v hslot
        rw [htype] at hv
        obtain ⟨n, rfl, hfits⟩ := (Value.hasStorage_int_iff (t := .int64) rfl).mp hv
        simp [integerToInteger, hfits]
  have hid : array.slots.map (·.bind (integerToInteger .int64)) = array.slots.map id :=
    List.map_congr_left hall
  rw [hid, List.map_id]

theorem conversion_integer {source target : DataType} (ht : target.isInteger = true)
    (hne : source ≠ target) :
    (source = .int64 → conversion source target = some (integerToInteger target)) ∧
      (source = .float64 → conversion source target = some (float64ToInteger target)) := by
  constructor
  · rintro rfl
    cases target <;> simp_all [DataType.isInteger, DataType.integerKind, conversion]
  · rintro rfl
    cases target <;> simp_all [DataType.isInteger, DataType.integerKind, conversion]

theorem conversion_dictionary {source key value : DataType} :
    conversion source (.dictionary key value) =
      if source = value then some some else conversion source value := by
  rw [conversion]

def referenceKernels : ArrowKernels where
  cast := referenceCast
  compare := referenceCompare
  concatBatches := referenceConcat
  order := referenceOrder
  comparable t := !t.isNested
  float64ToFloat32 := Binary.convert binary32
  cast_shape h := by
    rcases referenceCast_eq_ok.mp h with ⟨htype, rfl⟩ | ⟨-, convert, -, htype, hslots⟩
    · exact ⟨htype, rfl⟩
    · exact ⟨htype, by rw [hslots, List.length_map]⟩
  cast_same array := referenceCast_eq_ok.mpr (Or.inl ⟨rfl, rfl⟩)
  cast_int64_integer := by
    intro target ht array htype
    by_cases heq : (.int64 : DataType) = target
    · subst heq
      exact ⟨array, referenceCast_eq_ok.mpr (Or.inl ⟨htype, rfl⟩), int64_integerToInteger htype⟩
    · exact referenceCast_converts heq ((conversion_integer ht heq).1 rfl) array htype
  cast_int64_float32 := referenceCast_converts (by decide) rfl
  cast_int64_float64 := referenceCast_converts (by decide) rfl
  cast_float64_integer := by
    intro target ht
    have hne : (.float64 : DataType) ≠ target := by
      rintro rfl
      cases ht
    exact referenceCast_converts hne ((conversion_integer ht hne).2 rfl)
  cast_float64_float32 := referenceCast_converts (by decide) rfl
  float64ToFloat32_of_not_nan _ := rfl
  float64ToFloat32_isNaN h := by rw [Binary.convert_isNaN, h]
  cast_dictionary := by
    intro array key value casted hbasic h
    rcases referenceCast_eq_ok.mp h with ⟨htype, rfl⟩ | ⟨-, convert, hc, -, hslots⟩
    · rw [htype] at hbasic
      cases hbasic
    · rw [conversion_dictionary] at hc
      split at hc
      · rename_i heq
        cases hc
        exact ⟨array, referenceCast_eq_ok.mpr (Or.inl ⟨heq, rfl⟩), by simp [hslots]⟩
      · rename_i hne
        obtain ⟨plain, hplain, hpslots⟩ := referenceCast_converts hne hc array rfl
        exact ⟨plain, hplain, by rw [hpslots, hslots]⟩
  cast_dictionary_ok := by
    intro array key value plain _ _ _ _ h
    by_cases hsame : array.dataType = .dictionary key value
    · exact ⟨array, referenceCast_eq_ok.mpr (Or.inl ⟨hsame, rfl⟩)⟩
    · have hc : ∃ convert, conversion array.dataType (.dictionary key value) = some convert := by
        rw [conversion_dictionary]
        split
        · exact ⟨_, rfl⟩
        · rename_i hne
          rcases referenceCast_eq_ok.mp h with ⟨htype, -⟩ | ⟨-, convert, hc, -⟩
          · exact absurd htype hne
          · exact ⟨convert, hc⟩
      obtain ⟨convert, hc⟩ := hc
      obtain ⟨casted, hcasted, -⟩ := referenceCast_converts hsame hc array rfl
      exact ⟨casted, hcasted⟩
  compare_ok := by
    intro kernel column scalar literal _ hcomp hslots
    simp only [referenceCompare]
    rw [if_neg (by simpa using hcomp), hslots]
    rfl
  compare_error := by
    intro kernel column scalar _ hcomp
    exact ⟨_, if_pos (by simpa using hcomp)⟩
  comparable_basic := by
    intro t ht
    unfold DataType.isNested
    split
    · rename_i heq
      rw [heq] at ht
      cases ht
    · rfl
  comparable_nested h := by rw [h]; rfl
  order_int _ _ _ := rfl
  order_float32 _ _ := rfl
  order_float64 _ _ := rfl
  order_boolean _ _ := rfl
  concatBatches_ok := by
    intro schema batches _ h
    exact ⟨_, dif_pos h, rfl, rfl⟩

/-- A bound of every row group as one array. -/
def boundArray (file : ParquetFile) (bound : ColumnStatistics → Slot)
    (hbound : ∀ {field statistics v}, ColumnStatistics.Typed field statistics →
      bound statistics = some v → v.hasType field.dataType = true) (i : Nat) :
    Except ParquetError ArrowArray :=
  match hf : file.schema[i]? with
  | none => .error (.general "no such column")
  | some field => .ok
      { dataType := field.dataType.storage
        slots := file.rowGroups.map fun rowGroup => bound (rowGroup.columnStatistics i)
        typed := by
          intro v hv
          obtain ⟨rowGroup, -, hslot⟩ := List.mem_map.mp hv
          have := hbound (columnStatistics_typed rowGroup hf) hslot
          rwa [Value.hasType, DataType.storage_storage] }

theorem boundArray_ok {file : ParquetFile} {bound : ColumnStatistics → Slot}
    {hbound : ∀ {field statistics v}, ColumnStatistics.Typed field statistics →
      bound statistics = some v → v.hasType field.dataType = true} {i : Nat} {array : ArrowArray}
    (h : boundArray file bound hbound i = .ok array) :
    array.slots = file.rowGroups.map (fun rowGroup => bound (rowGroup.columnStatistics i)) ∧
      ∀ field ∈ file.schema[i]?, array.dataType = field.dataType.storage := by
  unfold boundArray at h
  split at h
  · cases h
  · rename_i field hf
    cases h
    refine ⟨rfl, ?_⟩
    intro field' hf'
    rw [Option.mem_def, hf] at hf'
    cases hf'
    rfl

theorem boundArray_isOk {file : ParquetFile} {bound : ColumnStatistics → Slot}
    {hbound : ∀ {field statistics v}, ColumnStatistics.Typed field statistics →
      bound statistics = some v → v.hasType field.dataType = true} {i : Nat} {field : Field}
    (hf : file.schema[i]? = some field) : ∃ array, boundArray file bound hbound i = .ok array := by
  unfold boundArray
  split
  · simp_all
  · exact ⟨_, rfl⟩

def referenceCrates : Crates where
  toArrowKernels := referenceKernels
  statisticsConverter schema name :=
    match indexOf schema name with
    | .ok i => .ok i
    | .error e => .error (.arrowError e)
  rowGroupMins file := boundArray file (·.min) (fun h hv => h.1 _ hv)
  rowGroupMaxes file := boundArray file (·.max) (fun h hv => h.2 _ hv)
  projectionMask schema names := maskedColumns names schema
  batchSizes _ _ _ selected := if selected.isEmpty then [] else [selected.length]
  statisticsConverter_ok h := by rw [h]
  statisticsConverter_error h := by
    rw [h]
    exact ⟨_, rfl⟩
  rowGroupMins_ok h := boundArray_ok h
  rowGroupMaxes_ok h := boundArray_ok h
  rowGroupMins_basic hf _ := boundArray_isOk hf
  rowGroupMaxes_basic hf _ := boundArray_isOk hf
  projectionMask_eq _ _ := rfl
  batchSizes_sum _ _ _ selected := by
    cases selected <;> simp
  batchSizes_pos _ _ _ selected := by
    cases selected <;> simp

/-! ## Files of one column -/

def columnGroup (field : Field) (slots : List Slot) (statistics : ColumnStatistics)
    (hslots : ∀ slot ∈ slots, field.admits slot = true)
    (hstat : ColumnStatistics.Typed field statistics) : RowGroup [field] where
  rows := slots.attach.map fun ⟨slot, h⟩ =>
    ⟨[slot], List.Forall₂.cons (hslots slot h) List.Forall₂.nil⟩
  statistics := [statistics]
  typed := List.Forall₂.cons hstat List.Forall₂.nil

def columnBatch (field : Field) (slots : List Slot)
    (hslots : ∀ slot ∈ slots, field.admits slot = true) : RecordBatch where
  schema := [field]
  rows := slots.map ([·])
  typed := by
    intro row hrow
    obtain ⟨slot, hslot, rfl⟩ := List.mem_map.mp hrow
    exact List.Forall₂.cons (hslots slot hslot) List.Forall₂.nil

def oneFile (file : ParquetFile) : Disk Unit where
  openFile _ := .ok file
  display _ := "data.parquet"

end Pydart
