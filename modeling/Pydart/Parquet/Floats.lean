import Pydart.Parquet.Conjunction
import Pydart.Parquet.Integers

/-! # Float filters against the unfiltered read

Reading a Float64 column whole and comparing afterwards is the documented baseline
of a float filter. The statistics and the row predicate use two orders that are
not it, and the read agrees with it exactly where stated row by row.
-/

namespace Pydart

open Ieee Ieee.Format Binary

/-- The operator on an IEEE comparison: unordered data satisfy `!=` alone. -/
def Op.ieee (op : Op) : Option Ordering → Bool
  | some o => op.test o
  | none => op == .ne

def floatMatch (schema : Schema) (filter : FilterExpr) (slots : List Slot) : Bool :=
  match indexOf schema filter.column, filter.value with
  | .ok i, .float64 w =>
      match slots.getD i none with
      | some (.float64 x) => filter.op.ieee (x.partialCmp w)
      | _ => false
  | _, _ => false

/-- Where the read agrees with the baseline on the value `x`, by whether the value's
group is skipped. Only NaNs and zeros of opposite sign are in question. -/
def FloatBaseline (op : Op) (w x : Binary binary64) (skipped : Prop) : Prop :=
  if w.isNaN then
    match op with
    | .eq | .ne => x ≠ w
    | .lt => w.totalKey ≤ x.totalKey
    | .le => w.totalKey < x.totalKey
    | .gt => x.totalKey ≤ w.totalKey
    | .ge => x.totalKey < w.totalKey
  else if x.isNaN then
    match op with
    | .eq => True
    | .ne => ¬ skipped
    | .lt | .le => x.negative = true → skipped
    | .gt | .ge => x.negative = false → skipped
  else if x.key = w.key ∧ x.negative ≠ w.negative then
    match op with
    | .eq => False
    | .ne => skipped
    | .lt => x.negative = true → skipped
    | .gt => x.negative = false → skipped
    | .le => x.negative = true
    | .ge => x.negative = false
  else True

/-! ## One value -/

section

variable {op : Op} {w x : Binary binary64} {keeps : Bool}

theorem test_totalCmp (op : Op) (x w : Binary binary64) :
    op.test (x.totalCmp w) = true ↔ op.Holds x.totalKey w.totalKey := Op.test_compare

/-- Numbers are told apart by the total order only where they are opposite zeros. -/
theorem totalCmp_eq_of_not_opposite (h : ¬ (x.key = w.key ∧ x.negative ≠ w.negative)) :
    x.totalCmp w = compare x.key w.key := by
  have hlt : x.totalKey < w.totalKey ↔ x.key < w.key := by
    rw [totalKey_lt_iff]
    refine ⟨fun hor => hor.elim id fun ⟨hkey, hx, hw⟩ => ?_, Or.inl⟩
    exact absurd ⟨hkey, by rw [hx, hw]; decide⟩ h
  have hgt : w.totalKey < x.totalKey ↔ w.key < x.key := by
    rw [totalKey_lt_iff]
    refine ⟨fun hor => hor.elim id fun ⟨hkey, hw, hx⟩ => ?_, Or.inl⟩
    exact absurd ⟨hkey.symm, by rw [hx, hw]; decide⟩ h
  rw [totalCmp]
  rcases lt_trichotomy x.key w.key with hkey | hkey | hkey
  · rw [compare_lt_iff_lt.mpr hkey, compare_lt_iff_lt.mpr (hlt.mpr hkey)]
  · have heq : x.totalKey = w.totalKey := by omega
    rw [hkey, heq, compare_eq_iff_eq.mpr rfl, compare_eq_iff_eq.mpr rfl]
  · rw [compare_gt_iff_gt.mpr hkey, compare_gt_iff_gt.mpr (hgt.mpr hkey)]

theorem totalCmp_of_opposite (hkey : x.key = w.key) (hsign : x.negative ≠ w.negative) :
    x.totalCmp w = if x.negative then .lt else .gt := by
  cases hx : x.negative with
  | true =>
      have hw : w.negative = false := by
        rw [hx] at hsign
        simpa using hsign.symm
      rw [totalCmp, compare_lt_iff_lt.mpr ((totalKey_lt_iff x w).mpr (Or.inr ⟨hkey, hx, hw⟩))]
      rfl
  | false =>
      have hw : w.negative = true := by
        rw [hx] at hsign
        simpa using hsign.symm
      rw [totalCmp,
        compare_gt_iff_gt.mpr ((totalKey_lt_iff w x).mpr (Or.inr ⟨hkey.symm, hw, hx⟩))]
      rfl

/-- What a skipped group with a matching value shows: its bounds and a hazard. -/
def SkippedBy (op : Op) (w x : Binary binary64) : Prop :=
  ∃ lo hi, (x.isNaN = false → Le lo x ∧ Le x hi) ∧ FloatHazard op w w x lo hi

/-- A number is skipped only as a zero of the other sign than the literal. -/
theorem SkippedBy.number (h : SkippedBy op w x) (hx : x.isNaN = false) :
    x.key = w.key ∧ x.negative ≠ w.negative ∧ (op = .ne ∨ op = .lt ∨ op = .gt) := by
  obtain ⟨lo, hi, hbound, hhazard⟩ := h
  obtain ⟨⟨-, -, hlo⟩, ⟨-, -, hhi⟩⟩ := hbound hx
  rcases hhazard with ⟨hnan, -⟩ | ⟨hx0, hw0, hsign, hop⟩ | ⟨hkey, hop⟩
  · rw [hx] at hnan
    cases hnan
  · refine ⟨by rw [hx0, hw0], hsign, ?_⟩
    cases op <;> simp_all
  · cases op <;> simp only at hop
    · rcases hop with ⟨-, -, h⟩ | ⟨-, -, h⟩ <;> omega
    · obtain ⟨-, -, h⟩ := hop
      omega
    · obtain ⟨-, -, h⟩ := hop
      omega

theorem floatBaseline_nan_literal (hw : w.isNaN = true)
    (hskip : op.test (x.totalCmp w) = true → keeps = false → SkippedBy op w x) :
    ((keeps = true ∧ op.test (x.totalCmp w) = true) ↔ op.ieee (x.partialCmp w) = true) ↔
      FloatBaseline op w x (keeps = false) := by
  have hkeeps : op.test (x.totalCmp w) = true → keeps = true := by
    intro htest
    by_contra hne
    obtain ⟨lo, hi, -, hhazard⟩ := hskip htest (by simpa using hne)
    exact not_floatHazard_nan_literal hw hhazard
  have hand : (keeps = true ∧ op.test (x.totalCmp w) = true) ↔ op.Holds x.totalKey w.totalKey := by
    rw [← test_totalCmp]
    exact ⟨And.right, fun htest => ⟨hkeeps htest, htest⟩⟩
  unfold FloatBaseline
  rw [hand, partialCmp_nan_right x hw, if_pos hw]
  cases op <;> simp [Op.Holds, Op.ieee, totalKey_eq_iff]

theorem floatBaseline_nan_value (hw : w.isNaN = false) (hx : x.isNaN = true) :
    ((keeps = true ∧ op.test (x.totalCmp w) = true) ↔ op.ieee (x.partialCmp w) = true) ↔
      FloatBaseline op w x (keeps = false) := by
  unfold FloatBaseline
  rw [partialCmp_nan_left w hx, totalCmp_nan hx hw]
  simp only [hw, hx, Bool.false_eq_true, if_false, if_true]
  cases op <;> cases x.negative <;> cases keeps <;> simp [Op.ieee, Op.test]

theorem floatBaseline_opposite (hw : w.isNaN = false) (hx : x.isNaN = false)
    (hkey : x.key = w.key) (hsign : x.negative ≠ w.negative)
    (hskip : op.test (x.totalCmp w) = true → keeps = false → SkippedBy op w x) :
    ((keeps = true ∧ op.test (x.totalCmp w) = true) ↔ op.ieee (x.partialCmp w) = true) ↔
      FloatBaseline op w x (keeps = false) := by
  have hkeeps : op = .le ∨ op = .ge → op.test (x.totalCmp w) = true → keeps = true := by
    intro hop htest
    by_contra hne
    obtain ⟨-, -, hop'⟩ := (hskip htest (by simpa using hne)).number hx
    rcases hop with rfl | rfl <;> simp at hop'
  rw [totalCmp_of_opposite hkey hsign] at hkeeps ⊢
  unfold FloatBaseline
  have hopp : x.key = w.key ∧ x.negative ≠ w.negative := ⟨hkey, hsign⟩
  rw [partialCmp_of_not_nan hx hw, compare_eq_iff_eq.mpr hkey]
  simp only [hw, hx, Bool.false_eq_true, if_false]
  rw [if_pos hopp]
  clear hskip hopp hsign
  cases op <;> cases hneg : x.negative <;> cases keeps <;> simp_all [Op.ieee, Op.test]

theorem floatBaseline_iff
    (hskip : op.test (x.totalCmp w) = true → keeps = false → SkippedBy op w x) :
    ((keeps = true ∧ op.test (x.totalCmp w) = true) ↔ op.ieee (x.partialCmp w) = true) ↔
      FloatBaseline op w x (keeps = false) := by
  cases hw : w.isNaN with
  | true => exact floatBaseline_nan_literal hw hskip
  | false =>
      cases hx : x.isNaN with
      | true => exact floatBaseline_nan_value hw hx
      | false =>
          by_cases hopp : x.key = w.key ∧ x.negative ≠ w.negative
          · exact floatBaseline_opposite hw hx hopp.1 hopp.2 hskip
          · have hkeeps : op.test (x.totalCmp w) = true → keeps = true := by
              intro htest
              by_contra hne
              obtain ⟨hkey, hsign, -⟩ := (hskip htest (by simpa using hne)).number hx
              exact hopp ⟨hkey, hsign⟩
            rw [totalCmp_eq_of_not_opposite hopp] at hkeeps ⊢
            unfold FloatBaseline
            rw [partialCmp_of_not_nan hx hw, hw, hx, if_neg (by decide), if_neg (by decide),
              if_neg hopp, iff_true]
            exact ⟨And.right, fun htest => ⟨hkeeps htest, htest⟩⟩

end

/-! ## One row -/

section

variable {C : Crates} {file : ParquetFile} {name : String} {op : Op} {w : Binary binary64}

theorem rowPredicate_float64_float64 {K : ArrowKernels} (op : Op) (w : Binary binary64) :
    ∃ verdict, rowPredicate K .float64 op (.float64 w) = some verdict ∧
      ∀ x, verdict (some (.float64 x)) = some true ↔ op.test (x.totalCmp w) = true := by
  have hl : LiteralSlot K .float64 (.float64 w) _ := literalSlot_float64_float64 w
  obtain ⟨verdict, hverdict, htrue⟩ := rowPredicate_of_literal op hl (K.comparable_basic rfl) rfl
  refine ⟨verdict, hverdict, fun x => ?_⟩
  have horder : K.order DataType.float64.storage (.float64 x) (.float64 w) = x.totalCmp w :=
    K.order_float64 _ _
  rw [htrue, horder]

/-- The hazard of a skipped row, with the bounds of its group. -/
theorem skippedBy_of_hazardousRow (hstat : StatisticsBound file) {i : Nat} {field : Field}
    (hi : indexOf file.schema name = .ok i) (hf : file.schema[i]? = some field)
    (ht : field.dataType = .float64) {located : LocatedRow file.schema}
    (hmem : located ∈ file.allRows) {x : Binary binary64}
    (hx : located.row.slot i = some (.float64 x))
    (hhazard : HazardousRow C file ⟨name, op, .float64 w⟩ located) : SkippedBy op w x := by
  obtain ⟨i', x', mins, maxes, lo, hi', hindex, hx', hbounds, hlo, hhi, hprune⟩ := hhazard
  cases hi.symm.trans hindex
  cases hx.symm.trans hx'
  obtain ⟨-, rowGroup, hg, hrow⟩ := mem_groupRows (mem_allRows.mp hmem)
  obtain ⟨min, max, hmin, hmax, -, -, hmintrust, hmaxtrust⟩ :=
    rowGroupBounds_eq_ok hi hf hbounds hg hlo hhi
  cases lo <;> cases hi' <;> simp only [PruneHazard] at hprune
  rename_i lo hi'
  refine ⟨lo, hi', fun hnan => ?_, hprune⟩
  obtain ⟨hbelow, habove⟩ := hstat rowGroup (List.mem_of_getElem? hg) located.row hrow i
    (List.getElem?_eq_some_iff.mp hf).1 _ hx hnan
  have hminBelow := hbelow min hmin
  have hmaxAbove := habove max hmax
  rw [ht] at hmintrust hmaxtrust
  have htrusted : ∀ {v : Value} {y : Binary binary64},
      trustedValue DataType.float64.storage v = some (.float64 y) → v = .float64 y := by
    intro v y h
    cases v <;> cases h
    rfl
  rw [htrusted hmintrust] at hminBelow
  rw [htrusted hmaxtrust] at hmaxAbove
  exact ⟨hminBelow, hmaxAbove⟩

/-- The read treats a row as the baseline does exactly when its value is null or
agrees. -/
theorem row_baseline_iff (hstat : StatisticsBound file) {i : Nat} {field : Field}
    (hi : indexOf file.schema name = .ok i) (hf : file.schema[i]? = some field)
    (ht : field.dataType = .float64) {located : LocatedRow file.schema}
    (hmem : located ∈ file.allRows)
    (hrun : dotless name = true ∨
      keepsRowGroup C file ⟨name, op, .float64 w⟩ located.group = false) :
    (keepsRowGroup C file ⟨name, op, .float64 w⟩ located.group &&
        passes C ⟨name, op, .float64 w⟩ located.row) =
        floatMatch file.schema ⟨name, op, .float64 w⟩ located.row.slots ↔
      ∀ x, located.row.slot i = some (.float64 x) →
        FloatBaseline op w x (keepsRowGroup C file ⟨name, op, .float64 w⟩ located.group = false) := by
  have hslot : located.row.slots.getD i none = located.row.slot i := rfl
  simp only [floatMatch, hi, hslot]
  cases hx : located.row.slot i with
  | none =>
      have hfail : passes C ⟨name, op, .float64 w⟩ located.row = false := by
        rw [← Bool.not_eq_true]
        exact not_passes_of_null hi hx
      simp [hfail]
  | some v =>
      have hv := located.row.slot_hasType hf hx
      rw [Value.hasType, ht] at hv
      obtain ⟨x, rfl⟩ := Value.hasStorage_float64_iff.mp hv
      obtain ⟨verdict, hverdict, htrue⟩ :=
        rowPredicate_float64_float64 (K := C.toArrowKernels) op w
      rw [← ht] at hverdict
      have hskip : op.test (x.totalCmp w) = true →
          keepsRowGroup C file ⟨name, op, .float64 w⟩ located.group = false →
          SkippedBy op w x := by
        intro htest hskipped
        refine skippedBy_of_hazardousRow hstat hi hf ht hmem hx (C := C) ?_
        exact (keepsRowGroup_eq_false_iff_of_match hstat hmem hi hf hverdict hx
          ((htrue x).mpr htest)).mp hskipped
      have hreturned : (keepsRowGroup C file ⟨name, op, .float64 w⟩ located.group = true ∧
          passes C ⟨name, op, .float64 w⟩ located.row = true) ↔
          (keepsRowGroup C file ⟨name, op, .float64 w⟩ located.group = true ∧
            op.test (x.totalCmp w) = true) := by
        rcases hrun with hdot | hskipped
        · have hpass : passes C ⟨name, op, .float64 w⟩ located.row = true ↔
              op.test (x.totalCmp w) = true := by
            rw [← htrue]
            exact passes_iff hdot hi hf hverdict hx
          rw [hpass]
        · simp [hskipped]
      simp only [Option.some.injEq, Value.float64.injEq, forall_eq']
      rw [← floatBaseline_iff hskip, Bool.eq_iff_iff, Bool.and_eq_true, hreturned]

end

/-! ## Whole reads -/

section

variable {C : Crates} {file : ParquetFile}

def FilterRuns (C : Crates) (file : ParquetFile) (filter : FilterExpr) : Prop :=
  (filterPredicate C file.schema filter).isSome = true ∨
    ∀ located ∈ file.allRows, keepsRowGroup C file filter located.group = false

variable {Path : Type} {disk : Disk Path}

theorem readParquet_single_iff {path : Path} (hopen : disk.openFile path = .ok file)
    {filter : FilterExpr} (hbounds : ∃ bounds, rowGroupBounds C file filter = .ok bounds)
    {rows : List (List Slot)} :
    (∃ batch, readParquet C disk path none [filter] = .ok batch ∧ batch.schema = file.schema ∧
        batch.rows = rows) ↔
      FilterRuns C file filter ∧
        (file.allRows.filter fun located =>
          keepsRowGroup C file filter located.group && passes C filter located.row).map
          (·.row.slots) = rows := by
  have hsurviving : survivingRowGroups C file [filter] = .ok _ :=
    survivingRowGroups_eq_ok.mpr ⟨by simpa using hbounds, rfl⟩
  have hlocated := locatedRows_surviving hsurviving
  have hselected := selected_eq hsurviving
  generalize hgroups : (List.range file.numRowGroups).filter
    (fun rowGroup => [filter].all (keepsRowGroup C file · rowGroup)) = groups at *
  simp only [List.all_cons, List.all_nil, Bool.and_true] at hlocated hselected
  have hruns : FiltersRun C [filter] ((file.locatedRows groups).map (·.row)) ↔
      FilterRuns C file filter := by
    simp only [FiltersRun, and_true, FilterRuns, hlocated, ne_eq, List.map_eq_nil_iff,
      List.filter_eq_nil_iff, Bool.not_eq_true]
    tauto
  have hread : ∀ batch, readParquet C disk path none [filter] = .ok batch ↔
      FilterRuns C file filter ∧ RecordBatch.ofRows
        (((file.locatedRows groups).map (·.row)).filter (passes C filter)) = batch := by
    intro batch
    simp only [readParquet_eq_ok, hopen, Except.ok.injEq, exists_eq_left', hsurviving,
      readRowGroups_eq_ok, hruns, emitRows_none, List.all_cons, List.all_nil, Bool.and_true]
  simp only [hread]
  constructor
  · rintro ⟨batch, ⟨hrun, rfl⟩, -, rfl⟩
    refine ⟨hrun, ?_⟩
    rw [← hselected]
    simp only [RecordBatch.ofRows, List.filter_map, List.map_map]
    rfl
  · rintro ⟨hrun, rfl⟩
    refine ⟨_, ⟨hrun, rfl⟩, rfl, ?_⟩
    rw [← hselected]
    simp only [RecordBatch.ofRows, List.filter_map, List.map_map]
    rfl

variable (C) (disk)

/-- A float filter on a Float64 column returns the rows of the baseline, in file
order, exactly when its predicate can run and every value agrees. -/
theorem readParquet_floats_iff (path : Path) (hopen : disk.openFile path = .ok file)
    (hstat : StatisticsBound file) {name : String} {i : Nat} {field : Field}
    (hi : indexOf file.schema name = .ok i) (hf : file.schema[i]? = some field)
    (ht : field.dataType = .float64) (op : Op) (w : Binary binary64) :
    (∃ batch, readParquet C disk path none [⟨name, op, .float64 w⟩] = .ok batch ∧
        batch.schema = file.schema ∧
        batch.rows = file.slotRows.filter (floatMatch file.schema ⟨name, op, .float64 w⟩)) ↔
      (dotless name = true ∨ ∀ located ∈ file.allRows,
        keepsRowGroup C file ⟨name, op, .float64 w⟩ located.group = false) ∧
      ∀ located ∈ file.allRows, ∀ x, located.row.slot i = some (.float64 x) →
        FloatBaseline op w x
          (keepsRowGroup C file ⟨name, op, .float64 w⟩ located.group = false) := by
  have hbounds : ∃ bounds, rowGroupBounds C file ⟨name, op, .float64 w⟩ = .ok bounds :=
    rowGroupBounds_basic hi hf (by rw [ht]; rfl)
  have hpredicate : (filterPredicate C file.schema ⟨name, op, .float64 w⟩).isSome = true ↔
      dotless name = true := by
    rw [Option.isSome_iff_exists]
    constructor
    · rintro ⟨test, htest⟩
      exact (filterPredicate_eq_some.mp htest).1
    · intro hdot
      obtain ⟨verdict, hverdict, -⟩ := rowPredicate_float64_float64 (K := C.toArrowKernels) op w
      rw [← ht] at hverdict
      exact ⟨_, filterPredicate_eq_some.mpr ⟨hdot, i, field, verdict, hi, hf, hverdict, rfl⟩⟩
  rw [readParquet_single_iff hopen hbounds, FilterRuns, hpredicate]
  apply and_congr_right
  intro hrun
  rw [ParquetFile.slotRows, Blocks.map_filter_eq_iff]
  apply forall₂_congr
  intro located hmem
  exact row_baseline_iff hstat hi hf ht hmem (hrun.imp_right fun h => h located hmem)

end

/-! ## A column with a NaN -/

def ratioField : Field := ⟨"r", .float64, true, false, []⟩

/-- The NaN without sign stands above every number in the total order. -/
def notANumber : Value := .float64 (quietNaN binary64 false)

def one : Binary binary64 := ofInt binary64 1

def half : Binary binary64 := ofRatio binary64 false 1 2

/-- The statistics pass over the NaN. -/
def nanFile : ParquetFile where
  schema := [ratioField]
  rowGroups :=
    [columnGroup ratioField [some notANumber, some (.float64 one), none]
      ⟨some (.float64 one), some (.float64 one)⟩ (by decide +kernel) (by decide +kernel)]

theorem nanFile_bound : StatisticsBound nanFile := by
  unfold StatisticsBound
  decide +kernel

theorem readParquet_floats_nanFile :
    ∃ batch, readParquet referenceCrates (oneFile nanFile) () none [⟨"r", .eq, .float64 one⟩] =
        .ok batch ∧ batch.schema = [ratioField] ∧
      batch.rows = nanFile.slotRows.filter
        (floatMatch nanFile.schema ⟨"r", .eq, .float64 one⟩) := by
  refine (readParquet_floats_iff referenceCrates (oneFile nanFile) () rfl nanFile_bound
    (i := 0) rfl rfl rfl .eq one).mpr ⟨Or.inl (by decide), ?_⟩
  intro located _ x _
  have hone : one.isNaN = false ∧ one.magnitude ≠ 0 := by decide +kernel
  unfold FloatBaseline
  simp only [hone.1, Bool.false_eq_true, if_false]
  split
  · trivial
  · split
    · rename_i hopp
      rcases key_eq_iff.mp hopp.1 with rfl | ⟨-, hzero⟩
      · exact hopp.2 rfl
      · exact hone.2 hzero
    · trivial

/-- The read returns the NaN as greater than one half, the baseline does not. -/
theorem nan_row_returned :
    StatisticsBound nanFile ∧
      readParquet referenceCrates (oneFile nanFile) () none [⟨"r", .gt, .float64 half⟩] =
        .ok (columnBatch ratioField [some notANumber, some (.float64 one)]
          (by decide +kernel)) ∧
      nanFile.slotRows.filter (floatMatch nanFile.schema ⟨"r", .gt, .float64 half⟩) =
        [[some (.float64 one)]] := by
  refine ⟨nanFile_bound, ?_, ?_⟩
  · decide +kernel
  · decide +kernel

end Pydart
