import Pydart.Parquet.Conjunction
import Pydart.Parquet.Integers

/-! # The six operators on one column

Six reads that differ only in the operator split the non-null rows of a column,
except where the literal is lost in the cast, where the name has a dot, or where a
matching row stands under a hazard.
-/

namespace Pydart

/-- What the rows returned for the six operators should be: nothing where the
column is null, and elsewhere one of `<`, `==`, `>` with the others as unions. -/
structure Partitions (file : ParquetFile) (i : Nat) (positions : Op → List (Nat × Nat)) :
    Prop where
  null : ∀ located ∈ file.allRows, located.row.slot i = none →
    ∀ op, located.position ∉ positions op
  one : ∀ located ∈ file.allRows, located.row.slot i ≠ none →
    (located.position ∈ positions .lt ∧ located.position ∉ positions .eq ∧
        located.position ∉ positions .gt) ∨
      (located.position ∉ positions .lt ∧ located.position ∈ positions .eq ∧
        located.position ∉ positions .gt) ∨
      (located.position ∉ positions .lt ∧ located.position ∉ positions .eq ∧
        located.position ∈ positions .gt)
  ne : ∀ located ∈ file.allRows, located.row.slot i ≠ none →
    (located.position ∈ positions .ne ↔ located.position ∉ positions .eq)
  le : ∀ located ∈ file.allRows, located.row.slot i ≠ none →
    (located.position ∈ positions .le ↔
      located.position ∈ positions .lt ∨ located.position ∈ positions .eq)
  ge : ∀ located ∈ file.allRows, located.row.slot i ≠ none →
    (located.position ∈ positions .ge ↔
      located.position ∈ positions .gt ∨ located.position ∈ positions .eq)

/-- The literal is not lost on a column of the type: it is out of range of an
integer type, or the cast to a type that can be compared gives a value. -/
def LiteralKept (K : ArrowKernels) (t : DataType) (value : ScalarValue) : Prop :=
  (outOfRangeMatch t .eq value).isSome = true ∨
    (K.comparable t = true ∧ ∃ l, LiteralSlot K t value (some l))

/-- The statistics keep the group of every row that passes the filter. -/
def Unskipped (C : Crates) (file : ParquetFile) (filter : FilterExpr) : Prop :=
  ∀ located ∈ file.allRows, passes C filter located.row = true →
    keepsRowGroup C file filter located.group = true

/-! ## One row -/

/-- A set of operators that is the operators of one comparison outcome. -/
theorem outcome_of_partition {returned : Op → Prop}
    (hone : (returned .lt ∧ ¬ returned .eq ∧ ¬ returned .gt) ∨
      (¬ returned .lt ∧ returned .eq ∧ ¬ returned .gt) ∨
      (¬ returned .lt ∧ ¬ returned .eq ∧ returned .gt))
    (hne : returned .ne ↔ ¬ returned .eq) (hle : returned .le ↔ returned .lt ∨ returned .eq)
    (hge : returned .ge ↔ returned .gt ∨ returned .eq) :
    ∃ o, ∀ op, returned op ↔ Op.test op o = true := by
  rcases hone with ⟨h₁, h₂, h₃⟩ | ⟨h₁, h₂, h₃⟩ | ⟨h₁, h₂, h₃⟩
  · refine ⟨.lt, fun op => ?_⟩
    cases op <;> simp [Op.test, *]
  · refine ⟨.eq, fun op => ?_⟩
    cases op <;> simp [Op.test, *]
  · refine ⟨.gt, fun op => ?_⟩
    cases op <;> simp [Op.test, *]

theorem outcome_unique {o o' : Ordering}
    (h : ∀ op, Op.test op o = true → Op.test op o' = true) : o = o' := by
  cases o <;> cases o' <;> first
    | rfl
    | exact absurd (h .lt rfl) (by decide)
    | exact absurd (h .eq rfl) (by decide)
    | exact absurd (h .gt rfl) (by decide)

section

variable {K : ArrowKernels} {t : DataType} {value : ScalarValue}

theorem outOfRangeMatch_isSome_congr (op op' : Op) :
    (outOfRangeMatch t op value).isSome = (outOfRangeMatch t op' value).isSome := by
  cases value with
  | int64 v =>
      simp only [outOfRangeMatch]
      cases integerBounds t with
      | none => rfl
      | some bounds =>
          simp only
          split
          · rfl
          · split <;> rfl
  | _ => rfl

theorem outcome_of_guard (hguard : (outOfRangeMatch t .eq value).isSome = true) {x : Value}
    (hx : x.hasType t = true) :
    ∃ o, ∀ op, ∃ verdict, rowPredicate K t op value = some verdict ∧
      (verdict (some x) = some true ↔ Op.test op o = true) := by
  obtain ⟨all, hall⟩ := Option.isSome_iff_exists.mp hguard
  obtain ⟨hint, v, rfl, hfits, -⟩ := outOfRangeMatch_eq_some hall
  rw [Value.hasType, DataType.storage_of_isInteger hint] at hx
  obtain ⟨n, rfl, hn⟩ := (Value.hasStorage_int_iff hint).mp hx
  refine ⟨Ord.compare n v.toInt, fun op => ?_⟩
  rcases outOfRangeMatch_integer hint op v with ⟨hin, -⟩ | ⟨-, all', hall', hiff⟩
  · rw [hfits] at hin
    cases hin
  · refine ⟨_, by unfold rowPredicate; rw [hall'], ?_⟩
    rw [Op.test_compare, ← hiff n hn]
    simp

theorem outcome_of_literalKept (hkept : LiteralKept K t value) {x : Value}
    (hx : x.hasType t = true) :
    ∃ o, ∀ op, ∃ verdict, rowPredicate K t op value = some verdict ∧
      (verdict (some x) = some true ↔ Op.test op o = true) := by
  cases hguard : (outOfRangeMatch t .eq value).isSome with
  | true => exact outcome_of_guard hguard hx
  | false =>
      rcases hkept with hguard' | ⟨hcomp, l, hl⟩
      · rw [hguard] at hguard'
        cases hguard'
      refine ⟨K.order t.storage x l, fun op => ?_⟩
      have hnone : outOfRangeMatch t op value = none := by
        rw [← Option.not_isSome_iff_eq_none, outOfRangeMatch_isSome_congr op .eq, hguard]
        decide
      obtain ⟨verdict, hverdict, htrue⟩ := rowPredicate_of_literal op hl hcomp hnone
      exact ⟨verdict, hverdict, htrue x⟩

theorem literalKept_of_match {op : Op} {verdict : Slot → Option Bool}
    (hverdict : rowPredicate K t op value = some verdict) {x : Value}
    (htrue : verdict (some x) = some true) : LiteralKept K t value := by
  rcases (rowPredicate_eq_true hverdict x).mp htrue with hguard | ⟨hnone, l, hl, -⟩
  · refine Or.inl ?_
    rw [outOfRangeMatch_isSome_congr .eq op, hguard]
    rfl
  · refine Or.inr ⟨?_, l, hl⟩
    unfold rowPredicate at hverdict
    rw [hnone] at hverdict
    simp only at hverdict
    split at hverdict
    · cases hverdict
    · split at hverdict
      · assumption
      · cases hverdict

end

/-! ## Six reads -/

section

variable {C : Crates} {file : ParquetFile} {name : String} {value : ScalarValue}

def operatorRows (C : Crates) (file : ParquetFile) (name : String) (value : ScalarValue)
    (op : Op) : List (Nat × Nat) :=
  (file.allRows.filter fun located =>
    [(⟨name, op, value⟩ : FilterExpr)].all fun filter =>
      keepsRowGroup C file filter located.group && passes C filter located.row).map
    LocatedRow.position

theorem mem_operatorRows {located : LocatedRow file.schema} (h : located ∈ file.allRows) (op : Op) :
    located.position ∈ operatorRows C file name value op ↔
      keepsRowGroup C file ⟨name, op, value⟩ located.group = true ∧
        passes C ⟨name, op, value⟩ located.row = true := by
  rw [operatorRows, position_mem_iff h]
  simp

/-- Where the literal is kept and no group is skipped for a row that passes, the rows
split by how their value compares. -/
theorem partitions_of_kept {i : Nat} {field : Field}
    (hi : indexOf file.schema name = .ok i) (hf : file.schema[i]? = some field)
    (hdot : dotless name = true) (hkept : LiteralKept C.toArrowKernels field.dataType value)
    (hkeeps : ∀ op, Unskipped C file ⟨name, op, value⟩) :
    Partitions file i (operatorRows C file name value) := by
  have hrow : ∀ located ∈ file.allRows, located.row.slot i ≠ none →
      ∃ o, ∀ op, located.position ∈ operatorRows C file name value op ↔ Op.test op o = true := by
    intro located hmem hslot
    obtain ⟨x, hx⟩ := Option.ne_none_iff_exists'.mp hslot
    obtain ⟨o, ho⟩ := outcome_of_literalKept hkept (located.row.slot_hasType hf hx)
    refine ⟨o, fun op => ?_⟩
    obtain ⟨verdict, hverdict, htrue⟩ := ho op
    have hpass : passes C ⟨name, op, value⟩ located.row = true ↔ Op.test op o = true := by
      rw [← htrue]
      exact passes_iff hdot hi hf hverdict hx
    rw [mem_operatorRows hmem, ← hpass]
    exact ⟨And.right, fun hp => ⟨hkeeps op located hmem hp, hp⟩⟩
  refine ⟨?_, ?_, ?_, ?_, ?_⟩
  · intro located hmem hnull op hpos
    exact not_passes_of_null hi hnull ((mem_operatorRows hmem op).mp hpos).2
  all_goals
    intro located hmem hslot
    obtain ⟨o, ho⟩ := hrow located hmem hslot
    simp only [ho]
    cases o <;> simp [Op.test]

/-- A non-null row the six reads place was compared with a kept literal, and its
group is kept for each operator it passes. -/
theorem kept_of_partitions {i : Nat} {field : Field}
    (hi : indexOf file.schema name = .ok i) (hf : file.schema[i]? = some field)
    (hpart : Partitions file i (operatorRows C file name value))
    {located : LocatedRow file.schema} (hmem : located ∈ file.allRows)
    (hslot : located.row.slot i ≠ none) :
    dotless name = true ∧ LiteralKept C.toArrowKernels field.dataType value ∧
      ∀ op, passes C ⟨name, op, value⟩ located.row = true →
        keepsRowGroup C file ⟨name, op, value⟩ located.group = true := by
  have houtcome : ∃ o, ∀ op,
      located.position ∈ operatorRows C file name value op ↔ Op.test op o = true :=
    outcome_of_partition (hpart.one located hmem hslot) (hpart.ne located hmem hslot)
      (hpart.le located hmem hslot) (hpart.ge located hmem hslot)
  obtain ⟨o, ho⟩ := houtcome
  have hsome : ∃ op : Op, op.test o = true := by
    cases o
    · exact ⟨.lt, rfl⟩
    · exact ⟨.eq, rfl⟩
    · exact ⟨.gt, rfl⟩
  obtain ⟨op, htest⟩ := hsome
  obtain ⟨-, hpass⟩ := (mem_operatorRows hmem op).mp ((ho op).mpr htest)
  obtain ⟨hdot, i', field', verdict, x, hi', hf', hverdict, hx, htrue⟩ := passes_eq_true.mp hpass
  cases hi.symm.trans hi'
  cases hf.symm.trans hf'
  have hkept := literalKept_of_match hverdict htrue
  refine ⟨hdot, hkept, ?_⟩
  obtain ⟨o', ho'⟩ := outcome_of_literalKept hkept (located.row.slot_hasType hf hx)
  have hpassIff : ∀ op, passes C ⟨name, op, value⟩ located.row = true ↔ Op.test op o' = true := by
    intro op
    obtain ⟨verdict, hverdict, htrue⟩ := ho' op
    rw [← htrue]
    exact passes_iff hdot hi hf hverdict hx
  have heq : o = o' := by
    apply outcome_unique
    intro op htest
    exact (hpassIff op).mp ((mem_operatorRows hmem op).mp ((ho op).mpr htest)).2
  intro op hp
  rw [hpassIff, ← heq, ← ho, mem_operatorRows hmem] at hp
  exact hp.1

theorem partitions_iff {i : Nat} {field : Field}
    (hi : indexOf file.schema name = .ok i) (hf : file.schema[i]? = some field) :
    Partitions file i (operatorRows C file name value) ↔
      (∀ located ∈ file.allRows, located.row.slot i = none) ∨
        (dotless name = true ∧ LiteralKept C.toArrowKernels field.dataType value ∧
          ∀ op, Unskipped C file ⟨name, op, value⟩) := by
  constructor
  · intro hpart
    by_cases hnull : ∀ located ∈ file.allRows, located.row.slot i = none
    · exact Or.inl hnull
    · simp only [not_forall] at hnull
      obtain ⟨witness, hwitness, hslot⟩ := hnull
      obtain ⟨hdot, hkept, -⟩ := kept_of_partitions hi hf hpart hwitness hslot
      refine Or.inr ⟨hdot, hkept, fun op located hmem hp => ?_⟩
      have hne : located.row.slot i ≠ none := fun h => not_passes_of_null hi h hp
      exact (kept_of_partitions hi hf hpart hmem hne).2.2 op hp
  · rintro (hnull | ⟨hdot, hkept, hkeeps⟩)
    · refine ⟨?_, ?_, ?_, ?_, ?_⟩
      · intro located hmem hslot op hpos
        exact not_passes_of_null hi hslot ((mem_operatorRows hmem op).mp hpos).2
      all_goals
        intro located hmem hslot
        exact absurd (hnull located hmem) hslot
    · exact partitions_of_kept hi hf hdot hkept hkeeps

/-- Under honest statistics a group is skipped for a passing row under a hazard only. -/
theorem unskipped_iff_skippingSafe (hstat : StatisticsBound file) {filter : FilterExpr}
    (hbounds : ∃ bounds, rowGroupBounds C file filter = .ok bounds) :
    Unskipped C file filter ↔ SkippingSafe C file [filter] := by
  have hsafe : SkippingSafe C file [filter] ↔
      ∀ located ∈ file.allRows, passes C filter located.row = true →
        ¬ HazardousRow C file filter located := by
    simp only [SkippingSafe, List.mem_singleton, forall_eq, List.all_cons, List.all_nil,
      Bool.and_true, hbounds, true_and]
  rw [hsafe]
  apply forall₂_congr
  intro located hmem
  apply forall_congr'
  intro hp
  rw [← Bool.not_eq_false, keepsRowGroup_eq_false_iff hstat hmem hp]

variable (C) {Path : Type} (disk : Disk Path)

/-- Six reads that succeed and differ only in the operator partition the non-null
rows exactly when the column has none, or the name has no dot, the literal is kept
and no passing row is skipped, which under honest statistics is the absence of
hazards. -/
theorem readParquet_partitions_iff (path : Path) (columns : Option (List String))
    (hopen : disk.openFile path = .ok file) {batches : Op → RecordBatch}
    (hread : ∀ op, readParquet C disk path columns [⟨name, op, value⟩] = .ok (batches op)) :
    ∃ i field positions, indexOf file.schema name = .ok i ∧ file.schema[i]? = some field ∧
      (∀ op, readPositions C disk path [⟨name, op, value⟩] = .ok (positions op) ∧
        (batches op).rows =
          ((positions op).filterMap file.rowAt).map (columnView C file.schema columns)) ∧
      (Partitions file i positions ↔
        (∀ located ∈ file.allRows, located.row.slot i = none) ∨
          (dotless name = true ∧ LiteralKept C.toArrowKernels field.dataType value ∧
            ∀ op, Unskipped C file ⟨name, op, value⟩)) ∧
      (StatisticsBound file → ∀ op,
        (Unskipped C file ⟨name, op, value⟩ ↔ SkippingSafe C file [⟨name, op, value⟩])) := by
  have hpositions : ∀ op, (∃ bounds, rowGroupBounds C file ⟨name, op, value⟩ = .ok bounds) ∧
      readPositions C disk path [⟨name, op, value⟩] = .ok (operatorRows C file name value op) ∧
      (batches op).rows = ((operatorRows C file name value op).filterMap file.rowAt).map
        (columnView C file.schema columns) := by
    intro op
    obtain ⟨file', hopen', ⟨groups, hgroups⟩, hpos, hrows⟩ := readParquet_positions (hread op)
    cases hopen.symm.trans hopen'
    refine ⟨(survivingRowGroups_eq_ok.mp hgroups).1 _ List.mem_cons_self, hpos, ?_⟩
    rw [hrows, operatorRows, filterMap_rowAt (fun l hl => (List.mem_filter.mp hl).1), List.map_map]
    rfl
  obtain ⟨i, hi⟩ := indexOf_of_rowGroupBounds (hpositions .eq).1
  obtain ⟨field, hf, -⟩ := indexOf_lt hi
  exact ⟨i, field, _, hi, hf, fun op => (hpositions op).2, partitions_iff hi hf,
    fun hstat op => unskipped_iff_skippingSafe hstat (hpositions op).1⟩

end

/-! ## One literal kept, one lost -/

theorem pairFile_bound : StatisticsBound pairFile := by
  unfold StatisticsBound
  decide

def pairSlots : Op → List Slot
  | .eq => [some (.int 2)]
  | .ne => [some (.int 1), some (.int 3)]
  | .lt => [some (.int 1)]
  | .le => [some (.int 1), some (.int 2)]
  | .gt => [some (.int 3)]
  | .ge => [some (.int 2), some (.int 3)]

theorem partitions_pairFile :
    ∃ positions, (∀ op, readPositions referenceCrates (oneFile pairFile) ()
        [⟨"n", op, .int64 2⟩] = .ok (positions op)) ∧ Partitions pairFile 0 positions := by
  have hread : ∀ op, readParquet referenceCrates (oneFile pairFile) () none [⟨"n", op, .int64 2⟩] =
      .ok (columnBatch pairField (pairSlots op) (by cases op <;> decide)) := by
    intro op
    cases op <;> decide +kernel
  have hinteger : ∀ op, IntegerFilter pairFile.schema ⟨"n", op, .int64 2⟩ :=
    fun _ => ⟨0, pairField, 2, rfl, rfl, rfl, rfl⟩
  obtain ⟨i, field, positions, hi, hf, hpositions, hiff, hunskipped⟩ :=
    readParquet_partitions_iff referenceCrates (oneFile pairFile) () none rfl hread
  cases hi
  cases hf
  refine ⟨positions, fun op => (hpositions op).1, hiff.mpr (Or.inr ⟨by decide, ?_, ?_⟩)⟩
  · exact Or.inr ⟨rfl, _, literalSlot_int64_integer rfl 2⟩
  · intro op
    rw [hunskipped pairFile_bound]
    refine ⟨fun filter hfilter => ?_, fun located _ _ filter hfilter => ?_⟩
    · rw [List.mem_singleton.mp hfilter]
      exact rowGroupBounds_basic rfl rfl rfl
    · rw [List.mem_singleton.mp hfilter]
      exact not_hazardousRow_integer (hinteger op) located

section

open Ieee Ieee.Format

def lossField : Field := ⟨"b", .int8, true, false, []⟩

def lossFile : ParquetFile where
  schema := [lossField]
  rowGroups := [columnGroup lossField [some (.int 5)] ⟨some (.int 5), some (.int 5)⟩
    (by decide) (by decide)]

/-- The literal `1000.0` does not fit the column: no operator returns the row. -/
theorem lost_literal_returns_nothing :
    (∀ op, readParquet referenceCrates (oneFile lossFile) () none
        [⟨"b", op, .float64 (Binary.ofInt binary64 1000)⟩] =
          .ok (columnBatch lossField [] (by decide)) ∧
      readPositions referenceCrates (oneFile lossFile) ()
        [⟨"b", op, .float64 (Binary.ofInt binary64 1000)⟩] = .ok []) ∧
      StatisticsBound lossFile ∧ ¬ Partitions lossFile 0 (fun _ => []) := by
  refine ⟨?_, ?_, ?_⟩
  · intro op
    cases op <;> decide +kernel
  · unfold StatisticsBound
    decide
  · intro hpart
    have hone := hpart.one ⟨0, 0, ⟨[some (.int 5)], by decide⟩⟩ (by decide) (by decide)
    simp at hone

end
end Pydart
