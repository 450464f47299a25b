import Pydart.Parquet.Literal
import Pydart.Parquet.Reference

/-! # Filters on dictionary columns

A dictionary column is compared by its decoded values, so its rows match as those
of the decoded column do. Only the guard for out-of-range integers does not look
into the dictionary, and the literal it would have answered for becomes null.
-/

namespace Pydart

open Ieee Ieee.Format

def DataType.isDictionaryValue : DataType → Bool
  | .float32 | .float64 | .utf8 => true
  | t => t.isInteger

theorem DataType.isBasic_of_isDictionaryValue {t : DataType} (h : t.isDictionaryValue = true) :
    t.isBasic = true ∧ t ≠ .boolean ∧ t.storage = t := by
  cases t <;> first | exact ⟨rfl, by decide, rfl⟩ | cases h

def keptRows (mask : BooleanArray) : List Bool := mask.map (· == some true)

/-- The literal lies outside the column's range, on the side the operator accepts. -/
def BeyondRange (t : DataType) (op : Op) (value : ScalarValue) : Prop :=
  ∃ v min max, value = .int64 v ∧ integerBounds t = some (min, max) ∧
    ((max < v.toInt ∧ (op = .ne ∨ op = .lt ∨ op = .le)) ∨
      (v.toInt < min ∧ (op = .ne ∨ op = .gt ∨ op = .ge)))

theorem outOfRangeMatch_eq_true_iff {t : DataType} {op : Op} {value : ScalarValue} :
    outOfRangeMatch t op value = some true ↔ BeyondRange t op value := by
  cases value with
  | int64 v =>
      cases hbounds : integerBounds t with
      | none => simp [outOfRangeMatch, BeyondRange, hbounds]
      | some bounds =>
          obtain ⟨min, max⟩ := bounds
          have hle : min ≤ max := by
            cases t <;> first | (cases hbounds; decide) | cases hbounds
          simp only [outOfRangeMatch, BeyondRange, hbounds]
          split
          · cases op <;> simp <;> omega
          · split
            · cases op <;> simp <;> omega
            · simp
              omega
  | _ => simp [outOfRangeMatch, BeyondRange]

section

variable {K : ArrowKernels}

theorem literalSlot_dictionary_iff {key t : DataType} (hkey : key.isInteger = true)
    (hbasic : t.isBasic = true) (hboolean : t ≠ .boolean) {value : ScalarValue} {slot : Slot} :
    LiteralSlot K (.dictionary key t) value slot ↔ LiteralSlot K t value slot := by
  constructor
  · rintro ⟨casted, hcast, hslots⟩
    obtain ⟨plain, hplain, heq⟩ := K.cast_dictionary (scalarValueToArray_isBasic value) hcast
    exact ⟨plain, hplain, heq.trans hslots⟩
  · rintro ⟨plain, hplain, hslots⟩
    have hlength : (scalarValueToArray value).slots.length ≤ 1 :=
      (scalarValueToArray_slots_length value).le
    obtain ⟨casted, hcast⟩ := K.cast_dictionary_ok hkey hbasic hboolean hlength hplain
    obtain ⟨plain', hplain', heq⟩ := K.cast_dictionary (scalarValueToArray_isBasic value) hcast
    cases hplain.symm.trans hplain'
    exact ⟨casted, hcast, heq.symm.trans hslots⟩

theorem literalSlot_dictionary {key t : DataType} (hkey : key.isInteger = true)
    (ht : t.isDictionaryValue = true) {value : ScalarValue} {slot : Slot} :
    LiteralSlot K (.dictionary key t) value slot ↔ LiteralSlot K t value slot :=
  literalSlot_dictionary_iff hkey (DataType.isBasic_of_isDictionaryValue ht).1
    (DataType.isBasic_of_isDictionaryValue ht).2.1

/-- Where the plain column is evaluated, so is the dictionary column. -/
theorem literalSlot_of_rowPredicate {t : DataType} {op : Op} {value : ScalarValue}
    {verdict : Slot → Option Bool} (h : rowPredicate K t op value = some verdict) :
    ∃ slot, LiteralSlot K t value slot := by
  cases hguard : outOfRangeMatch t op value with
  | some all =>
      obtain ⟨hint, v, rfl, -, -⟩ := outOfRangeMatch_eq_some hguard
      exact ⟨_, literalSlot_int64_integer hint v⟩
  | none =>
      unfold rowPredicate at h
      rw [hguard] at h
      cases hcast : K.cast (scalarValueToArray value) t with
      | error e => simp only [hcast, reduceCtorEq] at h
      | ok casted => exact ⟨_, casted, hcast, (cast_literal_slots hcast).2⟩

/-- The guard answers only for literals that become null in the column's type. -/
theorem literalSlot_of_guard {t : DataType} {op : Op} {value : ScalarValue} {all : Bool}
    (hguard : outOfRangeMatch t op value = some all) {slot : Slot}
    (hslot : LiteralSlot K t value slot) : slot = none := by
  obtain ⟨hint, v, rfl, hfits, -⟩ := outOfRangeMatch_eq_some hguard
  have heq := hslot.unique (literalSlot_int64_integer hint v)
  rw [hfits] at heq
  exact heq

/-- The rows of the dictionary column that match: those of the plain column, unless
the guard let them all through. -/
theorem rowPredicate_dictionary {key t : DataType} (hkey : key.isInteger = true)
    (ht : t.isDictionaryValue = true) {op : Op} {value : ScalarValue}
    {verdict : Slot → Option Bool} (h : rowPredicate K t op value = some verdict) :
    ∃ packed, rowPredicate K (.dictionary key t) op value = some packed ∧
      ∀ x, packed (some x) = some true ↔
        verdict (some x) = some true ∧ ¬ BeyondRange t op value := by
  obtain ⟨hbasic, -, hstorage⟩ := DataType.isBasic_of_isDictionaryValue ht
  have hcomp : K.comparable (.dictionary key t) = true := by
    apply K.comparable_basic
    rw [DataType.storage, hstorage]
    exact hbasic
  obtain ⟨slot, hslot⟩ := literalSlot_of_rowPredicate h
  obtain ⟨packed, hpacked⟩ := Option.isSome_iff_exists.mp
    (rowPredicate_isSome_of_literal op ((literalSlot_dictionary hkey ht).mpr hslot) hcomp)
  have hnone : outOfRangeMatch (.dictionary key t) op value = none :=
    outOfRangeMatch_not_integer rfl op value
  refine ⟨packed, hpacked, fun x => ?_⟩
  rw [rowPredicate_eq_true hpacked, rowPredicate_eq_true h, hnone, ← outOfRangeMatch_eq_true_iff]
  simp only [reduceCtorEq, true_and, false_or, DataType.storage, literalSlot_dictionary hkey ht]
  cases hguard : outOfRangeMatch t op value with
  | none => simp
  | some all =>
      have hnull : ∀ l, ¬ LiteralSlot K t value (some l) := by
        intro l hl
        cases literalSlot_of_guard hguard hl
      simp [hnull]

theorem keptRows_map_eq_iff (f g : Slot → Option Bool) (slots : List Slot) :
    keptRows (slots.map f) = keptRows (slots.map g) ↔
      ∀ slot ∈ slots, f slot = some true ↔ g slot = some true := by
  rw [keptRows, keptRows, List.map_map, List.map_map, List.map_inj_left]
  refine forall₂_congr fun slot _ => ?_
  rw [Bool.eq_iff_iff]
  simp only [Function.comp, beq_iff_eq]

/-! ## The two encodings of a column -/

/-- A dictionary column keeps the rows its decoded column keeps, exactly when the
literal is not one the guard lets every value through for, or no value is there. -/
theorem evaluatePredicate_dictionary_iff {batch plain : RecordBatch} {column decoded : ArrowArray}
    (hcolumn : batch.column 0 = some column) (hplain : plain.column 0 = some decoded)
    {key t : DataType} (hkey : key.isInteger = true) (ht : t.isDictionaryValue = true)
    (htype : column.dataType = .dictionary key t) (hdecoded : decoded.dataType = t)
    (hslots : decoded.slots = column.slots) {op : Op} {value : ScalarValue} {mask : BooleanArray}
    (hmask : evaluatePredicate K plain op value = .ok mask) :
    (∃ packed, evaluatePredicate K batch op value = .ok packed ∧
        keptRows packed = keptRows mask) ↔
      ¬ BeyondRange t op value ∨ ∀ slot ∈ column.slots, slot = none := by
  obtain ⟨verdict, hverdict, rfl⟩ := (evaluatePredicate_eq_ok hplain).mp hmask
  rw [hdecoded] at hverdict
  obtain ⟨packed, hpacked, hrows⟩ := rowPredicate_dictionary hkey ht hverdict
  rw [← htype] at hpacked
  have hnull : packed none ≠ some true ∧ verdict none ≠ some true :=
    ⟨rowPredicate_null hpacked, rowPredicate_null hverdict⟩
  have hbeyond : BeyondRange t op value → ∀ x, verdict (some x) = some true := by
    intro h x
    exact (rowPredicate_eq_true hverdict x).mpr (Or.inl (outOfRangeMatch_eq_true_iff.mpr h))
  simp only [evaluatePredicate_eq_ok hcolumn, hpacked, Option.some.injEq, exists_eq_left',
    hslots, keptRows_map_eq_iff]
  constructor
  · intro h
    by_cases hb : BeyondRange t op value
    · refine Or.inr fun slot hslot => ?_
      cases slot with
      | none => rfl
      | some x => exact absurd hb ((hrows x).mp ((h _ hslot).mpr (hbeyond hb x))).2
    · exact Or.inl hb
  · rintro h slot hslot
    cases slot with
    | none => simp [hnull]
    | some x =>
        rcases h with hb | hall
        · simp [hrows, hb]
        · cases hall _ hslot

end

/-! ## Five in two encodings -/

def fiveSlots : List Slot := [some (.int 5), none]

def plainFive : RecordBatch := columnBatch ⟨"n", .int8, true, false, []⟩ fiveSlots (by decide)

def packedFive : RecordBatch :=
  columnBatch ⟨"n", .dictionary .int32 .int8, true, false, []⟩ fiveSlots (by decide)

theorem evaluatePredicate_dictionary_five :
    (∃ packed, evaluatePredicate referenceKernels packedFive .lt (.int64 7) = .ok packed ∧
        keptRows packed = keptRows [some true, none]) ↔
      ¬ BeyondRange .int8 .lt (.int64 7) ∨ ∀ slot ∈ fiveSlots, slot = none := by
  obtain ⟨column, hcolumn⟩ : ∃ column, packedFive.column 0 = some column := ⟨_, rfl⟩
  obtain ⟨decoded, hdecoded⟩ : ∃ decoded, plainFive.column 0 = some decoded := ⟨_, rfl⟩
  have hslots : column.slots = fiveSlots := by
    cases hcolumn
    rfl
  rw [← hslots]
  have hkey : DataType.int32.isInteger = true := rfl
  have ht : DataType.int8.isDictionaryValue = true := rfl
  exact evaluatePredicate_dictionary_iff hcolumn hdecoded hkey ht (by cases hcolumn; rfl)
    (by cases hdecoded; rfl) (by cases hcolumn; cases hdecoded; rfl) (by decide +kernel)

/-- `5 != 1000` holds of the value, and only the plain column keeps it. -/
theorem dictionary_drops_row :
    evaluatePredicate referenceKernels plainFive .ne (.int64 1000) =
        .ok [some true, some false] ∧
      evaluatePredicate referenceKernels packedFive .ne (.int64 1000) = .ok [none, none] := by
  constructor
  · decide +kernel
  · decide +kernel

end Pydart
