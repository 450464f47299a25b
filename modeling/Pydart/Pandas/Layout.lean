import Pydart.Pandas.Records

/-! # Flat and strided numpy buffers

A flat buffer of numbers is borrowed, a strided one goes through the stream. Half
floats apart, the two conversions fail together, and they agree but for nullability
and where numpy holds NaN.
-/

namespace Pydart

open Ieee Ieee.Format

section

variable {P : PandasCrates} {df df' : DataFrame} {label : Label}

/-! ## One column -/

/-- Frames with related columns under the same labels answer a lookup alike. -/
theorem getItem_related {R : Series → Series → Prop}
    (h : List.Forall₂ (fun a b => a.1 = b.1 ∧ R a.2 b.2) df.columns df'.columns) (label : Label) :
    Except.Related R (df.getItem label) (df'.getItem label) := by
  have hfilter : List.Forall₂ (fun a b => a.1 = b.1 ∧ R a.2 b.2)
      (df.columns.filter (fun column => decide (column.1 = label)))
      (df'.columns.filter (fun column => decide (column.1 = label))) := by
    generalize df.columns = columns, df'.columns = columns' at h
    induction h with
    | nil => exact List.Forall₂.nil
    | cons hhead _ ih =>
        rw [List.filter_cons, List.filter_cons, hhead.1]
        split
        · exact List.Forall₂.cons hhead ih
        · exact ih
  unfold DataFrame.getItem
  generalize df.columns.filter (fun column => decide (column.1 = label)) = found,
    df'.columns.filter (fun column => decide (column.1 = label)) = found' at hfilter
  cases hfilter with
  | nil => exact Or.inl ⟨_, _, rfl, rfl⟩
  | cons hhead hrest =>
      cases hrest with
      | nil => exact Or.inr ⟨_, _, rfl, rfl, hhead.2⟩
      | cons _ _ => exact Or.inl ⟨_, _, rfl, rfl⟩

theorem convertColumn_fits {column : ConvertedColumn}
    (h : convertColumn P df label = .ok column.state) : Fits column.field column.array.array := by
  refine ⟨(convertColumn_field h).1, ?_⟩
  obtain ⟨series, backend, column', -, hstate, -, harm⟩ := convertColumn_eq_ok h
  cases ConvertedColumn.state_injective hstate
  rcases harm with ⟨-, ⟨values, t, ht, -, -, -, -, -, harray⟩, -⟩ |
      ⟨-, ⟨table, kind, flag, htable, -, -, -, -, -, hfield⟩, -⟩
  · refine Or.inr ?_
    rw [harray]
    simp [NumpyArray.borrowed]
  · refine Or.inl ?_
    rw [hfield, buildField_nullable, P.stream_nullable htable]

theorem fromPandas_eq_mapM :
    fromPandas P df = (do
      let states ← (df.columns.map (·.1)).mapM (convertColumn P df)
      let state := states.foldl ImportState.append ImportState.new
      let batch ← (RecordBatch.tryNew state.fields (state.arrays.map (·.array))).mapError .arrow
      pure ⟨batch, state.records⟩) := by
  unfold fromPandas
  rw [foldlM_fromPandasStep]
  cases (df.columns.map (·.1)).mapM (convertColumn P df) <;> rfl

variable (P)

end
end Pydart
