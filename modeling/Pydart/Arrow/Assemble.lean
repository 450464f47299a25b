import Pydart.Arrow.Batch
import Pydart.Outcome

/-! # Batches from columns

`RecordBatch::try_new` turns fields and arrays of one length into a batch. The
batch holds the arrays' slots row by row, and its columns are the arrays again.
-/

namespace Pydart

def rowSlots (arrays : List ArrowArray) (i : Nat) : List Slot :=
  arrays.map (·.slots.getD i none)

/-- Row by row, the first `rows` slots of the arrays. -/
def transpose (arrays : List ArrowArray) (rows : Nat) : List (List Slot) :=
  (List.range rows).map (rowSlots arrays)

def Fits (field : Field) (array : ArrowArray) : Prop :=
  field.dataType = array.dataType ∧ (field.nullable = true ∨ none ∉ array.slots)

namespace RecordBatch

/-- The checks in the crate's order: counts, some column, nulls, lengths, types. -/
def tryNew (schema : Schema) (arrays : List ArrowArray) : Except ArrowError RecordBatch :=
  if schema.length ≠ arrays.length then
    .error (.invalidArgumentError (s!"number of columns({arrays.length}) must match number of " ++
      s!"fields({schema.length}) in schema"))
  else
    match arrays.head? with
    | none =>
        .error (.invalidArgumentError "must either specify a row count or at least one column")
    | some first =>
        match (arrays.zip schema).find? fun (array, field) =>
            !field.nullable && array.slots.contains none with
        | some (_, field) =>
            .error (.invalidArgumentError
              s!"Column '{field.name}' is declared as non-nullable but contains null values")
        | none =>
            if arrays.any (fun array => array.length != first.length) then
              .error (.invalidArgumentError
                "all columns in a record batch must have the same length")
            else if h : ∀ row ∈ transpose arrays first.length, RowTyped schema row then
              .ok ⟨schema, transpose arrays first.length, h⟩
            else
              .error (.invalidArgumentError "column types must match schema types")

end RecordBatch

/-! ## When the columns make a batch -/

theorem rowTyped_rowSlots {schema : Schema} {arrays : List ArrowArray}
    (hfits : List.Forall₂ Fits schema arrays) {rows i : Nat}
    (hlen : ∀ array ∈ arrays, array.length = rows) (hi : i < rows) :
    RowTyped schema (rowSlots arrays i) := by
  induction hfits with
  | nil => exact List.Forall₂.nil
  | cons hhead _ ih =>
      rename_i field array schema arrays _
      refine List.Forall₂.cons ?_ (ih fun a ha => hlen a (List.mem_cons_of_mem _ ha))
      have hslots : i < array.slots.length := by
        have hrows : array.slots.length = rows := hlen array List.mem_cons_self
        omega
      have hget : array.slots.getD i none = array.slots[i] := by
        rw [List.getD_eq_getElem?_getD, List.getElem?_eq_getElem hslots, Option.getD_some]
      simp only [hget]
      cases hslot : array.slots[i] with
      | none =>
          have hmem : none ∈ array.slots := hslot ▸ List.getElem_mem hslots
          rcases hhead.2 with hnull | hnot
          · exact hnull
          · exact absurd hmem hnot
      | some v =>
          have hmem : some v ∈ array.slots := hslot ▸ List.getElem_mem hslots
          simp only [Field.admits, hhead.1]
          exact array.typed v hmem

namespace RecordBatch

theorem find_null_of_fits {schema : Schema} {arrays : List ArrowArray}
    (hfits : List.Forall₂ Fits schema arrays) :
    (arrays.zip schema).find? (fun (array, field) =>
      !field.nullable && array.slots.contains none) = none := by
  rw [List.find?_eq_none]
  rintro ⟨array, field⟩ hmem
  have hfit : Fits field array := (List.forall₂_iff_zip.mp hfits.flip).2 hmem
  rcases hfit.2 with hnull | hnot
  · simp [hnull]
  · simp [hnot]

/-- Fields that fit arrays of one length, at least one, make a batch of their rows. -/
theorem tryNew_ok {schema : Schema} {arrays : List ArrowArray}
    (hfits : List.Forall₂ Fits schema arrays) {rows : Nat}
    (hlen : ∀ array ∈ arrays, array.length = rows) (hne : arrays ≠ []) :
    ∃ batch, tryNew schema arrays = .ok batch ∧ batch.schema = schema ∧
      batch.rows = transpose arrays rows := by
  obtain ⟨first, rest, rfl⟩ := List.exists_cons_of_ne_nil hne
  have hfirst : first.length = rows := hlen first List.mem_cons_self
  have hany : (first :: rest).any (fun array => array.length != first.length) = false := by
    rw [List.any_eq_false]
    intro array hmem
    rw [hlen array hmem, hfirst]
    simp
  have htyped : ∀ row ∈ transpose (first :: rest) first.length, RowTyped schema row := by
    intro row hrow
    obtain ⟨i, hi, rfl⟩ := List.mem_map.mp hrow
    exact rowTyped_rowSlots hfits hlen (hfirst ▸ List.mem_range.mp hi)
  refine ⟨⟨schema, transpose (first :: rest) first.length, htyped⟩, ?_, rfl,
    congrArg (transpose (first :: rest)) hfirst⟩
  unfold tryNew
  rw [if_neg (not_not.mpr hfits.length_eq), List.head?_cons]
  simp only [find_null_of_fits hfits, hany]
  rw [if_neg (by decide), dif_pos htyped]

/-- A batch that was made: its schema, its rows and what the checks established. -/
theorem tryNew_eq_ok {schema : Schema} {arrays : List ArrowArray} {batch : RecordBatch}
    (h : tryNew schema arrays = .ok batch) :
    batch.schema = schema ∧ schema.length = arrays.length ∧ arrays ≠ [] ∧ ∃ rows,
      (∀ array ∈ arrays, array.length = rows) ∧ batch.rows = transpose arrays rows := by
  unfold tryNew at h
  split at h
  · cases h
  · rename_i hlen
    split at h
    · cases h
    · rename_i first hfirst
      split at h
      · cases h
      · split at h
        · cases h
        · rename_i hany
          split at h
          · cases h
            refine ⟨rfl, not_not.mp hlen, ?_, first.length, ?_, rfl⟩
            · rintro rfl
              cases hfirst
            · intro array hmem
              have hall : ∀ array ∈ arrays, array.length = first.length := by simpa using hany
              exact hall array hmem
          · cases h

end RecordBatch

/-! ## The columns again -/

theorem length_transpose (arrays : List ArrowArray) (rows : Nat) :
    (transpose arrays rows).length = rows := by
  rw [transpose, List.length_map, List.length_range]

/-- Column `j` of the rows is array `j`. -/
theorem map_getD_transpose {arrays : List ArrowArray} {rows j : Nat} {array : ArrowArray}
    (hj : arrays[j]? = some array) (hlen : array.length = rows) :
    (transpose arrays rows).map (·.getD j none) = array.slots := by
  have hslots : array.slots.length = rows := hlen
  apply List.ext_getElem
  · rw [List.length_map, length_transpose, hslots]
  · intro i h₁ h₂
    simp only [transpose, rowSlots, List.getElem_map, List.getElem_range]
    rw [List.getD_eq_getElem?_getD, List.getElem?_map, hj]
    simp [List.getD_eq_getElem?_getD, List.getElem?_eq_getElem h₂]

/-- The arrays are the columns of the batch they make. -/
theorem RecordBatch.column_tryNew {schema : Schema} {arrays : List ArrowArray}
    {batch : RecordBatch} (h : tryNew schema arrays = .ok batch) {j : Nat} {field : Field}
    {array : ArrowArray} (hf : schema[j]? = some field) (ha : arrays[j]? = some array)
    (htype : field.dataType = array.dataType) : batch.column j = some array := by
  obtain ⟨hschema, -, -, rows, hlen, hrows⟩ := tryNew_eq_ok h
  rw [← hschema] at hf
  obtain ⟨column, hcolumn, hcolumnType, hslots⟩ := column_eq_some hf
  rw [hcolumn, Option.some.injEq]
  apply ArrowArray.ext_slots
  · rw [hcolumnType, htype]
  · rw [hslots, hrows, map_getD_transpose ha (hlen array (List.mem_of_getElem? ha))]

/-- Rows of full width are put together again from their columns. -/
theorem transpose_columns {rows : List (List Slot)} {arrays : List ArrowArray} {width : Nat}
    (hwidth : ∀ row ∈ rows, row.length = width) (hlen : arrays.length = width)
    (hcolumns : ∀ j array, arrays[j]? = some array → array.slots = rows.map (·.getD j none)) :
    transpose arrays rows.length = rows := by
  apply List.ext_getElem
  · exact length_transpose _ _
  · intro i h₁ h₂
    have hrow := hwidth _ (List.getElem_mem h₂)
    simp only [transpose, List.getElem_map, List.getElem_range, rowSlots]
    apply List.ext_getElem
    · rw [List.length_map, hlen, hrow]
    · intro j h₃ h₄
      have hj : j < arrays.length := by
        rw [List.length_map] at h₃
        exact h₃
      rw [List.getElem_map, hcolumns j _ (List.getElem?_eq_getElem hj)]
      simp [List.getD_eq_getElem?_getD, List.getElem?_eq_getElem h₂, List.getElem?_eq_getElem h₄]

end Pydart
