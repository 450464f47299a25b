import Pydart.Arrow.Types
import Mathlib.Data.List.Forall2

/-! # Schemas, arrays and record batches

A batch is kept row by row, which is how filters, projections and concatenation
act on it; `RecordBatch.column` gives the column view the kernels work on.
-/

namespace Pydart

inductive ArrowError where
  | schemaError (message : String)
  | invalidArgumentError (message : String)
  | castError (message : String)
  | notYetImplemented (message : String)
deriving DecidableEq, Repr

structure Field where
  name : String
  dataType : DataType
  nullable : Bool
  ordered : Bool
  metadata : List (String × String)
deriving DecidableEq, Repr

abbrev Schema := List Field

namespace Field

/-- The ordering flag, which only a dictionary field has. -/
def dictIsOrdered (field : Field) : Option Bool :=
  match field.dataType with
  | .dictionary _ _ => some field.ordered
  | _ => none

def admits (field : Field) : Slot → Bool
  | none => field.nullable
  | some v => v.hasType field.dataType

end Field

/-- One slot for each field, each of the field's type. -/
def RowTyped (schema : Schema) (slots : List Slot) : Prop :=
  List.Forall₂ (fun field slot => field.admits slot = true) schema slots

instance (schema : Schema) (slots : List Slot) : Decidable (RowTyped schema slots) :=
  inferInstanceAs (Decidable (List.Forall₂ _ schema slots))

structure Row (schema : Schema) where
  slots : List Slot
  typed : RowTyped schema slots
deriving DecidableEq

/-- The entries at the given positions; a position past the end selects nothing. -/
def pick {α : Type} (entries : List α) (indices : List Nat) : List α :=
  indices.filterMap (entries[·]?)

theorem forall₂_getElem? {α β : Type} {R : α → β → Prop} {as : List α} {bs : List β}
    (h : List.Forall₂ R as bs) {i : Nat} {a : α} {b : β} (ha : as[i]? = some a)
    (hb : bs[i]? = some b) : R a b := by
  induction h generalizing i with
  | nil => cases ha
  | cons hhead _ ih =>
      cases i with
      | zero =>
          cases ha
          cases hb
          exact hhead
      | succ i => exact ih ha hb

theorem forall₂_exists_of_mem {α β : Type} {R : α → β → Prop} {as : List α} {bs : List β}
    (h : List.Forall₂ R as bs) {a : α} (ha : a ∈ as) : ∃ b ∈ bs, R a b := by
  induction h with
  | nil => cases ha
  | cons hhead _ ih =>
      cases List.mem_cons.mp ha with
      | inl heq => exact ⟨_, List.mem_cons_self, heq ▸ hhead⟩
      | inr hmem =>
          obtain ⟨b, hb, hab⟩ := ih hmem
          exact ⟨b, List.mem_cons_of_mem _ hb, hab⟩

theorem forall₂_pick {α β : Type} {R : α → β → Prop} {as : List α} {bs : List β}
    (h : List.Forall₂ R as bs) (indices : List Nat) :
    List.Forall₂ R (pick as indices) (pick bs indices) := by
  induction indices with
  | nil => exact List.Forall₂.nil
  | cons i rest ih =>
      have hlen := h.length_eq
      cases ha : as[i]? with
      | none =>
          have hb : bs[i]? = none := by
            rw [List.getElem?_eq_none_iff] at ha ⊢
            omega
          simpa only [pick, List.filterMap_cons, ha, hb] using ih
      | some a =>
          obtain ⟨b, hb⟩ : ∃ b, bs[i]? = some b := by
            obtain ⟨hi, -⟩ := List.getElem?_eq_some_iff.mp ha
            exact ⟨bs[i], List.getElem?_eq_getElem (by omega)⟩
          simp only [pick, List.filterMap_cons, ha, hb]
          exact List.Forall₂.cons (forall₂_getElem? h ha hb) ih

namespace RowTyped

variable {schema : Schema} {slots : List Slot}

theorem length_eq (h : RowTyped schema slots) : schema.length = slots.length :=
  List.Forall₂.length_eq h

theorem admits {i : Nat} (h : RowTyped schema slots) {field : Field} {slot : Slot}
    (hf : schema[i]? = some field) (hs : slots[i]? = some slot) : field.admits slot = true :=
  forall₂_getElem? h hf hs

theorem pick (h : RowTyped schema slots) (indices : List Nat) :
    RowTyped (Pydart.pick schema indices) (Pydart.pick slots indices) :=
  forall₂_pick h indices

end RowTyped

namespace Row

variable {schema : Schema}

theorem ext_slots {a b : Row schema} (h : a.slots = b.slots) : a = b := by
  cases a
  cases b
  subst h
  rfl

def pick (row : Row schema) (indices : List Nat) : Row (Pydart.pick schema indices) :=
  ⟨Pydart.pick row.slots indices, row.typed.pick indices⟩

/-- The slot in column `i`, null when the row has no such column. -/
def slot (row : Row schema) (i : Nat) : Slot := row.slots.getD i none

theorem slots_getElem? (row : Row schema) {i : Nat} (hi : i < schema.length) :
    row.slots[i]? = some (row.slot i) := by
  have hlen := row.typed.length_eq
  rw [slot, List.getD_eq_getElem?_getD, List.getElem?_eq_getElem (by omega), Option.getD_some]

theorem slot_hasType (row : Row schema) {i : Nat} {field : Field}
    (hf : schema[i]? = some field) {v : Value} (hv : row.slot i = some v) :
    v.hasType field.dataType = true := by
  have hi : i < schema.length := (List.getElem?_eq_some_iff.mp hf).1
  have hs := row.slots_getElem? hi
  rw [hv] at hs
  exact row.typed.admits hf hs

end Row

/-! ## Arrays -/

structure ArrowArray where
  dataType : DataType
  slots : List Slot
  typed : ∀ v, some v ∈ slots → v.hasType dataType = true

namespace ArrowArray

def length (array : ArrowArray) : Nat := array.slots.length

def isNull (array : ArrowArray) (i : Nat) : Bool := (array.slots.getD i none).isNone

theorem ext_slots {a b : ArrowArray} (ht : a.dataType = b.dataType) (hs : a.slots = b.slots) :
    a = b := by
  cases a
  cases b
  subst ht hs
  rfl

def single (dataType : DataType) (v : Value) (h : v.hasType dataType = true) : ArrowArray where
  dataType := dataType
  slots := [some v]
  typed := by
    intro w hw
    rw [List.mem_singleton, Option.some.injEq] at hw
    subst hw
    exact h

end ArrowArray

/-! ## Record batches -/

structure RecordBatch where
  schema : Schema
  rows : List (List Slot)
  typed : ∀ row ∈ rows, RowTyped schema row
deriving DecidableEq

def indexOf (schema : Schema) (name : String) : Except ArrowError Nat :=
  match schema.findIdx? (fun field => decide (field.name = name)) with
  | some i => .ok i
  | none => .error (.schemaError name)

namespace RecordBatch

theorem ext_rows {a b : RecordBatch} (hs : a.schema = b.schema) (hr : a.rows = b.rows) :
    a = b := by
  cases a
  cases b
  subst hs hr
  rfl

def ofRows {schema : Schema} (rows : List (Row schema)) : RecordBatch where
  schema := schema
  rows := rows.map Row.slots
  typed := by
    intro slots hslots
    obtain ⟨row, -, rfl⟩ := List.mem_map.mp hslots
    exact row.typed

def newEmpty (schema : Schema) : RecordBatch := ofRows ([] : List (Row schema))

def numRows (batch : RecordBatch) : Nat := batch.rows.length

/-- Column `i`, or `none` where the crate panics on the index. -/
def column (batch : RecordBatch) (i : Nat) : Option ArrowArray :=
  match hf : batch.schema[i]? with
  | none => none
  | some field => some
      { dataType := field.dataType
        slots := batch.rows.map (·.getD i none)
        typed := by
          intro v hv
          obtain ⟨row, hrow, hslot⟩ := List.mem_map.mp hv
          exact Row.slot_hasType ⟨row, batch.typed row hrow⟩ hf hslot }

/-- Reorder and repeat columns; fails when an index is out of bounds. -/
def project (batch : RecordBatch) (indices : List Nat) : Except ArrowError RecordBatch :=
  if indices.all (decide <| · < batch.schema.length) then
    .ok
      { schema := pick batch.schema indices
        rows := batch.rows.map (pick · indices)
        typed := by
          intro slots hslots
          obtain ⟨row, hrow, rfl⟩ := List.mem_map.mp hslots
          exact (batch.typed row hrow).pick indices }
  else .error (.schemaError "project index out of bounds")

theorem column_eq_none {batch : RecordBatch} {i : Nat} (h : batch.schema[i]? = none) :
    batch.column i = none := by
  unfold column
  split
  · rfl
  · simp_all

theorem column_eq_some {batch : RecordBatch} {i : Nat} {field : Field}
    (h : batch.schema[i]? = some field) :
    ∃ array, batch.column i = some array ∧ array.dataType = field.dataType ∧
      array.slots = batch.rows.map (·.getD i none) := by
  unfold column
  split
  · simp_all
  · rename_i found hfound
    rw [h, Option.some.injEq] at hfound
    subst hfound
    exact ⟨_, rfl, rfl, rfl⟩

end RecordBatch

/-! ## Tables -/

/-- Batches under the schema they share; there may be none. -/
structure PyTable where
  schema : Schema
  batches : List RecordBatch
  uniform : ∀ batch ∈ batches, batch.schema = schema

namespace PyTable

def ofBatch (batch : RecordBatch) : PyTable where
  schema := batch.schema
  batches := [batch]
  uniform := by simp

def rows (table : PyTable) : List (List Slot) := table.batches.flatMap (·.rows)

end PyTable
end Pydart
