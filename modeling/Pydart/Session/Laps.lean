import Pydart.Session.Failures

/-! # Frames that go back

A program may hand a frame of `to_pandas` to `from_pandas` again, at once or later.
Whatever the table was made of, its schema decides whether the frame is taken, and which
field is to blame if it is not.
-/

namespace Pydart

open Machines

/-! ## Schemas -/

structure Schema.Returns (schema : Schema) : Prop where
  fields : schema ≠ []
  names : (schema.map (·.name)).Nodup
  types : ∀ field ∈ schema, field.dataType.comesBack

section

variable (P : PandasCrates)

inductive TypeRefused (field : Field) : PydartError → Prop where
  | dtype {reason : String} (hplain : field.dataType.isDictionary = false)
      (h : DtypeRefused P (.arrow field.dataType) reason) :
      TypeRefused field
        (.unsupportedColumn field.name (P.str (.arrow field.dataType)) reason)

/-- Why a field stops the way back: its name is another's too, or its type is refused. -/
inductive FieldRefused (schema : Schema) (field : Field) : PydartError → Prop where
  | repeated (h : 1 < (schema.map (·.name)).count field.name) :
      FieldRefused schema field (.python "AttributeError")
  | type {e : PydartError} (hname : (schema.map (·.name)).count field.name = 1)
      (h : TypeRefused P field e) : FieldRefused schema field e

/-- Without fields there is no batch; otherwise the first field that does not come back
is reported. -/
inductive ReturnRefused (schema : Schema) : PydartError → Prop where
  | empty (h : schema = []) :
      ReturnRefused schema (.arrow
        (.invalidArgumentError "must either specify a row count or at least one column"))
  | field {before after : Schema} {field : Field} {e : PydartError}
      (hsplit : schema = before ++ field :: after)
      (hbefore : ∀ taken ∈ before,
        (schema.map (·.name)).count taken.name = 1 ∧ taken.dataType.comesBack)
      (h : FieldRefused P schema field e) : ReturnRefused schema e

variable {P}

/-! ## Columns of a frame that was shown -/

theorem Reconstructs.cases {field : Field} {slots : List Slot} {column : Label × Series}
    (h : Reconstructs typesMapper field slots column) :
    (∃ array, column.2 = .arrow array ∧ array.dataType = field.dataType ∧
        field.dataType.isDictionary = false) ∨
      ∃ array key value, column.2 = .categorical field.ordered (some array) ∧
        field.dataType = .dictionary key value := by
  obtain ⟨-, hseries⟩ := h
  cases hdict : field.dataType.isDictionary with
  | false =>
      have hmapped : typesMapper field.dataType = some (.arrow field.dataType) := by
        rw [typesMapper, hdict]
        rfl
      rw [hmapped] at hseries
      obtain ⟨array, harrow, htype, -⟩ := hseries
      exact Or.inl ⟨array, harrow, htype, rfl⟩
  | true =>
      have hmapped : typesMapper field.dataType = none := by
        rw [typesMapper, hdict]
        rfl
      rw [hmapped] at hseries
      obtain ⟨array, hcategorical, htype, -⟩ := hseries
      exact Or.inr ⟨array, array.key, array.value, hcategorical, htype⟩

theorem Reconstructs.accepted_iff {field : Field} {slots : List Slot} {column : Label × Series}
    (h : Reconstructs typesMapper field slots column) :
    column.2.accepted = true ↔ field.dataType.comesBack := by
  rcases h.cases with ⟨array, harrow, htype, hplain⟩ | ⟨array, key, value, hcategorical, hdict⟩
  · have haccepted : column.2.accepted = field.dataType.importable := by
      rw [harrow, ← htype]
      rfl
    rw [haccepted]
    constructor
    · exact Or.inl
    · rintro (himportable | ⟨key, value, hdict⟩)
      · exact himportable
      · rw [hdict] at hplain
        cases hplain
  · rw [hcategorical]
    exact iff_of_true rfl (Or.inr ⟨key, value, hdict⟩)

theorem Reconstructs.refused_iff {field : Field} {slots : List Slot} {column : Label × Series}
    (h : Reconstructs typesMapper field slots column) {e : PydartError} :
    ColumnRefused P column.1 column.2 e ↔ TypeRefused P field e := by
  rw [h.1]
  rcases h.cases with ⟨array, harrow, htype, hplain⟩ | ⟨array, key, value, hcategorical, hdict⟩
  · have hdtype : (Series.arrow array).dtype = .arrow field.dataType := by
      rw [← htype]
      rfl
    rw [harrow]
    constructor
    · intro hrefused
      cases hrefused with
      | dtype hreason =>
          rw [hdtype] at hreason ⊢
          exact .dtype hplain hreason
      | stream hseries =>
          rcases hseries with ⟨values, heq, -⟩ | ⟨ordered, heq⟩
          · cases heq
          · cases heq
    · rintro ⟨-, hreason⟩
      rw [← hdtype] at hreason ⊢
      exact .dtype hreason
  · rw [hcategorical]
    constructor
    · intro hrefused
      cases hrefused with
      | dtype hreason =>
          cases hreason with
          | unit hunit => cases hunit
      | stream hseries =>
          rcases hseries with ⟨values, heq, -⟩ | ⟨ordered, heq⟩
          · cases heq
          · cases heq
    · rintro ⟨hplain, -⟩
      rw [hdict] at hplain
      cases hplain

end

/-! ## Frames that were shown -/

section

variable {P : PandasCrates} {batch : RecordBatch} {back : DataFrame}

theorem Schema.tells_of_count {schema : Schema} {field : Field} (hfield : field ∈ schema)
    (hcount : (schema.map (·.name)).count field.name = 1) : schema.Tells field := by
  intro other hother hname
  have hlength := (length_filter_key schema (·.name) field.name).trans hcount
  obtain ⟨only, honly⟩ := List.length_eq_one_iff.mp hlength
  have hmem : ∀ f ∈ schema, f.name = field.name → f = only := by
    intro f hf hsame
    have hkept : f ∈ schema.filter fun f => decide (f.name = field.name) :=
      List.mem_filter.mpr ⟨hf, decide_eq_true hsame⟩
    rwa [honly, List.mem_singleton] at hkept
  rw [hmem other hother hname, hmem field hfield rfl]

/-- The column beside its field: under its name, and as it is if the name is its own. -/
structure BackColumn (schema : Schema) (field : Field) (column : Label × Series) : Prop where
  label : column.1 = .str field.name
  series : (schema.map (·.name)).count field.name = 1 →
    ∃ slots, Reconstructs typesMapper field slots column

theorem BackFrame.forall₂ (h : BackFrame batch back) :
    List.Forall₂ (BackColumn batch.schema) batch.schema back.columns := by
  rw [List.forall₂_iff_get]
  refine ⟨h.length.symm, fun j hj hj' => ?_⟩
  have hf := List.getElem?_eq_getElem hj
  have hc := List.getElem?_eq_getElem hj'
  exact ⟨h.label_eq hf hc, fun hcount =>
    ⟨_, h.column j _ _ hf hc (Schema.tells_of_count (List.getElem_mem hj) hcount)⟩⟩

theorem BackFrame.taken_iff (h : BackFrame batch back) : back.Taken ↔ batch.schema.Returns := by
  have hcolumns : back.columns ≠ [] ↔ batch.schema ≠ [] := by
    rw [← List.length_pos_iff, ← List.length_pos_iff, h.length]
  have htypes (hnodup : (batch.schema.map (·.name)).Nodup) :
      (∀ column ∈ back.columns, column.2.accepted = true) ↔
        ∀ field ∈ batch.schema, field.dataType.comesBack := by
    have hone : ∀ field ∈ batch.schema, (batch.schema.map (·.name)).count field.name = 1 :=
      fun field hfield => List.count_eq_one_of_mem hnodup (List.mem_map_of_mem hfield)
    constructor
    · intro haccepted field hfield
      obtain ⟨column, hcolumn, hback⟩ := forall₂_exists_of_mem h.forall₂ hfield
      obtain ⟨slots, hseries⟩ := hback.series (hone field hfield)
      exact hseries.accepted_iff.mp (haccepted column hcolumn)
    · intro hall column hcolumn
      obtain ⟨field, hfield, hback⟩ := forall₂_exists_of_mem h.forall₂.flip hcolumn
      obtain ⟨slots, hseries⟩ := hback.series (hone field hfield)
      exact hseries.accepted_iff.mpr (hall field hfield)
  constructor
  · rintro ⟨hne, hlabels, haccepted⟩
    have hnodup := h.nodup_iff.mp hlabels
    exact ⟨hcolumns.mp hne, hnodup, (htypes hnodup).mp haccepted⟩
  · rintro ⟨hne, hnodup, hall⟩
    exact ⟨hcolumns.mpr hne, h.nodup_iff.mpr hnodup, (htypes hnodup).mpr hall⟩

theorem BackFrame.refused_iff (h : BackFrame batch back) {field : Field} {column : Label × Series}
    (hcolumn : BackColumn batch.schema field column) {e : PydartError} :
    Refused P back column e ↔ FieldRefused P batch.schema field e := by
  have hcount := h.count field.name
  rw [← hcolumn.label] at hcount
  constructor
  · rintro (hrepeated | ⟨hone, hrefused⟩)
    · exact .repeated (hcount ▸ hrepeated)
    · obtain ⟨slots, hback⟩ := hcolumn.series (hcount ▸ hone)
      exact .type (hcount ▸ hone) (hback.refused_iff.mp hrefused)
  · rintro (hrepeated | ⟨hone, hrefused⟩)
    · exact .repeated (hcount ▸ hrepeated)
    · obtain ⟨slots, hback⟩ := hcolumn.series hone
      exact .column (hcount ▸ hone) (hback.refused_iff.mpr hrefused)

theorem forall₂_split {α β : Type} {R : α → β → Prop} {as before after : List α} {a : α}
    {bs : List β} (hsplit : as = before ++ a :: after) (h : List.Forall₂ R as bs) :
    ∃ before' b after', bs = before' ++ b :: after' ∧ List.Forall₂ R before before' ∧ R a b := by
  subst hsplit
  have hbefore := List.forall₂_take_append bs before (a :: after) h.flip
  have hrest := List.forall₂_drop_append bs before (a :: after) h.flip
  obtain ⟨b, after', hhead, -, hdrop⟩ := List.forall₂_cons_right_iff.mp hrest
  refine ⟨bs.take before.length, b, after', ?_, hbefore.flip, hhead⟩
  rw [← hdrop, List.take_append_drop]

theorem BackFrame.frameRefused_iff (h : BackFrame batch back) {e : PydartError} :
    FrameRefused P back e ↔ ReturnRefused P batch.schema e := by
  have htaken : ∀ {field : Field} {column : Label × Series},
      BackColumn batch.schema field column →
        ((back.columns.map (·.1)).count column.1 = 1 ∧ column.2.accepted = true ↔
          (batch.schema.map (·.name)).count field.name = 1 ∧ field.dataType.comesBack) := by
    intro field column hcolumn
    rw [hcolumn.label, h.count]
    refine and_congr_right fun hone => ?_
    obtain ⟨slots, hback⟩ := hcolumn.series hone
    exact hback.accepted_iff
  constructor
  · intro hrefused
    cases hrefused with
    | empty hnil => exact .empty (List.length_eq_zero_iff.mp (by rw [← h.length, hnil]; rfl))
    | column hsplit hbefore hcolumn =>
        obtain ⟨fields, field, rest, hschema, htakes, hback⟩ :=
          forall₂_split hsplit h.forall₂.flip
        refine .field hschema (fun taken hmem => ?_) ((h.refused_iff hback).mp hcolumn)
        obtain ⟨column, hin, hfield⟩ := forall₂_exists_of_mem htakes.flip hmem
        exact (htaken hfield).mp (hbefore column hin)
  · intro hrefused
    cases hrefused with
    | empty hnil => exact .empty (List.length_eq_zero_iff.mp (by rw [h.length, hnil]; rfl))
    | field hsplit hbefore hfield =>
        obtain ⟨columns, column, rest, hback', htakes, hback⟩ :=
          forall₂_split hsplit h.forall₂
        refine .column hback' (fun taken hmem => ?_) ((h.refused_iff hback).mpr hfield)
        obtain ⟨field, hin, hcolumn⟩ := forall₂_exists_of_mem htakes.flip hmem
        exact (htaken hcolumn).mpr (hbefore field hin)

theorem BackFrame.fromPandas (h : BackFrame batch back) :
    (batch.schema.Returns ∧ ∃ outcome, Pydart.fromPandas P back = .ok outcome ∧
        ComesBack batch outcome.batch) ∨
      (¬ batch.schema.Returns ∧ ∃ e, ReturnRefused P batch.schema e ∧
        Pydart.fromPandas P back = .error e) := by
  cases houtcome : Pydart.fromPandas P back with
  | ok outcome =>
      have hreturns := h.taken_iff.mp (fromPandas_taken_iff.mp ⟨outcome, houtcome⟩)
      exact Or.inl ⟨hreturns, outcome, rfl, h.comesBack hreturns.types houtcome⟩
  | error e =>
      refine Or.inr ⟨fun hreturns => ?_, e, ?_, rfl⟩
      · obtain ⟨outcome, hok⟩ := fromPandas_taken_iff (P := P).mpr (h.taken_iff.mpr hreturns)
        cases houtcome.symm.trans hok
      · exact h.frameRefused_iff.mp (fromPandas_eq_error.mp houtcome)

end

/-! ## In a session -/

section

variable {W : Setting}

variable (session : Session W) (calls : List Call)

end

/-! ## A table in two batches -/

end Pydart
