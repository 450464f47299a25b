import Pydart.Parquet.Dots
import Pydart.Session.Store
import Pydart.Table.WriteErrors

/-! # What a session never comes to

Panics only come from filters that miss every leaf of a column and from what the arrow
writer panics on, and `to_pandas` shows every table whose names tell its types apart,
unless it was imported without a batch.
-/

namespace Pydart

open Machines

section

/-! ## Panics of several files -/

variable {C : Crates} {Path : Type} {disk : Disk Path} {columns : Option (List String)}
  {filters : List FilterExpr}

theorem readParquetMulti_panics {paths : List Path} (hne : paths ≠ [])
    (h : readParquetMulti C disk paths columns filters = .error .panicked) :
    ∃ p ∈ paths, readParquet C disk p columns filters = .error .panicked := by
  cases paths with
  | nil => exact absurd rfl hne
  | cons first rest =>
      rcases readParquetMulti_eq_error.mp h with
        ⟨source, -, hsource⟩ | ⟨schema, -, before, p, after, hsplit, -, hfails⟩
      · cases hsource
      · refine ⟨p, by simp [hsplit], ?_⟩
        rcases hfails with ⟨source, -, hsource⟩ | ⟨raw, -, hrest⟩
        · cases hsource
        · rcases hrest with ⟨column, -, hcolumn⟩ | ⟨-, ⟨source, -, hsource⟩ | ⟨hpanic, -⟩⟩
          · cases hcolumn
          · cases hsource
          · exact hpanic

end

section

variable {W : Setting}

/-! ## Panics of a session -/

/-- A filter of the call names a column of one of its files, with a dot in the name, and
selects none of the column's leaves. -/
def Session.Misses (session : Session W) : Call → Prop
  | .fromParquet path _ filters => ∃ exprs paths, parseFilters W.text filters = .ok exprs ∧
      resolveParquetPaths W.text W.files session.files path = .ok paths ∧
      ∃ p ∈ paths, ∃ file,
        (W.files.disk session.files W.format W.text).openFile p = .ok file ∧
        ∃ filter ∈ exprs, filter.column ∈ file.schema.map Field.name ∧
          dotless filter.column = false ∧ maskedColumns [filter.column] file.schema = []
  | _ => False

/-- The call writes a table that the arrow writer panics on. -/
def Session.WriterPanics (session : Session W) : Call → Prop
  | .toParquet i path compression rowGroupSize => ∃ table, session.tables[i]? = some table ∧
      Pydart.WriterPanics W.format table compression rowGroupSize W.files session.files path W.text
  | _ => False

theorem fromParquet_panics {session : Session W} {path : PathArgument}
    {columns : Option (List String)} {filters : Option (List (String × String × PyLiteral))}
    (h : Table.fromParquet W.text W.files session.files W.crates W.format path columns filters =
      .error .panicked) : session.Misses (.fromParquet path columns filters) := by
  unfold Table.fromParquet at h
  rcases Except.bind_eq_error.mp h with h | ⟨exprs, hparse, h⟩
  · obtain ⟨e, -, he⟩ := raise_eq_error.mp h
    cases he
  rcases Except.bind_eq_error.mp h with h | ⟨paths, hpaths, h⟩
  · obtain ⟨e, -, he⟩ := raise_eq_error.mp h
    cases he
  rcases Except.bind_eq_error.mp h with h | ⟨batch, -, h⟩
  · obtain ⟨multi, hmulti, hpanicked⟩ := Except.mapError_eq_error.mp h
    have hresolved := raise_eq_ok.mp hpaths
    cases multi with
    | error e => cases e <;> cases hpanicked
    | panicked =>
        obtain ⟨p, hp, hread⟩ :=
          readParquetMulti_panics (resolveParquetPaths_ne_nil hresolved) hmulti
        obtain ⟨file, hopen, filter, hmem, hpresent, hdot, hmask⟩ := readParquet_panics hread
        rw [W.crates.projectionMask_eq] at hmask
        exact ⟨exprs, paths, raise_eq_ok.mp hparse, hresolved, p, hp, file, hopen, filter, hmem,
          hpresent, hdot, hmask⟩
  · cases h

theorem make_panics {session : Session W} {result : Except Reply Table}
    (h : (session.make result).2 = .panicked) : result = .error .panicked := by
  cases result with
  | ok table => cases h
  | error reply => exact congrArg _ h

theorem use_panics {session : Session W} {i : Nat} {call : Table → Session W × Reply}
    (hcall : ∀ table, (call table).2 ≠ .panicked) : (session.use i call).2 ≠ .panicked := by
  intro h
  rw [Session.use] at h
  cases htable : session.tables[i]? with
  | none =>
      rw [htable] at h
      cases h
  | some table =>
      rw [htable] at h
      exact hcall table h

theorem step_panics {session : Session W} {call : Call}
    (h : (session.step call).2 = .panicked) :
    session.Misses call ∨ session.WriterPanics call := by
  cases call with
  | fromPandas df strict =>
      obtain ⟨e, -, he⟩ := Except.mapError_eq_error.mp (make_panics h)
      cases he
  | fromArrow object =>
      obtain ⟨e, -, he⟩ := Except.mapError_eq_error.mp (make_panics h)
      cases he
  | fromParquet path columns filters =>
      obtain ⟨failure, hfailure, hpanicked⟩ := Except.mapError_eq_error.mp (make_panics h)
      cases failure with
      | raised e => cases hpanicked
      | panicked => exact Or.inl (fromParquet_panics hfailure)
  | toPandas i =>
      refine absurd h (use_panics fun table hpanicked => ?_)
      cases hback : table.toPandas W.pandas with
      | ok back => simp [hback, Setting.shown] at hpanicked
      | error e => simp [hback, Setting.shown, Setting.raised] at hpanicked
  | toParquet i path compression rowGroupSize =>
      refine Or.inr ?_
      rw [Session.step, Session.use] at h
      cases htable : session.tables[i]? with
      | none =>
          rw [htable] at h
          cases h
      | some table =>
          rw [htable] at h
          exact ⟨table, htable, toParquet_panics_iff.mp (Setting.ended_panicked.mp h)⟩
  | copyReport i =>
      refine absurd h (use_panics fun table hpanicked => ?_)
      cases hpanicked

theorem step_writerPanics {session : Session W} {call : Call} (h : session.WriterPanics call) :
    (session.step call).2 = .panicked := by
  cases call with
  | toParquet i path compression rowGroupSize =>
      obtain ⟨table, htable, hpanics⟩ := h
      rw [Session.step, Session.use, htable]
      exact Setting.ended_panicked.mpr (toParquet_panics_iff.mpr hpanics)
  | _ => cases h

/-- Whatever a session did before, a call only panics over a filter on a name with a dot
that misses every leaf of its column, or over what the arrow writer panics on, and then
it does. -/
theorem session_panics (session : Session W) (calls : List Call) (k : Nat) :
    ((W.machine.run session calls).2[k]? = some .panicked →
      ∃ call, calls[k]? = some call ∧
        ((W.machine.run session (calls.take k)).1.Misses call ∨
          (W.machine.run session (calls.take k)).1.WriterPanics call)) ∧
      ∀ call, calls[k]? = some call →
        (W.machine.run session (calls.take k)).1.WriterPanics call →
          (W.machine.run session calls).2[k]? = some .panicked := by
  constructor
  · intro h
    obtain ⟨call, hcall, hreply⟩ := W.machine.run_output h
    exact ⟨call, hcall, step_panics hreply⟩
  · intro call hcall hpanics
    rw [W.machine.run_answer hcall]
    exact congrArg some (step_writerPanics hpanics)

/-! ## Tables without a batch -/

theorem Session.Makes.batches {session : Session W} {call : Call} {table : Table}
    (h : session.Makes call table) :
    table.batches ≠ [] ∨ ∃ inner, call = .fromArrow (.ok inner) ∧ table = .fromPytable inner := by
  cases h with
  | fromPandas h =>
      obtain ⟨outcome, -, rfl, -⟩ := Table.fromPandas_outcome h
      exact Or.inl (List.cons_ne_nil _ _)
  | fromArrow inner => exact Or.inr ⟨inner, rfl, rfl⟩
  | fromParquet h =>
      obtain ⟨_, _, _, -, -, -, rfl⟩ := fromParquet_eq_ok.mp h
      exact Or.inl (List.cons_ne_nil _ _)

end

/-! ## A name with a dot, a table without batches and a union -/

def dottedSetting : Setting :=
  { shopSetting with format := catalogueFormat [dottedFile] }

def unionTable : PyTable :=
  .ofBatch (columnBatch ⟨"u", .union, true, false, []⟩ [some (.raw "1")] (by decide))

def failingCalls : List Call :=
  [.fromArrow (.ok noBatches.inner), .toPandas 0,
    .fromParquet (.single (.ofString "d.parquet")) none (some [("a.b", "==", .int 1)]),
    .fromArrow (.ok unionTable), .toParquet 1 (.ofString "u.parquet") "snappy" 5]

def dottedFolder : Folder := [(.ofString "d.parquet", .file [0])]

theorem session_panics_dotted :
    (∃ call, failingCalls[2]? = some call ∧
      ((dottedSetting.machine.run ⟨dottedFolder, []⟩ (failingCalls.take 2)).1.Misses call ∨
        (dottedSetting.machine.run ⟨dottedFolder, []⟩ (failingCalls.take 2)).1.WriterPanics
          call)) ∧
      (dottedSetting.machine.run ⟨dottedFolder, []⟩ failingCalls).2[4]? = some .panicked := by
  have hfilter : (dottedSetting.machine.run ⟨dottedFolder, []⟩ failingCalls).2[2]? =
      some .panicked := by rfl
  have hwriter : (dottedSetting.machine.run ⟨dottedFolder, []⟩
      (failingCalls.take 4)).1.WriterPanics (.toParquet 1 (.ofString "u.parquet") "snappy" 5) :=
    ⟨.fromPytable unionTable, rfl, _, _, _, rfl, rfl, Or.inl rfl⟩
  exact ⟨(session_panics (W := dottedSetting) ⟨dottedFolder, []⟩ failingCalls 2).1 hfilter,
    (session_panics (W := dottedSetting) ⟨dottedFolder, []⟩ failingCalls 4).2 _ rfl hwriter⟩

end Pydart
