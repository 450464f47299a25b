import Pydart.Machine
import Pydart.Pandas.Closure
import Pydart.Pandas.Records
import Pydart.Table.Errors
import Pydart.Table.ToParquet

/-! # Sessions

What a program does with the package: it makes tables, asks them for frames, files and
copy reports, one call after the other. The state is the file system and the tables
made so far, which a call names by their numbers.
-/

namespace Pydart

/-! ## The rest of the interface -/

structure ColumnCopyStatus where
  column : String
  dtype : String
  zeroCopy : Bool
  reason : Option String
deriving DecidableEq

def buildCopyReport (records : List ColumnConversionRecord) : List ColumnCopyStatus :=
  records.map fun record => ⟨record.column, record.dtype, record.zeroCopy, record.reason⟩

def Table.copyReport (table : Table) : List ColumnCopyStatus :=
  buildCopyReport table.columnReports

def Table.fromPytable (inner : PyTable) : Table := ⟨inner, []⟩

/-- The foreign object by what its import makes of it. -/
def fromArrow (object : Except String PyTable) : Except PyErr Table :=
  match object with
  | .ok inner => .ok (Table.fromPytable inner)
  | .error err =>
      .error ⟨.pydartError, "from_arrow: foreign object does not comply with the Arrow " ++
        "PyCapsule Interface, or its exported schema/array is inconsistent: " ++ err⟩

/-! ## Calls -/

/-- What the calls of a session run on. -/
structure Setting where
  text : TextFormat
  arrowError : ArrowError → String
  files : FileSystem
  format : ParquetFormat
  crates : Crates
  pandas : PandasCrates

inductive Call where
  | fromPandas (df : DataFrame) (strict : Bool)
  | fromArrow (object : Except String PyTable)
  | fromParquet (path : PathArgument) (columns : Option (List String))
      (filters : Option (List (String × String × PyLiteral)))
  | toPandas (table : Nat)
  | toParquet (table : Nat) (path : FilePath) (compression : String) (rowGroupSize : Nat)
  | copyReport (table : Nat)

/-- What a call comes to; `unbound` is a call on a table that was never made. -/
inductive Reply where
  | made
  | frame (df : DataFrame)
  | written
  | report (statuses : List ColumnCopyStatus)
  | raised (err : PyErr)
  | panicked
  | unbound

structure Session (W : Setting) where
  files : W.files.State
  tables : List Table

namespace Setting

variable (W : Setting)

def raised (error : PydartError) : Reply := .raised (error.toPyErr W.text W.arrowError)

def failed : CallFailure → Reply
  | .raised error => W.raised error
  | .panicked => .panicked

def ended : Except CallFailure Unit → Reply
  | .ok () => .written
  | .error failure => W.failed failure

def shown : Except PydartError DataFrame → Reply
  | .ok df => .frame df
  | .error error => W.raised error

variable {W}

theorem ended_panicked {result : Except CallFailure Unit} :
    W.ended result = .panicked ↔ result = .error .panicked := by
  cases result with
  | ok _ => exact iff_of_false (fun h => by cases h) (fun h => by cases h)
  | error failure =>
      cases failure with
      | raised e => exact iff_of_false (fun h => by cases h) (fun h => by cases h)
      | panicked => exact iff_of_true rfl rfl

end Setting

namespace Session

variable {W : Setting} (session : Session W)

def make : Except Reply Table → Session W × Reply
  | .ok table => ({ session with tables := session.tables ++ [table] }, .made)
  | .error reply => (session, reply)

def use (table : Nat) (call : Table → Session W × Reply) : Session W × Reply :=
  match session.tables[table]? with
  | some made => call made
  | none => (session, .unbound)

def step (call : Call) : Session W × Reply :=
  match call with
  | .fromPandas df strict =>
      session.make ((Table.fromPandas W.pandas df strict).mapError W.raised)
  | .fromArrow object => session.make ((Pydart.fromArrow object).mapError .raised)
  | .fromParquet path columns filters =>
      session.make ((Table.fromParquet W.text W.files session.files W.crates W.format path columns
        filters).mapError W.failed)
  | .toPandas table =>
      session.use table fun made => (session, W.shown (made.toPandas W.pandas))
  | .toParquet table path compression rowGroupSize =>
      session.use table fun made =>
        let (after, result) := made.toParquet W.text W.format W.files session.files path
          compression rowGroupSize
        ({ session with files := after }, W.ended result)
  | .copyReport table => session.use table fun made => (session, .report made.copyReport)

end Session

open Machines

def Setting.machine (W : Setting) : Machine (Session W) Call Reply where
  step session call := session.step call

/-! ## What a step can do -/

section

variable {W : Setting} {session : Session W}

/-- The call makes the table. -/
inductive Session.Makes (session : Session W) : Call → Table → Prop where
  | fromPandas {df : DataFrame} {strict : Bool} {table : Table}
      (h : Table.fromPandas W.pandas df strict = .ok table) :
      Makes session (.fromPandas df strict) table
  | fromArrow (inner : PyTable) : Makes session (.fromArrow (.ok inner)) (.fromPytable inner)
  | fromParquet {path : PathArgument} {columns : Option (List String)}
      {filters : Option (List (String × String × PyLiteral))} {table : Table}
      (h : Table.fromParquet W.text W.files session.files W.crates W.format path columns filters =
        .ok table) : Makes session (.fromParquet path columns filters) table

/-- Only `to_parquet` touches the files, and only the calls that make a table add one. -/
theorem step_cases (session : Session W) (call : Call) :
    (∃ table, session.Makes call table ∧
      session.step call = ({ session with tables := session.tables ++ [table] }, .made)) ∨
      (∃ i path compression rowGroupSize table,
        call = .toParquet i path compression rowGroupSize ∧ session.tables[i]? = some table ∧
        session.step call =
          ({ session with files := (table.toParquet W.text W.format W.files session.files path
              compression rowGroupSize).1 },
            W.ended (table.toParquet W.text W.format W.files session.files path compression
              rowGroupSize).2)) ∨
      ∃ reply, reply ≠ .made ∧ reply ≠ .written ∧ session.step call = (session, reply) := by
  have hraised : ∀ error, W.raised error ≠ .made ∧ W.raised error ≠ .written :=
    fun error => ⟨nofun, nofun⟩
  cases call with
  | fromPandas df strict =>
      rw [Session.step]
      cases htable : Table.fromPandas W.pandas df strict with
      | ok table => exact Or.inl ⟨table, .fromPandas htable, rfl⟩
      | error e => exact Or.inr (Or.inr ⟨_, (hraised e).1, (hraised e).2, rfl⟩)
  | fromArrow object =>
      cases object with
      | ok inner => exact Or.inl ⟨_, .fromArrow inner, rfl⟩
      | error message => exact Or.inr (Or.inr ⟨.raised _, nofun, nofun, rfl⟩)
  | fromParquet path columns filters =>
      rw [Session.step]
      cases htable : Table.fromParquet W.text W.files session.files W.crates W.format path
          columns filters with
      | ok table => exact Or.inl ⟨table, .fromParquet htable, rfl⟩
      | error failure =>
          cases failure with
          | raised e => exact Or.inr (Or.inr ⟨_, (hraised e).1, (hraised e).2, rfl⟩)
          | panicked => exact Or.inr (Or.inr ⟨.panicked, nofun, nofun, rfl⟩)
  | toPandas i =>
      rw [Session.step, Session.use]
      cases session.tables[i]? with
      | none => exact Or.inr (Or.inr ⟨.unbound, nofun, nofun, rfl⟩)
      | some table =>
          cases hframe : table.toPandas W.pandas with
          | ok df => exact Or.inr (Or.inr ⟨.frame df, nofun, nofun, by simp [hframe, Setting.shown]⟩)
          | error e =>
              exact Or.inr (Or.inr ⟨W.raised e, (hraised e).1, (hraised e).2,
                by simp [hframe, Setting.shown]⟩)
  | toParquet i path compression rowGroupSize =>
      rw [Session.step, Session.use]
      cases htable : session.tables[i]? with
      | none => exact Or.inr (Or.inr ⟨.unbound, nofun, nofun, rfl⟩)
      | some table =>
          exact Or.inr (Or.inl ⟨i, path, compression, rowGroupSize, table, rfl, htable, rfl⟩)
  | copyReport i =>
      rw [Session.step, Session.use]
      cases session.tables[i]? with
      | none => exact Or.inr (Or.inr ⟨.unbound, nofun, nofun, rfl⟩)
      | some table => exact Or.inr (Or.inr ⟨.report _, nofun, nofun, rfl⟩)

/-! ## Copy reports -/

/-- The table's records: none, or one for each column of its single batch, in order and
under the column's name, with a reason exactly where there was a copy. -/
def Table.Reported (table : Table) : Prop :=
  table.columnReports = [] ∨
    ((∃ batch, table.batches = [batch]) ∧
      table.columnReports.map (·.column) = table.inner.schema.map Field.name ∧
      ∀ record ∈ table.columnReports, record.reason.isSome = true ↔ record.zeroCopy = false)

/-- The table of a frame is its batch, with the records that a strict call accepts. -/
theorem Table.fromPandas_outcome {P : PandasCrates} {df : DataFrame} {strict : Bool} {table : Table}
    (h : Table.fromPandas P df strict = .ok table) :
    ∃ outcome, Pydart.fromPandas P df = .ok outcome ∧
      table = ⟨.ofBatch outcome.batch, outcome.records⟩ ∧
      (strict = true → ∀ record ∈ outcome.records, record.zeroCopy = true) := by
  obtain ⟨outcome, houtcome, hrest⟩ := Except.bind_eq_ok.mp h
  refine ⟨outcome, houtcome, ?_⟩
  cases strict with
  | false =>
      cases hrest
      exact ⟨rfl, nofun⟩
  | true =>
      obtain ⟨_, hstrict, hpure⟩ := Except.bind_eq_ok.mp hrest
      cases hpure
      exact ⟨rfl, fun _ => checkStrict_eq_ok.mp hstrict⟩

theorem reported_of_fromPandas {P : PandasCrates} {df : DataFrame} {strict : Bool} {table : Table}
    (h : Table.fromPandas P df strict = .ok table) : table.Reported := by
  obtain ⟨outcome, houtcome, rfl, -⟩ := Table.fromPandas_outcome h
  obtain ⟨columns, hcolumns, hbatch, hrecords⟩ := fromPandas_eq_ok.mp houtcome
  obtain ⟨hschema, -⟩ := RecordBatch.tryNew_eq_ok hbatch
  have hall : ∀ column ∈ columns, column.record.column = column.field.name ∧
      (column.record.reason.isSome = true ↔ column.record.zeroCopy = false) := by
    intro column hcolumn
    obtain ⟨⟨label, series⟩, hmem, hconvert⟩ := forall₂_exists_of_mem hcolumns.flip hcolumn
    have hhonest := honest_of_convertColumn hmem hconvert
    exact ⟨hhonest.name.trans (convertColumn_field hconvert).2.symm, hhonest.reason⟩
  refine Or.inr ⟨⟨_, rfl⟩, ?_, ?_⟩
  · show outcome.records.map (·.column) = outcome.batch.schema.map Field.name
    rw [hrecords, hschema, List.map_map, List.map_map]
    exact List.map_congr_left fun column hcolumn => (hall column hcolumn).1
  · intro record hrecord
    change record ∈ outcome.records at hrecord
    rw [hrecords] at hrecord
    obtain ⟨column, hcolumn, rfl⟩ := List.mem_map.mp hrecord
    exact (hall column hcolumn).2

theorem Session.Makes.reported {session : Session W} {call : Call} {table : Table}
    (h : session.Makes call table) : table.Reported := by
  cases h with
  | fromPandas h => exact reported_of_fromPandas h
  | fromArrow => exact Or.inl rfl
  | fromParquet h =>
      obtain ⟨_, _, _, -, -, -, rfl⟩ := fromParquet_eq_ok.mp h
      exact Or.inl rfl

/-! ## Whole sessions -/

theorem step_tables (session : Session W) (call : Call) :
    ∃ new : List Table, (session.step call).1.tables = session.tables ++ new ∧
      ∀ table ∈ new, session.Makes call table := by
  rcases step_cases session call with
    ⟨table, hmakes, hstep⟩ | ⟨_, _, _, _, _, -, -, hstep⟩ | ⟨reply, -, -, hstep⟩
  · refine ⟨[table], by rw [hstep], ?_⟩
    intro other hother
    cases List.mem_singleton.mp hother
    exact hmakes
  · exact ⟨[], by rw [hstep, List.append_nil], by simp⟩
  · exact ⟨[], by rw [hstep, List.append_nil], by simp⟩

theorem keeps_reported : W.machine.Keeps fun session => ∀ table ∈ session.tables,
    table.Reported := by
  intro session call hreported table htable
  obtain ⟨new, hnew, hmakes⟩ := step_tables session call
  change table ∈ (session.step call).1.tables at htable
  rw [hnew] at htable
  rcases List.mem_append.mp htable with hold | hmem
  · exact hreported table hold
  · exact (hmakes table hmem).reported

theorem run_tables (session : Session W) (calls : List Call) :
    session.tables <+: (W.machine.run session calls).1.tables := by
  have hkeeps : W.machine.Keeps fun later => session.tables <+: later.tables := by
    intro later call hkept
    obtain ⟨new, hnew, -⟩ := step_tables later call
    show session.tables <+: (later.step call).1.tables
    rw [hnew]
    exact hkept.trans (List.prefix_append _ _)
  exact hkeeps.run (List.prefix_refl _) calls

theorem run_tables_take (session : Session W) (calls : List Call) (k : Nat) :
    (W.machine.run session (calls.take k)).1.tables <+: (W.machine.run session calls).1.tables := by
  rw [W.machine.run_take session calls k]
  exact run_tables _ _

/-- What is asked of a table that was made by then is what the table says at the end of
the session. -/
def Stable (met final : Session W) : Call → Reply → Prop
  | .toPandas i, reply => (met.tables[i]? = none ∧ reply = .unbound) ∨
      ∃ table, met.tables[i]? = some table ∧ final.tables[i]? = some table ∧
        reply = W.shown (table.toPandas W.pandas)
  | .copyReport i, reply => (met.tables[i]? = none ∧ reply = .unbound) ∨
      ∃ table, met.tables[i]? = some table ∧ final.tables[i]? = some table ∧
        reply = .report table.copyReport
  | _, _ => True

theorem step_stable {session final : Session W} (hkept : session.tables <+: final.tables)
    (call : Call) : Stable session final call (session.step call).2 := by
  have hfinal : ∀ {i : Nat} {table : Table}, session.tables[i]? = some table →
      final.tables[i]? = some table := by
    intro i table htable
    obtain ⟨rest, hrest⟩ := hkept
    rw [← hrest, List.getElem?_append_left (List.getElem?_eq_some_iff.mp htable).1, htable]
  cases call with
  | toPandas i =>
      rw [Session.step, Session.use]
      cases htable : session.tables[i]? with
      | none => exact Or.inl ⟨htable, rfl⟩
      | some table => exact Or.inr ⟨table, htable, hfinal htable, rfl⟩
  | copyReport i =>
      rw [Session.step, Session.use]
      cases htable : session.tables[i]? with
      | none => exact Or.inl ⟨htable, rfl⟩
      | some table => exact Or.inr ⟨table, htable, hfinal htable, rfl⟩
  | fromPandas | fromArrow | fromParquet | toParquet => trivial

theorem run_stable (session : Session W) {calls : List Call} {k : Nat} {call : Call}
    (hcall : calls[k]? = some call) :
    ∃ reply, (W.machine.run session calls).2[k]? = some reply ∧
      Stable (W.machine.run session (calls.take k)).1 (W.machine.run session calls).1 call reply :=
  ⟨_, W.machine.run_answer hcall, step_stable (run_tables_take session calls k) call⟩

variable (W)

/-- Tables stay as they were made: whatever is called in between, frames and copy
reports are those of the table at the end of the session. The reports are honest. -/
theorem session_tables (files : W.files.State) (before after : List Call) :
    (W.machine.run ⟨files, []⟩ before).1.tables <+:
        (W.machine.run ⟨files, []⟩ (before ++ after)).1.tables ∧
      (∀ table ∈ (W.machine.run ⟨files, []⟩ (before ++ after)).1.tables, table.Reported) ∧
      ∀ k call, (before ++ after)[k]? = some call →
        ∃ reply, (W.machine.run ⟨files, []⟩ (before ++ after)).2[k]? = some reply ∧
          Stable (W.machine.run ⟨files, []⟩ ((before ++ after).take k)).1
            (W.machine.run ⟨files, []⟩ (before ++ after)).1 call reply := by
  refine ⟨?_, ?_, fun k call hcall => run_stable _ hcall⟩
  · rw [Machine.run_append]
    exact run_tables _ after
  · exact keeps_reported.run (by simp) (before ++ after)

end
end Pydart
