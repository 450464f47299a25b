import Pydart.Session.Refinement

/-! # Tables kept in a directory

A directory reads as one table, its Parquet files in the order of their names. The
files may be written in any order, more than once, between any other calls: a query
of the directory sees what the last write of each file left, once.
-/

namespace Pydart

open Machines

/-- `read_dir` lists whatever stands in the directory. -/
def FileSystem.Lists (F : FileSystem) (directory : FilePath) : Prop :=
  ∀ {s entries name}, F.readDir s directory = .ok entries →
    F.node s (directory.join name) ≠ none → name ∈ entries

section

variable {W : Setting} {L : W.files.Places} {session : Session W} {calls : List Call}
  {path directory : FilePath} {contents : RecordBatch}

/-! ## What a session leaves at a path -/

theorem HoldsAt.of_node {s s' : W.files.State} {p q : FilePath} (h : HoldsAt W s p contents)
    (hnode : W.files.node s' q = W.files.node s p) : HoldsAt W s' q contents := by
  obtain ⟨bytes, file, hfile, hrest⟩ := h
  exact ⟨bytes, file, hnode.trans hfile, hrest⟩

/-- A known path stays known through a call that targets another place. -/
theorem HoldsAt.step {place : FilePath → L.Place} (session : Session W) (call : Call)
    (hcall : ¬ call.Targets L place (place path))
    (h : L.place session.files = place ∧ HoldsAt W session.files path contents) :
    L.place (session.step call).1.files = place ∧
      HoldsAt W (session.step call).1.files path contents := by
  obtain ⟨rfl, hholds⟩ := h
  exact ⟨step_places session call, hholds.of_node (step_node session call hcall)⟩

/-- What a path holds after the calls: the table of the last call that wrote there, or
what was there before them. -/
inductive Session.Leaves (L : W.files.Places) (session : Session W) (calls : List Call)
    (path : FilePath) : RecordBatch → Prop where
  | found {contents : RecordBatch} (h : HoldsAt W session.files path contents)
      (hcalls : ∀ call ∈ calls,
        ¬ call.Targets L (L.place session.files) (L.place session.files path)) :
      Leaves L session calls path contents
  | written {met : Session W} {i rowGroupSize : Nat} {target : FilePath} {compression : String}
      {table : Table}
      (hlast : W.machine.Last (·.Targets L (L.place session.files) (L.place session.files path))
        session calls met (.toParquet i target compression rowGroupSize))
      (htable : met.tables[i]? = some table)
      (hreply : (met.step (.toParquet i target compression rowGroupSize)).2 = .written) :
      Leaves L session calls path table.inner.contents

theorem toParquet_directory {s : W.files.State} (table : Table) (compression : String)
    (rowGroupSize : Nat) (h : W.files.node s path = some .directory) :
    (table.toParquet W.text W.format W.files s path compression rowGroupSize).1 = s := by
  cases hprepare : table.prepare W.text W.format compression rowGroupSize with
  | error e => rw [toParquet_of_unprepared hprepare]
  | ok prepared =>
      obtain ⟨batch, properties⟩ := prepared
      obtain ⟨reason, hcreate⟩ := W.files.create_directory h
      rw [toParquet_of_prepared hprepare]
      simp only [writeParquet, hcreate]

theorem keeps_directory (L : W.files.Places) (directory : FilePath) :
    W.machine.Keeps fun session => W.files.node session.files directory = some .directory := by
  intro session call h
  show W.files.node (session.step call).1.files directory = some .directory
  rcases step_cases session call with
    ⟨table, -, hstep⟩ | ⟨i, path, compression, size, table, -, -, hstep⟩ | ⟨reply, -, -, hstep⟩
  · rw [hstep]
    exact h
  · rw [hstep]
    by_cases hplace : L.place session.files directory = L.place session.files path
    · have hpath : W.files.node session.files path = some .directory :=
        (L.node_place hplace).symm.trans h
      rw [toParquet_directory table compression size hpath]
      exact h
    · exact ((toParquet_apart table compression size).node directory hplace).trans h
  · rw [hstep]
    exact h

/-- The names are those of the Parquet files that the calls leave in the directory, in
order, and the parts are what these hold. -/
structure Session.LeavesParts (L : W.files.Places) (session : Session W) (calls : List Call)
    (directory : FilePath) (names : List EntryName) (parts : List RecordBatch) : Prop where
  isDirectory : W.files.node session.files directory = some .directory
  listed : W.files.Lists directory
  sorted : names.Pairwise fun a b => a.key < b.key
  extensions : ∀ name ∈ names, (directory.join name).hasParquetExtension = true
  parts : List.Forall₂ (fun name part => session.Leaves L calls (directory.join name) part)
    names parts
  others : ∀ name ∉ names, (directory.join name).hasParquetExtension = true →
    W.files.isFile session.files (directory.join name) = false ∧
      ∀ call ∈ calls, ¬ call.Targets L (L.place session.files)
        (L.place session.files (directory.join name))

variable {names : List EntryName} {parts : List RecordBatch}

theorem Session.LeavesParts.resolve (h : session.LeavesParts L calls directory names parts)
    (hparts : List.Forall₂ (fun name part =>
      HoldsAt W (W.machine.run session calls).1.files (directory.join name) part) names parts)
    (hne : names ≠ []) :
    resolveParquetPaths W.text W.files (W.machine.run session calls).1.files (.single directory) =
        .ok (names.map directory.join) ∨
      ∃ reason,
        resolveParquetPaths W.text W.files (W.machine.run session calls).1.files
          (.single directory) =
            .error (.parquetReadError (W.text.display directory) reason) := by
  have hnode : W.files.node (W.machine.run session calls).1.files directory = some .directory :=
    (keeps_directory L directory).run h.isDirectory calls
  have hdir : W.files.isDir (W.machine.run session calls).1.files directory = true := by
    rw [FileSystem.isDir, hnode]
  rw [resolveParquetPaths, if_pos hdir]
  cases hread : W.files.readDir (W.machine.run session calls).1.files directory with
  | error reason =>
      refine Or.inr ⟨reason, ?_⟩
      rw [directoryFiles, hread]
      rfl
  | ok entries =>
      refine Or.inl (directoryFiles_eq hread hne ?_ h.sorted)
      intro name
      constructor
      · intro hname
        obtain ⟨part, -, hholds⟩ := forall₂_exists_of_mem hparts hname
        have hfile := hholds.isFile
        have hthere : W.files.node (W.machine.run session calls).1.files
            (directory.join name) ≠ none := by
          intro hnone
          rw [FileSystem.isFile, hnone] at hfile
          cases hfile
        refine ⟨h.listed hread hthere, ?_⟩
        rw [isParquetEntry, hfile, h.extensions name hname]
        rfl
      · rintro ⟨-, hentry⟩
        rw [isParquetEntry, Bool.and_eq_true] at hentry
        by_contra hname
        obtain ⟨habsent, hcalls⟩ := h.others name hname hentry.2
        have hsame : W.files.node (W.machine.run session calls).1.files (directory.join name) =
            W.files.node session.files (directory.join name) :=
          run_elsewhere (p := (· = W.files.node session.files (directory.join name))) hcalls
            ⟨rfl, rfl⟩
        rw [FileSystem.isFile, hsame, ← FileSystem.isFile, habsent] at hentry
        exact absurd hentry.1 (by decide)

end

/-! ## Shops in a directory -/

end Pydart
