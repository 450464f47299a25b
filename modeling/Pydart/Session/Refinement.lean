import Pydart.Session.Store

/-! # Sessions refine stores

Every session is a run of the store of relations: what it reads back is what was
written, whatever bytes stand for it and whatever fails on the way.
-/

namespace Pydart

open Machines

section

variable {W : Setting} {L : W.files.Places} {place : FilePath → L.Place} {session : Session W}
  {store : Store L.Place}

/-! ## Reading -/

theorem HoldsAt.isFile {s : W.files.State} {path : FilePath} {contents : RecordBatch}
    (h : HoldsAt W s path contents) : W.files.isFile s path = true := by
  obtain ⟨bytes, file, hnode, -⟩ := h
  rw [FileSystem.isFile, hnode]

/-- A known file opens as what it holds, unless the system refuses to read it. -/
theorem HoldsAt.openFile {s : W.files.State} {path : FilePath} {contents : RecordBatch}
    (h : HoldsAt W s path contents) :
    (∃ file, (W.files.disk s W.format W.text).openFile path = .ok file ∧
        file.contents = contents ∧ StatisticsBound file) ∨
      ∃ reason, (W.files.disk s W.format W.text).openFile path = .error (.external reason) := by
  obtain ⟨bytes, file, hnode, hdecode, hcontents, hstat⟩ := h
  cases hread : W.files.readFile s path with
  | error reason =>
      refine Or.inr ⟨reason, ?_⟩
      simp only [FileSystem.disk, hread]
  | ok bytes' =>
      cases hnode.symm.trans (W.files.readFile_node hread)
      refine Or.inl ⟨file, ?_, hcontents, hstat⟩
      simp only [FileSystem.disk, hread, hdecode]

theorem Refines.resolve (h : Refines L place session store) {path : PathArgument}
    {columns : Option (List String)} {filters : Option (List (String × String × PyLiteral))}
    {query : Query} {whole : RecordBatch}
    (hanswers : store.Answers W place path columns filters query whole) :
    resolveParquetPaths W.text W.files session.files path = .ok path.paths := by
  obtain ⟨parts, hparts, hwhole⟩ := hanswers.known
  have hfiles : ∀ p ∈ path.paths, W.files.isFile session.files p = true := by
    intro p hp
    obtain ⟨part, -, hholds⟩ := forall₂_exists_of_mem hparts hp
    exact (h.files p part hholds).isFile
  cases path with
  | single single => exact resolveParquetPaths_single (hfiles single (by simp [PathArgument.paths]))
  | list paths =>
      have hne : paths ≠ [] := by
        rintro rfl
        cases hparts
        cases hwhole.schema
      refine resolveParquetPaths_list hne fun p hp => ?_
      exact checkListElement_ok (hfiles p hp) (hanswers.extensions paths rfl p hp)
  | other =>
      cases hparts
      cases hwhole.schema

theorem fromParquet_held {s : W.files.State} {path : PathArgument} {paths : List FilePath}
    (hpaths : resolveParquetPaths W.text W.files s path = .ok paths) {parts : List RecordBatch}
    (hparts : List.Forall₂ (HoldsAt W s) paths parts) {whole : RecordBatch}
    (hwhole : whole.Comprises parts) (hflat : FlatNames whole.schema) {query : Query}
    (htyped : query.Typed W.crates.toArrowKernels whole.schema)
    {filters : Option (List (String × String × PyLiteral))}
    (hfilters : parseFilters W.text filters = .ok query.filters) :
    Table.fromParquet W.text W.files s W.crates W.format path query.columns filters =
        .ok ⟨.ofBatch (query.eval whole), []⟩ ∨
      ∃ p ∈ paths, ∃ reason,
        Table.fromParquet W.text W.files s W.crates W.format path query.columns filters =
          .error (.raised (.parquetReadError (W.text.display p)
            (W.text.parquetError (.external reason)))) := by
  have hopens : List.Forall₂ (fun p part => ∀ file,
      (W.files.disk s W.format W.text).openFile p = .ok file →
        file.contents = part ∧ StatisticsBound file) paths parts := by
    refine hparts.imp fun p part hholds file hopen => ?_
    rcases hholds.openFile with ⟨file', hopen', hfile⟩ | ⟨reason, hrefused⟩
    · cases hopen.symm.trans hopen'
      exact hfile
    · cases hopen.symm.trans hrefused
  rcases readParquetMulti_parts hopens hwhole hflat htyped with
    ⟨-, hok⟩ | ⟨before, p, rest, source, hsplit, -, hopen, herror⟩
  · exact Or.inl (fromParquet_eq_ok.mpr ⟨_, _, _, hfilters, hpaths, hok, rfl⟩)
  · have hp : p ∈ paths := by simp [hsplit]
    obtain ⟨part, -, hholds⟩ := forall₂_exists_of_mem hparts hp
    rcases hholds.openFile with ⟨file, hopen', -⟩ | ⟨reason, hrefused⟩
    · cases hopen.symm.trans hopen'
    · cases hopen.symm.trans hrefused
      refine Or.inr ⟨p, hp, reason, ?_⟩
      unfold Table.fromParquet
      simp only [hfilters, hpaths, raise, Except.ok_bind, herror]
      rfl

/-- A query that suits known places is answered, or the system refuses one of the files. -/
theorem Refines.fromParquet (h : Refines L place session store) {path : PathArgument}
    {columns : Option (List String)} {filters : Option (List (String × String × PyLiteral))}
    {query : Query} {whole : RecordBatch}
    (hanswers : store.Answers W place path columns filters query whole) :
    Table.fromParquet W.text W.files session.files W.crates W.format path columns filters =
        .ok ⟨.ofBatch (query.eval whole), []⟩ ∨
      ∃ p ∈ path.paths, ∃ reason,
        Table.fromParquet W.text W.files session.files W.crates W.format path columns filters =
          .error (.raised (.parquetReadError (W.text.display p)
            (W.text.parquetError (.external reason)))) := by
  obtain ⟨parts, hparts, hwhole⟩ := hanswers.known
  rw [← hanswers.columns]
  exact fromParquet_held (h.resolve hanswers) (hparts.imp fun p part hholds => h.files p part hholds)
    hwhole hanswers.flat hanswers.typed hanswers.filters

/-! ## Step by step -/

theorem Refines.put (h : Refines L place session store) {path : FilePath} {after : W.files.State}
    (hapart : L.Apart (L.place session.files path) session.files after)
    {contents : Option RecordBatch}
    (hcontents : ∀ stored, contents = some stored → HoldsAt W after path stored) :
    Refines L place { session with files := after } (store.put (place path) contents) where
  places := hapart.places.trans h.places
  tables := h.tables
  files q stored hstored := by
    by_cases hq : place q = place path
    · rw [hq, Store.put_same] at hstored
      obtain ⟨bytes, file, hnode, hrest⟩ := hcontents stored hstored
      have hsame : L.place after q = L.place after path := by
        rw [hapart.places, h.places]
        exact hq
      exact ⟨bytes, file, (L.node_place hsame).trans hnode, hrest⟩
    · rw [Store.put_other hq] at hstored
      obtain ⟨bytes, file, hnode, hrest⟩ := h.files q stored hstored
      have hother : L.place session.files q ≠ L.place session.files path := by
        rw [h.places]
        exact hq
      exact ⟨bytes, file, (hapart.node q hother).trans hnode, hrest⟩

end

end Pydart
