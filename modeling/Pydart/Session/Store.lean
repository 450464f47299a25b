import Pydart.Pandas.Refusal
import Pydart.Session.Frame
import Pydart.Table.RoundTrip

/-! # A store of relations

What a session is for, without bytes, codecs, row groups or batches: places hold
relations, tables are relations, and a typed query of known places is evaluated on
what they hold.
-/

namespace Pydart

open Machines

/-! ## Stores -/

/-- A table as its rows under its schema, with its copy records. -/
structure Relation where
  contents : RecordBatch
  records : List ColumnConversionRecord

/-- What a file of the relation is known to hold; rows without columns are not kept. -/
def Relation.stored (relation : Relation) : Option RecordBatch :=
  if relation.contents.schema.isEmpty then none else some relation.contents

/-- What the places are known to hold, and the tables made so far. -/
structure Store (Place : Type) where
  holds : Place → Option RecordBatch
  tables : List Relation

def PathArgument.paths : PathArgument → List FilePath
  | .single path => [path]
  | .list paths => paths
  | .other => []

def Reply.Failed : Reply → Prop
  | .raised _ | .panicked => True
  | _ => False

section

variable {Place : Type}

namespace Store

def add (store : Store Place) (relation : Relation) : Store Place :=
  { store with tables := store.tables ++ [relation] }

open Classical in
noncomputable def put (store : Store Place) (place : Place) (contents : Option RecordBatch) :
    Store Place :=
  { store with holds := Function.update store.holds place contents }

variable {store : Store Place} {p q : Place} {contents : Option RecordBatch}

@[simp]
theorem put_same : (store.put p contents).holds p = contents := by
  classical exact Function.update_self p contents store.holds

theorem put_other (h : q ≠ p) : (store.put p contents).holds q = store.holds q := by
  classical exact Function.update_of_ne h contents store.holds

/-- The call adds a relation that is as required, or fails and changes nothing. -/
def Adds (store after : Store Place) (reply : Reply) (required : Relation → Prop) : Prop :=
  (reply = .made ∧ ∃ relation, required relation ∧ after = store.add relation) ∨
    (reply.Failed ∧ after = store)

end Store

variable (W : Setting)

/-- The places of the path argument are known, comprise the whole, and the query suits
it; in a list the paths carry the extension that is asked for there. -/
structure Store.Answers (place : FilePath → Place) (store : Store Place) (path : PathArgument)
    (columns : Option (List String)) (filters : Option (List (String × String × PyLiteral)))
    (query : Query) (whole : RecordBatch) : Prop where
  columns : query.columns = columns
  filters : parseFilters W.text filters = .ok query.filters
  extensions : ∀ paths, path = .list paths → ∀ p ∈ paths, p.hasParquetExtension = true
  known : ∃ parts, List.Forall₂ (fun p part => store.holds (place p) = some part) path.paths parts ∧
    whole.Comprises parts
  flat : FlatNames whole.schema
  typed : query.Typed W.crates.toArrowKernels whole.schema

end

/-! ## What a session has of a store -/

def Table.relation (table : Table) : Relation := ⟨table.inner.contents, table.columnReports⟩

section

variable {W : Setting} {L : W.files.Places}

/-- The file at the path holds the relation, under statistics that bound it. -/
def HoldsAt (W : Setting) (s : W.files.State) (path : FilePath) (contents : RecordBatch) : Prop :=
  ∃ bytes file, W.files.node s path = some (.file bytes) ∧ W.format.decode bytes = .ok file ∧
    file.contents = contents ∧ StatisticsBound file

/-- The session has the tables of the store, and files with what its places hold. -/
structure Refines (L : W.files.Places) (place : FilePath → L.Place) (session : Session W)
    (store : Store L.Place) : Prop where
  places : L.place session.files = place
  tables : store.tables = session.tables.map Table.relation
  files : ∀ path contents, store.holds (place path) = some contents →
    HoldsAt W session.files path contents

variable {place : FilePath → L.Place} {session : Session W} {store : Store L.Place}

theorem Refines.add (h : Refines L place session store) (table : Table) :
    Refines L place { session with tables := session.tables ++ [table] }
      (store.add table.relation) where
  places := h.places
  tables := by simp [Store.add, h.tables]
  files := h.files

theorem Refines.make (h : Refines L place session store) {result : Except Reply Table}
    (hfailed : ∀ reply, result = .error reply → reply.Failed) {required : Relation → Prop}
    (hmade : ∀ table, result = .ok table → required table.relation) :
    ∃ after, store.Adds after (session.make result).2 required ∧
      Refines L place (session.make result).1 after := by
  cases result with
  | ok table =>
      exact ⟨store.add table.relation, Or.inl ⟨rfl, _, hmade table rfl, rfl⟩, h.add table⟩
  | error reply => exact ⟨store, Or.inr ⟨hfailed reply rfl, rfl⟩, h⟩

end
end Pydart
