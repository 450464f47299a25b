import Pydart.Session.Session
import Pydart.Table.RoundTrip

/-! # What a session leaves alone

A path stands for the place it leads to. Over a whole session only the places of
`to_parquet` targets can change.
-/

namespace Pydart

open Machines

/-- Places that paths lead to: paths of one place share what is there, and creating or
writing a file moves no path and changes no other place. -/
structure FileSystem.Places (F : FileSystem) where
  Place : Type
  place : F.State → FilePath → Place
  node_place : ∀ {s p q}, place s p = place s q → F.node s p = F.node s q
  place_create : ∀ {s path created}, F.create s path = .ok created → place created = place s
  place_write : ∀ {s path bytes}, place (F.write s path bytes).1 = place s
  node_create : ∀ {s path created q}, F.create s path = .ok created →
    place s q ≠ place s path → F.node created q = F.node s q
  node_write : ∀ {s path bytes q}, place s q ≠ place s path →
    F.node (F.write s path bytes).1 q = F.node s q

section

variable {T : TextFormat} {format : ParquetFormat} {F : FileSystem} (L : F.Places)

/-- The second state is the first one but for the place. -/
structure FileSystem.Places.Apart (place : L.Place) (s after : F.State) : Prop where
  places : L.place after = L.place s
  node : ∀ q, L.place s q ≠ place → F.node after q = F.node s q

variable {L} {s : F.State} {path : FilePath}

theorem writeParquet_apart (batch : RecordBatch) (properties : WriterProperties) :
    L.Apart (L.place s path) s (writeParquet format F s batch path properties).1 := by
  unfold writeParquet
  split
  · exact ⟨rfl, fun _ _ => rfl⟩
  · rename_i created hcreate
    have hplace := L.place_create hcreate
    have hcreated : L.Apart (L.place s path) s created :=
      ⟨hplace, fun q hq => L.node_create hcreate hq⟩
    have hwritten : ∀ {bytes written result}, F.write created path bytes = (written, result) →
        L.Apart (L.place s path) s written := by
      intro bytes written result hwrite
      have hstate : (F.write created path bytes).1 = written := by rw [hwrite]
      rw [← hstate]
      refine ⟨L.place_write.trans hplace, fun q hq => ?_⟩
      rw [← hcreated.node q hq]
      exact L.node_write (by rwa [hplace])
    split
    · exact hcreated
    · split
      · rename_i hwrite
        exact hwritten hwrite
      · rename_i hwrite
        exact hwritten hwrite

theorem toParquet_apart (table : Table) (compression : String) (rowGroupSize : Nat) :
    L.Apart (L.place s path) s
      (table.toParquet T format F s path compression rowGroupSize).1 := by
  cases hprepare : table.prepare T format compression rowGroupSize with
  | error e =>
      rw [toParquet_of_unprepared hprepare]
      exact ⟨rfl, fun _ _ => rfl⟩
  | ok prepared =>
      obtain ⟨batch, properties⟩ := prepared
      rw [toParquet_of_prepared hprepare]
      exact writeParquet_apart batch properties

end

/-! ## Whole sessions -/

section

variable {W : Setting} (L : W.files.Places)

/-- The call writes to the place. -/
def Call.Targets (place : FilePath → L.Place) (target : L.Place) : Call → Prop
  | .toParquet _ path _ _ => place path = target
  | _ => False

variable {L}

theorem step_places (session : Session W) (call : Call) :
    L.place (session.step call).1.files = L.place session.files := by
  rcases step_cases session call with
    ⟨table, -, hstep⟩ | ⟨i, path, compression, size, table, -, -, hstep⟩ | ⟨reply, -, -, hstep⟩
  · rw [hstep]
  · rw [hstep]
    exact (toParquet_apart table compression size).places
  · rw [hstep]

/-- A step changes only the place it targets. -/
theorem step_node (session : Session W) (call : Call) {q : FilePath}
    (hq : ¬ call.Targets L (L.place session.files) (L.place session.files q)) :
    W.files.node (session.step call).1.files q = W.files.node session.files q := by
  rcases step_cases session call with
    ⟨table, -, hstep⟩ | ⟨i, path, compression, size, table, rfl, -, hstep⟩ | ⟨reply, -, -, hstep⟩
  · rw [hstep]
  · rw [hstep]
    exact (toParquet_apart table compression size).node q fun h => hq h.symm
  · rw [hstep]

theorem step_elsewhere {place : FilePath → L.Place} {q : FilePath} {p : Option Node → Prop}
    (session : Session W) (call : Call) (hcall : ¬ call.Targets L place (place q))
    (h : L.place session.files = place ∧ p (W.files.node session.files q)) :
    L.place (session.step call).1.files = place ∧
      p (W.files.node (session.step call).1.files q) := by
  obtain ⟨rfl, hp⟩ := h
  refine ⟨step_places session call, ?_⟩
  rw [step_node session call hcall]
  exact hp

/-- What is known of a path stays known through calls that target other places. -/
theorem run_elsewhere {place : FilePath → L.Place} {q : FilePath} {p : Option Node → Prop}
    {session : Session W} {calls : List Call}
    (hcalls : ∀ call ∈ calls, ¬ call.Targets L place (place q))
    (h : L.place session.files = place ∧ p (W.files.node session.files q)) :
    p (W.files.node (W.machine.run session calls).1.files q) :=
  (Machine.run_keeps (M := W.machine)
    (p := fun after => L.place after.files = place ∧ p (W.files.node after.files q))
    (fun after call hcall h => step_elsewhere after call hcall h) hcalls h).2

/-- In a whole session nothing changes but the places of `to_parquet` targets: what else
a path leads to stays, whatever succeeds, fails or panics. -/
theorem session_frame (L : W.files.Places) (session : Session W) (calls : List Call)
    (q : FilePath)
    (hq : ∀ call ∈ calls, ¬ call.Targets L (L.place session.files) (L.place session.files q)) :
    W.files.node (W.machine.run session calls).1.files q = W.files.node session.files q :=
  run_elsewhere (p := (· = W.files.node session.files q)) hq ⟨rfl, rfl⟩

end

/-! ## A folder -/

theorem Folder.node_store_other {folder : Folder} {path q : FilePath} (h : q ≠ path)
    (bytes : List UInt8) : (folder.store path bytes).node q = folder.node q := by
  rw [Folder.node, Folder.store, List.find?_cons_of_neg (by simpa using h.symm)]
  rfl

def folderPlaces : folderSystem.Places where
  Place := FilePath
  place _ path := path
  node_place := by
    rintro s p q rfl
    rfl
  place_create _ := rfl
  place_write := rfl
  node_create := by
    intro s path created q hcreate hq
    change Folder.create s path = .ok created at hcreate
    unfold Folder.create at hcreate
    split at hcreate
    · cases hcreate
    · cases hcreate
    all_goals
      cases hcreate
      exact Folder.node_store_other hq _
  node_write := by
    intro s path bytes q hq
    show Folder.node (Folder.write s path bytes).1 q = Folder.node s q
    unfold Folder.write
    split
    · exact Folder.node_store_other hq _
    · rfl

def shopSetting : Setting where
  text := plainText
  arrowError _ := "Schema error"
  files := folderSystem
  format := shopFormat
  crates := referenceCrates
  pandas := referencePandas

def shopCalls : List Call :=
  [.fromParquet shopPaths (some ["count", "city"]) (some [("count", ">=", .int 3)]),
    .toParquet 0 (.ofString "large.parquet") "gzip" 1, .toPandas 0, .copyReport 1]

theorem session_frame_shops :
    folderSystem.node (shopSetting.machine.run ⟨shopFolder, []⟩ shopCalls).1.files
        (.ofString "north.parquet") = some (.file [0]) := by
  have hframe := session_frame (W := shopSetting) folderPlaces ⟨shopFolder, []⟩ shopCalls
    (.ofString "north.parquet") (by
      intro call hcall
      simp only [shopCalls, List.mem_cons, List.not_mem_nil, or_false] at hcall
      rcases hcall with rfl | rfl | rfl | rfl
      · exact id
      · show FilePath.ofString "large.parquet" ≠ FilePath.ofString "north.parquet"
        decide
      · exact id
      · exact id)
  exact hframe.trans (by decide)

end Pydart
