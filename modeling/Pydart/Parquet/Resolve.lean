import Pydart.Parquet.Literal
import Pydart.Parquet.Select

/-! # From a filter's name to its column

The projection mask cuts a name at its dots and the statistics take it whole. A
filter that passes any row at all names its column without dots, and then both
mean the first column of that name.
-/

namespace Pydart

/-! ## Dots -/

theorem splitDots_of_not_mem {cs : List Char} (h : '.' ∉ cs) : splitDots cs = [cs] := by
  induction cs with
  | nil => rfl
  | cons c rest ih =>
      rw [List.mem_cons, not_or] at h
      rw [splitDots, if_neg (fun hc => h.1 hc.symm), ih h.2]

theorem splitDots_ne_nil (cs : List Char) : splitDots cs ≠ [] := by
  cases cs with
  | nil => simp [splitDots]
  | cons c rest =>
      rw [splitDots]
      split
      · simp
      · split <;> simp

theorem two_le_length_splitDots {cs : List Char} (h : '.' ∈ cs) : 2 ≤ (splitDots cs).length := by
  induction cs with
  | nil => cases h
  | cons c rest ih =>
      rw [splitDots]
      by_cases hc : c = '.'
      · rw [if_pos hc, List.length_cons]
        have := List.length_pos_iff.mpr (splitDots_ne_nil rest)
        omega
      · rw [if_neg hc]
        have hrest : '.' ∈ rest := by
          cases List.mem_cons.mp h with
          | inl heq => exact absurd heq.symm hc
          | inr hmem => exact hmem
        have hlen := ih hrest
        cases hsplit : splitDots rest with
        | nil =>
            rw [hsplit] at hlen
            cases hlen
        | cons piece pieces =>
            rw [hsplit] at hlen
            exact hlen

def dotless (name : String) : Bool := !name.toList.contains '.'

theorem dotless_iff {name : String} : dotless name = true ↔ '.' ∉ name.toList := by
  simp [dotless]

theorem selectsColumn_dotless {name : String} (h : dotless name = true) (field : Field) :
    selectsColumn [name] field = decide (field.name = name) := by
  have hname : ∀ path : List (List Char),
      (splitDots name.toList).isPrefixOf (field.name.toList :: path) = decide (field.name = name) := by
    intro path
    rw [splitDots_of_not_mem (dotless_iff.mp h)]
    simp only [List.isPrefixOf, Bool.and_true]
    rw [Bool.beq_eq_decide_eq, decide_eq_decide, String.toList_inj]
    exact eq_comm
  simp only [selectsColumn, List.any_cons, List.any_nil, Bool.or_false]
  unfold leafPaths
  split
  · rw [List.any_map, List.any_cons]
    simp [Function.comp_def, hname]
  · simp [hname]

/-- With a dot the mask only reaches into nested columns. -/
theorem isNested_of_selectsColumn {name : String} (h : dotless name = false) {field : Field}
    (hsel : selectsColumn [name] field = true) : field.dataType.isNested = true := by
  have hlen : 2 ≤ (splitDots name.toList).length := by
    apply two_le_length_splitDots
    by_contra hmem
    rw [dotless_iff.mpr hmem] at h
    cases h
  unfold selectsColumn leafPaths at hsel
  split at hsel
  · rename_i heq
    rw [DataType.isNested, heq]
  · simp only [List.any_cons, List.any_nil, Bool.or_false, List.isPrefixOf_iff_prefix] at hsel
    have := hsel.length_le
    simp at this
    omega

/-! ## The column of a filter -/

theorem head?_filter_range {α : Type} (entries : List α) (p : α → Bool) :
    ((List.range entries.length).filter (fun i => (entries[i]?).any p)).head? =
      entries.findIdx? p := by
  induction entries with
  | nil => rfl
  | cons a entries ih =>
      rw [List.length_cons, List.range_succ_eq_map, List.filter_cons, List.findIdx?_cons]
      cases hp : p a with
      | true => simp [hp]
      | false =>
          have hmap : ((List.range entries.length).map Nat.succ).filter
              (fun i => ((a :: entries)[i]?).any p) =
              ((List.range entries.length).filter (fun i => (entries[i]?).any p)).map Nat.succ := by
            rw [List.filter_map]
            rfl
          simp [hp, hmap, ← ih, List.head?_map]

theorem indexOf_eq_ok {schema : Schema} {name : String} {i : Nat} :
    indexOf schema name = .ok i ↔ schema.findIdx? (fun field => decide (field.name = name)) = some i := by
  unfold indexOf
  cases schema.findIdx? (fun field => decide (field.name = name)) <;> simp

theorem indexOf_lt {schema : Schema} {name : String} {i : Nat} (h : indexOf schema name = .ok i) :
    ∃ field, schema[i]? = some field ∧ field.name = name := by
  rw [indexOf_eq_ok, List.findIdx?_eq_some_iff_getElem] at h
  obtain ⟨hi, hname, -⟩ := h
  exact ⟨schema[i], List.getElem?_eq_getElem hi, by simpa using hname⟩

section

variable {C : Crates} {schema : Schema} {filter : FilterExpr}

theorem head?_projectionMask_dotless {name : String} (h : dotless name = true) :
    (C.projectionMask schema [name]).head? =
      schema.findIdx? (fun field => decide (field.name = name)) := by
  rw [C.projectionMask_eq, maskedColumns, ← head?_filter_range]
  congr 2
  funext i
  congr 1
  funext field
  exact selectsColumn_dotless h field

theorem rowPredicate_nested {K : ArrowKernels} {t : DataType} (h : t.isNested = true) (op : Op)
    (value : ScalarValue) : rowPredicate K t op value = none := by
  have hint : t.isInteger = false := by
    cases t <;> first | rfl | cases h
  unfold rowPredicate
  rw [outOfRangeMatch_not_integer hint]
  simp only [K.comparable_nested h]
  split <;> rfl

/-- A filter evaluates exactly when its name has no dot and names a column whose
type takes the literal; the test is then on the first column of that name. -/
theorem filterPredicate_eq_some {test : Row schema → Bool} :
    filterPredicate C schema filter = some test ↔
      dotless filter.column = true ∧ ∃ i field verdict,
        indexOf schema filter.column = .ok i ∧ schema[i]? = some field ∧
        rowPredicate C.toArrowKernels field.dataType filter.op filter.value = some verdict ∧
        test = fun row => verdict (row.slot i) == some true := by
  cases hdot : dotless filter.column with
  | false =>
      have hnone : filterPredicate C schema filter = none := by
        unfold filterPredicate
        split
        · rfl
        · rename_i i rest hmask
          have hmem : i ∈ C.projectionMask schema [filter.column] := by rw [hmask]; simp
          rw [C.projectionMask_eq, maskedColumns, List.mem_filter] at hmem
          cases hfield : schema[i]? with
          | none => rfl
          | some field =>
              rw [hfield] at hmem
              have hnested := isNested_of_selectsColumn hdot hmem.2
              simp [rowPredicate_nested hnested]
      simp [hnone]
  | true =>
      have hhead : (C.projectionMask schema [filter.column]).head? =
          schema.findIdx? (fun field => decide (field.name = filter.column)) :=
        head?_projectionMask_dotless hdot
      unfold filterPredicate
      simp only [indexOf_eq_ok, ← hhead, true_and]
      cases hmask : C.projectionMask schema [filter.column] with
      | nil => simp
      | cons i rest =>
          simp only [List.head?_cons, Option.some.injEq, exists_and_left, exists_eq_left']
          cases hfield : schema[i]? with
          | none => simp
          | some field =>
              simp only [Option.map_eq_some_iff, Option.some.injEq, exists_eq_left']
              constructor
              · rintro ⟨verdict, hverdict, rfl⟩
                exact ⟨verdict, hverdict, rfl⟩
              · rintro ⟨verdict, hverdict, rfl⟩
                exact ⟨verdict, hverdict, rfl⟩

theorem passes_eq_true {row : Row schema} :
    passes C filter row = true ↔
      dotless filter.column = true ∧ ∃ i field verdict x,
        indexOf schema filter.column = .ok i ∧ schema[i]? = some field ∧
        rowPredicate C.toArrowKernels field.dataType filter.op filter.value = some verdict ∧
        row.slot i = some x ∧ verdict (some x) = some true := by
  unfold passes
  cases hpred : filterPredicate C schema filter with
  | none =>
      simp only [Bool.false_eq_true, false_iff, not_and, not_exists]
      intro hdot i field verdict x hi hf hv _ _
      have := filterPredicate_eq_some.mpr ⟨hdot, i, field, verdict, hi, hf, hv, rfl⟩
      rw [hpred] at this
      cases this
  | some test =>
      obtain ⟨hdot, i, field, verdict, hi, hf, hv, rfl⟩ := filterPredicate_eq_some.mp hpred
      simp only [beq_iff_eq]
      constructor
      · intro htrue
        cases hx : row.slot i with
        | none =>
            rw [hx] at htrue
            exact absurd htrue (rowPredicate_null hv)
        | some x =>
            rw [hx] at htrue
            exact ⟨hdot, i, field, verdict, x, hi, hf, hv, hx, htrue⟩
      · rintro ⟨-, i', field', verdict', x, hi', hf', hv', hx, htrue⟩
        rw [hi] at hi'
        cases hi'
        rw [hf] at hf'
        cases hf'
        rw [hv] at hv'
        cases hv'
        rw [hx]
        exact htrue

theorem passes_iff {row : Row schema} {i : Nat} {field : Field} {verdict : Slot → Option Bool}
    {x : Value} (hdot : dotless filter.column = true) (hi : indexOf schema filter.column = .ok i)
    (hf : schema[i]? = some field)
    (hverdict : rowPredicate C.toArrowKernels field.dataType filter.op filter.value = some verdict)
    (hx : row.slot i = some x) : passes C filter row = true ↔ verdict (some x) = some true := by
  rw [passes_eq_true]
  constructor
  · rintro ⟨-, i', field', verdict', x', hi', hf', hverdict', hx', htrue⟩
    cases hi.symm.trans hi'
    cases hf.symm.trans hf'
    cases hverdict.symm.trans hverdict'
    cases hx.symm.trans hx'
    exact htrue
  · intro htrue
    exact ⟨hdot, i, field, verdict, x, hi, hf, hverdict, hx, htrue⟩

theorem not_passes_of_null {row : Row schema} {i : Nat} (hi : indexOf schema filter.column = .ok i)
    (hnull : row.slot i = none) : ¬ passes C filter row = true := by
  intro hpass
  obtain ⟨-, i', -, -, x, hi', -, -, hx, -⟩ := passes_eq_true.mp hpass
  cases hi.symm.trans hi'
  rw [hnull] at hx
  cases hx

end
end Pydart
