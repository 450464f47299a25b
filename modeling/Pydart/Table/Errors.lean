import Pydart.Parquet.Multi
import Pydart.Table.Paths
import Pydart.Table.Rows

/-! # How a read ends without a table

The exception behind each error, and the ways `from_parquet` fails: the first filter
that is refused, else the path argument, else the first file that cannot be read.
-/

namespace Pydart

/-! ## Exceptions -/

/-- The classes of exceptions; `passedOn` is one of pandas, numpy or pyarrow. -/
inductive PyClass where
  | pydartError
  | zeroCopyRequiredError
  | valueError
  | panicException
  | passedOn
deriving DecidableEq

structure PyErr where
  type : PyClass
  message : String
deriving DecidableEq

namespace PydartError

section

variable (T : TextFormat) (arrowError : ArrowError → String)

def display : PydartError → String
  | unsupportedColumn column dtype reason =>
      "column " ++ T.debug column ++ " (dtype=" ++ dtype ++ ") is not supported: " ++ reason
  | arrow error => "arrow error: " ++ arrowError error
  | unsupportedCodec codec =>
      "unsupported compression codec " ++ T.debug codec ++
        ": expected one of \"snappy\", \"zstd\", \"gzip\", \"uncompressed\""
  | unsupportedFilterOperator column operator =>
      "unsupported filter operator " ++ T.debug operator ++ " on column " ++ T.debug column ++
        ": expected one of \"==\", \"!=\", \"<\", \"<=\", \">\", \">=\""
  | parquetSchemaMismatch firstFile otherFile column =>
      "schema mismatch across Parquet files: " ++ T.debug firstFile ++ " and " ++
        T.debug otherFile ++ " disagree on column " ++ T.debug column
  | parquetReadError path reason =>
      "failed to read Parquet file " ++ T.debug path ++ ": " ++ reason
  | invalidParquetPathArgument message | other message => message
  | zeroCopyRequired message | python message => message

/-- The class an error is raised with. -/
def pyClass : PydartError → PyClass
  | unsupportedColumn _ _ _ | unsupportedCodec _ | unsupportedFilterOperator _ _ => .pydartError
  | parquetSchemaMismatch _ _ _ | invalidParquetPathArgument _ => .pydartError
  | parquetReadError _ _ | arrow _ | other _ => .valueError
  | zeroCopyRequired _ => .zeroCopyRequiredError
  | python _ => .passedOn

def toPyErr (error : PydartError) : PyErr := ⟨error.pyClass, error.display T arrowError⟩

end

end PydartError

def CallFailure.pyClass : CallFailure → PyClass
  | raised error => error.pyClass
  | panicked => .panicException

/-! ## Filters -/

def operators : List String := ["==", "!=", "<", "<=", ">", ">="]

def PyLiteral.Convertible : PyLiteral → Prop
  | .bool _ | .float _ | .str _ => True
  | .int n => fitsI64 n = true ∨ (intAsFloat n).isSome = true
  | .other _ asIndex asFloat => asIndex.any fitsI64 = true ∨ asFloat.isSome = true

/-- The operator is unknown, or else the value converts to no literal. -/
inductive FilterRefused (T : TextFormat) : String × String × PyLiteral → PydartError → Prop where
  | operator {column operator : String} {value : PyLiteral} (h : operator ∉ operators) :
      FilterRefused T (column, operator, value) (.unsupportedFilterOperator column operator)
  | value {column operator : String} {value : PyLiteral} (hop : operator ∈ operators)
      (h : ¬ value.Convertible) :
      FilterRefused T (column, operator, value)
        (.other ("unsupported filter value type " ++ T.debug value.typeName ++
          ": expected int, float, bool, or str"))

section

variable {T : TextFormat}

theorem parseFilterOperator_eq_error {column operator : String} {e : PydartError} :
    parseFilterOperator column operator = .error e ↔
      operator ∉ operators ∧ e = .unsupportedFilterOperator column operator := by
  unfold parseFilterOperator
  split
  case h_7 h₁ h₂ h₃ h₄ h₅ h₆ =>
    have hnot : operator ∉ operators := by
      simp only [operators, List.mem_cons, List.not_mem_nil, or_false, not_or]
      exact ⟨h₁, h₂, h₃, h₄, h₅, h₆⟩
    constructor
    · intro h
      cases h
      exact ⟨hnot, rfl⟩
    · rintro ⟨-, rfl⟩
      rfl
  all_goals
    constructor
    · intro h
      cases h
    · rintro ⟨hnot, -⟩
      exact absurd (by simp [operators]) hnot

theorem parseFilterValue_eq_error {value : PyLiteral} {e : PydartError} :
    parseFilterValue T value = .error e ↔ ¬ value.Convertible ∧
      e = .other ("unsupported filter value type " ++ T.debug value.typeName ++
        ": expected int, float, bool, or str") := by
  unfold parseFilterValue
  generalize PydartError.other _ = refusal
  cases value with
  | bool b => simp [PyLiteral.asBool, PyLiteral.Convertible]
  | float x =>
      simp [PyLiteral.asBool, PyLiteral.asInt64, PyLiteral.asFloat64, PyLiteral.Convertible]
  | str text =>
      simp [PyLiteral.asBool, PyLiteral.asInt64, PyLiteral.asFloat64, PyLiteral.asString,
        PyLiteral.Convertible]
  | int n =>
      have hint : (PyLiteral.int n).asInt64 =
          if fitsI64 n then some (Int64.ofInt n) else none := rfl
      have hfloat : (PyLiteral.int n).asFloat64 = intAsFloat n := rfl
      have hconvertible : (PyLiteral.int n).Convertible ↔
          fitsI64 n = true ∨ (intAsFloat n).isSome = true := Iff.rfl
      rw [hint, hfloat, hconvertible]
      -- the float is kept closed: unfolding it would round an arbitrary integer
      generalize fitsI64 n = fits, intAsFloat n = float
      cases fits <;> cases float <;> simp [PyLiteral.asBool, PyLiteral.asString, eq_comm]
  | other typeName asIndex asFloat =>
      cases asIndex with
      | none =>
          cases asFloat <;>
            simp [PyLiteral.asBool, PyLiteral.asInt64, PyLiteral.asFloat64, PyLiteral.asString,
              PyLiteral.Convertible, eq_comm]
      | some n =>
          cases hfits : fitsI64 n <;> cases asFloat <;>
            simp [PyLiteral.asBool, PyLiteral.asInt64, PyLiteral.asFloat64, PyLiteral.asString,
              PyLiteral.Convertible, hfits, eq_comm]

theorem parseFilter_eq_error {filter : String × String × PyLiteral} {e : PydartError} :
    parseFilter T filter = .error e ↔ FilterRefused T filter e := by
  obtain ⟨column, operator, value⟩ := filter
  constructor
  · intro h
    rcases Except.bind_eq_error.mp h with hop | ⟨op, hop, h⟩
    · obtain ⟨hnot, rfl⟩ := parseFilterOperator_eq_error.mp hop
      exact .operator hnot
    · have hmem : operator ∈ operators := by
        by_contra hnot
        cases hop.symm.trans (parseFilterOperator_eq_error.mpr ⟨hnot, rfl⟩)
      rcases Except.bind_eq_error.mp h with hvalue | ⟨literal, -, h⟩
      · obtain ⟨hnot, rfl⟩ := parseFilterValue_eq_error.mp hvalue
        exact .value hmem hnot
      · cases h
  · intro h
    cases h with
    | operator hnot =>
        exact Except.bind_eq_error.mpr (Or.inl (parseFilterOperator_eq_error.mpr ⟨hnot, rfl⟩))
    | value hop hnot =>
        cases hparse : parseFilterOperator column operator with
        | error e => exact absurd hop (parseFilterOperator_eq_error.mp hparse).1
        | ok op =>
            refine Except.bind_eq_error.mpr (Or.inr ⟨op, hparse, ?_⟩)
            exact Except.bind_eq_error.mpr
              (Or.inl (parseFilterValue_eq_error.mpr ⟨hnot, rfl⟩))

/-- The filters before the first refused one are parsed, and that one is reported. -/
def FiltersRefused (T : TextFormat) (filters : Option (List (String × String × PyLiteral)))
    (e : PydartError) : Prop :=
  ∃ before filter after, filters = some (before ++ filter :: after) ∧
    (∀ f ∈ before, ∃ parsed, parseFilter T f = .ok parsed) ∧ FilterRefused T filter e

theorem parseFilters_eq_error {filters : Option (List (String × String × PyLiteral))}
    {e : PydartError} : parseFilters T filters = .error e ↔ FiltersRefused T filters e := by
  cases filters with
  | none => simp [parseFilters, FiltersRefused]
  | some tuples =>
      rw [parseFilters, Except.mapM_eq_error]
      simp only [parseFilter_eq_error, FiltersRefused, Option.some.injEq]

end

/-! ## Paths -/

inductive ElementRefused (T : TextFormat) (F : FileSystem) (s : F.State) (path : FilePath) :
    PydartError → Prop where
  | directory (h : F.isDir s path = true) :
      ElementRefused T F s path (.invalidParquetPathArgument
        ("from_parquet path list element " ++ T.debugPath path ++
          " is a directory; pass a directory as the sole path argument instead of inside a list"))
  | missing (hdir : F.isDir s path = false) (h : F.exists? s path = false) :
      ElementRefused T F s path (.parquetReadError (T.display path) "no such file or directory")
  | extension (hdir : F.isDir s path = false) (hthere : F.exists? s path = true)
      (h : path.hasParquetExtension = false) :
      ElementRefused T F s path
        (.parquetReadError (T.display path) "expected a .parquet file extension")

inductive PathRefused (T : TextFormat) (F : FileSystem) (s : F.State) :
    PathArgument → PydartError → Prop where
  | unreadable {directory : FilePath} {reason : String} (h : F.isDir s directory = true)
      (hread : F.readDir s directory = .error reason) :
      PathRefused T F s (.single directory) (.parquetReadError (T.display directory) reason)
  | noFiles {directory : FilePath} {entries : List EntryName} (h : F.isDir s directory = true)
      (hread : F.readDir s directory = .ok entries)
      (hnone : ∀ name ∈ entries, isParquetEntry F s directory name = false) :
      PathRefused T F s (.single directory) (.invalidParquetPathArgument
        ("directory " ++ T.debugPath directory ++ " contains no .parquet files"))
  | emptyList :
      PathRefused T F s (.list [])
        (.invalidParquetPathArgument "from_parquet received an empty path list")
  | element {paths before after : List FilePath} {path : FilePath} {e : PydartError}
      (hsplit : paths = before ++ path :: after)
      (hbefore : ∀ p ∈ before, ∀ e, ¬ ElementRefused T F s p e)
      (h : ElementRefused T F s path e) : PathRefused T F s (.list paths) e
  | other :
      PathRefused T F s .other (.invalidParquetPathArgument
        "from_parquet's path argument must be a str, pathlib.Path, or a list of str/Path")

section

variable {T : TextFormat} {F : FileSystem} {s : F.State}

theorem checkListElement_eq_error {path : FilePath} {e : PydartError} :
    checkListElement T F s path = .error e ↔ ElementRefused T F s path e := by
  unfold checkListElement
  constructor
  · intro h
    split at h
    · rename_i hdir
      cases h
      exact .directory hdir
    · rename_i hdir
      rw [Bool.not_eq_true] at hdir
      split at h
      · rename_i hmissing
        cases h
        exact .missing hdir (by simpa using hmissing)
      · rename_i hthere
        split at h
        · rename_i hext
          cases h
          exact .extension hdir (by simpa using hthere) (by simpa using hext)
        · cases h
  · intro h
    cases h with
    | directory hdir => rw [if_pos hdir]
    | missing hdir hmissing => simp [hdir, hmissing]
    | extension hdir hthere hext => simp [hdir, hthere, hext]

theorem forM_eq_error {check : FilePath → Except PydartError Unit} {paths : List FilePath}
    {e : PydartError} :
    paths.forM check = .error e ↔ ∃ before path after, paths = before ++ path :: after ∧
      (∀ p ∈ before, check p = .ok ()) ∧ check path = .error e := by
  rw [List.forM_eq_forM]
  induction paths with
  | nil => simp [pure, Except.pure]
  | cons path paths ih =>
      rw [List.forM_cons, Except.bind_eq_error, ih]
      constructor
      · rintro (hhead | ⟨_, hhead, before, p, after, rfl, hbefore, hp⟩)
        · exact ⟨[], path, paths, rfl, by simp, hhead⟩
        · exact ⟨path :: before, p, after, rfl, List.forall_mem_cons.mpr ⟨hhead, hbefore⟩, hp⟩
      · rintro ⟨before, p, after, hsplit, hbefore, hp⟩
        cases before with
        | nil =>
            cases hsplit
            exact Or.inl hp
        | cons q before =>
            cases hsplit
            obtain ⟨hq, hrest⟩ := List.forall_mem_cons.mp hbefore
            exact Or.inr ⟨(), hq, before, p, after, rfl, hrest, hp⟩

theorem checkListElement_eq_ok {path : FilePath} :
    checkListElement T F s path = .ok () ↔ ∀ e, ¬ ElementRefused T F s path e := by
  simp only [← checkListElement_eq_error]
  cases checkListElement T F s path with
  | ok _ => simp
  | error e => simp

theorem directoryFiles_of_entries {directory : FilePath} {entries : List EntryName}
    (hread : F.readDir s directory = .ok entries) :
    if ∀ name ∈ entries, isParquetEntry F s directory name = false then
      directoryFiles T F s directory = .error (.invalidParquetPathArgument
        ("directory " ++ T.debugPath directory ++ " contains no .parquet files"))
    else ∃ files, directoryFiles T F s directory = .ok files := by
  have hempty : ((entries.map directory.join).filter fun p =>
        F.isFile s p && p.hasParquetExtension).mergeSort FilePath.le = [] ↔
      ∀ name ∈ entries, isParquetEntry F s directory name = false := by
    rw [← List.length_eq_zero_iff, List.length_mergeSort, List.length_eq_zero_iff,
      List.filter_eq_nil_iff, List.forall_mem_map]
    simp only [Bool.not_eq_true, isParquetEntry]
  unfold directoryFiles
  simp only [hread, Except.mapError, Except.ok_bind, List.isEmpty_iff, hempty]
  split
  · rfl
  · exact ⟨_, rfl⟩

theorem directoryFiles_eq_error {directory : FilePath} {e : PydartError}
    (hdir : F.isDir s directory = true) :
    directoryFiles T F s directory = .error e ↔ PathRefused T F s (.single directory) e := by
  cases hread : F.readDir s directory with
  | error reason =>
      have hfails : directoryFiles T F s directory =
          .error (.parquetReadError (T.display directory) reason) := by
        rw [directoryFiles, hread]
        rfl
      rw [hfails]
      constructor
      · intro h
        cases h
        exact .unreadable hdir hread
      · intro h
        cases h with
        | unreadable _ hreason =>
            cases hread.symm.trans hreason
            rfl
        | noFiles _ hentries _ => cases hread.symm.trans hentries
  | ok entries =>
      have hresult := directoryFiles_of_entries (T := T) hread
      split at hresult
      · rename_i hnone
        rw [hresult]
        constructor
        · intro h
          cases h
          exact .noFiles hdir hread hnone
        · intro h
          cases h with
          | unreadable _ hreason => cases hread.symm.trans hreason
          | noFiles _ _ _ => rfl
      · rename_i hsome
        obtain ⟨files, hfiles⟩ := hresult
        constructor
        · intro h
          cases h.symm.trans hfiles
        · intro h
          cases h with
          | unreadable _ hreason => cases hread.symm.trans hreason
          | noFiles _ hentries hnone =>
              cases hread.symm.trans hentries
              exact absurd hnone hsome

theorem resolveParquetPaths_eq_error {path : PathArgument} {e : PydartError} :
    resolveParquetPaths T F s path = .error e ↔ PathRefused T F s path e := by
  cases path with
  | single single =>
      rw [resolveParquetPaths]
      split
      · rename_i hdir
        exact directoryFiles_eq_error hdir
      · rename_i hdir
        constructor
        · intro h
          cases h
        · intro h
          cases h with
          | unreadable h _ => exact absurd h hdir
          | noFiles h _ _ => exact absurd h hdir
  | list paths =>
      cases paths with
      | nil =>
          constructor
          · intro h
            cases h
            exact .emptyList
          · intro h
            cases h with
            | emptyList => rfl
            | element hsplit _ _ => simp at hsplit
      | cons first rest =>
          have hforM : resolveParquetPaths T F s (.list (first :: rest)) = .error e ↔
              (first :: rest).forM (checkListElement T F s) = .error e := by
            rw [resolveParquetPaths, List.isEmpty_cons, if_neg (by decide), Except.bind_eq_error]
            simp [pure, Except.pure]
          rw [hforM, forM_eq_error]
          simp only [checkListElement_eq_ok, checkListElement_eq_error]
          constructor
          · rintro ⟨before, path, after, hsplit, hbefore, hpath⟩
            exact .element hsplit hbefore hpath
          · intro h
            cases h with
            | element hsplit hbefore hpath => exact ⟨_, _, _, hsplit, hbefore, hpath⟩
  | other =>
      constructor
      · intro h
        cases h
        exact .other
      · intro h
        cases h
        rfl

theorem resolveParquetPaths_ne_nil {path : PathArgument} {paths : List FilePath}
    (h : resolveParquetPaths T F s path = .ok paths) : paths ≠ [] := by
  cases path with
  | single single =>
      rw [resolveParquetPaths] at h
      split at h
      · unfold directoryFiles at h
        obtain ⟨entries, -, h⟩ := Except.bind_eq_ok.mp h
        dsimp only at h
        split at h
        · cases h
        · rename_i hsome
          cases h
          simpa [List.isEmpty_iff] using hsome
      · cases h
        simp
  | list paths =>
      cases paths with
      | nil => cases h
      | cons first rest =>
          rw [resolveParquetPaths, List.isEmpty_cons, if_neg (by decide)] at h
          obtain ⟨_, -, hpure⟩ := Except.bind_eq_ok.mp h
          cases hpure
          simp
  | other => cases h

end

/-! ## The call -/

section

variable (T : TextFormat) (F : FileSystem) (s : F.State) (C : Crates) (format : ParquetFormat)

/-- How a call ends without a table: filters first, then the path argument, then the
files in their order. -/
inductive CallFails (path : PathArgument) (columns : Option (List String))
    (filters : Option (List (String × String × PyLiteral))) : CallFailure → Prop where
  | filters {e : PydartError} (h : FiltersRefused T filters e) :
      CallFails path columns filters (.raised e)
  | path {exprs : List FilterExpr} {e : PydartError} (hfilters : parseFilters T filters = .ok exprs)
      (h : PathRefused T F s path e) : CallFails path columns filters (.raised e)
  | first {exprs : List FilterExpr} {first : FilePath} {rest : List FilePath}
      {source : ParquetError} (hfilters : parseFilters T filters = .ok exprs)
      (hpaths : resolveParquetPaths T F s path = .ok (first :: rest))
      (h : readRawSchema (F.disk s format T) first = .error source) :
      CallFails path columns filters
        (.raised (.parquetReadError (T.display first) (T.parquetError source)))
  | file {exprs : List FilterExpr} {first p : FilePath} {rest before after : List FilePath}
      {schema : Schema} {failure : MultiFailure} (hfilters : parseFilters T filters = .ok exprs)
      (hpaths : resolveParquetPaths T F s path = .ok (first :: rest))
      (hschema : readRawSchema (F.disk s format T) first = .ok schema)
      (hsplit : first :: rest = before ++ p :: after)
      (hbefore : ∀ q ∈ before, ∃ batch,
        ReadsAs C (F.disk s format T) columns exprs schema q batch)
      (h : FailsAs C (F.disk s format T) columns exprs first schema p failure) :
      CallFails path columns filters (mapMultiErr T failure)

variable {T F s C format}

theorem raise_eq_ok {α : Type} {x : Except PydartError α} {a : α} :
    raise x = .ok a ↔ x = .ok a := by
  cases x <;> simp [raise]

theorem raise_eq_error {α : Type} {x : Except PydartError α} {failure : CallFailure} :
    raise x = .error failure ↔ ∃ e, x = .error e ∧ failure = .raised e := by
  cases x <;> simp [raise, eq_comm]

variable {path : PathArgument} {columns : Option (List String)}
  {filters : Option (List (String × String × PyLiteral))} {failure : CallFailure}

theorem fromParquet_eq_error :
    Table.fromParquet T F s C format path columns filters = .error failure ↔
      CallFails T F s C format path columns filters failure := by
  unfold Table.fromParquet
  constructor
  · intro h
    rcases Except.bind_eq_error.mp h with hparse | ⟨exprs, hparse, h⟩
    · obtain ⟨e, he, rfl⟩ := raise_eq_error.mp hparse
      exact .filters (parseFilters_eq_error.mp he)
    have hparse := raise_eq_ok.mp hparse
    rcases Except.bind_eq_error.mp h with hpaths | ⟨paths, hpaths, h⟩
    · obtain ⟨e, he, rfl⟩ := raise_eq_error.mp hpaths
      exact .path hparse (resolveParquetPaths_eq_error.mp he)
    have hpaths := raise_eq_ok.mp hpaths
    rcases Except.bind_eq_error.mp h with hread | ⟨batch, -, h⟩
    · obtain ⟨multi, hmulti, rfl⟩ := Except.mapError_eq_error.mp hread
      cases paths with
      | nil => exact absurd rfl (resolveParquetPaths_ne_nil hpaths)
      | cons first rest =>
          rcases readParquetMulti_eq_error.mp hmulti with
            ⟨source, hsource, rfl⟩ | ⟨schema, hschema, before, p, after, hsplit, hbefore, hfails⟩
          · exact .first hparse hpaths hsource
          · exact .file hparse hpaths hschema hsplit hbefore hfails
    · cases h
  · intro h
    cases h with
    | filters hrefused =>
        rw [parseFilters_eq_error.mpr hrefused]
        rfl
    | path hparse hrefused =>
        rw [hparse, resolveParquetPaths_eq_error.mpr hrefused]
        rfl
    | first hparse hpaths hsource =>
        rw [hparse, hpaths]
        simp only [raise, Except.ok_bind,
          readParquetMulti_eq_error.mpr (Or.inl ⟨_, hsource, rfl⟩)]
        rfl
    | file hparse hpaths hschema hsplit hbefore hfails =>
        rw [hparse, hpaths]
        simp only [raise, Except.ok_bind, readParquetMulti_eq_error.mpr
          (Or.inr ⟨_, hschema, _, _, _, hsplit, hbefore, hfails⟩)]
        rfl

/-- An argument of the call that the crate's own exception answers: an operator, the path
argument, or files that do not go together. -/
def MisusedArgument (T : TextFormat) (F : FileSystem) (s : F.State) (format : ParquetFormat)
    (path : PathArgument) (filters : Option (List (String × String × PyLiteral))) : Prop :=
  (∃ tuples ∈ filters, ∃ filter ∈ tuples, filter.2.1 ∉ operators) ∨
    (∃ message, PathRefused T F s path (.invalidParquetPathArgument message)) ∨
    ∃ paths, resolveParquetPaths T F s path = .ok paths ∧ ∃ p ∈ paths, ∃ q ∈ paths, ∃ a b,
      readRawSchema (F.disk s format T) p = .ok a ∧
        readRawSchema (F.disk s format T) q = .ok b ∧ ¬ SchemasMatch a b

theorem FilterRefused.pyClass {filter : String × String × PyLiteral} {e : PydartError}
    (h : FilterRefused T filter e) :
    (e.pyClass = .pydartError ∧ filter.2.1 ∉ operators) ∨ e.pyClass = .valueError := by
  cases h with
  | operator hnot => exact Or.inl ⟨rfl, hnot⟩
  | value => exact Or.inr rfl

theorem PathRefused.pyClass {e : PydartError} (h : PathRefused T F s path e) :
    (∃ message, e = .invalidParquetPathArgument message) ∨ e.pyClass = .valueError := by
  cases h with
  | unreadable => exact Or.inr rfl
  | noFiles | emptyList | other => exact Or.inl ⟨_, rfl⟩
  | element _ _ helement =>
      cases helement with
      | directory => exact Or.inl ⟨_, rfl⟩
      | missing | extension => exact Or.inr rfl

theorem FirstDifference.not_match {a b : Schema} {name : String} (h : FirstDifference a b name) :
    ¬ SchemasMatch a b := by
  intro hmatch
  cases (firstSchemaMismatch_eq_some.mpr h).symm.trans (firstSchemaMismatch_eq_none.mpr hmatch)

/-- A failing call raises the crate's own exception only where an argument was misused;
everything else is a `ValueError`, or a panic. -/
theorem CallFails.pyClass (h : CallFails T F s C format path columns filters failure) :
    (failure.pyClass = .pydartError ∧ MisusedArgument T F s format path filters) ∨
      failure.pyClass = .valueError ∨ failure = .panicked := by
  cases h with
  | filters hrefused =>
      obtain ⟨before, filter, after, rfl, -, hfilter⟩ := hrefused
      rcases hfilter.pyClass with ⟨hclass, hnot⟩ | hclass
      · exact Or.inl ⟨hclass, Or.inl ⟨_, rfl, filter, by simp, hnot⟩⟩
      · exact Or.inr (Or.inl hclass)
  | path _ hrefused =>
      rcases hrefused.pyClass with ⟨message, rfl⟩ | hclass
      · exact Or.inl ⟨rfl, Or.inr (Or.inl ⟨message, hrefused⟩)⟩
      · exact Or.inr (Or.inl hclass)
  | first => exact Or.inr (Or.inl rfl)
  | file _ hpaths hschema hsplit _ hfails =>
      rcases hfails with ⟨source, -, rfl⟩ | ⟨raw, hraw, hrest⟩
      · exact Or.inr (Or.inl rfl)
      · rcases hrest with ⟨column, hdifference, rfl⟩ | ⟨-, ⟨source, -, rfl⟩ | ⟨-, rfl⟩⟩
        · refine Or.inl ⟨rfl, Or.inr (Or.inr ⟨_, hpaths, _, List.mem_cons_self, _, ?_, _, _,
            hschema, hraw, hdifference.not_match⟩)⟩
          rw [hsplit]
          simp
        · exact Or.inr (Or.inl rfl)
        · exact Or.inr (Or.inr rfl)

/-- Every way the call can fail, and the class of the exception it is reported with. -/
theorem fromParquet_failures (T : TextFormat) (F : FileSystem) (s : F.State) (C : Crates)
    (format : ParquetFormat) (path : PathArgument) (columns : Option (List String))
    (filters : Option (List (String × String × PyLiteral))) (failure : CallFailure) :
    (Table.fromParquet T F s C format path columns filters = .error failure ↔
        CallFails T F s C format path columns filters failure) ∧
      (Table.fromParquet T F s C format path columns filters = .error failure →
        (failure.pyClass = .pydartError ∧ MisusedArgument T F s format path filters) ∨
          failure.pyClass = .valueError ∨ failure = .panicked) :=
  ⟨fromParquet_eq_error, fun h => (fromParquet_eq_error.mp h).pyClass⟩

end
end Pydart
