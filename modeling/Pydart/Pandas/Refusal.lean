import Pydart.Pandas.Chunks

/-! # Frames that are refused

A frame becomes a table exactly when its labels differ and each of its columns is taken
on its own. Otherwise the first column that is not taken says why.
-/

namespace Pydart

/-! ## Dtypes -/

def Dtype.unit? : Dtype → Option String
  | .arrow (.timestamp unit _) | .arrow (.duration unit) => some unit.text
  | .datetimeTz unit _ | .numpy (.datetime64 unit) | .numpy (.timedelta64 unit) => some unit
  | _ => none

/-- The dtypes of the columns that may be taken. -/
def Dtype.importable : Dtype → Bool
  | .arrow t => t.importable
  | .categorical _ | .numpy .bool | .numpy (.numeric _) | .numpy .object => true
  | .datetimeTz unit _ | .numpy (.datetime64 unit) | .numpy (.timedelta64 unit) => unit == "ns"
  | .extension _ | .numpy (.other _) => false

section

variable (P : PandasCrates)

/-- Why a dtype is refused: its resolution, or a type of no supported family. -/
inductive DtypeRefused : Dtype → String → Prop where
  | unit {dtype : Dtype} {unit : String} (hunit : dtype.unit? = some unit) (hne : unit ≠ "ns") :
      DtypeRefused dtype (nonNsTemporalRejectionReason P unit)
  | arrow {t : DataType} (htype : t.importable = false) (hunit : (Dtype.arrow t).unit? = none) :
      DtypeRefused (.arrow t)
        ("only numeric (int/uint/float), boolean, string, timestamp, and " ++
          "duration ArrowDtype columns are supported in this phase")
  | extension {typeName : String} :
      DtypeRefused (.extension typeName)
        ("pandas masked/extension dtype " ++ typeName ++ " is not supported in this " ++
          "phase (pandas masked nullable extension dtypes such as Int64/boolean/Float64 " ++
          "are out of scope; use an ArrowDtype-backed column, e.g. " ++
          "dtype=\"int64[pyarrow]\", for nullable numeric support)")
  | other {dtype : OtherDtype} :
      DtypeRefused (.numpy (.other dtype))
        ("only numeric (int/uint/float), boolean, object/string, datetime64, " ++
          "and timedelta64 columns are supported in this phase")

variable {P}

theorem nsOnly_eq_error {name text unit : String} (hne : unit ≠ "ns") :
    nsOnly P name text unit =
      .error (.unsupportedColumn name text (nonNsTemporalRejectionReason P unit)) :=
  if_pos hne

theorem DtypeRefused.classifyDtype {dtype : Dtype} {reason : String}
    (h : DtypeRefused P dtype reason) (name : String) :
    Pydart.classifyDtype P dtype name = .error (.unsupportedColumn name (P.str dtype) reason) := by
  cases h with
  | unit hunit hne =>
      rename_i unit
      have hgate : ∀ text (accepted : DtypeBackend × ArrowKind × String),
          (nsOnly P name text unit >>= fun _ => pure accepted) =
            .error (.unsupportedColumn name text (nonNsTemporalRejectionReason P unit)) := by
        intro text accepted
        rw [nsOnly_eq_error hne]
        rfl
      unfold Dtype.unit? at hunit
      split at hunit <;> cases hunit <;> exact hgate _ _
  | arrow htype hunit =>
      rename_i t
      cases t with
      | timestamp | duration => cases hunit
      | _ => first | rfl | cases htype
  | extension => rfl
  | other =>
      rename_i dtype
      cases dtype <;> rfl

theorem classifyDtype_of_importable {dtype : Dtype} (h : dtype.importable = true) (name : String) :
    ∃ backend kind, Pydart.classifyDtype P dtype name = .ok (backend, kind, P.str dtype) := by
  cases dtype with
  | arrow t => exact ⟨.arrow, classifyDtype_arrow h name⟩
  | categorical => exact ⟨_, _, rfl⟩
  | datetimeTz unit tz =>
      cases beq_iff_eq.mp h
      exact ⟨_, _, rfl⟩
  | extension => cases h
  | numpy dtype =>
      cases dtype with
      | bool | object => exact ⟨_, _, rfl⟩
      | numeric dtype => cases dtype <;> exact ⟨_, _, rfl⟩
      | datetime64 unit | timedelta64 unit =>
          cases beq_iff_eq.mp h
          exact ⟨_, _, rfl⟩
      | other => cases h

theorem importable_or_refused (dtype : Dtype) :
    dtype.importable = true ∨ ∃ reason, DtypeRefused P dtype reason := by
  cases himportable : dtype.importable with
  | true => exact Or.inl rfl
  | false =>
      refine Or.inr ?_
      cases dtype with
      | arrow t =>
          cases t with
          | timestamp unit | duration unit =>
              cases unit with
              | nanosecond => cases himportable
              | second | millisecond | microsecond => exact ⟨_, .unit rfl (by decide)⟩
          | _ => exact ⟨_, .arrow himportable rfl⟩
      | categorical => cases himportable
      | datetimeTz unit tz => exact ⟨_, .unit rfl (beq_eq_false_iff_ne.mp himportable)⟩
      | extension => exact ⟨_, .extension⟩
      | numpy dtype =>
          cases dtype with
          | datetime64 unit | timedelta64 unit =>
              exact ⟨_, .unit rfl (beq_eq_false_iff_ne.mp himportable)⟩
          | other => exact ⟨_, .other⟩
          | bool | numeric | object => cases himportable

end

/-! ## Columns -/

/-- The columns that are taken. A half float is, unless its buffer is flat. -/
def Series.accepted : Series → Bool
  | .categorical _ array => array.isSome
  | .numeric values =>
      values.native &&
        if values.cContiguous then values.dtype.elementType.isSome
        else values.dtype.arrowType.isSome
  | .object values _ => values.all fun value => value.isStr || value.isMissing
  | series => series.dtype.importable

section

variable (P : PandasCrates) (label : Label)

/-- Why a column is refused: its dtype, the first object that is no string, a flat buffer
that cannot be borrowed, or an export that fails. -/
inductive ColumnRefused : Series → PydartError → Prop where
  | dtype {series : Series} {reason : String} (h : DtypeRefused P series.dtype reason) :
      ColumnRefused series (.unsupportedColumn label.text (P.str series.dtype) reason)
  | object {before after : List PyObject} {value : PyObject} {flag : Bool}
      (hbefore : before.all (fun value => value.isStr || value.isMissing) = true)
      (hmissing : value.isMissing = false) (hstr : value.isStr = false) :
      ColumnRefused (.object (before ++ value :: after) flag)
        (.unsupportedColumn label.text "object"
          ("non-string value of type " ++ P.debug value.typeName ++ " found at row " ++
            toString before.length ++ "; object-dtype " ++
            "columns must contain only str values (and None/NaN) -- Pydart does not rely " ++
            "on pyarrow's own type inference for this, which would silently accept " ++
            "dict-valued or int-valued object columns instead of rejecting them"))
  | elements {values : NumpyArray} (hflat : values.cContiguous = true)
      (h : values.dtype.elementType = none) :
      ColumnRefused (.numeric values)
        (.other ("column " ++ P.debug label.text ++
          ": unsupported numpy numeric dtype " ++ P.debug values.dtype.name))
  | swapped {values : NumpyArray} {rust : String} {t : DataType} (hflat : values.cContiguous = true)
      (h : values.dtype.elementType = some (rust, t)) (hnative : values.native = false) :
      ColumnRefused (.numeric values)
        (.other ("column " ++ P.debug label.text ++ ": expected a 1-D numpy array of " ++ rust))
  | stream {series : Series} {e : PydartError}
      (hseries : (∃ values, series = .numeric values ∧ values.cContiguous = false) ∨
        ∃ ordered, series = .categorical ordered none)
      (h : P.arrowCStream label series = .error e) : ColumnRefused series e

variable {P label} {df : DataFrame}

theorem isContiguous_classified {series : Series} {backend : DtypeBackend} {kind : ArrowKind}
    (h : Classified series.dtype backend kind) : ∃ flag, isContiguous backend series = .ok flag := by
  cases series <;> cases h <;> exact ⟨_, rfl⟩

theorem Series.importable_of_accepted {series : Series} (h : series.accepted = true) :
    series.dtype.importable = true := by
  cases series with
  | categorical | numeric | object => rfl
  | _ => exact h

theorem Series.exportType_of_accepted {series : Series} (h : series.accepted = true) :
    ∃ t, series.exportType = some t := by
  cases series with
  | arrow array => exact ⟨_, rfl⟩
  | categorical ordered array =>
      obtain ⟨array, rfl⟩ := Option.isSome_iff_exists.mp h
      exact ⟨_, rfl⟩
  | numeric values =>
      rw [accepted, Bool.and_eq_true] at h
      rw [exportType, if_pos h.1]
      refine Option.isSome_iff_exists.mp ?_
      by_cases hflat : values.cContiguous = true
      · rw [if_pos hflat] at h
        obtain ⟨⟨rust, t⟩, helement⟩ := Option.isSome_iff_exists.mp h.2
        rw [NumericDtype.arrowType_of_elementType helement]
        rfl
      · rw [if_neg hflat] at h
        exact h.2
  | object values flag => exact ⟨_, if_pos h⟩
  | bool => exact ⟨_, rfl⟩
  | datetimeTz | datetime64 | timedelta64 => exact ⟨_, if_pos (beq_iff_eq.mp h)⟩
  | extension | other => cases h

theorem Series.valid_of_accepted {series : Series} (h : series.accepted = true) (name : String) :
    validateObjectColumnContents P series name = .ok () := by
  cases series with
  | object values flag => exact validateFrom_eq_ok.mpr h
  | _ => rfl

/-- A column that is taken is converted. -/
theorem convertColumn_of_accepted {series : Series} (hitem : df.getItem label = .ok series)
    (h : series.accepted = true) :
    ∃ column : ConvertedColumn, convertColumn P df label = .ok column.state := by
  obtain ⟨backend, kind, hclass⟩ :=
    classifyDtype_of_importable (P := P) (Series.importable_of_accepted h) label.text
  have hclassified := (classifyDtype_eq_ok hclass).2
  obtain ⟨flag, hflat⟩ := isContiguous_classified hclassified
  by_cases hborrow : backend = .numpy ∧ kind = .numeric ∧ flag = true
  · obtain ⟨rfl, rfl, rfl⟩ := hborrow
    cases series with
    | numeric values =>
        have hcontiguous : values.cContiguous = true := Except.ok.inj hflat
        rw [Series.accepted, if_pos hcontiguous, Bool.and_eq_true] at h
        obtain ⟨column, hconvert, -⟩ :=
          convertColumn_of_borrow hitem hclass hcontiguous h.1 h.2
        exact ⟨column, hconvert⟩
    | _ => cases hclassified
  · obtain ⟨t, hexport⟩ := Series.exportType_of_accepted h
    obtain ⟨table, htable, -⟩ := P.stream_ok label hexport
    obtain ⟨column, hconvert, -⟩ := convertColumn_of_stream hitem hclass hflat
      (fun _ => Series.valid_of_accepted h label.text) hborrow htable
    exact ⟨column, hconvert⟩

theorem validateFrom_eq_error {name : String} {before after : List PyObject} {value : PyObject}
    (hbefore : before.all (fun value => value.isStr || value.isMissing) = true)
    (hmissing : value.isMissing = false) (hstr : value.isStr = false) (i : Nat) :
    validateFrom P name i (before ++ value :: after) =
      .error (.unsupportedColumn name "object"
        ("non-string value of type " ++ P.debug value.typeName ++ " found at row " ++
          toString (i + before.length) ++ "; object-dtype " ++
          "columns must contain only str values (and None/NaN) -- Pydart does not rely " ++
          "on pyarrow's own type inference for this, which would silently accept " ++
          "dict-valued or int-valued object columns instead of rejecting them")) := by
  induction before generalizing i with
  | nil =>
      rw [List.nil_append, validateFrom, hmissing, hstr]
      rfl
  | cons first before ih =>
      rw [List.all_cons, Bool.and_eq_true, Bool.or_eq_true] at hbefore
      have hnext := ih hbefore.2 (i + 1)
      rw [Nat.add_right_comm] at hnext
      rw [List.cons_append, validateFrom]
      split
      · exact hnext
      · rename_i hpresent
        rw [hbefore.1.resolve_right hpresent]
        exact hnext

/-- A column whose dtype is supported fails where its values are validated or imported. -/
theorem convertColumn_of_unimported {series : Series} {backend : DtypeBackend} {kind : ArrowKind}
    {text : String} {flag : Bool} {e : PydartError} (hitem : df.getItem label = .ok series)
    (hclass : Pydart.classifyDtype P series.dtype label.text = .ok (backend, kind, text))
    (hflat : isContiguous backend series = .ok flag)
    (hvalid : validateObjectColumnContents P series label.text = .ok ())
    (himport : ∀ records, importColumn P df label series (planColumn backend kind flag) backend kind
      records = .error e) : convertColumn P df label = .error e := by
  unfold convertColumn fromPandasStep
  simp only [hitem, hclass, hflat, hvalid, himport, Except.ok_bind]
  split <;> rfl

theorem classifyDtype_numeric (dtype : NumericDtype) (name : String) :
    Pydart.classifyDtype P (.numpy (.numeric dtype)) name =
      .ok (.numpy, .numeric, P.str (.numpy (.numeric dtype))) := by
  cases dtype <;> rfl

/-- A flat buffer that cannot be borrowed is not streamed instead. -/
theorem convertColumn_of_unborrowed {values : NumpyArray} {e : PydartError}
    (hitem : df.getItem label = .ok (.numeric values)) (hflat : values.cContiguous = true)
    (hborrow : borrowNumpyNumericColumn P (.numeric values) label.text = .error e) :
    convertColumn P df label = .error e := by
  have hcontiguous : isContiguous .numpy (.numeric values) = .ok true := congrArg Except.ok hflat
  refine convertColumn_of_unimported hitem (classifyDtype_numeric values.dtype label.text)
    hcontiguous rfl fun records => ?_
  unfold importColumn planColumn
  simp only [if_true, hborrow]
  rfl

theorem convertColumn_of_unstreamed {series : Series} {backend : DtypeBackend} {kind : ArrowKind}
    {text : String} {flag : Bool} {e : PydartError} (hitem : df.getItem label = .ok series)
    (hclass : Pydart.classifyDtype P series.dtype label.text = .ok (backend, kind, text))
    (hflat : isContiguous backend series = .ok flag)
    (hvalid : validateObjectColumnContents P series label.text = .ok ())
    (hborrow : ¬ (backend = .numpy ∧ kind = .numeric ∧ flag = true))
    (hstream : P.arrowCStream label series = .error e) :
    convertColumn P df label = .error e := by
  refine convertColumn_of_unimported hitem hclass hflat hvalid fun records => ?_
  rw [importColumn_stream hborrow, importColumnViaPandasStream, hitem]
  simp only [Except.ok_bind, hstream]
  rfl

theorem ColumnRefused.convertColumn {series : Series} {e : PydartError}
    (h : ColumnRefused P label series e) (hitem : df.getItem label = .ok series) :
    Pydart.convertColumn P df label = .error e := by
  cases h with
  | dtype hdtype =>
      unfold Pydart.convertColumn fromPandasStep
      simp only [hitem, Except.ok_bind, hdtype.classifyDtype]
      rfl
  | object hbefore hmissing hstr =>
      rename_i before after value flag
      have hclass : Pydart.classifyDtype P (.numpy .object) label.text =
          .ok (.numpy, .string, P.str (.numpy .object)) := rfl
      have hvalid : validateFrom P label.text 0 (before ++ value :: after) = .error _ :=
        validateFrom_eq_error hbefore hmissing hstr 0
      rw [Nat.zero_add] at hvalid
      unfold Pydart.convertColumn fromPandasStep
      simp only [hitem, Except.ok_bind, Series.dtype, hclass, isContiguous, Series.cContiguous,
        validateObjectColumnContents, hvalid]
      rfl
  | elements hflat helement =>
      refine convertColumn_of_unborrowed hitem hflat ?_
      unfold borrowNumpyNumericColumn
      simp only
      split
      · rename_i hsome
        cases helement.symm.trans hsome
      · rfl
  | swapped hflat helement hnative =>
      refine convertColumn_of_unborrowed hitem hflat ?_
      unfold borrowNumpyNumericColumn
      simp only
      split
      · rename_i hsome
        cases helement.symm.trans hsome
        rw [hnative]
        rfl
      · rename_i hnone
        cases helement.symm.trans hnone
  | stream hseries hstream =>
      rcases hseries with ⟨values, rfl, hstrided⟩ | ⟨ordered, rfl⟩
      · have hcontiguous : isContiguous .numpy (.numeric values) = .ok false :=
          congrArg Except.ok hstrided
        exact convertColumn_of_unstreamed hitem (classifyDtype_numeric values.dtype label.text)
          hcontiguous rfl (by simp) hstream
      · have hclass : Pydart.classifyDtype P (.categorical ordered) label.text =
            .ok (.categorical, .categorical, P.str (.categorical ordered)) := rfl
        have hcontiguous : isContiguous .categorical (.categorical ordered none) = .ok true := rfl
        exact convertColumn_of_unstreamed hitem hclass hcontiguous rfl (by simp) hstream

theorem exists_first_false {α : Type} {p : α → Bool} {xs : List α} (h : xs.all p = false) :
    ∃ before x after, xs = before ++ x :: after ∧ before.all p = true ∧ p x = false := by
  have hsome : (xs.find? fun x => !p x).isSome = true := by
    rw [List.find?_isSome]
    obtain ⟨x, hmem, hx⟩ := List.all_eq_false.mp h
    exact ⟨x, hmem, by simp [hx]⟩
  obtain ⟨x, hfind⟩ := Option.isSome_iff_exists.mp hsome
  obtain ⟨hx, before, after, hsplit, hbefore⟩ := List.find?_eq_some_iff_append.mp hfind
  refine ⟨before, x, after, hsplit, ?_, by simpa using hx⟩
  rw [List.all_eq_true]
  simpa using hbefore

theorem accepted_or_refused (P : PandasCrates) (label : Label) (series : Series) :
    series.accepted = true ∨ ∃ e, ColumnRefused P label series e := by
  rcases importable_or_refused (P := P) series.dtype with himportable | ⟨reason, hdtype⟩
  · cases haccepted : series.accepted with
    | true => exact Or.inl rfl
    | false =>
        refine Or.inr ?_
        cases series with
        | categorical ordered array =>
            cases Option.not_isSome_iff_eq_none.mp (Bool.eq_false_iff.mp haccepted)
            obtain ⟨e, hstream⟩ := P.stream_categorical_error label ordered
            exact ⟨e, .stream (Or.inr ⟨ordered, rfl⟩) hstream⟩
        | numeric values =>
            rw [Series.accepted, Bool.and_eq_false_iff] at haccepted
            by_cases hflat : values.cContiguous = true
            · rw [if_pos hflat] at haccepted
              cases helement : values.dtype.elementType with
              | none => exact ⟨_, .elements hflat helement⟩
              | some element =>
                  rw [helement] at haccepted
                  have hnative := haccepted.resolve_right (by simp)
                  exact ⟨_, .swapped hflat helement hnative⟩
            · rw [if_neg hflat] at haccepted
              have hexport : (Series.numeric values).exportType = none := by
                rw [Series.exportType]
                split
                · rename_i hnative
                  rw [hnative] at haccepted
                  exact Option.isSome_eq_false_iff.mp (haccepted.resolve_left (by simp)) |>
                    Option.isNone_iff_eq_none.mp
                · rfl
              obtain ⟨e, hstream⟩ := P.stream_numeric_error label hexport
              exact ⟨e, .stream (Or.inl ⟨values, rfl, Bool.eq_false_iff.mpr hflat⟩) hstream⟩
        | object values flag =>
            obtain ⟨before, value, after, rfl, hbefore, hvalue⟩ := exists_first_false haccepted
            rw [Bool.or_eq_false_iff] at hvalue
            exact ⟨_, .object hbefore hvalue.2 hvalue.1⟩
        | _ => cases haccepted.symm.trans himportable
  · exact Or.inr ⟨_, .dtype hdtype⟩

/-! ## Frames -/

structure DataFrame.Taken (df : DataFrame) : Prop where
  columns : df.columns ≠ []
  labels : (df.columns.map (·.1)).Nodup
  accepted : ∀ column ∈ df.columns, column.2.accepted = true

variable (P df)

/-- Why a column stops the loop: its label names several, or it is refused alone. -/
inductive Refused : Label × Series → PydartError → Prop where
  | repeated {column : Label × Series} (h : 1 < (df.columns.map (·.1)).count column.1) :
      Refused column (.python "AttributeError")
  | column {column : Label × Series} {e : PydartError}
      (hlabel : (df.columns.map (·.1)).count column.1 = 1)
      (h : ColumnRefused P column.1 column.2 e) : Refused column e

/-- A frame without columns makes no batch; otherwise the first column that is not taken
is reported. -/
inductive FrameRefused : PydartError → Prop where
  | empty (h : df.columns = []) :
      FrameRefused (.arrow
        (.invalidArgumentError "must either specify a row count or at least one column"))
  | column {before after : List (Label × Series)} {column : Label × Series} {e : PydartError}
      (hsplit : df.columns = before ++ column :: after)
      (hbefore : ∀ taken ∈ before,
        (df.columns.map (·.1)).count taken.1 = 1 ∧ taken.2.accepted = true)
      (h : Refused P df column e) : FrameRefused e

variable {P df}

theorem getItem_of_repeated {label : Label} (h : 1 < (df.columns.map (·.1)).count label) :
    df.getItem label = .error (.python "AttributeError") := by
  rw [← length_filter_key] at h
  rw [DataFrame.getItem]
  split
  · rename_i hfilter
    rw [hfilter] at h
    cases h
  · rename_i column hfilter
    rw [hfilter, List.length_singleton] at h
    exact absurd h (lt_irrefl 1)
  · rfl

theorem convertColumn_of_repeated {label : Label} (h : 1 < (df.columns.map (·.1)).count label) :
    convertColumn P df label = .error (.python "AttributeError") := by
  unfold convertColumn fromPandasStep
  simp only [getItem_of_repeated h]
  rfl

theorem count_cases {column : Label × Series} (hmem : column ∈ df.columns) :
    (df.columns.map (·.1)).count column.1 = 1 ∨ 1 < (df.columns.map (·.1)).count column.1 := by
  have hpos : 0 < (df.columns.map (·.1)).count column.1 :=
    List.count_pos_iff.mpr (List.mem_map_of_mem hmem)
  omega

theorem convertColumn_eq_error {column : Label × Series} (hmem : column ∈ df.columns)
    {e : PydartError} : convertColumn P df column.1 = .error e ↔ Refused P df column e := by
  constructor
  · intro herror
    rcases count_cases hmem with hcount | hcount
    · have hitem := getItem_of_count hmem hcount
      rcases accepted_or_refused P column.1 column.2 with haccepted | ⟨e', hrefused⟩
      · obtain ⟨converted, hconvert⟩ := convertColumn_of_accepted (P := P) hitem haccepted
        cases herror.symm.trans hconvert
      · cases herror.symm.trans (hrefused.convertColumn hitem)
        exact .column hcount hrefused
    · cases herror.symm.trans (convertColumn_of_repeated hcount)
      exact .repeated hcount
  · intro h
    cases h with
    | repeated hcount => exact convertColumn_of_repeated hcount
    | column hcount hrefused => exact hrefused.convertColumn (getItem_of_count hmem hcount)

theorem exists_convertColumn {column : Label × Series} (hmem : column ∈ df.columns) :
    (∃ state, convertColumn P df column.1 = .ok state) ↔
      (df.columns.map (·.1)).count column.1 = 1 ∧ column.2.accepted = true := by
  constructor
  · rintro ⟨state, hconvert⟩
    rcases count_cases hmem with hcount | hcount
    · refine ⟨hcount, ?_⟩
      rcases accepted_or_refused P column.1 column.2 with haccepted | ⟨e, hrefused⟩
      · exact haccepted
      · have herror := hrefused.convertColumn (getItem_of_count hmem hcount)
        cases hconvert.symm.trans herror
    · cases hconvert.symm.trans (convertColumn_of_repeated hcount)
  · rintro ⟨hcount, haccepted⟩
    obtain ⟨column, hconvert⟩ :=
      convertColumn_of_accepted (P := P) (getItem_of_count hmem hcount) haccepted
    exact ⟨column.state, hconvert⟩

theorem fromPandas_empty (h : df.columns = []) : fromPandas P df = .error (.arrow
    (.invalidArgumentError "must either specify a row count or at least one column")) := by
  unfold fromPandas
  rw [h]
  rfl

theorem fromPandas_ok_iff :
    (∃ outcome, fromPandas P df = .ok outcome) ↔ df.columns ≠ [] ∧
      ∀ column ∈ df.columns, ∃ state, convertColumn P df column.1 = .ok state := by
  constructor
  · rintro ⟨outcome, houtcome⟩
    refine ⟨fun hnil => ?_, fun column hcolumn => ?_⟩
    · cases houtcome.symm.trans (fromPandas_empty hnil)
    · obtain ⟨columns, hconverts, -, -⟩ := fromPandas_eq_ok.mp houtcome
      obtain ⟨converted, -, hconvert⟩ := forall₂_exists_of_mem hconverts hcolumn
      exact ⟨converted.state, hconvert⟩
  · rintro ⟨hne, hcolumns⟩
    obtain ⟨outcome, -, houtcome, -⟩ := fromPandas_of_columns hne hcolumns
    exact ⟨outcome, houtcome⟩

/-- The loop stops at the first column that does not convert. -/
theorem fromPandas_of_first {before after : List (Label × Series)} {column : Label × Series}
    {e : PydartError} (hsplit : df.columns = before ++ column :: after)
    (hbefore : ∀ taken ∈ before, ∃ state, convertColumn P df taken.1 = .ok state)
    (h : convertColumn P df column.1 = .error e) : fromPandas P df = .error e := by
  have hstates : (df.columns.map (·.1)).mapM (convertColumn P df) = .error e := by
    rw [List.mapM_map]
    exact Except.mapM_eq_error.mpr ⟨before, column, after, hsplit, hbefore, h⟩
  rw [fromPandas_eq_mapM, hstates]
  rfl

/-- A frame that is refused has columns, and then a first one that does not convert. -/
theorem fromPandas_first {e : PydartError} (h : fromPandas P df = .error e)
    (hne : df.columns ≠ []) :
    ∃ before column after, df.columns = before ++ column :: after ∧
      (∀ taken ∈ before, ∃ state, convertColumn P df taken.1 = .ok state) ∧
      convertColumn P df column.1 = .error e := by
  cases hstates : df.columns.mapM fun column => convertColumn P df column.1 with
  | ok states =>
      have hall := Except.mapM_eq_ok.mp hstates
      obtain ⟨outcome, houtcome⟩ := fromPandas_ok_iff.mpr ⟨hne, fun column hcolumn => by
        obtain ⟨state, -, hstate⟩ := forall₂_exists_of_mem hall hcolumn
        exact ⟨state, hstate⟩⟩
      cases h.symm.trans houtcome
  | error e' =>
      obtain ⟨before, column, after, hsplit, hbefore, herror⟩ := Except.mapM_eq_error.mp hstates
      cases h.symm.trans (fromPandas_of_first hsplit hbefore herror)
      exact ⟨before, column, after, hsplit, hbefore, herror⟩

theorem fromPandas_eq_error {e : PydartError} :
    fromPandas P df = .error e ↔ FrameRefused P df e := by
  constructor
  · intro h
    by_cases hnil : df.columns = []
    · cases h.symm.trans (fromPandas_empty hnil)
      exact .empty hnil
    · obtain ⟨before, column, after, hsplit, hbefore, herror⟩ := fromPandas_first h hnil
      have hmem : ∀ taken ∈ before ++ column :: after, taken ∈ df.columns :=
        fun taken htaken => hsplit ▸ htaken
      refine .column hsplit (fun taken htaken => ?_)
        ((convertColumn_eq_error (hmem column (by simp))).mp herror)
      exact (exists_convertColumn (hmem taken (by simp [htaken]))).mp (hbefore taken htaken)
  · intro h
    cases h with
    | empty hnil => exact fromPandas_empty hnil
    | column hsplit hbefore hrefused =>
        rename_i before after column
        have hmem : ∀ taken ∈ before ++ column :: after, taken ∈ df.columns :=
          fun taken htaken => hsplit ▸ htaken
        refine fromPandas_of_first hsplit (fun taken htaken => ?_)
          ((convertColumn_eq_error (hmem column (by simp))).mpr hrefused)
        exact (exists_convertColumn (hmem taken (by simp [htaken]))).mpr (hbefore taken htaken)

theorem fromPandas_taken_iff : (∃ outcome, fromPandas P df = .ok outcome) ↔ df.Taken := by
  have hcolumns : (∀ column ∈ df.columns, ∃ state, convertColumn P df column.1 = .ok state) ↔
      (df.columns.map (·.1)).Nodup ∧ ∀ column ∈ df.columns, column.2.accepted = true := by
    rw [List.nodup_iff_count_eq_one, List.forall_mem_map, ← forall₂_and]
    exact forall₂_congr fun column hcolumn => exists_convertColumn hcolumn
  rw [fromPandas_ok_iff, hcolumns]
  constructor
  · rintro ⟨hne, hlabels, haccepted⟩
    exact ⟨hne, hlabels, haccepted⟩
  · rintro ⟨hne, hlabels, haccepted⟩
    exact ⟨hne, hlabels, haccepted⟩

variable (P df)

end
end Pydart
