import Pydart.Arrow.Assemble
import Pydart.PandasPlan
import Pydart.Pandas.Frame

/-! # From pandas and back

The conversion of a frame column by column, as `from_pandas` runs it: classify,
plan, record, convert, correct the record. Then the strict check and the way back.
-/

namespace Pydart

structure ColumnConversionRecord where
  column : String
  dtype : String
  zeroCopy : Bool
  reason : Option String
deriving DecidableEq

def ColumnConversionRecord.fromPlan (column dtype : String) : ColumnPlan → ColumnConversionRecord
  | .zeroCopyBorrow => ⟨column, dtype, true, none⟩
  | .requiresCopy reason => ⟨column, dtype, false, some reason⟩

structure FromPandasOutcome where
  batch : RecordBatch
  records : List ColumnConversionRecord
deriving DecidableEq

/-! ## The types pyarrow tells apart -/

namespace DataType

def isFloating : DataType → Bool
  | float16 | float32 | float64 => true
  | _ => false

def isBoolean : DataType → Bool
  | boolean => true
  | _ => false

def isString : DataType → Bool
  | utf8 => true
  | _ => false

def isLargeString : DataType → Bool
  | largeUtf8 => true
  | _ => false

def isDictionary : DataType → Bool
  | dictionary _ _ => true
  | _ => false

end DataType

def TimeUnit.text : TimeUnit → String
  | second => "s"
  | millisecond => "ms"
  | microsecond => "us"
  | nanosecond => "ns"

/-- The dtypes `borrow!` is used for: the Rust element type and the Arrow type. -/
def NumericDtype.elementType : NumericDtype → Option (String × DataType)
  | int8 => some ("i8", .int8)
  | int16 => some ("i16", .int16)
  | int32 => some ("i32", .int32)
  | int64 => some ("i64", .int64)
  | uint8 => some ("u8", .uint8)
  | uint16 => some ("u16", .uint16)
  | uint32 => some ("u32", .uint32)
  | uint64 => some ("u64", .uint64)
  | float32 => some ("f32", .float32)
  | float64 => some ("f64", .float64)
  | float16 | float128 => none

theorem NumericDtype.arrowType_of_elementType {dtype : NumericDtype} {rust : String} {t : DataType}
    (h : dtype.elementType = some (rust, t)) : dtype.arrowType = some t := by
  cases dtype <;> cases h <;> rfl

section

variable (P : PandasCrates)

/-! ## Classification -/

def nonNsTemporalRejectionReason (actualUnit : String) : String :=
  "resolution " ++ P.debug actualUnit ++ " is not supported; only nanosecond ('ns') resolution " ++
    "datetime64/timedelta64 columns are supported in this phase. Note: pandas 3.0 changed " ++
    "the default parsing resolution of pd.to_datetime()/pd.to_timedelta() from nanoseconds " ++
    "to microseconds, so a column built without an explicit dtype may now be " ++
    P.debug actualUnit ++ " resolution -- cast it explicitly, e.g. " ++
    ".astype('datetime64[ns]') (or the timedelta64 equivalent), before calling " ++
    "pydart.Table.from_pandas"

/-- The nanosecond gate of every temporal branch. -/
def nsOnly (columnName dtypeStr unit : String) : Except PydartError Unit :=
  if unit ≠ "ns" then
    .error (.unsupportedColumn columnName dtypeStr (nonNsTemporalRejectionReason P unit))
  else .ok ()

def classifyDtype (dtype : Dtype) (columnName : String) :
    Except PydartError (DtypeBackend × ArrowKind × String) :=
  let dtypeStr := P.str dtype
  match dtype with
  | .arrow pyarrowDtype =>
      if pyarrowDtype.isInteger || pyarrowDtype.isFloating then
        .ok (.arrow, .numeric, dtypeStr)
      else if pyarrowDtype.isBoolean then
        .ok (.arrow, .bool, dtypeStr)
      else if pyarrowDtype.isString || pyarrowDtype.isLargeString then
        .ok (.arrow, .string, dtypeStr)
      else
        match pyarrowDtype with
        | .timestamp unit tz => do
            nsOnly P columnName dtypeStr unit.text
            pure (.arrow, .timestamp tz, dtypeStr)
        | .duration unit => do
            nsOnly P columnName dtypeStr unit.text
            pure (.arrow, .duration, dtypeStr)
        | _ =>
            .error (.unsupportedColumn columnName dtypeStr
              ("only numeric (int/uint/float), boolean, string, timestamp, and " ++
                "duration ArrowDtype columns are supported in this phase"))
  | .categorical _ => .ok (.categorical, .categorical, dtypeStr)
  | .datetimeTz unit tz => do
      nsOnly P columnName dtypeStr unit
      pure (.numpy, .timestamp (some tz), dtypeStr)
  | .extension dtypeTypeName =>
      .error (.unsupportedColumn columnName dtypeStr
        ("pandas masked/extension dtype " ++ dtypeTypeName ++ " is not supported in this " ++
          "phase (pandas masked nullable extension dtypes such as Int64/boolean/Float64 " ++
          "are out of scope; use an ArrowDtype-backed column, e.g. " ++
          "dtype=\"int64[pyarrow]\", for nullable numeric support)"))
  | .numpy dtype =>
      match dtype.kind, dtype with
      | "b", _ => .ok (.numpy, .bool, dtypeStr)
      | "i", _ | "u", _ | "f", _ => .ok (.numpy, .numeric, dtypeStr)
      | "O", _ => .ok (.numpy, .string, dtypeStr)
      | "M", .datetime64 unit => do
          nsOnly P columnName dtypeStr unit
          pure (.numpy, .timestamp none, dtypeStr)
      | "m", .timedelta64 unit => do
          nsOnly P columnName dtypeStr unit
          pure (.numpy, .duration, dtypeStr)
      | _, _ =>
          .error (.unsupportedColumn columnName dtypeStr
            ("only numeric (int/uint/float), boolean, object/string, datetime64, " ++
              "and timedelta64 columns are supported in this phase"))

def validateFrom (columnName : String) : Nat → List PyObject → Except PydartError Unit
  | _, [] => .ok ()
  | i, value :: rest =>
      if value.isMissing then validateFrom columnName (i + 1) rest
      else if !value.isStr then
        .error (.unsupportedColumn columnName "object"
          ("non-string value of type " ++ P.debug value.typeName ++ " found at row " ++
            toString i ++ "; object-dtype " ++
            "columns must contain only str values (and None/NaN) -- Pydart does not rely " ++
            "on pyarrow's own type inference for this, which would silently accept " ++
            "dict-valued or int-valued object columns instead of rejecting them"))
      else validateFrom columnName (i + 1) rest

def validateObjectColumnContents (series : Series) (columnName : String) :
    Except PydartError Unit :=
  match series with
  | .object values _ => validateFrom P columnName 0 values
  | _ => .ok ()

/-! ## Arrays -/

/-- The numpy buffer seen as an array without a null bitmap. -/
def NumpyArray.borrowed (values : NumpyArray) (t : DataType)
    (h : values.dtype.arrowType = some t) : ArrowArray where
  dataType := t
  slots := values.values.map some
  typed := by
    intro v hv
    obtain ⟨w, hw, hwv⟩ := List.mem_map.mp hv
    cases hwv
    exact values.typed t h v hw

def borrowNumpyNumericColumn (series : Series) (columnName : String) :
    Except PydartError ArrowArray :=
  match series with
  | .numeric values =>
      match h : values.dtype.elementType with
      | some (rustTy, t) =>
          if !values.native then
            .error (.other ("column " ++ P.debug columnName ++
              ": expected a 1-D numpy array of " ++ rustTy))
          else if !values.cContiguous then
            .error (.other ("column " ++ P.debug columnName ++
              ": numpy buffer is not contiguous (The given array is not contiguous)"))
          else
            .ok (values.borrowed t (NumericDtype.arrowType_of_elementType h))
      | none =>
          .error (.other ("column " ++ P.debug columnName ++
            ": unsupported numpy numeric dtype " ++ P.debug values.dtype.name))
  | _ => .error (.python "AttributeError")

/-- The array of one column's stream, how many batches it came in, and the nullability
the stream declares. -/
def importColumnViaPandasStream (df : DataFrame) (columnName : Label) :
    Except PydartError (Imported × Nat × Bool) := do
  let series ← df.getItem columnName
  let table ← P.arrowCStream columnName series
  let declaredIsNullable := table.field.nullable
  match table.batches with
  | [] => pure (⟨⟨table.field.dataType, [], by simp⟩, false⟩, 0, declaredIsNullable)
  | [batch] => pure (batch, 1, declaredIsNullable)
  | batches =>
      let concatenated ← (P.concat (batches.map (·.array))).mapError .arrow
      pure (⟨concatenated, true⟩, batches.length, declaredIsNullable)

def buildField (columnName : String) (array : ArrowArray) (isOrdered : Option Bool)
    (isNullable : Bool) : Field :=
  match array.dataType with
  | .dictionary keyType valueType =>
      ⟨columnName, .dictionary keyType valueType, isNullable, isOrdered.getD false, []⟩
  | other => ⟨columnName, other, isNullable, false, []⟩

/-! ## The loop over the columns -/

def ColumnConversionRecord.corrected (observedBatchCount : Nat)
    (record : ColumnConversionRecord) : ColumnConversionRecord :=
  { record with
    zeroCopy := false
    reason := some ("column arrived as " ++ toString observedBatchCount ++
      " Arrow chunks (e.g. from a " ++
      "pd.concat of Arrow-backed frames) and was concatenated into one " ++
      "contiguous buffer via arrow::compute::concat, which is a copy, not " ++
      "a zero-copy borrow") }

/-- Corrects `records.last_mut()`. -/
def correctLast (observedBatchCount : Nat) (records : List ColumnConversionRecord) :
    List ColumnConversionRecord :=
  match records.getLast? with
  | none => records
  | some record => records.dropLast ++ [record.corrected observedBatchCount]

structure ImportState where
  fields : Schema
  arrays : List Imported
  records : List ColumnConversionRecord

def ImportState.new : ImportState := ⟨[], [], []⟩

/-- Whether the column's buffer is flat, asked of numpy columns only. -/
def isContiguous (dtypeBackend : DtypeBackend) (series : Series) : Except PydartError Bool :=
  match dtypeBackend with
  | .arrow => .ok true
  | .numpy =>
      match series.cContiguous with
      | some flag => .ok flag
      | none => .error (.python "AttributeError")
  | .categorical => .ok true

def importColumn (df : DataFrame) (columnName : Label) (series : Series) (plan : ColumnPlan)
    (dtypeBackend : DtypeBackend) (arrowKind : ArrowKind)
    (records : List ColumnConversionRecord) :
    Except PydartError (Imported × Bool × List ColumnConversionRecord) :=
  match plan, dtypeBackend, arrowKind with
  | .zeroCopyBorrow, .numpy, .numeric => do
      let array ← borrowNumpyNumericColumn P series columnName.text
      pure (⟨array, false⟩, false, records)
  | _, _, _ => do
      let (array, observedBatchCount, declaredNullable) ←
        importColumnViaPandasStream P df columnName
      pure (array, declaredNullable,
        if observedBatchCount > 1 then correctLast observedBatchCount records else records)

def isOrdered (dtypeBackend : DtypeBackend) (dtype : Dtype) : Option Bool :=
  match dtypeBackend, dtype with
  | .categorical, .categorical ordered => some ordered
  | _, _ => none

def fromPandasStep (df : DataFrame) (state : ImportState) (columnName : Label) :
    Except PydartError ImportState := do
  let columnNameStr := columnName.text
  let series ← df.getItem columnName
  let (dtypeBackend, arrowKind, dtypeStr) ← classifyDtype P series.dtype columnNameStr
  let contiguous ← isContiguous dtypeBackend series
  let plan := planColumn dtypeBackend arrowKind contiguous
  let records := state.records ++ [.fromPlan columnNameStr dtypeStr plan]
  if dtypeBackend = .numpy ∧ arrowKind = .string then
    validateObjectColumnContents P series columnNameStr
  let (array, isNullable, records) ←
    importColumn P df columnName series plan dtypeBackend arrowKind records
  pure
    { fields := state.fields ++
        [buildField columnNameStr array.array (isOrdered dtypeBackend series.dtype) isNullable]
      arrays := state.arrays ++ [array]
      records := records }

def fromPandas (df : DataFrame) : Except PydartError FromPandasOutcome := do
  let state ← (df.columns.map (·.1)).foldlM (fromPandasStep P df) ImportState.new
  let batch ← (RecordBatch.tryNew state.fields (state.arrays.map (·.array))).mapError .arrow
  pure ⟨batch, state.records⟩

/-! ## Tables -/

structure Table where
  inner : PyTable
  columnReports : List ColumnConversionRecord

def Table.batches (table : Table) : List RecordBatch := table.inner.batches

def checkStrict (records : List ColumnConversionRecord) : Except PydartError Unit :=
  match records.find? (fun record => !record.zeroCopy) with
  | some offending =>
      .error (.zeroCopyRequired ("column " ++ P.debug offending.column ++ " (dtype=" ++
        offending.dtype ++ ") requires a copy: " ++ offending.reason.getD "reason unavailable"))
  | none => .ok ()

def Table.fromPandas (df : DataFrame) (strict : Bool) : Except PydartError Table := do
  let outcome ← Pydart.fromPandas P df
  if strict then
    checkStrict P outcome.records
  pure ⟨.ofBatch outcome.batch, outcome.records⟩

/-- Dictionaries are left to pyarrow, every other type becomes its `ArrowDtype`. -/
def typesMapper (arrowType : DataType) : Option Dtype :=
  if arrowType.isDictionary then none else some (.arrow arrowType)

def Table.toPandas (table : Table) : Except PydartError DataFrame :=
  match table.batches with
  | [] => .error (.other "cannot reconstruct a pandas DataFrame from an empty Table")
  | first :: rest => P.tableToPandas typesMapper first.schema (first :: rest)

end
end Pydart
