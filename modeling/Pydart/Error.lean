import Pydart.Arrow.Batch

/-! # Errors on their way to Python

`python` stands for an exception that pandas, numpy, pyarrow or an argument
conversion raised; the rest are the variants of the crate's own error type.
-/

namespace Pydart

inductive PydartError where
  | unsupportedColumn (column dtype reason : String)
  | arrow (error : ArrowError)
  | unsupportedCodec (codec : String)
  | unsupportedFilterOperator (column operator : String)
  | parquetSchemaMismatch (firstFile otherFile column : String)
  | parquetReadError (path reason : String)
  | invalidParquetPathArgument (message : String)
  | other (message : String)
  | zeroCopyRequired (message : String)
  | python (message : String)
deriving DecidableEq

/-- How a call fails: a Python exception, or the exception of a Rust panic. -/
inductive CallFailure where
  | raised (error : PydartError)
  | panicked
deriving DecidableEq

def raise {α : Type} : Except PydartError α → Except CallFailure α
  | .ok a => .ok a
  | .error e => .error (.raised e)

end Pydart
