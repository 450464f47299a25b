import Pydart.Ieee.Format
import Pydart.Ieee.Order
import Pydart.Ieee.Rounding
import Pydart.Ieee.Exact
import Pydart.Arrow.Types
import Pydart.Arrow.Batch
import Pydart.ParquetFilter
import Pydart.Outcome
import Pydart.Arrow.Crates
import Pydart.Parquet.Reader
import Pydart.Parquet.Io
import Pydart.Parquet.Predicate
import Pydart.Blocks
import Pydart.Parquet.Select
import Pydart.Parquet.Reference
import Pydart.Parquet.Hazard
import Pydart.Parquet.Literal
import Pydart.Parquet.Resolve
import Pydart.Parquet.Pruning
import Pydart.Parquet.Skipping
import Pydart.Parquet.Conjunction
import Pydart.Parquet.Integers
import Pydart.Parquet.Multi
import Pydart.Parquet.Mixed
import Pydart.Parquet.Partition
import Pydart.Parquet.Floats
import Pydart.Parquet.Ranges
import Pydart.Parquet.Dictionary
import Pydart.Parquet.Names
import Pydart.Parquet.Dots
import Pydart.Parquet.Typed
import Pydart.Parquet.Query
import Pydart.Parquet.Sharp
import Pydart.Parquet.Spread
import Pydart.PandasPlan
import Pydart.Arrow.Assemble
import Pydart.Error
import Pydart.Pandas.Frame
import Pydart.Pandas.Reference
import Pydart.Pandas.Convert
import Pydart.Pandas.Columns
import Pydart.Pandas.Records
import Pydart.Pandas.Layout
import Pydart.Pandas.Closure
import Pydart.Pandas.Chunks
import Pydart.Pandas.Refusal
import Pydart.Table.FilePath
import Pydart.Table.FileSystem
import Pydart.Table.FromParquet
import Pydart.Table.ToParquet
import Pydart.Table.Reference
import Pydart.Table.Paths
import Pydart.Table.Rejected
import Pydart.Table.Splits
import Pydart.Table.Rows
import Pydart.Table.Literals
import Pydart.Table.RoundTrip
import Pydart.Table.Errors
import Pydart.Table.WriteErrors
import Pydart.Machine
import Pydart.Session.Session
import Pydart.Session.Frame
import Pydart.Session.Store
import Pydart.Session.Refinement
import Pydart.Session.Dataset
import Pydart.Session.Failures
import Pydart.Session.Laps
