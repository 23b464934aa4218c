/-!
# Record batches

The parts of Arrow schemas and record batches that OpenSnow looks at: the
fields of a schema and the rows of a batch.  A data type is known by its
`Debug` text.
-/

namespace OpenSnow.Arrow

/-- A column of a schema. -/
structure Field where
  name : String
  dataType : String
  nullable : Bool
deriving DecidableEq, Repr

abbrev Schema := List Field

/-- Rows under one schema. -/
structure RecordBatch (Row : Type) where
  schema : Schema
  rows : List Row
deriving DecidableEq, Repr

def RecordBatch.numRows {Row : Type} (batch : RecordBatch Row) : Nat :=
  batch.rows.length

end OpenSnow.Arrow
