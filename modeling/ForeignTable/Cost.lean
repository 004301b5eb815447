import ForeignTable.ColumnType
import ForeignTable.Floating.Reading
import ForeignTable.Relation
import ForeignTable.UsedColumns

/-!
# Size and cost estimates

Fixed costs and rough sizes for the local planner. The remote store reports no statistics,
so a relation that was never analyzed is taken to fill ten pages.
-/

set_option autoImplicit false

namespace ForeignTable

structure RelationSize where
  pages : Nat
  tuples : Floating .double
  width : Nat
deriving DecidableEq

structure PathCost where
  rows : Floating .double
  width : Nat
  startupCost : Floating .double
  totalCost : Floating .double
deriving DecidableEq

namespace Cost

/-- The cost until the first row: one hundred. -/
def startup : Floating .double := Floating.ofNat .double 100

/-- The cost of a row: one hundredth. -/
def perTuple : Floating .double := Floating.ofDecimal .double false 1 (-2)

def one : Floating .double := Floating.ofNat .double 1

/-- The bytes of the pages that a relation without statistics is taken to fill. -/
def fallbackPages : Nat := 10

def pageBytes : Nat := 8192

/-- The bytes in front of a row. -/
def headerBytes : Nat := 24

def maxWidth : Nat := 4294967295

def variableWidth : Nat := 32

/-- The bytes of a text with a length limit and its length word, up to the common width. -/
def limitedWidth (limit : Nat) : Nat :=
  if limit + 4 < variableWidth then limit + 4 else variableWidth

def averageWidth : ColumnType → Nat
  | .boolean => 1
  | .smallint => 2
  | .integer | .real | .date => 4
  | .bigint | .doublePrecision | .timestamp _ | .timestamptz _ => 8
  | .uuid => 16
  | .inet => 7
  | .varchar (some limit) | .bpchar (some limit) => limitedWidth limit
  | .text | .varchar none | .bpchar none | .numeric | .bytea | .json => variableWidth

def rowWidth (relation : Relation) (used : UsedColumns) : Nat :=
  (relation.liveColumns.filter fun column => used.contains column.ordinal).foldl
    (fun total column => total + averageWidth column.columnType) 0

/-- The size to plan with: the statistics, or without any the rows that fit into the
fallback pages. -/
def relationSize (statistics : RelationSize) : RelationSize :=
  if statistics.pages ≠ 0 || !statistics.tuples.isZero then statistics
  else
    let bytes := statistics.width + headerBytes
    let counted := if bytes < maxWidth then bytes else maxWidth
    { pages := fallbackPages
      tuples := Floating.ofNat .double (fallbackPages * pageBytes / counted)
      width := statistics.width }

/-- A row count of at least one: the nearest whole number, or one for anything else. -/
def wholeRows (rows : Floating .double) : Floating .double :=
  let rounded := rows.roundToIntegral
  if !rows.isFinite || rounded.negative || rounded.magnitude < one.magnitude then one
  else rounded

def pathCost (size : RelationSize) (rows : Option (Floating .double)) : PathCost :=
  { rows := wholeRows ((rows.filter Floating.isFinite).getD size.tuples)
    width := size.width
    startupCost := startup
    totalCost := perTuple.scale 100 }

end Cost

end ForeignTable
