import ForeignTable.Consistency
import ForeignTable.Sql.Statement

/-!
# Scan plans

A scan plan holds the statement of a scan and tells which column each remote cell belongs
to.
-/

set_option autoImplicit false

namespace ForeignTable

structure ScanPlan where
  sql : String
  /-- The ordinals of the remote columns, in their order. -/
  retrieved : List Nat
  consistency : Consistency
deriving DecidableEq

namespace ScanPlan

def ofRelation (relation : Relation) (used : UsedColumns) : ScanPlan where
  sql := (relation.selectStatement used).text
  retrieved := (relation.selectedColumns used).map Column.ordinal
  consistency := relation.options.readConsistency

/-- The number of cells in a remote row. A select without columns still has its null. -/
def remoteColumns (plan : ScanPlan) : Nat :=
  if plan.retrieved.isEmpty then 1 else plan.retrieved.length

def explain (plan : ScanPlan) : String × String := ("Remote SQL", plan.sql)

end ScanPlan

end ForeignTable
