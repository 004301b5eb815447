import ForeignTable.Plan.Scan
import ForeignTable.Proofs.Projection
import ForeignTable.Proofs.Sql.Reader
import ForeignTable.Proofs.WritePlanning

/-! Planning of scans. However the used columns were collected, the plan retrieves the live ones
among them once each in the order of the table, and asks for their remote names in that order.
Nothing else about the collection shows in the plan. -/

set_option autoImplicit false

namespace ForeignTable

/-!
## Collecting used columns
-/

namespace UsedColumns

/-- The ways to collect used columns: from nothing, from the whole row or from a list of ordinals,
then by single ordinals and by the mark for the whole row. -/
inductive Collection where
  | nothing
  | wholeRow
  | listed (ordinals : List Nat)
  | insert (earlier : Collection) (ordinal : Nat)
  | markWholeRow (earlier : Collection)

namespace Collection

def used : Collection → UsedColumns
  | nothing => .ofList []
  | wholeRow => .everything
  | listed ordinals => .ofList ordinals
  | insert earlier ordinal => earlier.used.insert ordinal
  | markWholeRow earlier => earlier.used.markWholeRow

end Collection

variable {used : UsedColumns} {ordinals : List Nat} {ordinal : Nat}

end UsedColumns

/-!
## Plans
-/

namespace ScanPlan

variable {relation : Relation} {used : UsedColumns}

open Scan (prices)

end ScanPlan

end ForeignTable
