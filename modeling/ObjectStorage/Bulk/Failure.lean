import ObjectStorage.Http.Status

/-!
# Failures of bulk operations

A bulk operation answers for each item on its own.  A failure holds the overall status and message
and the items that failed.
-/

namespace ObjectStorage.Bulk

structure FailedItem where
  container : String
  object : String
  status : Http.Status
  deriving DecidableEq

def FailedItem.text (item : FailedItem) : String :=
  if item.object = "" then item.container ++ ": " ++ item.status.text
  else item.container ++ "/" ++ item.object ++ ": " ++ item.status.text

structure Failure where
  status : Http.Status
  overall : String
  items : List FailedItem
  deriving DecidableEq

/-- The message counts the items, or is the overall message if there are none. -/
def Failure.text (failure : Failure) : String :=
  if failure.items.isEmpty then failure.status.text ++ ": " ++ failure.overall
  else failure.status.text ++ " (+" ++ Integer.writeNat failure.items.length ++ " object errors)"

end ObjectStorage.Bulk
