import SkaleAdmin.Config.Checks

/-! The status files that skaled and the node CLI write for an sChain. -/

namespace SkaleAdmin.Monitor

open Json Config

/-- `broken` is a file that is not JSON. -/
inductive StatusFile where
  | missing
  | broken
  | json (content : Value)

namespace StatusFile

def isFound : StatusFile → Bool
  | missing => false
  | _ => true

def get (field : String) : StatusFile → Evaluated Value
  | json content => getOr field .null content
  | _ => .ok .null

/-- The flags of one part of the file; without that part none is set. -/
def flag (part name : String) (status : StatusFile) : Evaluated Bool := do
  let flags ← status.get part
  if truthy flags then
    return truthy (← getItem name flags)
  else
    return false

/-! ### `SkaledStatus` -/

def downloadingSnapshot : StatusFile → Evaluated Bool :=
  flag "subsystemRunning" "SnapshotDownloader"

def exitTimeReached : StatusFile → Evaluated Bool :=
  flag "exitState" "ExitTimeReached"

def clearDataDir : StatusFile → Evaluated Bool :=
  flag "exitState" "ClearDataDir"

def startFromSnapshot : StatusFile → Evaluated Bool :=
  flag "exitState" "StartFromSnapshot"

/-! ### `NodeCliStatus` -/

/-- `status.repair_ts > repair_ts`. -/
def requestsRepairAfter (repairTs : Int) (status : StatusFile) : Evaluated Bool := do
  match ← status.get "repair_ts" with
  | .num requested => return repairTs < requested
  | .bool requested => return repairTs < if requested then 1 else 0
  | _ => throw .shape

def snapshotFrom (status : StatusFile) : Evaluated Value :=
  status.get "snapshot_from"

end StatusFile

end SkaleAdmin.Monitor
