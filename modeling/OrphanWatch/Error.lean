import OrphanWatch.Inventory.Basic
import OrphanWatch.Text.Quoted

/-!
What can go wrong, how it is said, and what to do about it.
-/

namespace OrphanWatch

inductive MonitorError where
  | internal (text : String)
  | configuration (text : String)
  /-- The cluster's interface answered with an error, or not at all. -/
  | clusterRequest
  /-- A request to the storage appliance failed. -/
  | webRequest
  | sourceUnavailable (side : Side) (cause : String)
  | sourceTimeout (side : Side) (seconds : Nat)
  | sourceResponse (source : String) (reason : String)
  /-- The source cannot list this kind at all. -/
  | kindNotListed (kind : Kind) (reason : String)
  | keyCollision (key : String) (side : Side) (nativeIds : List String)
  | commitFailure (reason : String)
  | scanInProgress
  | cancelled
  | quantity (text : String)
  | jsonParse
  | yamlParse
  | fileAccess
  deriving DecidableEq, Repr

inductive ErrorClass where
  /-- The next scheduled scan tries again. -/
  | transient
  /-- Only the keys concerned are affected. -/
  | dataIntegrity
  /-- The findings of one scan are lost. -/
  | commit
  /-- The monitor cannot start. -/
  | configuration
  | fatal
  deriving DecidableEq, Repr

namespace MonitorError

/-- The wording of a failure. Failures of a library that the monitor uses are said by that library;
here they have a general wording. -/
def message : MonitorError → String
  | internal text => "Internal error: " ++ text
  | configuration text => "Configuration error: " ++ text
  | clusterRequest => "Kubernetes API error"
  | webRequest => "HTTP request error"
  | sourceUnavailable side cause =>
    "Inventory source unavailable: " ++ side.label ++ " - " ++ cause
  | sourceTimeout side seconds =>
    "Inventory fetch timed out: " ++ side.label ++ " after " ++ toString seconds ++ "s"
  | sourceResponse source reason => "Unexpected response from " ++ source ++ ": " ++ reason
  | kindNotListed kind reason => "Cannot list " ++ kind.label ++ ": " ++ reason
  | keyCollision key side nativeIds =>
    "Correlation key collision on " ++ side.label ++ " side: " ++ key ++ " claimed by "
      ++ Text.quotedList nativeIds
  | commitFailure reason => "Findings store commit failed: " ++ reason
  | scanInProgress => "A scan cycle is already in progress"
  | cancelled => "Scan cycle cancelled"
  | quantity text => "Quantity parse error: " ++ text
  | jsonParse => "JSON parse error"
  | yamlParse => "YAML parse error"
  | fileAccess => "IO error"

def errorClass : MonitorError → ErrorClass
  | clusterRequest | webRequest | sourceUnavailable .. | sourceTimeout .. | sourceResponse ..
  | kindNotListed .. | scanInProgress | cancelled => .transient
  | keyCollision .. | quantity .. => .dataIntegrity
  | commitFailure .. => .commit
  | configuration .. | yamlParse => .configuration
  | internal .. | jsonParse | fileAccess => .fatal

def isTransient (error : MonitorError) : Bool :=
  error.errorClass == .transient

end MonitorError

end OrphanWatch
