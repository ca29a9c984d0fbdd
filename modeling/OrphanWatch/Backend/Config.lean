import OrphanWatch.Backend.Selection
import OrphanWatch.Error

/-!
How to reach the storage appliance.
-/

namespace OrphanWatch

structure BackendConfig where
  url : String
  /-- Preferred over name and password. -/
  apiKey : Option String
  username : Option String
  password : Option String
  /-- The time that a request may take. -/
  timeoutSeconds : Nat
  /-- Whether the certificate is checked. -/
  verifyTls : Bool
  /-- The datasets below which the provisioner works. -/
  parents : List String
  /-- How the names of its snapshots begin. -/
  prefixes : List String
  deriving DecidableEq, Repr

namespace BackendConfig

def standard : BackendConfig :=
  { url := ""
    apiKey := none
    username := none
    password := none
    timeoutSeconds := 30
    verifyTls := true
    parents := []
    prefixes := Selection.standardPrefixes }

def isSet (value : Option String) : Bool :=
  value.any (· ≠ "")

def hasCredentials (config : BackendConfig) : Bool :=
  isSet config.apiKey || (isSet config.username && isSet config.password)

def selection (config : BackendConfig) : Selection :=
  .of config.parents config.prefixes

end BackendConfig

end OrphanWatch
