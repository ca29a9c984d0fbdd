import OrphanWatch.Backend.Config
import OrphanWatch.Backend.Records
import OrphanWatch.Json.Parser
import OrphanWatch.Json.Printer
import OrphanWatch.Text.Base64
import OrphanWatch.Web

/-!
The client of the storage appliance.
-/

namespace OrphanWatch.Backend

structure Client where
  config : BackendConfig
  /-- The address that all paths are appended to. -/
  base : String
  deriving DecidableEq, Repr

namespace Client

def sourceName : String := "truenas"

def plainUrl (url : String) : String :=
  String.ofList (Text.dropEndWhile (· == '/') (Text.trim url.toList))

def create (config : BackendConfig) : Except MonitorError Client :=
  let url := plainUrl config.url
  if url = "" then .error (.configuration "truenas.url is required")
  else if !config.hasCredentials then
    .error (.configuration "truenas requires api_key or username and password")
  else .ok ⟨config, url ++ "/api/v2.0"⟩

/-- The value of the authorization header: a key that is not empty, else name and password. -/
def authorization? (config : BackendConfig) : Option String :=
  match config.apiKey.filter (· ≠ ""), config.username with
  | some key, _ => some ("Bearer " ++ key)
  | none, some username =>
    some ("Basic " ++ Text.base64Text (username ++ ":" ++ config.password.getD ""))
  | none, none => none

def request (client : Client) (path : String) : Web.Request :=
  ⟨client.base ++ path, authorization? client.config, some client.config.timeoutSeconds⟩

def path? : Kind → Except MonitorError String
  | .backendVolume => .ok "/pool/dataset"
  | .backendSnapshot => .ok "/zfs/snapshot"
  | kind => .error (.internal ("truenas cannot list cluster kind " ++ kind.label))

def listRequest (client : Client) (kind : Kind) : Except MonitorError Web.Request :=
  (path? kind).map client.request

def healthRequest (client : Client) : Web.Request :=
  client.request "/system/info"

def entries (path : String) : Option Web.Reply → Except MonitorError (List Json)
  | none => .error .webRequest
  | some reply =>
    if reply.isSuccess then
      match Json.parse reply.content with
      | none => .error .webRequest
      | some (.array entries) => .ok entries
      | some other =>
        .error (.sourceResponse sourceName
          ("GET " ++ path ++ " returned non-array body: " ++ other.compact))
    else
      .error (.sourceResponse sourceName
        ("GET " ++ path ++ " returned " ++ Web.statusText reply.status ++ ": "
          ++ Text.trimmed reply.content))

def records (client : Client) (kind : Kind) (reply : Option Web.Reply) :
    Except MonitorError (List Record) := do
  let entries ← entries (← path? kind) reply
  .ok
    (if kind = .backendVolume then datasetRecords client.config.selection entries
    else snapshotRecords client.config.selection entries)

def isHealthy : Option Web.Reply → Except MonitorError Bool
  | none => .error .webRequest
  | some reply => .ok reply.isSuccess

end Client

end OrphanWatch.Backend
