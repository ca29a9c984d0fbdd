import OrphanWatch.Config.Basic
import OrphanWatch.Config.Expansion
import OrphanWatch.Yaml.Document

/-!
Configurations written in YAML.

A section or setting that is missing has its standard value. Unknown settings are ignored, a known one
must not be given twice, and a value of the wrong type makes the whole document unreadable.
-/

namespace OrphanWatch

namespace Settings

abbrev Reader (α : Type) := Yaml.Document → Yaml.Node → Option α

def text? : Reader String := fun document node =>
  match document.resolve node with
  | .scalar _ _ _ text => some text
  | _ => none

/-- The text of a scalar that may stand for more than itself: a plain one, or a block of lines with
the given tag. -/
def plain? (tag : String) : Reader String := fun document node =>
  match document.resolve node with
  | .scalar _ .plain _ text => some text
  | .scalar _ .literal (some other) text =>
    if other = Yaml.Tag.common tag then some text else none
  | _ => none

def digitsOf? (base : Nat) (digits : List Char) : Option Nat :=
  if digits.isEmpty then none
  else
    digits.foldlM
      (fun value c =>
        match Text.hexValue c with
        | some digit => if digit < base then some (base * value + digit) else none
        | none => none)
      0

/-- A whole number without sign: decimal without leading zeros, or in base 16, 8 or 2. -/
def number? (text : List Char) : Option Nat :=
  let unsigned :=
    match text with
    | '+' :: rest => rest
    | other => other
  match unsigned with
  | '0' :: 'x' :: digits => digitsOf? 16 digits
  | '0' :: 'o' :: digits => digitsOf? 8 digits
  | '0' :: 'b' :: digits => digitsOf? 2 digits
  | '0' :: _ :: _ => none
  | digits => digitsOf? 10 digits

def natUpTo? (limit : Nat) : Reader Nat := fun document node => do
  let value ← number? (← plain? "int" document node).toList
  if value ≤ limit then some value else none

def nat? : Reader Nat :=
  natUpTo? Text.maxUnsigned

def bool? : Reader Bool := fun document node => do
  match ← plain? "bool" document node with
  | "true" | "True" | "TRUE" => some true
  | "false" | "False" | "FALSE" => some false
  | _ => none

def isNullWord (text : String) : Bool :=
  text == "~" || text == "null" || text == "Null" || text == "NULL"

/-- Whether a node stands for no value; `none` for a node that says so and means something else. -/
def isNone? : Reader Bool := fun document node =>
  match document.resolve node with
  | .scalar _ .plain (some tag) text =>
    if tag = Yaml.Tag.common "null" then (if isNullWord text then some true else none)
    else some false
  | .scalar _ .plain none text => some (text == "" || isNullWord text)
  | _ => some false

def optional? {α : Type} (read : Reader α) : Reader (Option α) := fun document node => do
  if ← isNone? document node then some none else (read document node).map some

def list? {α : Type} (read : Reader α) : Reader (List α) := fun document node =>
  match document.resolve node with
  | .sequence _ items => items.mapM (read document)
  | .scalar _ .plain _ "" => some []
  | _ => none

abbrev Entries := List (String × Yaml.Node)

def section? : Reader Entries := fun document node =>
  match document.resolve node with
  | .mapping _ entries =>
    entries.mapM fun (key, value) => (text? document key).map fun name => (name, value)
  | .scalar _ .plain _ "" => some []
  | _ => none

def setting {α : Type} (document : Yaml.Document) (entries : Entries) (name : String)
    (standard : α) (read : Reader α) : Option α :=
  match entries.filter (·.1 == name) with
  | [] => some standard
  | [entry] => read document entry.2
  | _ => none

def scan? : Reader ScanConfig := fun document node => do
  let entries ← section? document node
  let standard := ScanConfig.standard
  let interval ← setting document entries "scan_interval_secs" standard.interval nat?
  let observations ←
    setting document entries "min_consecutive_observations" standard.observations
      (natUpTo? Candidate.maxObservations)
  let minAge ← setting document entries "min_orphan_age_secs" standard.minAge nat?
  let fetchTimeout? ←
    setting document entries "fetch_timeout_secs" standard.fetchTimeout? (optional? nat?)
  let convention ← setting document entries "key_convention" standard.convention text?
  let retention ← setting document entries "snapshot_retention_secs" standard.retention nat?
  some { interval, observations, minAge, fetchTimeout?, convention, retention }

def cluster? : Reader ClusterConfig := fun document node => do
  let entries ← section? document node
  let standard := ClusterConfig.standard
  let space ← setting document entries "namespace" standard.space (optional? text?)
  let drivers ← setting document entries "csi_drivers" standard.drivers (list? text?)
  let includeSnapshots ← setting document entries "include_snapshots" standard.includeSnapshots bool?
  some { space, drivers, includeSnapshots }

def backend? : Reader BackendConfig := fun document node => do
  let entries ← section? document node
  let standard := BackendConfig.standard
  let url ← setting document entries "url" standard.url text?
  let apiKey ← setting document entries "api_key" standard.apiKey (optional? text?)
  let username ← setting document entries "username" standard.username (optional? text?)
  let password ← setting document entries "password" standard.password (optional? text?)
  let timeoutSeconds ← setting document entries "timeout_secs" standard.timeoutSeconds nat?
  let verifyTls ← setting document entries "verify_tls" standard.verifyTls bool?
  let parents ← setting document entries "parent_datasets" standard.parents (list? text?)
  let prefixes ← setting document entries "snapshot_name_prefixes" standard.prefixes (list? text?)
  some { url, apiKey, username, password, timeoutSeconds, verifyTls, parents, prefixes }

def address? : Reader (Option String) := fun document node => do
  setting document (← section? document node) "addr" none (optional? text?)

def monitor? : Reader MonitorConfig := fun document node => do
  let entries ← section? document node
  let standard := MonitorConfig.standard
  let scan ← setting document entries "scan" standard.scan scan?
  let cluster ← setting document entries "kubernetes" standard.cluster cluster?
  let backend ← setting document entries "truenas" standard.backend backend?
  let apiAddress ← setting document entries "api" standard.apiAddress address?
  let metricsAddress ← setting document entries "metrics" standard.metricsAddress address?
  let healthAddress ← setting document entries "health" standard.healthAddress address?
  some { scan, cluster, backend, apiAddress, metricsAddress, healthAddress }

end Settings

namespace MonitorConfig

def parse (environment : Expansion.Environment) (text : String) :
    Except MonitorError MonitorConfig := do
  let expanded ← Expansion.expand environment text
  match Yaml.Document.parse expanded with
  | none => .error .yamlParse
  | some document =>
    match Settings.monitor? document document.root with
    | some config => .ok config
    | none => .error .yamlParse

def unreadable (path reason : String) : MonitorError :=
  .configuration ("Failed to read config file " ++ path ++ ": " ++ reason)

end MonitorConfig

end OrphanWatch
