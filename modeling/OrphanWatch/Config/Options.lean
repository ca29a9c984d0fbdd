import OrphanWatch.Config.Document
import OrphanWatch.Text.Numeral

/-!
Options of the command line.

An option is written as its name and its value, in two arguments or with `=` between them. What an
option sets has preference over the configuration.
-/

namespace OrphanWatch

structure Options where
  /-- The time between two scans, in seconds. -/
  interval : Option Nat
  /-- The only namespace whose claims are listed. -/
  space : Option String
  backendUrl : Option String
  apiKey : Option String
  deriving DecidableEq, Repr

namespace Options

def empty : Options := ⟨none, none, none, none⟩

def set (options : Options) (name value : String) : Except String Options :=
  match name with
  | "--scan-interval-secs" =>
    match Text.readUnsigned value.toList with
    | some seconds => .ok { options with interval := some seconds }
    | none => .error ("invalid value for " ++ name ++ ": " ++ value)
  | "--namespace" => .ok { options with space := some value }
  | "--truenas-url" => .ok { options with backendUrl := some value }
  | "--truenas-api-key" => .ok { options with apiKey := some value }
  | _ => .error ("unexpected argument: " ++ name)

def parse (options : Options) : List String → Except String Options
  | [] => .ok options
  | [argument] =>
    match Text.splitOnce '=' argument with
    | some (name, value) => options.set name value
    | none => .error ("a value is required for " ++ argument)
  | argument :: next :: rest =>
    match Text.splitOnce '=' argument with
    | some (name, value) => do (← options.set name value).parse (next :: rest)
    | none => do (← options.set argument next).parse rest

end Options

def MonitorConfig.apply (config : MonitorConfig) (options : Options) : MonitorConfig :=
  { config with
    scan := { config.scan with interval := options.interval.getD config.scan.interval }
    cluster := { config.cluster with space := options.space <|> config.cluster.space }
    backend :=
      { config.backend with
        url := options.backendUrl.getD config.backend.url
        apiKey := options.apiKey <|> config.backend.apiKey } }

def MonitorConfig.load (environment : Expansion.Environment) (document : String)
    (options : Options) : Except MonitorError MonitorConfig := do
  let config := (← MonitorConfig.parse environment document).apply options
  config.validate
  .ok config

end OrphanWatch
