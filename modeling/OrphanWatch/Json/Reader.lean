import OrphanWatch.Error
import OrphanWatch.Instant.Rfc3339
import OrphanWatch.Json.Basic

/-!
Reading values from JSON.

A reader takes a JSON value. What does not have the expected shape is refused as a whole
(`MonitorError.jsonParse`); a field that may be left out may also be `null`.
-/

namespace OrphanWatch.Json

abbrev Reader (α : Type) := Json → Except MonitorError α

namespace Reader

variable {α : Type}

def found : Option α → Except MonitorError α
  | some value => .ok value
  | none => .error .jsonParse

def field (json : Json) (name : String) (read : Reader α) : Except MonitorError α := do
  read (← found (json.field? name))

def optional (json : Json) (name : String) (read : Reader α) : Except MonitorError (Option α) :=
  match json.field? name with
  | none | some .null => .ok none
  | some value => (read value).map some

def fieldOr (json : Json) (name : String) (fallback : α) (read : Reader α) :
    Except MonitorError α :=
  (optional json name read).map (·.getD fallback)

def value : Reader Json := .ok

def text : Reader String := fun json => found json.asString

def nat : Reader Nat := fun json => found json.asNat

def bool : Reader Bool := fun json => found json.asBool

def int : Reader Int
  | .whole value => .ok value
  | _ => .error .jsonParse

def double : Reader Binary64
  | .whole value => .ok (.ofInt value)
  | .double value => .ok value
  | _ => .error .jsonParse

def list (read : Reader α) : Reader (List α) := fun json => do
  (← found json.asArray).mapM read

def entries (read : Reader α) : Reader (List (String × α))
  | .object fields => fields.mapM fun (name, value) => do pure (name, ← read value)
  | _ => .error .jsonParse

def instant : Reader Instant := fun json => do
  found (Instant.ofText (← text json))

def named (name : α → String) (values : List α) : Reader α := fun json => do
  let text ← text json
  found (values.find? fun value => name value = text)

end Reader

end OrphanWatch.Json
