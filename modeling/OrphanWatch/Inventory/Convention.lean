import OrphanWatch.Error
import OrphanWatch.Inventory.Naming
import OrphanWatch.Text.Lowercase

/-!
The choice of a naming convention by its name.
-/

namespace OrphanWatch

inductive Convention where
  | democraticCsi
  deriving DecidableEq, Repr

namespace Convention

def name : Convention → String
  | democraticCsi => Naming.convention

def parse (text : String) : Except MonitorError Convention :=
  match Text.lowercase text with
  | "democratic-csi" | "democratic_csi" => .ok democraticCsi
  | other => .error (.configuration ("unknown key convention: " ++ other))

end Convention

end OrphanWatch
