import OrphanWatch.Backend.Property
import OrphanWatch.Backend.Selection
import OrphanWatch.Inventory.Naming
import OrphanWatch.Text.Lowercase

/-!
Records of the backend, made from what the appliance answers.

Entries without an identifier, and entries that neither carry a name of the provisioner nor are
selected, are left out.
-/

namespace OrphanWatch.Backend

mutual

def withDescendants : Json → List Json
  | .object fields => .object fields :: childrenIn fields
  | entry => [entry]

def childrenIn : List (String × Json) → List Json
  | [] => []
  | (name, value) :: rest =>
    if name = "children" then
      match value with
      | .array items => descendants items
      | _ => []
    else childrenIn rest

def descendants : List Json → List Json
  | [] => []
  | entry :: rest => withDescendants entry ++ descendants rest

end

def textField (entry : Json) (name : String) : Option String :=
  (entry.field? name).bind Json.asString

def datasetRecord? (selection : Selection) (entry : Json) : Option Record := do
  let path ← textField entry "id"
  let volumeName := Property.userProperty? entry Naming.volumeNameProperty
  if volumeName.isNone && !selection.selectsPath path then none
  else
    let record : Record :=
      { Record.named .backendVolume path with
        sizeBytes := ((entry.field? "used").bind Property.amount?).getD 0
        status := (textField entry "type").map Text.lowercase
        createdAt := (entry.field? "creation").bind Property.instant? }
    some (Naming.keyed
      ((record.withAttribute .datasetPath path).withAttribute? .csiVolumeName volumeName))

def datasetRecords (selection : Selection) (entries : List Json) : List Record :=
  (descendants entries).filterMap (datasetRecord? selection)

def splitSnapshotId (id : String) : String × String :=
  (Text.splitOnce '@' id).getD (id, "")

def snapshotRecord? (selection : Selection) (entry : Json) : Option Record := do
  let id ← textField entry "id"
  let (idDataset, idName) := splitSnapshotId id
  let dataset := (textField entry "dataset").getD idDataset
  let name := (textField entry "snapshot_name").getD idName
  let snapshotName := Property.userProperty? entry Naming.snapshotNameProperty
  if snapshotName.isNone && !selection.selectsSnapshot dataset name then none
  else
    let property (name : String) := (entry.field? "properties").bind (·.field? name)
    let record : Record :=
      { Record.named .backendSnapshot id with
        sizeBytes := ((property "used").bind Property.amount?).getD 0
        createdAt := (property "creation").bind Property.instant? }
    some (Naming.keyed
      ((record.withAttribute .datasetPath id).withAttribute? .csiSnapshotName snapshotName))

def snapshotRecords (selection : Selection) (entries : List Json) : List Record :=
  entries.filterMap (snapshotRecord? selection)

end OrphanWatch.Backend
