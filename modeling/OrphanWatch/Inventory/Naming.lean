import OrphanWatch.Inventory.Basic
import OrphanWatch.Text.Blank
import OrphanWatch.Text.Split

/-!
The naming convention of the provisioner.

The provisioner names an object on the backend after the object of the cluster, so the last part of a
handle or path is the key that both sides share.

* iSCSI handle: `iqn.2005-10.org.freenas.ctl:<volume>`
* dataset handle: `<pool>/<parent>/<volume>`
* snapshot: `<pool>/<parent>/<volume>@<snapshot>`
-/

namespace OrphanWatch.Naming

def convention : String := "democratic-csi"

def drivers : List String :=
  ["org.democratic-csi.iscsi", "org.democratic-csi.nfs", "org.democratic-csi.smb", "democratic-csi"]

def volumeNameProperty : String := "democratic-csi:csi_volume_name"

def snapshotNameProperty : String := "democratic-csi:csi_snapshot_name"

/-- The last part of a trimmed handle: after the last colon of an iSCSI name, else after the last
slash. -/
def lastName (handle : List Char) : List Char :=
  let handle := Text.trim handle
  if Text.occursIn "iqn.".toList handle then Text.afterLast ':' handle
  else Text.afterLast '/' handle

def handleName (handle : String) : Option String :=
  match lastName handle.toList with
  | [] => none
  | name => some (String.ofList name)

/-- The key of a record by the convention; none for a claim, and where no name is given. -/
def deriveKey (record : Record) : Option String :=
  match record.kind with
  | .volume => (record.attribute? .volumeHandle).bind handleName
  | .volumeClaim => none
  | .snapshot => (record.attribute? .snapshotHandle).bind handleName
  | .backendVolume =>
    match record.attribute? .csiVolumeName with
    | some name =>
      if Text.isBlankText name then (record.attribute? .datasetPath).bind handleName else some name
    | none => (record.attribute? .datasetPath).bind handleName
  | .backendSnapshot =>
    match record.attribute? .datasetPath with
    | some path =>
      if Text.mentions path '@' then handleName path else record.attribute? .csiSnapshotName
    | none => record.attribute? .csiSnapshotName

def keyed (record : Record) : Record :=
  { record with rawKey := deriveKey record }

end OrphanWatch.Naming
