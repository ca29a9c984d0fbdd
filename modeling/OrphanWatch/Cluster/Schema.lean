import OrphanWatch.Cluster.Shape

/-!
The shapes of the objects that the monitor lists, with all the fields that their types have.
-/

namespace OrphanWatch.Cluster.Shape

def metadata : Shape :=
  record
    ([("annotations", table text), ("labels", table text), ("creationTimestamp", time),
      ("deletionTimestamp", time), ("deletionGracePeriodSeconds", number64),
      ("generation", number64), ("finalizers", list text),
      ("managedFields", list (record
        ([("fieldsV1", any), ("time", time)]
          ++ texts ["apiVersion", "fieldsType", "manager", "operation", "subresource"]))),
      ("ownerReferences", list (record
        (texts ["apiVersion", "kind", "name", "uid"]
          ++ flags ["blockOwnerDeletion", "controller"])))]
      ++ texts ["generateName", "name", "namespace", "resourceVersion", "selfLink", "uid"])

def objectReference : Shape :=
  record
    (texts ["apiVersion", "fieldPath", "kind", "name", "namespace", "resourceVersion", "uid"])

def secretReference : Shape :=
  record (texts ["name", "namespace"])

def requirements : Shape :=
  list (record (texts ["key", "operator"] ++ [("values", list text)]))

def nodeAffinity : Shape :=
  record
    [("required", record
      [("nodeSelectorTerms", list (record
        [("matchExpressions", requirements), ("matchFields", requirements)]))])]

def storage (names : List String) (others : List (String × Shape)) : Shape :=
  record (texts names ++ flags ["readOnly"] ++ others)

def volumeSources : List (String × Shape) :=
  [("csi", storage ["driver", "fsType", "volumeHandle"]
      [("volumeAttributes", table text), ("controllerExpandSecretRef", secretReference),
        ("controllerPublishSecretRef", secretReference), ("nodeExpandSecretRef", secretReference),
        ("nodePublishSecretRef", secretReference), ("nodeStageSecretRef", secretReference)]),
    ("awsElasticBlockStore", storage ["fsType", "volumeID"] [("partition", number32)]),
    ("azureDisk", storage ["cachingMode", "diskName", "diskURI", "fsType", "kind"] []),
    ("azureFile", storage ["secretName", "secretNamespace", "shareName"] []),
    ("cephfs", storage ["path", "secretFile", "user"]
      [("monitors", list text), ("secretRef", secretReference)]),
    ("cinder", storage ["fsType", "volumeID"] [("secretRef", secretReference)]),
    ("fc", storage ["fsType"]
      [("lun", number32), ("targetWWNs", list text), ("wwids", list text)]),
    ("flexVolume", storage ["driver", "fsType"]
      [("options", table text), ("secretRef", secretReference)]),
    ("flocker", record (texts ["datasetName", "datasetUUID"])),
    ("gcePersistentDisk", storage ["fsType", "pdName"] [("partition", number32)]),
    ("glusterfs", storage ["endpoints", "endpointsNamespace", "path"] []),
    ("hostPath", record (texts ["path", "type"])),
    ("iscsi", storage ["fsType", "initiatorName", "iqn", "iscsiInterface", "targetPortal"]
      (flags ["chapAuthDiscovery", "chapAuthSession"]
        ++ [("lun", number32), ("portals", list text), ("secretRef", secretReference)])),
    ("local", record (texts ["fsType", "path"])),
    ("nfs", storage ["path", "server"] []),
    ("photonPersistentDisk", record (texts ["fsType", "pdID"])),
    ("portworxVolume", storage ["fsType", "volumeID"] []),
    ("quobyte", storage ["group", "registry", "tenant", "user", "volume"] []),
    ("rbd", storage ["fsType", "image", "keyring", "pool", "user"]
      [("monitors", list text), ("secretRef", secretReference)]),
    ("scaleIO", storage
      ["fsType", "gateway", "protectionDomain", "storageMode", "storagePool", "system",
        "volumeName"]
      (flags ["sslEnabled"] ++ [("secretRef", secretReference)])),
    ("storageos", storage ["fsType", "volumeName", "volumeNamespace"]
      [("secretRef", objectReference)]),
    ("vsphereVolume", record
      (texts ["fsType", "storagePolicyID", "storagePolicyName", "volumePath"]))]

def volumeSpec : Shape :=
  record
    (volumeSources
      ++ [("accessModes", list text), ("mountOptions", list text), ("capacity", table text),
        ("claimRef", objectReference), ("nodeAffinity", nodeAffinity)]
      ++ texts
        ["persistentVolumeReclaimPolicy", "storageClassName", "volumeAttributesClassName",
          "volumeMode"])

def volumeStatus : Shape :=
  record ([("lastPhaseTransitionTime", time)] ++ texts ["message", "phase", "reason"])

def claimSpec : Shape :=
  record
    ([("accessModes", list text), ("dataSource", record (texts ["apiGroup", "kind", "name"])),
      ("dataSourceRef", record (texts ["apiGroup", "kind", "name", "namespace"])),
      ("resources", record [("limits", table text), ("requests", table text)]),
      ("selector", record [("matchExpressions", requirements), ("matchLabels", table text)])]
      ++ texts ["storageClassName", "volumeAttributesClassName", "volumeMode", "volumeName"])

def claimStatus : Shape :=
  record
    ([("accessModes", list text), ("allocatedResourceStatuses", table text),
      ("allocatedResources", table text), ("capacity", table text),
      ("conditions", list (record
        ([("lastProbeTime", time), ("lastTransitionTime", time)]
          ++ texts ["message", "reason", "status", "type"]))),
      ("modifyVolumeStatus", record (texts ["status", "targetVolumeAttributesClassName"]))]
      ++ texts ["currentVolumeAttributesClassName", "phase"])

def versioned (kind : String) (spec status : Shape) : Shape :=
  object .lenient
    ([("apiVersion", constant "v1"), ("kind", constant kind)]
      ++ optional [("metadata", metadata), ("spec", spec), ("status", status)])

def persistentVolume : Shape :=
  versioned "PersistentVolume" volumeSpec volumeStatus

def persistentVolumeClaim : Shape :=
  versioned "PersistentVolumeClaim" claimSpec claimStatus

def snapshotContent : Shape :=
  object .keeping [("metadata", metadata)]

/-- A list of items; `null` is a list without items. -/
def listOf (item : Shape) : Shape :=
  object .keeping
    [("metadata", record
        (texts ["continue", "resourceVersion", "selfLink"] ++ [("remainingItemCount", number64)])),
      ("items", orNull (list item))]

def version : Shape :=
  record
    (texts
      ["buildDate", "compiler", "gitCommit", "gitTreeState", "gitVersion", "goVersion", "major",
        "minor", "platform"])

def refusal : Shape :=
  object .unique (texts ["status", "message", "reason"] ++ [("code", number 0 0xFFFF)])

end OrphanWatch.Cluster.Shape
