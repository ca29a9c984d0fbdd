import OrphanWatch.Text.Blank
import OrphanWatch.Text.Split

/-!
Which datasets and snapshots belong to the provisioner.

A dataset belongs to it if it lies strictly below one of the parent datasets; a snapshot, if its dataset
does and its name has one of the prefixes.
-/

namespace OrphanWatch

structure Selection where
  parents : List (List Char)
  prefixes : List (List Char)
  deriving DecidableEq, Repr

namespace Selection

def standardPrefixes : List String := ["snapshot-"]

/-- A parent as it is compared: without blanks around it, then without slashes at its end. -/
def normalParent (parent : String) : List Char :=
  Text.dropEndWhile (· == '/') (Text.trim parent.toList)

def of (parents prefixes : List String) : Selection :=
  { parents := (parents.map normalParent).filter (!·.isEmpty)
    prefixes := (prefixes.map fun p => Text.trim p.toList).filter (!·.isEmpty) }

def isBelow (parent path : List Char) : Bool :=
  match Text.afterStart parent path with
  | some ('/' :: _ :: _) => true
  | _ => false

def selectsPath (selection : Selection) (path : String) : Bool :=
  selection.parents.any fun parent => isBelow parent path.toList

def selectsSnapshot (selection : Selection) (dataset name : String) : Bool :=
  selection.selectsPath dataset
    && selection.prefixes.any fun start => (Text.afterStart start name.toList).isSome

end Selection

end OrphanWatch
