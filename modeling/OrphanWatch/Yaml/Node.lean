import OrphanWatch.Yaml.Scalar

/-!
YAML documents as trees.

A scalar keeps the style in which it was written, for a plain `300` is a number and a quoted one is
not. A node that was given a name carries a number, by which a reference names it.
-/

namespace OrphanWatch.Yaml

inductive Node where
  /-- A node that stands elsewhere too, by its number. -/
  | reference (number : Nat)
  | scalar (number : Option Nat) (style : Style) (tag : Option String) (text : String)
  | sequence (number : Option Nat) (items : List Node)
  | mapping (number : Option Nat) (entries : List (Node × Node))
  deriving Repr

namespace Node

def empty : Node := scalar none .plain none ""

def own (node : Node) : List (Nat × Node) :=
  match node with
  | reference _ => []
  | scalar number .. | sequence number _ | mapping number _ =>
    (number.map fun number => (number, node)).toList

mutual

def numbered : Node → List (Nat × Node)
  | sequence number items => (sequence number items).own ++ numberedItems items
  | mapping number entries => (mapping number entries).own ++ numberedEntries entries
  | node => node.own

def numberedItems : List Node → List (Nat × Node)
  | [] => []
  | item :: rest => numbered item ++ numberedItems rest

def numberedEntries : List (Node × Node) → List (Nat × Node)
  | [] => []
  | (key, value) :: rest => numbered key ++ (numbered value ++ numberedEntries rest)

end

end Node

structure Document where
  root : Node
  deriving Repr

namespace Document

/-- What a node is: a reference is the last node that has its number. -/
def resolve (document : Document) : Node → Node
  | .reference number => (document.root.numbered.reverse.lookup number).getD (.reference number)
  | node => node

end Document

end OrphanWatch.Yaml
