import OrphanWatch.Instant.Rfc3339
import OrphanWatch.Json.Parser

/-!
Shapes of the values that the cluster's interface sends.

A shape says which values are readable, down to the parts that the monitor does not look at: an object
is unreadable as soon as one of the fields that its type has is of the wrong type. Fields that the type
does not have are skipped, whatever they hold.
-/

namespace OrphanWatch.Cluster

open Json (Written)

inductive Strictness where
  /-- The last of several fields of one name counts; other fields are skipped. -/
  | lenient
  /-- No field of the shape occurs twice; other fields are skipped. -/
  | unique
  /-- No field of the shape occurs twice; other fields are read as they are. -/
  | keeping
  deriving DecidableEq, Repr

/-- A set of values. -/
inductive Shape where
  | text
  | flag
  /-- A whole number within the bounds. -/
  | number (least greatest : Int)
  /-- A text that denotes an instant. -/
  | time
  /-- One text alone. -/
  | constant (text : String)
  | any
  /-- A value of the shape, or `null`. -/
  | orNull (shape : Shape)
  | list (item : Shape)
  /-- An object of any fields, with values of one shape. -/
  | table (value : Shape)
  | object (strictness : Strictness) (known : List (String × Shape))

namespace Shape

def number32 : Shape := number (-0x80000000) 0x7FFFFFFF

def number64 : Shape := number (-0x8000000000000000) 0x7FFFFFFFFFFFFFFF

def optional (fields : List (String × Shape)) : List (String × Shape) :=
  fields.map fun (name, shape) => (name, orNull shape)

def record (fields : List (String × Shape)) : Shape :=
  object .lenient (optional fields)

def texts (names : List String) : List (String × Shape) :=
  names.map fun name => (name, text)

def flags (names : List String) : List (String × Shape) :=
  names.map fun name => (name, flag)

def admitsFields (strictness : Strictness) (known : List (String × Shape))
    (fields : List (List Nat × Written)) : Bool :=
  let names := fields.filterMap fun field => Written.unitsText? field.1
  strictness == .lenient || known.all fun field => names.count field.1 ≤ 1

def admitsNull : Shape → Bool
  | orNull _ | any => true
  | _ => false

def present : Shape → Shape
  | orNull shape => shape.present
  | shape => shape

def readText (units : List Nat) : Shape → Option Json
  | text | any => (Written.unitsText? units).map .string
  | time => do
    let text ← Written.unitsText? units
    let _ ← Instant.ofText text
    some (.string text)
  | constant expected => do
    let text ← Written.unitsText? units
    if text = expected then some (.string text) else none
  | _ => none

def readNumber (numeral : Json.Numeral) : Shape → Option Json
  | any => numeral.value?
  | number least greatest =>
    match numeral.value? with
    | some (.whole value) => if least ≤ value ∧ value ≤ greatest then some (.whole value) else none
    | _ => none
  | _ => none

mutual

/-- The value, as far as the shape takes it, if it has the shape and what is taken opens at most
`depth` containers in one another. -/
def read (depth : Nat) (shape : Shape) : Written → Option Json
  | .null => if shape.admitsNull then some .null else none
  | .bool value =>
    match shape.present with
    | flag | any => some (.bool value)
    | _ => none
  | .number numeral => readNumber numeral shape.present
  | .string units => readText units shape.present
  | .array items =>
    match shape.present, depth with
    | list item, depth + 1 => (readItems depth item items).map .array
    | any, depth => (Written.array items).value? depth
    | _, _ => none
  | .object fields =>
    match shape.present, depth with
    | object strictness known, depth + 1 =>
      if admitsFields strictness known fields then
        (readFields depth strictness known fields).map Json.ofFields
      else none
    | table value, depth + 1 => (readEntries depth value fields).map Json.ofFields
    | any, depth => (Written.object fields).value? depth
    | _, _ => none

def readItems (depth : Nat) (shape : Shape) : List Written → Option (List Json)
  | [] => some []
  | item :: rest => do
    let item ← read depth shape item
    let rest ← readItems depth shape rest
    some (item :: rest)

def readEntries (depth : Nat) (shape : Shape) :
    List (List Nat × Written) → Option (List (String × Json))
  | [] => some []
  | (name, value) :: rest => do
    let name ← Written.unitsText? name
    let value ← read depth shape value
    let rest ← readEntries depth shape rest
    some ((name, value) :: rest)

def readFields (depth : Nat) (strictness : Strictness) (known : List (String × Shape)) :
    List (List Nat × Written) → Option (List (String × Json))
  | [] => some []
  | (name, value) :: rest => do
    let name ← Written.unitsText? name
    match known.lookup name with
    | some shape =>
      let value ← read depth shape value
      let rest ← readFields depth strictness known rest
      some ((name, value) :: rest)
    | none =>
      if strictness = .keeping then
        let value ← value.value? depth
        let rest ← readFields depth strictness known rest
        some ((name, value) :: rest)
      else readFields depth strictness known rest

end

def parse (shape : Shape) (text : String) : Option Json :=
  (Written.parse text).bind (shape.read Json.maxDepth)

end Shape

end OrphanWatch.Cluster
