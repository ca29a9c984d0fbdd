import OrphanWatch.Binary64.Basic
import OrphanWatch.SortedMap
import OrphanWatch.Text.Numeral

/-!
JSON values.

A number written without point and exponent that fits into 64 bits is whole; every other number is a
double-precision number. The fields of an object are in ascending order of their names, each name once
(`Json.ofFields`).
-/

namespace OrphanWatch

inductive Json where
  | null
  | bool (value : Bool)
  | whole (value : Int)
  | double (value : Binary64)
  | string (value : String)
  | array (items : List Json)
  | object (fields : List (String × Json))
  deriving Repr

namespace Json

/-- An object with the given fields; of several with one name the last counts. -/
def ofFields (fields : List (String × Json)) : Json :=
  object (SortedMap.ofList fields).toList

def field? : Json → String → Option Json
  | object fields, name => SortedMap.lookup name fields
  | _, _ => none

def asString : Json → Option String
  | string value => some value
  | _ => none

def asBool : Json → Option Bool
  | bool value => some value
  | _ => none

def asArray : Json → Option (List Json)
  | array items => some items
  | _ => none

def asNat : Json → Option Nat
  | whole value => if 0 ≤ value then some value.toNat else none
  | _ => none

def asInt : Json → Option Int
  | whole value => if value < Text.signedLimit then some value else none
  | _ => none

def ofNat (n : Nat) : Json :=
  whole n

def ofOption {α : Type} (encode : α → Json) : Option α → Json
  | none => null
  | some value => encode value

def ofStrings (texts : List String) : Json :=
  array (texts.map string)

def optionalField {α : Type} (name : String) (encode : α → Json) (value : Option α) :
    List (String × Json) :=
  match value with
  | none => []
  | some value => [(name, encode value)]

def listField {α : Type} (name : String) (encode : α → Json) (values : List α) :
    List (String × Json) :=
  if values.isEmpty then [] else [(name, array (values.map encode))]

end Json

end OrphanWatch
