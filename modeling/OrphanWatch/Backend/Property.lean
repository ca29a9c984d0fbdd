import OrphanWatch.Instant.Basic
import OrphanWatch.Json.Basic
import OrphanWatch.Text.Blank
import OrphanWatch.Text.Numeral

/-!
Properties of datasets, in all the shapes in which an appliance writes them.

A property is a plain value, or an object that holds it under `parsed`, `rawvalue` or `value`, possibly
nested.
-/

namespace OrphanWatch.Property

/-- A number as a 64-bit amount: fractions are dropped, and what is out of range is clamped. -/
def wholeAmount : Json → Option Nat
  | .whole value => some (min value.toNat Text.maxUnsigned)
  | .double value => some (value.saturate Text.maxUnsigned value.truncNat?)
  | .string text => Text.readUnsigned (Text.trim text.toList)
  | _ => none

mutual

def amount? : Json → Option Nat
  | .object fields =>
    amountUnder "parsed" fields <|> amountUnder "rawvalue" fields <|> amountUnder "value" fields
  | value => wholeAmount value

def amountUnder (name : String) : List (String × Json) → Option Nat
  | [] => none
  | (other, value) :: rest => if other = name then amount? value else amountUnder name rest

end

def usable (text : String) : Option String :=
  if text = "" ∨ text = "-" then none else some text

mutual

def text? : Json → Option String
  | .object fields => textUnder "value" fields
  | .string text => usable text
  | _ => none

def textUnder (name : String) : List (String × Json) → Option String
  | [] => none
  | (other, value) :: rest => if other = name then text? value else textUnder name rest

end

def dateMillis? (fields : List (String × Json)) : Option Int :=
  (SortedMap.lookup "$date" fields).bind Json.asInt

mutual

def instant? : Json → Option Instant
  | .object fields =>
    match dateMillis? fields with
    | some millis => Instant.ofEpochMillis millis
    | none =>
      instantUnder "parsed" fields <|> instantUnder "rawvalue" fields <|> instantUnder "value" fields
  | value =>
    (wholeAmount value).bind fun seconds =>
      Instant.ofEpochSeconds ((seconds : Int).bmod Text.wordSize)

def instantUnder (name : String) : List (String × Json) → Option Instant
  | [] => none
  | (other, value) :: rest => if other = name then instant? value else instantUnder name rest

end

/-- A property that users can set: among the user properties, else among the properties, else in the
entry itself. The first place that has the name counts, even if its value is of no use. -/
def userProperty? (entry : Json) (name : String) : Option String :=
  let place (container : String) := (entry.field? container).bind (·.field? name)
  (place "user_properties" <|> place "properties" <|> entry.field? name).bind text?

end OrphanWatch.Property
