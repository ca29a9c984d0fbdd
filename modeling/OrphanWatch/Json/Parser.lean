import OrphanWatch.Json.Written

/-!
Reading JSON texts.

A text is read strictly: one value, with blanks around it. What is read is the written form; the value
of a text may be nested 127 containers deep.
-/

namespace OrphanWatch.Json

def isBlank (c : Char) : Bool :=
  c == ' ' || c == '\n' || c == '\r' || c == '\t'

def skipBlanks (text : List Char) : List Char :=
  text.dropWhile isBlank

def hexValue4 (a b c d : Char) : Option Nat := do
  let a ← Text.hexValue a
  let b ← Text.hexValue b
  let c ← Text.hexValue c
  let d ← Text.hexValue d
  some (((a * 16 + b) * 16 + c) * 16 + d)

def unescape (c : Char) : Option Char :=
  match c with
  | '"' => some '"'
  | '\\' => some '\\'
  | '/' => some '/'
  | 'b' => some '\x08'
  | 'f' => some '\x0c'
  | 'n' => some '\n'
  | 'r' => some '\r'
  | 't' => some '\t'
  | _ => none

def readString : List Char → Option (List Nat × List Char)
  | [] => none
  | '"' :: rest => some ([], rest)
  | '\\' :: 'u' :: a :: b :: c :: d :: rest =>
    match hexValue4 a b c d with
    | some unit => (readString rest).map fun (units, after) => (unit :: units, after)
    | none => none
  | '\\' :: c :: rest =>
    match unescape c with
    | some plain => (readString rest).map fun (units, after) => (plain.toNat :: units, after)
    | none => none
  | c :: rest =>
    if c.toNat < 0x20 ∨ c = '\\' then none
    else (readString rest).map fun (units, after) => (c.toNat :: units, after)

def readExponent (text : List Char) : Option (Int × List Char) :=
  let (factor, rest) : Int × List Char :=
    match text with
    | '+' :: rest => (1, rest)
    | '-' :: rest => (-1, rest)
    | other => (1, other)
  let digits := rest.takeWhile Text.isDigit
  if digits.isEmpty then none
  else some (factor * Text.digitsValue digits, rest.dropWhile Text.isDigit)

def readNumber (text : List Char) : Option (Numeral × List Char) := do
  let (negative, rest) : Bool × List Char :=
    match text with
    | '-' :: rest => (true, rest)
    | other => (false, other)
  let integer := rest.takeWhile Text.isDigit
  let rest := rest.dropWhile Text.isDigit
  if integer.isEmpty || (integer.head? == some '0' && 1 < integer.length) then none
  else
    let (fraction, rest) ←
      match rest with
      | '.' :: rest =>
        let digits := rest.takeWhile Text.isDigit
        if digits.isEmpty then none else some (some digits, rest.dropWhile Text.isDigit)
      | other => some (none, other)
    let (exponent, rest) ←
      match rest with
      | 'e' :: rest | 'E' :: rest => (readExponent rest).map fun (e, rest) => (some e, rest)
      | other => some (none, other)
    some (⟨negative, integer, fraction, exponent⟩, rest)

/-- Reads the items of an array behind its bracket, or behind a comma; `steps` bounds their number. -/
def readItems (readItem : List Char → Option (Written × List Char)) :
    Nat → List Char → Option (List Written × List Char)
  | 0, _ => none
  | steps + 1, text => do
    let (item, rest) ← readItem (skipBlanks text)
    match skipBlanks rest with
    | ',' :: rest =>
      let (items, rest) ← readItems readItem steps rest
      some (item :: items, rest)
    | ']' :: rest => some ([item], rest)
    | _ => none

def readFields (readItem : List Char → Option (Written × List Char)) :
    Nat → List Char → Option (List (List Nat × Written) × List Char)
  | 0, _ => none
  | steps + 1, text => do
    let ('"' :: rest) := skipBlanks text | none
    let (name, rest) ← readString rest
    let (':' :: rest) := skipBlanks rest | none
    let (value, rest) ← readItem (skipBlanks rest)
    match skipBlanks rest with
    | ',' :: rest =>
      let (fields, rest) ← readFields readItem steps rest
      some ((name, value) :: fields, rest)
    | '\x7d' :: rest => some ([(name, value)], rest)
    | _ => none

def afterWord (word : String) (value : Written) (text : List Char) :
    Option (Written × List Char) :=
  if word.toList.isPrefixOf text then some (value, text.drop word.length) else none

/-- Reads one value; `depth` bounds the containers that are opened in one another. -/
def readValue : Nat → List Char → Option (Written × List Char)
  | depth, text =>
    match text with
    | '"' :: rest => (readString rest).map fun (units, rest) => (.string units, rest)
    | 'n' :: _ => afterWord "null" .null text
    | 't' :: _ => afterWord "true" (.bool true) text
    | 'f' :: _ => afterWord "false" (.bool false) text
    | '[' :: rest =>
      match depth with
      | 0 => none
      | depth + 1 =>
        match skipBlanks rest with
        | ']' :: rest => some (.array [], rest)
        | rest =>
          (readItems (readValue depth) rest.length rest).map fun (items, rest) =>
            (.array items, rest)
    | '\x7b' :: rest =>
      match depth with
      | 0 => none
      | depth + 1 =>
        match skipBlanks rest with
        | '\x7d' :: rest => some (.object [], rest)
        | rest =>
          (readFields (readValue depth) rest.length rest).map fun (fields, rest) =>
            (.object fields, rest)
    | _ => (readNumber text).map fun (numeral, rest) => (.number numeral, rest)

def Written.parse (text : String) : Option Written :=
  let text := text.toList
  match readValue text.length (skipBlanks text) with
  | some (value, rest) => if (skipBlanks rest).isEmpty then some value else none
  | none => none

def maxDepth : Nat := 127

def parse (text : String) : Option Json :=
  (Written.parse text).bind (·.value? maxDepth)

end OrphanWatch.Json
