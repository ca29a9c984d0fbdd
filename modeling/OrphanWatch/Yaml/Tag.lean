import OrphanWatch.Text.Numeral
import OrphanWatch.Yaml.Cursor

/-!
Tags of YAML nodes.

A tag is a handle and a rest; what a handle stands for is said by directives in front of the document,
or by standard. The text of a tag consists of octets: one that cannot be written is given by its two
hexadecimal digits behind a percent sign.
-/

namespace OrphanWatch.Yaml

structure Tag where
  /-- Exclamation marks with a name between them; empty if the rest is the whole tag. -/
  handle : String
  rest : String
  deriving DecidableEq, Repr

namespace Tag

abbrev Handles := List (String × String)

def standardHandles : Handles :=
  [("!", "!"), ("!!", "tag:yaml.org,2002:")]

def resolve? (handles : Handles) (tag : Tag) : Option String :=
  if tag.handle = "" then some tag.rest else (handles.lookup tag.handle).map (· ++ tag.rest)

def common (name : String) : String := "tag:yaml.org,2002:" ++ name

/-- The tag that says nothing but that there is one. -/
def nonspecific : String := "!"

def isTagChar (verbatim : Bool) (c : Char) : Bool :=
  isNameChar c || ";/?:@&=+$.!~*'()".toList.contains c
    || (verbatim && (c == ',' || c == '[' || c == ']'))

def following? (octet : Nat) : Option Nat :=
  if octet < 0x80 then some 0
  else if 0xC0 ≤ octet ∧ octet < 0xE0 then some 1
  else if 0xE0 ≤ octet ∧ octet < 0xF0 then some 2
  else if 0xF0 ≤ octet ∧ octet < 0xF8 then some 3
  else none

/-- Reads the octets of a tag, and the number of characters they take; `missing` octets have to come
before the character that was begun is complete. -/
def readOctets (verbatim : Bool) : Nat → List Char → Option (List Char × Nat)
  | 0, '%' :: a :: b :: rest => do
    let octet := 16 * (← Text.hexValue a) + (← Text.hexValue b)
    let (octets, length) ← readOctets verbatim (← following? octet) rest
    some (Char.ofNat octet :: octets, length + 3)
  | missing + 1, '%' :: a :: b :: rest => do
    let octet := 16 * (← Text.hexValue a) + (← Text.hexValue b)
    if 0x80 ≤ octet ∧ octet < 0xC0 then
      let (octets, length) ← readOctets verbatim missing rest
      some (Char.ofNat octet :: octets, length + 3)
    else none
  | 0, c :: rest =>
    if isTagChar verbatim c then
      (readOctets verbatim 0 rest).map fun (octets, length) => (c :: octets, length + 1)
    else if c = '%' then none
    else some ([], 0)
  | 0, [] => some ([], 0)
  | _ + 1, _ => none

/-- The text of octets; it ends before a zero. -/
def textOf (octets : List Char) : String :=
  String.ofList (octets.takeWhile (· ≠ '\x00'))

def readText (verbatim : Bool) (cursor : Cursor) : Option (String × Cursor) := do
  let (octets, length) ← readOctets verbatim 0 cursor.rest
  if octets.isEmpty then none else some (textOf octets, cursor.skip length)

def readHandle (cursor : Cursor) : Option (String × Cursor) := do
  let (name, after) := (← cursor.expect '!').span isNameChar
  match after.expect '!' with
  | some after => some (String.ofList ('!' :: name ++ ['!']), after)
  | none => some (String.ofList ('!' :: name), after)

def readLocal (start cursor : Cursor) : Option (Tag × Cursor) := do
  let (octets, length) ← readOctets false 0 cursor.rest
  let name := start.rest.take (start.rest.length - cursor.rest.length)
  let rest := textOf (name.drop 1 ++ octets)
  some (if rest = "" then ⟨"", nonspecific⟩ else ⟨nonspecific, rest⟩, cursor.skip length)

/-- Reads a tag, which ends before a gap; between brackets a comma may follow too. -/
def read (flow : Bool) (cursor : Cursor) : Option (Tag × Cursor) := do
  let (tag, after) ←
    if (cursor.skip 1).atMark '<' then do
      let (text, after) ← readText true (cursor.skip 2)
      some (⟨"", text⟩, ← after.expect '>')
    else do
      let (handle, after) ← readHandle cursor
      if 1 < handle.length && handle.endsWith "!" then do
        let (text, after) ← readText false after
        some (⟨handle, text⟩, after)
      else readLocal cursor after
  if after.atGap || (flow && after.atMark ',') then some (tag, after) else none

end Tag

inductive Directive where
  | version (major minor : Nat)
  /-- What a handle stands for. -/
  | meaning (handle text : String)
  deriving DecidableEq, Repr

namespace Directive

def readNumber (cursor : Cursor) : Option (Nat × Cursor) :=
  let (digits, after) := cursor.span Text.isDigit
  if digits.isEmpty || 9 < digits.length then none else some (Text.digitsValue digits, after)

def readVersion (cursor : Cursor) : Option (Directive × Cursor) := do
  let (major, cursor) ← readNumber cursor.skipSpaces
  let (minor, cursor) ← readNumber (← cursor.expect '.')
  some (.version major minor, cursor)

def readMeaning (cursor : Cursor) : Option (Directive × Cursor) := do
  let (handle, cursor) ← Tag.readHandle cursor.skipSpaces
  if !handle.endsWith "!" || !cursor.rest.head?.any isSpace then none
  else
    let (text, cursor) ← Tag.readText true cursor.skipSpaces
    if cursor.atGap then some (.meaning handle text, cursor) else none

def read (cursor : Cursor) : Option (Directive × Cursor) := do
  let (name, cursor) := (← cursor.expect '%').span isNameChar
  if !cursor.atGap then none
  else
    let (directive, cursor) ←
      match String.ofList name with
      | "YAML" => readVersion cursor
      | "TAG" => readMeaning cursor
      | _ => none
    some (directive, ← cursor.finishLine)

end Directive

/-- What the handles of a document stand for, if its directives can be followed: one version at most,
1.1 or 1.2, and each handle once. -/
def Directive.handles? (directives : List Directive) : Option Tag.Handles := do
  let versions := directives.filterMap fun
    | .version major minor => some (major, minor)
    | .meaning .. => none
  let handles := directives.filterMap fun
    | .version .. => none
    | .meaning handle text => some (handle, text)
  if 1 < versions.length || !versions.all (fun v => v == (1, 1) || v == (1, 2)) then none
  else if !(handles.map (·.1)).Nodup then none
  else some (handles ++ Tag.standardHandles)

end OrphanWatch.Yaml
