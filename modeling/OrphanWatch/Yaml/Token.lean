import OrphanWatch.Yaml.Block
import OrphanWatch.Yaml.Scalar
import OrphanWatch.Yaml.Tag

/-!
YAML texts as sequences of tokens.

Collections that are written by indentation get tokens for their start and end. A token that turns out
to be a key gets a token in front of it that says so, once the colon behind it is found: in the same
line, and at most 1024 octets after the key began.
-/

namespace OrphanWatch.Yaml

inductive Token where
  | directive (directive : Directive)
  | documentStart
  | documentEnd
  /-- The start of a sequence by indentation. -/
  | sequenceStart
  /-- The start of a mapping by indentation. -/
  | mappingStart
  /-- The end of a collection by indentation. -/
  | collectionEnd
  /-- An opening bracket. -/
  | bracket
  /-- A closing bracket. -/
  | bracketEnd
  /-- An opening brace. -/
  | brace
  /-- A closing brace. -/
  | braceEnd
  /-- A hyphen in front of an item. -/
  | item
  | comma
  | key
  | value
  /-- A node that was given the name before. -/
  | reference (name : String)
  /-- The name of the node that follows. -/
  | anchor (name : String)
  | tag (tag : Tag)
  | scalar (style : Style) (text : String)
  deriving DecidableEq, Repr

structure KeyStart where
  /-- The number of tokens before it. -/
  index : Nat
  position : Position
  /-- Whether the line is wrong unless this is a key. -/
  required : Bool
  deriving DecidableEq, Repr

namespace KeyStart

/-- The greatest distance of a key's start and the colon behind it, in octets. -/
def maxDistance : Nat := 1024

def isStale (key : KeyStart) (position : Position) : Bool :=
  key.position.line < position.line || key.position.offset + maxDistance < position.offset

end KeyStart

structure Lexer where
  cursor : Cursor
  /-- The last token first. -/
  reversed : List Token
  /-- The columns of the open collections by indentation, the innermost first. -/
  columns : List Nat
  /-- Where a key may have begun, outside brackets or in the innermost ones. -/
  key : Option KeyStart
  /-- The same for what is around the innermost brackets. -/
  outer : List (Option KeyStart)
  /-- Whether a key may begin here. -/
  keyAllowed : Bool
  deriving Repr

namespace Lexer

def start (text : List Char) : Lexer :=
  ⟨⟨.start, plainBreaks text⟩, [], [], none, [], true⟩

def flow (lexer : Lexer) : Bool :=
  !lexer.outer.isEmpty

def push (lexer : Lexer) (token : Token) : Lexer :=
  { lexer with reversed := token :: lexer.reversed }

def insert (lexer : Lexer) (index : Nat) (tokens : List Token) : Lexer :=
  let later := lexer.reversed.length - index
  { lexer with
    reversed :=
      lexer.reversed.take later ++ (tokens.reverse ++ lexer.reversed.drop later) }

def take (lexer : Lexer) (count : Nat) (token : Token) : Lexer :=
  { lexer.push token with cursor := lexer.cursor.skip count }

/-- Skips blanks, comments and line breaks; `comment` says whether this is inside a comment. Tabs are
skipped where no key may begin, and inside brackets. -/
def skipGap (flow : Bool) : Bool → Bool → Position → List Char → Bool × Cursor
  | _, allowed, position, [] => (allowed, ⟨position, []⟩)
  | comment, allowed, position, c :: rest =>
    if isBreak c then skipGap flow false (allowed || !flow) (position.next c) rest
    else if comment || c == ' ' || (c == '\t' && (flow || !allowed))
        || (c == '\ufeff' && position.column == 0) then
      skipGap flow comment allowed (position.next c) rest
    else if c = '#' then skipGap flow true allowed (position.next c) rest
    else (allowed, ⟨position, c :: rest⟩)

def forgetKey (lexer : Lexer) : Option Lexer :=
  if lexer.key.any (·.required) then none else some { lexer with key := none }

def forgetStale (lexer : Lexer) : Option Lexer :=
  let stale (key : Option KeyStart) := key.any (·.isStale lexer.cursor.position)
  let fresh (key : Option KeyStart) := if stale key then none else key
  if (lexer.key :: lexer.outer).any fun key => stale key && key.any (·.required) then none
  else some { lexer with key := fresh lexer.key, outer := lexer.outer.map fresh }

def noteKey (lexer : Lexer) : Option Lexer := do
  if lexer.keyAllowed then
    let lexer ← lexer.forgetKey
    let required := !lexer.flow && lexer.columns.head? == some lexer.cursor.column
    some { lexer with key := some ⟨lexer.reversed.length, lexer.cursor.position, required⟩ }
  else some lexer

def isDeeper (lexer : Lexer) (column : Nat) : Bool :=
  !lexer.flow && lexer.columns.head?.all (· < column)

/-- Opens a collection by indentation here, unless its column is that of the innermost one. -/
def openHere (lexer : Lexer) (start : Token) : Lexer :=
  let column := lexer.cursor.column
  if lexer.isDeeper column then { lexer.push start with columns := column :: lexer.columns }
  else lexer

def closeWhile (lexer : Lexer) (condition : Nat → Bool) : Lexer :=
  if lexer.flow then lexer
  else
    let closed := lexer.columns.takeWhile condition
    { lexer with
      reversed := List.replicate closed.length .collectionEnd ++ lexer.reversed
      columns := lexer.columns.dropWhile condition }

def toToken (lexer : Lexer) : Option Lexer := do
  let (keyAllowed, cursor) :=
    skipGap lexer.flow false lexer.keyAllowed lexer.cursor.position lexer.cursor.rest
  let lexer ← { lexer with cursor, keyAllowed }.forgetStale
  some (lexer.closeWhile (cursor.column < ·))

def leaveDocument (lexer : Lexer) : Option Lexer := do
  let lexer ← (lexer.closeWhile fun _ => true).forgetKey
  some { lexer with keyAllowed := false }

def readDirective (lexer : Lexer) : Option Lexer := do
  let lexer ← lexer.leaveDocument
  let (directive, cursor) ← Directive.read lexer.cursor
  some { lexer.push (.directive directive) with cursor }

def readMarker (lexer : Lexer) (token : Token) : Option Lexer := do
  some ((← lexer.leaveDocument).take 3 token)

def readOpening (lexer : Lexer) (token : Token) : Option Lexer := do
  let lexer ← lexer.noteKey
  some { lexer.take 1 token with
    key := none
    outer := lexer.key :: lexer.outer
    keyAllowed := true }

def readClosing (lexer : Lexer) (token : Token) : Option Lexer := do
  let lexer ← lexer.forgetKey
  some { lexer.take 1 token with
    key := lexer.outer.head?.join
    outer := lexer.outer.tail
    keyAllowed := false }

def readComma (lexer : Lexer) : Option Lexer := do
  some { (← lexer.forgetKey).take 1 .comma with keyAllowed := true }

def readItem (lexer : Lexer) : Option Lexer := do
  if lexer.flow || lexer.keyAllowed then
    let lexer ← (lexer.openHere .sequenceStart).forgetKey
    some { lexer.take 1 .item with keyAllowed := true }
  else none

def readKey (lexer : Lexer) : Option Lexer := do
  if lexer.flow || lexer.keyAllowed then
    let lexer ← (lexer.openHere .mappingStart).forgetKey
    some { lexer.take 1 .key with keyAllowed := !lexer.flow }
  else none

/-- Reads a colon in front of a value. What may be a key in front of it is one. -/
def readValue (lexer : Lexer) : Option Lexer :=
  match lexer.key with
  | some key =>
    let column := key.position.column
    let lexer :=
      if lexer.isDeeper column then
        { lexer.insert key.index [.mappingStart, .key] with columns := column :: lexer.columns }
      else lexer.insert key.index [.key]
    some { lexer.take 1 .value with key := none, keyAllowed := false }
  | none =>
    if lexer.flow || lexer.keyAllowed then
      some { (lexer.openHere .mappingStart).take 1 .value with keyAllowed := !lexer.flow }
    else none

def readName (lexer : Lexer) (token : String → Token) : Option Lexer := do
  let lexer ← lexer.noteKey
  let (name, cursor) := (lexer.cursor.skip 1).span isNameChar
  if name.isEmpty || !(cursor.atGap || cursor.rest.head?.any ("?:,]\x7d%@`".toList.contains ·)) then
    none
  else some { lexer.push (token (String.ofList name)) with cursor, keyAllowed := false }

def readTag (lexer : Lexer) : Option Lexer := do
  let lexer ← lexer.noteKey
  let (tag, cursor) ← Tag.read lexer.flow lexer.cursor
  some { lexer.push (.tag tag) with cursor, keyAllowed := false }

def readBlock (lexer : Lexer) (folded : Bool) : Option Lexer := do
  let lexer ← lexer.forgetKey
  let (text, cursor) ← Block.read folded lexer.columns.head? (lexer.cursor.skip 1)
  let style := if folded then Style.quoted else .literal
  some { lexer.push (.scalar style text) with cursor, keyAllowed := true }

def readQuoted (lexer : Lexer) (single : Bool) : Option Lexer := do
  let lexer ← lexer.noteKey
  let inside := lexer.cursor.skip 1
  let (text, cursor) ←
    if single then readSingle inside.position .empty inside.rest
    else readDouble (inside.rest.length + 1) .empty inside
  some { lexer.push (.scalar .quoted text) with cursor, keyAllowed := false }

def readPlain (lexer : Lexer) : Option Lexer := do
  let lexer ← lexer.noteKey
  let indent := lexer.columns.head?.elim 0 (· + 1)
  let (progress, cursor) ←
    Yaml.readPlain lexer.flow indent lexer.cursor.position .empty lexer.cursor.rest
  some { lexer.push (.scalar .plain progress.text) with
    cursor
    keyAllowed := progress.gap.isBroken }

def startsPlain (flow : Bool) : List Char → Bool
  | [] => false
  | '-' :: rest => !atGap rest
  | '?' :: rest | ':' :: rest => !flow && !atGap rest
  | c :: _ => !isGap c && !isFlowMark c && !("#&*!|>'\"%@`".toList.contains c)

def readToken (lexer : Lexer) : Option Lexer :=
  let text := lexer.cursor.rest
  let atIndicator := atGap text.tail
  if lexer.cursor.column = 0 ∧ text.head? = some '%' then lexer.readDirective
  else if lexer.cursor.column = 0 ∧ atMarker text then
    lexer.readMarker (if text.head? = some '-' then .documentStart else .documentEnd)
  else
    match text.head? with
    | some '[' => lexer.readOpening .bracket
    | some '\x7b' => lexer.readOpening .brace
    | some ']' => lexer.readClosing .bracketEnd
    | some '\x7d' => lexer.readClosing .braceEnd
    | some ',' => lexer.readComma
    | some '*' => lexer.readName .reference
    | some '&' => lexer.readName .anchor
    | some '!' => lexer.readTag
    | some '\'' => lexer.readQuoted true
    | some '"' => lexer.readQuoted false
    | some '|' => if lexer.flow then none else lexer.readBlock false
    | some '>' => if lexer.flow then none else lexer.readBlock true
    | first =>
      if first = some '-' ∧ atIndicator then lexer.readItem
      else if first = some '?' ∧ (lexer.flow ∨ atIndicator) then lexer.readKey
      else if first = some ':' ∧ (lexer.flow ∨ atIndicator) then lexer.readValue
      else if startsPlain lexer.flow text then lexer.readPlain
      else none

/-- The tokens of the text; `steps` bounds the number of those that are left. -/
def tokens? : Nat → Lexer → Option (List Token)
  | 0, _ => none
  | steps + 1, lexer => do
    let lexer ← lexer.toToken
    if lexer.cursor.rest.isEmpty then some (← lexer.leaveDocument).reversed.reverse
    else (← lexer.readToken).tokens? steps

end Lexer

def Token.scan (text : String) : Option (List Token) :=
  let text := text.toList
  if text.all isAllowed then (Lexer.start text).tokens? (text.length + 1) else none

end OrphanWatch.Yaml
