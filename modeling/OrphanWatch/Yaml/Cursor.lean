import OrphanWatch.Text.Numeral

/-!
Places in a YAML text.

Line breaks that mean the same are written as line feeds before reading starts (`plainBreaks`), so every
character takes one column.
-/

namespace OrphanWatch.Yaml

def isAllowed (c : Char) : Bool :=
  let code := c.toNat
  code == 0x09 || code == 0x0A || code == 0x0D || (0x20 ≤ code && code ≤ 0x7E) || code == 0x85
    || (0xA0 ≤ code && code ≤ 0xFFFD) || 0x10000 ≤ code

/-- The text with every line break as a line feed, but for the separators of lines and paragraphs. -/
def plainBreaks : List Char → List Char
  | '\r' :: '\n' :: rest => '\n' :: plainBreaks rest
  | '\r' :: rest => '\n' :: plainBreaks rest
  | '\u0085' :: rest => '\n' :: plainBreaks rest
  | c :: rest => c :: plainBreaks rest
  | [] => []

def isBreak (c : Char) : Bool :=
  c == '\n' || c == '\u2028' || c == '\u2029'

def isSpace (c : Char) : Bool :=
  c == ' ' || c == '\t'

def isGap (c : Char) : Bool :=
  isSpace c || isBreak c

def atGap (text : List Char) : Bool :=
  text.head?.all isGap

/-- Whether a marker of a document's start or end comes next, given that a line begins here. -/
def atMarker : List Char → Bool
  | '-' :: '-' :: '-' :: rest => atGap rest
  | '.' :: '.' :: '.' :: rest => atGap rest
  | _ => false

def isNameChar (c : Char) : Bool :=
  ('0' ≤ c && c ≤ '9') || ('A' ≤ c && c ≤ 'Z') || ('a' ≤ c && c ≤ 'z') || c == '_' || c == '-'

def isFlowMark (c : Char) : Bool :=
  c == ',' || c == '[' || c == ']' || c == '\x7b' || c == '\x7d'

structure Position where
  line : Nat
  column : Nat
  /-- The octets before it. -/
  offset : Nat
  deriving DecidableEq, Repr

namespace Position

def start : Position := ⟨0, 0, 0⟩

def next (position : Position) (c : Char) : Position :=
  if isBreak c then ⟨position.line + 1, 0, position.offset + c.utf8Size⟩
  else ⟨position.line, position.column + 1, position.offset + c.utf8Size⟩

end Position

structure Cursor where
  position : Position
  rest : List Char
  deriving Repr

namespace Cursor

def column (cursor : Cursor) : Nat :=
  cursor.position.column

def skip (cursor : Cursor) (count : Nat) : Cursor :=
  ⟨(cursor.rest.take count).foldl Position.next cursor.position, cursor.rest.drop count⟩

def span (cursor : Cursor) (condition : Char → Bool) : List Char × Cursor :=
  let taken := cursor.rest.takeWhile condition
  (taken, cursor.skip taken.length)

def skipSpaces (cursor : Cursor) : Cursor :=
  (cursor.span isSpace).2

def atGap (cursor : Cursor) : Bool :=
  Yaml.atGap cursor.rest

def atMark (cursor : Cursor) (mark : Char) : Bool :=
  cursor.rest.head? == some mark

def expect (cursor : Cursor) (mark : Char) : Option Cursor :=
  if cursor.atMark mark then some (cursor.skip 1) else none

/-- The place behind the line, of which nothing but blanks and a comment is left. -/
def finishLine (cursor : Cursor) : Option Cursor :=
  let cursor := cursor.skipSpaces
  let cursor := if cursor.atMark '#' then (cursor.span (!isBreak ·)).2 else cursor
  match cursor.rest with
  | [] => some cursor
  | c :: _ => if isBreak c then some (cursor.skip 1) else none

end Cursor

end OrphanWatch.Yaml
