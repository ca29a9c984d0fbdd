import OrphanWatch.Yaml.Cursor

/-!
Plain and quoted scalars of YAML.

A line break inside a scalar is folded: alone it becomes a space, and of several the first is dropped,
unless it is a separator of lines or paragraphs. Blanks around the breaks are dropped.
-/

namespace OrphanWatch.Yaml

inductive Style where
  | plain
  /-- A block of lines behind a vertical bar. -/
  | literal
  /-- Between quotes, or a folded block of lines. -/
  | quoted
  deriving DecidableEq, Repr

/-- The blanks and line breaks since the last character of a text. -/
inductive Gap where
  /-- Blanks within a line, the last first. -/
  | blanks (reversed : List Char)
  /-- Line breaks: the first one, unless it was escaped, and those after it, the last first. -/
  | breaks (first : Option Char) (reversed : List Char)
  deriving DecidableEq, Repr

namespace Gap

def none : Gap := blanks []

def folded : Gap → List Char
  | blanks reversed => reversed
  | breaks (some '\n') [] => [' ']
  | breaks (some '\n') reversed => reversed
  | breaks first reversed => reversed ++ first.toList

def add (gap : Gap) (c : Char) : Gap :=
  match gap, isBreak c with
  | blanks reversed, false => blanks (c :: reversed)
  | blanks _, true => breaks (some c) []
  | breaks first reversed, true => breaks first (c :: reversed)
  | gap, false => gap

def isBroken : Gap → Bool
  | blanks _ => false
  | breaks .. => true

end Gap

structure Progress where
  /-- The last character first. -/
  reversed : List Char
  gap : Gap
  deriving DecidableEq, Repr

namespace Progress

def empty : Progress := ⟨[], .none⟩

def filled (progress : Progress) : List Char :=
  progress.gap.folded ++ progress.reversed

def add (progress : Progress) (c : Char) : Progress :=
  ⟨c :: progress.filled, .none⟩

def addGap (progress : Progress) (c : Char) : Progress :=
  { progress with gap := progress.gap.add c }

/-- Adds a line break that is escaped, so that it only ends the line. -/
def addEscapedBreak (progress : Progress) : Progress :=
  ⟨progress.filled, .breaks Option.none []⟩

def text (progress : Progress) : String :=
  String.ofList progress.reversed.reverse

def filledText (progress : Progress) : String :=
  String.ofList progress.filled.reverse

end Progress

/-- Whether a plain scalar ends before this text, which starts with no gap. -/
def endsPlain (flow : Bool) (c : Char) (rest : List Char) : Bool :=
  (c == ':' && atGap rest) || (flow && isFlowMark c)

/-- Whether a line of a plain scalar may not go on with this text after a gap. -/
def endsLine (flow : Bool) (indent column : Nat) (text : List Char) : Bool :=
  (!flow && column < indent) || (column == 0 && atMarker text) || text.head? == some '#'

/-- Reads a plain scalar and the gap behind it. The scalar ends before a colon with a gap behind it,
before a comment, and outside brackets before a line that is indented by less than `indent`. -/
def readPlain (flow : Bool) (indent : Nat) :
    Position → Progress → List Char → Option (Progress × Cursor)
  | position, progress, [] => some (progress, ⟨position, []⟩)
  | position, progress, c :: rest =>
    if isGap c then
      if c = '\t' ∧ progress.gap.isBroken ∧ position.column < indent then none
      else readPlain flow indent (position.next c) (progress.addGap c) rest
    else if progress.gap ≠ .none ∧ endsLine flow indent position.column (c :: rest) then
      some (progress, ⟨position, c :: rest⟩)
    else if flow ∧ c = ':' ∧ rest.head?.any (fun d => isFlowMark d || d == '?') then none
    else if endsPlain flow c rest then some (progress, ⟨position, c :: rest⟩)
    else readPlain flow indent (position.next c) (progress.add c) rest

def readSingle : Position → Progress → List Char → Option (String × Cursor)
  | _, _, [] => none
  | position, progress, c :: rest =>
    if position.column = 0 ∧ atMarker (c :: rest) then none
    else
      match c, rest with
      | '\'', '\'' :: rest => readSingle ((position.next '\'').next '\'') (progress.add '\'') rest
      | '\'', rest => some (progress.filledText, ⟨position.next '\'', rest⟩)
      | c, rest =>
        readSingle (position.next c) (if isGap c then progress.addGap c else progress.add c) rest

def escaped (c : Char) : Option Char :=
  match c with
  | '0' => some '\x00'
  | 'a' => some '\x07'
  | 'b' => some '\x08'
  | 't' | '\t' => some '\t'
  | 'n' => some '\n'
  | 'v' => some '\x0b'
  | 'f' => some '\x0c'
  | 'r' => some '\r'
  | 'e' => some '\x1b'
  | ' ' => some ' '
  | '"' => some '"'
  | '/' => some '/'
  | '\\' => some '\\'
  | 'N' => some '\u0085'
  | '_' => some '\u00a0'
  | 'L' => some '\u2028'
  | 'P' => some '\u2029'
  | _ => none

def escapeWidth (c : Char) : Option Nat :=
  match c with
  | 'x' => some 2
  | 'u' => some 4
  | 'U' => some 8
  | _ => none

def charOfHex (digits : List Char) : Option Char := do
  let values ← digits.mapM Text.hexValue
  let code := values.foldl (fun code value => code * 16 + value) 0
  if (0xD800 ≤ code && code ≤ 0xDFFF) || 0x10FFFF < code then none else some (Char.ofNat code)

def readEscape : List Char → Option (Char × Nat)
  | [] => none
  | mark :: rest =>
    match escapeWidth mark with
    | some width =>
      if rest.length < width then none
      else (charOfHex (rest.take width)).map fun c => (c, 1 + width)
    | none => (escaped mark).map fun c => (c, 1)

def readDouble : Nat → Progress → Cursor → Option (String × Cursor)
  | 0, _, _ => none
  | steps + 1, progress, cursor =>
    if cursor.column = 0 ∧ atMarker cursor.rest then none
    else
      match cursor.rest with
      | [] => none
      | '"' :: _ => some (progress.filledText, cursor.skip 1)
      | '\\' :: rest =>
        if rest.head?.any isBreak then readDouble steps progress.addEscapedBreak (cursor.skip 2)
        else
          match readEscape rest with
          | some (c, width) => readDouble steps (progress.add c) (cursor.skip (1 + width))
          | none => none
      | c :: _ =>
        readDouble steps (if isGap c then progress.addGap c else progress.add c) (cursor.skip 1)

end OrphanWatch.Yaml
