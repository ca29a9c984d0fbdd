import OrphanWatch.Yaml.Cursor

/-!
Scalars that are written as a block of lines.

A block keeps its line breaks, or folds them between lines that do not start with a blank. Its lines are
indented alike; the breaks behind the last one are dropped, cut to one, or kept.
-/

namespace OrphanWatch.Yaml

namespace Block

inductive Chomping where
  | strip
  | clip
  | keep
  deriving DecidableEq, Repr

def chomping? (c : Char) : Option Chomping :=
  if c = '-' then some .strip else if c = '+' then some .keep else none

def width? (c : Char) : Option Nat :=
  if '1' ≤ c ∧ c ≤ '9' then some (c.toNat - '0'.toNat) else none

/-- Chomping and a stated indentation, in either order, and the number of their characters. -/
def header : List Char → Option Chomping × Option Nat × Nat
  | [] => (none, none, 0)
  | c :: rest =>
    match chomping? c, width? c with
    | some chomping, _ =>
      match rest.head?.bind width? with
      | some width => (some chomping, some width, 2)
      | none => (some chomping, none, 1)
    | none, some width =>
      match rest.head?.bind chomping? with
      | some chomping => (some chomping, some width, 2)
      | none => (none, some width, 1)
    | none, none => (none, none, 0)

/-- Line breaks, the last first, and the greatest column of a character behind some of them. -/
structure Breaks where
  reversed : List Char
  widest : Nat
  deriving Repr

def Breaks.none : Breaks := ⟨[], 0⟩

/-- Reads empty lines and up to `indent` spaces of the next line, or all of them without `indent`. -/
def readBreaks (indent : Option Nat) :
    Position → Breaks → List Char → Option (Breaks × Cursor)
  | position, breaks, [] =>
    some ({ breaks with widest := max breaks.widest position.column }, ⟨position, []⟩)
  | position, breaks, c :: rest =>
    let inside := indent.all (position.column < ·)
    if c = ' ' ∧ inside then readBreaks indent (position.next c) breaks rest
    else if c = '\t' ∧ inside then none
    else
      let widest := max breaks.widest position.column
      if isBreak c then readBreaks indent (position.next c) ⟨c :: breaks.reversed, widest⟩ rest
      else some ({ breaks with widest }, ⟨position, c :: rest⟩)

structure Progress where
  /-- The last character first. -/
  reversed : List Char
  /-- The break behind the last line. -/
  lead : Option Char
  /-- The breaks of the empty lines after it, the last first. -/
  breaks : List Char
  /-- Whether the last line starts with a blank. -/
  indented : Bool
  deriving Repr

namespace Progress

def gap (progress : Progress) (folded indented : Bool) : List Char :=
  if folded && progress.lead == some '\n' && !progress.indented && !indented then
    if progress.breaks.isEmpty then [' '] else progress.breaks
  else progress.breaks ++ progress.lead.toList

def text (progress : Progress) (chomping : Chomping) : String :=
  let lead := if chomping = .strip then [] else progress.lead.toList
  let breaks := if chomping = .keep then progress.breaks else []
  String.ofList (breaks ++ lead ++ progress.reversed).reverse

end Progress

def readLines (folded : Bool) (indent : Nat) :
    Nat → Progress → Cursor → Option (Progress × Cursor)
  | 0, _, _ => none
  | steps + 1, progress, cursor =>
    if cursor.rest.isEmpty || cursor.column != indent then some (progress, cursor)
    else do
      let indented := cursor.rest.head?.any isSpace
      let (line, after) := cursor.span (!isBreak ·)
      let reversed := line.reverse ++ (progress.gap folded indented ++ progress.reversed)
      let (breaks, next) ←
        readBreaks (some indent) (after.skip 1).position .none (after.skip 1).rest
      readLines folded indent steps ⟨reversed, after.rest.head?, breaks.reversed, indented⟩ next

/-- Reads a block behind its mark; `parent` is the column of the collection that holds it, if there
is one. -/
def read (folded : Bool) (parent : Option Nat) (cursor : Cursor) : Option (String × Cursor) := do
  let (chomping, width, length) := header cursor.rest
  let cursor ← (cursor.skip length).finishLine
  let stated := width.map (parent.getD 0 + ·)
  let (breaks, cursor) ← readBreaks stated cursor.position .none cursor.rest
  let least := parent.elim 1 (· + 1)
  let indent := stated.getD (max breaks.widest least)
  let (progress, cursor) ←
    readLines folded indent (cursor.rest.length + 1) ⟨[], none, breaks.reversed, false⟩ cursor
  some (progress.text (chomping.getD .clip), cursor)

end Block

end OrphanWatch.Yaml
