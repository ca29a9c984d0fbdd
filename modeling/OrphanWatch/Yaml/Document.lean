import OrphanWatch.Yaml.Node
import OrphanWatch.Yaml.Token

/-!
Documents read from tokens.

Every reading function takes a number of steps that bounds its depth and its loops; `Document.ofTokens?`
gives it enough for any text.
-/

namespace OrphanWatch.Yaml

namespace Document

structure Unread where
  tokens : List Token
  handles : Tag.Handles
  /-- The numbers of the nodes that were given each name last. -/
  names : List (String × Nat)

abbrev Reading := StateT Unread Option

def peek : Reading (Option Token) :=
  return (← get).tokens.head?

def skip : Reading Unit :=
  modify fun unread => { unread with tokens := unread.tokens.tail }

def accept (token : Token) : Reading Bool := do
  if (← peek) = some token then
    skip
    return true
  else return false

def precedes (tokens : List Token) : Reading Bool :=
  return (← peek).any tokens.contains

def referred (name : String) : Reading Node := do
  match (← get).names.lookup name with
  | some number => return .reference number
  | none => failure

/-- Gives a name to a node. Its number is how many other names there are by then. -/
def give (name : String) : Reading Nat := do
  let unread ← get
  let number := unread.names.length
  set { unread with names := (name, number) :: unread.names.filter (·.1 ≠ name) }
  return number

def properties : Reading (Option String × Option Tag) := do
  let unread ← get
  let (anchor, tag, count) : Option String × Option Tag × Nat :=
    match unread.tokens with
    | .anchor name :: .tag tag :: _ | .tag tag :: .anchor name :: _ => (some name, some tag, 2)
    | .anchor name :: _ => (some name, none, 1)
    | .tag tag :: _ => (none, some tag, 1)
    | _ => (none, none, 0)
  set { unread with tokens := unread.tokens.drop count }
  return (anchor, tag)

def tagText (tag : Tag) : Reading String := do
  match tag.resolve? (← get).handles with
  | some text => return text
  | none => failure

mutual

/-- Reads a node. By indentation are written nodes in a `block`; a sequence may be `flush` with the
mapping that holds it. -/
def node : Nat → (block flush : Bool) → Reading Node
  | 0, _, _ => failure
  | steps + 1, block, flush => do
    if let some (.reference name) ← peek then
      skip
      return ← referred name
    let (anchor, tag) ← properties
    let tag ← tag.mapM tagText
    let number ← anchor.mapM give
    match ← peek with
    | some (.scalar style text) =>
      skip
      return .scalar number style (if tag = some Tag.nonspecific then none else tag) text
    | some .bracket =>
      skip
      return .sequence number (← flowItems steps true)
    | some .brace =>
      skip
      return .mapping number (← flowEntries steps true)
    | next =>
      if next = some .item ∧ flush then return .sequence number (← flushItems steps)
      else if next = some .sequenceStart ∧ block then
        skip
        return .sequence number (← items steps)
      else if next = some .mappingStart ∧ block then
        skip
        return .mapping number (← entries steps)
      else if number.isSome || tag.isSome then return .scalar number .plain tag ""
      else failure

def nodeUnless : Nat → List Token → (block flush : Bool) → Reading Node
  | 0, _, _, _ => failure
  | steps + 1, tokens, block, flush => do
    if ← precedes tokens then return .empty else node steps block flush

def items : Nat → Reading (List Node)
  | 0 => failure
  | steps + 1 => do
    if ← accept .item then
      let item ← nodeUnless steps [.item, .collectionEnd] true false
      return item :: (← items steps)
    else if ← accept .collectionEnd then return []
    else failure

/-- Reads the items of a sequence that has no end of its own. -/
def flushItems : Nat → Reading (List Node)
  | 0 => failure
  | steps + 1 => do
    if ← accept .item then
      let item ← nodeUnless steps [.item, .key, .value, .collectionEnd] true false
      return item :: (← flushItems steps)
    else return []

def entries : Nat → Reading (List (Node × Node))
  | 0 => failure
  | steps + 1 => do
    if ← accept .key then
      let around := [.key, .value, .collectionEnd]
      let key ← nodeUnless steps around true true
      let value ← if ← accept .value then nodeUnless steps around true true else pure .empty
      return (key, value) :: (← entries steps)
    else if ← accept .collectionEnd then return []
    else failure

/-- Reads a value inside brackets, or nothing in front of a comma or the closing bracket. -/
def flowValue : Nat → (closing : Token) → Reading Node
  | 0, _ => failure
  | steps + 1, closing => do
    if ← accept .value then nodeUnless steps [.comma, closing] false false else return .empty

/-- Reads the items of a sequence up to its bracket. An item with a key is a mapping with one entry;
where its key is missing, the token in its place is dropped. -/
def flowItems : Nat → (first : Bool) → Reading (List Node)
  | 0, _ => failure
  | steps + 1, first => do
    if ← accept .bracketEnd then return []
    if !first then
      if !(← accept .comma) then failure
    if ← accept .key then
      let missing ← precedes [.value, .comma, .bracketEnd]
      let key ← nodeUnless steps [.value, .comma, .bracketEnd] false false
      if missing then skip
      let value ← flowValue steps .bracketEnd
      return .mapping none [(key, value)] :: (← flowItems steps false)
    else if ← accept .bracketEnd then return []
    else
      let item ← node steps false false
      return item :: (← flowItems steps false)

def flowEntries : Nat → (first : Bool) → Reading (List (Node × Node))
  | 0, _ => failure
  | steps + 1, first => do
    if ← accept .braceEnd then return []
    if !first then
      if !(← accept .comma) then failure
    if ← accept .key then
      let key ← nodeUnless steps [.value, .comma, .braceEnd] false false
      let value ← flowValue steps .braceEnd
      return (key, value) :: (← flowEntries steps false)
    else if ← accept .braceEnd then return []
    else
      let key ← node steps false false
      return (key, .empty) :: (← flowEntries steps false)

end

def rootOf? (handles : Tag.Handles) (tokens : List Token) : Option Node := do
  let (root, unread) ← (node (4 * tokens.length + 4) true false).run ⟨tokens, handles, []⟩
  if unread.tokens.all (· == .documentEnd) then some root else none

def splitDirectives : List Token → List Directive × List Token
  | .directive directive :: rest =>
    let (directives, rest) := splitDirectives rest
    (directive :: directives, rest)
  | tokens => ([], tokens)

/-- The only document of the tokens; without any tokens it is empty. Behind directives its start has to
be marked. -/
def ofTokens? (tokens : List Token) : Option Document := do
  let (directives, tokens) := splitDirectives tokens
  let handles ← Directive.handles? directives
  match tokens with
  | .documentStart :: tokens =>
    if tokens.all (· == .documentEnd) then some ⟨.empty⟩ else (rootOf? handles tokens).map .mk
  | [] => if directives.isEmpty then some ⟨.empty⟩ else none
  | tokens => if directives.isEmpty then (rootOf? handles tokens).map .mk else none

def parse (text : String) : Option Document := do
  ofTokens? (← Token.scan text)

end Document

end OrphanWatch.Yaml
