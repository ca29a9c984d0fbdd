import OrphanWatch.Text.CaseTable

/-!
Lower case of texts.

Each character is replaced by its lower case on its own, with two exceptions that Unicode makes: a
dotted capital I becomes two characters, and a capital sigma that ends a word becomes a final sigma.
-/

namespace OrphanWatch.Text

def lowerChar (c : Char) : Char :=
  match lowerRuns.find? fun run => run.covers c.toNat with
  | some run => Char.ofNat (c.toNat + run.shift).toNat
  | none => c

def isCaseIgnorable (c : Char) : Bool :=
  inRanges caseIgnorableRanges c.toNat

def isCased (c : Char) : Bool :=
  inRanges casedRanges c.toNat

/-- Whether the first character that is not case-ignorable is a cased one. -/
def facesCased (text : List Char) : Bool :=
  match text.dropWhile isCaseIgnorable with
  | [] => false
  | c :: _ => isCased c

/-- `before` holds the characters already passed, the nearest first. -/
def lowerFrom (before : List Char) : List Char → List Char
  | [] => []
  | c :: rest =>
    let lowered :=
      if c = 'Σ' then
        if facesCased before && !facesCased rest then ['ς'] else ['σ']
      else if c = 'İ' then ['i', '\u0307']
      else [lowerChar c]
    lowered ++ lowerFrom (c :: before) rest

def lower (text : List Char) : List Char :=
  lowerFrom [] text

def lowercase (text : String) : String :=
  String.ofList (lower text.toList)

end OrphanWatch.Text
