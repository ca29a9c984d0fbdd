import OrphanWatch.Instant.Basic
import OrphanWatch.Instant.Calendar
import OrphanWatch.Text.Blank
import OrphanWatch.Text.Numeral

/-!
Instants as texts after RFC 3339.

Instants are written in UTC, with as many groups of three fractional digits as the fraction needs; a
year outside 0 to 9999 carries its sign. Texts are read in a relaxed form: with any offset, blanks
around the numbers, numbers of fewer digits, and any number of fractional digits, of which the first
nine count. Second 60 is a leap second.
-/

namespace OrphanWatch.Instant

def padded (width : Nat) (n : Nat) : String :=
  let digits := toString n
  String.ofList (List.replicate (width - digits.length) '0') ++ digits

def yearText (year : Int) : String :=
  if 0 ≤ year && year ≤ 9999 then padded 4 year.toNat
  else (if year < 0 then "-" else "+") ++ padded 4 year.natAbs

/-- A point and 3, 6 or 9 digits, the fewest that hold the fraction; nothing if there is none. -/
def fractionText (nanos : Nat) : String :=
  if nanos = 0 then ""
  else if nanos % 1000000 = 0 then "." ++ padded 3 (nanos / 1000000)
  else if nanos % 1000 = 0 then "." ++ padded 6 (nanos / 1000)
  else "." ++ padded 9 nanos

def dateText (instant : Instant) : String :=
  let date := Date.ofDays (instant.second.fdiv secondsPerDay)
  yearText date.year ++ "-" ++ padded 2 date.month ++ "-" ++ padded 2 date.day

def timeText (instant : Instant) : String :=
  let seconds := instant.secondOfDay.toNat
  let shown := seconds % 60 + instant.nanos / nanosPerSecond
  padded 2 (seconds / 3600) ++ ":" ++ padded 2 (seconds / 60 % 60) ++ ":" ++ padded 2 shown
    ++ fractionText (instant.nanos % nanosPerSecond)

/-- For instance `2024-01-01T00:00:00.250Z`. -/
def toRfc3339 (instant : Instant) : String :=
  instant.dateText ++ "T" ++ instant.timeText ++ "Z"

def toLogText (instant : Instant) : String :=
  instant.dateText ++ " " ++ instant.timeText ++ " UTC"

def skipBlanks (text : List Char) : List Char :=
  text.dropWhile Text.isBlank

def readNumber (width : Nat) (text : List Char) : Option (Nat × List Char) :=
  let text := skipBlanks text
  let digits := (text.takeWhile Text.isDigit).take width
  if digits.isEmpty then none
  else some (Text.digitsValue digits, text.drop digits.length)

/-- Reads a number of up to two digits behind blanks, and the given mark behind blanks after it. -/
def readPart (mark : Char) (text : List Char) : Option (Nat × List Char) := do
  let (value, rest) ← readNumber 2 text
  match skipBlanks rest with
  | c :: rest => if c = mark then some (value, rest) else none
  | [] => none

/-- A signed year has as many digits as it needs, any other year up to four. -/
def readYear (text : List Char) : Option (Int × List Char) :=
  let signed (factor : Int) (text : List Char) : Option (Int × List Char) :=
    let digits := text.takeWhile Text.isDigit
    if digits.isEmpty then none
    else some (factor * Text.digitsValue digits, text.dropWhile Text.isDigit)
  match skipBlanks text with
  | '+' :: rest => signed 1 rest
  | '-' :: rest => signed (-1) rest
  | other => (readNumber 4 other).map fun (year, rest) => ((year : Int), rest)

def readDate (text : List Char) : Option (Date × List Char) := do
  let (year, rest) ← readYear text
  match skipBlanks rest with
  | '-' :: rest =>
    let (month, rest) ← readPart '-' rest
    let (day, rest) ← readNumber 2 rest
    let date : Date := ⟨year, month, day⟩
    if date.isValid then some (date, rest) else none
  | _ => none

def readFraction (text : List Char) : Option (Nat × List Char) :=
  match text with
  | '.' :: rest =>
    let digits := rest.takeWhile Text.isDigit
    if digits.isEmpty then none
    else
      let nine := (digits ++ List.replicate 9 '0').take 9
      some (Text.digitsValue nine, rest.dropWhile Text.isDigit)
  | other => some (0, other)

def readTime (text : List Char) : Option (Nat × Nat × List Char) := do
  let (hour, rest) ← readPart ':' text
  let (minute, rest) ← readPart ':' rest
  let (second, rest) ← readNumber 2 rest
  let (nanos, rest) ← readFraction rest
  if hour ≤ 23 && minute ≤ 59 && second ≤ 60 then
    let leap := second / 60
    some (hour * 3600 + minute * 60 + second - leap, nanos + leap * nanosPerSecond, rest)
  else none

/-- The seconds that two digits of hours and two digits of minutes mean, with colons and blanks between
them; blanks may follow. -/
def readOffsetSize (text : List Char) : Option Nat :=
  match text with
  | a :: b :: rest =>
    match rest.dropWhile (fun c => c == ':' || Text.isBlank c) with
    | c :: d :: rest =>
      let hours := Text.digitsValue [a, b]
      let minutes := Text.digitsValue [c, d]
      if [a, b, c, d].all Text.isDigit && hours ≤ 23 && minutes ≤ 59
          && (skipBlanks rest).isEmpty then
        some (hours * 3600 + minutes * 60)
      else none
    | _ => none
  | _ => none

def readOffset (text : List Char) : Option Int :=
  let utc (rest : List Char) : Option Int := if (skipBlanks rest).isEmpty then some 0 else none
  match skipBlanks text with
  | 'Z' :: rest | 'z' :: rest => utc rest
  | '+' :: rest => (readOffsetSize rest).map fun size => (size : Int)
  | '-' :: rest | '\u2212' :: rest => (readOffsetSize rest).map fun size => -(size : Int)
  | a :: b :: c :: rest =>
    if [a, b, c].map Char.toUpper = ['U', 'T', 'C'] then utc rest else none
  | _ => none

def ofText (text : String) : Option Instant := do
  let (date, rest) ← readDate text.toList
  match rest with
  | mark :: rest =>
    if mark = 'T' ∨ mark = 't' ∨ mark = ' ' then
      let (second, nanos, rest) ← readTime rest
      let offset ← readOffset rest
      let second := date.toDays * secondsPerDay + second
      let _ ← inCalendar ⟨second, nanos⟩
      inCalendar ⟨second - offset, nanos⟩
    else none
  | [] => none

end OrphanWatch.Instant
