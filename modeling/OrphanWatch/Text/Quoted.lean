import OrphanWatch.Text.Unprintable

/-!
Quoted texts, as error messages and log lines show them.

A quoted text stands between double quotes; quote and backslash are escaped with a backslash, tab,
line feed, carriage return and null have letters of their own, and any other character that would not
show is written by its number in hexadecimal.
-/

namespace OrphanWatch.Text

def isUnprintable (c : Char) : Bool :=
  let code := c.toNat
  if 0x20 ≤ code && code ≤ 0x7E then false
  else unprintableRanges.any fun range => range.1 ≤ code && code ≤ range.2

def hexDigits (n : Nat) : List Char :=
  Nat.toDigits 16 n

def escape (c : Char) : List Char :=
  if c = '"' then ['\\', '"']
  else if c = '\\' then ['\\', '\\']
  else if c = '\t' then ['\\', 't']
  else if c = '\n' then ['\\', 'n']
  else if c = '\r' then ['\\', 'r']
  else if c = '\x00' then ['\\', '0']
  else if isUnprintable c then ['\\', 'u', '\x7b'] ++ hexDigits c.toNat ++ ['\x7d']
  else [c]

def quoted (text : String) : String :=
  String.ofList ('"' :: (text.toList.flatMap escape ++ ['"']))

def quotedList (texts : List String) : String :=
  "[" ++ String.intercalate ", " (texts.map quoted) ++ "]"

end OrphanWatch.Text
