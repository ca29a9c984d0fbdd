/-!
Bytes as UTF-8, with a replacement character for what is not.

A sequence that breaks off is replaced as a whole, and the byte that does not continue it is read anew.
-/

namespace OrphanWatch.Text

def replacement : Char := '\ufffd'

structure Sequence where
  /-- The bits read so far. -/
  bits : Nat
  /-- The least and the largest value of the next byte. -/
  least : Nat
  largest : Nat
  /-- The number of bytes behind the next one. -/
  behind : Nat
  deriving DecidableEq, Repr

namespace Sequence

def plain (bits behind : Nat) : Sequence :=
  ⟨bits, 0x80, 0xbf, behind⟩

/-- What a byte begins that is no character by itself. Overlong forms, surrogates and numbers beyond the
last character are excluded by the values of the second byte. -/
def begin? (byte : Nat) : Option Sequence :=
  if 0xc2 ≤ byte ∧ byte ≤ 0xdf then some (plain (byte - 0xc0) 0)
  else if byte = 0xe0 then some ⟨0, 0xa0, 0xbf, 1⟩
  else if byte = 0xed then some ⟨0xd, 0x80, 0x9f, 1⟩
  else if 0xe1 ≤ byte ∧ byte ≤ 0xef then some (plain (byte - 0xe0) 1)
  else if byte = 0xf0 then some ⟨0, 0x90, 0xbf, 2⟩
  else if 0xf1 ≤ byte ∧ byte ≤ 0xf3 then some (plain (byte - 0xf0) 2)
  else if byte = 0xf4 then some ⟨4, 0x80, 0x8f, 2⟩
  else none

end Sequence

/-- The characters that a byte completes, and the sequence that it leaves open, where none was open
before. -/
def readByte (byte : Nat) : List Char × Option Sequence :=
  if byte < 0x80 then ([Char.ofNat byte], none)
  else
    match Sequence.begin? byte with
    | some sequence => ([], some sequence)
    | none => ([replacement], none)

def continueByte (sequence : Sequence) (byte : Nat) : List Char × Option Sequence :=
  if sequence.least ≤ byte ∧ byte ≤ sequence.largest then
    let bits := sequence.bits * 64 + byte % 64
    match sequence.behind with
    | 0 => ([Char.ofNat bits], none)
    | behind + 1 => ([], some (.plain bits behind))
  else
    let (characters, next) := readByte byte
    (replacement :: characters, next)

def decodeFrom (pending : Option Sequence) : List Nat → List Char
  | [] => if pending.isSome then [replacement] else []
  | byte :: rest =>
    let (characters, next) := pending.elim (readByte byte) (continueByte · byte)
    characters ++ decodeFrom next rest

def decodeBytes (bytes : List Nat) : List Char :=
  decodeFrom none bytes

def utf8Bytes (text : String) : List Nat :=
  text.toUTF8.toList.map UInt8.toNat

end OrphanWatch.Text
