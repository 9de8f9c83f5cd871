/-!
# Reading bytes as text

Bytes from outside may or may not be UTF-8. `decodeLossy` reads them all the same: each maximal part
that could still have become a character but did not is replaced by one U+FFFD, so a cut three-byte
sequence costs one replacement and two stray bytes cost two.
-/

namespace BearerClient.Text

/-- The character that stands for bytes that are not text. -/
def replacement : Char := '\uFFFD'

/-- The number of continuation bytes that the lead byte `b` asks for, with the range that the first
of them must lie in; the range excludes overlong forms, surrogates and numbers above U+10FFFF. -/
def leadByte? (b : UInt8) : Option (Nat × UInt8 × UInt8) :=
  if 0xC2 ≤ b && b ≤ 0xDF then some (1, 0x80, 0xBF)
  else if b == 0xE0 then some (2, 0xA0, 0xBF)
  else if b == 0xED then some (2, 0x80, 0x9F)
  else if 0xE1 ≤ b && b ≤ 0xEF then some (2, 0x80, 0xBF)
  else if b == 0xF0 then some (3, 0x90, 0xBF)
  else if 0xF1 ≤ b && b ≤ 0xF3 then some (3, 0x80, 0xBF)
  else if b == 0xF4 then some (3, 0x80, 0x8F)
  else none

/-- The payload bits of the lead byte of a sequence with `count` continuation bytes. -/
def leadBits (b : UInt8) (count : Nat) : Nat :=
  match count with
  | 1 => b.toNat % 32
  | 2 => b.toNat % 16
  | _ => b.toNat % 8

/-- A sequence that is still open: its value so far, how many bytes it lacks, and the range of the
next one. -/
structure OpenSequence where
  /-- The bits read so far. -/
  value : Nat
  /-- How many continuation bytes are still missing; at least one. -/
  missing : Nat
  /-- The least byte that may come next. -/
  low : UInt8
  /-- The greatest byte that may come next. -/
  high : UInt8

/-- What a byte outside any sequence gives: the characters it settles and the sequence it opens. -/
def startByte (b : UInt8) : List Char × Option OpenSequence :=
  if b < 0x80 then ([Char.ofNat b.toNat], none)
  else match leadByte? b with
    | none => ([replacement], none)
    | some (count, low, high) => ([], some ⟨leadBits b count, count, low, high⟩)

/-- What the next byte gives. A byte that cannot continue the open sequence closes it with a
replacement and is then read afresh. -/
def nextByte (b : UInt8) : Option OpenSequence → List Char × Option OpenSequence
  | none => startByte b
  | some s =>
    if s.low ≤ b && b ≤ s.high then
      let value := s.value * 64 + b.toNat % 64
      if s.missing ≤ 1 then ([Char.ofNat value], none)
      else ([], some ⟨value, s.missing - 1, 0x80, 0xBF⟩)
    else
      let (chars, sequence) := startByte b
      (replacement :: chars, sequence)

/-- Reads the bytes that follow an open sequence, if there is one. -/
def decodeFrom : Option OpenSequence → List UInt8 → List Char
  | none, [] => []
  | some _, [] => [replacement]
  | sequence, b :: rest =>
    let (chars, sequence) := nextByte b sequence
    chars ++ decodeFrom sequence rest

/-- The bytes as text, everything that is not UTF-8 replaced by U+FFFD. -/
def decodeLossy (bytes : ByteArray) : String :=
  .ofList (decodeFrom none bytes.data.toList)

end BearerClient.Text
