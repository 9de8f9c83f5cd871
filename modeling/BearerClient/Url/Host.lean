import BearerClient.Text.Utf8
import BearerClient.Url.Domain
import BearerClient.Url.Encoding

/-!
# Hosts

The host of a special URL is a domain name or an address. Domain names are kept in their ASCII form.
A name whose last label is a number is an IPv4 address, in any of the old notations; brackets
enclose an IPv6 address. The host of any other URL is a text that is kept as it is.
-/

namespace BearerClient.Url

/-- Where a URL points. -/
inductive Host where
  /-- A domain name in ASCII, or the text of any other host. -/
  | name (text : String)
  /-- An IPv4 address as a number of 32 bits. -/
  | ipv4 (address : Nat)
  /-- An IPv6 address as eight pieces of 16 bits. -/
  | ipv6 (pieces : List Nat)
  deriving DecidableEq, Repr

/-- Whether `c` may not stand in the host of any URL. -/
def isForbiddenInHost (c : Char) : Bool :=
  c = '\x00' || c = '\t' || c = '\n' || c = '\r' || c = ' ' || c = '#' || c = '/' || c = ':' ||
    c = '<' || c = '>' || c = '?' || c = '@' || c = '[' || c = '\\' || c = ']' || c = '^' || c = '|'

/-! ## IPv4 addresses -/

/-- The labels of a name without the empty one that a final point leaves. -/
def numberLabels (name : List Char) : List (List Char) :=
  let labels := Text.splitWhere (· = '.') name
  if labels.getLast? = some [] then labels.dropLast else labels

/-- The value of digits to a base. -/
def digitsToBase? (base : Nat) (digits : List Char) : Option Nat :=
  digits.foldlM (fun n c => do
    let d ← Text.hexDigitValue? c
    if d < base then some (n * base + d) else none) 0

/-- The value of one part of an IPv4 address: hexadecimal behind `0x`, octal behind `0`, else
decimal; nothing behind the mark counts as zero. -/
def ipv4Number? : List Char → Option Nat
  | [] => none
  | '0' :: c :: rest =>
    if c = 'x' ∨ c = 'X' then digitsToBase? 16 rest else digitsToBase? 8 (c :: rest)
  | digits => digitsToBase? 10 digits

/-- Whether the last label of a name is a number, so that the name must be an IPv4 address. -/
def endsInNumber (name : List Char) : Bool :=
  match (numberLabels name).getLast? with
  | none => false
  | some label => (!label.isEmpty && label.all Char.isDigit) ||
    (match label with
      | '0' :: c :: _ => (c = 'x' || c = 'X') && (ipv4Number? label).isSome
      | _ => false)

/-- The address with the given parts; the last one fills all bytes that the others leave. -/
def ipv4OfParts? (parts : List Nat) : Option Nat :=
  match parts.reverse with
  | [] => none
  | last :: others =>
    let room := Nat.pow 256 (4 - others.length)
    if 3 < others.length ∨ others.any (255 < ·) ∨ room ≤ last then none
    else some (others.foldr (fun part n => n * 256 + part) 0 * room + last)

/-- Reads an IPv4 address. -/
def ipv4? (name : List Char) : Option Nat := do
  ipv4OfParts? (← (numberLabels name).mapM ipv4Number?)

/-- The text of an IPv4 address: four decimal numbers. -/
def ipv4Text (address : Nat) : String :=
  ".".intercalate ([3, 2, 1, 0].map fun i => toString (address / Nat.pow 256 i % 256))

/-! ## IPv6 addresses -/

/-- Reads a piece of an IPv6 address: one to four hexadecimal digits. -/
def ipv6Piece? (digits : List Char) : Option Nat :=
  if digits.isEmpty || 4 < digits.length then none else digitsToBase? 16 digits

/-- Reads one byte of an embedded IPv4 address: decimal, below 256, no zero in front. -/
def ipv4Byte? (digits : List Char) : Option Nat :=
  match digits with
  | [] => none
  | '0' :: _ :: _ => none
  | digits => (digitsToBase? 10 digits).filter (· < 256)

/-- Reads an IPv4 address at the end of an IPv6 address, as two pieces. -/
def embeddedIpv4? (cs : List Char) : Option (List Nat) := do
  match ← (Text.splitWhere (· = '.') cs).mapM ipv4Byte? with
  | [a, b, c, d] => some [a * 256 + b, c * 256 + d]
  | _ => none

/-- Reads pieces with colons between them; only the last may be an embedded IPv4 address. -/
def ipv6Pieces? : List (List Char) → Option (List Nat)
  | [] => some []
  | [part] => if part.contains '.' then embeddedIpv4? part else (ipv6Piece? part).map ([·])
  | part :: parts => do return (← ipv6Piece? part) :: (← ipv6Pieces? parts)

/-- The pieces in a text, which may be empty. -/
def ipv6Run? (cs : List Char) : Option (List Nat) :=
  if cs.isEmpty then some [] else ipv6Pieces? (Text.splitWhere (· = ':') cs)

/-- Splits a text at the first double colon. -/
def splitDoubleColon : List Char → Option (List Char × List Char)
  | ':' :: ':' :: rest => some ([], rest)
  | c :: rest => (splitDoubleColon rest).map fun (before, after) => (c :: before, after)
  | [] => none

/-- Reads an IPv6 address. A double colon stands for one or more zero pieces. -/
def ipv6? (cs : List Char) : Option (List Nat) := do
  match splitDoubleColon cs with
  | none =>
    let pieces ← ipv6Run? cs
    if pieces.length = 8 then some pieces else none
  | some (before, after) =>
    if before.contains '.' then none
    else
      let front ← ipv6Run? before
      let back ← ipv6Run? after
      let zeros := 8 - (front.length + back.length)
      if 0 < zeros then some (front ++ List.replicate zeros 0 ++ back) else none

/-- How many zeros stand at the start. -/
def zeroRun (pieces : List Nat) : Nat := (pieces.takeWhile (· = 0)).length

/-- Where the first of the longest runs of zeros starts, and its length. -/
def longestZeroRun (pieces : List Nat) : Nat × Nat :=
  (List.range pieces.length).foldl
    (fun best i =>
      let run := zeroRun (pieces.drop i)
      if best.2 < run then (i, run) else best) (0, 0)

/-- The text of an IPv6 address without its brackets; the longest run of two or more zeros becomes a
double colon. -/
def ipv6Text (pieces : List Nat) : String :=
  let hex (ps : List Nat) := ":".intercalate (ps.map fun p => String.ofList (Nat.toDigits 16 p))
  let (start, length) := longestZeroRun pieces
  if length < 2 then hex pieces
  else hex (pieces.take start) ++ "::" ++ hex (pieces.drop (start + length))

/-! ## Hosts -/

/-- The text of a host. -/
def Host.text : Host → String
  | .name text => text
  | .ipv4 address => ipv4Text address
  | .ipv6 pieces => "[" ++ ipv6Text pieces ++ "]"

/-- Reads what stands between brackets. -/
def bracketed? : List Char → Option (List Char)
  | '[' :: rest => if rest.getLast? = some ']' then some rest.dropLast else none
  | _ => none

/-- Reads the host of a special URL. -/
def Host.ofSpecial? (cs : List Char) : Option Host :=
  if cs.head? = some '[' then (bracketed? cs).bind ipv6? |>.map .ipv6
  else
    let decoded := Text.decodeLossy ⟨(percentDecode cs).toArray⟩
    (Domain.toAscii? decoded.toList).bind fun name =>
      if name.isEmpty then none
      else if endsInNumber name then (ipv4? name).map .ipv4
      else some (.name (.ofList name))

/-- Reads the host of a URL that is not special. -/
def Host.ofOther? (cs : List Char) : Option Host :=
  if cs.head? = some '[' then (bracketed? cs).bind ipv6? |>.map .ipv6
  else if cs.any isForbiddenInHost then none
  else some (.name (.ofList (percentEncode isOutsidePrintable cs)))

end BearerClient.Url
