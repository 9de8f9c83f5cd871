import BearerClient.Disk
import BearerClient.Url.Encoding

/-!
# Names of databases

A database is named by the path of its file. A name that starts with `file:` is read as an address
instead: percent escapes stand for bytes, a number sign ends it, and behind a question mark stand
parameters, which say how the file is to be opened. Some databases have no file: those named
`:memory:` or not at all, and those that are asked to stay in memory.
-/

namespace BearerClient

/-- How a database is opened. -/
inductive OpenMode where
  /-- In memory, whatever its name. -/
  | memory
  /-- Its file must be there and is only read. -/
  | readOnly
  /-- Its file must be there and is written. -/
  | readWrite
  /-- Its file is created if it is not there. -/
  | create
  deriving DecidableEq, Repr

namespace OpenMode

/-- How much a mode allows. -/
def rank : OpenMode → Nat
  | memory => 0
  | readOnly => 1
  | readWrite => 2
  | create => 3

/-- The most that may be asked for where a mode was set before. A database that was to stay in
memory may be asked for in any way. -/
def limit : OpenMode → Nat
  | memory => 3
  | mode => mode.rank

/-- Reads a mode. -/
def ofText? (text : List UInt8) : Option OpenMode :=
  if text = bytesOf "memory" then some memory
  else if text = bytesOf "ro" then some readOnly
  else if text = bytesOf "rw" then some readWrite
  else if text = bytesOf "rwc" then some create
  else none

end OpenMode

/-- What is behind the file of a database. -/
inductive Backing where
  /-- The disk. -/
  | disk
  /-- A file system in memory, which goes with the program. -/
  | memory
  deriving DecidableEq, Repr

/-- Reads the name of a file system. -/
def Backing.ofText? (text : List UInt8) : Option Backing :=
  if text = bytesOf "memdb" then some memory
  else if ["unix", "unix-none", "unix-dotfile", "unix-excl"].any (text = bytesOf ·) then some disk
  else none

/-- What the name of a database says. -/
structure DatabaseName where
  /-- The path of its file. -/
  path : List UInt8
  /-- How it is opened. -/
  mode : OpenMode
  /-- What is behind its file. -/
  backing : Backing
  /-- Whether its file is taken to never change. -/
  isImmutable : Bool
  /-- The path of a file whose permissions a new one gets. -/
  permissionsOf : Option (List UInt8)
  deriving DecidableEq, Repr

/-! ## Addresses -/

/-- A named parameter of an address. -/
abbrev Parameter := List UInt8 × List UInt8

/-- The bytes of a part of an address. A zero byte ends the part. -/
def decodedPart (cs : List Char) : List UInt8 := (Url.percentDecode cs).takeWhile (· ≠ 0)

/-- The parameters behind the question mark of an address. One without a name does not count. -/
def parametersOf (cs : List Char) : List Parameter :=
  let parameters := (Text.splitWhere (· = '&') cs).map fun part =>
    (decodedPart (part.takeWhile (· ≠ '=')), decodedPart ((part.dropWhile (· ≠ '=')).drop 1))
  parameters.filter (!·.1.isEmpty)

/-- What follows the host of an address, which may only be this machine. -/
def skipHost? : List Char → Option (List Char)
  | '/' :: '/' :: rest =>
    let host := rest.takeWhile (· ≠ '/')
    if host = [] ∨ host = "localhost".toList then some (rest.dropWhile (· ≠ '/')) else none
  | cs => some cs

/-- The path and the parameters of an address behind `file:`. -/
def readAddress? (cs : List Char) : Option (List UInt8 × List Parameter) := do
  let text := (← skipHost? cs).takeWhile (· ≠ '#')
  return (decodedPart (text.takeWhile (· ≠ '?')), parametersOf ((text.dropWhile (· ≠ '?')).drop 1))

/-! ## Switches -/

/-- The number at the start of a text; zero if it does not fit into 31 bits. -/
def leadingNumber (cs : List Char) : Nat :=
  let toBase (base : Nat) (digits : List Char) : Nat :=
    digits.foldl (fun n c => n * base + (Text.hexDigitValue? c).getD 0) 0
  let number := match cs with
    | '0' :: x :: rest =>
      if x = 'x' ∨ x = 'X' then toBase 16 (rest.takeWhile (Text.hexDigitValue? · |>.isSome))
      else toBase 10 (cs.takeWhile Char.isDigit)
    | _ => toBase 10 (cs.takeWhile Char.isDigit)
  if number < 0x80000000 then number else 0

/-- Whether a switch is on: it says so, or gives a number whose lowest byte is not zero. -/
def isOn (value : List UInt8) : Bool :=
  let cs := value.map fun b => Char.ofNat b.toNat
  if cs.head?.any Char.isDigit then leadingNumber cs % 256 != 0
  else ["on", "yes", "true"].any fun word => cs.map Char.toLower = word.toList

/-! ## Names -/

namespace DatabaseName

/-- The database whose file is at a path. -/
def ofPath (path : List UInt8) : DatabaseName := ⟨path, .create, .disk, false, none⟩

/-- The name with a parameter taken into account; none if its value is wrong. -/
def withParameter? (name : DatabaseName) (parameter : Parameter) : Option DatabaseName :=
  let (key, value) := parameter
  if key = bytesOf "mode" then do
    let mode ← OpenMode.ofText? value
    if mode.rank ≤ name.mode.limit then some { name with mode := mode } else none
  else if key = bytesOf "cache" then
    if value = bytesOf "shared" ∨ value = bytesOf "private" then some name else none
  else some name

/-- The value of the first parameter with a name. -/
def parameter? (parameters : List Parameter) (key : String) : Option (List UInt8) :=
  parameters.lookup (bytesOf key)

/-- Reads the name of a database; none if it is an address that is wrong. Of file systems the one
that is named last counts. -/
def ofText? (text : String) : Option DatabaseName :=
  match text.toList with
  | 'f' :: 'i' :: 'l' :: 'e' :: ':' :: rest => do
    let (path, parameters) ← readAddress? rest
    let name ← parameters.foldlM withParameter? (ofPath path)
    let backing ← match parameter? parameters.reverse "vfs" with
      | some value => Backing.ofText? value
      | none => some .disk
    return { name with
      backing := backing
      isImmutable := (parameter? parameters "immutable").any isOn
      permissionsOf := parameter? parameters "modeof" }
  | _ => some (ofPath (bytesOf text))

/-- Whether the database has no file anywhere. -/
def isFileless (name : DatabaseName) : Bool :=
  name.path.isEmpty || name.path = bytesOf ":memory:" || name.mode = .memory

/-- Whether the file of the database is only read. -/
def isReadOnly (name : DatabaseName) : Bool := name.mode = .readOnly || name.isImmutable

end DatabaseName

end BearerClient
