import BearerClient.Session.Table
import BearerClient.Text.Split

/-!
# Files

The part of a file system that the program has to do with: directories, database files, and other
files, which are only told apart from databases by their size. A path is followed name by name, and
every name on the way must lead to a directory that is there, even if the path leaves it again.
-/

namespace BearerClient

/-- What a path can lead to. -/
inductive Node where
  /-- A directory. -/
  | directory
  /-- A file that is not a database, with its size in bytes. -/
  | file (size : Nat)
  /-- A database file. -/
  | database (db : Database)
  deriving DecidableEq, Repr

/-- A name in a directory: bytes, none of them a slash. -/
abbrev FileName := List UInt8

/-- The names that lead from the root to a place. -/
abbrev Location := List FileName

/-- Directories and files by location. The root is always there. -/
structure Disk where
  /-- What stands where, each location once. -/
  nodes : List (Location × Node)
  deriving Repr

/-- Why a path cannot be used. -/
inductive FileError where
  /-- There is nothing where something must be. -/
  | missing
  /-- There is something where nothing may be. -/
  | occupied
  /-- A name on the way does not lead to a directory. -/
  | notDirectory
  /-- The path leads to a directory. -/
  | isDirectory
  /-- A name or the path is too long. -/
  | tooLong
  /-- The path holds a zero byte. -/
  | zeroByte
  deriving DecidableEq, Repr

/-- What is told about a path that cannot be used. -/
def FileError.message : FileError → String
  | missing => "No such file or directory (os error 2)"
  | occupied => "File exists (os error 17)"
  | notDirectory => "Not a directory (os error 20)"
  | isDirectory => "Is a directory (os error 21)"
  | tooLong => "File name too long (os error 36)"
  | zeroByte => "file name contained an unexpected NUL byte"

/-- The bytes of a text. -/
def bytesOf (text : String) : List UInt8 := text.toList.flatMap String.utf8EncodeChar

namespace Disk

/-! ## Nodes -/

/-- What stands at a location. -/
def node? (disk : Disk) (location : Location) : Option Node :=
  if location.isEmpty then some .directory else disk.nodes.lookup location

/-- The disk with nothing at a location. -/
def erase (location : Location) (disk : Disk) : Disk :=
  ⟨disk.nodes.filter (·.1 ≠ location)⟩

/-- Puts a node at a location. -/
def put (location : Location) (node : Node) (disk : Disk) : Disk :=
  ⟨(location, node) :: (disk.erase location).nodes⟩

/-! ## Following paths -/

/-- The byte between names. -/
def slash : UInt8 := 0x2F

/-- The name that stays in a directory. -/
def sameName : FileName := [0x2E]

/-- The name that leads out of a directory. -/
def parentName : FileName := [0x2E, 0x2E]

/-- The longest name. -/
def maxNameLength : Nat := 255

/-- The longest path. -/
def maxPathLength : Nat := 4095

/-- The names in a path. -/
def namesOf (path : List UInt8) : List FileName :=
  (Text.splitWhere (· = slash) path).filter (!·.isEmpty)

/-- Where a path starts, seen from a directory. -/
def startOf (here : Location) (path : List UInt8) : Location :=
  if path.head? = some slash then [] else here

/-- Follows names from a location. Whatever a name is looked up in must be a directory. -/
def walk (disk : Disk) : Location → List FileName → Except FileError Location
  | here, [] => .ok here
  | here, name :: names =>
    match disk.node? here with
    | none => .error .missing
    | some .directory =>
      if name = sameName then disk.walk here names
      else if name = parentName then disk.walk here.dropLast names
      else if maxNameLength < name.length then .error .tooLong
      else disk.walk (here ++ [name]) names
    | some _ => .error .notDirectory

/-- The location of a path, seen from a directory; nothing has to be there. -/
def reach (here : Location) (path : List UInt8) (disk : Disk) : Except FileError Location :=
  if path.isEmpty then .error .missing
  else if path.contains 0 then .error .zeroByte
  else if maxPathLength < path.length then .error .tooLong
  else disk.walk (startOf here path) (namesOf path)

/-- What stands at a path, seen from a directory. A slash at the end asks for a directory. -/
def find (here : Location) (path : List UInt8) (disk : Disk) : Except FileError Node := do
  match disk.node? (← disk.reach here path) with
  | none => .error .missing
  | some .directory => .ok .directory
  | some node => if path.getLast? = some slash then .error .notDirectory else .ok node

/-- Whether a path leads to a directory. -/
def isDirectory (here : Location) (path : List UInt8) (disk : Disk) : Bool :=
  match disk.find here path with
  | .ok .directory => true
  | _ => false

/-! ## Creating -/

/-- Creates a directory. -/
def makeDirectory (here : Location) (path : List UInt8) (disk : Disk) : Except FileError Disk := do
  let location ← disk.reach here path
  if (disk.node? location).isSome then .error .occupied else .ok (disk.put location .directory)

/-- Creates the first of some directories, if need be in the one created from the others, where each
holds the one before. What was created before a failure stays. -/
def makeDirectories (here : Location) : List String → Disk → Disk × Except FileError Unit
  | [], disk => (disk, .error .missing)
  | path :: above, disk =>
    let settle (disk : Disk) (failure : FileError) : Disk × Except FileError Unit :=
      (disk, if disk.isDirectory here (bytesOf path) then .ok () else .error failure)
    if path = "" then (disk, .ok ())
    else match disk.makeDirectory here (bytesOf path) with
      | .ok disk => (disk, .ok ())
      | .error .missing =>
        match makeDirectories here above disk with
        | (disk, .ok ()) =>
          match disk.makeDirectory here (bytesOf path) with
          | .ok disk => (disk, .ok ())
          | .error failure => settle disk failure
        | (disk, .error failure) => (disk, .error failure)
      | .error failure => settle disk failure

/-- Creates a file of the given size, or overwrites one. -/
def writeFile (here : Location) (path : List UInt8) (size : Nat) (disk : Disk) :
    Except FileError Disk := do
  let location ← disk.reach here path
  if disk.node? location = some .directory || path.getLast? = some slash then .error .isDirectory
  else .ok (disk.put location (.file size))

/-! ## The text of a path -/

/-- A reversed path without the slashes and single dots that it ends in. -/
def dropTrailing : List Char → List Char
  | '/' :: rest => dropTrailing rest
  | '.' :: '/' :: rest => dropTrailing ('/' :: rest)
  | cs => cs
  termination_by cs => cs.length

/-- The path of the directory that holds what a path leads to, as far as the text tells; none for
the root and the empty path. -/
def parentText? (path : String) : Option String :=
  let isAbsolute := path.startsWith "/"
  match dropTrailing path.toList.reverse with
  | [] => none
  | cs =>
    let parent := dropTrailing (cs.dropWhile (· ≠ '/'))
    some (if parent.isEmpty && isAbsolute then "/" else .ofList parent.reverse)

/-- A path and at most so many of the directories that hold it, the innermost first. -/
def pathChain : Nat → String → List String
  | 0, path => [path]
  | length + 1, path =>
    match parentText? path with
    | some parent => path :: pathChain length parent
    | none => [path]

/-- Creates the directory at a path, and those that hold it. -/
def makePath (here : Location) (path : String) (disk : Disk) : Disk × Except FileError Unit :=
  disk.makeDirectories here (pathChain path.length path)

/-- The text of a path below a directory; an absolute path stays as it is. -/
def joinText (directory path : String) : String :=
  if path.startsWith "/" then path else directory ++ "/" ++ path

/-- The location that a path names if every name on the way leads to a directory. -/
def locationOf (path : String) : Location :=
  (namesOf (bytesOf path)).foldl
    (fun here name =>
      if name = sameName then here else if name = parentName then here.dropLast else here ++ [name])
    []

/-- The database at a location. -/
def database? (disk : Disk) (location : Location) : Option Database :=
  match disk.node? location with
  | some (.database db) => some db
  | _ => none

end Disk

end BearerClient
