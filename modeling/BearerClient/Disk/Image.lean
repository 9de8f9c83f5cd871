import BearerClient.Disk.Opening
import BearerClient.Session.TableFile

/-!
# What a run sees and leaves of the files

A run looks at one path, the directories above it, and the files that may stand beside the database.
What stands there is told by the contents of files; afterwards only what has changed is to be
written, a directory before what stands in it.
-/

namespace BearerClient

/-- The file with the given contents. -/
def Node.ofContents (bytes : ByteArray) : Node :=
  match (String.fromUTF8? bytes).bind Database.ofText? with
  | some db => .database db
  | none => .file bytes.size

namespace Disk

/-- The text of the path that leads to a location, if it is one. -/
def pathText? (location : Location) : Option String :=
  String.fromUTF8? ⟨(location.flatMap fun name => slash :: name).toArray⟩

/-- A location and those above it below the root, the innermost first. -/
def upward (location : Location) : List Location :=
  (List.range location.length).map fun n => location.take (location.length - n)

/-- The locations that names pass, from a location on. -/
def passed (here : Location) : List FileName → List Location
  | [] => [here]
  | name :: names =>
    here :: passed
      (if name = sameName then here else if name = parentName then here.dropLast
        else here ++ [name]) names

/-- The locations that matter when the database with a name is opened from a directory. -/
def relevant (here : Location) (text : String) : List Location :=
  let named := match DatabaseName.ofText? text with
    | some name => name.path :: name.permissionsOf.toList
    | none => []
  let places := (bytesOf text :: named).flatMap fun path =>
    passed (startOf here path) (namesOf path)
  let journals := places.flatMap fun place =>
    [beside place journalSuffix, beside place logSuffix]
  ((places ++ journals).flatMap upward).eraseDups

/-- What stands elsewhere on the second disk than on the first, or nowhere any more: first what is
gone, then the outermost first. -/
def changes (before after : Disk) : List (Location × Option Node) :=
  let gone := before.nodes.filter fun (location, _) => (after.node? location).isNone
  let changed := after.nodes.filter fun (location, node) => before.node? location ≠ some node
  gone.map (fun (location, _) => (location, none)) ++
    (changed.mergeSort fun a b => a.1.length ≤ b.1.length).map fun (location, node) =>
      (location, some node)

end Disk

end BearerClient
