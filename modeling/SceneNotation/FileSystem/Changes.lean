import SceneNotation.FileSystem

/- What is new or different in a file system, seen from its working directory and
   sorted by name. A directory's name ends in a slash. -/
namespace SceneNotation.FileSystem

/-- The name of a place below the working directory. -/
def nameBelow? : (top place : List Text) → Node → Option Text
  | [], [], _ => none
  | [], place, .file _ => some (Text.join ['/'] place)
  | [], place, .directory => some (Text.join ['/'] place ++ ['/'])
  | _ :: _, [], _ => none
  | part :: top, here :: place, node => if part = here then nameBelow? top place node else none

def changes (before after : FileSystem) : List (Text × Node) :=
  let differing := after.nodes.filter fun entry => nodeIn? entry.1 before.nodes != some entry.2
  let named := differing.filterMap fun entry =>
    (nameBelow? after.workingDirectory.parts entry.1.parts entry.2).map fun name =>
      (name, entry.2)
  named.mergeSort fun left right => Text.le left.1 right.1

def makePlaces (system : FileSystem) (places : List Location) : FileSystem :=
  places.foldl (fun system place => system.put place .directory) system

/-- The places on the way to a place, from the top down, itself the last. -/
def way (parts : List Text) : List Location :=
  (List.range parts.length).map fun n => Location.ofParts (parts.take (n + 1))

def bare (parts : List Text) : FileSystem :=
  makePlaces { workingDirectory := .ofParts parts } (way parts)

/-- Puts a node at a path, and makes the directories on the way to it. -/
def plant (system : FileSystem) (path : Path) : Node → FileSystem
  | .directory => (system.makeDirectories path true).system
  | .file bytes =>
      let prepared := (system.makeDirectories path.parent true).system
      match prepared.writeBytes path bytes with
      | .ok planted => planted
      | .error _ => prepared

end SceneNotation.FileSystem
