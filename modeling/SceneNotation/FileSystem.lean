import SceneNotation.FileSystem.Location
import SceneNotation.Path

/- Files and directories by their place below the root, and a working directory.
   Parts of a path are followed one at a time, and every part but the last must lead
   to a directory that exists; a double dot leads back up. The root is always a
   directory. There are no links and no permissions. -/
namespace SceneNotation

inductive Node where
  | file (bytes : List UInt8)
  | directory
  deriving DecidableEq, Repr

structure FileSystem where
  nodes : List (Location × Node) := []
  workingDirectory : Location := {}
  deriving DecidableEq, Repr

namespace FileSystem

inductive Trouble where
  | absent
  | alreadyExists
  | notDirectory
  | isDirectory
  deriving DecidableEq, Repr

namespace Trouble

def code : Trouble → Nat
  | .absent => 2
  | .alreadyExists => 17
  | .notDirectory => 20
  | .isDirectory => 21

def describe : Trouble → Text
  | .absent => "No such file or directory".toList
  | .alreadyExists => "File exists".toList
  | .notDirectory => "Not a directory".toList
  | .isDirectory => "Is a directory".toList

end Trouble

/-- What went wrong with which path. No file can be named by a path that holds U+0000. -/
inductive Fault where
  | atPath (trouble : Trouble) (path : Path)
  | nulInPath
  deriving DecidableEq, Repr

def errorText (code : Nat) (description : Text) : Text :=
  "[Errno ".toList ++ Text.ofNat code ++ "] ".toList ++ description

def Fault.message : Fault → Text
  | .atPath trouble path =>
      errorText trouble.code trouble.describe ++ ": ".toList ++ Text.quoted path.text
  | .nulInPath => "embedded null byte".toList

def nodeIn? (place : Location) : List (Location × Node) → Option Node
  | [] => none
  | entry :: rest => if entry.1 = place then some entry.2 else nodeIn? place rest

def node? (system : FileSystem) (place : Location) : Option Node :=
  if place.isRoot then some .directory else nodeIn? place system.nodes

def enter (place : Location) (part : Text) : Location :=
  if part = ['.', '.'] then place.up else place.down part

/-- The place that the parts lead to. Nothing need exist there. -/
def follow (system : FileSystem) : Location → List Text → Except Trouble Location
  | place, [] => .ok place
  | place, part :: rest =>
      match system.node? place with
      | none => .error .absent
      | some (.file _) => .error .notDirectory
      | some .directory => system.follow (enter place part) rest

def locate (system : FileSystem) (path : Path) : Except Trouble Location :=
  system.follow (if path.isAbsolute then {} else system.workingDirectory) path.parts

def lookup (system : FileSystem) (path : Path) : Except Trouble Node :=
  match system.locate path with
  | .error trouble => .error trouble
  | .ok place =>
      match system.node? place with
      | some node => .ok node
      | none => .error .absent

def isFile (system : FileSystem) (path : Path) : Bool :=
  !path.holdsNul && match system.lookup path with
    | .ok (.file _) => true
    | _ => false

def isDirectory (system : FileSystem) (path : Path) : Bool :=
  !path.holdsNul && match system.lookup path with
    | .ok .directory => true
    | _ => false

def contains (system : FileSystem) (path : Path) : Bool :=
  !path.holdsNul && (system.lookup path).isOk

def readBytes (system : FileSystem) (path : Path) : Except Fault (List UInt8) :=
  if path.holdsNul then .error .nulInPath
  else match system.lookup path with
    | .ok (.file bytes) => .ok bytes
    | .ok .directory => .error (.atPath .isDirectory path)
    | .error trouble => .error (.atPath trouble path)

def putIn (place : Location) (node : Node) : List (Location × Node) → List (Location × Node)
  | [] => [(place, node)]
  | entry :: rest =>
      if entry.1 = place then (place, node) :: rest else entry :: putIn place node rest

def put (system : FileSystem) (place : Location) (node : Node) : FileSystem :=
  { system with nodes := putIn place node system.nodes }

/-- Writes a whole file. The directory it stands in must exist. -/
def writeBytes (system : FileSystem) (path : Path) (bytes : List UInt8) :
    Except Fault FileSystem :=
  if path.holdsNul then .error .nulInPath
  else match system.locate path with
    | .error trouble => .error (.atPath trouble path)
    | .ok place =>
        match system.node? place with
        | some .directory => .error (.atPath .isDirectory path)
        | _ => .ok (system.put place (.file bytes))

def makeDirectory (system : FileSystem) (path : Path) : Except Fault FileSystem :=
  if path.holdsNul then .error .nulInPath
  else match system.locate path with
    | .error trouble => .error (.atPath trouble path)
    | .ok place =>
        match system.node? place with
        | some _ => .error (.atPath .alreadyExists path)
        | none => .ok (system.put place .directory)

/-- A file system after a change, and the fault that cut the change short. -/
structure Changed where
  system : FileSystem
  fault : Option Fault := none
  deriving DecidableEq, Repr

/-- Making a directory that is already there is a fault, unless `tolerant`. -/
def settle (system : FileSystem) (path : Path) (tolerant : Bool) (fault : Fault) : Changed :=
  match fault with
  | .atPath .absent _ => ⟨system, some fault⟩
  | _ => if tolerant && system.isDirectory path then ⟨system, none⟩ else ⟨system, some fault⟩

/-- Makes a directory, first making those above it where one is missing. The parts come in
reverse order. What has been made stays, whatever happens after. -/
def makeAbove (anchor : Path.Anchor) (tolerant : Bool) :
    (reversed : List Text) → FileSystem → Changed
  | [], system =>
      match system.makeDirectory ⟨anchor, []⟩ with
      | .ok made => ⟨made, none⟩
      | .error fault => settle system ⟨anchor, []⟩ tolerant fault
  | part :: above, system =>
      let path : Path := ⟨anchor, (part :: above).reverse⟩
      match system.makeDirectory path with
      | .ok made => ⟨made, none⟩
      | .error (.atPath .absent _) =>
          let prepared := makeAbove anchor true above system
          match prepared.fault with
          | some _ => prepared
          | none =>
              match prepared.system.makeDirectory path with
              | .ok made => ⟨made, none⟩
              | .error fault => settle prepared.system path tolerant fault
      | .error fault => settle system path tolerant fault

def makeDirectories (system : FileSystem) (path : Path) (tolerant : Bool) : Changed :=
  makeAbove path.anchor tolerant path.parts.reverse system

def fileCount (system : FileSystem) : Nat :=
  system.nodes.length

end FileSystem

end SceneNotation
