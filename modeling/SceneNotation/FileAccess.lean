import SceneNotation.Bindings
import SceneNotation.FileSystem
import SceneNotation.Log
import SceneNotation.Text.Encoding
import SceneNotation.Text.Newline

/- The capability through which included files are reached. A compiler holds one or
   holds none; it never touches a file system itself. Two are given here: files held
   in memory, and files below a directory of a file system. -/
namespace SceneNotation

inductive ReadFault where
  /-- The access reports a failure in its own words. -/
  | reported (message : Text)
  | file (fault : FileSystem.Fault)
  | undecodable (fault : Text.DecodeFault)
  | encodingName (fault : Text.Encoding.NameFault)
  deriving DecidableEq, Repr

namespace ReadFault

def message : ReadFault → Text
  | .reported message => message
  | .file fault => fault.message
  | .undecodable fault => fault.message
  | .encodingName fault => fault.message

/-- Whether the fault lies with the file. The rest lie with the request and stop a compilation
without a diagnostic. -/
def isOfFile : ReadFault → Bool
  | .reported _ | .undecodable (.atBytes _ _ _ _ _) => true
  | .file (.atPath _ _) => true
  | .undecodable (.unplaced _) | .file .nulInPath | .encodingName _ => false

end ReadFault

/-- `size` is the number of texts that the access lays claim to. What it announces is never a
warning: those are for the notation alone. -/
structure FileAccess where
  contains : Text → Bool
  read : Text → Except ReadFault Text
  announce : Text → Log := fun _ => []
  announcesNotes : ∀ path message, .warning message ∉ announce path := by simp
  size : Nat

namespace FileAccess

/-- Files held in memory, found by their exact name. -/
def ofBindings (files : Bindings (Except ReadFault Text)) : FileAccess where
  contains := files.binds
  read path := (files.find? path).getD (.error (.reported []))
  size := files.entries.length

end FileAccess

/-- The files below a directory. A path that is not absolute starts there. -/
structure LocalFiles where
  system : FileSystem
  root : Path := {}
  encoding : Text := "utf-8".toList
  codecs : Text.Codecs := Text.Encoding.codec?

/-- The file is opened before its encoding is looked up. -/
def FileSystem.readText (system : FileSystem) (codecs : Text.Codecs) (encoding : Text) (path : Path) :
    Except ReadFault Text :=
  if Text.Encoding.nameHoldsNul encoding then .error (.encodingName .holdsNul)
  else match system.readBytes path with
    | .error fault => .error (.file fault)
    | .ok bytes =>
        match codecs encoding with
        | none => .error (.encodingName (.unknown encoding))
        | some codec =>
            match codec.decode bytes with
            | .error fault => .error (.undecodable fault)
            | .ok text => .ok (Text.unifyNewlines text)

namespace LocalFiles

def resolve (files : LocalFiles) (path : Text) : Path :=
  files.root.join (.ofText path)

def contains (files : LocalFiles) (path : Text) : Bool :=
  files.system.isFile (files.resolve path)

def read (files : LocalFiles) (path : Text) : Except ReadFault Text :=
  files.system.readText files.codecs files.encoding (files.resolve path)

def announce (files : LocalFiles) (path : Text) : Log :=
  [.note 3 ("Reading include ".toList ++ (files.resolve path).text)]

def describe (files : LocalFiles) : Text :=
  "LocalFileAccess(root='".toList ++ files.root.text ++ "')".toList

def access (files : LocalFiles) : FileAccess where
  contains := files.contains
  read := files.read
  announce := files.announce
  announcesNotes := by simp [announce]
  size := files.system.fileCount

end LocalFiles

end SceneNotation
