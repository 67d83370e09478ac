import SceneNotation.CommandLine.Run
import SceneNotation.Settings.Reading

/- Loads what a run can ask for into a file system value, performs the run on it,
   and carries out the changes. Nothing is decided here: which files there are to
   load is read off the arguments and the texts, and everything else is in `run`. -/
namespace SceneNotation.Program

/-- The two codes under which a directory refuses to be read as a file. -/
def isDirectoryCode (code : UInt32) : Bool :=
  code == 21 || code == 4294967275

def probe (path : Path) : IO (Option Node) := do
  try
    let bytes ← IO.FS.readBinFile (String.ofList path.text)
    return some (.file bytes.toList)
  catch error =>
    match error with
    | .inappropriateType _ code _ => return if isDirectoryCode code then some .directory else none
    | _ => return none

/-- Loads what stands at a path, if anything does and its place is known. -/
def loadPlace (system : FileSystem) (path : Path) : IO FileSystem := do
  match system.locate path with
  | .error _ => return system
  | .ok place =>
      match ← probe path with
      | some node => return system.put place node
      | none => return system

/-- Loads a path and everything on the way to it. -/
def loadPath (system : FileSystem) (path : Path) : IO FileSystem :=
  (List.range path.parts.length).foldlM
    (fun system n => loadPlace system { path with parts := path.parts.take (n + 1) }) system

/-- Loads a source and the files that it and they mention. -/
partial def loadSource (settings : Settings) (source : Path) (system : FileSystem)
    (waiting seen : List Path) : IO FileSystem := do
  match waiting with
  | [] => return system
  | path :: waiting =>
      if seen.contains path then loadSource settings source system waiting seen
      else
        let system ← loadPath system path
        let mentioned := match system.readText Text.Encoding.codec? settings.encoding path with
          | .ok text => mentionedPaths text
          | .error _ => []
        let found := mentioned.map fun name => source.parent.join (.ofText name)
        loadSource settings source system (found ++ waiting) (path :: seen)

def loadJob (settings : Settings) (system : FileSystem) (job : CommandLine.Job) :
    IO FileSystem := do
  let system ← loadPath system job.inputDirectory
  let system ← loadPath system job.outputDirectory
  match job.inputFile with
  | .absent | .dropped => return system
  | .text inputFile =>
      let source := job.inputDirectory.join (.ofText inputFile)
      let system ← loadSource settings source system [source] []
      match CommandLine.targetName settings inputFile job.outputFile with
      | .ok name => loadPath system (job.outputDirectory.join (.ofText name))
      | .error _ => return system

def load (settings : Settings) (arguments : List Text) (system : FileSystem) : IO FileSystem :=
  match CommandLine.readArguments arguments with
  | .ok arguments =>
      match CommandLine.Job.ofArguments? arguments with
      | some job => loadJob settings system job
      | none => return system
  | .error _ => return system

def store (before after : FileSystem) : IO Unit := do
  for (place, node) in after.nodes do
    if before.node? place != some node then
      let path := String.ofList (Path.text ⟨.root, place.parts⟩)
      match node with
      | .directory => IO.FS.createDir path
      | .file bytes => IO.FS.writeBinFile path bytes.toByteArray

def readEnvironment : IO (List (Text × Text)) := do
  let mut found := []
  for field in Settings.Field.all do
    let name := (({} : Settings.Lookup).variableName field).map Char.toUpper
    if let some value ← IO.getEnv (String.ofList name) then
      found := found ++ [(name, value.toList)]
  return found

def printLog (log : Log) : IO Unit :=
  for entry in log do
    IO.eprintln (String.ofList entry.message)

def finish (run : CommandLine.Run) : IO UInt32 := do
  IO.print (String.ofList run.printed)
  printLog run.log
  IO.eprint (String.ofList run.complaint)
  match run.ending with
  | .exit code => return code.toUInt32
  | .crash crash =>
      IO.eprintln (String.ofList crash.message)
      return 1

def start (settings : Settings) (arguments : List Text) : IO UInt32 := do
  let here := Path.ofText (toString (← IO.currentDir)).toList
  let top : FileSystem := { workingDirectory := .ofParts here.parts }
  let system ← load settings arguments (← loadPath top here)
  let run := CommandLine.run {} settings system arguments
  store system run.system
  finish run

end SceneNotation.Program

open SceneNotation in
def main (arguments : List String) : IO UInt32 := do
  match Settings.read [] (← Program.readEnvironment) with
  | .ok settings => Program.start settings (arguments.map String.toList)
  | .error (.unusable fault) =>
      IO.eprintln (String.ofList fault.message)
      return 1
  | .error (.invalid faults) =>
      for fault in faults do
        IO.eprintln (String.ofList (fault.name ++ ": ".toList ++ fault.problem.message))
      return 1
