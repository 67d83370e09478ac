import SceneNotation.CommandLine.Arguments
import SceneNotation.CommandLine.Texts
import SceneNotation.Compilation
import SceneNotation.Highlight.Terminal

/- A run passes a job through four stages: finding the files, reading the source,
   compiling it and writing the script, and reporting. A stage hands on the job,
   ends the run with an exit code, or crashes. What it wrote to the file system
   before that stays written. -/
namespace SceneNotation.CommandLine

/-- A file that could be opened takes only so many of the bytes that are to be stored in it. -/
structure Shortage where
  stored : Nat
  code : Nat
  description : Text
  deriving DecidableEq, Repr

def Shortage.message (shortage : Shortage) : Text :=
  FileSystem.errorText shortage.code shortage.description

/-- What a run has around it besides the files: how arguments are read, which codecs there are,
and what keeps bytes from being stored. -/
structure Host where
  readArguments : List Text → Except Stop Arguments := CommandLine.readArguments
  codecs : Text.Codecs := Text.Encoding.codec?
  shortage? : Path → List UInt8 → Option Shortage := fun _ _ => none

/-- A name that a job may have been given. -/
inductive GivenName where
  | text (name : Text)
  | absent
  /-- A double dash was given and dropped. -/
  | dropped
  deriving DecidableEq, Repr

structure Job where
  inputDirectory : Path := {}
  outputDirectory : Path := {}
  verbosity : Int := 1
  inputFile : GivenName := .text []
  outputFile : Option Text := none
  ready : Bool := false
  source : Path := .root
  target : Path := .root
  sourceText : Option Text := none
  outcome : Option Outcome := none
  deriving DecidableEq, Repr

/-- A failure that no stage reports. -/
inductive Crash where
  | compiling (breakdown : Breakdown)
  | naming (fault : Path.SuffixFault)
  | file (fault : FileSystem.Fault)
  | reading (fault : ReadFault)
  | encoding (fault : Text.EncodeFault)
  | encodingName (fault : Text.Encoding.NameFault)
  /-- A directory was to be named and nothing was given. -/
  | noDirectory
  | inputAbsent
  | inputDropped
  deriving DecidableEq, Repr

def Crash.message : Crash → Text
  | .compiling breakdown => breakdown.message
  | .naming fault => fault.message
  | .file fault => fault.message
  | .reading fault => fault.message
  | .encoding fault => fault.message
  | .encodingName fault => fault.message
  | .noDirectory => "expected str, bytes or os.PathLike object, not list".toList
  | .inputAbsent => "unsupported operand type(s) for /: 'PosixPath' and 'NoneType'".toList
  | .inputDropped => "unsupported operand type(s) for /: 'PosixPath' and 'list'".toList

inductive Ending where
  | exit (code : Nat)
  | crash (crash : Crash)
  deriving DecidableEq, Repr

/-- What a stage leaves behind. `complaint` is what it wrote for the user to see. -/
structure Passage where
  system : FileSystem
  complaint : Text := []
  log : Log := []
  next : Except Ending Job

namespace Passage

def logging (entries : Log) (passage : Passage) : Passage :=
  { passage with log := entries ++ passage.log }

def complaining (text : Text) (passage : Passage) : Passage :=
  { passage with complaint := text ++ passage.complaint }

end Passage

def handOn (system : FileSystem) (job : Job) (log : Log) : Passage :=
  { system, log, next := .ok job }

def giveUp (system : FileSystem) (complaint : Text) : Passage :=
  { system, complaint := complaint ++ ['\n'], next := .error (.exit 1) }

def crashed (system : FileSystem) (crash : Crash) : Passage :=
  { system, next := .error (.crash crash) }

def note (level : Int) (message : String) (detail : Text) : Log :=
  [.note level (message.toList ++ detail)]

/-- The name asked for, or the input's with the suffix of the settings. An empty name counts as
none asked for. -/
def targetName (settings : Settings) (inputFile : Text) (outputFile : Option Text) :
    Except Path.SuffixFault Text :=
  match outputFile with
  | some (c :: name) => .ok (c :: name)
  | _ => (Path.ofText inputFile).nameWithSuffix settings.outputSuffix

def prepareTarget (system : FileSystem) (job : Job) (name : Text) : Passage :=
  let target := job.outputDirectory.join (.ofText name)
  let changed := system.makeDirectories target.parent true
  match changed.fault with
  | some fault => crashed changed.system (.file fault)
  | none =>
      handOn changed.system { job with target := target, ready := true }
        (note 2 "Output file: " target.text)

def findSource (settings : Settings) (system : FileSystem) (job : Job) (inputFile : Text) :
    Passage :=
  let source := job.inputDirectory.join (.ofText inputFile)
  if system.isFile source then
    let passage := match targetName settings inputFile job.outputFile with
      | .error fault => crashed system (.naming fault)
      | .ok name => prepareTarget system { job with source := source } name
    passage.logging (note 2 "Input file: " source.text)
  else giveUp system ("Error: Input file not found: ".toList ++ source.text)

def findFiles (settings : Settings) (system : FileSystem) (job : Job) : Passage :=
  let passage := match job.inputFile with
    | .text name => findSource settings system job name
    | .absent => crashed system .inputAbsent
    | .dropped => crashed system .inputDropped
  passage.logging
    ((if 2 ≤ job.verbosity then [.note 2 banner] else []) ++ note 2 "Checking environment..." [])

def readSource (host : Host) (settings : Settings) (system : FileSystem) (job : Job) : Passage :=
  let passage := match system.readText host.codecs settings.encoding job.source with
    | .ok text =>
        handOn system { job with sourceText := some text }
          (note 2 "Read " (Text.ofNat text.length ++ " characters from ".toList ++ job.source.name))
    | .error fault =>
        if fault.isOfFile then giveUp system ("Error reading input file: ".toList ++ fault.message)
        else crashed system (.reading fault)
  passage.logging (note 1 "Reading source file..." [])

/-- Opens a file, which empties it, stores the bytes, and goes on with what is then there. -/
def storing (system : FileSystem) (path : Path) (bytes : List UInt8) (next : FileSystem → Passage) :
    Passage :=
  match system.writeBytes path bytes with
  | .error .nulInPath => crashed system (.file .nulInPath)
  | .error fault => giveUp system ("Error writing output file: ".toList ++ fault.message)
  | .ok stored => next stored

/-- The file is open before the text is encoded, so whatever then goes wrong has emptied it. -/
def writeScript (host : Host) (settings : Settings) (system : FileSystem) (job : Job) (script : Text) :
    Passage :=
  if Text.Encoding.nameHoldsNul settings.encoding then crashed system (.encodingName .holdsNul)
  else match host.codecs settings.encoding with
    | none =>
        storing system job.target [] fun emptied =>
          crashed emptied (.encodingName (.unknown settings.encoding))
    | some codec =>
        match codec.encode script with
        | .error fault => storing system job.target [] fun emptied => crashed emptied (.encoding fault)
        | .ok bytes =>
            match host.shortage? job.target bytes with
            | none =>
                storing system job.target bytes fun written =>
                  handOn written job (note 2 "Wrote " job.target.text)
            | some shortage =>
                storing system job.target (bytes.take shortage.stored) fun cut =>
                  giveUp cut ("Error writing output file: ".toList ++ shortage.message)

def showDiagnostic (diagnostic : Diagnostic) : Text :=
  "Compilation error: ".toList ++ diagnostic.message ++ ['\n'] ++
    match diagnostic.source with
    | some source => Highlight.painted source
    | none => []

/-- A listener of verbosity one or more has been shown the warnings already. -/
def showWarnings (job : Job) (warnings : List Warning) : Text :=
  if job.verbosity < 1 then warnings.flatMap fun warning => warning.message ++ ['\n'] else []

def useOutcome (host : Host) (settings : Settings) (system : FileSystem) (job : Job)
    (outcome : Outcome) : Passage :=
  let job := { job with outcome := some outcome }
  let passage := match outcome with
    | .compiled script _ => writeScript host settings system job script
    | .rejected diagnostic _ =>
        { system, complaint := showDiagnostic diagnostic, next := .error (.exit 1) }
  passage.complaining (showWarnings job outcome.warnings)

def compileSource (host : Host) (settings : Settings) (system : FileSystem) (job : Job) : Passage :=
  let passage := match job.sourceText with
    | none => giveUp system "Error: No source text available".toList
    | some text =>
        let files : LocalFiles := ⟨system, job.source.parent, settings.encoding, host.codecs⟩
        let compilation := compile settings (some files.access) text
        let passage := match compilation.outcome with
          | .error breakdown => crashed system (.compiling breakdown)
          | .ok outcome => useOutcome host settings system job outcome
        passage.logging compilation.log
  passage.logging (note 1 "Compiling scenario..." [])

def resultLog (job : Job) (outcome : Outcome) : Log :=
  note 1 "\n✓ Compilation successful!" [] ++
    note 1 "  Output: " job.target.text ++
    note 1 "  Lines: " (Text.ofNat (outcome.script.count '\n')) ++
    note 1 "  Warnings: " (Text.ofNat outcome.warnings.length)

def reportResult (system : FileSystem) (job : Job) : Passage :=
  match job.outcome with
  | none => giveUp system "Error: Compilation failed".toList
  | some outcome => handOn system job (if 1 ≤ job.verbosity then resultLog job outcome else [])

inductive Stage where
  | findFiles
  | readSource
  | compileSource
  | reportResult
  deriving DecidableEq, Repr

namespace Stage

def all : List Stage := [.findFiles, .readSource, .compileSource, .reportResult]

def pass (stage : Stage) (host : Host) (settings : Settings) (system : FileSystem) (job : Job) :
    Passage :=
  match stage with
  | .findFiles => CommandLine.findFiles settings system job
  | .readSource => CommandLine.readSource host settings system job
  | .compileSource => CommandLine.compileSource host settings system job
  | .reportResult => CommandLine.reportResult system job

end Stage

end SceneNotation.CommandLine
