import SceneNotation.CommandLine.Stage

/- A run is all that one call of the command line does: what it prints, what it
   complains about, what it logs, how it ends, and the file system it leaves. -/
namespace SceneNotation.CommandLine

/-- `completed` holds the job after each stage that handed it on. -/
structure Run where
  system : FileSystem
  printed : Text := []
  complaint : Text := []
  log : Log := []
  completed : List Job := []
  ending : Ending := .exit 0
  deriving DecidableEq, Repr

def runStages (host : Host) (settings : Settings) : List Stage → FileSystem → Job → Run
  | [], system, _ => { system }
  | stage :: rest, system, job =>
      let passage := stage.pass host settings system job
      match passage.next with
      | .error ending =>
          { system := passage.system, complaint := passage.complaint, log := passage.log, ending }
      | .ok job =>
          let run := runStages host settings rest passage.system job
          { run with
            complaint := passage.complaint ++ run.complaint
            log := passage.log ++ run.log
            completed := job :: run.completed }

def refuse (system : FileSystem) (refusal : Refusal) : Run where
  system
  complaint := usage ++ "scenedown: error: ".toList ++ refusal.message ++ ['\n']
  ending := .exit 2

def notDirectory (system : FileSystem) (path : Path) : Run where
  system
  complaint := "Not a directory: ".toList ++ path.text ++ ['\n']
  ending := .exit 1

/-- There is no job without two directories. -/
def Job.ofArguments? (arguments : Arguments) : Option Job :=
  match arguments.inputDirectory, arguments.outputDirectory with
  | some inputDirectory, some outputDirectory =>
      some
        { inputDirectory := .ofText inputDirectory
          outputDirectory := .ofText outputDirectory
          verbosity := arguments.verbosity
          inputFile := match arguments.inputFile with
            | some name => .text name
            | none => .dropped
          outputFile := arguments.outputFile }
  | _, _ => none

def runIn (host : Host) (settings : Settings) (system : FileSystem) (job : Job) : Run :=
  if system.isDirectory job.inputDirectory then
    let run := runStages host settings Stage.all system job
    { run with log := run.log.shown (some job.verbosity) }
  else notDirectory system job.inputDirectory

/-- The output directory is seen to before the input directory is looked at. -/
def runJob (host : Host) (settings : Settings) (system : FileSystem) (job : Job) : Run :=
  if system.isDirectory job.outputDirectory then runIn host settings system job
  else if system.contains job.outputDirectory then notDirectory system job.outputDirectory
  else
    let changed := system.makeDirectories job.outputDirectory false
    match changed.fault with
    | some fault => { system := changed.system, ending := .crash (.file fault) }
    | none => runIn host settings changed.system job

def run (host : Host) (settings : Settings) (system : FileSystem) (arguments : List Text) : Run :=
  match host.readArguments arguments with
  | .ok arguments =>
      match Job.ofArguments? arguments with
      | some job => runJob host settings system job
      | none => { system, ending := .crash .noDirectory }
  | .error .help => { system, printed := helpPage }
  | .error .version => { system, printed := versionLine }
  | .error (.refused refusal) => refuse system refusal

end SceneNotation.CommandLine
