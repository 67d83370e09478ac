import SceneNotation.CommandLine.Run
import SceneNotation.Proofs.Alphabet
import SceneNotation.Proofs.Storage
import SceneNotation.Proofs.Warning

/- A run comes to write exactly if its source compiles, and then it knows the whole
   script. Up to there it makes directories and touches no file. The target is
   opened, and so emptied, before the script is encoded and stored: a script that
   cannot be encoded leaves it empty, and one that cannot be stored in full leaves
   the part that was. With a faithful codec and an indent unit that it can write
   there is no script of the first kind, as the source was read with the same codec. -/
namespace SceneNotation.CommandLine

open FileSystem (AddsDirectories)

/-- Every stage handed the job on. -/
def Run.Finished (run : Run) : Prop :=
  run.completed.length = Stage.all.length

instance (run : Run) : Decidable run.Finished :=
  inferInstanceAs (Decidable (_ = _))

def Job.sourceAt (job : Job) (name : Text) : Path :=
  job.inputDirectory.join (.ofText name)

def Job.targetAt (job : Job) (name : Text) : Path :=
  job.outputDirectory.join (.ofText name)

/-- What the arguments ask for. -/
structure Errand (host : Host) (settings : Settings) (arguments : List Text) where
  given : Arguments
  job : Job
  inputName : Text
  outputName : Text
  read : host.readArguments arguments = .ok given
  asked : Job.ofArguments? given = some job
  namesInput : job.inputFile = .text inputName
  namesOutput : targetName settings inputName job.outputFile = .ok outputName

namespace Errand

variable {host : Host} {settings : Settings} {arguments : List Text}

def source (errand : Errand host settings arguments) : Path :=
  errand.job.sourceAt errand.inputName

def target (errand : Errand host settings arguments) : Path :=
  errand.job.targetAt errand.outputName

end Errand

/-- A directory is there, or has been made where nothing was. -/
inductive Provides (system : FileSystem) (path : Path) : FileSystem → Prop
  | there (found : system.isDirectory path = true) : Provides system path system
  | made {opened : FileSystem} (absent : system.contains path = false)
      (makes : system.makeDirectories path false = ⟨opened, none⟩) : Provides system path opened

/-- What a run has in hand when it comes to write: the file system once the directories are there,
and the script that the source compiles to in it. -/
structure Delivery (host : Host) (settings : Settings) (system : FileSystem) (arguments : List Text) extends
    Errand host settings arguments where
  opened : FileSystem
  prepared : FileSystem
  codec : Text.Codec
  text : Text
  script : Text
  warnings : List Warning
  provides : Provides system job.outputDirectory opened
  entered : opened.isDirectory job.inputDirectory = true
  found : opened.isFile toErrand.source = true
  prepares : opened.makeDirectories toErrand.target.parent true = ⟨prepared, none⟩
  known : host.codecs settings.encoding = some codec
  reads : prepared.readText host.codecs settings.encoding toErrand.source = .ok text
  compiles : (compile settings (some (LocalFiles.access
    ⟨prepared, toErrand.source.parent, settings.encoding, host.codecs⟩)) text).outcome =
      .ok (.compiled script warnings)

/-- What a target that could be opened is left with, and how the run ends, if the script cannot be
encoded or not be stored in full. -/
inductive Delivery.Spoils {host : Host} {settings : Settings} {system : FileSystem} {arguments : List Text}
    (delivery : Delivery host settings system arguments) : List UInt8 → Ending → Prop
  | unencodable {fault : Text.EncodeFault} (encodes : delivery.codec.encode delivery.script = .error fault) :
      delivery.Spoils [] (.crash (.encoding fault))
  | cutShort {bytes : List UInt8} {shortage : Shortage}
      (encodes : delivery.codec.encode delivery.script = .ok bytes)
      (short : host.shortage? delivery.target bytes = some shortage) :
      delivery.Spoils (bytes.take shortage.stored) (.exit 1)

/-- A stage ends the run for another reason than the encoding, and has added directories at most. -/
structure Passage.Stops (system : FileSystem) (passage : Passage) : Prop where
  ends : ∃ ending, passage.next = .error ending ∧ ∀ fault, ending ≠ .crash (.encoding fault)
  adds : AddsDirectories system passage.system

/-- A run over the stages ends early for another reason than the encoding, and has added
directories at most. -/
structure Run.Abandons (stages : List Stage) (system : FileSystem) (run : Run) : Prop where
  short : run.completed.length < stages.length
  ending : ∀ fault, run.ending ≠ .crash (.encoding fault)
  adds : AddsDirectories system run.system

/-- So many stages were handed on, and the rest of the run is the later one. -/
structure Run.Continues (count : Nat) (run later : Run) : Prop where
  system : run.system = later.system
  ending : run.ending = later.ending
  completed : run.completed.length = later.completed.length + count

theorem Run.Continues.trans {first second : Nat} {run middle later : Run}
    (one : run.Continues first middle) (other : middle.Continues second later) :
    run.Continues (second + first) later where
  system := one.system.trans other.system
  ending := one.ending.trans other.ending
  completed := by rw [one.completed, other.completed, Nat.add_assoc]

theorem Run.Abandons.unstarted {system : FileSystem} {run : Run} (unstarted : run.completed = [])
    (ending : ∀ fault, run.ending ≠ .crash (.encoding fault)) (adds : AddsDirectories system run.system) :
    run.Abandons Stage.all system where
  short := by
    rw [unstarted]
    decide
  ending := ending
  adds := adds

theorem Run.Abandons.before {count : Nat} {run later : Run} {stages all : List Stage}
    {system after : FileSystem} (abandons : later.Abandons stages after)
    (continues : run.Continues count later) (counted : all.length = stages.length + count)
    (adds : AddsDirectories system after) : run.Abandons all system where
  short := by
    rw [continues.completed, counted]
    exact Nat.add_lt_add_right abandons.short count
  ending := by
    rw [continues.ending]
    exact abandons.ending
  adds := by
    rw [continues.system]
    exact adds.trans abandons.adds

theorem giveUp_stops (system : FileSystem) (complaint : Text) : (giveUp system complaint).Stops system :=
  ⟨⟨_, rfl, by simp⟩, .refl system⟩

theorem crashed_stops {before system : FileSystem} (adds : AddsDirectories before system) {crash : Crash}
    (other : ∀ fault, crash ≠ .encoding fault) : (crashed system crash).Stops before :=
  ⟨⟨_, rfl, fun fault same => other fault (Ending.crash.inj same)⟩, adds⟩

theorem Passage.Stops.logging {system : FileSystem} {passage : Passage} (stops : passage.Stops system)
    (entries : Log) : (passage.logging entries).Stops system :=
  ⟨stops.ends, stops.adds⟩

section Stages

variable {host : Host} {settings : Settings} {system : FileSystem} {stage : Stage} {rest : List Stage}
  {job next : Job}

variable (stage rest) in
theorem runStages_of_stops (stops : (stage.pass host settings system job).Stops system) :
    (runStages host settings (stage :: rest) system job).Abandons (stage :: rest) system := by
  obtain ⟨⟨ending, ends, other⟩, adds⟩ := stops
  simp only [runStages, ends]
  exact ⟨Nat.succ_pos _, other, adds⟩

variable (stage rest) in
theorem runStages_of_error {ending : Ending}
    (ends : (stage.pass host settings system job).next = .error ending) :
    (runStages host settings (stage :: rest) system job).system =
        (stage.pass host settings system job).system ∧
      (runStages host settings (stage :: rest) system job).ending = ending ∧
      (runStages host settings (stage :: rest) system job).completed = [] := by
  simp only [runStages, ends, and_self]

variable (stage rest) in
theorem runStages_continues {after : FileSystem} (left : (stage.pass host settings system job).system = after)
    (hands : (stage.pass host settings system job).next = .ok next) :
    (runStages host settings (stage :: rest) system job).Continues 1
      (runStages host settings rest after next) := by
  subst left
  simp only [runStages, hands]
  exact ⟨rfl, rfl, rfl⟩

def Job.directed (job : Job) (source target : Path) : Job :=
  { job with source := source, target := target, ready := true }

variable (settings system) in
theorem findFiles_of_named {inputName : Text} (named : job.inputFile = .text inputName) :
    ∃ log, findFiles settings system job = (findSource settings system job inputName).logging log := by
  unfold findFiles
  rw [named]
  exact ⟨_, rfl⟩

theorem findFiles_of_found {inputName outputName : Text} {prepared : FileSystem}
    (named : job.inputFile = .text inputName)
    (found : system.isFile (job.sourceAt inputName) = true)
    (targeted : targetName settings inputName job.outputFile = .ok outputName)
    (prepares : system.makeDirectories (job.targetAt outputName).parent true = ⟨prepared, none⟩) :
    (findFiles settings system job).system = prepared ∧
      (findFiles settings system job).next =
        .ok (job.directed (job.sourceAt inputName) (job.targetAt outputName)) := by
  obtain ⟨log, same⟩ := findFiles_of_named settings system named
  unfold Job.sourceAt at found
  unfold Job.targetAt at prepares
  rw [same]
  simp only [findSource, found, targeted, prepareTarget, prepares, Passage.logging, handOn, if_true,
    true_and]
  rfl

variable (settings system job) in
theorem findFiles_stops_or_found :
    (findFiles settings system job).Stops system ∨
      ∃ inputName outputName prepared, job.inputFile = .text inputName ∧
        system.isFile (job.sourceAt inputName) = true ∧
        targetName settings inputName job.outputFile = .ok outputName ∧
        system.makeDirectories (job.targetAt outputName).parent true = ⟨prepared, none⟩ := by
  cases named : job.inputFile with
  | absent =>
      left
      unfold findFiles
      rw [named]
      exact (crashed_stops (.refl system) (by simp)).logging _
  | dropped =>
      left
      unfold findFiles
      rw [named]
      exact (crashed_stops (.refl system) (by simp)).logging _
  | text inputName =>
      obtain ⟨log, same⟩ := findFiles_of_named settings system named
      rw [same]
      unfold findSource
      by_cases found : system.isFile (job.inputDirectory.join (.ofText inputName)) = true
      · simp only [found, if_true]
        cases targeted : targetName settings inputName job.outputFile with
        | error fault =>
            left
            exact ((crashed_stops (.refl system) (by simp)).logging _).logging _
        | ok outputName =>
            cases made : (system.makeDirectories
              (job.outputDirectory.join (.ofText outputName)).parent true).fault with
            | none =>
                right
                exact ⟨inputName, outputName, _, rfl, found, targeted,
                  FileSystem.Changed.eq_of_faultless made⟩
            | some fault =>
                left
                simp only [prepareTarget, made]
                exact ((crashed_stops (FileSystem.makeDirectories_addsDirectories system _ true)
                  (by simp)).logging _).logging _
      · left
        simp only [found]
        exact (giveUp_stops system _).logging _

theorem readSource_of_read {text : Text}
    (reads : system.readText host.codecs settings.encoding job.source = .ok text) :
    (readSource host settings system job).system = system ∧
      (readSource host settings system job).next = .ok { job with sourceText := some text } := by
  simp only [readSource, reads, Passage.logging, handOn, and_self]

variable (host settings system job) in
theorem readSource_stops_or_read :
    (readSource host settings system job).Stops system ∨
      ∃ text, system.readText host.codecs settings.encoding job.source = .ok text := by
  cases reads : system.readText host.codecs settings.encoding job.source with
  | ok text => exact Or.inr ⟨text, rfl⟩
  | error fault =>
      left
      simp only [readSource, reads]
      split
      · exact (giveUp_stops system _).logging _
      · exact (crashed_stops (.refl system) (by simp)).logging _

theorem compileSource_of_compiled {text script : Text} {warnings : List Warning}
    (given : job.sourceText = some text)
    (compiles : (compile settings (some (siblings host settings system job).access) text).outcome =
      .ok (.compiled script warnings)) :
    let written := writeScript host settings system
      { job with outcome := some (.compiled script warnings) } script
    (compileSource host settings system job).system = written.system ∧
      (compileSource host settings system job).next = written.next := by
  rw [compileSource_of_returned given compiles]
  exact ⟨rfl, rfl⟩

variable (host settings system job) in
theorem compileSource_stops_or_compiled {text : Text} (given : job.sourceText = some text) :
    (compileSource host settings system job).Stops system ∨
      ∃ script warnings, (compile settings (some (siblings host settings system job).access) text).outcome =
        .ok (.compiled script warnings) := by
  cases returned : (compile settings (some (siblings host settings system job).access) text).outcome with
  | error breakdown =>
      left
      unfold siblings at returned
      simp only [compileSource, given, returned]
      exact ((crashed_stops (.refl system) (by simp)).logging _).logging _
  | ok outcome =>
      cases outcome with
      | compiled script warnings => exact Or.inr ⟨script, warnings, rfl⟩
      | rejected diagnostic warnings =>
          left
          rw [compileSource_of_returned given returned]
          exact ⟨⟨.exit 1, rfl, by simp⟩, .refl system⟩

theorem reportResult_of_outcome {outcome : Outcome} (returned : job.outcome = some outcome) :
    (reportResult system job).system = system ∧ (reportResult system job).next = .ok job := by
  simp only [reportResult, returned, handOn, and_self]

theorem storing_of_closed {path : Path} {bytes : List UInt8}
    (closed : ∀ stored, system.writeBytes path bytes ≠ .ok stored) (onward : FileSystem → Passage) :
    (storing system path bytes onward).Stops system := by
  unfold storing
  split
  · exact crashed_stops (.refl system) (by simp)
  · exact giveUp_stops system _
  · next stored stores => exact absurd stores (closed stored)

theorem storing_of_stored {path : Path} {bytes : List UInt8} {stored : FileSystem}
    (stores : system.writeBytes path bytes = .ok stored) (onward : FileSystem → Passage) :
    storing system path bytes onward = onward stored := by
  simp only [storing, stores]

theorem writeScript_of_closed {script : Text}
    (named : Text.Encoding.nameHoldsNul settings.encoding = false)
    (closed : ∀ bytes stored, system.writeBytes job.target bytes ≠ .ok stored) :
    (writeScript host settings system job script).Stops system := by
  simp only [writeScript, named, Bool.false_eq_true, if_false]
  repeat' split
  all_goals exact storing_of_closed (closed _) _

end Stages

section Whole

variable {host : Host} {settings : Settings} {system : FileSystem} {arguments : List Text}

theorem Provides.addsDirectories {opened : FileSystem} {path : Path}
    (provides : Provides system path opened) : AddsDirectories system opened := by
  cases provides with
  | there found => exact .refl system
  | made absent makes => exact .of_makes makes

theorem runJob_of_provides {job : Job} {opened : FileSystem}
    (provides : Provides system job.outputDirectory opened) :
    runJob host settings system job = runIn host settings opened job := by
  unfold runJob
  cases provides with
  | there found => rw [if_pos found]
  | made absent makes =>
      have missing : ¬ system.isDirectory job.outputDirectory = true := by
        intro directory
        rw [FileSystem.contains_of_isDirectory directory] at absent
        cases absent
      rw [if_neg missing, if_neg (by simp [absent])]
      simp only [makes]

theorem runIn_continues {job : Job} (entered : system.isDirectory job.inputDirectory = true) :
    (runIn host settings system job).Continues 0 (runStages host settings Stage.all system job) := by
  rw [runIn, if_pos entered]
  exact ⟨rfl, rfl, rfl⟩

namespace Delivery

variable (delivery : Delivery host settings system arguments)

theorem addsDirectories : AddsDirectories system delivery.prepared :=
  delivery.provides.addsDirectories.trans (.of_makes delivery.prepares)

def underway : Job :=
  { delivery.job.directed delivery.source delivery.target with sourceText := some delivery.text }

def compiled : Job :=
  { delivery.underway with outcome := some (.compiled delivery.script delivery.warnings) }

/-- Up to the writing, a run is what its delivery says. -/
theorem run_continues : (run host settings system arguments).Continues 2
    (runStages host settings [.compileSource, .reportResult] delivery.prepared delivery.underway) := by
  have started : run host settings system arguments = runIn host settings delivery.opened delivery.job := by
    unfold run
    simp only [delivery.read, delivery.asked, runJob_of_provides delivery.provides]
  obtain ⟨afterFinding, found⟩ := findFiles_of_found delivery.namesInput delivery.found
    delivery.namesOutput delivery.prepares
  obtain ⟨afterReading, read⟩ := readSource_of_read
    (show delivery.prepared.readText host.codecs settings.encoding
      (delivery.job.directed delivery.source delivery.target).source = .ok delivery.text
      from delivery.reads)
  rw [started]
  exact ((runIn_continues delivery.entered).trans
    (runStages_continues .findFiles _ afterFinding found)).trans
    (runStages_continues .readSource _ afterReading read)

theorem compileSource_writes :
    let written := writeScript host settings delivery.prepared delivery.compiled delivery.script
    (compileSource host settings delivery.prepared delivery.underway).system = written.system ∧
      (compileSource host settings delivery.prepared delivery.underway).next = written.next :=
  compileSource_of_compiled rfl delivery.compiles

include delivery in
theorem named : Text.Encoding.nameHoldsNul settings.encoding = false :=
  (FileSystem.readText_eq_ok delivery.reads).1

theorem run_of_stored {bytes : List UInt8} {written : FileSystem}
    (encodes : delivery.codec.encode delivery.script = .ok bytes)
    (room : host.shortage? delivery.target bytes = none)
    (writes : delivery.prepared.writeBytes delivery.target bytes = .ok written) :
    (run host settings system arguments).Finished ∧
      (run host settings system arguments).ending = .exit 0 ∧
      (run host settings system arguments).system = written := by
  obtain ⟨left, hands⟩ : (compileSource host settings delivery.prepared delivery.underway).system = written ∧
      (compileSource host settings delivery.prepared delivery.underway).next = .ok delivery.compiled := by
    rw [delivery.compileSource_writes.1, delivery.compileSource_writes.2]
    have target : delivery.compiled.target = delivery.target := rfl
    simp only [writeScript, delivery.named, delivery.known, encodes, target, room, storing_of_stored writes,
      handOn, Bool.false_eq_true, if_false, and_self]
  obtain ⟨kept, reported⟩ := reportResult_of_outcome (show delivery.compiled.outcome = some _ from rfl)
  have whole := (delivery.run_continues.trans (runStages_continues .compileSource _ left hands)).trans
    (runStages_continues .reportResult [] kept reported)
  exact ⟨whole.completed, whole.ending, whole.system⟩

variable {delivery} in
theorem Spoils.writeScript {left : List UInt8} {ending : Ending} {spoilt : FileSystem}
    (spoils : delivery.Spoils left ending)
    (stores : delivery.prepared.writeBytes delivery.target left = .ok spoilt) :
    (writeScript host settings delivery.prepared delivery.compiled delivery.script).system = spoilt ∧
      (writeScript host settings delivery.prepared delivery.compiled delivery.script).next =
        .error ending := by
  have target : delivery.compiled.target = delivery.target := rfl
  cases spoils with
  | unencodable encodes =>
      simp only [CommandLine.writeScript, delivery.named, delivery.known, encodes, target,
        storing_of_stored stores, crashed, Bool.false_eq_true, if_false, and_self]
  | cutShort encodes short =>
      simp only [CommandLine.writeScript, delivery.named, delivery.known, encodes, target, short,
        storing_of_stored stores, giveUp, Bool.false_eq_true, if_false, and_self]

theorem run_of_spoils {left : List UInt8} {ending : Ending} {spoilt : FileSystem}
    (spoils : delivery.Spoils left ending)
    (stores : delivery.prepared.writeBytes delivery.target left = .ok spoilt) :
    ¬ (run host settings system arguments).Finished ∧
      (run host settings system arguments).ending = ending ∧
      (run host settings system arguments).system = spoilt := by
  obtain ⟨stored, ends⟩ := spoils.writeScript stores
  rw [← delivery.compileSource_writes.1] at stored
  rw [← delivery.compileSource_writes.2] at ends
  obtain ⟨same, ended, completed⟩ := runStages_of_error .compileSource [.reportResult] ends
  have whole := delivery.run_continues
  refine ⟨?_, whole.ending.trans ended, whole.system.trans (same.trans stored)⟩
  rw [Run.Finished, whole.completed, completed]
  decide

theorem run_of_closed
    (closed : ∀ bytes stored, delivery.prepared.writeBytes delivery.target bytes ≠ .ok stored) :
    (run host settings system arguments).Abandons Stage.all system := by
  have stops : (compileSource host settings delivery.prepared delivery.underway).Stops delivery.prepared := by
    obtain ⟨ends, adds⟩ : (writeScript host settings delivery.prepared delivery.compiled
        delivery.script).Stops delivery.prepared := writeScript_of_closed delivery.named closed
    constructor
    · rw [delivery.compileSource_writes.2]
      exact ends
    · rw [delivery.compileSource_writes.1]
      exact adds
  exact (runStages_of_stops .compileSource [.reportResult] stops).before delivery.run_continues rfl
    delivery.addsDirectories

theorem encodes_of_writable (writable : ∀ codec, host.codecs settings.encoding = some codec →
      codec.Faithful ∧ ∃ bytes, codec.encode settings.indentUnit = .ok bytes) :
    ∃ bytes, delivery.codec.encode delivery.script = .ok bytes := by
  obtain ⟨⟨alphabet, spelled⟩, unit⟩ := writable delivery.codec delivery.known
  rw [spelled.encode_ok_iff] at unit ⊢
  refine compile_spelled ?_ (FileSystem.readText_spelled delivery.known spelled delivery.reads) unit
    spelled.feed delivery.compiles
  rintro path text ⟨access, same, _, reads⟩
  cases same
  exact FileSystem.readText_spelled delivery.known spelled reads

end Delivery

theorem runStages_abandon_or_compile (host : Host) (settings : Settings) (system : FileSystem) (job : Job) :
    (runStages host settings Stage.all system job).Abandons Stage.all system ∨
      ∃ inputName outputName prepared text script warnings, job.inputFile = .text inputName ∧
        targetName settings inputName job.outputFile = .ok outputName ∧
        system.isFile (job.sourceAt inputName) = true ∧
        system.makeDirectories (job.targetAt outputName).parent true = ⟨prepared, none⟩ ∧
        prepared.readText host.codecs settings.encoding (job.sourceAt inputName) = .ok text ∧
        (compile settings (some (LocalFiles.access
          ⟨prepared, (job.sourceAt inputName).parent, settings.encoding, host.codecs⟩)) text).outcome =
            .ok (.compiled script warnings) := by
  rcases findFiles_stops_or_found settings system job with
    stops | ⟨inputName, outputName, prepared, named, found, targeted, prepares⟩
  · exact Or.inl (runStages_of_stops .findFiles _ stops)
  obtain ⟨afterFinding, directed⟩ := findFiles_of_found named found targeted prepares
  have finding : (runStages host settings Stage.all system job).Continues 1 _ :=
    runStages_continues .findFiles [.readSource, .compileSource, .reportResult] afterFinding directed
  have adds : AddsDirectories system prepared := .of_makes prepares
  rcases readSource_stops_or_read host settings prepared
    (job.directed (job.sourceAt inputName) (job.targetAt outputName)) with stops | ⟨text, reads⟩
  · exact Or.inl ((runStages_of_stops .readSource _ stops).before finding rfl adds)
  obtain ⟨afterReading, underway⟩ := readSource_of_read reads
  have reading := runStages_continues .readSource [.compileSource, .reportResult] afterReading underway
  have given : ({ job.directed (job.sourceAt inputName) (job.targetAt outputName) with
    sourceText := some text } : Job).sourceText = some text := rfl
  rcases compileSource_stops_or_compiled host settings prepared _ given with
    stops | ⟨script, warnings, compiles⟩
  · exact Or.inl ((runStages_of_stops .compileSource _ stops).before (finding.trans reading) rfl adds)
  exact Or.inr ⟨inputName, outputName, prepared, text, script, warnings, named, targeted, found, prepares,
    reads, compiles⟩

theorem runJob_abandons_or_provides (host : Host) (settings : Settings) (system : FileSystem) (job : Job) :
    (runJob host settings system job).Abandons Stage.all system ∨
      ∃ opened, Provides system job.outputDirectory opened := by
  by_cases found : system.isDirectory job.outputDirectory = true
  · exact Or.inr ⟨system, .there found⟩
  · unfold runJob
    rw [if_neg found]
    cases occupied : system.contains job.outputDirectory with
    | true => exact Or.inl (.unstarted rfl (by simp [notDirectory]) (.refl system))
    | false =>
        cases made : (system.makeDirectories job.outputDirectory false).fault with
        | none => exact Or.inr ⟨_, .made occupied (FileSystem.Changed.eq_of_faultless made)⟩
        | some fault =>
            left
            simp only [made]
            exact .unstarted rfl (by simp) (FileSystem.makeDirectories_addsDirectories system _ false)

theorem run_abandons_or_delivers (host : Host) (settings : Settings) (system : FileSystem)
    (arguments : List Text) :
    (run host settings system arguments).Abandons Stage.all system ∨
      Nonempty (Delivery host settings system arguments) := by
  cases read : host.readArguments arguments with
  | error answer =>
      left
      unfold run
      simp only [read]
      cases answer with
      | help => exact .unstarted rfl (by simp) (.refl system)
      | version => exact .unstarted rfl (by simp) (.refl system)
      | refused refusal => exact .unstarted rfl (by simp [refuse]) (.refl system)
  | ok given =>
      cases asked : Job.ofArguments? given with
      | none =>
          left
          unfold run
          simp only [read, asked]
          exact .unstarted rfl (by simp) (.refl system)
      | some job =>
          have started : run host settings system arguments = runJob host settings system job := by
            unfold run
            simp only [read, asked]
          rw [started]
          rcases runJob_abandons_or_provides host settings system job with abandons | ⟨opened, provides⟩
          · exact Or.inl abandons
          rw [runJob_of_provides provides]
          have adds := provides.addsDirectories
          by_cases entered : opened.isDirectory job.inputDirectory = true
          · rcases runStages_abandon_or_compile host settings opened job with abandons | ⟨inputName, outputName,
              prepared, text, script, warnings, named, targeted, found, prepares, reads, compiles⟩
            · exact Or.inl (abandons.before (runIn_continues entered) rfl adds)
            · obtain ⟨_, codec, _, _, known, _⟩ := FileSystem.readText_eq_ok reads
              exact Or.inr ⟨
                { given, job, inputName, outputName, opened, prepared, codec, text, script, warnings
                  read, asked, namesInput := named, namesOutput := targeted, provides, entered, found
                  prepares, known, reads, compiles }⟩
          · left
            rw [runIn, if_neg entered]
            exact .unstarted rfl (by simp [notDirectory]) adds

/-- The three ways in which a run can come out. -/
inductive ComesOut (host : Host) (settings : Settings) (system : FileSystem) (arguments : List Text)
    (run : Run) : Prop
  | abandoned (abandons : run.Abandons Stage.all system)
  | spoilt (delivery : Delivery host settings system arguments) (left : List UInt8)
      (spoils : delivery.Spoils left run.ending)
      (stores : delivery.prepared.writeBytes delivery.target left = .ok run.system)
      (unfinished : ¬ run.Finished)
  | delivered (delivery : Delivery host settings system arguments) (bytes : List UInt8)
      (encodes : delivery.codec.encode delivery.script = .ok bytes)
      (room : host.shortage? delivery.target bytes = none)
      (writes : delivery.prepared.writeBytes delivery.target bytes = .ok run.system)
      (finished : run.Finished) (ending : run.ending = .exit 0)

theorem run_comesOut (host : Host) (settings : Settings) (system : FileSystem) (arguments : List Text) :
    ComesOut host settings system arguments (run host settings system arguments) := by
  rcases run_abandons_or_delivers host settings system arguments with abandons | ⟨⟨delivery⟩⟩
  · exact .abandoned abandons
  · cases opens : delivery.prepared.writeBytes delivery.target [] with
    | error fault =>
        refine .abandoned (delivery.run_of_closed fun bytes stored stores => ?_)
        obtain ⟨emptied, empties⟩ := FileSystem.exists_writeBytes stores []
        rw [opens] at empties
        cases empties
    | ok emptied =>
        have spoilt {left : List UInt8} {ending : Ending} (spoils : delivery.Spoils left ending) :
            ComesOut host settings system arguments (run host settings system arguments) := by
          obtain ⟨stored, stores⟩ := FileSystem.exists_writeBytes opens left
          obtain ⟨unfinished, rfl, rfl⟩ := delivery.run_of_spoils spoils stores
          exact .spoilt delivery left spoils stores unfinished
        cases encodes : delivery.codec.encode delivery.script with
        | error fault => exact spoilt (.unencodable encodes)
        | ok bytes =>
            cases room : host.shortage? delivery.target bytes with
            | some shortage => exact spoilt (.cutShort encodes room)
            | none =>
                obtain ⟨written, writes⟩ := FileSystem.exists_writeBytes opens bytes
                obtain ⟨finished, ending, rfl⟩ := delivery.run_of_stored encodes room writes
                exact .delivered delivery bytes encodes room writes finished ending

theorem ComesOut.ending_ne {run : Run} (out : ComesOut host settings system arguments run)
    (writable : ∀ codec, host.codecs settings.encoding = some codec →
      codec.Faithful ∧ ∃ bytes, codec.encode settings.indentUnit = .ok bytes) (fault : Text.EncodeFault) :
    run.ending ≠ .crash (.encoding fault) := by
  intro crashed
  cases out with
  | abandoned abandons => exact abandons.ending fault crashed
  | delivered delivery bytes encodes room writes finished ending => cases ending.symm.trans crashed
  | spoilt delivery left spoils stores unfinished =>
      rw [crashed] at spoils
      cases spoils with
      | unencodable unencodable =>
          obtain ⟨bytes, encodes⟩ := delivery.encodes_of_writable writable
          rw [unencodable] at encodes
          cases encodes

/-- A run finishes with the target holding the script in its encoding, or touches no file, unless the
script cannot be encoded or not be stored in full: these spoil the target, and it is said with what.
With a faithful codec that can write the indent unit, and room for what is stored, nothing does. -/
theorem run_all_or_nothing_unless_spoilt (host : Host) (settings : Settings) (system : FileSystem)
    (arguments : List Text) :
    let run := run host settings system arguments
    (run.Finished → run.ending = .exit 0 ∧
      ∃ (delivery : Delivery host settings system arguments) (bytes : List UInt8),
        AddsDirectories system delivery.prepared ∧
        delivery.codec.encode delivery.script = .ok bytes ∧
        host.shortage? delivery.target bytes = none ∧
        delivery.prepared.writeBytes delivery.target bytes = .ok run.system ∧
        run.system.readBytes delivery.target = .ok bytes) ∧
    (∀ (delivery : Delivery host settings system arguments) (bytes : List UInt8) (written : FileSystem),
      delivery.codec.encode delivery.script = .ok bytes → host.shortage? delivery.target bytes = none →
      delivery.prepared.writeBytes delivery.target bytes = .ok written → run.Finished) ∧
    (¬ run.Finished →
      (AddsDirectories system run.system ∧
        ∀ path bytes, system.readBytes path = .ok bytes → run.system.readBytes path = .ok bytes) ∨
      ∃ (delivery : Delivery host settings system arguments) (left : List UInt8),
        AddsDirectories system delivery.prepared ∧ delivery.Spoils left run.ending ∧
        delivery.prepared.writeBytes delivery.target left = .ok run.system) ∧
    (∀ (delivery : Delivery host settings system arguments) (left : List UInt8) (ending : Ending)
      (spoilt : FileSystem), delivery.Spoils left ending →
      delivery.prepared.writeBytes delivery.target left = .ok spoilt →
      ¬ run.Finished ∧ run.ending = ending ∧ run.system = spoilt) ∧
    ((∀ codec, host.codecs settings.encoding = some codec →
        codec.Faithful ∧ ∃ bytes, codec.encode settings.indentUnit = .ok bytes) →
      (∀ fault, run.ending ≠ .crash (.encoding fault)) ∧
      ((∀ path bytes, host.shortage? path bytes = none) → ¬ run.Finished →
        AddsDirectories system run.system ∧
        ∀ path bytes, system.readBytes path = .ok bytes → run.system.readBytes path = .ok bytes)) := by
  intro run
  have out := run_comesOut host settings system arguments
  refine ⟨?_, ?_, ?_, ?_, ?_⟩
  · intro finished
    cases out with
    | abandoned abandons => exact absurd finished (Nat.ne_of_lt abandons.short)
    | spoilt delivery left spoils stores unfinished => exact absurd finished unfinished
    | delivered delivery bytes encodes room writes finished ending =>
        exact ⟨ending, delivery, bytes, delivery.addsDirectories, encodes, room, writes,
          FileSystem.readBytes_of_writeBytes writes⟩
  · intro delivery bytes written encodes room writes
    exact (delivery.run_of_stored encodes room writes).1
  · intro unfinished
    cases out with
    | abandoned abandons => exact Or.inl ⟨abandons.adds, fun path bytes => abandons.adds.readBytes⟩
    | spoilt delivery left spoils stores unfinished =>
        exact Or.inr ⟨delivery, left, delivery.addsDirectories, spoils, stores⟩
    | delivered delivery bytes encodes room writes finished ending => exact absurd finished unfinished
  · intro delivery left ending spoilt spoils stores
    exact delivery.run_of_spoils spoils stores
  · intro writable
    have encoded := out.ending_ne writable
    refine ⟨encoded, ?_⟩
    intro roomy unfinished
    cases out with
    | abandoned abandons => exact ⟨abandons.adds, fun path bytes => abandons.adds.readBytes⟩
    | spoilt delivery left spoils stores unfinished =>
        exfalso
        generalize run.ending = ending at spoils encoded
        cases spoils with
        | unencodable encodes => exact encoded _ rfl
        | cutShort encodes short =>
            rw [roomy] at short
            cases short
    | delivered delivery bytes encodes room writes finished ending => exact absurd finished unfinished

/-- The source includes a file next to it, and neither the output directory nor the one above the
target is there. With room for five bytes, as many are stored and the run gives up. -/
theorem run_all_or_nothing_delivered :
    let system : FileSystem :=
      { nodes :=
          [(.ofParts ["in".toList], .directory),
            (.ofParts ["in".toList, "a".toList], .file (Text.Utf8.encode "$include b".toList)),
            (.ofParts ["in".toList, "b".toList], .file (Text.Utf8.encode "「é」".toList))] }
    let arguments := ["in".toList, "out".toList, "--inputFile".toList, "a".toList,
      "--outputFile".toList, "deep/c".toList]
    let target := Path.ofText "out/deep/c".toList
    let full : Host := { shortage? := fun _ _ => some ⟨5, 28, "No space left on device".toList⟩ }
    let done := run {} {} system arguments
    let short := run full {} system arguments
    (done.Finished ∧ done.system.readBytes target = .ok (Text.Utf8.encode "    \"é\"\n\n".toList) ∧
      ∃ (delivery : Delivery {} {} system arguments) (bytes : List UInt8),
        delivery.codec.encode delivery.script = .ok bytes ∧
        done.system.readBytes delivery.target = .ok bytes) ∧
    ¬ short.Finished ∧ short.ending = .exit 1 ∧
      short.complaint = "Error writing output file: [Errno 28] No space left on device\n".toList ∧
      short.system.readBytes target = .ok (Text.Utf8.encode "    \"".toList) ∧
      ∃ (delivery : Delivery full {} system arguments) (left : List UInt8),
        delivery.Spoils left (.exit 1) ∧
        delivery.prepared.writeBytes delivery.target left = .ok short.system := by
  intro system arguments target full done short
  have finished : done.Finished := by decide +kernel
  have unfinished : ¬ short.Finished := by decide +kernel
  have ending : short.ending = .exit 1 := by decide +kernel
  have left : short.system.readBytes target = .ok (Text.Utf8.encode "    \"".toList) := by decide +kernel
  obtain ⟨_, delivery, bytes, _, encodes, _, _, reads⟩ :=
    (run_all_or_nothing_unless_spoilt {} {} system arguments).1 finished
  refine ⟨⟨finished, by decide +kernel, delivery, bytes, encodes, reads⟩, unfinished, ending,
    by decide +kernel, left, ?_⟩
  rcases (run_all_or_nothing_unless_spoilt full {} system arguments).2.2.1 unfinished with
    ⟨adds, _⟩ | ⟨delivery, bytes, _, spoils, stores⟩
  · -- where nothing was there is a file, so more than directories were added
    have place := adds.node? (.ofParts ["out".toList, "deep".toList, "c".toList])
    exact absurd place (by decide +kernel)
  · exact ⟨delivery, bytes, ending ▸ spoils, stores⟩

/-- The indent unit is not ASCII: the old content is gone and nothing has taken its place. -/
theorem run_empties_target :
    let settings : Settings := { indentUnit := ['é'], encoding := "ascii".toList }
    let system : FileSystem :=
      { nodes :=
          [(.ofParts ["in".toList], .directory),
            (.ofParts ["in".toList, "a.scn".toList], .file (Text.Utf8.encode "#x".toList)),
            (.ofParts ["out".toList], .directory),
            (.ofParts ["out".toList, "a.rpy".toList], .file (Text.Utf8.encode "old".toList))] }
    let run := run {} settings system
      ["in".toList, "out".toList, "--inputFile".toList, "a.scn".toList]
    let target := Path.ofText "out/a.rpy".toList
    ¬ run.Finished ∧
      run.ending = .crash (.encoding (.atCharacters "ascii".toList 0 1 'é'
        "ordinal not in range(128)".toList)) ∧
      system.readBytes target = .ok (Text.Utf8.encode "old".toList) ∧
      run.system.readBytes target = .ok [] := by
  decide +kernel

end Whole

end SceneNotation.CommandLine
