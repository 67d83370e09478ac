import SceneNotation.CommandLine.Texts
import SceneNotation.Text.Digit
import SceneNotation.Text.Quoted

/- Arguments are switches and operands in any order; a lone double dash ends the
   switches. All arguments are first told apart, so that an ambiguous one is refused
   before anything else happens, and are then read from left to right. Long names
   may be cut short as long as one name is meant, and short switches may be written
   together. A double dash given as a value is dropped, which leaves nothing where
   the value would stand. -/
namespace SceneNotation.CommandLine

inductive Switch where
  | help
  | inputFile
  | outputFile
  | verbosity
  | version
  | saveInputMeta
  | saveOutputMeta
  deriving DecidableEq, Repr

namespace Switch

def all : List Switch :=
  [.help, .inputFile, .outputFile, .verbosity, .version, .saveInputMeta, .saveOutputMeta]

def names : Switch → List Text
  | .help => ["-h".toList, "--help".toList]
  | .inputFile => ["--inputFile".toList]
  | .outputFile => ["--outputFile".toList]
  | .verbosity => ["-v".toList, "--verbosity".toList]
  | .version => ["-V".toList, "--version".toList]
  | .saveInputMeta => ["--saveinputmeta".toList]
  | .saveOutputMeta => ["--saveoutputmeta".toList]

def takesValue : Switch → Bool
  | .inputFile | .outputFile => true
  | _ => false

def title (switch : Switch) : Text :=
  Text.join ['/'] switch.names

end Switch

def namedSwitches : List (Text × Switch) :=
  Switch.all.flatMap fun switch => switch.names.map fun name => (name, switch)

def switch? (name : Text) : Option Switch :=
  namedSwitches.lookup name

inductive Refusal where
  | ambiguous (argument : Text) (names : List Text)
  | valueMissing (switch : Switch)
  | valueUnwanted (switch : Switch) (value : Text)
  | argumentsMissing (names : List Text)
  | unrecognised (arguments : List Text)
  deriving DecidableEq, Repr

def Refusal.message : Refusal → Text
  | .ambiguous argument names =>
      "ambiguous option: ".toList ++ argument ++ " could match ".toList ++
        Text.join ", ".toList names
  | .valueMissing switch =>
      "argument ".toList ++ switch.title ++ ": expected one argument".toList
  | .valueUnwanted switch value =>
      "argument ".toList ++ switch.title ++ ": ignored explicit argument ".toList ++
        Text.quoted value
  | .argumentsMissing names =>
      "the following arguments are required: ".toList ++ Text.join ", ".toList names
  | .unrecognised arguments =>
      "unrecognized arguments: ".toList ++ Text.join [' '] arguments

/-- What is written into the same argument as the name of a switch. An equals sign may stand
before either kind and must stand before a value. -/
inductive Attached where
  | nothing
  /-- Follows a long name. -/
  | value (text : Text)
  /-- Follows a short name, and is made of the letters of further short ones. -/
  | bundle (letters : Text)
  deriving DecidableEq, Repr

inductive Item where
  | operand (text : Text)
  | switch (switch : Switch) (attached : Attached)
  /-- Looks like a switch and is none. -/
  | stranger (text : Text)
  deriving DecidableEq, Repr

/-- A minus sign and a decimal number, which may lack digits before the point. One line feed may
follow. -/
def isNegativeNumber : Text → Bool
  | '-' :: written =>
      let number := if written.getLast? = some '\n' then written.dropLast else written
      match number.dropWhile Text.isDecimalDigit with
      | [] => !number.isEmpty
      | '.' :: digits => !digits.isEmpty && digits.all Text.isDecimalDigit
      | _ => false
  | _ => false

/-- The switches whose long name begins as written, up to an equals sign. -/
def longCandidates (argument : Text) : List (Text × Item) :=
  let (written, attached) := match Text.cut? '=' argument with
    | some (written, value) => (written, Attached.value value)
    | none => (argument, Attached.nothing)
  (namedSwitches.filter fun entry => written.isPrefixOf entry.1).map fun entry =>
    (entry.1, .switch entry.2 attached)

def candidates (argument : Text) : List (Text × Item) :=
  match argument with
  | '-' :: '-' :: _ => longCandidates argument
  | '-' :: letter :: rest =>
      match switch? ['-', letter] with
      | some switch => [(['-', letter], .switch switch (.bundle rest))]
      | none => []
  | _ => []

def divider : Text := ['-', '-']

def assigned? (argument : Text) : Option Item :=
  match Text.cut? '=' argument with
  | some (name, rest) =>
      (switch? name).map fun switch =>
        .switch switch (if divider.isPrefixOf name then .value rest else .bundle rest)
  | none => none

def classifyDashed (argument : Text) : Except Refusal Item :=
  match switch? argument, assigned? argument, candidates argument with
  | some switch, _, _ => .ok (.switch switch .nothing)
  | none, some item, _ => .ok item
  | none, none, [(_, item)] => .ok item
  | none, none, [] =>
      if isNegativeNumber argument || argument.contains ' ' then .ok (.operand argument)
      else .ok (.stranger argument)
  | none, none, several => .error (.ambiguous argument (several.map (·.1)))

/-- A lone dash is an operand. -/
def classify (argument : Text) : Except Refusal Item :=
  match argument with
  | '-' :: _ :: _ => classifyDashed argument
  | _ => .ok (.operand argument)

def classifyAll : List Text → Except Refusal (List Item)
  | [] => .ok []
  | argument :: rest =>
      match classify argument with
      | .error refusal => .error refusal
      | .ok item => (classifyAll rest).map (item :: ·)

inductive Stop where
  | help
  | version
  | refused (refusal : Refusal)
  deriving DecidableEq, Repr

/-- What became of the last argument, if it was an operand. -/
inductive Recent where
  | noOperand
  | taken
  | leftOver
  deriving DecidableEq, Repr

/-- What an argument puts in the place of a value. -/
def content (argument : Text) : Option Text :=
  if argument = divider then none else some argument

/-- What has been read so far. An input file that is nothing still counts as given. -/
structure Reading where
  inputFile : Option (Option Text) := none
  outputFile : Option Text := none
  verbosity : Nat := 1
  operands : List (Option Text) := []
  leftovers : List Text := []
  recent : Recent := .noOperand
  deriving DecidableEq, Repr

namespace Reading

def hasRoom (reading : Reading) : Bool :=
  reading.operands.length < 2

def place (reading : Reading) (argument : Text) (held : Option Text) : Reading :=
  if reading.hasRoom then
    { reading with operands := reading.operands ++ [held], recent := .taken }
  else { reading with leftovers := reading.leftovers ++ [argument], recent := .leftOver }

def takeOperand (reading : Reading) (argument : Text) : Reading :=
  reading.place argument (content argument)

def leaveOver (reading : Reading) (text : Text) : Reading :=
  { reading with leftovers := reading.leftovers ++ [text], recent := .noOperand }

def act (reading : Reading) (switch : Switch) (value : Option Text) : Except Stop Reading :=
  let reading := { reading with recent := .noOperand }
  match switch with
  | .help => .error .help
  | .version => .error .version
  | .inputFile => .ok { reading with inputFile := some value }
  | .outputFile => .ok { reading with outputFile := value }
  | .verbosity => .ok { reading with verbosity := reading.verbosity + 1 }
  | .saveInputMeta | .saveOutputMeta => .ok reading

def actAll (reading : Reading) : List Switch → Except Stop Reading
  | [] => .ok reading
  | switch :: rest =>
      match reading.act switch none with
      | .error stop => .error stop
      | .ok reading => reading.actAll rest

end Reading

/-- The switches of a bundle, which begins with a known one. -/
def unbundle (switch : Switch) (letters : Text) : Except Refusal (List Switch) :=
  match letters with
  | [] => .ok [switch]
  | letter :: rest =>
      match switch? ['-', letter] with
      | none => .error (.valueUnwanted switch letters)
      | some next => (unbundle next rest).map (switch :: ·)

/-- No switch of a bundle acts before all of them are known. -/
def readBundle (reading : Reading) (switch : Switch) (letters : Text) : Except Stop Reading :=
  if letters.isEmpty then .error (.refused (.valueUnwanted switch letters))
  else match unbundle switch letters with
    | .error refusal => .error (.refused refusal)
    | .ok switches => reading.actAll switches

def readItems : List Item → Reading → Except Stop Reading
  | [], reading => .ok reading
  | .operand text :: rest, reading => readItems rest (reading.takeOperand text)
  | .stranger text :: rest, reading => readItems rest (reading.leaveOver text)
  | .switch switch (.bundle letters) :: rest, reading =>
      match readBundle reading switch letters with
      | .error stop => .error stop
      | .ok reading => readItems rest reading
  | .switch switch (.value text) :: rest, reading =>
      if switch.takesValue then
        match reading.act switch (content text) with
        | .error stop => .error stop
        | .ok reading => readItems rest reading
      else .error (.refused (.valueUnwanted switch text))
  | .switch switch .nothing :: rest, reading =>
      if switch.takesValue then
        match rest with
        | .operand text :: rest =>
            match reading.act switch (content text) with
            | .error stop => .error stop
            | .ok reading => readItems rest reading
        | _ => .error (.refused (.valueMissing switch))
      else
        match reading.act switch none with
        | .error stop => .error stop
        | .ok reading => readItems rest reading

/-- The divider goes with the operand before it, or else with the one after it, which then keeps
its text even if it is a double dash itself. With neither it is left over. -/
def readDivided (reading : Reading) (rest : List Text) : Reading :=
  match reading.recent, rest with
  | .taken, rest => rest.foldl Reading.takeOperand reading
  | .noOperand, first :: rest =>
      if reading.hasRoom then rest.foldl Reading.takeOperand (reading.place first (some first))
      else (first :: rest).foldl Reading.takeOperand (reading.leaveOver divider)
  | _, rest => rest.foldl Reading.takeOperand (reading.leaveOver divider)

structure Arguments where
  inputDirectory : Option Text
  outputDirectory : Option Text
  inputFile : Option Text
  outputFile : Option Text
  verbosity : Nat
  deriving DecidableEq, Repr

def missingNames (reading : Reading) : List Text :=
  (if reading.inputFile.isNone then ["--inputFile".toList] else []) ++
    ["inputdir".toList, "outputdir".toList].drop reading.operands.length

/-- Something missing weighs more than something left over. -/
def finish (reading : Reading) : Except Stop Arguments :=
  match reading.inputFile, reading.operands with
  | some inputFile, [inputDirectory, outputDirectory] =>
      if reading.leftovers.isEmpty then
        .ok ⟨inputDirectory, outputDirectory, inputFile, reading.outputFile, reading.verbosity⟩
      else .error (.refused (.unrecognised reading.leftovers))
  | _, _ => .error (.refused (.argumentsMissing (missingNames reading)))

def readArguments (arguments : List Text) : Except Stop Arguments :=
  match classifyAll (arguments.takeWhile (· != divider)) with
  | .error refusal => .error (.refused refusal)
  | .ok items =>
      match readItems items {} with
      | .error stop => .error stop
      | .ok reading =>
          match arguments.dropWhile (· != divider) with
          | [] => finish reading
          | _ :: rest => finish (readDivided reading rest)

end SceneNotation.CommandLine
