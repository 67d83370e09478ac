import SceneNotation.Text.Basic

/- The banner, the usage lines and the help page of the command line. -/
namespace SceneNotation.CommandLine

def ofLines (lines : List String) : Text :=
  lines.flatMap fun line => line.toList ++ ['\n']

def banner : Text :=
  ofLines ["",
    "                                 _",
    "  ___  ___ ___ _ __   ___  __| | _____      ___ __",
    " / __|/ __/ _ \\ '_ \\ / _ \\/ _` |/ _ \\ \\ /\\ / / '_ \\",
    " \\__ \\ (_|  __/ | | |  __/ (_| | (_) \\ V  V /| | | |",
    " |___/\\___\\___|_| |_|\\___|\\__,_|\\___/ \\_/\\_/ |_| |_|",
    "",
    "  Scenario notation to Ren'Py transpiler"]

def usage : Text :=
  ofLines ["usage: scenedown [-h] --inputFile INPUTFILE [--outputFile OUTPUTFILE] [-v]",
    "                 [-V]",
    "                 inputdir outputdir"]

def helpDetails : Text :=
  ofLines ["",
    "scenedown - Scenario notation to Ren'Py transpiler",
    "",
    "positional arguments:",
    "  inputdir              directory containing input files",
    "  outputdir             directory containing output files",
    "",
    "options:",
    "  -h, --help            show this help message and exit",
    "  --inputFile INPUTFILE",
    "                        Input scenario (.scn) file (relative to inputdir)",
    "                        (default: None)",
    "  --outputFile OUTPUTFILE",
    "                        Output script name (relative to outputdir). Defaults",
    "                        to the input name with .rpy (default: None)",
    "  -v, --verbosity       Increase output verbosity (can be repeated: -v, -vv,",
    "                        -vvv) (default: 1)",
    "  -V, --version         show program's version number and exit"]

def helpPage : Text :=
  usage ++ helpDetails

def versionLine : Text :=
  ofLines ["scenedown 1.0.0"]

end SceneNotation.CommandLine
