import WidgetMarkup.Build.Basic
import WidgetMarkup.CommandLine

/-!
# The program

The program reads its command line, makes the output folder and runs a whole build. What it leaves
behind is how it ended, what it printed, what it logged, and the disk.
-/
namespace WidgetMarkup.Program

open Build (World Run Stop Failure Project Platform)
open CommandLine (Arguments)

def name : String := "pugwidgets"

def version : String := "1.0.0"

inductive Ending where
  | normal
  /-- With a status, and with a trace of what led to it if so. -/
  | exit (status : Nat) (trace : Bool)
  /-- With a failure that nobody has provided for. -/
  | failure (e : Failure)
deriving DecidableEq, Repr

def Ending.ofStop : Stop → Ending
  | .exit status trace => .exit status trace
  | .failure e => .failure e

def Ending.ofResult {α : Type} : Except Stop α → Ending
  | .ok _ => .normal
  | .error s => .ofStop s

/-- What a run of the program leaves behind. -/
structure Outcome where
  ending : Ending
  /-- Lines for the output. -/
  output : List String := []
  /-- Lines for a person to see. -/
  errors : List String := []
  log : List String := []
  disk : Disk

/-- Stops unless a path leads to a folder. -/
def requireFolder (p : Path) : Run Unit := do
  unless ← Build.orFail .disk ((← Build.currentDisk).isFolder p) do
    Build.refuse ("Not a directory: " ++ p.text)

/-- Makes sure that both folders are there: the output folder is made if it is missing. -/
def prepare (a : Arguments) : Run Unit := do
  let d ← Build.currentDisk
  if ← Build.orFail .disk (d.pathExists a.output) then requireFolder a.output
  else Build.setDisk (← Build.orFail .disk (d.makeFolders a.output))
  requireFolder a.input

def project (a : Arguments) : Project :=
  { inputFolder := a.input
    outputFolder := a.output
    verbosity := a.verbosity
    inputPattern := a.inputPattern
    optionsFile := a.optionsFile }

/-- What a run leaves behind, with the log that a verbosity shows. -/
def outcome {α : Type} (verbosity : Int) (r : Run α) (d : Disk) : Outcome :=
  let (result, world) := r.run.run { disk := d }
  { ending := .ofResult result
    errors := world.errors
    log := world.shownLog verbosity
    disk := world.disk }

/-- What the program relies on. -/
structure Host extends Platform where
  /-- What is done before the build. -/
  prepare : Arguments → Run Unit := Program.prepare

/-- Runs a build as a command line asks for it. -/
def execute (host : Host) (s : Settings) (a : Arguments) (d : Disk) : Outcome :=
  outcome a.verbosity (do host.prepare a; Build.build host.toPlatform s (project a)) d

/-- The exit status for a command line that cannot be understood. -/
def misuseStatus : Nat := 2

/-- Runs the program. The first settings stand in for what the command line leaves open. -/
def run (host : Host) (defaults s : Settings) (args : List String) (d : Disk) : Outcome :=
  match CommandLine.read defaults args with
  | .run a => execute host s a d
  | .version => { ending := .exit 0 false, output := [name ++ " " ++ version], disk := d }
  | .help => { ending := .exit 0 false, disk := d }
  | .misuse => { ending := .exit misuseStatus false, disk := d }
  | .noOutput => { ending := .failure .noFolder, disk := d }

end WidgetMarkup.Program
