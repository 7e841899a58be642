import WidgetMarkup.Program
import WidgetMarkup.Settings.Reading

/-!
# The command

Takes the folders that a command line names from the real disk, runs the program on them, and puts
back what has changed. Folders are taken whole; links are followed.
-/
namespace WidgetMarkup.Command

open CommandLine (Arguments)

def textOf (l : Disk.Place) : String :=
  "/" ++ String.intercalate "/" l

/-- The place that a path leads to. -/
def placeOf (home : Disk.Place) (p : Path) : Disk.Place :=
  p.parts.foldl (fun l name => if name = ".." then l.dropLast else l ++ [name])
    (if p.isAbsolute then [] else home)

/-- Adds what stands at a place, and all below it. -/
partial def takeTree (d : Disk) (l : Disk.Place) : IO Disk := do
  let here := ((← IO.currentDir) / textOf l)
  if ← here.isDir then
    let mut d := d.addFolder l
    for entry in ← here.readDir do
      d ← takeTree d (l ++ [entry.fileName])
    return d
  else if ← here.pathExists then
    return d.addFile l (← IO.FS.readBinFile here)
  else
    return d

/-- The part of the real disk that a run looks at. -/
def takeDisk (home : Disk.Place) (a : Arguments) : IO Disk := do
  let options := a.input.join (.ofString a.optionsFile)
  let roots := [a.input, a.output, options].map (placeOf home)
  roots.foldlM takeTree (({ home } : Disk).addFolder home)

/-- Whether a disk has this very entry at a place. -/
def hasEntry (d : Disk) (l : Disk.Place) : DiskEntry → Bool
  | .folder => d.isFolderAt l
  | .file content =>
    match d.entry? l with
    | some (.file old) => old == content
    | _ => false

/-- Puts back what has changed, folders first. -/
def putBack (old new : Disk) : IO Unit := do
  let changed := new.entries.filter fun (l, e) => !hasEntry old l e
  for (l, e) in changed do
    if let .folder := e then IO.FS.createDirAll (textOf l)
  for (l, e) in changed do
    if let .file content := e then IO.FS.writeBinFile (textOf l) content

/-- The variables of the environment that name settings, in upper or in lower case. -/
def environment : IO (List (String × String)) := do
  let names := Settings.Field.all.flatMap fun f => [f.variableName.toUpper, f.variableName]
  names.filterMapM fun name => do
    return (← IO.getEnv name).map fun value => (name, value)

/-- The text of the file of variables in the working folder. -/
def variablesFile : IO (Option (List Char)) := do
  let file := (← IO.currentDir) / ".env"
  if ← file.pathExists then return Text.ofFile? (← IO.FS.readBinFile file) else return none

def status : Program.Ending → UInt32
  | .normal => 0
  | .exit status _ => UInt32.ofNat status
  | .failure _ => 1

/-- How the command is used. -/
def usage : String :=
  "usage: " ++ Program.name ++
    " [-h] [--inputPattern INPUTPATTERN] [--optionsFile OPTIONSFILE] [-v] [-V]" ++
    " [--saveinputmeta] [--saveoutputmeta] inputdir outputdir"

/-- Prints what a run has to say. -/
def present (o : Program.Outcome) : IO UInt32 := do
  for line in o.output do IO.println line
  for line in o.log do IO.eprintln line
  for line in o.errors do IO.eprintln line
  if let .failure _ := o.ending then IO.eprintln "The run failed."
  return status o.ending

def run (args : List String) : IO UInt32 := do
  match Settings.read (← environment) (← variablesFile) with
  | .error issues =>
    for i in issues do
      IO.eprintln (String.intercalate "." i.path ++ ": " ++ i.code.label)
    return 1
  | .ok s =>
    match CommandLine.read s args with
    | .help =>
      IO.println usage
      return 0
    | .misuse =>
      IO.eprintln usage
      return UInt32.ofNat Program.misuseStatus
    | .version | .noOutput => present (Program.run {} s s args {})
    | .run a =>
      let home := (Path.ofString (← IO.currentDir).toString).parts
      let old ← takeDisk home a
      let outcome := Program.execute {} s a old
      putBack old outcome.disk
      present outcome

end WidgetMarkup.Command

def main (args : List String) : IO UInt32 :=
  WidgetMarkup.Command.run args
