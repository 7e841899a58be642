import WidgetMarkup.Disk.Path
import WidgetMarkup.Text.Quoted

/-!
# A disk

A disk holds files and folders, each at a place: the names that lead to it from the root. The
root is a folder. Relative paths start at the working folder. Following a path needs a folder at
every step, and double dots lead back to the folder around. Names and paths have a greatest length,
and a path with a null character in it is no path.
-/
namespace WidgetMarkup

inductive DiskEntry where
  | file (content : ByteArray)
  | folder

/-- The names that lead from the root to an entry. -/
abbrev Disk.Place := List String

/-- Why a path leads nowhere. -/
inductive DiskError where
  | missing
  | taken
  | notFolder
  | isFolder
  | tooLong
  /-- The path has a null character in it. -/
  | nullCharacter
deriving DecidableEq, Repr

namespace DiskError

def number : DiskError → Nat
  | missing => 2
  | taken => 17
  | notFolder => 20
  | isFolder => 21
  | tooLong => 36
  | nullCharacter => 22

def reason : DiskError → String
  | missing => "No such file or directory"
  | taken => "File exists"
  | notFolder => "Not a directory"
  | isFolder => "Is a directory"
  | tooLong => "File name too long"
  | nullCharacter => "Invalid argument"

/-- The line that a person sees. -/
def message (e : DiskError) (path : Path) : String :=
  s!"[Errno {e.number}] {e.reason}: " ++ Text.quoted path.text

end DiskError

structure Disk where
  entries : List (Disk.Place × DiskEntry) := []
  /-- The working folder. -/
  home : Disk.Place := []

namespace Disk

/-- What stands at a place. -/
def entry? (d : Disk) : Place → Option DiskEntry
  | [] => some .folder
  | l => d.entries.lookup l

def isFolderAt (d : Disk) (l : Place) : Bool :=
  match d.entry? l with
  | some .folder => true
  | _ => false

def isFileAt (d : Disk) (l : Place) : Bool :=
  match d.entry? l with
  | some (.file _) => true
  | _ => false

/-- Puts an entry at a place, instead of the one that stands there. -/
def put (d : Disk) (l : Place) (e : DiskEntry) : Disk :=
  { d with entries := (l, e) :: d.entries.filter (·.1 ≠ l) }

/-- The most bytes that a name may have. -/
def nameLimit : Nat := 255

/-- The most bytes that the text of a path may have. -/
def pathLimit : Nat := 4095

/-- Whether a path can be looked up at all. -/
def checkPath (p : Path) : Except DiskError Unit :=
  if p.text.toList.contains '\x00' then .error .nullCharacter
  else if pathLimit < p.text.utf8ByteSize then .error .tooLong
  else .ok ()

/-- The place of a name in a folder, which may be free. -/
def enter (d : Disk) (l : Place) (name : String) : Except DiskError Place :=
  if !d.isFolderAt l then .error .notFolder
  else if name = ".." then .ok l.dropLast
  else if nameLimit < name.utf8ByteSize then .error .tooLong
  else .ok (l ++ [name])

/-- One step along a path. -/
def step (d : Disk) (l : Place) (name : String) : Except DiskError Place := do
  let l ← d.enter l name
  if (d.entry? l).isSome then .ok l else .error .missing

def follow (d : Disk) : Place → List String → Except DiskError Place
  | l, [] => .ok l
  | l, name :: names => do
    let l ← d.step l name
    d.follow l names

/-- Where a path starts. -/
def start (d : Disk) (p : Path) : Place :=
  if p.isAbsolute then [] else d.home

/-- The place of what a path leads to. -/
def locate (d : Disk) (p : Path) : Except DiskError Place := do
  checkPath p
  d.follow (d.start p) p.parts

/-- The place that a path leads to, which may be free; the folder around it is not. -/
def target (d : Disk) (p : Path) : Except DiskError Place := do
  checkPath p
  match p.parts.getLast? with
  | none => .ok (d.start p)
  | some last => d.enter (← d.follow (d.start p) p.parts.dropLast) last

/-- Whether a path leads to something of a kind. A path that is too long gives no answer; any other
that leads nowhere does. -/
def leadsTo (d : Disk) (holds : Place → Bool) (p : Path) : Except DiskError Bool :=
  match d.locate p with
  | .ok l => .ok (holds l)
  | .error .tooLong => .error .tooLong
  | .error _ => .ok false

def pathExists (d : Disk) (p : Path) : Except DiskError Bool :=
  d.leadsTo (fun _ => true) p

def isFolder (d : Disk) (p : Path) : Except DiskError Bool :=
  d.leadsTo d.isFolderAt p

def isFile (d : Disk) (p : Path) : Except DiskError Bool :=
  d.leadsTo d.isFileAt p

/-- The content of a file. -/
def read (d : Disk) (p : Path) : Except DiskError ByteArray := do
  match d.entry? (← d.locate p) with
  | some (.file content) => .ok content
  | some .folder => .error .isFolder
  | none => .error .missing

/-- Writes a file, new or in place of an old one. -/
def write (d : Disk) (p : Path) (content : ByteArray) : Except DiskError Disk := do
  let l ← d.target p
  if d.isFolderAt l then .error .isFolder else .ok (d.put l (.file content))

/-- Makes a new folder. -/
def makeFolder (d : Disk) (p : Path) : Except DiskError Disk := do
  let l ← d.target p
  match d.entry? l with
  | some _ => .error .taken
  | none => .ok (d.put l .folder)

/-- Makes a folder unless there is one. -/
def ensureFolder (d : Disk) (p : Path) : Except DiskError Disk :=
  match d.makeFolder p with
  | .ok d => .ok d
  | .error .missing => .error .missing
  | .error .nullCharacter => .error .nullCharacter
  | .error e => do if ← d.isFolder p then .ok d else .error e

/-- Makes the folder with these names, from the last to the first, and the folders around it, as far
as they are missing. -/
def ensureNested (d : Disk) (root : String) : List String → Except DiskError Disk
  | [] => d.ensureFolder ⟨root, []⟩
  | last :: outer =>
    let p : Path := ⟨root, (last :: outer).reverse⟩
    match d.ensureFolder p with
    | .error .missing => do
      let d ← d.ensureNested root outer
      d.ensureFolder p
    | r => r

/-- Makes a folder and the folders around it, as far as they are missing. -/
def ensureFolders (d : Disk) (p : Path) : Except DiskError Disk :=
  d.ensureNested p.root p.parts.reverse

/-- Makes a new folder, and the folders around it as far as they are missing. -/
def makeFolders (d : Disk) (p : Path) : Except DiskError Disk :=
  match d.makeFolder p with
  | .error .missing => do
    let d ← d.ensureFolders p.parent
    d.makeFolder p
  | r => r

/-- The names in a folder. -/
def names (d : Disk) (l : Place) : List String :=
  d.entries.filterMap fun (m, _) =>
    match m.getLast? with
    | some last => if m.dropLast = l then some last else none
    | none => none

/-- The folders below a place, each by the names that lead to it from there. -/
def foldersBelow (d : Disk) (l : Place) : List (List String) :=
  d.entries.filterMap fun (m, e) =>
    match e with
    | .folder => if l.isPrefixOf m && l ≠ m then some (m.drop l.length) else none
    | .file _ => none

/-- A disk with a folder at a place, and folders around it. -/
def addFolder (d : Disk) (l : Place) : Disk :=
  ((List.range l.length).map fun n => l.take (n + 1)).foldl (fun d m => d.put m .folder) d

/-- A disk with a file at a place, and folders around it. -/
def addFile (d : Disk) (l : Place) (content : ByteArray) : Disk :=
  (d.addFolder l.dropLast).put l (.file content)

end Disk

end WidgetMarkup
