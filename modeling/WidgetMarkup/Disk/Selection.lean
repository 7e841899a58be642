import WidgetMarkup.Disk.Basic
import WidgetMarkup.Disk.NamePattern

/-!
# Selecting files

A pattern selects what lies below a folder, one name pattern for every level. Two stars as a whole
name stand for any number of folders, none included. A slash at the end asks for folders. Hidden
files are files like others, and letters match in their own case only.
-/
namespace WidgetMarkup

/-- One level of a pattern. -/
inductive Level where
  /-- Any number of folders. -/
  | anywhere
  /-- Exactly this name. -/
  | exactly (name : String)
  | like (pieces : List NamePiece)
deriving DecidableEq, Repr

/-- Why a text is no pattern. -/
inductive PatternError where
  | empty
  | absolute
  /-- It has no level. -/
  | noLevel
  /-- It has no level, but asks for folders. -/
  | onlyFolders
  /-- Two stars are only a part of a name. -/
  | partialStars
deriving DecidableEq, Repr

structure Pattern where
  levels : List Level
  /-- Whether only folders are asked for. -/
  foldersOnly : Bool
deriving DecidableEq, Repr

/-- Whether two stars follow each other. -/
def hasDoubleStar : List Char → Bool
  | '*' :: '*' :: _ => true
  | _ :: s => hasDoubleStar s
  | [] => false

namespace Level

/-- Characters that make a name a pattern. -/
def isWild (c : Char) : Bool :=
  c = '*' || c = '?' || c = '['

def ofName (name : String) : Except PatternError Level :=
  let chars := name.toList
  if name = "**" then .ok anywhere
  else if hasDoubleStar chars then .error .partialStars
  else if chars.any isWild then .ok (like (NamePiece.ofChars chars))
  else .ok (exactly name)

end Level

namespace Pattern

def ofString (s : String) : Except PatternError Pattern := do
  let p := Path.ofString s
  let foldersOnly := s.toList.getLast? = some '/'
  if s = "" then .error .empty
  else if p.isAbsolute then .error .absolute
  else if p.parts.isEmpty then .error (if foldersOnly then .onlyFolders else .noLevel)
  else .ok ⟨← p.parts.mapM Level.ofName, foldersOnly⟩

/-- The paths that levels select below a path. All but the last level select folders. A folder whose
path is too long cannot be searched. -/
def selectFrom (d : Disk) (foldersOnly : Bool) : List Level → Path →
    Except DiskError (List Path)
  | [], p => .ok [p]
  | level :: levels, p =>
    let within := foldersOnly || !levels.isEmpty
    match level with
    | .exactly name => do
      let q := p.child name
      if ← if within then d.isFolder q else d.pathExists q then
        selectFrom d foldersOnly levels q
      else .ok []
    | .like pieces => do
      let place ← d.locate p
      let selected ← (d.names place).mapM fun name =>
        if NamePiece.fits pieces name.toList && (!within || d.isFolderAt (place ++ [name])) then
          selectFrom d foldersOnly levels (p.child name)
        else .ok []
      .ok selected.flatten
    | .anywhere => do
      let place ← d.locate p
      let selected ← ([] :: d.foldersBelow place).mapM fun names =>
        selectFrom d foldersOnly levels ⟨p.root, p.parts ++ names⟩
      .ok selected.flatten.eraseDups

/-- The files that a pattern selects in a folder, in order. -/
def files (d : Disk) (pattern : Pattern) (folder : Path) : Except DiskError (List Path) := do
  let selected ← selectFrom d pattern.foldersOnly pattern.levels folder
  let found ← selected.filterM d.isFile
  .ok (found.mergeSort Path.le)

end Pattern

end WidgetMarkup
