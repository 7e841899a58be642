import WidgetMarkup.Text.Pieces

/-!
# Paths

A path is a list of names, from the working folder or from the root of the disk. Empty names and
single dots say nothing and are dropped when a path is read; double dots are kept, because what they
mean depends on the disk.
-/
namespace WidgetMarkup

structure Path where
  /-- The slashes that the path starts with: none, one or two. -/
  root : String := ""
  parts : List String
deriving DecidableEq, Repr

namespace Path

/-- The root that leading slashes stand for: exactly two are kept apart, more are one. -/
def rootOf (s : List Char) : String :=
  match (s.takeWhile (· = '/')).length with
  | 0 => ""
  | 2 => "//"
  | _ => "/"

/-- The names in a text between slashes. -/
def partsOf (s : List Char) : List String :=
  ((Text.pieces '/' s).map String.ofList).filter fun name => name ≠ "" && name ≠ "."

def ofString (s : String) : Path :=
  ⟨rootOf s.toList, partsOf s.toList⟩

def isAbsolute (p : Path) : Bool :=
  p.root ≠ ""

def text (p : Path) : String :=
  if p.root = "" && p.parts.isEmpty then "." else p.root ++ String.intercalate "/" p.parts

/-- A path below another one; an absolute path stays as it is. -/
def join (p q : Path) : Path :=
  if q.isAbsolute then q else ⟨p.root, p.parts ++ q.parts⟩

def child (p : Path) (name : String) : Path :=
  ⟨p.root, p.parts ++ [name]⟩

def parent (p : Path) : Path :=
  ⟨p.root, p.parts.dropLast⟩

/-- The last name. -/
def name (p : Path) : String :=
  p.parts.getLast?.getD ""

/-- A file name without its last extension. A dot at the start or at the end of a name starts no
extension. -/
def stemOf (name : List Char) : List Char :=
  let extension := name.reverse.takeWhile (· ≠ '.')
  let before := name.take (name.length - extension.length - 1)
  if extension.isEmpty || before.isEmpty || extension.length = name.length then name else before

def stem (p : Path) : String :=
  String.ofList (stemOf p.name.toList)

/-- The order of lists of names, name by name. -/
def partsLe : List String → List String → Bool
  | [], _ => true
  | _ :: _, [] => false
  | a :: as, b :: bs => a < b || (a == b && partsLe as bs)

/-- Paths are ordered by their names one after the other, not by their texts. -/
def le (p q : Path) : Bool :=
  partsLe (p.root :: p.parts) (q.root :: q.parts)

end Path

end WidgetMarkup
