import WidgetMarkup.Disk.Selection
import WidgetMarkup.Markup.Fault
import WidgetMarkup.Options.Loaded
import WidgetMarkup.Text.Numeral

/-!
# What happens during a run

A run changes the disk, prints lines for a person to see, and keeps a log in which every entry has a
level. It can stop early: with an exit status, or with a failure that nobody has provided for. What
has happened up to there remains.
-/
namespace WidgetMarkup.Build

/-- A failure that nobody has provided for. -/
inductive Failure where
  /-- A source is not UTF-8 text. -/
  | notText
  | options (e : Options.LoadFailure)
  | numeral (e : Text.NumeralTooLong)
  | pattern (e : PatternError)
  | disk (e : DiskError)
  | markup (e : Markup.ReadError)
  /-- A folder is needed and none is given. -/
  | noFolder
  /-- A source is known by its name only. -/
  | onlyName
  /-- The stack is full. -/
  | stack
  /-- A document has no encoding. -/
  | encoding
deriving DecidableEq, Repr

/-- Why a run stops early. -/
inductive Stop where
  /-- With an exit status, and with a trace of what led to it if so. -/
  | exit (status : Nat) (trace : Bool)
  | failure (e : Failure)
deriving DecidableEq, Repr

structure LogEntry where
  /-- The verbosity from which on the entry is shown. -/
  level : Nat
  text : String
deriving DecidableEq, Repr

/-- What a run has done so far. -/
structure World where
  disk : Disk
  log : List LogEntry := []
  errors : List String := []

/-- The entries that a verbosity shows. -/
def World.shownLog (w : World) (verbosity : Int) : List String :=
  (w.log.filter fun e => e.level ≤ verbosity).map (·.text)

abbrev Run := ExceptT Stop (StateM World)

def log (level : Nat) (text : String) : Run Unit :=
  modify fun w => { w with log := w.log ++ [⟨level, text⟩] }

/-- Prints a line for a person to see. -/
def complain (line : String) : Run Unit :=
  modify fun w => { w with errors := w.errors ++ [line] }

def stop {α : Type} (s : Stop) : Run α :=
  throw s

def fail {α : Type} (e : Failure) : Run α :=
  throw (.failure e)

def currentDisk : Run Disk := do
  return (← get).disk

def setDisk (d : Disk) : Run Unit :=
  modify fun w => { w with disk := d }

/-- The value, or a failure. -/
def orFail {ε α : Type} (f : ε → Failure) : Except ε α → Run α
  | .ok a => return a
  | .error e => fail (f e)

end WidgetMarkup.Build
