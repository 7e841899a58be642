import WidgetMarkup.Settings.Basic
import WidgetMarkup.Text.Numeral

/-!
# The command line

A command line names the input folder and the output folder, with options before, between or after
them. A long option may be cut short as long as it is no other's beginning, and short options may
follow one dash. After two dashes there are no more options.
-/
namespace WidgetMarkup.CommandLine

inductive Switch where
  | help
  | version
  | verbosity
  | saveInputMeta
  | saveOutputMeta
  | inputPattern
  | optionsFile
deriving DecidableEq, Repr

namespace Switch

/-- Every way to write an option in full. -/
def spellings : List (String × Switch) := [
  ("-h", help), ("--help", help), ("-V", version), ("--version", version), ("-v", verbosity),
  ("--verbosity", verbosity), ("--saveinputmeta", saveInputMeta),
  ("--saveoutputmeta", saveOutputMeta), ("--inputPattern", inputPattern),
  ("--optionsFile", optionsFile)]

def takesValue : Switch → Bool
  | inputPattern | optionsFile => true
  | _ => false

end Switch

/-- What one word of a command line is. -/
inductive Word where
  | argument (s : String)
  /-- Two dashes. -/
  | dashes
  /-- Options without values. -/
  | switches (l : List Switch)
  /-- An option that takes a value, with the value if it is attached. -/
  | valued (s : Switch) (value : Option String)
  /-- An option that nobody knows. -/
  | unknown
  /-- Something that is no option is attached to an option that takes no value. -/
  | overloaded
  /-- The beginning of several options. -/
  | ambiguous
deriving DecidableEq, Repr

namespace Word

/-- Whether a word looks like a negative number. -/
def isNumber (s : List Char) : Bool :=
  let s := if s.getLast? = some '\n' then s.dropLast else s
  match s with
  | '-' :: r =>
    let after := r.dropWhile Text.isDecimalDigit
    match after with
    | [] => !r.isEmpty
    | '.' :: f => !f.isEmpty && f.all Text.isDecimalDigit
    | _ => false
  | _ => false

/-- A word that starts with a dash and is no option. -/
def other (s : List Char) : Word :=
  if isNumber s || s.contains ' ' then argument (String.ofList s) else unknown

/-- What follows a short option in the same word: more short options. -/
def cluster (before : List Switch) : List Char → Word
  | [] => switches before.reverse
  | c :: s =>
    match Switch.spellings.lookup (String.ofList ['-', c]) with
    | some next => cluster (next :: before) s
    | none => overloaded

/-- A short option and what follows it. An equals sign just after it may come before more. -/
def ofCluster (first : Switch) : List Char → Word
  | ['='] => overloaded
  | '=' :: s => cluster [first] s
  | s => cluster [first] s

/-- An option with a value attached to it or not. -/
def ofSwitch (s : Switch) (value : Option String) : Word :=
  if s.takesValue then valued s value
  else if value.isSome then overloaded
  else switches [s]

/-- A word that starts with two dashes, cut at the first equals sign. -/
def ofLong (word name : List Char) (value : Option String) : Word :=
  let candidates := Switch.spellings.filter fun e => name.isPrefixOf e.1.toList
  match Switch.spellings.lookup (String.ofList name), candidates with
  | some s, _ => ofSwitch s value
  | none, [] => other word
  | none, [e] => ofSwitch e.2 value
  | none, _ => ambiguous

/-- A word that starts with one dash. -/
def ofShort (word : List Char) : Word :=
  match Switch.spellings.lookup (String.ofList (word.take 2)) with
  | some s => ofCluster s (word.drop 2)
  | none => other word

/-- The part of a word after the first equals sign. -/
def attached? (s : List Char) : Option String :=
  match s.dropWhile (· ≠ '=') with
  | [] => none
  | _ :: value => some (String.ofList value)

def ofString (s : String) : Word :=
  let word := s.toList
  match word with
  | '-' :: '-' :: _ => ofLong word (word.takeWhile (· ≠ '=')) (attached? word)
  | '-' :: _ :: _ => ofShort word
  | _ => argument s

/-- The words of a command line. -/
def ofStrings : List String → List Word
  | [] => []
  | s :: rest =>
    if s = "--" then dashes :: rest.map argument else ofString s :: ofStrings rest

end Word

/-- What a run is asked to do. -/
structure Arguments where
  input : Path
  output : Path
  inputPattern : String
  optionsFile : String
  verbosity : Nat
deriving DecidableEq, Repr

inductive Request where
  | run (a : Arguments)
  | version
  | help
  /-- The command line cannot be understood. -/
  | misuse
  /-- Nothing is left of the name of the output folder. -/
  | noOutput
deriving DecidableEq, Repr

/-- What has been read of a command line. -/
structure Reading where
  /-- The folders; one that is written as two dashes and is not told apart from those that end the
  options has no name. -/
  folders : List (Option String) := []
  inputPattern : String
  optionsFile : String
  verbosity : Nat := 1
  /-- Whether there was a word too many. -/
  extra : Bool := false
  /-- Whether there was an argument since the last option. -/
  afterArgument : Bool := false
  /-- Whether the dashes that end the options belong to the argument that follows. -/
  dashesPending : Bool := false

namespace Reading

def finish (r : Reading) : Request :=
  match r.folders with
  | [some input, some output] =>
    if r.extra then .misuse
    else .run ⟨.ofString input, .ofString output, r.inputPattern, r.optionsFile, r.verbosity⟩
  | [_, none] => if r.extra then .misuse else .noOutput
  | _ => .misuse

/-- Takes in an argument. -/
def argument (r : Reading) (s : String) : Reading :=
  let folder := if s = "--" && !r.dashesPending then none else some s
  { r with folders := r.folders ++ [folder], afterArgument := true, dashesPending := false }

/-- Takes in options without values; the first that asks for something else ends the reading. -/
def switches (r : Reading) : List Switch → Except Request Reading
  | [] => .ok r
  | .help :: _ => .error .help
  | .version :: _ => .error .version
  | .verbosity :: rest => switches { r with verbosity := r.verbosity + 1 } rest
  | _ :: rest => switches r rest

/-- Gives an option its value; two dashes attached to it are no value. -/
def setValue (r : Reading) (s : Switch) (value : String) : Reading :=
  let value := if value = "--" then "" else value
  match s with
  | .inputPattern => { r with inputPattern := value, afterArgument := false }
  | .optionsFile => { r with optionsFile := value, afterArgument := false }
  | _ => r

def run : Reading → List Word → Request
  | r, [] => r.finish
  | r, .argument s :: rest => run (r.argument s) rest
  | r, .dashes :: rest =>
    if rest.isEmpty && !r.afterArgument then .misuse
    else run { r with dashesPending := !r.afterArgument } rest
  | r, .switches l :: rest =>
    match r.switches l with
    | .ok r => run { r with afterArgument := false } rest
    | .error request => request
  | r, .valued s (some value) :: rest => run (r.setValue s value) rest
  | r, .valued s none :: .argument value :: rest => run (r.setValue s value) rest
  | _, .valued _ none :: _ => .misuse
  | r, .unknown :: rest => run { r with extra := true, afterArgument := false } rest
  | _, .overloaded :: _ => .misuse
  | _, .ambiguous :: _ => .misuse

end Reading

/-- Reads a command line; what it leaves open comes from settings. -/
def read (s : Settings) (args : List String) : Request :=
  let words := Word.ofStrings args
  if words.contains .ambiguous then .misuse
  else
    ({ inputPattern := s.inputPattern, optionsFile := s.optionsFile } : Reading).run words

end WidgetMarkup.CommandLine
