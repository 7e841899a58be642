import WidgetMarkup.Data.Validation
import WidgetMarkup.Settings.Basic
import WidgetMarkup.Settings.EnvFile
import WidgetMarkup.Text.LetterCase
import WidgetMarkup.Text.Lines
import WidgetMarkup.Text.Numeral

/-!
# Settings from variables

Each setting can be given by a variable, in the environment or in a file of variables; the
environment wins. The name of the variable is that of the setting after `PUGWIDGETS_`, in any case.
Other variables of the environment are not looked at, but in the file they are issues.
-/
namespace WidgetMarkup.Settings

open Data (Issue IssueCode)

/-- The settings, in the order in which their issues are reported. -/
inductive Field where
  | optionsFile
  | inputPattern
  | debugMode
  | strictMode
  | outputSuffix
  | jsonIndent
deriving DecidableEq, Repr

namespace Field

def all : List Field := [optionsFile, inputPattern, debugMode, strictMode, outputSuffix, jsonIndent]

def label : Field → String
  | optionsFile => "options_file"
  | inputPattern => "input_pattern"
  | debugMode => "debug_mode"
  | strictMode => "strict_mode"
  | outputSuffix => "output_suffix"
  | jsonIndent => "json_indent"

/-- The name of the variable in lower case. -/
def variableName (f : Field) : String :=
  "pugwidgets_" ++ f.label

end Field

def lower (s : String) : String :=
  String.ofList (Text.lowerCase s.toList)

/-- Digits without the zeros before them; underscores between these zeros vanish with them. A minus
sign counts as a digit here. -/
def dropZeros (s : List Char) : Option (List Char) :=
  let starts (c : Char) : Bool := c.isDigit || c = '-'
  match s with
  | '0' :: r =>
    let zeros := r.takeWhile fun c => c = '0' || c = '_'
    match r.drop zeros.length with
    | [] => s.getLast?.map fun c => [c]
    | '.' :: rest => some ((s.take (zeros.length + 1)).getLast?.toList ++ '.' :: rest)
    | c :: rest => if starts c then some (c :: rest) else none
  | c :: _ => if starts c then some s else none
  | [] => none

/-- A number without a fraction of zeros. -/
def dropFraction (s : List Char) : List Char :=
  let whole := s.takeWhile (· ≠ '.')
  let fraction := (s.drop whole.length).drop 1
  if !fraction.isEmpty && fraction.all (· = '0') then whole else s

/-- Whether two underscores follow each other. -/
def hasDoubleUnderscore : List Char → Bool
  | '_' :: '_' :: _ => true
  | _ :: s => hasDoubleUnderscore s
  | [] => false

/-- A number without the single underscores inside of it. -/
def dropUnderscores (s : List Char) : Option (List Char) :=
  if s.head? = some '_' || s.getLast? = some '_' || hasDoubleUnderscore s then none
  else some (s.filter (· ≠ '_'))

/-- A number without its minus sign, and whether it had one. -/
def splitMinus : List Char → Bool × List Char
  | '-' :: s => (true, s)
  | s => (false, s)

/-- The digits of a lenient integer, and whether it is negative. Margins around it, a plus sign,
zeros before it, a fraction of zeros, and single underscores between digits are left out. The minus
sign stands before the zeros or after them. -/
def indentDigits? (text : String) : Option (Bool × List Char) := do
  let (minus, s) ← match Text.trimMargins text.toList with
    | '+' :: '-' :: _ => none
    | '+' :: s => some (false, s)
    | s => some (splitMinus s)
  let s ← dropUnderscores (dropFraction (← dropZeros s))
  let (late, digits) := splitMinus s
  if (minus && late) || digits.isEmpty || !digits.all Char.isDigit then none
  else if digits.head? = some '0' && 1 < digits.length then none
  else some (minus || late, digits)

/-- An integer, leniently. -/
def readIndent (text : String) : Except IssueCode Int :=
  match indentDigits? text with
  | none => .error .notInteger
  | some (negative, digits) =>
    if Text.digitLimit < digits.length then .error .integerTooLong
    else
      let n : Int := Text.ofDigitValues 10 (digits.filterMap Text.digitValue?)
      .ok (if negative then -n else n)

/-- Gives one setting the value that a text stands for. -/
def set (s : Settings) (f : Field) (text : String) : Except IssueCode Settings :=
  match f with
  | .optionsFile => .ok { s with optionsFile := text }
  | .inputPattern => .ok { s with inputPattern := text }
  | .outputSuffix => .ok { s with outputSuffix := text }
  | .debugMode => (Data.flagOfWord text).map fun b => { s with debugMode := b }
  | .strictMode => (Data.flagOfWord text).map fun b => { s with strictMode := b }
  | .jsonIndent => (readIndent text).map fun n => { s with jsonIndent := n }

/-- The last value given to a name, names being compared in lower case. -/
def lastValue? (name : String) (given : List (String × Option String)) : Option String :=
  ((given.filter fun v => lower v.1 = name).getLast?).bind (·.2)

/-- The names of a file that are no setting and have a value, in lower case and once each. A name of
a setting alone, without what comes before it in a variable, is passed over. -/
def unknownNames (file : List (String × Option String)) : List String :=
  let names := (file.map fun v => lower v.1).eraseDups
  names.filter fun n =>
    !(Field.all.any fun f => f.variableName = n || f.label = n) &&
      ((lastValue? n file).any fun v => v ≠ "")

/-- The settings and the issues after one more setting has been looked for. -/
def readField (environment file : List (String × Option String))
    (state : Settings × List Issue) (f : Field) : Settings × List Issue :=
  match (lastValue? f.variableName environment).orElse fun _ => lastValue? f.variableName file with
  | none => state
  | some text =>
    match state.1.set f text with
    | .ok s => (s, state.2)
    | .error e => (state.1, state.2 ++ [⟨[f.label], e⟩])

/-- Settings from the variables of the environment and from those of a file. -/
def ofVariables (environment : List (String × String)) (file : List (String × Option String)) :
    Except (List Issue) Settings :=
  let around := environment.map fun v => (v.1, some v.2)
  let (s, issues) := Field.all.foldl (readField around file) ({}, [])
  match issues ++ (unknownNames file).map fun n => ⟨[n], .unknownName⟩ with
  | [] => .ok s
  | issues => .error issues

/-- Settings from the environment and the text of a file of variables, if there is one. Its lines may
end in any way. -/
def read (environment : List (String × String)) (file : Option (List Char)) :
    Except (List Issue) Settings :=
  let given := file.map fun text => EnvFile.read environment (Text.unifyLineEnds text)
  ofVariables environment (given.getD [])

end WidgetMarkup.Settings
