import WidgetMarkup.Data.Basic

/-!
# Checking values

Values from files and from the environment are taken leniently: a flag may be written as a word or
a number. What cannot be taken is an issue, with the path to the value and a code for what is wrong.
-/
namespace WidgetMarkup.Data

inductive IssueCode where
  | notMapping
  | notText
  | badText
  | notFlag
  | unknownFlag
  | notInteger
  | integerTooLong
  | unknownName
deriving DecidableEq, Repr

def IssueCode.label : IssueCode → String
  | notMapping => "dict_type"
  | notText => "string_type"
  | badText => "string_unicode"
  | notFlag => "bool_type"
  | unknownFlag => "bool_parsing"
  | notInteger => "int_parsing"
  | integerTooLong => "int_parsing_size"
  | unknownName => "extra_forbidden"

structure Issue where
  path : List String
  code : IssueCode
deriving DecidableEq, Repr

def falseWords : List String := ["0", "off", "f", "false", "n", "no"]

def trueWords : List String := ["1", "on", "t", "true", "y", "yes"]

/-- A flag written as a word in any case. -/
def flagOfWord (s : String) : Except IssueCode Bool :=
  let word := String.ofList (s.toList.map Char.toLower)
  if falseWords.contains word then .ok false
  else if trueWords.contains word then .ok true
  else .error .unknownFlag

/-- The text that bytes encode. -/
def decodeBytes? (b : List UInt8) : Option String :=
  String.fromUTF8? ⟨b.toArray⟩

/-- The integers that are looked at as flags: those of 64 bits. -/
def isWord (n : Int) : Bool :=
  -(Nat.pow 2 63 : Nat) ≤ n && n < (Nat.pow 2 63 : Nat)

/-- A flag written as a number. -/
def flagOfInt (n : Int) : Except IssueCode Bool :=
  if n = 0 then .ok false else if n = 1 then .ok true else .error .unknownFlag

/-- A flag. The least integer of 64 bits is looked at only if it is written without a fraction. -/
def flag : Data → Except IssueCode Bool
  | bool b => .ok b
  | int n => if isWord n then flagOfInt n else .error .notFlag
  | float x =>
    match (FloatParts.of x).int? with
    | some n => if isWord n && isWord (n - 1) then flagOfInt n else .error .notFlag
    | none => .error .notFlag
  | text s => flagOfWord s
  | brokenText _ => .error .badText
  | bytes b =>
    match decodeBytes? b with
    | some s => flagOfWord s
    | none => .error .unknownFlag
  | _ => .error .notFlag

/-- A text, which need not have an encoding. -/
def string : Data → Except IssueCode WideText
  | text s => .ok (.ofString s)
  | brokenText w => .ok w
  | bytes b =>
    match decodeBytes? b with
    | some s => .ok (.ofString s)
    | none => .error .badText
  | _ => .error .notText

end WidgetMarkup.Data
