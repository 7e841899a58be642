import WidgetMarkup.Markup.Fault
import WidgetMarkup.Text.Blank
import WidgetMarkup.Text.Word

/-!
# Pieces of markup

Each function here reads one piece at the start of a text and gives it with the text that is left,
or says why it cannot. Names are kept exactly as written.

An attribute without a value has its own name as value. A value stands between quotes of either
kind, or bare up to the next blank or delimiter; a slash at the end of a bare value belongs to the
tag if the tag ends right after it.
-/
namespace WidgetMarkup.Markup

open Text

def skipBlank (s : List Char) : List Char :=
  s.dropWhile isBlank

/-- What follows the first occurrence of a pattern. -/
def afterFirst? (pattern : List Char) : List Char → Option (List Char)
  | [] => if pattern.isEmpty then some [] else none
  | c :: s =>
    if pattern.isPrefixOf (c :: s) then some ((c :: s).drop pattern.length)
    else afterFirst? pattern s

def isNameStart (c : Char) : Bool :=
  c.isAlpha || c == '_'

def isNameChar (c : Char) : Bool :=
  isWordChar c || c == '.' || c == '-' || c == ':'

def isAttributeChar (c : Char) : Bool :=
  !(isBlank c || c == '=' || c == '/' || c == '>' || c == '"' || c == '\'' || c == '<')

/-- A character of a value without quotes. The last of the delimiters is the grave accent. -/
def isBareChar (c : Char) : Bool :=
  !(isBlank c || c == '>' || c == '"' || c == '\'' || c == '<' || c == '=' || c == '\x60')

/-- The tag name at the start of a text. -/
def tagName? : List Char → Option (List Char × List Char)
  | [] => none
  | c :: s => if isNameStart c then some (c :: s.takeWhile isNameChar, s.dropWhile isNameChar)
    else none

/-- The elements that never have content, and so no end tag. -/
def voidElements : List String :=
  ["area", "base", "br", "col", "embed", "hr", "img", "input", "link", "meta", "source", "track",
    "wbr"]

/-- The small letter of a Latin capital. The Kelvin sign counts as a capital K. -/
def lowerLetter (c : Char) : Char :=
  if c.toNat = 0x212a then 'k' else c.toLower

def isVoid (name : String) : Bool :=
  voidElements.contains (String.ofList (name.toList.map lowerLetter))

/-- The value of the named attribute, read after its equals sign and blanks. -/
def readValue (name : List Char) (s : List Char) : Except ReadError (List Char × List Char) :=
  match s with
  | [] => .error (.of (.missingValue (String.ofList name)) s)
  | quote :: t =>
    if quote = '"' ∨ quote = '\'' then
      match t.dropWhile (· ≠ quote) with
      | [] => .error (.of (.unterminatedValue (String.ofList name)) s)
      | _ :: rest => .ok (t.takeWhile (· ≠ quote), rest)
    else
      let value := s.takeWhile isBareChar
      let rest := s.dropWhile isBareChar
      if value = [] then .error (.of (.missingValue (String.ofList name)) s)
      else if value.getLast? = some '/' ∧ rest.head? = some '>' then
        .ok (value.dropLast, '/' :: rest)
      else .ok (value, rest)

/-- One attribute: its name and its value. -/
def readAttribute (s : List Char) : Except ReadError ((String × String) × List Char) :=
  let name := s.takeWhile isAttributeChar
  if name = [] then
    match s with
    | [] => .error .noCharacter
    | c :: _ => .error (.of (.unexpectedCharacter c) s)
  else
    let rest := skipBlank (s.dropWhile isAttributeChar)
    match rest with
    | [] => .ok ((String.ofList name, String.ofList name), rest)
    | c :: t =>
      if c = '=' then do
        let (value, rest) ← readValue name (skipBlank t)
        pure ((String.ofList name, String.ofList value), rest)
      else .ok ((String.ofList name, String.ofList name), rest)

theorem length_dropWhile_le (p : Char → Bool) (s : List Char) :
    (s.dropWhile p).length ≤ s.length :=
  (List.dropWhile_suffix p).length_le

theorem length_readValue_le {name s value rest : List Char}
    (h : readValue name s = .ok (value, rest)) : rest.length ≤ s.length := by
  unfold readValue at h
  split at h
  · cases h
  · rename_i quote t
    split at h
    · split at h
      · cases h
      · rename_i d rest' heq
        injection h with h
        injection h with _ h
        subst h
        have := length_dropWhile_le (· ≠ quote) t
        rw [heq] at this
        simp only [List.length_cons] at this ⊢
        omega
    · dsimp only at h
      split at h
      · cases h
      · rename_i hvalue
        have hsplit := congrArg List.length
          (List.takeWhile_append_dropWhile (p := isBareChar) (l := quote :: t))
        rw [List.length_append] at hsplit
        have hpos : 0 < ((quote :: t).takeWhile isBareChar).length := by
          cases hv : (quote :: t).takeWhile isBareChar with
          | nil => exact absurd hv hvalue
          | cons => simp
        split at h <;> injection h with h <;> injection h with _ h <;> subst h
        · simp only [List.length_cons] at hsplit ⊢
          omega
        · omega

/-- Reading an attribute uses up at least one character. -/
theorem length_readAttribute_lt {s rest : List Char} {a : String × String}
    (h : readAttribute s = .ok (a, rest)) : rest.length < s.length := by
  unfold readAttribute at h
  dsimp only at h
  split at h
  · split at h <;> cases h
  · rename_i hname
    have hsplit := congrArg List.length
      (List.takeWhile_append_dropWhile (p := isAttributeChar) (l := s))
    rw [List.length_append] at hsplit
    have hpos : 0 < (s.takeWhile isAttributeChar).length := by
      cases hv : s.takeWhile isAttributeChar with
      | nil => exact absurd hv hname
      | cons => simp
    have hskip := length_dropWhile_le isBlank (s.dropWhile isAttributeChar)
    unfold skipBlank at h
    split at h
    · injection h with h
      injection h with _ h
      subst h
      omega
    · rename_i c t heq
      split at h
      · cases hv : readValue (s.takeWhile isAttributeChar) (t.dropWhile isBlank) with
        | error e => rw [hv] at h; cases h
        | ok p =>
          rw [hv] at h
          have hle := length_readValue_le hv
          have := length_dropWhile_le isBlank t
          rw [heq, List.length_cons] at hskip
          injection h with h
          injection h with _ h
          subst h
          omega
      · injection h with h
        injection h with _ h
        subst h
        omega

/-- A start tag as written: all its attributes in order, and whether it has no content. -/
structure WrittenTag where
  name : String
  attributes : List (String × String)
  closed : Bool
deriving DecidableEq, Repr

/-- The attributes up to the end of the tag that starts at `start`, whether the tag is closed by a
slash, and the text after the tag. -/
def readAttributes (start : List Char) (name : String) (s : List Char) :
    Except ReadError (List (String × String) × Bool × List Char) :=
  match _hs : skipBlank s with
  | [] => .error (.fault ⟨.unterminatedTag name, start, []⟩)
  | c :: t =>
    if c = '>' then .ok ([], false, t)
    else if c = '/' ∧ t.head? = some '>' then .ok ([], true, t.tail)
    else
      match _ha : readAttribute (c :: t) with
      | .error e => .error e
      | .ok (a, rest) => do
        let (as, slash, rest) ← readAttributes start name rest
        pure (a :: as, slash, rest)
termination_by s.length
decreasing_by
  have hle := length_dropWhile_le isBlank s
  have hlt := length_readAttribute_lt _ha
  rw [← _hs, skipBlank] at hlt
  omega

/-- A start tag. The first character, the angle bracket, is not looked at. -/
def readStartTag (s : List Char) : Except ReadError (WrittenTag × List Char) :=
  match tagName? (s.drop 1) with
  | none => .error .noTagName
  | some (name, rest) => do
    let (attributes, slash, rest) ← readAttributes s (String.ofList name) rest
    pure (⟨String.ofList name, attributes, slash || isVoid (String.ofList name)⟩, rest)

/-- An end tag; blanks may stand around its name. -/
def readEndTag (s : List Char) : Except ReadError (String × List Char) :=
  if ['<', '/'].isPrefixOf s then
    match tagName? (skipBlank (s.drop 2)) with
    | none => .error (.of .malformedEndTag s)
    | some (name, rest) =>
      match skipBlank rest with
      | [] => .error (.of .malformedEndTag s)
      | c :: t => if c = '>' then .ok (String.ofList name, t) else .error (.of .malformedEndTag s)
  else .error (.of .malformedEndTag s)

/-- The text after a comment, whose opening takes the first four characters. -/
def skipComment (s : List Char) : Except ReadError (List Char) :=
  match afterFirst? ['-', '-', '>'] (s.drop 4) with
  | none => .error (.of .unterminatedComment s)
  | some rest => .ok rest

/-- The text after a declaration or a processing instruction. -/
def skipDeclaration (s : List Char) : Except ReadError (List Char) :=
  match afterFirst? ['>'] s with
  | none => .error (.of .unterminatedDeclaration s)
  | some rest => .ok rest

end WidgetMarkup.Markup
