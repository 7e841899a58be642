import WidgetMarkup.Markup.Location
import WidgetMarkup.Text.Quoted

/-!
# Why a text cannot be read

Places are given by the text that is left there, so that a fault means the same whatever stands
before the place. A report turns a fault into the message that a person sees: what is wrong, the
location, the line of text, and a caret below the place.
-/
namespace WidgetMarkup.Markup

/-- What is wrong with a text. -/
inductive Cause where
  | unterminatedComment
  | unterminatedDeclaration
  | malformedEndTag
  | unexpectedEndTag (name : String)
  | mismatchedEndTag (name opened : String) (line : Int)
  | unclosedTag (name : String)
  | unterminatedTag (name : String)
  | unexpectedCharacter (c : Char)
  | missingValue (name : String)
  | unterminatedValue (name : String)
deriving DecidableEq, Repr

def Cause.message : Cause → String
  | unterminatedComment => "Unterminated comment"
  | unterminatedDeclaration => "Unterminated declaration"
  | malformedEndTag => "Malformed end tag"
  | unexpectedEndTag name => s!"Unexpected end tag </{name}>"
  | mismatchedEndTag name opened line =>
    s!"End tag </{name}> does not match <{opened}> opened at line {line}"
  | unclosedTag name => s!"Unclosed tag <{name}>"
  | unterminatedTag name => s!"Unterminated tag <{name}>"
  | unexpectedCharacter c =>
    "Unexpected character " ++ Text.quoted (String.ofList [c]) ++ " in tag"
  | missingValue name => "Missing value for attribute " ++ Text.quoted name
  | unterminatedValue name => "Unterminated value for attribute " ++ Text.quoted name

/-- A cause, the text left at the place that it is reported for, and the text left where reading
stopped. -/
structure Fault where
  cause : Cause
  place : List Char
  cursor : List Char
deriving DecidableEq, Repr

/-- Why a piece of markup was not read: the text is at fault, or the piece was asked for where none
can start. -/
inductive ReadError where
  | fault (f : Fault)
  /-- A start tag was asked for where no tag name comes next. -/
  | noTagName
  /-- An attribute was asked for at the end of the text. -/
  | noCharacter
deriving DecidableEq, Repr

def ReadError.of (cause : Cause) (place : List Char) : ReadError :=
  .fault ⟨cause, place, place⟩

structure Report where
  message : String
  location : Location
deriving DecidableEq, Repr

/-- The report of a message for an offset; an offset past the text counts as its end. -/
def reportAt (source : List Char) (offset : Int) (message : String) : Report :=
  let starts := lineStarts source
  let location := locate starts (min offset source.length)
  let context := String.ofList (lineAt source ((lineStart? starts (location.line - 1)).getD 0))
  let indent := String.ofList (List.replicate (location.column - 1).toNat ' ')
  let line := toString location.line
  let column := toString location.column
  ⟨s!"\n{message}\nLine {line}, column {column}\nContext: {context}\n         {indent}^", location⟩

/-- The offset of the place where a given text is left. -/
def offsetLeft (source place : List Char) : Nat :=
  source.length - place.length

def Fault.report (source : List Char) (f : Fault) : Report :=
  reportAt source (offsetLeft source f.place) f.cause.message

end WidgetMarkup.Markup
