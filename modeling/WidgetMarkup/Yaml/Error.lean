/-!
# Why a YAML text gives no value

Either the text is no YAML document, or a scalar in it cannot be the value that it is said to be, or
the text ends before its end because what follows is no text.
-/
namespace WidgetMarkup.Yaml

/-- What is wrong with a scalar. -/
inductive ScalarError where
  /-- A number, date or code point that is not written as one, does not exist, or is too long. -/
  | outOfRange
  /-- A number that is too great to be worked with. -/
  | overflow
  /-- A flag that is no known word. -/
  | unknownFlag
  /-- A number without any character. -/
  | emptyNumber
  /-- A timestamp that does not look like one. -/
  | notTimestamp
  /-- A timestamp that is written as a collection. -/
  | collectedTimestamp
  /-- A collection that stands for a scalar that is the collection itself. -/
  | endless
deriving DecidableEq, Repr

inductive Error where
  | malformed
  /-- The text ends where a quote should be closed. -/
  | unclosed
  | scalar (e : ScalarError)
  /-- What comes next is no text. -/
  | notText
deriving DecidableEq, Repr

end WidgetMarkup.Yaml
