import WidgetMarkup.Text.Wide

/-!
# YAML tokens

The pieces that a YAML text consists of. Block structure is made explicit: a block collection starts
with a token of its own and ends with `blockEnd`.
-/
namespace WidgetMarkup.Yaml

inductive Directive where
  | version (major minor : Nat)
  /-- A tag handle and what it expands to. -/
  | handle (name expansion : String)
  | unknown
deriving DecidableEq, Repr

/-- The text of a scalar. -/
structure ScalarText where
  text : String
  /-- The text as it is, if escapes in it name code points that are no characters. -/
  wide : Option WideText := none
deriving DecidableEq, Repr

inductive Token where
  | directive (d : Directive)
  | documentStart
  | documentEnd
  | streamEnd
  | blockSequenceStart
  | blockMappingStart
  | blockEnd
  | flowSequenceStart
  | flowSequenceEnd
  | flowMappingStart
  | flowMappingEnd
  | flowEntry
  | blockEntry
  | key
  | value
  | reference (name : String)
  | anchor (name : String)
  /-- A tag: its handle if it has one, and the rest. -/
  | tag (handle : Option String) (suffix : String)
  | scalar (s : ScalarText) (plain : Bool)
deriving DecidableEq, Repr

end WidgetMarkup.Yaml
