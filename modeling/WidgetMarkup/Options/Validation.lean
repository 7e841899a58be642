import WidgetMarkup.Data.Validation
import WidgetMarkup.Options.Loaded

/-!
# Options from a document

An options document is a mapping, or nothing at all, which asks for the defaults. Each option goes
by two names; if both are given the first counts and the other is not looked at. Other keys are
ignored.
-/
namespace WidgetMarkup

/-- Why options cannot be had. -/
inductive OptionsError where
  /-- The document is a value of this kind. -/
  | notMapping (kind : String)
  | invalid (issues : List Data.Issue)
  /-- The file of this name is no document. -/
  | malformed (fileName : String)
  /-- The file of this name cannot be read, for a reason. -/
  | unreadable (fileName reason : String)
deriving DecidableEq, Repr

def OptionsError.message : OptionsError → String
  | notMapping kind => "Options must be a mapping, got " ++ kind
  | invalid _ => "Invalid compile options"
  | malformed fileName => "Failed to parse " ++ fileName
  | unreadable fileName reason => "Failed to load " ++ fileName ++ ": " ++ reason

namespace Options

def aliasKeys : List String := ["tagAliases", "tag_aliases"]

def constKeys : List String := ["autoConstText", "auto_const_text"]

/-- The first of some keys that a mapping has, with its value. -/
def firstKey? (entries : List (Data × Data)) (keys : List String) : Option (String × Data) :=
  keys.findSome? fun key => (Data.lookup? key entries).map (key, ·)

/-- Gives a tag name its alias, in its place if it has one already. -/
def insertAlias (name replacement : WideText) :
    List (WideText × WideText) → List (WideText × WideText)
  | [] => [(name, replacement)]
  | e :: es =>
    if e.1 = name then (name, replacement) :: es else e :: insertAlias name replacement es

/-- The issues of one alias, or the alias. -/
def checkAlias (field : String) (entry : Data × Data) :
    List Data.Issue × Option (WideText × WideText) :=
  let shown := entry.1.keyText
  match entry.1.string, entry.2.string with
  | .ok name, .ok replacement => ([], some (name, replacement))
  | .error e, .ok _ => ([⟨[field, shown, "[key]"], e⟩], none)
  | .ok _, .error e => ([⟨[field, shown], e⟩], none)
  | .error e, .error f => ([⟨[field, shown, "[key]"], e⟩, ⟨[field, shown], f⟩], none)

def checkAliases (field : String) (entries : List (Data × Data)) :
    List Data.Issue × List (WideText × WideText) :=
  let checked := entries.map (checkAlias field)
  (checked.flatMap (·.1),
    (checked.filterMap (·.2)).foldl (fun acc e => insertAlias e.1 e.2 acc) [])

/-- Options from a mapping. -/
def ofEntries (entries : List (Data × Data)) : Except OptionsError LoadedOptions :=
  let (aliasIssues, aliases) := match firstKey? entries aliasKeys with
    | none => ([], ({} : LoadedOptions).tagAliases)
    | some (key, .mapping inner) => checkAliases key inner
    | some (key, _) => ([⟨[key], .notMapping⟩], [])
  let (constIssues, const) := match firstKey? entries constKeys with
    | none => ([], false)
    | some (key, v) =>
      match v.flag with
      | .ok b => ([], b)
      | .error e => ([(⟨[key], e⟩ : Data.Issue)], false)
  match aliasIssues ++ constIssues with
  | [] => .ok ⟨aliases, const⟩
  | issues => .error (.invalid issues)

def ofData : Data → Except OptionsError LoadedOptions
  | .null => .ok {}
  | .mapping entries => ofEntries entries
  | v => .error (.notMapping v.kind)

end Options

end WidgetMarkup
