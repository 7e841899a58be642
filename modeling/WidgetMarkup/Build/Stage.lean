import WidgetMarkup.Build.Project
import WidgetMarkup.Build.Run
import WidgetMarkup.Compile.Session
import WidgetMarkup.Imports
import WidgetMarkup.Json.Printer
import WidgetMarkup.Markup.Reader
import WidgetMarkup.Options.File
import WidgetMarkup.Settings.Basic

/-!
# The stages of a build

A build looks up the sources, loads the options, reads all sources, takes their imports out, compiles
them, writes one document per source and reports what happened. Each stage takes the project from
where the stage before has left it; nothing is written before everything is compiled.

How options are loaded and how deep a tree may be is for the platform to say. By default options are
loaded as this library loads them, and no tree is too deep.
-/
namespace WidgetMarkup.Build

open Compile (Compiler)
open Markup (Element)

/-- What a build relies on. -/
structure Platform where
  /-- Loads options from a file. -/
  load : Disk → Path → Except Options.LoadError LoadedOptions := Options.load
  /-- After how many events the stack is full when elements are compiled, if that happens. -/
  stackFullAt : List Element → Option Nat := fun _ => none
  /-- Whether the stack is full before a document has become a text. -/
  stackFullFor : Json → Bool := fun _ => false

/-- A text that is there and not empty, or another one. -/
def orElseText (given : Option String) (fallback : String) : String :=
  match given with
  | some s => if s = "" then fallback else s
  | none => fallback

/-- A path as messages show it. -/
def showPath : Option Path → String
  | some p => p.text
  | none => "None"

/-- Stops with a message. There is a trace at verbosity 3 or in debug mode. -/
def giveUp {α : Type} (s : Settings) (p : Project) (message : String) : Run α := do
  complain message
  stop (.exit 1 (3 ≤ p.verbosity || s.debugMode))

/-- Stops with a message that needs no trace. -/
def refuse {α : Type} (message : String) : Run α := do
  complain message
  stop (.exit 1 false)

def title : String :=
  "\n                             _     _            _
  _ __  _   _  __ ___      _(_) __| | __ _  ___| |_ ___
 | '_ \\| | | |/ _\x60 \\ \\ /\\ / / |/ _\x60 |/ _\x60 |/ _ \\ __/ __|
 | |_) | |_| | (_| |\\ V  V /| | (_| | (_| |  __/ |_\\__ \\
 | .__/ \\__,_|\\__, | \\_/\\_/ |_|\\__,_|\\__, |\\___|\\__|___/
 |_|          |___/                  |___/

  Markup to widget-tree compiler
"

/-- Looks up the folders and the sources. -/
def check (s : Settings) (p : Project) : Run Project := do
  log 2 title
  log 2 "Checking environment..."
  let notFound := "Error: Input directory not found: " ++ showPath p.inputFolder
  let some input := p.inputFolder | refuse notFound
  unless ← orFail .disk ((← currentDisk).isFolder input) do refuse notFound
  let text := orElseText p.inputPattern s.inputPattern
  let pattern ← orFail .pattern (Pattern.ofString text)
  let files ← orFail .disk (pattern.files (← currentDisk) input)
  if files.isEmpty then
    refuse ("Error: No files matching " ++ Text.quoted text ++ " in " ++ input.text)
  log 2 s!"Found {files.length} source files"
  let some output := p.outputFolder
    | refuse "Error: No output directory given"
  setDisk (← orFail .disk ((← currentDisk).ensureFolders output))
  log 2 ("Output directory: " ++ output.text)
  return { p with sources := .found files, checked := true }

/-- Loads the options. -/
def loadOptions (platform : Platform) (s : Settings) (p : Project) : Run Project := do
  let some input := p.inputFolder | fail .noFolder
  let file := input.join (.ofString (orElseText p.optionsFile s.optionsFile))
  log 2 ("Loading compile options from " ++ file.text)
  let loaded ← match platform.load (← currentDisk) file with
    | .ok l => pure l
    | .error (.options e) => giveUp s p ("Options error: " ++ e.message)
    | .error (.failure e) => fail (.options e)
  log 3 ("Tag aliases: " ++ loaded.showAliases)
  return { p with options := some loaded.options, encodesText := loaded.encodesText }

/-- The roots of a source with their number in the log. -/
def readSource (s : Settings) (p : Project) (file : Path) : Run (List Element) := do
  let content ← match (← currentDisk).read file with
    | .ok content => pure content
    | .error e => giveUp s p ("Error reading input file: " ++ e.message file)
  let some text := Text.ofFile? content | fail .notText
  log 2 (s!"Read {text.length} characters from " ++ file.name)
  match Markup.readChars text with
  | .ok roots =>
    log 3 s!"Read {roots.length} root elements"
    log 2 s!"Parsed {roots.length} root elements"
    return roots
  | .error (.fault f) =>
    giveUp s p ("Parse error in " ++ file.name ++ ": " ++ (f.report text).message)
  | .error e => fail (.markup e)

/-- Does something with each item and keeps the results beside the items. -/
def forEach {α β : Type} (f : α → Run β) : List α → Run (List (α × β))
  | [] => return []
  | a :: as => do
    let b ← f a
    let rest ← forEach f as
    return (a, b) :: rest

/-- Reads all sources. -/
def readSources (s : Settings) (p : Project) : Run Project := do
  log 1 "Reading source files..."
  match p.sources with
  | .named [] => return { p with parsed := [] }
  | .named _ => fail .onlyName
  | .found files => return { p with parsed := ← forEach (readSource s p) files }

/-- Takes the imports out of all sources. -/
def gatherImports (p : Project) : Run Project := do
  let splits ← forEach (fun (file, roots) => do
    let split := Imports.split roots
    let tags := roots.length - split.elements.length
    log 3 s!"Extracted {split.imports.length} imports from {tags} import tags"
    log 2 (file.name ++ s!": {split.imports.length} imports")
    return split) p.parsed
  return { p with
    parsed := splits.map fun ((file, _), split) => (file, split.elements)
    imports := splits.map fun ((file, _), split) => (file, split.imports) }

/-- An event as the log shows it. -/
def showEvent : Compile.Event → LogEntry
  | .started roots => ⟨2, s!"Compiling {roots} root elements..."⟩
  | .tag name widget => ⟨3, "Tag <" ++ name ++ "> -> " ++ widget⟩
  | .problem d => ⟨2, "Diagnostic " ++ d.describe⟩
  | .finished widgets diagnostics =>
    ⟨2, s!"Compiled {widgets} root widgets with {diagnostics} diagnostics"⟩

def logEvents (events : List Compile.Event) : Run Unit :=
  modify fun w => { w with log := w.log ++ events.map showEvent }

/-- Compiles one source with a compiler that may have compiled others before. -/
def compileSource (platform : Platform) (c : Compiler) (file : Path) (roots : List Element) :
    Run (Result × Compiler) := do
  let traced := Compile.compile c.options roots
  match platform.stackFullAt roots with
  | some n =>
    logEvents (traced.events.take n)
    fail .stack
  | none =>
    logEvents traced.events
    let widgets ← orFail .numeral traced.result
    let c := c.after traced
    log 2 (file.name ++ s!": {widgets.length} widgets")
    return (⟨widgets, c.diagnostics⟩, c)

/-- Compiles sources one after the other with the same compiler. -/
def compileInTurn (platform : Platform) (c : Compiler) :
    List (Path × List Element) → Run (List (Path × Result))
  | [] => return []
  | (file, roots) :: sources => do
    let (r, c) ← compileSource platform c file roots
    let results ← compileInTurn platform c sources
    return (file, r) :: results

/-- Compiles all sources. -/
def compileSources (platform : Platform) (p : Project) : Run Project := do
  log 1 "Compiling markup to widgets..."
  let results ← compileInTurn platform { options := p.options.getD {} } p.parsed
  return { p with results }

/-- Writes a file. -/
def writeFile (s : Settings) (p : Project) (file : Path) (content : ByteArray) : Run Unit := do
  match (← currentDisk).write file content with
  | .ok d => setDisk d
  | .error .nullCharacter => fail (.disk .nullCharacter)
  | .error e => giveUp s p ("Error writing " ++ file.text ++ ": " ++ e.message file)

/-- Writes the document of one source. If it has no encoding, this shows only when its file is open,
which is left empty then. -/
def writeResult (platform : Platform) (s : Settings) (p : Project) (source : Path) (r : Result) :
    Run Path := do
  let json := document source ((p.imports.lookup source).getD []) r
  if platform.stackFullFor json then fail .stack
  let some output := p.outputFolder | fail .noFolder
  let file := output.join (.ofString (s.outputName source))
  let encodes := r.encodes (p.options.getD {}) p.encodesText
  let text := Json.render (.ofIndent s.jsonIndent) json
  writeFile s p file (if encodes then text.toUTF8 else .empty)
  unless encodes do fail .encoding
  log 2 ("Wrote " ++ file.text)
  return file

/-- Writes the documents of all sources. -/
def writeResults (platform : Platform) (s : Settings) (p : Project) : Run Project := do
  let outputs ← forEach (fun (source, r) => writeResult platform s p source r) p.results
  return { p with outputs := outputs.map (·.2) }

/-- Reports what happened. -/
def report (s : Settings) (p : Project) : Run Project := do
  if p.outputs.isEmpty then refuse "Error: Compilation failed"
  let lines := p.results.flatMap fun (source, r) =>
    r.diagnostics.map fun d => source.name ++ ": " ++ d.describe
  lines.forM complain
  let widgets := p.results.foldl (fun n (_, r) => n + r.widgets.length) 0
  log 1 "\n✓ Compilation finished"
  log 1 s!"  Files:       {p.outputs.length}"
  log 1 s!"  Widgets:     {widgets}"
  log 1 s!"  Diagnostics: {lines.length}"
  if s.strictMode && !lines.isEmpty then
    refuse s!"Error: {lines.length} diagnostics in strict mode"
  return p

end WidgetMarkup.Build
