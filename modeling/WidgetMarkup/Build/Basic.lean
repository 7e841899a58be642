import WidgetMarkup.Build.Stage

/-!
# Building a project

The stages can be run one by one, in any order; a whole build runs each of them once.
-/
namespace WidgetMarkup.Build

inductive Stage where
  | check
  | loadOptions
  | readSources
  | gatherImports
  | compileSources
  | writeResults
  | report
deriving DecidableEq, Repr

namespace Stage

/-- The stages of a whole build. -/
def all : List Stage :=
  [check, loadOptions, readSources, gatherImports, compileSources, writeResults, report]

def run (platform : Platform) (s : Settings) (p : Project) : Stage → Run Project
  | check => Build.check s p
  | loadOptions => Build.loadOptions platform s p
  | readSources => Build.readSources s p
  | gatherImports => Build.gatherImports p
  | compileSources => Build.compileSources platform p
  | writeResults => Build.writeResults platform s p
  | report => Build.report s p

end Stage

/-- Runs stages one after the other. -/
def runStages (platform : Platform) (s : Settings) : List Stage → Project → Run Project
  | [], p => return p
  | stage :: stages, p => do
    let p ← stage.run platform s p
    runStages platform s stages p

/-- A whole build. -/
def build (platform : Platform) (s : Settings) (p : Project) : Run Project :=
  runStages platform s Stage.all p

end WidgetMarkup.Build
