import WidgetMarkup.Disk.Path

/-!
# Settings

Settings say where sources are found, how strict a run is, and how results are written.
-/
namespace WidgetMarkup

structure Settings where
  /-- The options file, below the input folder. -/
  optionsFile : String := "pugwidgets.yaml"
  /-- The pattern that selects sources. -/
  inputPattern : String := "*.html"
  /-- Whether errors are shown with a trace. -/
  debugMode : Bool := false
  /-- Whether diagnostics make a run fail. -/
  strictMode : Bool := false
  /-- What is added to the stem of a source to name its output. -/
  outputSuffix : String := ".widgets.json"
  jsonIndent : Int := 2
deriving DecidableEq, Repr

namespace Settings

/-- The name of the output for a source. -/
def outputName (s : Settings) (source : Path) : String :=
  source.stem ++ s.outputSuffix

end Settings

end WidgetMarkup
