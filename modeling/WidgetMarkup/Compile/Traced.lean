import WidgetMarkup.Compile.Diagnostic
import WidgetMarkup.Text.Numeral

/-!
# Computations that leave a trace

Compiling leaves a trace of what happened, in order: tags that were met and problems that were
found. It can also break off, when a numeral is too long to be read; the trace up to there remains.
A step never looks at the trace of the steps before it.
-/
namespace WidgetMarkup.Compile

/-- Something that happened. -/
inductive Event where
  /-- A document with so many roots is compiled. -/
  | started (roots : Nat)
  /-- A tag becomes a widget of a class. -/
  | tag (name widget : String)
  | problem (d : Diagnostic)
  /-- A document has become so many widgets, with so many diagnostics. -/
  | finished (widgets diagnostics : Nat)
deriving DecidableEq, Repr

def Event.diagnostic? : Event → Option Diagnostic
  | problem d => some d
  | _ => none

/-- A trace, and the result unless the computation broke off. -/
structure Traced (α : Type) where
  events : List Event
  result : Except Text.NumeralTooLong α

namespace Traced

variable {α β : Type}

def pure (a : α) : Traced α :=
  ⟨[], .ok a⟩

def bind (x : Traced α) (f : α → Traced β) : Traced β :=
  match x.result with
  | .ok a => ⟨x.events ++ (f a).events, (f a).result⟩
  | .error e => ⟨x.events, .error e⟩

instance : Monad Traced where
  pure := pure
  bind := bind

/-- Records an event. -/
def emit (e : Event) : Traced Unit :=
  ⟨[e], .ok ()⟩

/-- A computation without a trace. -/
def lift (r : Except Text.NumeralTooLong α) : Traced α :=
  ⟨[], r⟩

/-- Does something with each item in order. -/
def each (f : α → Traced β) : List α → Traced (List β)
  | [] => pure []
  | a :: as => do
    let b ← f a
    let bs ← each f as
    return b :: bs

/-- The problems found, in order. -/
def diagnostics (x : Traced α) : List Diagnostic :=
  x.events.filterMap Event.diagnostic?

end Traced

end WidgetMarkup.Compile
