import WidgetMarkup.Compile.Basic

/-!
# A compiler that is used more than once

A compiler keeps its options and the diagnostics of what it has been asked for. A call leaves a trace,
and what happens in a call changes the compiler at once: a document that is started clears the
diagnostics, and a problem adds one. So a call that breaks off leaves behind what it has recorded.
-/
namespace WidgetMarkup.Compile

open Markup (Element StartTag)

/-- What a compiler can be asked for. -/
inductive Call where
  | document (elements : List Element)
  | tag (start : StartTag) (children : List Element)
  | content (children : List Element)
  | text (data : String)
  | position (start : StartTag) (value : Option String)
  /-- The type arguments of a widget that is at a place. -/
  | generics (start : StartTag) (place : Option Int × Option Int) (value : Option String)
  | param (written : String) (kind : ParamKind) (name : String) (value : Option String)

inductive Reply where
  | widgets (ws : List Widget)
  | widget (w : Widget)
  | position (line column : Option Int)
  | generics (names : Option (List String))
  | param (p : Param)

/-- The answer to a call, with the trace that it leaves. -/
def Call.run (o : Options) : Call → Traced Reply
  | document elements => .widgets <$> compile o elements
  | tag start children => .widget <$> compileTag o start children
  | content children => .widgets <$> contentWidgets o children
  | text data => .widgets <$> textWidgets o data
  | position start value => (fun p => .position p.1 p.2) <$> readPosition start value
  | generics start place value => .generics <$> readGenerics start place value
  | param written kind name value => .param <$> Traced.lift (makeParam written kind name value)

structure Compiler where
  options : Options := {}
  diagnostics : List Diagnostic := []

namespace Compiler

/-- What an event changes in a compiler. -/
def note (c : Compiler) : Event → Compiler
  | .started _ => { c with diagnostics := [] }
  | .problem d => { c with diagnostics := c.diagnostics ++ [d] }
  | .tag _ _ => c
  | .finished _ _ => c

/-- The compiler after a computation, whether or not this has broken off. -/
def after {α : Type} (c : Compiler) (t : Traced α) : Compiler :=
  t.events.foldl note c

/-- Answers a call. -/
def call (c : Compiler) (request : Call) : Except Text.NumeralTooLong Reply × Compiler :=
  let t := request.run c.options
  (t.result, c.after t)

end Compiler

end WidgetMarkup.Compile
