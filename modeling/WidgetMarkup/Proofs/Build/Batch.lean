import WidgetMarkup.Proofs.Build.Completion

/-!
# Sources that are compiled together

All sources of a project go through one compiler, one after the other. Still each of them is compiled
as it would be alone: its imports are taken out and a new compiler is asked for the rest of it. What
becomes of a source depends on its own elements and on the options, and not on the sources before or
after it.
-/
namespace WidgetMarkup.Build

open Compile (Compiler)
open Markup (Element)

section Lookup

variable {α β γ : Type} [BEq α]

theorem lookup_map_snd (l : List (α × β)) (f : β → γ) (a : α) :
    (l.map fun e => (e.1, f e.2)).lookup a = (l.lookup a).map f := by
  induction l with
  | nil => rfl
  | cons e l ih =>
    rw [List.map_cons, List.lookup_cons, List.lookup_cons, ih]
    cases a == e.1 with
    | false => rfl
    | true => rfl

theorem exists_lookup {l : List ((α × β) × γ)} {P : β → γ → Prop} (h : ∀ e ∈ l, P e.1.2 e.2)
    {a : α} {b : β} (hlookup : (l.map (·.1)).lookup a = some b) :
    ∃ c, (l.map fun e => (e.1.1, e.2)).lookup a = some c ∧ P b c := by
  induction l with
  | nil => cases hlookup
  | cons e l ih =>
    obtain ⟨hfirst, hrest⟩ := List.forall_mem_cons.1 h
    rw [List.map_cons, List.lookup_cons] at hlookup
    rw [List.map_cons, List.lookup_cons]
    cases hkey : a == e.1.1 with
    | false =>
      rw [hkey] at hlookup
      exact ih hrest hlookup
    | true =>
      rw [hkey] at hlookup
      cases hlookup
      exact ⟨e.2, rfl, hfirst⟩

end Lookup

/-- What a document gives alone: the imports that are taken out of it, and what a new compiler makes
of the rest of it. -/
def GivesAlone (o : Options) (roots : List Element) (imports : List String) (r : Result) : Prop :=
  imports = (Imports.split roots).imports ∧
    ({ options := o } : Compiler).call (.document (Imports.split roots).elements) =
      (.ok (.widgets r.widgets), { options := o, diagnostics := r.diagnostics })

theorem givesAlone_iff {o : Options} {roots : List Element} {imports : List String} {r : Result} :
    GivesAlone o roots imports r ↔
      imports = (Imports.split roots).imports ∧ CompilesTo o (Imports.split roots).elements r :=
  and_congr_right fun _ => Compiler.call_document_eq_ok_iff (c := { options := o })

theorem GivesAlone.unique {o : Options} {roots : List Element} {imports imports' : List String}
    {r r' : Result} (h : GivesAlone o roots imports r) (h' : GivesAlone o roots imports' r') :
    imports = imports' ∧ r = r' := by
  obtain ⟨himports, hreply⟩ := h
  obtain ⟨himports', hreply'⟩ := h'
  refine ⟨himports.trans himports'.symm, ?_⟩
  have heq := hreply.symm.trans hreply'
  simp only [Prod.mk.injEq, Except.ok.injEq, Compile.Reply.widgets.injEq, Compiler.mk.injEq,
    true_and] at heq
  obtain ⟨widgets, diagnostics⟩ := r
  obtain ⟨widgets', diagnostics'⟩ := r'
  rw [Result.mk.injEq]
  exact heq

/-- The stages between the reading of the sources and the writing of the documents. -/
def compilingStages : List Stage :=
  [.gatherImports, .compileSources]

theorem does_compilingStages (platform : Platform) (s : Settings) (p : Project) :
    Does (runStages platform s compilingStages p) fun d p' d' =>
      (∃ compiled : List ((Path × List Element) × Result),
        (compiled.map (·.1) = p.parsed.map (fun e => (e.1, (Imports.split e.2).elements)) ∧
          ∀ e ∈ compiled, platform.Compiles (p.options.getD {}) e.1.2 e.2) ∧
        p' = { p with
          parsed := p.parsed.map fun e => (e.1, (Imports.split e.2).elements)
          imports := p.parsed.map fun e => (e.1, (Imports.split e.2).imports)
          results := compiled.map fun e => (e.1.1, e.2) }) ∧ d' = d := by
  simp only [compilingStages, runStages, Stage.run, bind_pure]
  exact (does_gatherImports p).bind_eq (does_compileSources _ _)

/-- Each source is given what it would be given alone. -/
theorem lookup_compilingStages {platform : Platform} {s : Settings} {p p' : Project} {w w' : World}
    (h : (runStages platform s compilingStages p).run w = (.ok p', w')) {file : Path}
    {roots : List Element} (hfile : p.parsed.lookup file = some roots) :
    ∃ imports r, p'.imports.lookup file = some imports ∧ p'.results.lookup file = some r ∧
      GivesAlone (p.options.getD {}) roots imports r := by
  obtain ⟨⟨compiled, ⟨hcompiled, hresults⟩, rfl⟩, -⟩ :=
    (does_compilingStages platform s p w p' w'.disk).1 ⟨w', h, rfl⟩
  have himports : (p.parsed.map fun e => (e.1, (Imports.split e.2).imports)).lookup file =
      some (Imports.split roots).imports := by
    rw [lookup_map_snd p.parsed fun roots => (Imports.split roots).imports, hfile]
    rfl
  have helements : (compiled.map (·.1)).lookup file = some (Imports.split roots).elements := by
    rw [hcompiled, lookup_map_snd p.parsed fun roots => (Imports.split roots).elements, hfile]
    rfl
  obtain ⟨r, hr, hcompiles⟩ := exists_lookup hresults helements
  exact ⟨_, r, himports, hr, givesAlone_iff.2 ⟨rfl, hcompiles.2⟩⟩

/-- Sources that are compiled together keep their order, and each of them is given what it would be
given alone, so it makes no difference which other sources there are. -/
theorem compilingStages_alone {platform : Platform} {s : Settings} {p p' : Project} {w w' : World}
    (h : (runStages platform s compilingStages p).run w = (.ok p', w')) :
    p'.imports.map (·.1) = p.parsed.map (·.1) ∧ p'.results.map (·.1) = p.parsed.map (·.1) ∧
    (∀ file roots, p.parsed.lookup file = some roots →
      ∃ imports r, p'.imports.lookup file = some imports ∧ p'.results.lookup file = some r ∧
        GivesAlone (p.options.getD {}) roots imports r) ∧
    ∀ (platform₂ : Platform) (s₂ : Settings) (q q' : Project) (v v' : World),
      (runStages platform₂ s₂ compilingStages q).run v = (.ok q', v') → q.options = p.options →
      ∀ file roots, p.parsed.lookup file = some roots → q.parsed.lookup file = some roots →
        q'.imports.lookup file = p'.imports.lookup file ∧
        q'.results.lookup file = p'.results.lookup file := by
  refine ⟨?_, ?_, fun file roots => lookup_compilingStages h, ?_⟩
  · obtain ⟨⟨compiled, -, rfl⟩, -⟩ :=
      (does_compilingStages platform s p w p' w'.disk).1 ⟨w', h, rfl⟩
    rw [List.map_map]
    rfl
  · obtain ⟨⟨compiled, ⟨hcompiled, -⟩, rfl⟩, -⟩ :=
      (does_compilingStages platform s p w p' w'.disk).1 ⟨w', h, rfl⟩
    have hkeys := congrArg (List.map Prod.fst) hcompiled
    rw [List.map_map, List.map_map] at hkeys
    rw [List.map_map]
    exact hkeys
  · intro platform₂ s₂ q q' v v' hq hoptions file roots hfile hfile'
    obtain ⟨imports, r, himports, hr, halone⟩ := lookup_compilingStages h hfile
    obtain ⟨imports', r', himports', hr', halone'⟩ := lookup_compilingStages hq hfile'
    rw [hoptions] at halone'
    obtain ⟨rfl, rfl⟩ := halone.unique halone'
    exact ⟨himports'.trans himports.symm, hr'.trans hr.symm⟩

/-- A page with a text outside of any tag, which is a problem. -/
def strayPage : List Element :=
  [.text "stray", .tag ⟨"b", default, none, none⟩ []]

def importPage : List Element :=
  [.tag ⟨"import", .ofWritten [("file", "c.dart")], none, none⟩ [],
    .tag ⟨"c", default, none, none⟩ []]

def samplePages : Project where
  parsed := [(⟨"", ["a.html"]⟩, strayPage), (⟨"", ["b.html"]⟩, importPage)]

/-- The second page is compiled after the first one, whose problem is not held against it. -/
theorem compilingStages_pages :
    ∃ p' w', (runStages {} {} compilingStages samplePages).run { disk := {} } = (.ok p', w') ∧
      ∃ imports r, p'.imports.lookup ⟨"", ["b.html"]⟩ = some imports ∧
        p'.results.lookup ⟨"", ["b.html"]⟩ = some r ∧ GivesAlone {} importPage imports r ∧
        imports = ["c.dart"] ∧ r.diagnostics = [] := by
  obtain ⟨p', w', hrun⟩ : ∃ p' w', (runStages {} {} compilingStages samplePages).run
      { disk := {} } = (.ok p', w') := ⟨_, _, by with_unfolding_all rfl⟩
  have hlookup : samplePages.parsed.lookup ⟨"", ["b.html"]⟩ = some importPage := by
    with_unfolding_all rfl
  obtain ⟨-, -, halone, -⟩ := compilingStages_alone hrun
  obtain ⟨imports, r, himports, hr, hgives⟩ := halone _ _ hlookup
  obtain ⟨himports', -, hdiagnostics⟩ := givesAlone_iff.1 hgives
  refine ⟨p', w', hrun, imports, r, himports, hr, hgives, ?_, ?_⟩
  · rw [himports']
    decide +kernel
  · rw [← hdiagnostics]
    decide +kernel

end WidgetMarkup.Build
