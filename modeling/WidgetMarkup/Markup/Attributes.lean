/-!
# Attributes of a tag

Attributes keep the order in which they were first written, and a name occurs once. An attribute
may lack a value.
-/
namespace WidgetMarkup.Markup

structure Attributes where
  entries : List (String × Option String) := []
  nodup : (entries.map (·.1)).Nodup := by simp
deriving DecidableEq, Repr

namespace Attributes

instance : Inhabited Attributes := ⟨{}⟩

def names (a : Attributes) : List String :=
  a.entries.map (·.1)

def contains (a : Attributes) (name : String) : Bool :=
  a.names.contains name

/-- The value under a name: `none` without the attribute, `some none` with one that has no value. -/
def find? (a : Attributes) (name : String) : Option (Option String) :=
  (a.entries.find? (·.1 == name)).map (·.2)

/-- Adds an attribute at the end, unless its name occurs already. -/
def insertNew (a : Attributes) (name : String) (value : Option String) : Attributes :=
  if h : a.contains name then a
  else
    { entries := a.entries ++ [(name, value)]
      nodup := by
        rw [contains, List.contains_iff_mem] at h
        rw [List.map_append, List.nodup_append]
        refine ⟨a.nodup, by simp, ?_⟩
        rintro x hx y hy rfl
        have hy : x = name := by simpa using hy
        exact h (hy ▸ hx) }

theorem keys_map_set (entries : List (String × Option String)) (name : String)
    (value : Option String) :
    (entries.map fun e => if e.1 == name then (e.1, value) else e).map (·.1) =
      entries.map (·.1) := by
  induction entries with
  | nil => rfl
  | cons e es ih =>
    simp only [List.map_cons, ih]
    split <;> rfl

/-- Sets the value under a name in its place, or adds the attribute at the end. -/
def set (a : Attributes) (name : String) (value : Option String) : Attributes :=
  if a.contains name then
    { entries := a.entries.map fun e => if e.1 == name then (e.1, value) else e
      nodup := by rw [keys_map_set]; exact a.nodup }
  else a.insertNew name value

/-- The attributes of a list in which the last value of a name counts. -/
def ofList (l : List (String × Option String)) : Attributes :=
  l.foldl (fun a e => a.set e.1 e.2) {}

/-- The attributes of a list in which the first value of a name counts. -/
def ofWritten (l : List (String × String)) : Attributes :=
  l.foldl (fun a e => a.insertNew e.1 (some e.2)) {}

end Attributes

end WidgetMarkup.Markup
