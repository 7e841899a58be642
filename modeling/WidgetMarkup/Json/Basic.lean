/-!
# JSON documents

The values that a written document is made of. Numbers are integers, and the fields of an object
keep their order.
-/
namespace WidgetMarkup

inductive Json where
  | null
  | bool (value : Bool)
  | int (value : Int)
  | str (value : String)
  | arr (items : List Json)
  | obj (fields : List (String × Json))
deriving Repr

namespace Json

instance : Inhabited Json := ⟨.null⟩

/-- A string, or null. -/
def ofText? : Option String → Json
  | some s => .str s
  | none => .null

/-- An integer, or null. -/
def ofInt? : Option Int → Json
  | some n => .int n
  | none => .null

end Json

end WidgetMarkup
