import WidgetMarkup.Data.Calendar
import WidgetMarkup.Data.Float
import WidgetMarkup.Text.Numeral
import WidgetMarkup.Text.Wide

/-!
# Data of configuration documents

What a configuration document can hold: the values of JSON, and dates, bytes and sets. A mapping has
keys of any scalar kind, each once, in the order in which they were first given. A document is looked
at down to some depth; a collection below it is known by its kind only.
-/
namespace WidgetMarkup

inductive Data.CollectionKind where
  | list
  | mapping
  | set
deriving DecidableEq, Repr

inductive Data where
  | null
  | bool (b : Bool)
  | int (n : Int)
  | float (x : Float)
  /-- What is called a number and is none. Two of these are the same only if they have one origin. -/
  | notNumber (origin : Nat)
  | text (s : String)
  /-- A text with halves of surrogate pairs in it. -/
  | brokenText (w : WideText)
  | date (d : Data.Date)
  | time (t : Data.Timestamp)
  | bytes (b : List UInt8)
  | list (items : List Data)
  | mapping (entries : List (Data × Data))
  | set (items : List Data)
  /-- A collection that is not looked into. -/
  | folded (kind : Data.CollectionKind)

namespace Data

instance : Inhabited Data := ⟨.null⟩

/-- The word for a kind of collection. -/
def CollectionKind.label : CollectionKind → String
  | list => "list"
  | mapping => "dict"
  | set => "set"

/-- The word for the kind of a value. -/
def kind : Data → String
  | null => "NoneType"
  | bool _ => "bool"
  | int _ => "int"
  | float _ | notNumber _ => "float"
  | text _ | brokenText _ => "str"
  | date _ => "date"
  | time _ => "datetime"
  | bytes _ => "bytes"
  | list _ => CollectionKind.list.label
  | mapping _ => CollectionKind.mapping.label
  | set _ => CollectionKind.set.label
  | folded kind => kind.label

/-- A byte string between quotes. -/
def bytesText (b : List UInt8) : String :=
  let chars := b.map fun x => Char.ofNat x.toNat
  let quote := Text.quoteFor chars
  let shown := chars.flatMap fun c =>
    if c.toNat < 0x80 then Text.escapeChar quote c else '\\' :: 'x' :: Text.hexDigits 2 c.toNat
  String.ofList ('b' :: quote :: shown ++ [quote])

/-- The digits of an integer, unless there are too many of them. -/
def intText (n : Int) : String :=
  if n.natAbs < Nat.pow 10 Text.digitLimit then toString n else "<unprintable int object>"

/-- The text by which a key is known in a path. True is known as 1 and false as 0. -/
def keyText : Data → String
  | null => "None"
  | bool b => if b then "1" else "0"
  | int n => intText n
  | float x => floatText x
  | notNumber _ => "nan"
  | text s => s
  | date d => d.text
  | time t => t.text
  | bytes b => bytesText b
  | brokenText _ | list _ | mapping _ | set _ | folded _ => ""

/-- The integer that a scalar equals; true is 1 and false is 0. -/
def integer? : Data → Option Int
  | bool b => some (if b then 1 else 0)
  | int n => some n
  | float x => (FloatParts.of x).int?
  | _ => none

/-- Whether two scalars are the same key. Numbers are the same if they are equal. -/
def sameKey (a b : Data) : Bool :=
  match a.integer?, b.integer? with
  | some m, some n => m == n
  | none, none =>
    match a, b with
    | null, null => true
    | float x, float y => FloatParts.of x == FloatParts.of y
    | notNumber m, notNumber n => m == n
    | text s, text t => s == t
    | brokenText v, brokenText w => v == w
    | date d, date e => d == e
    | time t, time u => t.same u
    | bytes s, bytes t => s == t
    | _, _ => false
  | _, _ => false

/-- Gives a key its value: in its place if it is there already, at the end otherwise. -/
def insertEntry {α : Type} (key : Data) (value : α) : List (Data × α) → List (Data × α)
  | [] => [(key, value)]
  | e :: es =>
    if e.1.sameKey key then (e.1, value) :: es else e :: insertEntry key value es

/-- The value under a text key. -/
def lookup? (key : String) : List (Data × Data) → Option Data
  | [] => none
  | (.text s, v) :: es => if s = key then some v else lookup? key es
  | _ :: es => lookup? key es

end Data

end WidgetMarkup
