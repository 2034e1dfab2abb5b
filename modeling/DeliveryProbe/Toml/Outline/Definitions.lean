import DeliveryProbe.Toml.Outline.Scalar

/-! What the lines of a document define, and when one must not define what an earlier one has. -/
namespace DeliveryProbe
namespace Toml

/-- A stretch of a document: how many characters follow its beginning, and how many its end. -/
structure Stretch where
  start : Nat
  stop : Nat
  deriving DecidableEq, Repr

structure Key where
  name : String
  place : Stretch
  deriving DecidableEq, Repr

inductive Node where
  | value (kind : String)
  /-- A table; an implicit one has no header, and a dotted one comes from the keys of its items. -/
  | table (implicit dotted : Bool)
  | tables
  deriving DecidableEq, Repr

structure TopItem where
  key : Key
  shape : Shape
  /-- Where its value stands, if it stands in one place. -/
  place : Option Stretch
  deriving DecidableEq

/-- What has been defined so far, and the table in which the lines are. -/
structure Definitions where
  nodes : List (List String × Node) := []
  items : List TopItem := []
  current : List String := []

def Shape.kind : Shape → String
  | .string _ => "string"
  | .integer _ => "integer"
  | .float _ => "float"
  | .boolean _ => "boolean"
  | .dateTime => "datetime"
  | .array | .tables => "array"
  | .inlineTable => "inline table"
  | .table => "table"

namespace Definitions

/-- How the definition of a key in a table that has it is refused. -/
def duplicateIn (table : List String) (name : String) : String :=
  "duplicate key `" ++ name ++ "` in " ++
    if table.isEmpty then "document root" else "table `" ++ ".".intercalate table ++ "`"

def duplicate (name : String) : String := "duplicate key `" ++ name ++ "`"

def node? (d : Definitions) (path : List String) : Option Node := d.nodes.lookup path

def set (d : Definitions) (path : List String) (n : Node) : Definitions :=
  { d with nodes := (path, n) :: d.nodes.filter (·.1 ≠ path) }

def clear (d : Definitions) (path : List String) : Definitions :=
  { d with nodes := d.nodes.filter fun e => !(path.isPrefixOf e.1 && path.length < e.1.length) }

/-- Adds an item at the top, or puts it in the place of one with its name. -/
def setItem (d : Definitions) (item : TopItem) : Definitions :=
  { d with items := d.items.filter (·.key.name ≠ item.key.name) ++ [item] }

/-- Goes down from a table along some keys, and makes the tables that are not there yet. -/
def descend (dotted : Bool) : Definitions → List String → List Key → Except String Definitions
  | d, _, [] => .ok d
  | d, base, key :: keys =>
    let path := base ++ [key.name]
    match d.node? path with
    | none =>
      let d := d.set path (.table true dotted)
      descend dotted (if base.isEmpty then d.setItem { key, shape := .table, place := none } else d) path keys
    | some .tables => descend dotted d path keys
    | some (.table implicit _) =>
      if dotted && !implicit then .error (duplicate key.name) else descend dotted d path keys
    | some (.value kind) =>
      .error
        ("dotted key `" ++ ".".intercalate (path.drop d.current.length) ++
          "` attempted to extend non-table type (" ++ kind ++ ")")

def define (d : Definitions) (inline : Bool) (keys : List Key) (last : Key) (shape : Shape)
    (place : Stretch) : Except String Definitions := do
  let table := d.current ++ keys.map (·.name)
  let d ← d.descend true d.current keys
  if !keys.isEmpty && d.node? table != some (.table true true) then throw (duplicate last.name)
  let path := table ++ [last.name]
  if (d.node? path).isSome then
    throw (if inline then duplicate last.name else duplicateIn d.current last.name)
  let d := d.set path (.value shape.kind)
  match path with
  | [_] => pure (d.setItem { key := last, shape, place := some place })
  | top :: _ =>
    let widened := d.items.map fun item =>
      if [top] = d.current ∧ item.key.name = top then
        { item with place := item.place.map fun s => { s with stop := place.stop } }
      else item
    pure { d with items := widened }
  | [] => pure d

def beginTable (d : Definitions) (keys : List Key) (last : Key) (place : Stretch) : Except String Definitions := do
  let d ← { d with current := [] }.descend false [] keys
  let parent := keys.map (·.name)
  let path := parent ++ [last.name]
  match d.node? path with
  | none | some (.table true false) =>
    let d := { d.set path (.table false false) with current := path }
    pure (if keys.isEmpty then d.setItem { key := last, shape := .table, place := some place } else d)
  | some _ => throw (duplicateIn parent last.name)

def beginOneOf (d : Definitions) (keys : List Key) (last : Key) (place : Stretch) : Except String Definitions := do
  let d ← { d with current := [] }.descend false [] keys
  let parent := keys.map (·.name)
  let path := parent ++ [last.name]
  match d.node? path with
  | none =>
    let d := { d.set path .tables with current := path }
    pure (if keys.isEmpty then d.setItem { key := last, shape := .tables, place := some place } else d)
  | some .tables => pure { d.clear path with current := path }
  | some _ => throw (duplicateIn parent last.name)

end Definitions
end Toml
end DeliveryProbe
