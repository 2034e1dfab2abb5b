import DeliveryProbe.Toml.Outline.Definitions

/-! The outline of a whole document: the items at its top with their places, or the first fault.

Here all of TOML is read, with tables and arrays. -/
namespace DeliveryProbe
namespace Toml
namespace Scan

/-- A key without dots, with the stretch that it takes up. -/
def simpleKey : Scan Key := do
  let start ← here
  let name : String ←
    match start with
    | '"' :: _ => basicString
    | '\'' :: _ => literalString
    | _ => do
      let _ ← ahead (char isBareKeyChar)
      String.ofList <$> run isBareKeyChar
  let stop ← here
  pure { name, place := { start := start.length, stop := stop.length } }

/-- A key with or without dots: the parts before the last, and the last. -/
def key : Scan (List Key × Key) := do
  let parts ← reading "key" <| separated
    (do
      space
      let part ← simpleKey
      space
      pure part)
    (char (· = '.'))
  match parts.getLast? with
  | some last => pure (parts.dropLast, last)
  | none => stop

def equals : Scan Unit := do
  let _ ← expecting ["`.`", "`=`"] (char (· = '='))

def withPlace (p : Scan Shape) : Scan (Shape × Stretch) := do
  let start ← here
  let shape ← p
  let stop ← here
  pure (shape, { start := start.length, stop := stop.length })

def arrayItems (item : Scan Shape) : Scan Unit := do
  match ← here with
  | ']' :: _ => pure ()
  | _ =>
    let items ← maybe <| separated
      (do
        blankLines
        let _ ← item
        blankLines)
      (char (· = ','))
    if items.isSome then
      let _ ← maybe (char (· = ','))
    blankLines

def array (item : Scan Shape) : Scan Shape := do
  let _ ← char (· = '[')
  committed (arrayItems item)
  let _ ← committed (expecting ["`]`"] (reading "array" (char (· = ']'))))
  pure .array

/-- The items of an inline table, none of which may be defined twice. -/
def inlineItems (item : Scan Shape) : Scan Unit := do
  let start ← here
  let items ← maybe <| separated
    (do
      let (keys, last) ← key
      committed do
        equals
        space
        let (shape, place) ← withPlace item
        space
        pure (keys, last, shape, place))
    (char (· = ','))
  space
  let defined := (items.getD []).foldlM (fun (d : Definitions) (keys, last, shape, place) =>
    d.define true keys last shape place) {}
  match defined with
  | .ok _ => pure ()
  | .error cause => refuse start cause

def inlineTable (item : Scan Shape) : Scan Shape := do
  let _ ← char (· = '\x7b')
  committed (inlineItems item)
  let _ ← committed (expecting ["`\x7d`"] (reading "inline table" (char (· = '\x7d'))))
  pure .inlineTable

/-- A value with at most `fuel` values around one another. -/
def valueUpTo : Nat → Scan Shape
  | 0 => stop
  | fuel + 1 => fun s =>
    match s with
    | '[' :: _ => array (valueUpTo fuel) s
    | '\x7b' :: _ => inlineTable (valueUpTo fuel) s
    | _ => scalar s

def value : Scan Shape := fun s => valueUpTo (s.length + 1) s

def restExpected : Scan Unit := expecting ["newline", "`#`"] lineRest

/-- Takes up what an item defines, or refuses the item from its beginning on. -/
def settle (start : List Char) : Except String Definitions → Scan Definitions
  | .ok d => pure d
  | .error cause => refuse start cause

def definition (d : Definitions) : Scan Definitions := do
  let start ← here
  let (keys, last) ← key
  let (shape, place) ← committed do
    equals
    space
    let found ← withPlace value
    restExpected
    pure found
  settle start (d.define false keys last shape place)

/-- A header in single brackets, or in double ones, behind the opening. -/
def headerKey (close : String) : Scan (List Key × Key) :=
  committed do
    let found ← key
    expecting ["`.`", "`" ++ close ++ "`"] (word close)
    pure found

def header (d : Definitions) : Scan Definitions :=
  reading "table header" do
    let start ← here
    match start with
    | '[' :: '[' :: _ =>
      word "[["
      let (keys, last) ← headerKey "]]"
      let stop ← here
      committed restExpected
      settle start (d.beginOneOf keys last { start := start.length, stop := stop.length })
    | '[' :: _ :: _ =>
      word "["
      let (keys, last) ← headerKey "]"
      let stop ← here
      committed restExpected
      settle start (d.beginTable keys last { start := start.length, stop := stop.length })
    | _ => stop

def line (d : Definitions) : Scan Definitions := do
  match ← here with
  | [] => stop
  | '#' :: _ =>
    committed do
      comment
      lineEnd
    pure d
  | '[' :: _ => committed (header d)
  | '\n' :: _ | '\x0d' :: _ =>
    newline
    pure d
  | _ => committed (definition d)

/-- Lines up to something that is none; there are at most as many as `fuel`. -/
def linesUpTo : Nat → Definitions → Scan Definitions
  | 0, d => pure d
  | fuel + 1, d => do
    match ← maybe (line d) with
    | some d =>
      space
      linesUpTo fuel d
    | none => pure d

def document : Scan Definitions := do
  let _ ← maybe (char (· = '\uFEFF'))
  space
  let start ← here
  let d ← linesUpTo start.length {}
  finish
  pure d

end Scan

def outline (document : List Char) : Except Fault (List TopItem) :=
  match Scan.document document with
  | .done d _ => .ok d.items
  | .other fault | .broken fault => .error fault

end Toml
end DeliveryProbe
