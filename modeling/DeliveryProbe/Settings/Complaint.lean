import DeliveryProbe.Settings.Key
import DeliveryProbe.Text.Quoted
import DeliveryProbe.Toml.Outline.Document

/-! What is said about a settings file that is refused: the first fault in its form, or else the first
of its items that is no setting or has a value of the wrong kind. -/
namespace DeliveryProbe
namespace Settings

open Toml (Shape TopItem)

/-- The keys of all settings, in the order in which they are listed. -/
def keys : List String :=
  [TextSetting.systemName, .monitoredUrl, .searchToken, .searchUrl, .storeUrl].map TextSetting.key ++
    [NumberSetting.port, .searchTimeout, .timeToFailure].map NumberSetting.key ++ [dryRunKey] ++
      [NumberSetting.appInterval, .httpInterval, .watchInterval, .requestTimeout].map NumberSetting.key ++
        [TextSetting.metricsAddress].map TextSetting.key

def pointed (x : Binary64) : String :=
  match x with
  | .finite _ _ => if x.toChars.contains '.' then x.text else x.text ++ ".0"
  | _ => x.text

def described : Shape → String
  | .string s => "string " ++ Text.quoted s
  | .integer n => "integer `" ++ toString n ++ "`"
  | .float x => "floating point `" ++ pointed x ++ "`"
  | .boolean b => "boolean `" ++ toString b ++ "`"
  | .array | .tables => "sequence"
  | .dateTime | .inlineTable | .table => "map"

def numberKind (k : NumberSetting) : String := if k.bound < UInt16.size then "u16" else "u64"

def wrongType (shape : Shape) (expected : String) : Option String :=
  some ("invalid type: " ++ described shape ++ ", expected " ++ expected)

def valueFault (key : String) (shape : Shape) : Option String :=
  match NumberSetting.all.find? (·.key = key), shape with
  | some k, .integer n =>
    if 0 ≤ n ∧ n ≤ k.bound then none
    else some ("invalid value: " ++ described shape ++ ", expected " ++ numberKind k)
  | some k, _ => wrongType shape (numberKind k)
  | none, .boolean _ => if key = dryRunKey then none else wrongType shape "a string"
  | none, .string _ => if key = dryRunKey then wrongType shape "a boolean" else none
  | none, _ => wrongType shape (if key = dryRunKey then "a boolean" else "a string")

def itemFault (item : TopItem) : Option (Toml.Stretch × String) :=
  if keys.contains item.key.name then
    (valueFault item.key.name item.shape).map fun reason => (item.place.getD item.key.place, reason)
  else
    some
      (item.key.place,
        "unknown field `" ++ item.key.name ++ "`, expected one of " ++ ", ".intercalate (keys.map fun k => "`" ++ k ++ "`"))

def complaint (document : String) : String :=
  let s := document.toList
  match Toml.outline s with
  | .error fault => fault.text s
  | .ok items =>
    match items.findSome? itemFault with
    | some (place, reason) => Toml.quoting s (s.length - place.start) (place.start - place.stop) reason
    | none => ""

end Settings
end DeliveryProbe
