import DeliveryProbe.Failure
import DeliveryProbe.Settings.Complaint
import DeliveryProbe.Toml.Reader
import DeliveryProbe.Toml.Writer
import DeliveryProbe.Text.Utf8

/-! The layers of settings below one another: a settings file, the environment over it, and the
command line over both. -/
namespace DeliveryProbe
namespace Settings

def numberOf? (k : NumberSetting) : Toml.Value → Option Nat
  | .integer n => if 0 ≤ n ∧ n ≤ k.bound then some n.toNat else none
  | _ => none

/-- The settings with one entry of a file taken up, if its key names a setting that has no value
yet and its value is of the right type. -/
def addEntry? (s : Settings) (e : Toml.Entry) : Option Settings :=
  match TextSetting.all.find? (·.key = e.key), NumberSetting.all.find? (·.key = e.key) with
  | some k, _ =>
    match s.text k, e.value with
    | none, .string v => some (s.setText k v)
    | _, _ => none
  | none, some k =>
    match s.number k, numberOf? k e.value with
    | none, some v => some (s.setNumber k v)
    | _, _ => none
  | none, none =>
    if e.key = dryRunKey then
      match s.dryRun, e.value with
      | none, .boolean v => some { s with dryRun := some v }
      | _, _ => none
    else none

/-- The settings that a file's entries define; one bad entry spoils them all. -/
def ofEntries? (entries : List Toml.Entry) : Option Settings := entries.foldlM addEntry? unset

def ofToml (text : String) : Except Failure Settings :=
  match (Toml.readDocument? text).bind ofEntries? with
  | some s => .ok s
  | none => .error (.toml (complaint text))

def ofFile (path : String) : Except String Utf8.Bytes → Except Failure Settings
  | .error reason => .error (.config (.unreadable path reason))
  | .ok bytes =>
    match Utf8.decode? bytes with
    | some text => ofToml text
    | none => .error (.config (.unreadable path "stream did not contain valid UTF-8"))

def toEntries (s : Settings) : List Toml.Entry :=
  TextSetting.all.filterMap (fun k => (s.text k).map fun v => { key := k.key, value := .string v }) ++
    NumberSetting.all.filterMap (fun k => (s.number k).map fun v => { key := k.key, value := .integer v }) ++
    s.dryRun.toList.map fun v => { key := dryRunKey, value := .boolean v }

def falseWords : List String := ["", "0", "false", "no", "off"]

/-- Every text means yes that does not mean no, whatever blanks and capitals it has. -/
def isTruthy (raw : String) : Bool :=
  !falseWords.contains (String.ofList ((Text.trim raw.toList).map Char.toLower))

def numberFrom (env : Environment) (k : NumberSetting) : Except Failure (Option Nat) :=
  match env.value? k.envName with
  | none => .ok none
  | some raw =>
    match Numeral.unsigned k.bound (Text.trim raw.toList) with
    | .ok n => .ok (some n)
    | .error fault => .error (.config (.invalidNumber raw k fault))

def overlayNumbers (env : Environment) : List NumberSetting → Settings → Except Failure Settings
  | [], s => .ok s
  | k :: ks, s =>
    match numberFrom env k with
    | .error f => .error f
    | .ok none => overlayNumbers env ks s
    | .ok (some n) => overlayNumbers env ks (s.setNumber k n)

def overlay (s : Settings) (env : Environment) : Except Failure Settings :=
  overlayNumbers env NumberSetting.all
    { s with
      text := fun k => (env.value? k.envName).or (s.text k)
      dryRun := ((env.value? dryRunVariable).map isTruthy).or s.dryRun }

/-- What the command line can settle: it can ask for a dry run, not against one. -/
structure Overrides where
  dryRun : Bool
  port : Option Nat
  deriving DecidableEq, Repr

def override (s : Settings) (o : Overrides) : Settings :=
  let s := if o.dryRun then { s with dryRun := some true } else s
  match o.port with
  | some port => s.setNumber .port port
  | none => s

end Settings
end DeliveryProbe
