import DeliveryProbe.Settings.Key

/-! What can go wrong, by cause, and the wording of each cause. -/
namespace DeliveryProbe

inductive ConfigFault where
  | unreadable (path reason : String)
  | missing (setting : TextSetting)
  | invalidNumber (raw : String) (setting : NumberSetting) (fault : Numeral.Fault)
  | invalidAddress (raw : String)
  | notPositive (setting : NumberSetting)
  | stated (text : String)
  deriving DecidableEq, Repr

def TextSetting.missingText : TextSetting → String
  | .systemName => "The system name was not found"
  | .monitoredUrl => "No URL was provided"
  | .searchToken => "The search token was not found"
  | .storeUrl => "The metric store URL was not found"
  | .searchUrl => "The search URL was not found"
  | .metricsAddress => "The metrics address was not found"

def ConfigFault.message : ConfigFault → String
  | .unreadable path reason => s!"Failed to read config file '{path}': {reason}"
  | .missing setting => s!"{setting.missingText} ({setting.envName})"
  | .invalidNumber raw setting fault => s!"Invalid value '{raw}' for {setting.envName}: {fault.message}"
  | .invalidAddress raw =>
    s!"Invalid value '{raw}' for {TextSetting.metricsAddress.envName}: invalid socket address syntax"
  | .notPositive setting => s!"{setting.envName} must be greater than zero"
  | .stated text => text

inductive Failure where
  /-- A request had no reply: an address that is none, no connection, or no answer in time. -/
  | http
  | json (detail : String)
  | toml (complaint : String)
  | io (detail : String)
  | config (fault : ConfigFault)
  /-- A search reply that is not what a search answers, with its body cut short. -/
  | malformedSearch (body : String)
  | storeRejected (status : Nat) (body : String)
  | intakeClosed
  deriving DecidableEq, Repr

def Failure.message : Failure → String
  | .http => "HTTP request failed"
  | .json detail => s!"JSON deserialization failed: {detail}"
  | .toml complaint => s!"TOML deserialization failed: {complaint}"
  | .io detail => s!"I/O error: {detail}"
  | .config fault => s!"Configuration error: {fault.message}"
  | .malformedSearch body => s!"Malformed response from log search: {body}"
  | .storeRejected status body => s!"Metric store rejected write with status {status}: {body}"
  | .intakeClosed => "Pending marker intake closed"

def Failure.cause? : Failure → Option String
  | .toml complaint => some complaint
  | _ => none

end DeliveryProbe
