import DeliveryProbe.Toml.Value
import DeliveryProbe.Text.Blank
import DeliveryProbe.Number.Digits

/-! The settings of the probe: their names in a settings file and in the environment, and the layer
of values that one source, or several laid over each other, defines. -/
namespace DeliveryProbe

inductive TextSetting where
  | systemName
  | monitoredUrl
  | searchToken
  | searchUrl
  | storeUrl
  | metricsAddress
  deriving DecidableEq, Repr

/-- The settings whose value is a number, in the order in which the environment is checked. -/
inductive NumberSetting where
  | port
  | searchTimeout
  | timeToFailure
  | appInterval
  | httpInterval
  | watchInterval
  | requestTimeout
  deriving DecidableEq, Repr

namespace TextSetting

def all : List TextSetting :=
  [.systemName, .monitoredUrl, .searchToken, .searchUrl, .storeUrl, .metricsAddress]

def key : TextSetting → String
  | .systemName => "system_name"
  | .monitoredUrl => "monitored_url"
  | .searchToken => "search_token"
  | .searchUrl => "search_url"
  | .storeUrl => "metrics_store_url"
  | .metricsAddress => "metrics_addr"

def envName : TextSetting → String
  | .systemName => "ALAMO_APPLICATION"
  | .monitoredUrl => "URL"
  | .searchToken => "PAPERTRAIL_TOKEN"
  | .searchUrl => "PAPERTRAIL_URL"
  | .storeUrl => "INFLUXDB"
  | .metricsAddress => "METRICS_ADDR"

end TextSetting

namespace NumberSetting

def all : List NumberSetting :=
  [.port, .searchTimeout, .timeToFailure, .appInterval, .httpInterval, .watchInterval, .requestTimeout]

def key : NumberSetting → String
  | .port => "port"
  | .searchTimeout => "timeout_on_search_secs"
  | .timeToFailure => "time_to_failure_secs"
  | .appInterval => "app_log_interval_ms"
  | .httpInterval => "http_log_interval_ms"
  | .watchInterval => "watch_interval_ms"
  | .requestTimeout => "request_timeout_secs"

def envName : NumberSetting → String
  | .port => "PORT"
  | .searchTimeout => "TIMEOUT_ON_SEARCH"
  | .timeToFailure => "TIME_TO_FAILURE"
  | .appInterval => "APP_LOG_INTERVAL_MS"
  | .httpInterval => "HTTP_LOG_INTERVAL_MS"
  | .watchInterval => "WATCH_INTERVAL_MS"
  | .requestTimeout => "REQUEST_TIMEOUT_SECS"

/-- The greatest value: ports have sixteen bits, all others sixty-four. -/
def bound : NumberSetting → Nat
  | .port => UInt16.size - 1
  | _ => UInt64.size - 1

def default : NumberSetting → Nat
  | .port => 9000
  | .searchTimeout => 3600
  | .timeToFailure => 60
  | .appInterval => 1000
  | .httpInterval => 5000
  | .watchInterval => 5000
  | .requestTimeout => 30

end NumberSetting

/-- The key and the variable of the one setting that is a truth value. -/
def dryRunKey : String := "dry_run"
def dryRunVariable : String := "TEST_MODE"

/-- What a source says about each setting, nothing where it is silent. -/
structure Settings where
  text : TextSetting → Option String
  number : NumberSetting → Option Nat
  dryRun : Option Bool

namespace Settings

def unset : Settings := { text := fun _ => none, number := fun _ => none, dryRun := none }

def setText (s : Settings) (k : TextSetting) (v : String) : Settings :=
  { s with text := fun x => if x = k then some v else s.text x }

def setNumber (s : Settings) (k : NumberSetting) (v : Nat) : Settings :=
  { s with number := fun x => if x = k then some v else s.number x }

end Settings

abbrev Environment := String → Option String

namespace Environment

/-- The value of a variable, unless it is blank. -/
def value? (env : Environment) (name : String) : Option String :=
  (env name).filter fun v => !Text.isAllBlank v

end Environment
end DeliveryProbe
