import DeliveryProbe.Settings.Layers
import DeliveryProbe.Network.SocketAddress

/-! The configuration of a run, made from settings by checking what is required and filling in
defaults. -/
namespace DeliveryProbe

structure Configuration where
  systemName : String
  monitoredUrl : String
  searchToken : String
  searchUrl : String
  /-- Absent only in a dry run. -/
  storeUrl : Option String
  port : Nat
  searchTimeoutSeconds : Nat
  timeToFailureSeconds : Nat
  dryRun : Bool
  appIntervalMillis : Nat
  httpIntervalMillis : Nat
  watchIntervalMillis : Nat
  requestTimeoutSeconds : Nat
  metricsAddress : Option SocketAddress

def trimSlashes (url : String) : String := String.ofList (Text.dropTrailing (· = '/') url.toList)

namespace Settings

def defaultSearchUrl : String := "https://papertrailapp.com"

def required (s : Settings) (k : TextSetting) : Except Failure String :=
  match s.text k with
  | some v => .ok v
  | none => .error (.config (.missing k))

/-- The store may be missing if nothing is going to be stored. -/
def storeUrl? (s : Settings) (dryRun : Bool) : Except Failure (Option String) :=
  match s.text .storeUrl with
  | some url => .ok (some (trimSlashes url))
  | none => if dryRun then .ok none else .error (.config (.missing .storeUrl))

def metricsAddress? (s : Settings) : Except Failure (Option SocketAddress) :=
  match s.text .metricsAddress with
  | none => .ok none
  | some raw =>
    match SocketAddress.read? (Text.trim raw.toList) with
    | some address => .ok (some address)
    | none => .error (.config (.invalidAddress raw))

def numberOrDefault (s : Settings) (k : NumberSetting) : Nat := (s.number k).getD k.default

def positive (s : Settings) (k : NumberSetting) : Except Failure Nat :=
  let n := s.numberOrDefault k
  if n = 0 then .error (.config (.notPositive k)) else .ok n

/-- The configuration that the settings make, or the first fault in the order of the checks. -/
def finish (s : Settings) : Except Failure Configuration := do
  let dryRun := s.dryRun.getD false
  let systemName ← s.required .systemName
  let monitoredUrl ← s.required .monitoredUrl
  let searchToken ← s.required .searchToken
  let storeUrl ← s.storeUrl? dryRun
  let metricsAddress ← s.metricsAddress?
  let appIntervalMillis ← s.positive .appInterval
  let httpIntervalMillis ← s.positive .httpInterval
  let watchIntervalMillis ← s.positive .watchInterval
  pure
    { systemName
      monitoredUrl := trimSlashes monitoredUrl
      searchToken
      searchUrl := trimSlashes ((s.text .searchUrl).getD defaultSearchUrl)
      storeUrl
      port := s.numberOrDefault .port
      searchTimeoutSeconds := s.numberOrDefault .searchTimeout
      timeToFailureSeconds := s.numberOrDefault .timeToFailure
      dryRun
      appIntervalMillis
      httpIntervalMillis
      watchIntervalMillis
      requestTimeoutSeconds := s.numberOrDefault .requestTimeout
      metricsAddress }

def load (file : Settings) (env : Environment) (o : Overrides) : Except Failure Configuration := do
  let merged ← file.overlay env
  (merged.override o).finish

end Settings

end DeliveryProbe
