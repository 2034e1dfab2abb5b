import DeliveryProbe.Settings.Configuration
import DeliveryProbe.Marker

/-! The addresses that requests go to, built on the configured base addresses. -/
namespace DeliveryProbe
namespace Endpoint

def search (base : String) : String := trimSlashes base ++ "/api/v1/events/search.json"

/-- Where a system's samples are written. The name of the system stands as it is. -/
def write (base system : String) : String :=
  trimSlashes base ++ "/write?db=logmonitor&_http_tag=" ++ system

def sample (base number : String) : String := trimSlashes base ++ Marker.samplePath number

end Endpoint
end DeliveryProbe
