import DeliveryProbe.Http.Target
import DeliveryProbe.Text.Utf8

/-! HTTP requests: their parts as HTTP admits them, and a readable dump of a whole one. -/
namespace DeliveryProbe
namespace Http

structure HeaderValue where
  name : String
  value : Utf8.Bytes
  deriving DecidableEq, Repr

structure Request where
  method : String
  target : Target
  /-- All values of a name stand together, the names in the order of their first values. -/
  headers : List HeaderValue
  body : Utf8.Bytes
  deriving DecidableEq, Repr

inductive RequestFault where
  | method
  | target
  | headerName
  | headerValue
  deriving DecidableEq, Repr

namespace Request

/-- The characters of methods: those of tokens but for `#`, `$`, `%`, `&` and the apostrophe. -/
def isMethodChar (c : Char) : Bool := c.isAlphanum || "!*+-.^_`|~".toList.contains c

def isNameChar (c : Char) : Bool := isMethodChar c || "\"#$%&'".toList.contains c

def isMethod (s : String) : Bool := !s.isEmpty && s.toList.all isMethodChar

def isName (s : String) : Bool := !s.isEmpty && s.toList.all isNameChar

def maxName : Nat := 65535

/-- Any byte but the controls; the tab is none of them here. -/
def isValueByte (b : UInt8) : Bool := (32 ≤ b && b != 127) || b = 9

def readHeader (name : String) (value : Utf8.Bytes) : Except RequestFault HeaderValue :=
  if !isName name || maxName < name.utf8ByteSize then .error .headerName
  else if !value.all isValueByte then .error .headerValue
  else .ok { name := String.ofList (name.toList.map Char.toLower), value }

/-- The values of each name together, the names in the order of their first values. -/
def group (headers : List HeaderValue) : List HeaderValue :=
  (headers.map (·.name)).eraseDups.flatMap fun name => headers.filter (·.name = name)

def make (method target : String) (headers : List (String × Utf8.Bytes)) (body : Utf8.Bytes) :
    Except RequestFault Request :=
  if !isMethod method then .error .method
  else
    match Target.read? target with
    | none => .error .target
    | some target =>
      match headers.mapM fun (name, value) => readHeader name value with
      | .ok headers => .ok { method, target, headers := group headers, body }
      | .error fault => .error fault

def headerLine (h : HeaderValue) : String := "  " ++ h.name ++ ":" ++ Utf8.decodeLossy h.value

/-- The readable dump: the request line, an indented line for each header value, the body. -/
def dump (r : Request) : String :=
  r.method ++ " " ++ r.target.text ++ "\n" ++ "\n".intercalate (r.headers.map headerLine) ++ "\n" ++
    Utf8.decodeLossy r.body ++ "\n"

end Request
end Http
end DeliveryProbe
