/-! The part of TOML that flat settings need: one value to a key, each a string, an integer or a
truth value. Tables, arrays, floats and dates belong to no setting, so a document with one of them
is refused like one that is ill formed. -/
namespace DeliveryProbe
namespace Toml

inductive Value where
  | string (value : String)
  | integer (value : Int)
  | boolean (value : Bool)
  deriving DecidableEq, Repr

structure Entry where
  key : String
  value : Value
  deriving DecidableEq, Repr

def minInteger : Int := -0x8000000000000000
def maxInteger : Int := 0x7fffffffffffffff

def isSpace (c : Char) : Bool := c = ' ' || c = '\t'

/-- The characters that may stand unescaped in comments and strings: no controls but the tab. -/
def isPlain (c : Char) : Bool := c = '\t' || (' ' ≤ c && c ≠ '\x7f')

def isBareKeyChar (c : Char) : Bool := c.isAlphanum || c = '_' || c = '-'

end Toml
end DeliveryProbe
