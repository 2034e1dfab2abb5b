import DeliveryProbe.LogFilter
import DeliveryProbe.Text.Utf8

/-! What a program finds where it is started, and what it leaves behind. -/
namespace DeliveryProbe
namespace Program

def logDirectory : String := "logs"

structure World where
  /-- The bytes of the file at a path, or the reason why there are none, once the directory of the log
  file has been made. -/
  read : String → Except String Utf8.Bytes
  environment : Environment
  /-- The ports on which somebody listens at every IPv4 address. -/
  busy : Nat → Bool

inductive Output where
  | text (lines : String)
  | log (record : LogRecord)
  | marker (line : String)
  deriving DecidableEq, Repr

def Output.toString : Output → String
  | .text lines => lines
  | .log record => record.consoleText ++ "\n"
  | .marker line => line ++ "\n"

structure Ending where
  /-- Nothing if a signal ended it. -/
  status : Option Nat
  output : List Output
  errors : String
  filed : List LogRecord
  deriving DecidableEq, Repr

def records (output : List Output) : List LogRecord :=
  output.filterMap fun | .log r => some r | _ => none

def filtered (f : LogFilter) (output : List Output) : List Output :=
  output.filter fun | .log r => f.admits r | _ => true

def portTaken : String := "Address already in use (os error 98)"

def cannotListen : String := "error creating server listener: " ++ portTaken

end Program
end DeliveryProbe
