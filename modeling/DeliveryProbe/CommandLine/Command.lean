import DeliveryProbe.Number.Digits

/-! Commands, described by the options they take, and the texts that such a description gives:
spellings, usage lines, help and version. -/
namespace DeliveryProbe
namespace CommandLine

inductive ValueKind where
  | path
  | port
  deriving DecidableEq, Repr

inductive OptionKind where
  | help
  | version
  | flag
  | value (name : String) (kind : ValueKind)
  deriving DecidableEq, Repr

structure CommandOption where
  long : String
  short : Option Char
  kind : OptionKind
  about : String
  default : Option String
  deriving DecidableEq, Repr

structure Command where
  name : String
  release : String
  about : String
  options : List CommandOption

namespace CommandOption

def help : CommandOption :=
  { long := "help", short := some 'h', kind := .help, about := "Print help", default := none }

def version : CommandOption :=
  { long := "version", short := some 'V', kind := .version, about := "Print version", default := none }

def spelling (o : CommandOption) : String :=
  match o.kind with
  | .value name _ => "--" ++ o.long ++ " <" ++ name ++ ">"
  | _ => "--" ++ o.long

/-- The left column of the help; long options stand below one another. -/
def column (o : CommandOption) : String :=
  match o.short with
  | some c => "  -" ++ c.toString ++ ", " ++ o.spelling
  | none => "      " ++ o.spelling

def explanation (o : CommandOption) : String :=
  match o.default with
  | some value => o.about ++ " [default: " ++ value ++ "]"
  | none => o.about

end CommandOption

namespace Command

def allOptions (c : Command) : List CommandOption := c.options ++ [.help, .version]

def findLong (c : Command) (long : String) : Option CommandOption := c.allOptions.find? (·.long = long)

def findShort (c : Command) (short : Char) : Option CommandOption :=
  c.allOptions.find? (·.short = some short)

/-- The usage line with some words behind the name, or with what stands for all options. -/
def usageOf (c : Command) (words : List String) : String :=
  "Usage: " ++ c.name ++ " " ++ if words.isEmpty then "[OPTIONS]" else " ".intercalate words

def usage (c : Command) (inUse : List CommandOption) : String :=
  c.usageOf (inUse.eraseDups.map (·.spelling))

def choice (c : Command) : String := "<" ++ "|".intercalate (c.options.map (·.spelling)) ++ ">"

/-- The usage line for an option that comes behind others. As soon as one of the command's own has
been taken up, all of these are one choice, behind the options that every command has. -/
def usageBehind (c : Command) (taken : List CommandOption) (o : CommandOption) : String :=
  if taken.any c.options.contains then
    c.usageOf ((((taken ++ [o]).filter (!c.options.contains ·)).eraseDups.map (·.spelling)) ++ [c.choice])
  else c.usage (taken ++ [o])

def helpLine (width : Nat) (o : CommandOption) : String :=
  o.column ++ String.ofList (List.replicate (width - o.column.length + 2) ' ') ++ o.explanation

def helpText (c : Command) : String :=
  let width := (c.allOptions.map (·.column.length)).foldl max 0
  c.about ++ "\n\n" ++ c.usage [] ++ "\n\nOptions:\n" ++
    "\n".intercalate (c.allOptions.map (helpLine width)) ++ "\n"

def versionText (c : Command) : String := c.name ++ " " ++ c.release ++ "\n"

end Command
end CommandLine
end DeliveryProbe
