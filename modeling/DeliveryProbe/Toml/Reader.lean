import DeliveryProbe.Toml.Value
import DeliveryProbe.Number.Digits

/-! Reading flat TOML documents. Every reader takes the characters that are left and gives back what
follows the thing it read. -/
namespace DeliveryProbe
namespace Toml

def readNewline : List Char → Option (List Char)
  | '\n' :: s => some s
  | '\x0d' :: '\n' :: s => some s
  | _ => none

def skipSpace (s : List Char) : List Char := s.dropWhile isSpace

def readLineEnd (s : List Char) : Option (List Char) :=
  let s :=
    match skipSpace s with
    | '#' :: s => s.dropWhile isPlain
    | s => s
  match s with
  | [] => some []
  | s => readNewline s

def hexValue? (ds : List Char) : Option Nat :=
  ds.foldlM (fun acc c => (digitValueIn? 16 c).map (16 * acc + ·)) 0

def scalar? (n : Nat) : Option Char := if n.isValidChar then some (Char.ofNat n) else none

def readEscape : List Char → Option (Char × List Char)
  | 'b' :: s => some ('\x08', s)
  | 't' :: s => some ('\t', s)
  | 'n' :: s => some ('\n', s)
  | 'f' :: s => some ('\x0c', s)
  | 'r' :: s => some ('\x0d', s)
  | '"' :: s => some ('"', s)
  | '\\' :: s => some ('\\', s)
  | 'u' :: s => readCode 4 s
  | 'U' :: s => readCode 8 s
  | _ => none
where
  readCode (width : Nat) (s : List Char) : Option (Char × List Char) :=
    if s.length < width then none
    else ((hexValue? (s.take width)).bind scalar?).map fun c => (c, s.drop width)

/-- Reads the rest of a string in double quotes on one line. `fuel` bounds the characters. -/
def readBasic : Nat → List Char → Option (List Char × List Char)
  | 0, _ => none
  | _ + 1, [] => none
  | _ + 1, '"' :: s => some ([], s)
  | fuel + 1, '\\' :: s =>
    match readEscape s with
    | some (c, s) => (readBasic fuel s).map fun (text, rest) => (c :: text, rest)
    | none => none
  | fuel + 1, c :: s =>
    if isPlain c then (readBasic fuel s).map fun (text, rest) => (c :: text, rest) else none

def readLiteral : List Char → Option (List Char × List Char)
  | [] => none
  | '\'' :: s => some ([], s)
  | c :: s =>
    if isPlain c then (readLiteral s).map fun (text, rest) => (c :: text, rest) else none

/-- After three closing quotes, up to two more belong to the text. -/
def closingQuotes (quote : Char) : List Char → List Char × List Char
  | a :: b :: s =>
    if a = quote then (if b = quote then ([quote, quote], s) else ([quote], b :: s)) else ([], a :: b :: s)
  | [a] => if a = quote then ([quote], []) else ([], [a])
  | [] => ([], [])

def startsTriple (quote : Char) (s : List Char) : Bool := [quote, quote, quote].isPrefixOf s

def skipBlankLines : List Char → List Char
  | '\x0d' :: '\n' :: s => skipBlankLines s
  | '\n' :: s => skipBlankLines s
  | ' ' :: s => skipBlankLines s
  | '\t' :: s => skipBlankLines s
  | s => s

/-- After a backslash at the end of a line: the next thing that is no blank. -/
def skipLineJoin (s : List Char) : Option (List Char) :=
  (readNewline (skipSpace s)).map skipBlankLines

/-- Reads the rest of a string in triple quotes. `escapes` tells the two kinds apart; `fuel` bounds
the characters. -/
def readMultiline (quote : Char) (escapes : Bool) : Nat → List Char → Option (List Char × List Char)
  | 0, _ => none
  | _ + 1, [] => none
  | fuel + 1, c :: s =>
    if startsTriple quote (c :: s) then some (closingQuotes quote (s.drop 2))
    else if escapes ∧ c = '\\' then
      match readEscape s, skipLineJoin s with
      | some (e, s), _ => (readMultiline quote escapes fuel s).map fun (text, rest) => (e :: text, rest)
      | none, some s => readMultiline quote escapes fuel s
      | none, none => none
    else
      match readNewline (c :: s) with
      | some s => (readMultiline quote escapes fuel s).map fun (text, rest) => ('\n' :: text, rest)
      | none =>
        if isPlain c then
          (readMultiline quote escapes fuel s).map fun (text, rest) => (c :: text, rest)
        else none

def skipFirstNewline (s : List Char) : List Char := (readNewline s).getD s

def readString (s : List Char) : Option (String × List Char) :=
  let read? :=
    if startsTriple '"' s then
      let s := skipFirstNewline (s.drop 3)
      readMultiline '"' true (s.length + 1) s
    else if startsTriple '\'' s then
      let s := skipFirstNewline (s.drop 3)
      readMultiline '\'' false (s.length + 1) s
    else
      match s with
      | '"' :: s => readBasic (s.length + 1) s
      | '\'' :: s => readLiteral s
      | _ => none
  read?.map fun (text, rest) => (String.ofList text, rest)

def readKey (s : List Char) : Option (String × List Char) :=
  match s with
  | '"' :: s => (readBasic (s.length + 1) s).map fun (text, rest) => (String.ofList text, rest)
  | '\'' :: s => (readLiteral s).map fun (text, rest) => (String.ofList text, rest)
  | s =>
    match s.takeWhile isBareKeyChar with
    | [] => none
    | key => some (String.ofList key, s.dropWhile isBareKeyChar)

/-- The digits of a radix, with single underscores allowed between two of them. -/
def spanDigits (radix : Nat) : List Char → List Nat × List Char
  | '_' :: c :: s =>
    match digitValueIn? radix c with
    | some d => let (ds, rest) := spanDigits radix s; (d :: ds, rest)
    | none => ([], '_' :: c :: s)
  | c :: s =>
    match digitValueIn? radix c with
    | some d => let (ds, rest) := spanDigits radix s; (d :: ds, rest)
    | none => ([], c :: s)
  | [] => ([], [])

def ofDigitsIn (radix : Nat) (ds : List Nat) : Nat := ds.foldl (fun acc d => radix * acc + d) 0

def readRadix (radix : Nat) (s : List Char) : Option (Nat × List Char) :=
  match s with
  | '_' :: _ => none
  | s =>
    match spanDigits radix s with
    | ([], _) => none
    | (ds, rest) => some (ofDigitsIn radix ds, rest)

def readDecimal : List Char → Option (Nat × List Char)
  | '0' :: s => some (0, s)
  | s => readRadix 10 s

/-- Reads an integer: decimal with an optional sign, or hexadecimal, octal or binary without one. -/
def readInteger (s : List Char) : Option (Int × List Char) :=
  let read? : Option (Int × List Char) :=
    match s with
    | '0' :: 'x' :: s => (readRadix 16 s).map fun (n, rest) => ((n : Int), rest)
    | '0' :: 'o' :: s => (readRadix 8 s).map fun (n, rest) => ((n : Int), rest)
    | '0' :: 'b' :: s => (readRadix 2 s).map fun (n, rest) => ((n : Int), rest)
    | '+' :: s => (readDecimal s).map fun (n, rest) => ((n : Int), rest)
    | '-' :: s => (readDecimal s).map fun (n, rest) => (-(n : Int), rest)
    | s => (readDecimal s).map fun (n, rest) => ((n : Int), rest)
  read?.filter fun (n, _) => minInteger ≤ n && n ≤ maxInteger

def readValue (s : List Char) : Option (Value × List Char) :=
  match s with
  | '"' :: _ | '\'' :: _ => (readString s).map fun (text, rest) => (.string text, rest)
  | 't' :: 'r' :: 'u' :: 'e' :: s => some (.boolean true, s)
  | 'f' :: 'a' :: 'l' :: 's' :: 'e' :: s => some (.boolean false, s)
  | s => (readInteger s).map fun (n, rest) => (.integer n, rest)

def readEntry (s : List Char) : Option (Entry × List Char) :=
  match readKey s with
  | some (key, s) =>
    match skipSpace s with
    | '=' :: s =>
      match readValue (skipSpace s) with
      | some (value, s) => (readLineEnd s).map fun rest => ({ key, value }, rest)
      | none => none
    | _ => none
  | none => none

/-- Reads lines to the end; `fuel` bounds their number. -/
def readLines : Nat → List Char → Option (List Entry)
  | _, [] => some []
  | 0, _ :: _ => none
  | fuel + 1, s =>
    match readLineEnd s with
    | some rest => readLines fuel rest
    | none =>
      match readEntry (skipSpace s) with
      | some (entry, rest) => (readLines fuel rest).map (entry :: ·)
      | none => none

def skipMark : List Char → List Char
  | '\uFEFF' :: s => s
  | s => s

def readDocument? (text : String) : Option (List Entry) :=
  let s := skipMark text.toList
  readLines s.length s

end Toml
end DeliveryProbe
