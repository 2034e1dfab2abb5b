import DeliveryProbe.Number.Digits

/-! Socket addresses: an IPv4 or IPv6 address and a port, read from text and written in canonical
form. -/
namespace DeliveryProbe

structure Ipv4 where
  a : Nat
  b : Nat
  c : Nat
  d : Nat
  deriving DecidableEq, Repr

structure Ipv6 where
  groups : List Nat
  deriving DecidableEq, Repr

inductive SocketAddress where
  | v4 (address : Ipv4) (port : Nat)
  | v6 (address : Ipv6) (scope : Nat) (port : Nat)
  deriving DecidableEq, Repr

namespace SocketAddress

def port : SocketAddress → Nat
  | .v4 _ port => port
  | .v6 _ _ port => port

/-- Whether an address takes connections to IPv4 addresses: it is one, stands for one, or stands for
every address. -/
def servesIpv4 : SocketAddress → Bool
  | .v4 _ _ => true
  | .v6 address _ _ => address.groups.all (· = 0) || address.groups.take 6 == [0, 0, 0, 0, 0, 0xFFFF]

def spanNumber (radix : Nat) : Nat → Nat → List Char → Nat × Nat × List Char
  | acc, count, [] => (acc, count, [])
  | acc, count, c :: s =>
    match digitValueIn? radix c with
    | some d => spanNumber radix (radix * acc + d) (count + 1) s
    | none => (acc, count, c :: s)

def readBounded (bound : Nat) (s : List Char) : Option (Nat × List Char) :=
  let (n, count, rest) := spanNumber 10 0 0 s
  if count = 0 ∨ bound < n then none else some (n, rest)

/-- Reads a byte in decimal: at most three digits, no superfluous zero in front. -/
def readByte (s : List Char) : Option (Nat × List Char) :=
  let (n, count, rest) := spanNumber 10 0 0 s
  if count = 0 ∨ 3 < count ∨ 255 < n ∨ (1 < count ∧ s.head? = some '0') then none else some (n, rest)

def readGroup (s : List Char) : Option (Nat × List Char) :=
  let (n, count, rest) := spanNumber 16 0 0 s
  if count = 0 ∨ 4 < count then none else some (n, rest)

def expect (c : Char) : List Char → Option (List Char)
  | [] => none
  | d :: s => if d = c then some s else none

def readIpv4 (s : List Char) : Option (Ipv4 × List Char) := do
  let (a, s) ← readByte s
  let (b, s) ← readByte (← expect '.' s)
  let (c, s) ← readByte (← expect '.' s)
  let (d, s) ← readByte (← expect '.' s)
  pure ({ a, b, c, d }, s)

def groupsOf (v : Ipv4) : List Nat := [256 * v.a + v.b, 256 * v.c + v.d]

def readSeparator (first : Bool) (s : List Char) : Option (List Char) :=
  if first then some s else expect ':' s

/-- Reads up to `limit` groups. The last two may be written as an IPv4 address, which ends the
groups; the flag tells whether they were. -/
def readGroups : Nat → Bool → List Char → List Nat × Bool × List Char
  | 0, _, s => ([], false, s)
  | limit + 1, first, s =>
    let embedded? := if limit = 0 then none else (readSeparator first s).bind readIpv4
    match embedded? with
    | some (v, rest) => (groupsOf v, true, rest)
    | none =>
      match (readSeparator first s).bind readGroup with
      | some (group, rest) =>
        let (groups, embedded, rest) := readGroups limit false rest
        (group :: groups, embedded, rest)
      | none => ([], false, s)

/-- Reads an IPv6 address: eight groups, or fewer around one `::` that stands for zeros. -/
def readIpv6 (s : List Char) : Option (Ipv6 × List Char) :=
  let (front, embedded, rest) := readGroups 8 true s
  if front.length = 8 then some ({ groups := front }, rest)
  else if embedded then none
  else
    match rest with
    | ':' :: ':' :: rest =>
      let (back, _, rest) := readGroups (7 - front.length) true rest
      let zeros := List.replicate (8 - front.length - back.length) 0
      some ({ groups := front ++ zeros ++ back }, rest)
    | _ => none

def readPort (s : List Char) : Option (Nat × List Char) :=
  (expect ':' s).bind (readBounded 65535)

def readV4 (s : List Char) : Option SocketAddress :=
  match readIpv4 s with
  | some (address, s) =>
    match readPort s with
    | some (port, []) => some (.v4 address port)
    | _ => none
  | none => none

def readScope : List Char → Option (Nat × List Char)
  | '%' :: s => readBounded (UInt32.size - 1) s
  | s => some (0, s)

def readV6 (s : List Char) : Option SocketAddress :=
  match (expect '[' s).bind readIpv6 with
  | some (address, s) =>
    match readScope s with
    | some (scope, ']' :: s) =>
      match readPort s with
      | some (port, []) => some (.v6 address scope port)
      | _ => none
    | _ => none
  | none => none

def read? (s : List Char) : Option SocketAddress := (readV4 s).or (readV6 s)

/-- The longest run of zero groups, the first of several, as its start and length. -/
def longestZeros (groups : List Nat) : Nat × Nat :=
  let runAt (i : Nat) : Nat × Nat := (i, ((groups.drop i).takeWhile (· = 0)).length)
  ((List.range groups.length).map runAt).foldl
    (fun best next => if best.2 < next.2 then next else best) (0, 0)

def hexDigits (n : Nat) : List Char := Nat.toDigits 16 n

def joinGroups (groups : List Nat) : List Char := [':'].intercalate (groups.map hexDigits)

end SocketAddress

def Ipv4.toChars (v : Ipv4) : List Char :=
  ['.'].intercalate ([v.a, v.b, v.c, v.d].map Numeral.digits)

/-- Lower-case groups without leading zeros; the longest run of two or more zero groups is written
`::`, and an address mapped from IPv4 shows that address. -/
def Ipv6.toChars (v : Ipv6) : List Char :=
  match v.groups with
  | [0, 0, 0, 0, 0, 0xFFFF, x, y] =>
    "::ffff:".toList ++ Ipv4.toChars { a := x / 256, b := x % 256, c := y / 256, d := y % 256 }
  | groups =>
    let (start, length) := SocketAddress.longestZeros groups
    if 1 < length then
      SocketAddress.joinGroups (groups.take start) ++ "::".toList ++
        SocketAddress.joinGroups (groups.drop (start + length))
    else SocketAddress.joinGroups groups

def SocketAddress.toChars : SocketAddress → List Char
  | .v4 address port => address.toChars ++ ':' :: Numeral.digits port
  | .v6 address scope port =>
    '[' :: (address.toChars ++ (if scope = 0 then [] else '%' :: Numeral.digits scope) ++
      ']' :: ':' :: Numeral.digits port)

def SocketAddress.text (a : SocketAddress) : String := String.ofList a.toChars

end DeliveryProbe
