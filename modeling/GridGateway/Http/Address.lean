import GridGateway.Query.Text
import GridGateway.Text.Integer
import GridGateway.Text.Quoted

/-!
# Network addresses

Addresses of hosts and of ports on them. An IPv4 address is written as four decimal numbers;
an IPv6 address as eight hexadecimal groups, of which one run of zeros may be left out and the last two may be
written as an IPv4 address.
-/

namespace GridGateway.Http

/-- The address of a host. -/
inductive HostAddress where
  /-- The four numbers of an IPv4 address. -/
  | v4 (octets : List UInt8)
  /-- The eight groups of an IPv6 address. -/
  | v6 (groups : List UInt16)
  deriving DecidableEq, Repr

/-- One number of an IPv4 address, without needless zeros in front. -/
def octetOfChars? (cs : List Char) : Option UInt8 :=
  let n := Nat.ofDigitChars 10 cs 0
  if cs.all Char.isDigit ∧ n < UInt8.size ∧ Nat.toDigits 10 n = cs then some (.ofNat n) else none

/-- The numbers of an IPv4 address. -/
def ipv4OfChars? (cs : List Char) : Option (List UInt8) :=
  match (Query.splitAll '.' cs).mapM octetOfChars? with
  | some octets => if octets.length = 4 then some octets else none
  | none => none

/-- The value of a hexadecimal digit. -/
def hexNibble? (c : Char) : Option Nat :=
  if '0' ≤ c ∧ c ≤ '9' then some (c.toNat - 0x30)
  else if 'a' ≤ c ∧ c ≤ 'f' then some (c.toNat - 0x57)
  else if 'A' ≤ c ∧ c ≤ 'F' then some (c.toNat - 0x37)
  else none

/-- One group of an IPv6 address: one to four hexadecimal digits. -/
def groupOfChars? (cs : List Char) : Option UInt16 := do
  let ns ← cs.mapM hexNibble?
  if 1 ≤ ns.length ∧ ns.length ≤ 4 then return .ofNat (ns.foldl (fun n d => n * 16 + d) 0) else none

/-- The two groups that the numbers of an IPv4 address make up. -/
def groupsOfOctets : List UInt8 → List UInt16
  | a :: b :: rest => (a.toUInt16 * 256 + b.toUInt16) :: groupsOfOctets rest
  | _ => []

/-- The groups of some parts between colons, of which only the last may be an IPv4 address, and only if
`mixed`. -/
def groupsOfParts? (mixed : Bool) : List (List Char) → Option (List UInt16)
  | [] => some []
  | [part] =>
    match groupOfChars? part with
    | some g => some [g]
    | none => if mixed then (ipv4OfChars? part).map groupsOfOctets else none
  | part :: parts => do return (← groupOfChars? part) :: (← groupsOfParts? mixed parts)

/-- The groups of a possibly empty text with colons between them. -/
def groupsOfChars? (mixed : Bool) (cs : List Char) : Option (List UInt16) :=
  if cs.isEmpty then some [] else groupsOfParts? mixed (Query.splitAll ':' cs)

/-- The characters before the first two colons in a row, and those after them. -/
def splitGap : List Char → Option (List Char × List Char)
  | ':' :: ':' :: rest => some ([], rest)
  | [] => none
  | c :: rest => (splitGap rest).map fun parts => (c :: parts.1, parts.2)

/-- The groups of an IPv6 address. -/
def ipv6OfChars? (cs : List Char) : Option (List UInt16) :=
  match splitGap cs with
  | some (front, back) => do
    let front ← groupsOfChars? false front
    let back ← groupsOfChars? true back
    if front.length + back.length < 8 then
      return front ++ List.replicate (8 - front.length - back.length) 0 ++ back
    else none
  | none => do
    let groups ← groupsOfChars? true cs
    if groups.length = 8 then return groups else none

/-- The numbers of an IPv4 address with points between them. -/
def octetsText (octets : List UInt8) : String :=
  ".".intercalate (octets.map fun o => Text.decimal o.toNat)

/-- Groups in hexadecimal with colons between them. -/
def groupsText (groups : List UInt16) : String :=
  ":".intercalate (groups.map fun g => String.ofList (Nat.toDigits 16 g.toNat))

/-- The length of the run of zeros at the front of a list. -/
def zerosInFront (groups : List UInt16) : Nat := (groups.takeWhile (· = 0)).length

/-- The place and the length of the first of the longest runs of zeros. -/
def longestZeros : List UInt16 → Nat × Nat
  | [] => (0, 0)
  | g :: gs =>
    let here := zerosInFront (g :: gs)
    let (place, length) := longestZeros gs
    if length ≤ here then (0, here) else (place + 1, length)

/-- The two numbers that a group makes up. -/
def octetsOfGroup (g : UInt16) : List UInt8 := [(g / 256).toUInt8, (g % 256).toUInt8]

/-- The text of an address. In an IPv6 address the longest run of at least two zeros is left out; an IPv4 address
embedded in it is written as such. -/
def HostAddress.text : HostAddress → String
  | v4 octets => octetsText octets
  | v6 [0, 0, 0, 0, 0, 0xffff, g, h] => "::ffff:" ++ octetsText (octetsOfGroup g ++ octetsOfGroup h)
  | v6 groups =>
    let (place, length) := longestZeros groups
    if 1 < length then
      groupsText (groups.take place) ++ "::" ++ groupsText (groups.drop (place + length))
    else groupsText groups

/-- The address of a host together with a port. -/
structure SocketAddress where
  host : HostAddress
  port : UInt16
  /-- The interface that an IPv6 address is about; zero for none in particular. -/
  scope : UInt32 := 0
  deriving DecidableEq, Repr

/-- The text of a socket address. -/
def SocketAddress.text (a : SocketAddress) : String :=
  let port := ":" ++ Text.decimal a.port.toNat
  match a.host with
  | .v4 _ => a.host.text ++ port
  | .v6 _ =>
    let scope := if a.scope = 0 then "" else "%" ++ Text.decimal a.scope.toNat
    "[" ++ a.host.text ++ scope ++ "]" ++ port

/-- A number in decimal digits alone, below a bound. -/
def boundedDigits? (bound : Nat) (cs : List Char) : Option Nat :=
  let n := Nat.ofDigitChars 10 cs 0
  if cs ≠ [] ∧ cs.all Char.isDigit ∧ n < bound then some n else none

/-- The characters before and after the last colon. -/
def splitLastColon? (cs : List Char) : Option (List Char × List Char) :=
  if cs.contains ':' then
    let (back, front) := Query.splitFirst ':' cs.reverse
    some (front.reverse, back.reverse)
  else none

/-- The socket address that a text spells out: an IPv4 address or an IPv6 address in brackets, and a port. -/
def SocketAddress.ofChars? (cs : List Char) : Option SocketAddress := do
  let (host, port) ← splitLastColon? cs
  let port ← boundedDigits? UInt16.size port
  match host with
  | '[' :: inside =>
    if inside.getLast? = some ']' then
      let (address, scope) := Query.splitFirst '%' inside.dropLast
      let groups ← ipv6OfChars? address
      let scope ← if inside.contains '%' then boundedDigits? UInt32.size scope else some 0
      return ⟨.v6 groups, .ofNat port, .ofNat scope⟩
    else none
  | host => return { host := .v4 (← ipv4OfChars? host), port := .ofNat port }

end GridGateway.Http
