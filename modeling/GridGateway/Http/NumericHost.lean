import GridGateway.Http.Address

/-!
# Numeric hosts

The host that the gateway listens at may be written more loosely than an address in a message: an IPv4 address has
one to four numbers, each in decimal, octal or hexadecimal, and the last one stands for all the bytes that are left.
-/

namespace GridGateway.Http

/-- A number in one of the notations with a base of 8, 10 or 16, told by what is in front of it. -/
def looseNumber? (cs : List Char) : Option Nat :=
  let digits (base : Nat) (ds : List Char) : Option Nat := do
    let ns ← ds.mapM hexNibble?
    if ns ≠ [] ∧ ns.all (· < base) then return ns.foldl (fun n d => n * base + d) 0 else none
  match cs with
  | '0' :: 'x' :: ds => digits 16 ds
  | '0' :: 'X' :: ds => digits 16 ds
  | '0' :: ds => digits 8 ('0' :: ds)
  | ds => digits 10 ds

/-- The lowest `n` bytes of a number, the highest of them first. -/
def bytesOf : Nat → Nat → List UInt8
  | 0, _ => []
  | n + 1, value => bytesOf n (value / 256) ++ [.ofNat value]

/-- The bytes of an address of so many bytes that is given by numbers: one byte for each but the last. -/
def spreadNumbers? : Nat → List Nat → Option (List UInt8)
  | left, [n] => if n < Nat.pow 256 left then some (bytesOf left n) else none
  | left + 1, n :: ns => if n < 256 then (spreadNumbers? left ns).map (.ofNat n :: ·) else none
  | _, _ => none

/-- The numbers of a loosely written IPv4 address. -/
def looseIpv4? (cs : List Char) : Option (List UInt8) := do
  let ns ← (Query.splitAll '.' cs).mapM looseNumber?
  if ns.length ≤ 4 then spreadNumbers? 4 ns else none

/-- The host that a text spells out in numbers. -/
def HostAddress.ofNumeric? (cs : List Char) : Option HostAddress :=
  match looseIpv4? cs with
  | some octets => some (.v4 octets)
  | none => (ipv6OfChars? cs).map .v6

/-- Why the gateway cannot listen at an address. -/
inductive AddressError where
  | badPort (text : String)
  | badAddress (text : String)
  deriving DecidableEq, Repr

/-- The text of an address error. -/
def AddressError.message : AddressError → String
  | badPort text => "invalid port in address " ++ Text.quoted text
  | badAddress text => "invalid listen address " ++ Text.quoted text

/-- A host spelled out in numbers, a colon and a port. -/
def looseSocketAddress? (cs : List Char) : Option SocketAddress := do
  let (host, port) ← splitLastColon? cs
  let port ← Text.uint16? (String.ofList port)
  return { host := ← HostAddress.ofNumeric? host, port := port }

/-- The address to listen at. Without a host the gateway listens at every interface. Names of hosts are not
looked up. -/
def listenAddress (s : String) : Except AddressError SocketAddress :=
  match s.toList with
  | ':' :: port =>
    match Text.uint16? (String.ofList port) with
    | some port => .ok { host := .v4 [0, 0, 0, 0], port := port }
    | none => .error (.badPort s)
  | cs =>
    match (SocketAddress.ofChars? cs).or (looseSocketAddress? cs) with
    | some a => .ok a
    | none => .error (.badAddress s)

end GridGateway.Http
