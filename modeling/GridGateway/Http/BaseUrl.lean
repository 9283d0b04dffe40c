import GridGateway.Http.Address
import GridGateway.Http.Message
import GridGateway.Query.Text
import GridGateway.Text.Lowercase

/-!
# Base URLs

A server is found under a base URL, to which the paths of its endpoints are added. A base URL can be used if it
names a host that is spoken to over HTTP.

What counts as a URL here is a plain one: it has no blanks around it, and its host is an IPv6 address in brackets or a
name of letters, digits and marks that is written without escapes. Full parsers of URLs go further, and the two differ
in what follows. They take away blanks and control characters around a URL, and tabs and line ends inside it; they
decode escapes in a host; they put a name with letters beyond ASCII into its ASCII form and refuse those that have none;
and they take a host that ends in a number for an IPv4 address, so that `256.256.256.256` is refused. Here a blank or an
escape in the wrong place makes a URL unusable, and every other name is taken as it stands.
-/

namespace GridGateway.Http

/-- A text without the slashes at its end. -/
def withoutEndSlashes (cs : List Char) : List Char := (cs.reverse.dropWhile (· = '/')).reverse

/-- The text after a scheme, if it begins with one that is spoken here. -/
def afterScheme? (cs : List Char) : Option (List Char) :=
  let (scheme, rest) := Query.splitFirst ':' cs
  let scheme := Text.lowerAscii (String.ofList scheme)
  if cs.contains ':' ∧ (scheme = "http" ∨ scheme = "https") then some rest else none

/-- A slash of either direction. -/
def isSlash (c : Char) : Bool := c = '/' || c = '\\'

/-- The characters that cannot stand in the name of a host. -/
def forbiddenInHost : List Char :=
  ['\x00', '\t', '\n', '\r', ' ', '#', '/', ':', '<', '>', '?', '@', '[', '\\', ']', '^', '|', '%', '\x7f']

/-- Whether a text can be the name of a host: no character is forbidden. A name in digits is a name like any other. -/
def isHostName (cs : List Char) : Bool :=
  !cs.isEmpty && cs.all fun c => !forbiddenInHost.contains c && 0x20 ≤ c.toNat

/-- Whether a text can be the port of a URL; an empty one stands for the usual port. -/
def isUrlPort (cs : List Char) : Bool :=
  cs.all Char.isDigit && (cs.isEmpty || Nat.ofDigitChars 10 cs 0 < UInt16.size)

/-- Whether a text names a host and perhaps a port. -/
def isHostAndPort (cs : List Char) : Bool :=
  match cs with
  | '[' :: rest =>
    let (inside, after) := Query.splitFirst ']' rest
    rest.contains ']' && (ipv6OfChars? inside).isSome &&
      match after with
      | [] => true
      | ':' :: port => isUrlPort port
      | _ => false
  | cs =>
    let (host, port) := Query.splitFirst ':' cs
    isHostName host && isUrlPort port

/-- Whether requests can be sent to a URL, as far as it is a plain one. -/
def isUsableUrl (cs : List Char) : Bool :=
  match afterScheme? cs with
  | none => false
  | some rest =>
    let authority := (rest.dropWhile isSlash).takeWhile fun c => !isSlash c && c ≠ '?' && c ≠ '#'
    -- what precedes the last at sign is a name and a password
    isHostAndPort (authority.reverse.takeWhile (· ≠ '@')).reverse

/-- The place of a server. -/
structure BaseUrl where
  /-- The text to which the paths of the endpoints are added. -/
  root : String
  deriving DecidableEq, Repr

namespace BaseUrl

/-- The base URL that a text names; slashes at its end do not count. -/
def ofText (s : String) : BaseUrl := ⟨String.ofList (withoutEndSlashes s.toList)⟩

/-- Whether requests can be sent to the endpoints below a base URL. -/
def isUsable (b : BaseUrl) : Bool := isUsableUrl (b.root.toList ++ ['/'])

/-- The path of a base URL, which comes before the paths of the endpoints. -/
def path (b : BaseUrl) : String :=
  match afterScheme? b.root.toList with
  | some rest => String.ofList ((rest.dropWhile isSlash).dropWhile (¬ isSlash ·))
  | none => ""

/-- The target of a request to an endpoint. -/
def target (b : BaseUrl) (path query : String) : Target := ⟨b.path ++ path, query⟩

end BaseUrl

end GridGateway.Http
