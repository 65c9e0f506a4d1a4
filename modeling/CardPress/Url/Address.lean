import CardPress.Text.Case

/-!
# Addresses

An address is cut into its parts and put together again.  The cut is lenient: what cannot belong
to a host name goes to the path, so that no character is lost.
-/

namespace CardPress
namespace Url

/-- The parts of an address; a missing part is empty. -/
structure Address where
  /-- The scheme, with its colon. -/
  scheme : List Char := []
  /-- Whether two slashes stand in front of the host. -/
  slashes : Bool := false
  user : List Char := []
  host : List Char := []
  port : List Char := []
  path : List Char := []
  /-- The query, with its question mark. -/
  query : List Char := []
  /-- The fragment, with its number sign. -/
  fragment : List Char := []
  deriving DecidableEq, Repr, Inhabited

namespace Address

/-- What stands in front of the host. -/
def front (address : Address) : List Char :=
  address.scheme ++ (if address.slashes then ['/', '/'] else []) ++
    (if address.user.isEmpty then [] else address.user ++ ['@'])

/-- What stands behind the host. -/
def back (address : Address) : List Char :=
  (if address.port.isEmpty then [] else ':' :: address.port) ++
    address.path ++ address.query ++ address.fragment

/-- Put an address together, with its parts changed.  A host with colons stands in brackets. -/
def formatWith (address : Address) (change : List Char → List Char) : List Char :=
  if address.host.contains ':' then
    change address.front ++ '[' :: change address.host ++ ']' :: change address.back
  else
    change (address.front ++ address.host ++ address.back)

/-- Put an address together. -/
def format (address : Address) : List Char :=
  address.formatWith id

end Address

/-- Cut a text in front of the first character of a class. -/
def cutBefore (stops : Char → Bool) (chars : List Char) : List Char × List Char :=
  (chars.takeWhile (!stops ·), chars.dropWhile (!stops ·))

/-- Cut a text at the last occurrence of a character, which goes to neither part. -/
def cutAtLast? (separator : Char) (chars : List Char) : Option (List Char × List Char) :=
  let tail := (chars.reverse.takeWhile (· != separator)).reverse
  if tail.length = chars.length then none
  else some (chars.take (chars.length - tail.length - 1), tail)

/-- Characters of a scheme. -/
def isSchemeChar (c : Char) : Bool :=
  c.isDigit || (Text.asciiLetter? c).isSome || c = '.' || c = '+' || c = '-'

/-- The scheme of an address with its colon, and the text behind it. -/
def cutScheme (chars : List Char) : List Char × List Char :=
  let name := chars.takeWhile isSchemeChar
  match chars.drop name.length with
  | ':' :: rest => if name.isEmpty then ([], chars) else (name ++ [':'], rest)
  | _ => ([], chars)

/-- Schemes that have a host only behind two slashes. -/
def slashedSchemes : List String :=
  ["http:", "https:", "ftp:", "gopher:", "file:"]

/-- Characters behind which no part of the host can stand. -/
def endsAuthority (c : Char) : Bool :=
  c = '/' || c = '?' || c = '#'

/-- Characters that no host name holds. -/
def endsHost (c : Char) : Bool :=
  "%/?;#'\x7b\x7d|\\^`<>\" \r\n\t".toList.contains c

/-- Characters of a host name. -/
def isHostChar (c : Char) : Bool :=
  c.isAlphanum || c = '+' || c = '_' || c = '-'

/-- A label that may stand in a host name, where every character outside ASCII is allowed. -/
def isHostLabel (label : List Char) : Bool :=
  label.length ≤ 63 && label.all fun c => isHostChar c || 0x80 ≤ c.toNat

/-- Join texts with a separator between them. -/
def joinWith (separator : Char) (parts : List (List Char)) : List Char :=
  [separator].intercalate parts

/-- The labels of a host name up to the first one that may not stand there, of which the allowed
start is kept, and the rest of the text. -/
def cutLabels : List (List Char) → List (List Char) × List Char
  | [] => ([], [])
  | label :: labels =>
      if isHostLabel label then
        let (kept, rest) := cutLabels labels
        (label :: kept, rest)
      else
        let start := (label.takeWhile isHostChar).take 63
        ([start], joinWith '.' (label.drop start.length :: labels))

/-- The port of a host with its number, and the host in front of it. -/
def cutPort (host : List Char) : List Char × List Char :=
  let digits := (host.reverse.takeWhile Char.isDigit).reverse
  match (host.take (host.length - digits.length)).reverse with
  | ':' :: name => (name.reverse, digits)
  | _ => (host, [])

/-- The host of a text without the two slashes and the user, and the text behind it. -/
def cutHost (chars : List Char) : List Char × List Char :=
  let (host, rest) := cutBefore endsHost chars
  match host.reverse with
  | ':' :: name => (name.reverse, ':' :: rest)
  | _ => (host, rest)

/-- The host name of a text with what may not belong to it cut off. -/
def checkHost (host : List Char) : List Char × List Char :=
  if host.head? = some '[' ∧ host.getLast? = some ']' then
    (if 255 < host.length then [] else (host.drop 1).dropLast, [])
  else
    let (labels, rest) := cutLabels (List.splitOn '.' host)
    let name := joinWith '.' labels
    (if 255 < name.length then [] else name, rest)

/-- Read the user, the host and the port of an address, and the text behind them. -/
def Address.withHost (address : Address) (chars : List Char) : Address × List Char :=
  let (authority, tail) := cutBefore endsAuthority chars
  let (user, chars) :=
    match cutAtLast? '@' authority with
    | some (user, rest) => (user, rest ++ tail)
    | none => ([], chars)
  let (host, rest) := cutHost chars
  let (name, port) := cutPort host
  let (name, behind) := checkHost name
  ({ address with user, host := name, port }, behind ++ rest)

/-- Read the path, the query and the fragment of an address. -/
def Address.withPath (address : Address) (chars : List Char) : Address :=
  let (chars, fragment) := cutBefore (· = '#') chars
  let (path, query) := cutBefore (· = '?') chars
  { address with path, query, fragment }

/-- Cut an address into its parts. -/
def Address.parse (text : List Char) : Address :=
  let (scheme, chars) := cutScheme (Text.trim text)
  let isHostless := scheme = "javascript:".toList
  let slashes := "//".toList.isPrefixOf chars
  let chars := if slashes && !isHostless then chars.drop 2 else chars
  let address : Address := { scheme, slashes := slashes && !isHostless }
  let isSlashed := slashedSchemes.any fun name => name.toList = scheme
  if !isHostless && (slashes || (!scheme.isEmpty && !isSlashed)) then
    let (address, rest) := address.withHost chars
    address.withPath rest
  else
    address.withPath chars

end Url
end CardPress
