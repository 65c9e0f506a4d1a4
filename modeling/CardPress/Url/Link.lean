import CardPress.Url.Address
import CardPress.Url.Percent
import CardPress.Url.Punycode

/-!
# Links

What a link points to is written in ASCII; what it shows is written in plain characters.  Links
that could run a script or open a local file are refused.
-/

namespace CardPress
namespace Url

/-- Schemes whose host names are written in ASCII. -/
def hostSchemes : List String :=
  ["", "http:", "https:", "mailto:"]

/-- Characters that stand between the labels of a host name. -/
def isLabelSeparator (c : Char) : Bool :=
  c = '.' || c = '\u3002' || c = '\uFF0E' || c = '\uFF61'

/-- Cut a text at every character of a class. -/
def splitAtClass (separates : Char → Bool) : List Char → List (List Char)
  | [] => [[]]
  | c :: rest =>
      if separates c then
        [] :: splitAtClass separates rest
      else
        match splitAtClass separates rest with
        | [] => [[c]]
        | piece :: pieces => (c :: piece) :: pieces

/-- A host name with every label changed. -/
def mapLabels? (change : List Char → Option (List Char)) (host : List Char) :
    Option (List Char) :=
  ((splitAtClass isLabelSeparator host).mapM change).map (joinWith '.')

/-- A label in ASCII. -/
def asciiLabel? (label : List Char) : Option (List Char) :=
  if label.any fun c => 0x7E < c.toNat then some ("xn--".toList ++ Punycode.encode label)
  else some label

/-- A label in plain characters. -/
def plainLabel? (label : List Char) : Option (List Char) :=
  if "xn--".toList.isPrefixOf label then Punycode.decode? (Text.lower (label.drop 4))
  else some label

/-- An address with its host name changed, where the scheme asks for it and the change succeeds. -/
def Address.mapHost (address : Address) (change : List Char → Option (List Char)) : Address :=
  if !address.host.isEmpty && hostSchemes.any fun name => name.toList = address.scheme then
    match mapLabels? change address.host with
    | some host => { address with host }
    | none => address
  else
    address

/-- The address that a link points to, in ASCII. -/
def normalize (text : List Char) : List Char :=
  ((Address.parse text).mapHost asciiLabel?).formatWith encode

/-- The address that a link shows. -/
def display (text : List Char) : List Char :=
  decode ((Address.parse text).mapHost plainLabel?).format

/-- Starts of addresses that are refused. -/
def refusedStarts : List String :=
  ["vbscript:", "javascript:", "file:", "data:"]

/-- Starts of addresses that are allowed all the same. -/
def imageStarts : List String :=
  ["data:image/gif;", "data:image/png;", "data:image/jpeg;", "data:image/webp;"]

/-- Whether a link may point to an address. -/
def isAllowed (address : List Char) : Bool :=
  let address := Text.lower (Text.trim address)
  let starts (names : List String) := names.any fun name => name.toList.isPrefixOf address
  !starts refusedStarts || starts imageStarts

end Url
end CardPress
