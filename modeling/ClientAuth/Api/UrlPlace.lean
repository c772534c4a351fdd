import ClientAuth.Api.Url
import ClientAuth.Failure

/-! The host and port that the text of a URL shows to a reader of generic URLs.
Where the text holds an authority that the normal form does not know of, this
reader decides. -/
namespace ClientAuth

/-- A host, if there is one, and a port. -/
structure UrlPlace where
  scheme : List Char
  host : Option (List Char)
  port : Option (List Char)
deriving DecidableEq, Repr

namespace UrlPlace

/-- Whether a text may stand in brackets: an address of version 6 or of a later
one. -/
def isAddress : List Char → Bool
  | 'v' :: rest =>
      let version := rest.takeWhile (· ≠ '.')
      !version.isEmpty && version.all (fun c => (Hex.asciiDigit? c).isSome) &&
        version.length + 1 < rest.length
  | address => Host.isColoned address

/-- What follows the first character of a kind. -/
def afterFirst (mark : Char) (text : List Char) : List Char := (text.dropWhile (· ≠ mark)).drop 1

/-- Whether an authority has no brackets, or has both and an address where its
host stands, with nothing before the brackets and at most a port behind them. -/
def isBracketed (authority : List Char) : Bool :=
  if '[' ∈ authority then
    let (_, place) := Text.splitLast '@' authority
    ']' ∈ authority &&
      if '[' ∈ place then
        let inner := afterFirst '[' place
        let behind := afterFirst ']' inner
        place.head? = some '[' && (behind.isEmpty || behind.head? = some ':') &&
          isAddress (inner.takeWhile (· ≠ ']'))
      else isAddress (place.takeWhile (· ≠ ':'))
  else ']' ∉ authority

/-- The characters whose compatible form has a delimiter of URLs in it, such as
the full-width solidus. -/
def delimiterForms : List Char :=
  ['⁇', '⁈', '⁉', '℀', '℁', '℅', '℆', '⩴', '︓', '︖', '﹕', '﹖', '﹟', '﹫', '＃', '／', '：', '？',
   '＠']

/-- A host in lower case. A zone keeps its case. -/
def lowerHost (host : List Char) : List Char :=
  Text.lowerFrom false (host.takeWhile (· ≠ '%')) ++ host.dropWhile (· ≠ '%')

/-- A part that is not empty. -/
def nonempty? (part : List Char) : Option (List Char) := if part.isEmpty then none else some part

/-- The place that an authority names. -/
def ofRaw (raw : Url.Raw) : Outcome UrlPlace :=
  if isBracketed raw.authority && !raw.authority.any (· ∈ delimiterForms) then
    let (_, place) := Text.splitLast '@' raw.authority
    let inner := afterFirst '[' place
    let (host, port) :=
      if '[' ∈ place then (inner.takeWhile (· ≠ ']'), afterFirst ':' (afterFirst ']' inner))
      else (place.takeWhile (· ≠ ':'), afterFirst ':' place)
    .ok ⟨raw.scheme, (nonempty? host).map lowerHost, nonempty? port⟩
  else .halt .badAuthority

/-- The last port. -/
def portLimit : Nat := 65535

/-- The number of a port. -/
def portNumber (port : List Char) : Outcome Nat :=
  match Numeral.run 0 0 port with
  | (number, _, []) => if number ≤ portLimit then .ok number else .halt .badAuthority
  | _ => .halt .badAuthority

/-- Whether a host stands in brackets in a header: an address of version 6,
with a zone of unreserved characters if it has one. -/
def needsBrackets (host : List Char) : Bool :=
  ':' ∈ host && Host.isColoned host &&
    ((host.dropWhile (· ≠ '%')).drop 1).all fun c => Percent.isUnreserved c || c = '!'

/-- The port that needs no mention under a scheme. -/
def defaultPort? (scheme : List Char) : Option Nat :=
  if scheme = "http".toList then some 80
  else if scheme = "https".toList then some 443
  else none

/-- The value of a host header. Without a host, the word for nothing stands in
front of a port that needs mention. -/
def hostText (place : UrlPlace) : Outcome String := do
  let host :=
    match place.host with
    | some host =>
        if needsBrackets host then "[" ++ String.ofList host ++ "]" else String.ofList host
    | none => "None"
  match place.port with
  | none => if place.host.isNone then .halt .noHost else return host
  | some port =>
      let number ← portNumber port
      if defaultPort? place.scheme = some number then
        if place.host.isNone then .halt .noHost else return host
      else return host ++ ":" ++ toString number

end UrlPlace
end ClientAuth
