import ClientAuth.Api.UrlPlace
import ClientAuth.Json.Basic

/-! Endpoints of the client library: the regions it takes, the address of the
service in each, and which addresses and time limits it accepts. -/
namespace ClientAuth.Endpoint

/-- Whether a character may stand in a label of a host. -/
def isLabelChar (c : Char) : Bool :=
  ('a' ≤ c && c ≤ 'z') || ('A' ≤ c && c ≤ 'Z') || ('0' ≤ c && c ≤ '9') || c = '-'

/-- The longest label. -/
def labelLimit : Nat := 63

/-- A text without one line break at its end. -/
def withoutBreak (text : List Char) : List Char :=
  if text.getLast? = some '\n' then text.dropLast else text

/-- Whether a text may be the name of a region: a label that does not consist of
digits, or nothing. A line break at the end is let through. -/
def isRegion (text : List Char) : Bool :=
  let label := withoutBreak text
  label.all isLabelChar && label.length ≤ labelLimit && label.head? ≠ some '-' &&
    label.getLast? ≠ some '-' && (label.isEmpty || !label.all fun c => '0' ≤ c && c ≤ '9')

/-- A text without the occurrences of a word, looked for from the start. The
fuel is at least the length of the text. -/
def remove (word : List Char) : Nat → List Char → List Char
  | 0, text => text
  | _, [] => []
  | fuel + 1, c :: rest =>
      if word.isPrefixOf (c :: rest) then remove word fuel ((c :: rest).drop word.length)
      else c :: remove word fuel rest

/-- The region itself, without the mark of endpoints for federal use. -/
def plainRegion (region : List Char) : List Char :=
  let region := remove "fips-".toList region.length region
  remove "-fips".toList region.length region

/-- Whether a text is a word and a number with a hyphen between them. -/
def isWordNumber (text : List Char) : Bool :=
  match Text.splitOn '-' text with
  | [word, number] =>
      !word.isEmpty && !number.isEmpty && number.all fun c => (Numeral.digit? c).isSome
  | _ => false

/-- Whether a region is one of a family: the family's name in front of a word
and a number. -/
def isOfFamily (region : List Char) (family : String) : Bool :=
  let mark := family.toList ++ ['-']
  mark.isPrefixOf region && isWordNumber (region.drop mark.length)

/-- Families of regions, each with the domain of its services. -/
def families : List (String × String) :=
  (["us", "eu", "ap", "sa", "ca", "me", "af", "il", "mx", "us-gov"].map (·, "amazonaws.com")) ++
    [("cn", "amazonaws.com.cn"), ("us-iso", "c2s.ic.gov"), ("us-isob", "sc2s.sgov.gov"),
     ("eu-isoe", "cloud.adc-e.uk"), ("us-isof", "csp.hci.ic.gov"), ("eusc-de", "amazonaws.eu")]

/-- The address of the service in a region. The mark of federal use moves into
the name of the service. -/
def ofRegion (region : List Char) : String :=
  let plain := plainRegion region
  let domain? := (families.find? fun (family, _) => isOfFamily plain family).map (·.2)
  let service := if plain ≠ region then "cognito-idp-fips" else "cognito-idp"
  "https://" ++ service ++ "." ++ String.ofList plain ++ "." ++ domain?.getD "amazonaws.com"

/-- Whether a text is a label of a host. Beside ASCII, the digits of every
script count, and so do the two letters whose capitals are in ASCII. -/
def isHostLabel (label : List Char) : Bool :=
  !label.isEmpty && label.length ≤ labelLimit && label.head? ≠ some '-' &&
    label.getLast? ≠ some '-' && label.all fun c =>
      isLabelChar c || (Text.decimalDigit? c).isSome || c = 'ı' || c = 'ſ'

/-- The longest host. -/
def hostLimit : Nat := 255

/-- Whether a host is a name, perhaps with a full stop at its end, or an address
of version 6. -/
def isHost (host : List Char) : Bool :=
  let name := if host.getLast? = some '.' then host.dropLast else host
  (host.length ≤ hostLimit && (Text.splitOn '.' name).all isHostLabel) ||
    UrlPlace.needsBrackets host

/-- Whether a text is the address of an endpoint: a URL on one line with a
host. -/
def isValid (text : String) : Bool :=
  let chars := text.toList
  let start := chars.dropWhile fun c => c.toNat ≤ 0x20
  if chars.any (fun c => c = '\t' || c = '\r' || c = '\n') || start.head? = some ':' then false
  else
    match UrlPlace.ofRaw (Url.Raw.ofText start) with
    | .ok place => place.host.any isHost
    | .error _ => false

/-- Checks a time limit: a number above zero that is a double or can become one,
or none at all. -/
def checkTimeout : Json → Outcome Unit
  | .null => .ok ()
  | .int value =>
      match Binary64.ofInt? value with
      | some _ => if 0 < value then .ok () else .halt .invalidTimeout
      | none => .halt .beyondDouble
  | .float value =>
      if value.isNaN || !value.isNegative && value.magnitude ≠ 0 then .ok ()
      else .halt .invalidTimeout
  | _ => .halt .invalidTimeout

end ClientAuth.Endpoint
