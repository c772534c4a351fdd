import ClientAuth.Api.Name.Label

/-! What is wrong with a URL. -/
namespace ClientAuth

/-- Why a text is not a URL, or not one that a request can be made for. A half of
a character is met where text is percent-encoded, and a host may turn out to be
beyond ASCII or the ASCII form of no name. -/
inductive UrlFault
  | tooLong
  | control (code place : Nat)
  | half (code : Nat)
  | badDotted (host : String)
  | badColoned (host : String)
  | badName (host : String)
  | badPort (port : String)
  | leadingSlashes
  | leadingColon
  | badLabel (cause : NameFault)
  | beyondAscii (host : String)
deriving DecidableEq, Repr

namespace UrlFault

/-- The family under which a fault is reported. -/
def family : UrlFault → String
  | half _ | beyondAscii _ => "UnicodeEncodeError"
  | badLabel cause => cause.family
  | _ => "InvalidURL"

/-- The text of a fault. Places are counted from zero. -/
def message : UrlFault → String
  | tooLong => "URL too long"
  | control code place =>
      "Invalid non-printable ASCII character in URL, " ++
        Text.quoted (String.ofList (Text.spell code)) ++ " at position " ++ toString place ++ "."
  | half code => Text.lackMessage "utf-8" "surrogates not allowed" Text.isHalf [code]
  | badDotted host => "Invalid IPv4 address: " ++ Text.quoted host
  | badColoned host => "Invalid IPv6 address: " ++ Text.quoted host
  | badName host => "Invalid IDNA hostname: " ++ Text.quoted host
  | badPort port => "Invalid port: " ++ Text.quoted port
  | leadingSlashes => "Relative URLs cannot have a path starting with '//'"
  | leadingColon => "Relative URLs cannot have a path starting with ':'"
  | badLabel cause => cause.message
  | beyondAscii host =>
      Text.lackMessage "ascii" "ordinal not in range(128)" (128 ≤ ·) (Text.codes host.toList)

end UrlFault
end ClientAuth
