import ClientAuth.Api.Host

/-! URLs in normal form: scheme and host in lower case, the scheme's own port
left out, dot segments resolved, and everything unsafe percent-encoded. A port
may be any whole number. -/
namespace ClientAuth

/-- A URL in normal form. The host of an IPv6 address has no brackets here. -/
structure Url where
  scheme : String
  user : String
  host : String
  port : Option Int
  path : String
  query : Option String
  fragment : Option String
deriving DecidableEq, Repr

namespace Url

/-- Resolves dot segments against the segments already passed. Two dots take
the last one back, but never the empty one in front of a leading slash. -/
def resolveDots (passed : List (List Char)) : List (List Char) → List (List Char)
  | [] => passed
  | segment :: rest =>
      if segment = ['.'] then resolveDots passed rest
      else if segment = ['.', '.'] then
        resolveDots (if passed = [[]] then passed else passed.dropLast) rest
      else resolveDots (passed ++ [segment]) rest

/-- A path without dot segments. -/
def normalizePath (path : List Char) : List Char :=
  Text.joinWith '/' (resolveDots [] (Text.splitOn '/' path))

/-- The port that a scheme uses unless another is given. -/
def defaultPort? (scheme : String) : Option Int :=
  match scheme with
  | "ftp" => some 21
  | "http" => some 80
  | "https" => some 443
  | "ws" => some 80
  | "wss" => some 443
  | _ => none

/-- A port. None is given by nothing and by the scheme's own port. -/
def readPort (scheme : String) (text : List Char) : Except UrlFault (Option Int) :=
  if text.isEmpty then .ok none
  else
    match Numeral.readInt? text with
    | some port => .ok (if defaultPort? scheme = some port then none else some port)
    | none => .error (.badPort (String.ofList text))

/-- The host and the port text of an authority without its user part. A host
in brackets may hold colons. -/
def splitHost (text : List Char) : List Char × List Char :=
  let afterColon (rest : List Char) : List Char :=
    match rest with
    | ':' :: port => port
    | port => port
  if text.head? = some '[' && ']' ∈ text then
    let (before, after) := Text.splitLast ']' text
    (before ++ [']'], afterColon after)
  else (text.takeWhile (· ≠ ':'), afterColon (text.dropWhile (· ≠ ':')))

/-- A scheme at the start of a text and what follows it. Schemes start with a
letter. -/
def splitScheme (text : List Char) : List Char × List Char :=
  let isSchemeChar (c : Char) : Bool :=
    ('a' ≤ c && c ≤ 'z') || ('A' ≤ c && c ≤ 'Z') || ('0' ≤ c && c ≤ '9') || c ∈ ['+', '.', '-']
  let word := text.takeWhile isSchemeChar
  match text.dropWhile isSchemeChar with
  | ':' :: rest => if word.head?.any (!Char.isAlpha ·) then ([], text) else (word, rest)
  | _ => ([], text)

/-- The part after a mark, if the text starts with the mark. -/
def afterMark (mark : Char) : List Char → Option String
  | c :: rest => if c = mark then some (String.ofList rest) else none
  | [] => none

/-- The longest URL. -/
def lengthLimit : Nat := 65536

/-- Whether a code point may not stand in a URL at all. -/
def isControl (code : Nat) : Bool := code < 0x20 || code = 0x7F

/-- The parts of a URL as they stand in its text. -/
structure Raw where
  scheme : List Char
  authority : List Char
  path : List Char
  query : Option String
  fragment : Option String

/-- Cuts a text at the marks between the parts. -/
def Raw.ofText (text : List Char) : Raw :=
  let (scheme, rest) := splitScheme text
  let (authority, rest) :=
    match rest with
    | '/' :: '/' :: rest =>
        let stops (c : Char) : Bool := c = '/' || c = '?' || c = '#'
        (rest.takeWhile fun c => !stops c, rest.dropWhile fun c => !stops c)
    | rest => ([], rest)
  let tail := rest.dropWhile fun c => c ≠ '?' && c ≠ '#'
  ⟨scheme, authority, rest.takeWhile fun c => c ≠ '?' && c ≠ '#',
    afterMark '?' (tail.takeWhile (· ≠ '#')), afterMark '#' (tail.dropWhile (· ≠ '#'))⟩

/-- The first control character and its place. -/
def firstControl? (codes : List Nat) : Option (Nat × Nat) :=
  (codes.find? isControl).map fun code => (code, (codes.takeWhile (!isControl ·)).length)

/-- Whether the normal form has a scheme or an authority. -/
def isAbsolute (url : Url) : Bool :=
  url.scheme ≠ "" || url.user ≠ "" || url.host ≠ "" || url.port.isSome

/-- Checks a path that stands first in its URL, where it could be taken for
another part. -/
def checkFirst (path : List Char) : Except UrlFault Unit :=
  if "//".toList.isPrefixOf path then .error .leadingSlashes
  else if path.head? = some ':' then .error .leadingColon
  else .ok ()

/-- A part in percent-encoded form. A half of a character has none. -/
def encodePart (isSafe : Char → Bool) (text : List Char) : Except UrlFault String :=
  let codes := Text.codes text
  match codes.find? Text.isHalf with
  | some code => .error (.half code)
  | none => .ok (String.ofList (Percent.encode isSafe (codes.map Char.ofNat)))

/-- A part that may be missing. -/
def encodePart? (isSafe : Char → Bool) : Option String → Except UrlFault (Option String)
  | some text => (encodePart isSafe text.toList).map some
  | none => .ok none

/-- Reads a URL into normal form. Too long a text, control characters, what
cannot be percent-encoded in the user part, bad hosts, bad ports, a path that
could be taken for another part, and at last what cannot be percent-encoded
elsewhere are refused in this order. Only a scheme in lower case has a port of
its own. -/
def parse (text : String) : Except UrlFault Url := do
  let codes := Text.codes text.toList
  if lengthLimit < codes.length then .error .tooLong
  else
    match firstControl? codes with
    | some (code, place) => .error (.control code place)
    | none =>
        let raw := Raw.ofText text.toList
        let (user, place) := Text.splitLast '@' raw.authority
        let (host, portText) := splitHost place
        let user ← encodePart Percent.isUserSafe user
        let host ← Host.normal host
        let port ← readPort (String.ofList raw.scheme) portText
        let scheme := String.ofList (raw.scheme.map Numeral.lower)
        let bare : Url := ⟨scheme, user, String.ofList host, port, "", none, none⟩
        if !bare.isAbsolute then checkFirst raw.path
        let path ← encodePart Percent.isPathSafe
          (if bare.isAbsolute then normalizePath raw.path else raw.path)
        return { bare with
          path := path
          query := ← encodePart? Percent.isQuerySafe raw.query
          fragment := ← encodePart? Percent.isFragmentSafe raw.fragment }

/-- The host and the port, as they stand in a host header. -/
def hostText (url : Url) : String :=
  (if ':' ∈ url.host.toList then "[" ++ url.host ++ "]" else url.host) ++
    match url.port with
    | some port => ":" ++ toString port
    | none => ""

/-- Checks what a host that starts like an ASCII form is the form of. -/
def checkName (url : Url) : Except UrlFault Unit :=
  if Name.asciiMark.isPrefixOf url.host.toList then
    match Name.checkName url.host.toList with
    | .ok () => .ok ()
    | .error cause => .error (.badLabel cause)
  else .ok ()

/-- Checks that a host may stand in a header: as a name, and as ASCII. -/
def checkHost (url : Url) : Except UrlFault Unit := do
  url.checkName
  if url.hostText.toList.all (·.toNat < 128) then return else .error (.beyondAscii url.hostText)

/-- The user, host and port. -/
def authority (url : Url) : String :=
  (if url.user = "" then "" else url.user ++ "@") ++ url.hostText

/-- The text of a URL. -/
def text (url : Url) : String :=
  (if url.scheme = "" then "" else url.scheme ++ ":") ++
    (if url.authority = "" then "" else "//" ++ url.authority) ++ url.path ++
    ((url.query.map ("?" ++ ·)).getD "") ++ ((url.fragment.map ("#" ++ ·)).getD "")

end Url
end ClientAuth
