import ClientAuth.Api.Request
import ClientAuth.Api.UrlPlace
import ClientAuth.Calendar.Stamp
import ClientAuth.Crypto.Hmac
import ClientAuth.Hex
import ClientAuth.Sorting
import ClientAuth.Text.Blank

/-! Request signatures, version 4. A signature covers the method, the path, the
query, all headers but a few, and the digest of the body, under a key derived
for one day, region and service. -/
namespace ClientAuth

/-- What requests are signed with. -/
structure AwsCredentials where
  accessKey : String
  secretKey : String
  token : Option String
deriving DecidableEq, Repr

/-- Where a signature is valid. -/
structure Scope where
  region : String
  service : String
deriving DecidableEq, Repr

namespace Signature

/-- Headers that proxies may change, which are therefore not signed. -/
def unsignedHeaders : List String :=
  ["baggage", "connection", "expect", "keep-alive", "proxy-authenticate", "proxy-authorization",
   "te", "traceparent", "tracestate", "trailer", "transfer-encoding", "upgrade", "user-agent",
   "x-amzn-trace-id"]

/-- The segments of a path without empty and dot segments. Two dots take the
last one back. -/
def segments (passed : List (List Char)) : List (List Char) → List (List Char)
  | [] => passed
  | segment :: rest =>
      if segment.isEmpty || segment = ['.'] then segments passed rest
      else if segment = ['.', '.'] then segments passed.dropLast rest
      else segments (passed ++ [segment]) rest

/-- A path with single slashes and no dot segments. -/
def cleanPath (path : List Char) : List Char :=
  if path.isEmpty then ['/']
  else
    let kept := segments [] (Text.splitOn '/' path)
    (if path.head? = some '/' then ['/'] else []) ++ Text.joinWith '/' kept ++
      (if path.getLast? = some '/' && !kept.isEmpty then ['/'] else [])

/-- The path as it is signed. It is percent-encoded once more. -/
def canonicalPath (path : String) : String :=
  String.ofList (Percent.encode (fun c => Percent.isUnreserved c || c = '/') (cleanPath path.toList))

/-- A pair of a query, split at its first equals sign. -/
def queryPair (text : List Char) : String × String :=
  (String.ofList (text.takeWhile (· ≠ '=')), String.ofList ((text.dropWhile (· ≠ '=')).drop 1))

/-- The order of query pairs: by name, then by value. -/
def pairBefore (x y : String × String) : Bool :=
  if x.1 = y.1 then x.2 < y.2 else x.1 < y.1

/-- The query as it is signed: its pairs in order. -/
def canonicalQuery (query : Option String) : String :=
  match query.filter (· ≠ "") with
  | none => ""
  | some query =>
      let pairs := (Text.splitOn '&' query.toList).map queryPair
      "&".intercalate ((sortBy pairBefore pairs).map fun (name, value) => name ++ "=" ++ value)

/-- A header value with single spaces in place of its gaps. -/
def trimAll (value : String) : String :=
  " ".intercalate ((Text.wordsBy Text.isGap value.toList).map String.ofList)

/-- The headers that are signed, each name once and in order. The host is
among them, from the text of the URL if no header names it. -/
def signedHeaders (place : UrlPlace) (headers : Headers) : Outcome Headers := do
  let kept := (Headers.merged headers).filter fun (name, _) => name ∉ unsignedHeaders
  if Headers.has kept "host" then return sortBy pairBefore kept
  else return sortBy pairBefore (kept ++ [("host", ← place.hostText)])

/-- The digest of a body, unless a header states another. -/
def bodyDigest (headers : Headers) (body : Bytes) : String :=
  (Headers.joined? headers "x-amz-content-sha256").getD (Hex.encode (Sha256.digest body))

/-- The names of signed headers in one text. Gaps around them are left out, so
that a name may come twice. -/
def headerNames (signed : Headers) : String :=
  ";".intercalate (sortBy (· < ·)
    (signed.map fun (name, _) => String.ofList (Text.trim Text.isGap name.toList)))

/-- The text of a request that is signed, and the names of the headers in it.
Path and query are those that the text of the URL shows. -/
def canonicalRequest (request : ApiRequest) : Outcome (String × String) := do
  let raw := Url.Raw.ofText request.url.text.toList
  let place ← UrlPlace.ofRaw raw
  let signed ← signedHeaders place request.headers
  let names := headerNames signed
  return ("\n".intercalate
    [request.method, canonicalPath (String.ofList raw.path), canonicalQuery raw.query,
     "\n".intercalate (signed.map fun (name, value) => name ++ ":" ++ trimAll value) ++ "\n",
     names, bodyDigest request.headers request.body], names)

/-- The scope as a text. -/
def scopeText (date : String) (scope : Scope) : String :=
  "/".intercalate [date, scope.region, scope.service, "aws4_request"]

/-- The day of a signature: what stands first in its timestamp. -/
def dayOf (stamp : String) : String := String.ofList (stamp.toList.take 8)

/-- The text that the signing key is applied to. -/
def stringToSign (stamp : String) (scope : Scope) (canonical : String) : Outcome String := do
  return "\n".intercalate
    ["AWS4-HMAC-SHA256", stamp, scopeText (dayOf stamp) scope,
     Hex.encode (Sha256.digest (← Outcome.utf8 canonical))]

/-- The key for one day, region and service. -/
def signingKey (secret date : String) (scope : Scope) : Outcome Bytes := do
  [date, scope.region, scope.service, "aws4_request"].foldlM
    (fun key part => do return Hmac.tag key (← Outcome.utf8 part))
    (← Outcome.utf8 ("AWS4" ++ secret))

/-- The signature of a canonical request. -/
def sign (secret stamp : String) (scope : Scope) (canonical : String) : Outcome String := do
  let text ← stringToSign stamp scope canonical
  return Hex.encode (Hmac.tag (← signingKey secret (dayOf stamp) scope) (← Outcome.utf8 text))

/-- The date header of a signature, from the date in its timestamp. -/
def dateHeader (time : CivilTime) : Outcome String := do
  let date ← Outcome.orHalt .unreadableStamp
    (Stamp.readDate? (Stamp.compactDate time.date).toList)
  return Stamp.header { time with date := date }

/-- A request made ready for signing: no old signature, the date of the
signature, and the token of the credentials if there is one. A date header is
kept up to date in place of the signature's own. -/
def prepare (credentials : AwsCredentials) (time : CivilTime) (request : ApiRequest) :
    Outcome ApiRequest := do
  let headers := (Headers.merged request.headers).erase "authorization"
  let headers ←
    if headers.has "date" then do
      let date ← dateHeader time
      pure (((headers.erase "date") ++ [("date", date)]).erase "x-amz-date")
    else pure ((headers.erase "x-amz-date") ++ [("x-amz-date", Stamp.compact time)])
  let headers :=
    match credentials.token.filter (· ≠ "") with
    | some token => (headers.erase "x-amz-security-token") ++ [("x-amz-security-token", token)]
    | none => headers
  return { request with headers := headers }

/-- The value of the authorization header. -/
def authorization (credentials : AwsCredentials) (stamp : String) (scope : Scope)
    (prepared : ApiRequest) : Outcome String := do
  let (canonical, names) ← canonicalRequest prepared
  return ", ".intercalate
    ["AWS4-HMAC-SHA256 Credential=" ++ credentials.accessKey ++ "/" ++
        scopeText (dayOf stamp) scope,
     "SignedHeaders=" ++ names,
     "Signature=" ++ (← sign credentials.secretKey stamp scope canonical)]

/-- The headers that a signature puts into the request. -/
def carriedHeaders : List String := ["authorization", "x-amz-date", "x-amz-security-token"]

/-- Copies headers from signed ones, where they are present, in the encoding of
those that are there. -/
def carry (encoding : HeaderEncoding) (signed : Headers) : List String → Headers → Outcome Headers
  | [], headers => .ok headers
  | name :: rest, headers =>
      match signed.joined? name with
      | some value =>
          if encoding.holds value then carry encoding signed rest (headers.set name value)
          else .halt (encoding.fault value)
      | none => carry encoding signed rest headers

/-- Signs a request at a number of seconds since the start of 1970: the
signature is computed of the prepared request, then its headers are put into the
request as it was. This reads the headers, which fixes their encoding. -/
def apply (credentials : AwsCredentials) (scope : Scope) (now : Binary64) (request : ApiRequest) :
    Outcome ApiRequest := do
  if now.isNaN then .halt .noTime
  else
    let time ← Outcome.orHalt .outsideCalendar (CivilTime.ofSeconds? now)
    let prepared ← prepare credentials time request
    let value ← authorization credentials (Stamp.compact time) scope prepared
    let signed := prepared.headers ++ [("authorization", value)]
    let encoding := request.headerEncoding
    let headers ← carry encoding signed carriedHeaders request.headers
    return { request with headers := headers, encoding := some encoding }

end Signature
end ClientAuth
