import ClientAuth.Api.Url
import ClientAuth.Failure
import ClientAuth.Text.Half
import ClientAuth.Text.Upper

/-! Requests to the API and their headers. -/
namespace ClientAuth

/-- Headers in order, their names in lower case. A name may occur more than
once. -/
abbrev Headers := List (String × String)

namespace Headers

/-- Whether a name occurs. -/
def has (headers : Headers) (name : String) : Bool := headers.any (·.1 = name)

/-- All values of a name in one text. -/
def joined? (headers : Headers) (name : String) : Option String :=
  match headers.filter (·.1 = name) with
  | [] => none
  | found => some (", ".intercalate (found.map (·.2)))

/-- Drops a name. -/
def erase (headers : Headers) (name : String) : Headers := headers.filter (·.1 ≠ name)

/-- Gives a name one value, in the place of its first occurrence. -/
def set (name value : String) : Headers → Headers
  | [] => [(name, value)]
  | (other, old) :: rest =>
      if other = name then (name, value) :: erase rest name
      else (other, old) :: set name value rest

/-- Each name once, with all its values in one text. -/
def merged (headers : Headers) : Headers :=
  headers.foldl (fun found (name, value) =>
    if has found name then
      found.map fun (other, old) => if other = name then (other, old ++ ", " ++ value) else (other, old)
    else found ++ [(name, value)]) []

end Headers

/-- How the texts of headers are written. -/
inductive HeaderEncoding
  | ascii
  | utf8
deriving DecidableEq, Repr

/-- A request to the API. The encoding of its headers is open until they are read
for the first time. -/
structure ApiRequest where
  method : String
  url : Url
  headers : Headers
  body : Bytes
  encoding : Option HeaderEncoding
deriving DecidableEq, Repr

namespace ApiRequest

/-- Whether a text is within ASCII. -/
def isAscii (text : String) : Bool := text.toList.all (·.toNat < 128)

/-- The encoding that headers are read in: ASCII as long as no text goes beyond
it. Once found, it stays. -/
def headerEncoding (request : ApiRequest) : HeaderEncoding :=
  request.encoding.getD
    (if request.headers.all fun (name, value) => isAscii name && isAscii value then .ascii
    else .utf8)

/-- An ASCII text in lower case. -/
def lowerName (name : String) : String := String.ofList (name.toList.map Numeral.lower)

/-- The methods whose requests announce even an empty body. -/
def methodsWithBody : List String := ["POST", "PUT", "PATCH"]

/-- Adds the length of a body that is there. -/
def withBodyLength (body : Bytes) (headers : Headers) : Headers :=
  if body.isEmpty || headers.has "content-length" then headers
  else headers ++ [("content-length", toString body.length)]

/-- The headers that are put in front: the host, and the length of an empty
body that the method announces. -/
def leadingHeaders (method : String) (url : Url) (headers : Headers) : Headers :=
  (if headers.has "host" || url.host = "" then [] else [("host", url.hostText)]) ++
    (if headers.has "content-length" || headers.has "transfer-encoding" ||
        method ∉ methodsWithBody then []
      else [("content-length", "0")])

/-- Builds a request. The URL must be readable and the headers ASCII. A host
that goes into a header of its own must be the name of something and ASCII. -/
def create (method url : String) (headers : List (String × String)) (body : Bytes) :
    Outcome ApiRequest :=
  match Url.parse url with
  | .error cause => .halt (.invalidUrl cause)
  | .ok url =>
      if !headers.all fun (name, value) => isAscii name && isAscii value then .halt .notAscii
      else
        let method := Text.upper method
        let headers :=
          withBodyLength body (headers.map fun (name, value) => (lowerName name, value))
        match if headers.has "host" then .ok () else url.checkHost with
        | .error cause => .halt (.invalidUrl cause)
        | .ok () => .ok ⟨method, url, leadingHeaders method url headers ++ headers, body, none⟩

end ApiRequest

namespace HeaderEncoding

/-- Whether a value can be written. -/
def holds : HeaderEncoding → String → Bool
  | ascii, value => ApiRequest.isAscii value
  | utf8, value => Text.isWhole value

/-- Why a value cannot be written. -/
def fault : HeaderEncoding → String → Fault
  | ascii, _ => .notAscii
  | utf8, value => .notUnicode value

end HeaderEncoding
end ClientAuth
