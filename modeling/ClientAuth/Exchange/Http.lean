import ClientAuth.Exchange.Address
import ClientAuth.Exchange.Call
import ClientAuth.Json.Reader
import ClientAuth.Text.Encoding

/-! The service over HTTP: each call is a JSON document that is posted, and
every response is a reply or a failure. -/
namespace ClientAuth.Http

/-- A request to the service. -/
structure Post where
  address : Address
  contentType : String
  target : String
  body : Json

/-- The document that a call posts. A session is sent only if there is one. -/
def document (clientId : String) : Call → Json
  | .initiate parameters =>
      .object [("AuthFlow", .text srpFlow), ("ClientId", .text clientId),
        ("AuthParameters", Parameters.toJson parameters)]
  | .respond answer =>
      .object ([("ChallengeName", .text answer.challenge), ("ClientId", .text clientId),
        ("ChallengeResponses", Parameters.toJson answer.responses)] ++
        match answer.session with
        | some session => if session = "" then [] else [("Session", .text session)]
        | none => [])

/-- The request for a call. -/
def post (address : Address) (clientId : String) (call : Call) : Post :=
  ⟨address, "application/x-amz-json-1.1",
    "AWSCognitoIdentityProviderService." ++ call.operation, document clientId call⟩

/-- The request for a call as it leaves for an endpoint. It is kept back by a text
that is no URL, then by halves of characters in the document, and then by a host
that no header can hold. -/
def prepare (endpoint clientId : String) (call : Call) : Except Fault Post :=
  match Url.parse endpoint with
  | .error cause => .error (.invalidUrl cause)
  | .ok url =>
      let post := post (.ofUrl url) clientId call
      if !Text.isWhole post.body.write then .error (.notUnicode post.body.write)
      else
        match if post.address.isAbsolute then url.checkHost else .ok () with
        | .error cause => .error (.invalidUrl cause)
        | .ok () => .ok post

/-- The standard phrases of statuses. -/
def reasonPhrases : List (Nat × String) :=
  [(100, "Continue"), (101, "Switching Protocols"), (102, "Processing"), (103, "Early Hints"),
   (200, "OK"), (201, "Created"), (202, "Accepted"), (203, "Non-Authoritative Information"),
   (204, "No Content"), (205, "Reset Content"), (206, "Partial Content"), (207, "Multi-Status"),
   (208, "Already Reported"), (226, "IM Used"), (300, "Multiple Choices"),
   (301, "Moved Permanently"), (302, "Found"), (303, "See Other"), (304, "Not Modified"),
   (305, "Use Proxy"), (307, "Temporary Redirect"), (308, "Permanent Redirect"),
   (400, "Bad Request"), (401, "Unauthorized"), (402, "Payment Required"), (403, "Forbidden"),
   (404, "Not Found"), (405, "Method Not Allowed"), (406, "Not Acceptable"),
   (407, "Proxy Authentication Required"), (408, "Request Timeout"), (409, "Conflict"),
   (410, "Gone"), (411, "Length Required"), (412, "Precondition Failed"),
   (413, "Request Entity Too Large"), (414, "Request-URI Too Long"),
   (415, "Unsupported Media Type"), (416, "Requested Range Not Satisfiable"),
   (417, "Expectation Failed"), (418, "I'm a teapot"), (421, "Misdirected Request"),
   (422, "Unprocessable Entity"), (423, "Locked"), (424, "Failed Dependency"),
   (425, "Too Early"), (426, "Upgrade Required"), (428, "Precondition Required"),
   (429, "Too Many Requests"), (431, "Request Header Fields Too Large"),
   (451, "Unavailable For Legal Reasons"), (500, "Internal Server Error"),
   (501, "Not Implemented"), (502, "Bad Gateway"), (503, "Service Unavailable"),
   (504, "Gateway Timeout"), (505, "HTTP Version Not Supported"),
   (506, "Variant Also Negotiates"), (507, "Insufficient Storage"), (508, "Loop Detected"),
   (510, "Not Extended"), (511, "Network Authentication Required")]

/-- The phrase of a status, empty for a status without one. -/
def reasonPhrase (status : Nat) : String :=
  ((reasonPhrases.find? (·.1 = status)).map (·.2)).getD ""

/-- What comes back: a status with a body, a broken connection, or trouble of
another kind. The phrase beside a status is the service's own, the standard one
if it sends none. -/
inductive Exchange
  | response (status : Nat) (body : Bytes) (phrase : String := reasonPhrase status)
  | broken (text : String)
  | trouble (cause : Trouble)

/-- The value that a body holds, nested at most `room` deep. A surrogate may
stand alone in it. -/
def decodeBody (room : Nat) (body : Bytes) : Except Json.ReadFault Json :=
  match Text.detected? body with
  | some text => Json.readWithin room text
  | none => .error .malformed

/-- What follows the last number sign. -/
def afterHash (text : String) : String :=
  String.ofList (text.toList.reverse.takeWhile (· ≠ '#')).reverse

/-- The members of the object that a body holds, if it holds one. -/
def errorMembers : Option Json → List (String × Json)
  | some (.object members) => members
  | _ => []

/-- The code of a refusal: the type that the body names, without its namespace,
or else the status. -/
def errorCode (status : Nat) (content : Option Json) : String :=
  let named := ((Json.lookup? "__type" (errorMembers content)).getD (.text "")).shown
  let code := afterHash named
  if code = "" then "HTTP" ++ toString status else code

/-- The message of a refusal: the first of the two message fields that says
something, or else the phrase of the response. -/
def errorMessage (phrase : String) (content : Option Json) : Json :=
  let field (name : String) : Json := (Json.lookup? name (errorMembers content)).getD .null
  if !(field "message").isVacuous then field "message"
  else if !(field "Message").isVacuous then field "Message"
  else .text phrase

/-- The reply in a response with readable content or none, or the failure that
it is. -/
def classify (call : Call) (status : Nat) (phrase : String) (content : Option Json) :
    Except Failure Reply :=
  if 200 ≤ status ∧ status < 300 then
    match content with
    | some data => Reply.parse call.operation data
    | none => .error (.replyNotJson call.operation status)
  else if 500 ≤ status then
    .error (.serverFailed call.operation status (errorCode status content)
      (errorMessage phrase content))
  else
    .error (.rejected call.operation status (errorCode status content)
      (errorMessage phrase content))

/-- What a call ends with. A body that is nested too deep for the reader's room
is neither a reply nor a failure, whatever the status. -/
def receive (room : Nat) (call : Call) : Exchange → Answer
  | .response status body phrase =>
      match decodeBody room body with
      | .ok data => Trouble.ofFailure (classify call status phrase (some data))
      | .error .malformed => Trouble.ofFailure (classify call status phrase none)
      | .error (.tooDeep inObject) => .error (.fault (.tooDeep inObject))
  | .broken text => .error (.failure (.requestFailed call.operation text))
  | .trouble cause => .error cause

/-- What a call ends with that is posted to an endpoint. Without a scheme and a
host, the response comes to nothing. -/
def answer (endpoint clientId : String) (call : Call) (exchange : Exchange)
    (room : Nat := Json.depthLimit) : Answer :=
  match prepare endpoint clientId call, exchange with
  | .error cause, _ => .error (.fault cause)
  | .ok post, .response status body phrase =>
      if post.address.isAbsolute then receive room call (.response status body phrase)
      else .error (.fault (.unknownUrlKind post.address.url))
  | .ok _, exchange => receive room call exchange

end ClientAuth.Http
