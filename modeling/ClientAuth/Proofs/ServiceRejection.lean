import ClientAuth.Proofs.TextPieces
import ClientAuth.Proofs.TransportService
import ClientAuth.Proofs.TwoServices

/-! A rejection by the service, over HTTP and through the client library. Main statement:
`Rejection.reported_alike`, below the statuses of a server's own failures both transports report
the same code and message, and a handshake cannot tell them apart. -/
namespace ClientAuth

/-- A rejection as the service means it: a code without a namespace, and a message. -/
structure Rejection where
  code : String
  message : String
  code_ne : code ≠ ""
  code_plain : '#' ∉ code.toList
  message_ne : message ≠ ""

namespace Rejection

/-- The type that a body names is the code, perhaps behind a namespace. -/
def IsType (rejection : Rejection) (text : String) : Prop :=
  text = rejection.code ∨ ∃ space, text = space ++ "#" ++ rejection.code

/-- A body that tells a rejection to a reader with so much room. -/
structure InBody (rejection : Rejection) (room : Nat) (body : Bytes) : Prop where
  read : ∃ members typed, Http.decodeBody room body = .ok (.object members) ∧
    Json.lookup? "__type" members = some (.text typed) ∧ rejection.IsType typed ∧
    Json.lookup? "message" members = some (.text rejection.message)

/-- A refusal of the client library that tells a rejection. -/
structure InRefusal (rejection : Rejection) (refusal : Sdk.Refusal) : Prop where
  code : Json.lookup? "Code" refusal.error = some (.text rejection.code)
  message : Json.lookup? "Message" refusal.error = some (.text rejection.message)

/-- A body that says the type and the message and no more tells a rejection. -/
theorem inBody_of_pair {rejection : Rejection} {room : Nat} {body : Bytes} (typed : String)
    (hType : rejection.IsType typed)
    (hRead : (match Http.decodeBody room body with
      | .ok (.object [("__type", .text found), ("message", .text message)]) =>
          decide (found = typed ∧ message = rejection.message)
      | _ => false) = true) : rejection.InBody room body := by
  cases hBody : Http.decodeBody room body with
  | error fault =>
      rw [hBody] at hRead
      nomatch hRead
  | ok data =>
      rw [hBody] at hRead
      split at hRead
      next found message hData =>
        obtain ⟨rfl, hMessage⟩ := of_decide_eq_true hRead
        cases hData
        exact ⟨_, found, hBody, rfl, hType, by rw [← hMessage]; rfl⟩
      next => nomatch hRead

end Rejection

namespace Http

/-- A text stands behind the last number sign of another one, or it is all of a text without
any. -/
def IsBehindHash (text tail : String) : Prop :=
  '#' ∉ tail.toList ∧ (text = tail ∨ ∃ front, text = front ++ "#" ++ tail)

theorem afterHash_eq_of_isBehindHash {text tail : String} (h : IsBehindHash text tail) :
    afterHash text = tail := by
  obtain ⟨hPlain, hText⟩ := h
  have hPass : ∀ c ∈ tail.toList.reverse, decide (c ≠ '#') = true := by
    intro c hMem
    rw [List.mem_reverse] at hMem
    exact decide_eq_true fun hHash => hPlain (hHash ▸ hMem)
  rw [afterHash]
  rcases hText with rfl | ⟨front, rfl⟩
  · rw [List.takeWhile_eq_self_iff.mpr hPass, List.reverse_reverse, String.ofList_toList]
  · have hBack : (front ++ "#" ++ tail).toList.reverse =
        tail.toList.reverse ++ '#' :: front.toList.reverse := by
      simp
    rw [hBack, List.takeWhile_append_of_pos hPass, List.takeWhile_cons_of_neg (by decide),
      List.append_nil, List.reverse_reverse, String.ofList_toList]

theorem isBehindHash_afterHash (text : String) : IsBehindHash text (afterHash text) := by
  have hWhole : (text.toList.reverse.dropWhile (· ≠ '#')).reverse ++ (afterHash text).toList =
      text.toList := by
    rw [afterHash, String.toList_ofList, ← List.reverse_append, List.takeWhile_append_dropWhile,
      List.reverse_reverse]
  constructor
  · rw [afterHash, String.toList_ofList, List.mem_reverse]
    exact Text.mark_notMem_takeWhile '#' _
  · by_cases hFront : text.toList.reverse.dropWhile (· ≠ '#') = []
    · rw [hFront, List.reverse_nil, List.nil_append] at hWhole
      exact .inl (String.toList_inj.mp hWhole.symm)
    · rw [Text.dropWhile_mark hFront, List.reverse_cons] at hWhole
      refine .inr ⟨String.ofList ((text.toList.reverse.dropWhile (· ≠ '#')).drop 1).reverse, ?_⟩
      rw [← String.toList_inj, String.toList_append, String.toList_append, String.toList_ofList]
      exact hWhole.symm

/-- The code is what stands behind the last number sign. -/
theorem afterHash_of_isType {rejection : Rejection} {typed : String}
    (h : rejection.IsType typed) : afterHash typed = rejection.code :=
  afterHash_eq_of_isBehindHash ⟨rejection.code_plain, h⟩

/-- What is made of a body that tells a rejection, with a status that is none of success. -/
theorem receive_of_inBody {rejection : Rejection} {room status : Nat} {body : Bytes}
    (hStatus : ¬(200 ≤ status ∧ status < 300)) (hBody : rejection.InBody room body) (call : Call)
    (phrase : String) :
    receive room call (.response status body phrase) = .error (.failure
      (if 500 ≤ status then
        .serverFailed call.operation status rejection.code (.text rejection.message)
      else .rejected call.operation status rejection.code (.text rejection.message))) := by
  obtain ⟨members, typed, hRead, hTyped, hType, hMessage⟩ := hBody.read
  have hCode : errorCode status (some (.object members)) = rejection.code := by
    rw [errorCode]
    simp only [errorMembers, hTyped, Option.getD_some, Json.shown_text, afterHash_of_isType hType,
      rejection.code_ne, if_false]
  have hText : errorMessage phrase (some (.object members)) = .text rejection.message := by
    rw [errorMessage]
    simp [errorMembers, hMessage, Json.isVacuous, rejection.message_ne]
  rw [receive, hRead]
  dsimp only
  rw [classify.eq_def, if_neg hStatus, hCode, hText]
  split
  · rfl
  · rfl

end Http

/-- What the client library makes of a rejection. -/
theorem Sdk.receive_of_inRefusal {rejection : Rejection} {refusal : Refusal}
    (h : rejection.InRefusal refusal) (clientId : String) (call : Call) :
    receive clientId call (.refused refusal) = .error (.failure
      (.clientRejected (Invocation.ofCall clientId call).function (.text rejection.code)
        (.text rejection.message))) := by
  simp [receive, h.code, h.message, orElse, Json.isVacuous, rejection.code_ne,
    rejection.message_ne]

/-- A call is posted: it can be written down, and the endpoint names a scheme and a host. -/
def Http.reaches (endpoint clientId : String) (call : Call) : Bool :=
  match prepare endpoint clientId call with
  | .ok post => post.address.isAbsolute
  | .error _ => false

theorem Http.answer_of_reaches {endpoint clientId : String} {call : Call}
    (h : reaches endpoint clientId call = true) (exchange : Exchange) (room : Nat) :
    answer endpoint clientId call exchange room = receive room call exchange := by
  rw [reaches] at h
  rw [answer.eq_def]
  split at h
  next post hPost =>
    rw [hPost]
    cases exchange with
    | response status body phrase => exact if_pos h
    | broken text => rfl
    | trouble cause => rfl
  next => cases h

theorem Http.reaches_localhost :
    reaches "https://localhost/" "c" (.initiate [("USERNAME", "u")]) = true := by
  decide +kernel

/-- Accepted data are read alike, whichever way they came. -/
theorem Http.receive_of_accepted {room status : Nat} {body : Bytes} {data : Json}
    (hStatus : 200 ≤ status ∧ status < 300) (hRead : decodeBody room body = .ok data)
    (phrase clientId : String) (call : Call) :
    receive room call (.response status body phrase) =
      Sdk.receive clientId call (.returned data) := by
  rw [receive, hRead]
  dsimp only
  rw [classify.eq_def, if_pos hStatus]
  rfl

/-- One and the same doing of the service, as it comes back over HTTP and through the client
library: it accepts a call, or rejects it with a status that is not one of its own failures. -/
inductive Corresponds (room : Nat) : Http.Exchange → Sdk.Exchange → Prop
  | accepted {status : Nat} {body : Bytes} {phrase : String} {data : Json}
      (hStatus : 200 ≤ status ∧ status < 300) (hRead : Http.decodeBody room body = .ok data) :
      Corresponds room (.response status body phrase) (.returned data)
  | rejected {status : Nat} {body : Bytes} {phrase : String} {refusal : Sdk.Refusal}
      (rejection : Rejection) (hStatus : ¬(200 ≤ status ∧ status < 300)) (hBelow : status < 500)
      (hBody : rejection.InBody room body) (hRefusal : rejection.InRefusal refusal) :
      Corresponds room (.response status body phrase) (.refused refusal)

theorem Corresponds.answersMatch {room : Nat} {exchange : Http.Exchange} {other : Sdk.Exchange}
    (h : Corresponds room exchange other) (clientId : String) (call : Call) :
    AnswersMatch (Sdk.receive clientId call other) (Http.receive room call exchange) := by
  cases h with
  | accepted hStatus hRead =>
      rw [Http.receive_of_accepted hStatus hRead _ clientId]
      exact .same _
  | rejected rejection hStatus hBelow hBody hRefusal =>
      rw [Http.receive_of_inBody hStatus hBody, Sdk.receive_of_inRefusal hRefusal,
        if_neg (Nat.not_le.mpr hBelow)]
      exact .failed ⟨rfl, rfl, rfl⟩

/-- Services that do the same answer alike to the calls that are posted. -/
theorem HttpTransport.answers_match {http : HttpTransport} {sdk : SdkTransport} {room : Nat}
    {first : Parameters → Http.Exchange} {second : Parameters → ChallengeAnswer → Http.Exchange}
    {first' : Parameters → Sdk.Exchange} {second' : Parameters → ChallengeAnswer → Sdk.Exchange}
    (hFirst : ∀ parameters, Corresponds room (first parameters) (first' parameters))
    (hSecond : ∀ parameters answer,
      Corresponds room (second parameters answer) (second' parameters answer))
    {calls : List Call}
    (hReaches : ∀ call ∈ calls, Http.reaches http.endpoint http.clientId call = true) :
    List.Forall₂ AnswersMatch ((sdk.service first' second').answers calls)
      ((http.service first second room).answers calls) := by
  have hCall {call : Call} (hMem : call ∈ calls) {exchange : Http.Exchange}
      {other : Sdk.Exchange} (h : Corresponds room exchange other) :
      AnswersMatch (Sdk.receive sdk.clientId call other)
        (Http.answer http.endpoint http.clientId call exchange room) := by
    rw [Http.answer_of_reaches (hReaches call hMem)]
    exact h.answersMatch _ _
  unfold Service.answers
  split
  next parameters => exact .cons (hCall List.mem_cons_self (hFirst parameters)) .nil
  next parameters answer =>
    exact .cons (hCall List.mem_cons_self (hFirst parameters))
      (.cons (hCall (List.mem_cons_of_mem _ List.mem_cons_self) (hSecond parameters answer)) .nil)
  next => exact .nil

/-- Both transports report a rejection with its code and message, unless its status is that of a
server's own failure: then the report over HTTP is one of the transport that names the code in its
details. Short of that, a handshake runs alike over both. -/
theorem Rejection.reported_alike {http : HttpTransport} {sdk : SdkTransport}
    (hClient : sdk.clientId = http.clientId) (room : Nat) :
    (∀ (rejection : Rejection) (call : Call) (status : Nat) (body : Bytes) (phrase : String)
      (refusal : Sdk.Refusal),
      Http.reaches http.endpoint http.clientId call = true →
      ¬(200 ≤ status ∧ status < 300) → rejection.InBody room body → rejection.InRefusal refusal →
      ∃ sent given : Failure,
        Http.answer http.endpoint http.clientId call (.response status body phrase) room =
          .error (.failure sent) ∧
        Sdk.receive sdk.clientId call (.refused refusal) = .error (.failure given) ∧
        given.kind = .general ∧ given.code = .text rejection.code ∧
        given.message = .text rejection.message ∧
        (status < 500 → sent.Alike given) ∧
        (500 ≤ status → sent.Is .transport ∧
          sent.message = .text (call.operation ++ " failed: " ++ rejection.message) ∧
          sent.details.field? "type" = some (.text rejection.code))) ∧
      ∀ (first : Parameters → Http.Exchange) (second : Parameters → ChallengeAnswer → Http.Exchange)
        (first' : Parameters → Sdk.Exchange)
        (second' : Parameters → ChallengeAnswer → Sdk.Exchange),
        (∀ parameters, Corresponds room (first parameters) (first' parameters)) →
        (∀ parameters answer,
          Corresponds room (second parameters answer) (second' parameters answer)) →
        ∀ (handshake : Handshake) (sink : Sink) (now : Outcome Moment) (entropy : List Bytes)
          (username password : String),
          let run (service : Service) := handshake.run service sink now entropy username password
          (∀ call ∈ (run (sdk.service first' second')).record.calls,
            Http.reaches http.endpoint http.clientId call = true) →
          (run (sdk.service first' second')).Matches (run (http.service first second room)) := by
  constructor
  · intro rejection call status body phrase refusal hReaches hStatus hBody hRefusal
    have hSent := Http.receive_of_inBody hStatus hBody call phrase
    rw [← Http.answer_of_reaches hReaches] at hSent
    refine ⟨_, _, hSent, Sdk.receive_of_inRefusal hRefusal _ _, rfl, rfl, rfl, ?_, ?_⟩
    · intro hBelow
      rw [if_neg (Nat.not_le.mpr hBelow)]
      exact ⟨rfl, rfl, rfl⟩
    · intro hServer
      rw [if_pos hServer]
      exact ⟨⟨rfl, rfl⟩, rfl, rfl⟩
  · intro first second first' second' hFirst hSecond handshake sink now entropy username password
      run hReaches
    exact handshake.run_matches sink now entropy username password hClient
      (HttpTransport.answers_match hFirst hSecond hReaches)

/-- A handshake that is not authorized fails alike over both transports, whether or not the body
names the type with its namespace. -/
theorem Rejection.reported_alike_unauthorized :
    let rejection : Rejection := ⟨"NotAuthorizedException", "m", by decide, by decide, by decide⟩
    let http : HttpTransport := ⟨"c", "https://localhost/"⟩
    let sdk : SdkTransport := ⟨"c", "us-east-1"⟩
    let body := Bytes.ofAscii
      "\x7b\"__type\": \"n#NotAuthorizedException\", \"message\": \"m\"\x7d"
    let refusal : Sdk.Refusal :=
      ⟨[("Code", .text "NotAuthorizedException"), ("Message", .text "m")], [], "InitiateAuth"⟩
    let overHttp := http.service (fun _ => .response 400 body) fun _ _ => .response 400 body
    let overSdk := sdk.service (fun _ => .refused refusal) fun _ _ => .refused refusal
    let run (service : Service) := (Handshake.fresh "us-east-1_P" none).run service .accepting
      (.halt .noTime) [[1]] "u" "p"
    sdk.clientId = http.clientId ∧ rejection.InBody Json.depthLimit body ∧
      rejection.InRefusal refusal ∧
      (∀ call ∈ (run overSdk).record.calls, Http.reaches http.endpoint http.clientId call = true) ∧
      (run overSdk).Matches (run overHttp) ∧
      ∃ sent given : Failure,
        Http.answer http.endpoint http.clientId (.initiate []) (.response 400 body) =
          .error (.failure sent) ∧
        Sdk.receive sdk.clientId (.initiate []) (.refused refusal) = .error (.failure given) ∧
        sent.Alike given := by
  intro rejection http sdk body refusal overHttp overSdk run
  have hBody : rejection.InBody Json.depthLimit body :=
    inBody_of_pair "n#NotAuthorizedException" (.inr ⟨"n", by decide⟩) (by decide +kernel)
  have hRefusal : rejection.InRefusal refusal := ⟨rfl, rfl⟩
  have hStatus : ¬(200 ≤ 400 ∧ 400 < 300) := by decide
  have hRejected : Corresponds Json.depthLimit (.response 400 body) (.refused refusal) :=
    .rejected rejection hStatus (by decide) hBody hRefusal
  have hReaches : ∀ call ∈ (run overSdk).record.calls,
      Http.reaches http.endpoint http.clientId call = true := by
    decide +kernel
  obtain ⟨hCall, hRun⟩ := @reported_alike http sdk rfl Json.depthLimit
  obtain ⟨sent, given, hSent, hGiven, -, -, -, hAlike, -⟩ :=
    hCall rejection (.initiate []) 400 body _ refusal (by decide +kernel) hStatus hBody hRefusal
  refine ⟨rfl, hBody, hRefusal, hReaches, ?_, sent, given, hSent, hGiven, hAlike (by decide)⟩
  exact hRun _ _ _ _ (fun _ => hRejected) (fun _ _ => hRejected) _ _ _ _ _ _ hReaches

/-- A server's own failure is told from a rejection over HTTP, and not through the client
library. -/
theorem Rejection.server_failure_unlike :
    let call : Call := .initiate [("USERNAME", "u")]
    let body := Bytes.ofAscii
      "\x7b\"__type\": \"InternalErrorException\", \"message\": \"m\"\x7d"
    let refusal : Sdk.Refusal :=
      ⟨[("Code", .text "InternalErrorException"), ("Message", .text "m")], [], "InitiateAuth"⟩
    ∃ sent given : Failure,
      Http.answer "https://localhost/" "c" call (.response 500 body) = .error (.failure sent) ∧
        Sdk.receive "c" call (.refused refusal) = .error (.failure given) ∧
        sent.kind ≠ given.kind ∧ sent.code ≠ given.code ∧ sent.message ≠ given.message := by
  intro call body refusal
  let rejection : Rejection := ⟨"InternalErrorException", "m", by decide, by decide, by decide⟩
  have hBody : rejection.InBody Json.depthLimit body :=
    inBody_of_pair _ (.inl rfl) (by decide +kernel)
  have hRefusal : rejection.InRefusal refusal := ⟨rfl, rfl⟩
  have hSent : Http.answer "https://localhost/" "c" call (.response 500 body) = .error (.failure
      (.serverFailed "InitiateAuth" 500 "InternalErrorException" (.text "m"))) := by
    rw [Http.answer_of_reaches Http.reaches_localhost]
    exact Http.receive_of_inBody (by decide) hBody call _
  have hGiven : Sdk.receive "c" call (.refused refusal) = .error (.failure
      (.clientRejected "initiate_auth" (.text "InternalErrorException") (.text "m"))) :=
    Sdk.receive_of_inRefusal hRefusal "c" call
  refine ⟨_, _, hSent, hGiven, nofun, ?_, ?_⟩
  · intro hCode
    exact absurd (Json.text.inj hCode) (by decide)
  · intro hMessage
    exact absurd (Json.text.inj hMessage) (by decide)

end ClientAuth
