import ClientAuth.Json.Equality
import ClientAuth.Proofs.ServiceRejection
import ClientAuth.Proofs.WholeDocument

/-! One exchange over HTTP and through the client library. Main statement: `carried_alike`, what is
posted is what the client library is given, a call is posted exactly if it can be written down, and
data that the service accepts it with are read alike. -/
namespace ClientAuth

/-- The session that an answer goes on with. -/
def Call.session? : Call → Option String
  | .initiate _ => none
  | .respond answer => answer.session

/-- An empty session is none, and then no argument. -/
theorem Sdk.Invocation.arguments_respond (clientId : String) (answer : ChallengeAnswer) :
    (ofCall clientId (.respond answer)).arguments =
      [("ChallengeName", .text answer.challenge), ("ClientId", .text clientId),
        ("ChallengeResponses", answer.responses.toJson)] ++
        (answer.session.filter (· ≠ "")).toList.map fun session => ("Session", .text session) := by
  rw [ofCall]
  cases answer.session.filter (· ≠ "") with
  | none => rfl
  | some session => rfl

theorem Sdk.Invocation.mem_session (clientId : String) (call : Call) (value : Json) :
    ("Session", value) ∈ (ofCall clientId call).arguments ↔
      ∃ session, call.session? = some session ∧ session ≠ "" ∧ value = .text session := by
  cases call with
  | initiate parameters => simp [ofCall, arguments, Call.session?]
  | respond answer =>
      have hKept (session : String) : answer.session.filter (· ≠ "") = some session ↔
          answer.session = some session ∧ session ≠ "" := by
        rw [Option.filter_eq_some_iff, decide_eq_true_eq]
      simp only [arguments_respond, Call.session?, ← and_assoc, ← hKept]
      simp [eq_comm]

namespace Http

/-- The document of a call has the arguments of the client library as its members. -/
theorem document_eq (clientId : String) (call : Call) :
    document clientId call = .object (Sdk.Invocation.ofCall clientId call).arguments := by
  cases call with
  | initiate parameters => rfl
  | respond answer =>
      rw [document, Sdk.Invocation.arguments_respond]
      cases answer.session with
      | none => rfl
      | some session => by_cases hEmpty : session = "" <;> simp [Option.filter, hEmpty]

/-- An endpoint names a scheme and a host that a request can be sent to. -/
def isUsable (endpoint : String) : Bool :=
  match Url.parse endpoint with
  | .ok url => (Address.ofUrl url).isAbsolute && url.checkHost.isOk
  | .error _ => false

/-- At a usable endpoint only halves of characters keep a call back. -/
theorem prepare_of_isUsable {endpoint : String} (h : isUsable endpoint = true) :
    ∃ address : Address, address.isAbsolute = true ∧ ∀ clientId call,
      prepare endpoint clientId call =
        if Text.isWhole (document clientId call).write then .ok (post address clientId call)
        else .error (.notUnicode (document clientId call).write) := by
  rw [isUsable] at h
  split at h
  next url hUrl =>
    obtain ⟨hAbsolute, hHost⟩ := Bool.and_eq_true_iff.mp h
    refine ⟨.ofUrl url, hAbsolute, fun clientId call => ?_⟩
    have hCheck : url.checkHost = .ok () := by
      cases hFound : url.checkHost with
      | ok value => rfl
      | error cause =>
          rw [hFound] at hHost
          nomatch hHost
    rw [prepare, hUrl]
    dsimp only
    rw [post, if_pos hAbsolute, hCheck]
    by_cases hWhole : Text.isWhole (document clientId call).write = true
    · simp [hWhole]
    · simp [hWhole]
  next => nomatch h

variable {endpoint clientId : String} {call : Call}

theorem body_of_prepare {request : Post} (h : prepare endpoint clientId call = .ok request) :
    request.body = document clientId call := by
  rw [prepare] at h
  split at h
  next => nomatch h
  next url hUrl =>
    dsimp only at h
    split at h
    next => nomatch h
    next =>
      split at h
      next => nomatch h
      next =>
        cases h
        rfl

/-- A call is posted exactly if its texts are texts of Unicode. -/
theorem reaches_iff (h : isUsable endpoint = true) :
    reaches endpoint clientId call = true ↔
      ∀ text ∈ call.texts clientId, Text.isWhole text = true := by
  obtain ⟨address, hAbsolute, hPrepare⟩ := prepare_of_isUsable h
  rw [← isWhole_document, reaches, hPrepare]
  by_cases hWhole : Text.isWhole (document clientId call).write = true
  · rw [if_pos hWhole]
    exact iff_of_true hAbsolute hWhole
  · rw [if_neg hWhole]
    exact iff_of_false Bool.false_ne_true hWhole

/-- A call with a half in its texts breaks off before it is posted. -/
theorem answer_of_half (h : isUsable endpoint = true)
    (hHalf : ¬∀ text ∈ call.texts clientId, Text.isWhole text = true) (exchange : Exchange)
    (room : Nat) :
    answer endpoint clientId call exchange room =
      .error (.fault (.notUnicode (document clientId call).write)) := by
  obtain ⟨address, -, hPrepare⟩ := prepare_of_isUsable h
  rw [← isWhole_document] at hHalf
  rw [answer.eq_def, hPrepare, if_neg hHalf]

/-- Data are read as a reply, or all complaints about them are one failure of the protocol. -/
theorem receive_returned (clientId : String) (call : Call) (data : Json) :
    (∃ reply, Sdk.receive clientId call (.returned data) = .ok reply) ∨
      ∃ complaints,
        Sdk.receive clientId call (.returned data) =
          .error (.failure (.malformedReply call.operation complaints)) := by
  rw [Sdk.receive, Call.read, Reply.parse]
  cases Reply.ofJson data with
  | ok reply => exact Or.inl ⟨reply, rfl⟩
  | error complaints => exact Or.inr ⟨complaints.length, rfl⟩

/-- A body of success that cannot be read is a failure of the protocol too. -/
theorem receive_of_malformed {room status : Nat} {body : Bytes}
    (hStatus : 200 ≤ status ∧ status < 300) (hBody : decodeBody room body = .error .malformed)
    (phrase : String) (call : Call) :
    receive room call (.response status body phrase) =
      .error (.failure (.replyNotJson call.operation status)) := by
  rw [receive, hBody]
  dsimp only
  rw [classify.eq_def, if_pos hStatus]
  rfl

/-- What is posted for a call are the arguments that the client library is given, with a session
exactly if there is one that says something. Where the endpoint can be posted to, a call is posted
exactly if its texts are texts of Unicode, and breaks off otherwise; the data that the service
accepts it with are then read like those that the client library returns, as the same reply or as
the same failure of the protocol, and so is what cannot be read as data. -/
theorem carried_alike (endpoint clientId : String) (call : Call) (room : Nat) :
    let arguments := (Sdk.Invocation.ofCall clientId call).arguments
    (∀ post, prepare endpoint clientId call = .ok post → post.body = .object arguments) ∧
    (∀ value, ("Session", value) ∈ arguments ↔
      ∃ session, call.session? = some session ∧ session ≠ "" ∧ value = .text session) ∧
    (isUsable endpoint = true →
      (reaches endpoint clientId call = true ↔
        ∀ text ∈ call.texts clientId, Text.isWhole text = true) ∧
      ((∃ text ∈ call.texts clientId, Text.isWhole text = false) → ∀ exchange,
        answer endpoint clientId call exchange room =
          .error (.fault (.notUnicode (Json.object arguments).write))) ∧
      ((∀ text ∈ call.texts clientId, Text.isWhole text = true) → ∀ status body phrase,
        200 ≤ status → status < 300 →
        (∀ data, decodeBody room body = .ok data →
          answer endpoint clientId call (.response status body phrase) room =
              Sdk.receive clientId call (.returned data) ∧
            ((∃ reply, Sdk.receive clientId call (.returned data) = .ok reply) ∨
              ∃ failure : Failure,
                Sdk.receive clientId call (.returned data) = .error (.failure failure) ∧
                failure.Is .protocol ∧
                failure.message = .text ("Malformed " ++ call.operation ++ " response") ∧
                failure.details.field? "operation" = some (.text call.operation))) ∧
        (decodeBody room body = .error .malformed →
          ∃ failure : Failure,
            answer endpoint clientId call (.response status body phrase) room =
              .error (.failure failure) ∧
            failure.Is .protocol))) := by
  intro arguments
  refine ⟨fun post hPost => ?_, Sdk.Invocation.mem_session clientId call,
    fun hUsable => ⟨reaches_iff hUsable, ?_, ?_⟩⟩
  · rw [← document_eq]
    exact body_of_prepare hPost
  · rintro ⟨text, hMem, hHalf⟩ exchange
    rw [← document_eq]
    refine answer_of_half hUsable (fun hWhole => ?_) exchange room
    exact Bool.false_ne_true (hHalf.symm.trans (hWhole text hMem))
  · intro hWhole status body phrase hLow hHigh
    have hStatus : 200 ≤ status ∧ status < 300 := ⟨hLow, hHigh⟩
    rw [answer_of_reaches ((reaches_iff hUsable).mpr hWhole)]
    refine ⟨fun data hRead => ⟨receive_of_accepted hStatus hRead phrase clientId call, ?_⟩,
      fun hBody => ⟨_, receive_of_malformed hStatus hBody phrase call, ⟨rfl, rfl⟩⟩⟩
    rcases receive_returned clientId call data with hReply | ⟨complaints, hFailure⟩
    · exact Or.inl hReply
    · exact Or.inr ⟨_, hFailure, ⟨rfl, rfl⟩, rfl, rfl⟩

/-- An answer to a challenge with a session is posted and read like an invocation. -/
theorem carried_alike_responding :
    let call : Call := .respond ⟨passwordVerifier, [("USERNAME", "u")], some "s"⟩
    let body := Bytes.ofAscii "\x7b\"Session\": \"t\"\x7d"
    let data : Json := .object [("Session", .text "t")]
    isUsable "https://localhost/" = true ∧ (∀ text ∈ call.texts "c", Text.isWhole text = true) ∧
      decodeBody Json.depthLimit body = .ok data ∧ reaches "https://localhost/" "c" call = true ∧
      ("Session", .text "s") ∈ (Sdk.Invocation.ofCall "c" call).arguments ∧
      answer "https://localhost/" "c" call (.response 200 body) =
        Sdk.receive "c" call (.returned data) := by
  intro call body data
  have hUsable : isUsable "https://localhost/" = true := by decide +kernel
  have hWhole : ∀ text ∈ call.texts "c", Text.isWhole text = true := by decide
  have hRead : decodeBody Json.depthLimit body = .ok data := by decide +kernel
  obtain ⟨-, hSession, hCarried⟩ := carried_alike "https://localhost/" "c" call Json.depthLimit
  obtain ⟨hReaches, -, hAnswer⟩ := hCarried hUsable
  exact ⟨hUsable, hWhole, hRead, hReaches.mpr hWhole, (hSession _).mpr ⟨"s", rfl, by decide, rfl⟩,
    ((hAnswer hWhole 200 body "OK" (by decide) (by decide)).1 data hRead).1⟩

/-- A user name with a half in it is never posted, though the client library is given it and its
reply is read. -/
theorem half_username_unposted :
    let username := String.ofList (Text.ofCodes [0xD800])
    let call : Call := .initiate [("USERNAME", username)]
    (∀ exchange, ∃ text,
      answer "https://localhost/" "c" call exchange = .error (.fault (.notUnicode text))) ∧
      ("AuthParameters", .object [("USERNAME", .text username)]) ∈
        (Sdk.Invocation.ofCall "c" call).arguments ∧
      Sdk.receive "c" call (.returned (.object [])) = .ok ⟨none, [], none, none⟩ := by
  intro username call
  have hUsable : isUsable "https://localhost/" = true := by decide +kernel
  have hHalf : ¬∀ text ∈ call.texts "c", Text.isWhole text = true := by decide
  refine ⟨fun exchange => ⟨_, answer_of_half hUsable hHalf exchange _⟩, ?_, rfl⟩
  exact .tail _ (.tail _ (.head _))

end Http
end ClientAuth
