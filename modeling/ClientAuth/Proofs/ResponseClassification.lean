import ClientAuth.Proofs.NestingDepth
import ClientAuth.Proofs.ReplySpelling
import ClientAuth.Proofs.ServiceRejection

/-! What a call over HTTP ends with, told by the status and the body of the response. Main
statement: `Http.answer_settles`, for every posted call and every response, whatever room there is
to read its body: the response is a reply or one of three failures, unless its body is nested too
deep to be read. -/
namespace ClientAuth

/-- A value denotes a reply: it is an object, its fields hold what they are to hold, and the reply
is the one of their values. -/
def Json.Denotes (data : Json) (reply : Reply) : Prop :=
  ∃ members, data = .object members ∧ (Reply.Content.ofMembers members).mistakes = 0 ∧
    (Reply.Content.ofMembers members).reply = reply

/-- What denotes a reply is read as it, and all else is refused. -/
theorem Reply.parse_cases (operation : String) (data : Json) :
    (∃ reply, data.Denotes reply ∧ parse operation data = .ok reply) ∨
      (∀ reply, ¬data.Denotes reply) ∧
        ∃ complaints, parse operation data = .error (.malformedReply operation complaints) := by
  cases data with
  | object members =>
      rw [Content.parse_object]
      by_cases hNone : (Content.ofMembers members).mistakes = 0
      · exact .inl ⟨_, ⟨members, rfl, hNone, rfl⟩, if_pos hNone⟩
      · refine .inr ⟨?_, _, if_neg hNone⟩
        rintro reply ⟨other, hSame, hOther, -⟩
        cases hSame
        exact hNone hOther
  | _ => exact .inr ⟨fun _ ⟨_, hObject, _⟩ => Json.noConfusion hObject, 1, rfl⟩

namespace Http

/-- What a body holds: a value, or none if it is not JSON. -/
inductive Holds (room : Nat) (body : Bytes) : Option Json → Prop
  | value {data : Json} (h : decodeBody room body = .ok data) : Holds room body (some data)
  | malformed (h : decodeBody room body = .error .malformed) : Holds room body none

/-- The code of a rejection: what stands behind the last number sign of the type that the body
names, or else the status. A type that is no text counts as it is shown. -/
inductive NamesCode (status : Nat) (content : Option Json) : String → Prop
  | typed {data : Json} {code : String} (hType : content.bind (Json.field? "__type") = some data)
      (hCode : IsBehindHash data.shown code) (hSome : code ≠ "") : NamesCode status content code
  | untyped (hType : ∀ data, content.bind (Json.field? "__type") = some data →
      IsBehindHash data.shown "") : NamesCode status content ("HTTP" ++ toString status)

/-- A field of the body says nothing. -/
def Silent (content : Option Json) (name : String) : Prop :=
  ∀ data, content.bind (Json.field? name) = some data → data.isVacuous = true

/-- The message of a rejection: the first of two fields of the body that says something, or else
the phrase of the response. -/
inductive Says (phrase : String) (content : Option Json) : Json → Prop
  | lower {data : Json} (h : content.bind (Json.field? "message") = some data)
      (hSays : data.isVacuous = false) : Says phrase content data
  | upper {data : Json} (hLower : Silent content "message")
      (h : content.bind (Json.field? "Message") = some data) (hSays : data.isVacuous = false) :
      Says phrase content data
  | phrase (hLower : Silent content "message") (hUpper : Silent content "Message") :
      Says phrase content (.text phrase)

/-- A response is a success. -/
def Succeeds (status : Nat) : Prop := 200 ≤ status ∧ status < 300

/-- How an operation ends by the status and the phrase of the response and what the body holds. -/
inductive Settles (operation : String) (status : Nat) (phrase : String) (content : Option Json) :
    Answer → Prop
  | reply {data : Json} {reply : Reply} (hStatus : Succeeds status) (hContent : content = some data)
      (hReply : data.Denotes reply) : Settles operation status phrase content (.ok reply)
  | noReply {failure : Failure} (hStatus : Succeeds status)
      (hContent : ∀ data reply, content = some data → ¬data.Denotes reply)
      (hKind : failure.Is .protocol)
      (hNamed : failure.details.field? "operation" = some (.text operation)) :
      Settles operation status phrase content (.error (.failure failure))
  | serverFailed {failure : Failure} (hStatus : 500 ≤ status) (hKind : failure.Is .transport) :
      Settles operation status phrase content (.error (.failure failure))
  | rejected {failure : Failure} {code : String} (hStatus : ¬Succeeds status)
      (hBelow : status < 500) (hKind : failure.kind = .general)
      (hCode : failure.code = .text code) (hSome : code ≠ "")
      (hNamed : NamesCode status content code) (hMessage : Says phrase content failure.message) :
      Settles operation status phrase content (.error (.failure failure))

section Reports

variable (status : Nat) (phrase : String) (content : Option Json)

theorem lookup?_errorMembers (name : String) :
    Json.lookup? name (errorMembers content) = content.bind (Json.field? name) := by
  rw [errorMembers.eq_def]
  split
  next => rfl
  next hObject =>
    cases content with
    | none => rfl
    | some data =>
        cases data with
        | object members => exact absurd rfl (hObject members)
        | _ => rfl

theorem namesCode_errorCode : NamesCode status content (errorCode status content) := by
  rw [errorCode, lookup?_errorMembers]
  cases hType : content.bind (Json.field? "__type") with
  | none =>
      refine .untyped fun data hData => ?_
      rw [hType] at hData
      cases hData
  | some data =>
      have hTail := isBehindHash_afterHash data.shown
      split
      next hEmpty =>
        rw [Option.getD_some] at hEmpty
        rw [hEmpty] at hTail
        refine .untyped fun other hOther => ?_
        rw [hType] at hOther
        exact Option.some.inj hOther ▸ hTail
      next hSome => exact .typed hType hTail hSome

theorem silent_of_vacuous {content : Option Json} {name : String}
    (h : ((Json.lookup? name (errorMembers content)).getD .null).isVacuous = true) :
    Silent content name := by
  rw [lookup?_errorMembers] at h
  intro data hData
  rwa [hData] at h

theorem exists_of_not_vacuous {content : Option Json} {name : String}
    (h : ((Json.lookup? name (errorMembers content)).getD .null).isVacuous = false) :
    content.bind (Json.field? name) =
      some ((Json.lookup? name (errorMembers content)).getD .null) := by
  rw [lookup?_errorMembers] at h ⊢
  cases hData : content.bind (Json.field? name) with
  | none =>
      rw [hData] at h
      nomatch h
  | some data => rfl

theorem says_errorMessage : Says phrase content (errorMessage phrase content) := by
  rw [errorMessage]
  split
  next hLower =>
    rw [Bool.not_eq_true'] at hLower
    exact .lower (exists_of_not_vacuous hLower) hLower
  next hLower =>
    rw [Bool.not_eq_true', Bool.not_eq_false] at hLower
    split
    next hUpper =>
      rw [Bool.not_eq_true'] at hUpper
      exact .upper (silent_of_vacuous hLower) (exists_of_not_vacuous hUpper) hUpper
    next hUpper =>
      rw [Bool.not_eq_true', Bool.not_eq_false] at hUpper
      exact .phrase (silent_of_vacuous hLower) (silent_of_vacuous hUpper)

end Reports

theorem settles_classify (call : Call) (status : Nat) (phrase : String) (content : Option Json) :
    Settles call.operation status phrase content
      (Trouble.ofFailure (classify call status phrase content)) := by
  rw [classify.eq_def]
  split
  next hStatus =>
    cases content with
    | none =>
        refine .noReply hStatus (fun data reply hSome => ?_) ⟨rfl, rfl⟩ rfl
        cases hSome
    | some data =>
        rcases Reply.parse_cases call.operation data with
          ⟨reply, hReply, hRead⟩ | ⟨hNone, complaints, hRead⟩
        · dsimp only
          rw [hRead]
          exact .reply hStatus rfl hReply
        · dsimp only
          rw [hRead]
          exact .noReply hStatus (fun _ reply hSame => Option.some.inj hSame ▸ hNone reply)
            ⟨rfl, rfl⟩ rfl
  next hStatus =>
    split
    next hServer => exact .serverFailed hServer ⟨rfl, rfl⟩
    next hServer =>
      exact .rejected hStatus (Nat.lt_of_not_le hServer) rfl rfl (errorCode_ne_empty status content)
        (namesCode_errorCode status content) (says_errorMessage phrase content)

theorem holds_or_tooDeep (room : Nat) (body : Bytes) :
    (∃ content, Holds room body content) ∨
      ∃ inObject, decodeBody room body = .error (.tooDeep inObject) := by
  cases hBody : decodeBody room body with
  | ok data => exact .inl ⟨some data, .value hBody⟩
  | error fault =>
      cases fault with
      | malformed => exact .inl ⟨none, .malformed hBody⟩
      | tooDeep inObject => exact .inr ⟨inObject, rfl⟩

theorem settles_receive (call : Call) (status : Nat) (phrase : String) {room : Nat} {body : Bytes}
    {content : Option Json} (h : Holds room body content) :
    Settles call.operation status phrase content
      (receive room call (.response status body phrase)) := by
  have hSettles := settles_classify call status phrase content
  cases h with
  | value hBody => rwa [receive, hBody]
  | malformed hBody => rwa [receive, hBody]

/-- As soon as a text opens more arrays than there is room for, it is too deep. -/
theorem decodeBody_opened {room opened : Nat} {body : Bytes} {rest : List Char}
    (hRoom : room < opened)
    (h : Text.detected? body = some (List.replicate opened '[' ++ rest)) :
    decodeBody room body = .error (.tooDeep false) := by
  obtain ⟨more, rfl⟩ := Nat.exists_eq_add_of_lt hRoom
  have hOpened : List.replicate (room + more + 1) '[' ++ rest =
      List.replicate (room + 1) '[' ++ (List.replicate more '[' ++ rest) := by
    rw [← List.append_assoc, List.replicate_append_replicate, Nat.add_right_comm]
  rw [decodeBody, h, hOpened]
  exact Json.readWithin_opened room _

theorem receive_of_tooDeep (call : Call) (status : Nat) (phrase : String) {room : Nat}
    {body : Bytes} {inObject : Bool} (h : decodeBody room body = .error (.tooDeep inObject)) :
    receive room call (.response status body phrase) = .error (.fault (.tooDeep inObject)) := by
  rw [receive, h]

/-- A response to a posted call ends it by its status and by what its body holds: with a reply,
with a failure of the protocol that names the operation, with one of the transport, or with a
rejection that has a code and a message. Only a body that is nested too deep to be read ends it
otherwise, whatever the status: such a body opens more brackets than the reader has room for, and
every body that starts with so many opened arrays is one. -/
theorem answer_settles {endpoint clientId : String} {call : Call}
    (hReaches : reaches endpoint clientId call = true) (room status : Nat) (body : Bytes)
    (phrase : String) :
    let ended := answer endpoint clientId call (.response status body phrase) room
    ((∃ content, Holds room body content ∧ Settles call.operation status phrase content ended) ∨
      ∃ inObject, decodeBody room body = .error (.tooDeep inObject) ∧
        ended = .error (.fault (.tooDeep inObject))) ∧
      (∀ text, Text.detected? body = some text → Json.brackets text ≤ room →
        ∃ content, Holds room body content ∧
          Settles call.operation status phrase content ended) ∧
      ∀ rest, Text.detected? body = some (List.replicate (room + 1) '[' ++ rest) →
        ended = .error (.fault (.tooDeep false)) := by
  intro ended
  have hEnded : ended = receive room call (.response status body phrase) :=
    answer_of_reaches hReaches _ room
  rw [hEnded]
  refine ⟨?_, fun text hText hBrackets => ?_, fun rest hText => ?_⟩
  · rcases holds_or_tooDeep room body with ⟨content, hHolds⟩ | ⟨inObject, hDeep⟩
    · exact .inl ⟨content, hHolds, settles_receive call status phrase hHolds⟩
    · exact .inr ⟨inObject, hDeep, receive_of_tooDeep call status phrase hDeep⟩
  · rcases holds_or_tooDeep room body with ⟨content, hHolds⟩ | ⟨inObject, hDeep⟩
    · exact ⟨content, hHolds, settles_receive call status phrase hHolds⟩
    · rw [decodeBody, hText] at hDeep
      exact absurd (Json.lt_brackets_of_tooDeep hDeep) (Nat.not_lt.mpr hBrackets)
  · exact receive_of_tooDeep call status phrase (decodeBody_opened (Nat.lt_succ_self room) hText)

/-- A rejection whose type has nothing behind its number sign. -/
theorem answer_settles_unnamed :
    let call : Call := .initiate [("USERNAME", "u")]
    let body := Bytes.ofAscii "\x7b\"__type\": \"a#\", \"Message\": \"m\"\x7d"
    reaches "https://localhost/" "c" call = true ∧
      ∃ content, Holds Json.depthLimit body content ∧
        Settles "InitiateAuth" 400 "Bad Request" content (answer "https://localhost/" "c" call
          (.response 400 body)) := by
  intro call body
  have hRead : (Text.detected? body).any
      (fun text => decide (Json.brackets text ≤ Json.depthLimit)) = true := by
    decide +kernel
  cases hText : Text.detected? body with
  | none =>
      rw [hText] at hRead
      nomatch hRead
  | some text =>
      rw [hText] at hRead
      have hBrackets : Json.brackets text ≤ Json.depthLimit := of_decide_eq_true hRead
      have hSettles := (answer_settles reaches_localhost Json.depthLimit 400 body "Bad Request").2.1
        text hText hBrackets
      exact ⟨reaches_localhost, hSettles⟩

/-- A rejection whose body is nested too deep is reported in no way, with any room that the body
exceeds. -/
theorem deep_rejection_faults :
    let call : Call := .initiate [("USERNAME", "u")]
    let body : Bytes := List.replicate 1200 91 ++ List.replicate 1200 93
    let ended (room : Nat) := answer "https://localhost/" "c" call (.response 400 body) room
    ended Json.depthLimit = .error (.fault (.tooDeep false)) ∧
      (∀ failure, ended Json.depthLimit ≠ .error (.failure failure)) ∧
      ∀ room < 1200, ended room = .error (.fault (.tooDeep false)) := by
  intro call body ended
  have hText : Text.detected? body =
      some (List.replicate 1200 '[' ++ List.replicate 1200 ']') := by
    decide +kernel
  have hEnded (room : Nat) (hRoom : room < 1200) :
      ended room = .error (.fault (.tooDeep false)) :=
    (answer_of_reaches reaches_localhost _ room).trans
      (receive_of_tooDeep call 400 _ (decodeBody_opened hRoom hText))
  have hLimit := hEnded Json.depthLimit (by decide)
  refine ⟨hLimit, fun failure hFailure => ?_, hEnded⟩
  rw [hLimit] at hFailure
  nomatch hFailure

end Http
end ClientAuth
