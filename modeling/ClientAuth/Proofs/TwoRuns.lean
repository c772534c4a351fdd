import ClientAuth.Proofs.Course

/-! Two runs side by side. What an observer of a run sees is its calls, its stages, the tokens
that it offers, and how it ends. Main statement: `attempt_alike`, by which two attempts look the
same as soon as their parameters and their answers to a challenge do. -/
namespace ClientAuth

/-- Interruptions that look the same: they are the same, or they are about two texts without a
UTF-8 form, which are not seen, and say the same about them. -/
inductive Interruption.Alike : Interruption → Interruption → Prop
  | refl (interruption : Interruption) : Alike interruption interruption
  | notUnicode {first second : String}
      (hMessage : (Fault.notUnicode first).message? = (Fault.notUnicode second).message?) :
      Alike (.fault (.notUnicode first)) (.fault (.notUnicode second))

/-- Outcomes that look the same where values are compared by a relation. -/
inductive Outcome.Alike {α : Type} (related : α → α → Prop) : Outcome α → Outcome α → Prop
  | ok {first second : α} (h : related first second) : Alike related (.ok first) (.ok second)
  | error {first second : Interruption} (h : first.Alike second) :
      Alike related (.error first) (.error second)

namespace Outcome

variable {α β : Type} {related : α → α → Prop}

theorem Alike.refl (h : ∀ value, related value value) (outcome : Outcome α) :
    Alike related outcome outcome := by
  cases outcome with
  | ok value => exact .ok (h value)
  | error interruption => exact .error (.refl interruption)

/-- Outcomes that look the same go on alike, if related values do. -/
theorem Alike.bind {first second : Outcome α} {next other : α → Outcome β}
    {related' : β → β → Prop} (h : Alike related first second)
    (hNext : ∀ one two, related one two → Alike related' (next one) (other two)) :
    Alike related' (first >>= next) (second >>= other) := by
  cases h with
  | ok hValues => exact hNext _ _ hValues
  | error hEnds => exact .error hEnds

/-- One and the same step goes on alike. -/
theorem Alike.bind_same {next other : α → Outcome β} {related' : β → β → Prop}
    (outcome : Outcome α) (hNext : ∀ value, Alike related' (next value) (other value)) :
    Alike related' (outcome >>= next) (outcome >>= other) := by
  have hSame : Alike Eq outcome outcome := .refl (fun _ => rfl) outcome
  refine hSame.bind ?_
  rintro value _ rfl
  exact hNext value

end Outcome

/-- Parameters with the value of one of them taken out. Its place is kept. -/
def Parameters.blank (name : String) (parameters : Parameters) : Parameters :=
  parameters.map fun (key, value) => (key, if key = name then "" else value)

/-- A call with the value of one parameter taken out. -/
def Call.blank (name : String) : Call → Call
  | initiate parameters => initiate (parameters.blank name)
  | respond answer => respond { answer with responses := answer.responses.blank name }

/-- Parameters that differ at most in the value of one of them. -/
def Parameters.SameBut (name : String) (first second : Parameters) : Prop :=
  first.blank name = second.blank name

theorem Parameters.SameBut.refl (name : String) (parameters : Parameters) :
    parameters.SameBut name parameters := rfl

theorem Parameters.SameBut.single (name first second : String) :
    SameBut name [(name, first)] [(name, second)] := by
  simp [SameBut, blank]

theorem Parameters.SameBut.append {name : String} {first second rest others : Parameters}
    (h : first.SameBut name second) (hRest : rest.SameBut name others) :
    SameBut name (first ++ rest) (second ++ others) := by
  rw [SameBut, blank, blank, List.map_append, List.map_append]
  exact congrArg₂ (· ++ ·) h hRest

/-- Endings of two attempts that look the same, but for the value of one parameter of their
calls. -/
structure SameEnding (name : String) (first second : Outcome SignInResult × Record) : Prop where
  outcome : Outcome.Alike Eq first.1 second.1
  stages : first.2.stages = second.2.stages
  calls : first.2.calls.map (Call.blank name) = second.2.calls.map (Call.blank name)
  offered : first.2.offered = second.2.offered

/-- A service whose answers are written down beforehand. -/
def Service.scripted (clientId : String) (first second : Answer) : Service :=
  ⟨clientId, fun _ => (first, fun _ => second)⟩

namespace SameEnding

variable {name : String} {stages : List Stage} {calls others : List Call}

theorem abandon {first second : Interruption} (h : first.Alike second)
    (hCalls : calls.map (Call.blank name) = others.map (Call.blank name)) :
    SameEnding name (abandon first ⟨stages, calls, []⟩) (abandon second ⟨stages, others, []⟩) :=
  ⟨.error h, rfl, hCalls, rfl⟩

theorem conclude (sink : Sink) (username : String) (tokens : Option Tokens)
    (hCalls : calls.map (Call.blank name) = others.map (Call.blank name)) :
    SameEnding name (conclude username (offerTokens sink tokens ⟨stages, calls, []⟩))
      (ClientAuth.conclude username (offerTokens sink tokens ⟨stages, others, []⟩)) := by
  rw [offerTokens, offerTokens]
  cases tokens.filter (·.usableToken?.isSome) with
  | none => exact ⟨.error (.refl _), rfl, hCalls, rfl⟩
  | some tokens =>
      dsimp only
      cases sink tokens with
      | error interruption => exact ⟨.error (.refl _), rfl, hCalls, rfl⟩
      | ok taken => exact ⟨.ok rfl, rfl, hCalls, rfl⟩

theorem acceptTokens (sink : Sink) (username : String) (reply : Reply)
    (hCalls : calls.map (Call.blank name) = others.map (Call.blank name)) :
    SameEnding name (acceptTokens sink username reply ⟨stages, calls, []⟩)
      (ClientAuth.acceptTokens sink username reply ⟨stages, others, []⟩) := by
  rw [ClientAuth.acceptTokens, ClientAuth.acceptTokens]
  cases reply.tokens with
  | some tokens => exact .conclude sink username (some tokens) hCalls
  | none =>
      dsimp only
      cases reply.challengeName.filter (· ≠ "") with
      | some again => exact .abandon (.refl _) hCalls
      | none => exact .abandon (.refl _) hCalls

end SameEnding

/-- The middle parts of two attempts look the same if the challenge is answered alike. -/
theorem answerChallenge_alike {name clientId : String}
    (initiate : Parameters → Answer × (ChallengeAnswer → Answer)) {client : Srp.Client}
    {login other : Login} (sink : Sink) (second : Answer) (reply : Reply)
    (hRespond : ∀ challenge : Challenge, Outcome.Alike (Parameters.SameBut name)
      (challenge.respond client clientId login)
      (challenge.respond client clientId other))
    {stages : List Stage} {calls others : List Call}
    (hCalls : calls.map (Call.blank name) = others.map (Call.blank name)) :
    SameEnding name
      (answerChallenge ⟨clientId, initiate⟩ sink client login (fun _ => second) reply
        ⟨stages, calls, []⟩)
      (answerChallenge ⟨clientId, initiate⟩ sink client other (fun _ => second) reply
        ⟨stages, others, []⟩) := by
  rw [answerChallenge, answerChallenge]
  cases Challenge.ofReply reply with
  | error interruption => exact .abandon (.refl interruption) hCalls
  | ok challenge =>
      dsimp only
      have hAlike := hRespond challenge
      generalize challenge.respond client clientId login = one at hAlike ⊢
      generalize challenge.respond client clientId other = two at hAlike ⊢
      cases hAlike with
      | error h => exact .abandon h hCalls
      | @ok responses responses' h =>
          let call (responses : Parameters) : Call :=
            .respond ⟨passwordVerifier, responses, reply.session⟩
          have hBlank : (call responses).blank name = (call responses').blank name := by
            simp only [call, Call.blank]
            rw [h]
          have hBoth : (calls ++ [call responses]).map (Call.blank name) =
              (others ++ [call responses']).map (Call.blank name) := by
            rw [List.map_append, List.map_append, hCalls, List.map_singleton, List.map_singleton,
              hBlank]
          dsimp only
          cases settle second with
          | error interruption => exact .abandon (.refl interruption) hBoth
          | ok reply => exact .acceptTokens sink challenge.username reply hBoth

/-- Two attempts against one script look the same if their first parameters do, and if each
challenge is answered alike. -/
theorem attempt_alike {name clientId : String} {client : Srp.Client} {login other : Login}
    (first second : Answer) (sink : Sink) (hUsername : login.username = other.username)
    (hOpening : Outcome.Alike (Parameters.SameBut name) (openingParameters client clientId login)
      (openingParameters client clientId other))
    (hRespond : ∀ challenge : Challenge, Outcome.Alike (Parameters.SameBut name)
      (challenge.respond client clientId login) (challenge.respond client clientId other)) :
    SameEnding name (attempt (.scripted clientId first second) sink client login)
      (attempt (.scripted clientId first second) sink client other) := by
  rw [attempt, attempt, Service.scripted]
  dsimp only
  generalize openingParameters client clientId login = one at hOpening ⊢
  generalize openingParameters client clientId other = two at hOpening ⊢
  cases hOpening with
  | error h => exact .abandon h rfl
  | @ok parameters parameters' h =>
      have hCalls : [Call.initiate parameters].map (Call.blank name) =
          [Call.initiate parameters'].map (Call.blank name) := by
        rw [List.map_singleton, List.map_singleton, Call.blank, Call.blank, h]
      dsimp only
      cases settle first with
      | error interruption => exact .abandon (.refl interruption) hCalls
      | ok reply =>
          dsimp only
          split
          · rw [← hUsername]
            exact .conclude sink login.username reply.tokens hCalls
          · split
            · exact .abandon (.refl _) hCalls
            · have hRecord (parameters : Parameters) :
                  (Record.start.call (.initiate parameters)).reach .challengeReceived =
                    ⟨[.initiated, .challengeReceived], [.initiate parameters], []⟩ := rfl
              rw [hRecord, hRecord]
              exact answerChallenge_alike _ sink second reply hRespond hCalls

end ClientAuth
