import ClientAuth.Proofs.CodePlaces
import ClientAuth.Proofs.EphemeralDraw
import ClientAuth.Proofs.TwoRuns

/-! What the traffic tells of the secrets. The password enters the key only, and no value that is
computed from it decides anything: whether the key is derived, whether a claim is signed and what
goes wrong otherwise are the same for all passwords with a UTF-8 form. The client secret enters
the proofs of it only. -/
namespace ClientAuth

section

variable {pool userId first second : String}

theorem codes_identityText (pool userId password : String) :
    Text.codes (Srp.identityText pool userId password).toList =
      Text.codes ((pool ++ userId).toList ++ [':']) ++ Text.codes password.toList := by
  have hText : (Srp.identityText pool userId password).toList =
      (pool ++ userId).toList ++ ':' :: password.toList := by
    simp [Srp.identityText]
  rw [hText, Text.codes_append_cons (by decide)]

/-- Whether there is a UTF-8 form of what is hashed with a password, and which fault it is if
there is none, does not depend on the password, if that has a UTF-8 form itself. -/
theorem ofText?_identityText_alike (pool userId : String) (hFirst : Text.isWhole first = true)
    (hSecond : Text.isWhole second = true) :
    (∃ one two, Bytes.ofText? (Srp.identityText pool userId first) = some one ∧
        Bytes.ofText? (Srp.identityText pool userId second) = some two) ∨
      (Bytes.ofText? (Srp.identityText pool userId first) = none ∧
        Bytes.ofText? (Srp.identityText pool userId second) = none ∧
        (Fault.notUnicode (Srp.identityText pool userId first)).message? =
          (Fault.notUnicode (Srp.identityText pool userId second)).message?) := by
  rw [Text.isWhole, Bool.not_eq_true'] at hFirst hSecond
  rw [Bytes.ofText?, Bytes.ofText?, Fault.message?, Fault.message?, codes_identityText,
    codes_identityText, List.any_append, List.any_append, hFirst, hSecond, Bool.or_false]
  by_cases hFront : (Text.codes ((pool ++ userId).toList ++ [':'])).any Text.isHalf = true
  · refine Or.inr ⟨if_pos hFront, if_pos hFront, ?_⟩
    rw [Text.lackMessage_append _ _ hFront hFirst, Text.lackMessage_append _ _ hFront hSecond]
  · exact Or.inl ⟨_, _, if_neg hFront, if_neg hFront⟩

/-- Nothing but the bytes of the key tells of the password, whatever the server sends. -/
theorem Srp.deriveKey_alike (pair : Srp.Ephemeral) (server salt : Int)
    (hFirst : Text.isWhole first = true) (hSecond : Text.isWhole second = true) :
    Outcome.Alike (fun _ _ => True)
      (Client.deriveKey ⟨pool, some pair⟩ userId first server (.value salt))
      (Client.deriveKey ⟨pool, some pair⟩ userId second server (.value salt)) := by
  rw [deriveKey_eq, deriveKey_eq]
  split
  · exact .error (.refl _)
  split
  · exact .error (.refl _)
  split
  · exact .error (.refl _)
  rcases ofText?_identityText_alike pool userId hFirst hSecond with
    ⟨one, two, hOne, hTwo⟩ | ⟨hOne, hTwo, hMessage⟩
  · rw [hOne, hTwo]
    dsimp only
    split
    · exact .error (.refl _)
    · exact .ok trivial
  · rw [hOne, hTwo]
    exact .error (.notUnicode hMessage)

/-- Whether a claim is signed does not depend on the key. -/
theorem Srp.sign_alike (client : Srp.Client) (userId stamp block : String) (key other : Bytes) :
    Outcome.Alike (fun _ _ => True) (client.sign userId key stamp block)
      (client.sign userId other stamp block) := by
  rw [Client.sign, Client.sign]
  refine .bind_same _ fun content => .bind_same _ fun poolBytes => .bind_same _ fun userBytes => ?_
  exact .bind_same _ fun stampBytes => .ok trivial

end

/-- Answers for two passwords differ in the signature alone. -/
theorem Challenge.respond_password_alike {pool clientId : String} {pair : Srp.Ephemeral}
    {login other : Login} (challenge : Challenge) (hNow : login.now = other.now)
    (hSecret : login.clientSecret = other.clientSecret)
    (hFirst : Text.isWhole login.password = true) (hSecond : Text.isWhole other.password = true) :
    Outcome.Alike (Parameters.SameBut "PASSWORD_CLAIM_SIGNATURE")
      (challenge.respond ⟨pool, some pair⟩ clientId login)
      (challenge.respond ⟨pool, some pair⟩ clientId other) := by
  rw [respond, respond, hNow, hSecret]
  refine .bind_same _ fun moment => .bind_same _ fun stamp => ?_
  refine (Srp.deriveKey_alike pair _ _ hFirst hSecond).bind fun key otherKey _ => ?_
  refine (Srp.sign_alike _ _ _ _ key otherKey).bind fun signature otherSignature _ => ?_
  exact .bind_same _ fun entry => .ok (.append rfl rfl)

/-- Proofs of two client secrets differ in the value of the proof alone. -/
theorem secretEntry_alike (clientId username : String) {first second : String}
    (hFirst : Text.isWhole first = true) (hSecond : Text.isWhole second = true)
    (hFirstFull : first ≠ "") (hSecondFull : second ≠ "") :
    Outcome.Alike (Parameters.SameBut "SECRET_HASH") (secretEntry clientId (some first) username)
      (secretEntry clientId (some second) username) := by
  obtain ⟨firstBytes, hFirstBytes⟩ := Outcome.exists_utf8 hFirst
  obtain ⟨secondBytes, hSecondBytes⟩ := Outcome.exists_utf8 hSecond
  simp only [secretEntry, Option.filter, hFirstFull, hSecondFull, ne_eq, not_false_eq_true,
    decide_true, if_true, Srp.secretHash, hFirstBytes, hSecondBytes, Outcome.ok_bind, bind_assoc]
  exact .bind_same _ fun bytes => .ok (.single _ _ _)

/-- The first call of an attempt carries its first parameters, if there are any. -/
theorem Course.head?_calls {service : Service} {sink : Sink} {client : Srp.Client} {login : Login}
    {outcome : Outcome SignInResult} {record : Record}
    (h : Course service sink client login outcome record) :
    record.calls.head? =
      (openingParameters client service.clientId login).toOption.map Call.initiate := by
  cases h with
  | unopened hOpening => rw [hOpening]; rfl
  | firstUnmet hOpening hAnswer => rw [hOpening]; rfl
  | direct hOpened hNone hLanding => rw [hOpened.opening]; rfl
  | unsupported hOpened hChallenge hName => rw [hOpened.opening]; rfl
  | unread hOpened hName hRead => rw [hOpened.opening]; rfl
  | unanswered hOpened hName hRead hRespond => rw [hOpened.opening]; rfl
  | secondUnmet hOpened hAnswered hAnswer => rw [hOpened.opening]; rfl
  | challengedAgain hOpened hAnswered hSecond hTokens hName => rw [hOpened.opening]; rfl
  | concluded hOpened hAnswered hSecond hFinal hLanding => rw [hOpened.opening]; rfl

/-- Runs that look the same, but for the value of one parameter of their calls. -/
structure Run.Alike (name : String) (first second : Run) : Prop where
  ending : SameEnding name (first.outcome, first.record) (second.outcome, second.record)
  history : first.handshake.history = second.handshake.history
  entropy : first.entropy = second.entropy

namespace Handshake

/-- Whether a fresh handshake comes to its attempt, and with which client, is up to the pool id
and the random draws. -/
theorem run_cases (poolId : String) (entropy : List Bytes) :
    (∃ interruption rest, ∀ clientSecret service sink now username password,
        (fresh poolId clientSecret).run service sink now entropy username password =
          (fresh poolId clientSecret).notBegun interruption rest) ∨
      ∃ pool pair rest, ∀ clientSecret service sink now username password,
        (fresh poolId clientSecret).run service sink now entropy username password =
          let ending := attempt service sink ⟨pool, some pair⟩
            ⟨username, password, clientSecret, now⟩
          ⟨ending.1, ending.2, rest, ⟨poolId, clientSecret, ending.2.stages⟩,
            some ⟨pool, none⟩⟩ := by
  cases hCreate : Srp.Client.create poolId entropy with
  | mk made rest =>
      cases made with
      | error interruption =>
          refine Or.inl ⟨interruption, rest, ?_⟩
          intro clientSecret service sink now username password
          simp only [run, fresh, hCreate]
          rfl
      | ok client =>
          obtain ⟨pool, pair, rfl⟩ := Srp.Client.exists_pair_of_create hCreate
          refine Or.inr ⟨pool, pair, rest, ?_⟩
          intro clientSecret service sink now username password
          simp only [run, fresh, hCreate]
          rfl

section

variable {poolId pool clientId username password other : String}
  {clientSecret otherSecret : Option String} {service : Service} {sink : Sink}
  {now : Outcome Moment} {entropy : List Bytes}

/-- Runs look the same if the attempts do that they come to. -/
theorem run_alike {name : String}
    (h : ∀ pool pair, SameEnding name
      (attempt service sink ⟨pool, some pair⟩ ⟨username, password, clientSecret, now⟩)
      (attempt service sink ⟨pool, some pair⟩ ⟨username, other, otherSecret, now⟩)) :
    Run.Alike name ((fresh poolId clientSecret).run service sink now entropy username password)
      ((fresh poolId otherSecret).run service sink now entropy username other) := by
  rcases run_cases poolId entropy with ⟨interruption, rest, hRun⟩ | ⟨pool, pair, rest, hRun⟩
  · rw [hRun, hRun]
    exact ⟨⟨.error (.refl _), rfl, rfl, rfl⟩, rfl, rfl⟩
  · rw [hRun, hRun]
    exact ⟨h pool pair, (h pool pair).stages, rfl⟩

/-- The first call does not depend on the password at all. -/
theorem head?_calls_run :
    let run (password : String) : Run :=
      (fresh poolId clientSecret).run service sink now entropy username password
    (run password).record.calls.head? = (run other).record.calls.head? := by
  dsimp only
  rcases run_cases poolId entropy with ⟨interruption, rest, hRun⟩ | ⟨pool, pair, rest, hRun⟩
  · rw [hRun, hRun]
  · rw [hRun, hRun]
    have hSame : openingParameters ⟨pool, some pair⟩ service.clientId
          ⟨username, password, clientSecret, now⟩ =
        openingParameters ⟨pool, some pair⟩ service.clientId
          ⟨username, other, clientSecret, now⟩ := rfl
    dsimp only
    rw [(course_attempt _ _ _ _).head?_calls, (course_attempt _ _ _ _).head?_calls, hSame]

theorem run_password_alike (first second : Answer) (hPassword : Text.isWhole password = true)
    (hOther : Text.isWhole other = true) :
    Run.Alike "PASSWORD_CLAIM_SIGNATURE"
      ((fresh poolId clientSecret).run (.scripted clientId first second) sink now entropy username
        password)
      ((fresh poolId clientSecret).run (.scripted clientId first second) sink now entropy username
        other) := by
  refine run_alike fun pool pair => ?_
  have hOpening : Outcome.Alike (Parameters.SameBut "PASSWORD_CLAIM_SIGNATURE")
      (openingParameters ⟨pool, some pair⟩ clientId ⟨username, password, clientSecret, now⟩)
      (openingParameters ⟨pool, some pair⟩ clientId ⟨username, other, clientSecret, now⟩) :=
    .refl (.refl _) _
  exact attempt_alike first second sink rfl hOpening fun challenge =>
    challenge.respond_password_alike rfl rfl hPassword hOther

theorem run_secret_alike (first second : Answer) {secret otherSecret : String}
    (hFull : secret ≠ "") (hOtherFull : otherSecret ≠ "") (hSecret : Text.isWhole secret = true)
    (hOther : Text.isWhole otherSecret = true) :
    Run.Alike "SECRET_HASH"
      ((fresh poolId (some secret)).run (.scripted clientId first second) sink now entropy username
        password)
      ((fresh poolId (some otherSecret)).run (.scripted clientId first second) sink now entropy
        username password) := by
  refine run_alike fun pool pair => ?_
  have hEntry (user : String) :=
    secretEntry_alike clientId user hSecret hOther hFull hOtherFull
  refine attempt_alike first second sink rfl ?_ fun challenge => ?_
  · rw [openingParameters, openingParameters]
    refine .bind_same _ fun shared => (hEntry username).bind fun entry otherEntry h => ?_
    exact .ok (.append rfl h)
  · rw [Challenge.respond, Challenge.respond]
    refine .bind_same _ fun moment => .bind_same _ fun stamp => .bind_same _ fun key => ?_
    refine .bind_same _ fun signature => (hEntry _).bind fun entry otherEntry h => ?_
    exact .ok (.append rfl h)

/-- A secret without a UTF-8 form is found out before the first call. -/
theorem calls_of_half_secret {secret : String} (hFull : secret ≠ "")
    (hHalf : Text.isWhole secret = false) :
    ((fresh poolId (some secret)).run service sink now entropy username password).record.calls =
      [] := by
  have hUnproved : ¬ProvesSecret service.clientId (some secret) username := by
    intro hProves
    have hWhole := (hProves secret (by simp [Option.filter, hFull])).1
    rw [hHalf] at hWhole
    nomatch hWhole
  rcases run_cases poolId entropy with ⟨interruption, rest, hRun⟩ | ⟨pool, pair, rest, hRun⟩
  · rw [hRun]
    rfl
  · rw [hRun]
    rcases openingParameters_cases pool service.clientId pair
      ⟨username, password, some secret, now⟩ with ⟨hProves, -⟩ | ⟨-, fault, -, hOpening⟩
    · exact absurd hProves hUnproved
    · dsimp only
      rw [attempt, hOpening]
      rfl

end

/-- Neither the password nor the client secret leaks into the traffic. Runs that differ in the
password look the same but for the signature, and their first calls are the same. Runs that
differ in the client secret look the same but for the proofs of it. With a secret that has no
UTF-8 form no call is made. -/
theorem run_conceals (poolId clientId username : String) (now : Outcome Moment)
    (entropy : List Bytes) (sink : Sink) (first second : Answer) :
    let run (clientSecret : Option String) (password : String) : Run :=
      (fresh poolId clientSecret).run (.scripted clientId first second) sink now entropy username
        password
    (∀ clientSecret password other, Text.isWhole password = true → Text.isWhole other = true →
        (run clientSecret password).Alike "PASSWORD_CLAIM_SIGNATURE" (run clientSecret other) ∧
          (run clientSecret password).record.calls.head? =
            (run clientSecret other).record.calls.head?) ∧
      ∀ password secret, secret ≠ "" →
        (Text.isWhole secret = true → ∀ other, other ≠ "" → Text.isWhole other = true →
            (run (some secret) password).Alike "SECRET_HASH" (run (some other) password)) ∧
          (Text.isWhole secret = false → (run (some secret) password).record.calls = []) := by
  intro run
  constructor
  · intro clientSecret password other hPassword hOther
    exact ⟨run_password_alike first second hPassword hOther, head?_calls_run⟩
  · intro password secret hFull
    constructor
    · intro hSecret other hOtherFull hOther
      exact run_secret_alike first second hFull hOtherFull hSecret hOther
    · exact calls_of_half_secret hFull

/-- Two passwords and two secrets at a challenge that can be answered. -/
theorem run_conceals_challenged :
    let first : Reply := ⟨some passwordVerifier, [("SALT", "ff"), ("SRP_B", "1"),
      ("SECRET_BLOCK", "AP8="), ("USER_ID_FOR_SRP", "u"), ("USERNAME", "name")], none, none⟩
    let second : Reply := ⟨none, [], none, some ⟨some "access", none, none, none, none⟩⟩
    let run (clientSecret : Option String) (password : String) : Run :=
      (fresh "us-east-1_P" clientSecret).run (.scripted "c" (.ok first) (.ok second)) .accepting
        (.ok ⟨⟨⟨2026, 10, 4⟩, 7, 5, 9⟩, 0, 0⟩) [[1]] "alias" password
    Text.isWhole "p" = true ∧ Text.isWhole "q" = true ∧
      (run (some "s") "p").Alike "PASSWORD_CLAIM_SIGNATURE" (run (some "s") "q") ∧
      (run (some "s") "p").record.calls.head? = (run (some "s") "q").record.calls.head? ∧
      (run (some "s") "p").Alike "SECRET_HASH" (run (some "t") "p") ∧
      (run (some (String.ofList (Text.ofCodes [0xD800]))) "p").record.calls = [] := by
  intro first second run
  obtain ⟨hPassword, hSecret⟩ := run_conceals "us-east-1_P" "c" "alias"
    (.ok ⟨⟨⟨2026, 10, 4⟩, 7, 5, 9⟩, 0, 0⟩) [[1]] .accepting (.ok first) (.ok second)
  have hFirstWhole : Text.isWhole "p" = true := by decide
  have hSecondWhole : Text.isWhole "q" = true := by decide
  have hAlike := hPassword (some "s") "p" "q" hFirstWhole hSecondWhole
  refine ⟨hFirstWhole, hSecondWhole, hAlike.1, hAlike.2, ?_, ?_⟩
  · exact (hSecret "p" "s" (by decide)).1 (by decide) "t" (by decide) (by decide)
  · exact (hSecret "p" (String.ofList (Text.ofCodes [0xD800])) (by decide)).2 (by decide)

/-- Whether there are calls at all tells a secret with a UTF-8 form from one without. -/
theorem half_secret_uncalled :
    let reply : Reply := ⟨none, [], none, some ⟨some "access", none, none, none, none⟩⟩
    let run (secret : String) : Run :=
      (fresh "us-east-1_P" (some secret)).run (.scripted "c" (.ok reply) (.ok reply)) .accepting
        (.ok ⟨⟨⟨2026, 10, 4⟩, 7, 5, 9⟩, 0, 0⟩) [[1]] "u" "p"
    let half := String.ofList (Text.ofCodes [0xD800])
    (run "s").record.calls.map (Call.blank "SECRET_HASH") ≠
      (run half).record.calls.map (Call.blank "SECRET_HASH") := by
  decide +kernel

/-- A user id with a half in it ends the run by a fault that holds the password. What the fault
says is the same for all passwords. -/
example :
    let half := String.ofList (Text.ofCodes [0xD800])
    let reply : Reply := ⟨some passwordVerifier, [("SALT", "ff"), ("SRP_B", "1"),
      ("SECRET_BLOCK", "AP8="), ("USER_ID_FOR_SRP", half), ("USERNAME", "name")], none, none⟩
    let run (password : String) : Run :=
      (fresh "us-east-1_P" none).run (.scripted "c" (.ok reply) (.ok reply)) .accepting
        (.ok ⟨⟨⟨2026, 10, 4⟩, 7, 5, 9⟩, 0, 0⟩) [[1]] "u" password
    let fault (password : String) : Fault := .notUnicode ("P" ++ half ++ ":" ++ password)
    let endsBy (password : String) (fault : Fault) : Bool :=
      match (run password).outcome with
      | .error (.fault cause) => cause = fault
      | _ => false
    endsBy "p" (fault "p") ∧ endsBy "q" (fault "q") ∧ fault "p" ≠ fault "q" ∧
      (fault "p").message? = (fault "q").message? ∧ (run "p").record = (run "q").record := by
  decide +kernel

end Handshake
end ClientAuth
