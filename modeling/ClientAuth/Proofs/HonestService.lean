import ClientAuth.Proofs.Ending
import ClientAuth.Proofs.KeyAgreement
import ClientAuth.Proofs.NumeralText
import ClientAuth.Proofs.SextetText

/-! Completeness of the handshake. A service that keeps the verifier of a password meets the
client that knows the password: what each side sends is read by the other as it was meant,
both derive one key, and the claim is the one that the service computes itself. -/
namespace ClientAuth

/-- What a service keeps of a user whom it has enrolled, and what it gives to that user: a
secret block and a session with the challenge, and tokens at the end. -/
structure Account where
  userId : String
  username : String
  salt : Nat
  verifier : Srp.Verifier
  block : Bytes
  session : Option String
  tokens : Tokens

namespace Account

/-- An account is kept for a password: its verifier is that of the password under the pool's
name and the user id. What the service encodes itself has a UTF-8 form. -/
structure Enrols (account : Account) (pool password : String) : Prop where
  verifier : ∃ identity,
    Bytes.ofText? (Srp.identityText pool account.userId password) = some identity ∧
      account.verifier = .enrol identity account.salt account.verifier.exponent
  pool : Text.isWhole pool = true
  userId : Text.isWhole account.userId = true

/-- The challenge that is sent to the user. -/
def challenge (account : Account) : Reply :=
  ⟨some passwordVerifier, [("SALT", Hex.ofNat account.salt),
    ("SRP_B", Hex.ofNat account.verifier.shared), ("SECRET_BLOCK", Base64.encode account.block),
    ("USER_ID_FOR_SRP", account.userId), ("USERNAME", account.username)], account.session, none⟩

/-- The challenge as the client has to read it. -/
def posed (account : Account) : Challenge :=
  ⟨account.salt, account.verifier.shared, Base64.encode account.block, account.userId,
    account.username⟩

/-- The reply that hands the tokens over. -/
def grant (account : Account) : Reply := ⟨none, [], none, some account.tokens⟩

/-- The refusal of a claim that is not the expected one. -/
def refusal : Trouble :=
  .failure (.reported (.general (.text "NotAuthorizedException")
    (.text "Incorrect username or password.") .null))

/-- The signature that the service computes for a timestamp, under its own key. -/
def signature? (account : Account) (pool : String) (client : Nat) (stamp : String) :
    Option String := do
  let poolBytes ← Bytes.ofText? pool
  let userBytes ← Bytes.ofText? account.userId
  let stampBytes ← Bytes.ofText? stamp
  return Base64.encode (Hmac.tag (account.verifier.key client)
    (poolBytes ++ userBytes ++ account.block ++ stampBytes))

/-- Whether responses claim the password: their signature is the one that the service computes
for their timestamp. -/
def accepts (account : Account) (pool : String) (client : Nat) (responses : Parameters) : Bool :=
  match (Json.lookup? "TIMESTAMP" responses).bind (account.signature? pool client) with
  | some signature => Json.lookup? "PASSWORD_CLAIM_SIGNATURE" responses = some signature
  | none => false

/-- The service of an account. It reads the client's public value out of the first call, and
grants the tokens to a claim that it accepts. -/
def service (account : Account) (pool clientId : String) : Service :=
  ⟨clientId, fun parameters =>
    match ((Json.lookup? "SRP_A" parameters).bind Hex.toInt?).bind Int.toNat? with
    | some client => (.ok account.challenge, fun answer =>
        if account.accepts pool client answer.responses then .ok account.grant
        else .error refusal)
    | none => (.error refusal, fun _ => .error refusal)⟩

end Account

/-- The client derives the key that the service of an account computes. -/
theorem Srp.deriveKey_of_enrols {account : Account} {pool password : String} (secret : Nat)
    (hEnrols : account.Enrols pool password)
    (hShared : account.verifier.shared % modulus ≠ 0)
    (hScramble : scramble (publicValue secret) account.verifier.shared ≠ 0) :
    Client.deriveKey ⟨pool, some ⟨secret, publicValue secret⟩⟩ account.userId password
        account.verifier.shared (.value account.salt) =
      .ok (account.verifier.key (publicValue secret)) := by
  obtain ⟨identity, hText, hVerifier⟩ := hEnrols.verifier
  have hResidue : ¬(account.verifier.shared : Int) % modulus = 0 := by
    exact_mod_cast hShared
  have hSecret : sharedSecret secret (scramble (publicValue secret) account.verifier.shared)
      (enrolledKey identity account.salt) account.verifier.shared =
        account.verifier.secret (publicValue secret) := by
    have hAgreed := sharedSecret_eq_secret identity secret account.verifier.exponent account.salt
    rw [publicValue, Modular.power_eq, hVerifier]
    exact hAgreed
  rw [deriveKey_eq, if_neg hResidue, if_neg (by omega), Int.toNat_natCast, if_neg hScramble, hText]
  dsimp only
  rw [if_neg (by omega), Int.toNat_natCast, hSecret]
  rfl

namespace Account

variable {account : Account} {pool password : String}

theorem exists_signature? (hEnrols : account.Enrols pool password) (client : Nat) {stamp : String}
    (hStamp : Text.isWhole stamp = true) :
    ∃ signature, account.signature? pool client stamp = some signature ∧
      ∀ pair, Srp.Client.sign ⟨pool, pair⟩ account.userId (account.verifier.key client) stamp
        (Base64.encode account.block) = .ok signature := by
  have hBytes (text : String) (hWhole : Text.isWhole text = true) :
      ∃ bytes, Bytes.ofText? text = some bytes :=
    Option.isSome_iff_exists.mp ((Bytes.isSome_ofText? text).trans hWhole)
  obtain ⟨poolBytes, hPool⟩ := hBytes pool hEnrols.pool
  obtain ⟨userBytes, hUser⟩ := hBytes account.userId hEnrols.userId
  obtain ⟨stampBytes, hStamp⟩ := hBytes stamp hStamp
  refine ⟨_, by rw [signature?, hPool, hUser, hStamp]; rfl, fun pair => ?_⟩
  simp only [Srp.Client.sign, Base64.decode?_encode, Outcome.orFail_some, Outcome.utf8, hPool,
    hUser, hStamp, Outcome.orHalt_some, Outcome.ok_bind, Outcome.pure_eq]

/-- What the client reads out of the challenge is what the service has put into it. -/
theorem posed_in_challenge (account : Account) (hUserId : account.userId ≠ "")
    (hUsername : account.username ≠ "") (hBlock : account.block ≠ []) :
    account.posed.In account.challenge := by
  have hSalt : account.challenge.parameter? "SALT" = some (Hex.ofNat account.salt) := by
    simp [Reply.parameter?, challenge, Json.lookup?_cons, Hex.ofNat_ne_empty]
  have hServer : account.challenge.parameter? "SRP_B" =
      some (Hex.ofNat account.verifier.shared) := by
    simp [Reply.parameter?, challenge, Json.lookup?_cons, Hex.ofNat_ne_empty]
  constructor
  · rw [hSalt, Option.bind_some]
    exact Hex.toInt?_ofNat account.salt
  · rw [hServer, Option.bind_some]
    exact Hex.toInt?_ofNat account.verifier.shared
  · simp [Reply.parameter?, challenge, posed, Json.lookup?_cons, Base64.encode_ne_empty hBlock]
  · simp [Reply.parameter?, challenge, posed, Json.lookup?_cons, hUserId]
  · simp [Reply.parameter?, challenge, posed, Json.lookup?_cons, hUsername]

/-- What the service poses can be used, whatever its numbers and its secret block are. -/
theorem posed_sound {secret : Nat} (hShared : account.verifier.shared % Srp.modulus ≠ 0)
    (hScramble : Srp.scramble (Srp.publicValue secret) account.verifier.shared ≠ 0) :
    account.posed.Sound (Srp.publicValue secret) := by
  refine ⟨Int.natCast_nonneg _, Int.natCast_nonneg _, ?_, hScramble, ?_⟩
  · simp only [posed]
    exact_mod_cast hShared
  · rw [posed, Base64.decode?_encode]
    rfl

/-- The client's responses to the challenge are accepted. -/
theorem accepts_responses (clientId : String) (login : Login) {secret : Nat}
    (hEnrols : account.Enrols pool login.password) (hClock : ShowsTime login.now)
    (hShared : account.verifier.shared % Srp.modulus ≠ 0)
    (hScramble : Srp.scramble (Srp.publicValue secret) account.verifier.shared ≠ 0)
    (hProves : ProvesSecret clientId login.clientSecret account.username) :
    ∃ responses,
      account.posed.respond ⟨pool, some ⟨secret, Srp.publicValue secret⟩⟩ clientId login =
          .ok responses ∧
        account.accepts pool (Srp.publicValue secret) responses = true := by
  obtain ⟨stamp, hStamp, hWhole⟩ := timestamp_of_showsTime hClock
  obtain ⟨signature, hSignature, hSign⟩ :=
    exists_signature? hEnrols (Srp.publicValue secret) hWhole
  rcases secretEntry_cases clientId login.clientSecret account.username with
    ⟨-, entry, hEntry⟩ | ⟨hUnproved, -⟩
  · have hKey := Srp.deriveKey_of_enrols secret hEnrols hShared hScramble
    refine ⟨[("USERNAME", account.username),
      ("PASSWORD_CLAIM_SECRET_BLOCK", Base64.encode account.block),
      ("PASSWORD_CLAIM_SIGNATURE", signature), ("TIMESTAMP", stamp)] ++ entry, ?_, ?_⟩
    · rw [Challenge.respond_of_timestamp hStamp]
      simp only [posed, hKey, hSign, hEntry, Outcome.ok_bind, Outcome.pure_eq]
    · simp [accepts, Json.lookup?_cons, hSignature]
  · exact absurd hProves hUnproved

/-- The first call carries the client's public value to the service. -/
theorem service_initiate {clientId : String} {pair : Srp.Ephemeral} {login : Login}
    {parameters : Parameters}
    (h : openingParameters ⟨pool, some pair⟩ clientId login = .ok parameters) :
    (account.service pool clientId).initiate parameters =
      (.ok account.challenge, fun answer =>
        if account.accepts pool pair.shared answer.responses then .ok account.grant
        else .error refusal) := by
  have hPublic : Json.lookup? "SRP_A" parameters = some (Hex.ofNat pair.shared) := by
    rcases secretEntry_cases clientId login.clientSecret login.username with
      ⟨-, entry, hEntry⟩ | ⟨-, fault, -, hEntry⟩
    · rw [openingParameters, Srp.Client.publicText, Srp.Client.ephemeral, Outcome.orFail_some,
        hEntry] at h
      cases h
      simp [Json.lookup?_cons]
    · rw [openingParameters, Srp.Client.publicText, Srp.Client.ephemeral, Outcome.orFail_some,
        hEntry] at h
      cases h
  simp only [service, hPublic, Option.bind_some, Hex.toInt?_ofNat]
  rfl

end Account

/-- Small numbers whose public values are not degenerate. -/
theorem Srp.Verifier.usable_small :
    (enrol [80, 117, 58, 112] 255 0).shared % modulus ≠ 0 ∧
      scramble (publicValue 1) (enrol [80, 117, 58, 112] 255 0).shared ≠ 0 := by
  -- The verifier is turned into reduced squares before anything is evaluated.
  rw [shared_enrol_zero]
  decide +kernel

/-- An account that is enrolled under small numbers. -/
theorem Account.enrols_small {verifier : Srp.Verifier}
    (h : verifier = .enrol [80, 117, 58, 112] 255 0) {username : String} {block : Bytes}
    {session : Option String} {tokens : Tokens} :
    Account.Enrols ⟨"u", username, 255, verifier, block, session, tokens⟩ "P" "p" := by
  have hText : Bytes.ofText? (Srp.identityText "P" "u" "p") = some [80, 117, 58, 112] := by
    decide +kernel
  have hPool : Text.isWhole "P" = true := by decide
  have hUserId : Text.isWhole "u" = true := by decide
  refine ⟨⟨_, hText, ?_⟩, hPool, hUserId⟩
  subst h
  rfl

namespace Handshake

/-- Whatever the service does, a run without a proof of the secret ends by a fault of a text. -/
theorem run_of_unproved {poolId pool : String} {clientSecret : Option String}
    {entropy rest : List Bytes} {secret : Nat} {now : Outcome Moment} {sink : Sink}
    {service : Service} {username password : String}
    (hPool : Srp.poolName poolId = .ok pool) (hDraw : Srp.drawPrivate entropy = (.ok secret, rest))
    (hUnproved : ¬ProvesSecret service.clientId clientSecret username) :
    ∃ text, Text.isWhole text = false ∧
      ((fresh poolId clientSecret).run service sink now entropy username password).outcome =
        .halt (.notUnicode text) := by
  rcases openingParameters_cases pool service.clientId ⟨secret, Srp.publicValue secret⟩
    ⟨username, password, clientSecret, now⟩ with
    ⟨hProves, -⟩ | ⟨-, fault, ⟨text, hHalf, rfl⟩, hOpening⟩
  · exact absurd hProves hUnproved
  · exact ⟨text, hHalf, (run_of_course hPool hDraw (.unopened hOpening)).1⟩

/-- An honest service signs every user in whom it has enrolled, and its tokens are handed over
once. Degenerate public values apart, nothing is asked of the numbers and of the secret block,
and of the texts only that a client secret can be proved, if there is one. If it cannot, the run
ends by the fault of a text without a UTF-8 form. -/
theorem run_completes {poolId pool : String} {clientSecret : Option String}
    {entropy rest : List Bytes} {secret : Nat} {now : Outcome Moment} {sink : Sink}
    {account : Account} {password : String}
    (hPool : Srp.poolName poolId = .ok pool) (hDraw : Srp.drawPrivate entropy = (.ok secret, rest))
    (hClock : ShowsTime now) (hSink : sink account.tokens = .ok ())
    (hEnrols : account.Enrols pool password) (hUserId : account.userId ≠ "")
    (hUsername : account.username ≠ "") (hBlock : account.block ≠ [])
    (hAccess : ∃ access, account.tokens.accessToken = some access ∧ access ≠ "")
    (hShared : account.verifier.shared % Srp.modulus ≠ 0)
    (hScramble : Srp.scramble (Srp.publicValue secret) account.verifier.shared ≠ 0)
    (clientId username : String) :
    let service := account.service pool clientId
    let run := (fresh poolId clientSecret).run service sink now entropy username password
    let proves := ProvesSecret clientId clientSecret
    (proves username → proves account.username →
        run.outcome = .ok (.signedIn account.username) ∧
          run.handshake.history = [.initiated, .challengeReceived, .verified, .complete] ∧
          run.record.offered = [account.tokens] ∧
          service.answers run.record.calls = [.ok account.challenge, .ok account.grant]) ∧
      (¬(proves username ∧ proves account.username) →
        ∃ text, Text.isWhole text = false ∧ run.outcome = .halt (.notUnicode text)) := by
  intro service run proves
  let login : Login := ⟨username, password, clientSecret, now⟩
  let pair : Srp.Ephemeral := ⟨secret, Srp.publicValue secret⟩
  rcases openingParameters_cases pool clientId pair login with
    ⟨hProves, parameters, hOpening⟩ | ⟨hUnproved, -⟩
  · have hOpened : Opened service ⟨pool, some pair⟩ login parameters account.challenge _ :=
      ⟨hOpening, Account.service_initiate hOpening⟩
    have hRead : Challenge.ofReply account.challenge = .ok account.posed :=
      Challenge.ofReply_of_in (account.posed_in_challenge hUserId hUsername hBlock)
    constructor
    · intro _ hProvesAccount
      obtain ⟨responses, hRespond, hAccepts⟩ :=
        Account.accepts_responses clientId login hEnrols hClock hShared hScramble hProvesAccount
      let answer : ChallengeAnswer := ⟨passwordVerifier, responses, account.session⟩
      have hAnswered : Answered service ⟨pool, some pair⟩ login account.challenge account.posed
          answer := ⟨rfl, hRead, hRespond, rfl⟩
      have hSecond : (if account.accepts pool pair.shared answer.responses then .ok account.grant
          else .error Account.refusal : Answer) = .ok account.grant := if_pos hAccepts
      obtain ⟨hOutcome, hRecord, hHistory⟩ := run_of_course hPool hDraw
        (.concluded hOpened hAnswered hSecond (fun _ => rfl) (.accepted ⟨rfl, hAccess⟩ hSink))
      refine ⟨hOutcome, hHistory, by rw [hRecord], ?_⟩
      rw [hRecord, hOpened.answers_both, hSecond]
    · intro hUnproved
      have hSound : account.posed.Sound pair.shared := Account.posed_sound hShared hScramble
      have hEncodable : ¬account.posed.Encodable pool clientId login :=
        fun hWritten => hUnproved ⟨hProves, hWritten.secret⟩
      obtain ⟨text, hHalf, hRespond⟩ := Challenge.respond_of_not_encodable hClock hSound hEncodable
      exact ⟨text, hHalf, (run_of_course hPool hDraw (.unanswered hOpened rfl hRead hRespond)).1⟩
  · exact ⟨fun hProves => absurd hProves hUnproved, fun _ => run_of_unproved hPool hDraw hUnproved⟩

/-- A user with a client secret, enrolled under small numbers. -/
theorem run_completes_small :
    ∃ verifier, verifier = Srp.Verifier.enrol [80, 117, 58, 112] 255 0 ∧
      let account : Account := ⟨"u", "name", 255, verifier, [0, 255], none,
        ⟨some "access", none, none, none, none⟩⟩
      let moment : Moment := ⟨⟨⟨2026, 10, 4⟩, 7, 5, 9⟩, 0, 0⟩
      let run := (fresh "us-east-1_P" (some "s")).run (account.service "P" "c") .accepting
        (.ok moment) [[1]] "alias" "p"
      Srp.poolName "us-east-1_P" = .ok "P" ∧ Srp.drawPrivate [[1]] = (.ok 1, []) ∧
        ShowsTime (.ok moment) ∧ account.Enrols "P" "p" ∧
        verifier.shared % Srp.modulus ≠ 0 ∧
        Srp.scramble (Srp.publicValue 1) verifier.shared ≠ 0 ∧
        ProvesSecret "c" (some "s") "alias" ∧ ProvesSecret "c" (some "s") "name" ∧
        run.outcome = .ok (.signedIn "name") ∧ run.record.offered = [account.tokens] := by
  -- The verifier stays a name here, for its power is too large to be evaluated as it stands.
  obtain ⟨verifier, hVerifier⟩ :
      ∃ verifier, verifier = Srp.Verifier.enrol [80, 117, 58, 112] 255 0 := ⟨_, rfl⟩
  refine ⟨verifier, hVerifier, ?_⟩
  intro account moment run
  have hPool : Srp.poolName "us-east-1_P" = .ok "P" := rfl
  have hDraw : Srp.drawPrivate [[1]] = (.ok 1, []) := rfl
  have hClock : ShowsTime (.ok moment) := ⟨moment, rfl, by decide +kernel⟩
  have hEnrols : account.Enrols "P" "p" := Account.enrols_small hVerifier
  have hProves (name : String) (hName : Text.isWhole (name ++ "c") = true) :
      ProvesSecret "c" (some "s") name := by
    intro secret hSecret
    obtain rfl : "s" = secret := by simpa [Option.filter] using hSecret
    exact ⟨by decide, hName⟩
  have hAlias := hProves "alias" (by decide)
  have hName := hProves "name" (by decide)
  obtain ⟨hShared, hScramble⟩ := Srp.Verifier.usable_small
  rw [← hVerifier] at hShared hScramble
  have hSink : Sink.accepting account.tokens = .ok () := rfl
  have hUserId : account.userId ≠ "" := by simp [account]
  have hUsername : account.username ≠ "" := by simp [account]
  have hBlock : account.block ≠ [] := by simp [account]
  have hAccess : ∃ access, account.tokens.accessToken = some access ∧ access ≠ "" :=
    ⟨"access", rfl, by decide⟩
  have hRun := @run_completes "us-east-1_P" "P" (some "s") [[1]] [] 1 (.ok moment) .accepting
    account "p" hPool hDraw hClock hSink hEnrols hUserId hUsername hBlock hAccess hShared hScramble
    "c" "alias"
  obtain ⟨hOutcome, -, hOffered, -⟩ := hRun.1 hAlias hName
  exact ⟨hPool, hDraw, hClock, hEnrols, hShared, hScramble, hAlias, hName, hOutcome, hOffered⟩

/-- The same user is not signed in under a name that is half of a surrogate pair, since the
client secret cannot be proved for it. -/
theorem half_alias_incomplete :
    ∃ verifier, verifier = Srp.Verifier.enrol [80, 117, 58, 112] 255 0 ∧
      let account : Account := ⟨"u", "name", 255, verifier, [0, 255], none,
        ⟨some "access", none, none, none, none⟩⟩
      let moment : Moment := ⟨⟨⟨2026, 10, 4⟩, 7, 5, 9⟩, 0, 0⟩
      Srp.poolName "us-east-1_P" = .ok "P" ∧ Srp.drawPrivate [[1]] = (.ok 1, []) ∧
        ShowsTime (.ok moment) ∧ account.Enrols "P" "p" ∧
        verifier.shared % Srp.modulus ≠ 0 ∧
        Srp.scramble (Srp.publicValue 1) verifier.shared ≠ 0 ∧
        ¬∃ result, ((fresh "us-east-1_P" (some "s")).run (account.service "P" "c") .accepting
          (.ok moment) [[1]] (String.ofList (Text.ofCodes [0xD800])) "p").outcome = .ok result := by
  obtain ⟨verifier, hVerifier⟩ :
      ∃ verifier, verifier = Srp.Verifier.enrol [80, 117, 58, 112] 255 0 := ⟨_, rfl⟩
  refine ⟨verifier, hVerifier, ?_⟩
  intro account moment
  have hPool : Srp.poolName "us-east-1_P" = .ok "P" := rfl
  have hDraw : Srp.drawPrivate [[1]] = (.ok 1, []) := rfl
  have hUnproved : ¬ProvesSecret "c" (some "s") (String.ofList (Text.ofCodes [0xD800])) := by
    intro hProves
    have hWhole := (hProves "s" rfl).2
    revert hWhole
    decide
  obtain ⟨hShared, hScramble⟩ := Srp.Verifier.usable_small
  rw [← hVerifier] at hShared hScramble
  refine ⟨hPool, hDraw, ⟨moment, rfl, by decide +kernel⟩, Account.enrols_small hVerifier, hShared,
    hScramble, ?_⟩
  obtain ⟨text, -, hOutcome⟩ := @run_of_unproved "us-east-1_P" "P" (some "s") [[1]] [] 1
    (.ok moment) .accepting (account.service "P" "c") _ "p" hPool hDraw hUnproved
  rw [hOutcome]
  rintro ⟨result, hResult⟩
  nomatch hResult

end Handshake
end ClientAuth
