import ClientAuth.Handshake.Attempt
import ClientAuth.Proofs.KeyDerivation
import ClientAuth.Proofs.Outcome
import ClientAuth.Proofs.StampText

/-! When a password challenge is answered, when its refusal is reported, and when
the answer breaks off. Main statement: `Challenge.respond_cases`, for every
challenge that can be read from a reply and every clock in range. -/
namespace ClientAuth

/-- The proof of a client secret can be made: there is no secret, or all that enters
the proof has a UTF-8 form. -/
def ProvesSecret (clientId : String) (clientSecret : Option String) (username : String) : Prop :=
  ∀ secret, clientSecret.filter (· ≠ "") = some secret →
    Text.isWhole secret = true ∧ Text.isWhole (username ++ clientId) = true

theorem Srp.secretHash_cases (username clientId secret : String) :
    (Text.isWhole secret = true ∧ Text.isWhole (username ++ clientId) = true ∧
        ∃ hash, secretHash username clientId secret = .ok hash) ∨
      ((Text.isWhole secret = false ∨ Text.isWhole (username ++ clientId) = false) ∧
        ∃ fault : Fault, fault.LacksForm ∧ secretHash username clientId secret = .halt fault) := by
  rw [secretHash]
  rcases Outcome.utf8_cases secret with ⟨hSecret, key, hKey⟩ | ⟨hSecret, hKey⟩
  · rcases Outcome.utf8_cases (username ++ clientId) with ⟨hName, bytes, hBytes⟩ | ⟨hName, hBytes⟩
    · refine Or.inl ⟨hSecret, hName, Base64.encode (Hmac.tag key bytes), ?_⟩
      rw [hKey, hBytes]
      rfl
    · refine Or.inr ⟨Or.inr hName, _, ⟨_, hName, rfl⟩, ?_⟩
      rw [hKey, hBytes]
      rfl
  · refine Or.inr ⟨Or.inl hSecret, _, ⟨_, hSecret, rfl⟩, ?_⟩
    rw [hKey]
    rfl

theorem secretEntry_cases (clientId : String) (clientSecret : Option String) (username : String) :
    (ProvesSecret clientId clientSecret username ∧
        ∃ entry, secretEntry clientId clientSecret username = .ok entry) ∨
      (¬ProvesSecret clientId clientSecret username ∧
        ∃ fault : Fault, fault.LacksForm ∧
          secretEntry clientId clientSecret username = .halt fault) := by
  rw [ProvesSecret, secretEntry]
  cases hSecret : clientSecret.filter (· ≠ "") with
  | none =>
      refine Or.inl ⟨?_, [], rfl⟩
      intro secret hSome
      nomatch hSome
  | some secret =>
      simp only [Option.some.injEq, forall_eq']
      rcases Srp.secretHash_cases username clientId secret with
        ⟨hWhole, hName, hash, hHash⟩ | ⟨hHalf, fault, hLacks, hFault⟩
      · exact Or.inl ⟨⟨hWhole, hName⟩, [("SECRET_HASH", hash)], by rw [hHash]; rfl⟩
      · refine Or.inr ⟨?_, fault, hLacks, by rw [hFault]; rfl⟩
        rintro ⟨hWhole, hName⟩
        rw [hWhole, hName] at hHalf
        simp at hHalf

/-- The first call can be made as soon as the secret can be proved. -/
theorem openingParameters_cases (pool clientId : String) (pair : Srp.Ephemeral) (login : Login) :
    (ProvesSecret clientId login.clientSecret login.username ∧
        ∃ parameters, openingParameters ⟨pool, some pair⟩ clientId login = .ok parameters) ∨
      (¬ProvesSecret clientId login.clientSecret login.username ∧
        ∃ fault : Fault, fault.LacksForm ∧
          openingParameters ⟨pool, some pair⟩ clientId login = .halt fault) := by
  rw [openingParameters, Srp.Client.publicText, Srp.Client.ephemeral, Outcome.orFail_some]
  rcases secretEntry_cases clientId login.clientSecret login.username with
    ⟨hProves, entry, hEntry⟩ | ⟨hProves, fault, hLacks, hEntry⟩
  · exact Or.inl ⟨hProves, _, by rw [hEntry]; rfl⟩
  · exact Or.inr ⟨hProves, fault, hLacks, by rw [hEntry]; rfl⟩

theorem provesSecret_of_opening {pool clientId : String} {pair : Srp.Ephemeral} {login : Login}
    {parameters : Parameters}
    (h : openingParameters ⟨pool, some pair⟩ clientId login = .ok parameters) :
    ProvesSecret clientId login.clientSecret login.username := by
  rcases openingParameters_cases pool clientId pair login with ⟨hProves, -⟩ | ⟨-, fault, -, hFault⟩
  · exact hProves
  · rw [hFault] at h
    nomatch h

theorem not_provesSecret_of_opening {pool clientId : String} {pair : Srp.Ephemeral}
    {login : Login} {interruption : Interruption}
    (h : openingParameters ⟨pool, some pair⟩ clientId login = .error interruption) :
    ¬ProvesSecret clientId login.clientSecret login.username ∧
      ∃ fault : Fault, fault.LacksForm ∧ interruption = .fault fault := by
  rcases openingParameters_cases pool clientId pair login with
    ⟨-, parameters, hParameters⟩ | ⟨hProves, fault, hLacks, hFault⟩
  · rw [hParameters] at h
    nomatch h
  · rw [hFault] at h
    cases h
    exact ⟨hProves, fault, hLacks, rfl⟩

namespace Challenge

/-- A challenge is the one in a reply: all its parameters are there and not empty,
and the salt and the server's value are numerals. -/
structure In (challenge : Challenge) (reply : Reply) : Prop where
  salt : (reply.parameter? "SALT").bind Hex.toInt? = some challenge.salt
  serverValue : (reply.parameter? "SRP_B").bind Hex.toInt? = some challenge.serverValue
  secretBlock : reply.parameter? "SECRET_BLOCK" = some challenge.secretBlock
  userId : reply.parameter? "USER_ID_FOR_SRP" = some challenge.userId
  username : reply.parameter? "USERNAME" = some challenge.username

theorem ofReply_of_in {challenge : Challenge} {reply : Reply} (h : challenge.In reply) :
    ofReply reply = .ok challenge := by
  obtain ⟨salt, hSalt, hSaltValue⟩ := Option.bind_eq_some_iff.mp h.salt
  obtain ⟨server, hServer, hServerValue⟩ := Option.bind_eq_some_iff.mp h.serverValue
  have hMissing : challengeParameters.filter (fun name => (reply.parameter? name).isNone) = [] := by
    simp [challengeParameters, hSalt, hServer, h.secretBlock, h.userId, h.username]
  rw [ofReply, hMissing]
  simp only [List.isEmpty_nil, Bool.not_true, Bool.false_eq_true, if_false, hSalt, hServer,
    h.secretBlock, h.userId, h.username, Option.getD_some, hSaltValue, hServerValue,
    Outcome.orFail_some, Outcome.ok_bind, Outcome.pure_eq]

/-- A challenge that is not in a reply is missed with a report. -/
theorem ofReply_cases (reply : Reply) :
    (∃ challenge : Challenge, challenge.In reply ∧ ofReply reply = .ok challenge) ∨
      ((¬∃ challenge : Challenge, challenge.In reply) ∧
        ∃ failure : Failure, ofReply reply = .fail failure ∧ failure.Is .protocol) := by
  by_cases hIn : ∃ challenge : Challenge, challenge.In reply
  · obtain ⟨challenge, hIn⟩ := hIn
    exact Or.inl ⟨challenge, hIn, ofReply_of_in hIn⟩
  refine Or.inr ⟨hIn, ?_⟩
  rw [ofReply]
  dsimp only
  split
  next hMissing => exact ⟨.parametersMissing _, rfl, rfl, rfl⟩
  next hMissing =>
    simp only [Bool.not_eq_true, Bool.not_eq_false', List.isEmpty_iff, List.filter_eq_nil_iff,
      challengeParameters, List.forall_mem_cons, Option.isNone_iff_eq_none] at hMissing
    obtain ⟨hSalt, hServer, hBlock, hUserId, hUsername, -⟩ := hMissing
    obtain ⟨salt, hSalt⟩ := Option.ne_none_iff_exists'.mp hSalt
    obtain ⟨server, hServer⟩ := Option.ne_none_iff_exists'.mp hServer
    obtain ⟨block, hBlock⟩ := Option.ne_none_iff_exists'.mp hBlock
    obtain ⟨userId, hUserId⟩ := Option.ne_none_iff_exists'.mp hUserId
    obtain ⟨username, hUsername⟩ := Option.ne_none_iff_exists'.mp hUsername
    rw [hSalt, hServer]
    simp only [Option.getD_some]
    cases hSaltValue : Hex.toInt? salt with
    | none => exact ⟨.parameterNotHex, rfl, rfl, rfl⟩
    | some saltValue =>
        cases hServerValue : Hex.toInt? server with
        | none => exact ⟨.parameterNotHex, rfl, rfl, rfl⟩
        | some serverValue =>
            refine absurd ⟨⟨saltValue, serverValue, block, userId, username⟩, ?_⟩ hIn
            exact ⟨by rw [hSalt]; exact hSaltValue, by rw [hServer]; exact hServerValue, hBlock,
              hUserId, hUsername⟩

theorem in_of_ofReply {reply : Reply} {challenge : Challenge} (h : ofReply reply = .ok challenge) :
    challenge.In reply := by
  rcases ofReply_cases reply with ⟨other, hIn, hRead⟩ | ⟨-, failure, hRead, -⟩
  · obtain rfl : other = challenge := by
      rw [h] at hRead
      exact (Except.ok.inj hRead).symm
    exact hIn
  · rw [hRead] at h
    nomatch h

theorem not_in_of_ofReply {reply : Reply} {interruption : Interruption}
    (h : ofReply reply = .error interruption) :
    (¬∃ challenge : Challenge, challenge.In reply) ∧
      ∃ failure : Failure, interruption = .failure failure ∧ failure.Is .protocol := by
  rcases ofReply_cases reply with ⟨challenge, -, hRead⟩ | ⟨hNone, failure, hRead, hKind⟩
  · rw [hRead] at h
    nomatch h
  · rw [hRead] at h
    cases h
    exact ⟨hNone, failure, rfl, hKind⟩

theorem In.unique {reply : Reply} {challenge other : Challenge} (h : challenge.In reply)
    (hOther : other.In reply) : challenge = other := by
  have hRead := (ofReply_of_in h).symm.trans (ofReply_of_in hOther)
  exact Except.ok.inj hRead

/-- What is asked of the numbers and of the secret block of a challenge: neither
number is negative, the server's value and the scrambling parameter are not zero,
and the block is base64. -/
structure Sound (shared : Nat) (challenge : Challenge) : Prop where
  salt : 0 ≤ challenge.salt
  serverValue : 0 ≤ challenge.serverValue
  residue : challenge.serverValue % Srp.modulus ≠ 0
  scramble : Srp.scramble shared challenge.serverValue.toNat ≠ 0
  secretBlock : (Base64.decode? challenge.secretBlock).isSome = true

/-- What enters the signature and the proof of the secret has a UTF-8 form. -/
structure Encodable (pool clientId : String) (login : Login) (challenge : Challenge) : Prop where
  identity : Text.isWhole (Srp.identityText pool challenge.userId login.password) = true
  pool : Text.isWhole pool = true
  userId : Text.isWhole challenge.userId = true
  secret : ProvesSecret clientId login.clientSecret challenge.username

/-- The answer breaks off: a negative number is spelled as bytes, or a text without a
UTF-8 form is, before a check refuses the challenge. -/
def Breaks (shared : Nat) (pool clientId : String) (login : Login) (challenge : Challenge) : Prop :=
  challenge.serverValue % Srp.modulus ≠ 0 ∧
    (challenge.serverValue < 0 ∨
      Srp.scramble shared challenge.serverValue.toNat ≠ 0 ∧
        (Text.isWhole (Srp.identityText pool challenge.userId login.password) = false ∨
          challenge.salt < 0 ∨
          (Base64.decode? challenge.secretBlock).isSome = true ∧
            ¬challenge.Encodable pool clientId login))

end Challenge

namespace Srp

variable (pool userId : String)

theorem deriveKey_cases (pair : Ephemeral) (password : String) (server salt : Int) :
    (server % modulus ≠ 0 ∧ 0 ≤ server ∧ scramble pair.shared server.toNat ≠ 0 ∧
        Text.isWhole (identityText pool userId password) = true ∧ 0 ≤ salt ∧
        ∃ key, Client.deriveKey ⟨pool, some pair⟩ userId password server (.value salt) = .ok key) ∨
      (server % modulus ≠ 0 ∧
        (server < 0 ∨ scramble pair.shared server.toNat ≠ 0 ∧
          (Text.isWhole (identityText pool userId password) = false ∨ salt < 0)) ∧
        ∃ fault : Fault, (0 ≤ server → 0 ≤ salt → fault.LacksForm) ∧
          Client.deriveKey ⟨pool, some pair⟩ userId password server (.value salt) = .halt fault) ∨
      ((server % modulus = 0 ∨ 0 ≤ server ∧ scramble pair.shared server.toNat = 0) ∧
        ∃ failure : Failure,
          Client.deriveKey ⟨pool, some pair⟩ userId password server (.value salt) = .fail failure ∧
            failure.Is .protocol) := by
  rw [deriveKey_eq, ← Bytes.isSome_ofText?]
  by_cases hResidue : server % modulus = 0
  · rw [if_pos hResidue]
    exact Or.inr (Or.inr ⟨Or.inl hResidue, _, rfl, rfl, rfl⟩)
  rw [if_neg hResidue]
  by_cases hServer : server < 0
  · rw [if_pos hServer]
    refine Or.inr (Or.inl ⟨hResidue, Or.inl hServer, _, fun hPositive => ?_, rfl⟩)
    exact absurd hServer (Int.not_lt.mpr hPositive)
  rw [if_neg hServer]
  have hServer : 0 ≤ server := Int.not_lt.mp hServer
  by_cases hScramble : scramble pair.shared server.toNat = 0
  · rw [if_pos hScramble]
    exact Or.inr (Or.inr ⟨Or.inr ⟨hServer, hScramble⟩, _, rfl, rfl, rfl⟩)
  rw [if_neg hScramble]
  cases hText : Bytes.ofText? (identityText pool userId password) with
  | none =>
      have hHalf : Text.isWhole (identityText pool userId password) = false := by
        rw [← Bytes.isSome_ofText?, hText]
        rfl
      exact Or.inr (Or.inl ⟨hResidue, Or.inr ⟨hScramble, Or.inl rfl⟩, _,
        fun _ _ => ⟨_, hHalf, rfl⟩, rfl⟩)
  | some identity =>
      by_cases hSalt : salt < 0
      · refine Or.inr (Or.inl ⟨hResidue, Or.inr ⟨hScramble, Or.inr hSalt⟩, .notHex,
          fun _ hPositive => ?_, if_pos hSalt⟩)
        exact absurd hSalt (Int.not_lt.mpr hPositive)
      · refine Or.inl ⟨hResidue, hServer, hScramble, rfl, Int.not_lt.mp hSalt, ?_⟩
        exact ⟨_, if_neg hSalt⟩

theorem sign_cases (pair : Option Ephemeral) (key : Bytes) {stamp : String}
    (hStamp : Text.isWhole stamp = true) (block : String) :
    ((Base64.decode? block).isSome = true ∧ Text.isWhole pool = true ∧
        Text.isWhole userId = true ∧
        ∃ signature, Client.sign ⟨pool, pair⟩ userId key stamp block = .ok signature) ∨
      ((Base64.decode? block).isSome = true ∧
        (Text.isWhole pool = false ∨ Text.isWhole userId = false) ∧
        ∃ fault : Fault, fault.LacksForm ∧
          Client.sign ⟨pool, pair⟩ userId key stamp block = .halt fault) ∨
      ((Base64.decode? block).isSome = false ∧
        ∃ failure : Failure, Client.sign ⟨pool, pair⟩ userId key stamp block = .fail failure ∧
          failure.Is .protocol) := by
  rw [Client.sign]
  cases hBlock : Base64.decode? block with
  | none => exact Or.inr (Or.inr ⟨rfl, .secretBlockNotBase64, rfl, rfl, rfl⟩)
  | some content =>
      simp only [Outcome.orFail_some, Outcome.ok_bind]
      rcases Outcome.utf8_cases pool with ⟨hPool, poolBytes, hPoolBytes⟩ | ⟨hPool, hPoolBytes⟩
      · rcases Outcome.utf8_cases userId with ⟨hUser, userBytes, hUserBytes⟩ | ⟨hUser, hUserBytes⟩
        · rcases Outcome.utf8_cases stamp with ⟨-, stampBytes, hStampBytes⟩ | ⟨hHalf, -⟩
          · refine Or.inl ⟨rfl, hPool, hUser,
              Base64.encode (Hmac.tag key (poolBytes ++ userBytes ++ content ++ stampBytes)), ?_⟩
            simp only [hPoolBytes, hUserBytes, hStampBytes, Outcome.ok_bind, Outcome.pure_eq]
          · rw [hStamp] at hHalf
            nomatch hHalf
        · refine Or.inr (Or.inl ⟨rfl, Or.inr hUser, _, ⟨_, hUser, rfl⟩, ?_⟩)
          simp only [hPoolBytes, hUserBytes, Outcome.ok_bind, Outcome.halt_bind]
      · refine Or.inr (Or.inl ⟨rfl, Or.inl hPool, _, ⟨_, hPool, rfl⟩, ?_⟩)
        simp only [hPoolBytes, Outcome.halt_bind]

end Srp

/-- A clock shows a moment whose second lies on the calendar of UTC. -/
def ShowsTime (now : Outcome Moment) : Prop :=
  ∃ moment, now = .ok moment ∧ (CivilTime.ofInstant? moment.instant).isSome = true

theorem timestamp_of_showsTime {now : Outcome Moment} (h : ShowsTime now) :
    ∃ stamp, (now >>= Srp.timestamp) = .ok stamp ∧ Text.isWhole stamp = true := by
  obtain ⟨moment, rfl, hTime⟩ := h
  obtain ⟨time, hTime⟩ := Option.isSome_iff_exists.mp hTime
  refine ⟨Stamp.challenge time, ?_, Text.isWhole_of_isAscii (Stamp.isAscii_challenge time)⟩
  rw [Outcome.ok_bind, Srp.timestamp, hTime]
  rfl

namespace Challenge

variable {shared : Nat} {pool clientId : String} {login : Login} {challenge : Challenge}

/-- A sound challenge breaks the answer off exactly if some text has no UTF-8 form. -/
theorem Sound.breaks_iff (hSound : challenge.Sound shared) :
    challenge.Breaks shared pool clientId login ↔ ¬challenge.Encodable pool clientId login := by
  constructor
  · rintro ⟨-, hServer | ⟨-, hText | hSalt | ⟨-, hEncodable⟩⟩⟩
    · exact absurd hServer (Int.not_lt.mpr hSound.serverValue)
    · intro hEncodable
      rw [hEncodable.identity] at hText
      nomatch hText
    · exact absurd hSalt (Int.not_lt.mpr hSound.salt)
    · exact hEncodable
  · intro hEncodable
    exact ⟨hSound.residue, Or.inr ⟨hSound.scramble, Or.inr (Or.inr ⟨hSound.secretBlock,
      hEncodable⟩)⟩⟩

/-- Once the clock is read, an answer is a key, a signature with it, and a proof of the
secret. -/
theorem respond_of_timestamp {client : Srp.Client} {stamp : String}
    (h : (login.now >>= Srp.timestamp) = .ok stamp) :
    challenge.respond client clientId login = (do
      let key ← client.deriveKey challenge.userId login.password challenge.serverValue
        (.value challenge.salt)
      let signature ← client.sign challenge.userId key stamp challenge.secretBlock
      let entry ← secretEntry clientId login.clientSecret challenge.username
      return [("USERNAME", challenge.username),
        ("PASSWORD_CLAIM_SECRET_BLOCK", challenge.secretBlock),
        ("PASSWORD_CLAIM_SIGNATURE", signature), ("TIMESTAMP", stamp)] ++ entry) := by
  rw [respond, ← bind_assoc, h]
  rfl

/-- With a clock in range a challenge is answered, breaks the answer off, or is
refused with a report, and which of them happens is told by its parameters. What
breaks a sound challenge off is a text without a UTF-8 form. -/
theorem respond_cases (pair : Srp.Ephemeral) (hClock : ShowsTime login.now) :
    (challenge.Sound pair.shared ∧ challenge.Encodable pool clientId login ∧
        ∃ responses, challenge.respond ⟨pool, some pair⟩ clientId login = .ok responses) ∨
      (challenge.Breaks pair.shared pool clientId login ∧
        ∃ fault : Fault, (challenge.Sound pair.shared → fault.LacksForm) ∧
          challenge.respond ⟨pool, some pair⟩ clientId login = .halt fault) ∨
      (¬challenge.Sound pair.shared ∧ ¬challenge.Breaks pair.shared pool clientId login ∧
        ∃ failure : Failure, challenge.respond ⟨pool, some pair⟩ clientId login = .fail failure ∧
          failure.Is .protocol) := by
  obtain ⟨stamp, hStamp, hWhole⟩ := timestamp_of_showsTime hClock
  rw [respond_of_timestamp hStamp]
  rcases Srp.deriveKey_cases pool challenge.userId pair login.password challenge.serverValue
    challenge.salt with ⟨hResidue, hServer, hScramble, hText, hSalt, key, hKey⟩ |
      ⟨hResidue, hBad, fault, hLacks, hKey⟩ | ⟨hWeak, failure, hKey, hKind⟩
  · rw [hKey, Outcome.ok_bind]
    rcases Srp.sign_cases pool challenge.userId (some pair) key hWhole challenge.secretBlock with
      ⟨hBlock, hPool, hUser, signature, hSign⟩ | ⟨hBlock, hHalf, fault, hLacks, hSign⟩ |
        ⟨hBlock, failure, hSign, hKind⟩
    · have hSound : challenge.Sound pair.shared := ⟨hSalt, hServer, hResidue, hScramble, hBlock⟩
      rcases secretEntry_cases clientId login.clientSecret challenge.username with
        ⟨hProves, entry, hEntry⟩ | ⟨hProves, fault, hLacks, hEntry⟩
      · exact Or.inl ⟨hSound, ⟨hText, hPool, hUser, hProves⟩, _, by rw [hSign, hEntry]; rfl⟩
      · refine Or.inr (Or.inl ⟨hSound.breaks_iff.mpr fun hEncodable => hProves hEncodable.secret,
          fault, fun _ => hLacks, by rw [hSign, hEntry]; rfl⟩)
    · have hSound : challenge.Sound pair.shared := ⟨hSalt, hServer, hResidue, hScramble, hBlock⟩
      refine Or.inr (Or.inl ⟨hSound.breaks_iff.mpr ?_, fault, fun _ => hLacks,
        by rw [hSign]; rfl⟩)
      intro hEncodable
      rw [hEncodable.pool, hEncodable.userId] at hHalf
      simp at hHalf
    · refine Or.inr (Or.inr ⟨?_, ?_, failure, by rw [hSign]; rfl, hKind⟩)
      · intro hSound
        rw [hSound.secretBlock] at hBlock
        nomatch hBlock
      · rintro ⟨-, hNegative | ⟨-, hHalf | hNegative | ⟨hDecodes, -⟩⟩⟩
        · omega
        · rw [hText] at hHalf
          nomatch hHalf
        · omega
        · rw [hBlock] at hDecodes
          nomatch hDecodes
  · refine Or.inr (Or.inl ⟨⟨hResidue, ?_⟩, fault,
      fun hSound => hLacks hSound.serverValue hSound.salt, by rw [hKey]; rfl⟩)
    rcases hBad with hNegative | ⟨hScramble, hHalf | hNegative⟩
    · exact Or.inl hNegative
    · exact Or.inr ⟨hScramble, Or.inl hHalf⟩
    · exact Or.inr ⟨hScramble, Or.inr (Or.inl hNegative)⟩
  · refine Or.inr (Or.inr ⟨?_, ?_, failure, by rw [hKey]; rfl, hKind⟩)
    · intro hSound
      exact hWeak.elim hSound.residue fun hZero => hSound.scramble hZero.2
    · rintro ⟨hResidue, hBad⟩
      rcases hWeak with hZero | ⟨hServer, hZero⟩
      · exact hResidue hZero
      · rcases hBad with hNegative | ⟨hScramble, -⟩
        · omega
        · exact hScramble hZero

theorem sound_of_respond {pair : Srp.Ephemeral} {responses : Parameters}
    (hClock : ShowsTime login.now)
    (h : challenge.respond ⟨pool, some pair⟩ clientId login = .ok responses) :
    challenge.Sound pair.shared ∧ challenge.Encodable pool clientId login := by
  rcases respond_cases pair hClock with
    ⟨hSound, hEncodable, -⟩ | ⟨-, fault, -, hFault⟩ | ⟨-, -, failure, hFailure, -⟩
  · exact ⟨hSound, hEncodable⟩
  · rw [hFault] at h
    nomatch h
  · rw [hFailure] at h
    nomatch h

theorem respond_error {pair : Srp.Ephemeral} {interruption : Interruption}
    (hClock : ShowsTime login.now)
    (h : challenge.respond ⟨pool, some pair⟩ clientId login = .error interruption) :
    (challenge.Breaks pair.shared pool clientId login ∧
        ∃ fault : Fault, (challenge.Sound pair.shared → fault.LacksForm) ∧
          interruption = .fault fault) ∨
      (¬challenge.Sound pair.shared ∧ ¬challenge.Breaks pair.shared pool clientId login ∧
        ∃ failure : Failure, interruption = .failure failure ∧ failure.Is .protocol) := by
  rcases respond_cases pair hClock with
    ⟨-, -, responses, hResponses⟩ | ⟨hBreaks, fault, hLacks, hFault⟩ |
      ⟨hSound, hBreaks, failure, hFailure, hKind⟩
  · rw [hResponses] at h
    nomatch h
  · rw [hFault] at h
    cases h
    exact Or.inl ⟨hBreaks, fault, hLacks, rfl⟩
  · rw [hFailure] at h
    cases h
    exact Or.inr ⟨hSound, hBreaks, failure, rfl, hKind⟩

/-- A sound challenge is not answered if one of its texts cannot be written. -/
theorem respond_of_not_encodable {pair : Srp.Ephemeral} (hClock : ShowsTime login.now)
    (hSound : challenge.Sound pair.shared)
    (hHalf : ¬challenge.Encodable pool clientId login) :
    ∃ text, Text.isWhole text = false ∧
      challenge.respond ⟨pool, some pair⟩ clientId login = .halt (.notUnicode text) := by
  rcases respond_cases pair hClock with
    ⟨-, hEncodable, -⟩ | ⟨-, fault, hLacks, hFault⟩ | ⟨hUnsound, -⟩
  · exact absurd hEncodable hHalf
  · obtain ⟨text, hText, rfl⟩ := hLacks hSound
    exact ⟨text, hText, hFault⟩
  · exact absurd hSound hUnsound

end Challenge
end ClientAuth
