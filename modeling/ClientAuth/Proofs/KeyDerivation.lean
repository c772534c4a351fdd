import ClientAuth.Proofs.SignedBytes
import ClientAuth.Srp.Session

/-! What the client's key derivation comes to, for every server value, every salt
and every text. Main statement: `deriveKey_eq` lists all its ends in the order in
which they are met. A negative number and a text without a UTF-8 form are the
only faults among them. -/
namespace ClientAuth.Srp

/-- The scrambling parameter of two public values, over their signed bytes. -/
def scramble (client server : Nat) : Nat :=
  (Sha256.digest (Bytes.signed client ++ Bytes.signed server)).toNat

/-- The text that tells who signs in, and with which password. -/
def identityText (pool userId password : String) : String := pool ++ userId ++ ":" ++ password

/-- The private key of an identity in UTF-8, over the signed bytes of the salt. -/
def enrolledKey (identity : Bytes) (salt : Nat) : Nat :=
  (Sha256.digest (Bytes.signed salt ++ Sha256.digest identity)).toNat

/-- The session key of a shared secret, over the signed bytes of both numbers. -/
def agreedKey (scramble shared : Nat) : Bytes :=
  Hkdf.derive 16 keyPurpose (Bytes.signed scramble) (Bytes.signed shared)

theorem hexDigest_encode_append (first second : Bytes) :
    hexDigest (Hex.encode first ++ Hex.encode second) = .ok (Sha256.digest (first ++ second)) := by
  simp only [hexDigest, hexBytes, Hex.decode?_encode_append, Outcome.orHalt_some, Outcome.ok_bind,
    Outcome.pure_eq]

/-- A minus sign anywhere keeps a text from being hashed. -/
theorem hexDigest_of_minus {text : String} (h : '-' ∈ text.toList) :
    hexDigest text = .halt .notHex := by
  rw [hexDigest, hexBytes, Hex.decode?_eq_none_of_minus h]
  rfl

theorem scrambling_natCast (client server : Nat) :
    scrambling client server = .ok (scramble client server) := by
  simp only [scrambling, padInt_natCast, hexDigest_encode_append, Outcome.ok_bind, Outcome.pure_eq,
    scramble]

theorem scrambling_of_neg (client : Nat) {server : Int} (h : server < 0) :
    scrambling client server = .halt .notHex := by
  obtain ⟨text, hText, hMinus⟩ := padInt_of_neg h
  have hJoined : '-' ∈ (Hex.encode (Bytes.signed client) ++ text).toList := by
    rw [String.toList_append]
    exact List.mem_append_right _ hMinus
  simp only [scrambling, padInt_natCast, hText, Outcome.ok_bind, hexDigest_of_minus hJoined,
    Outcome.halt_bind]

theorem identityDigest_of_text {pool userId password : String} {identity : Bytes}
    (h : Bytes.ofText? (identityText pool userId password) = some identity) :
    identityDigest pool userId password = .ok (Sha256.digest identity) := by
  unfold identityText at h
  rw [identityDigest, Outcome.utf8, h]
  rfl

theorem passwordKey_natCast {pool userId password : String} {identity : Bytes}
    (h : Bytes.ofText? (identityText pool userId password) = some identity) (salt : Nat) :
    passwordKey pool userId password salt = .ok (enrolledKey identity salt) := by
  simp only [passwordKey, identityDigest_of_text h, padInt_natCast, hexDigest_encode_append,
    Outcome.ok_bind, Outcome.pure_eq, enrolledKey]

theorem passwordKey_of_neg {pool userId password : String} {identity : Bytes}
    (h : Bytes.ofText? (identityText pool userId password) = some identity) {salt : Int}
    (hSalt : salt < 0) : passwordKey pool userId password salt = .halt .notHex := by
  obtain ⟨text, hText, hMinus⟩ := padInt_of_neg hSalt
  have hJoined : '-' ∈ (text ++ Hex.encode (Sha256.digest identity)).toList := by
    rw [String.toList_append]
    exact List.mem_append_left _ hMinus
  simp only [passwordKey, identityDigest_of_text h, hText, Outcome.ok_bind,
    hexDigest_of_minus hJoined, Outcome.halt_bind]

/-- A text without a UTF-8 form is met before the salt. -/
theorem passwordKey_of_no_text {pool userId password : String}
    (h : Bytes.ofText? (identityText pool userId password) = none) (salt : Int) :
    passwordKey pool userId password salt =
      .halt (.notUnicode (identityText pool userId password)) := by
  unfold identityText at h ⊢
  rw [passwordKey, identityDigest, Outcome.utf8, h]
  rfl

theorem sessionKey_eq (scramble shared : Nat) :
    sessionKey scramble shared = .ok (agreedKey scramble shared) := by
  simp only [sessionKey, padInt_natCast, hexBytes_encode, Outcome.ok_bind, Outcome.pure_eq,
    agreedKey]

/-- A numeral that can be read is as good as its number. -/
theorem deriveKey_of_salt (client : Client) (userId password : String) (server : Int)
    {salt : Salt} {value : Int} (h : salt.toInt = .ok value) :
    client.deriveKey userId password server salt =
      client.deriveKey userId password server (.value value) := by
  have hValue : (Salt.value value).toInt = .ok value := rfl
  simp only [Client.deriveKey, h, hValue]

/-- The ends of a key derivation in the order in which they are met. -/
theorem deriveKey_eq (pool : String) (pair : Ephemeral) (userId password : String)
    (server salt : Int) :
    Client.deriveKey ⟨pool, some pair⟩ userId password server (.value salt) =
      if server % modulus = 0 then .fail .zeroServerValue
      else if server < 0 then .halt .notHex
      else if scramble pair.shared server.toNat = 0 then .fail .zeroScrambling
      else
        match Bytes.ofText? (identityText pool userId password) with
        | none => .halt (.notUnicode (identityText pool userId password))
        | some identity =>
            if salt < 0 then .halt .notHex
            else
              let u := scramble pair.shared server.toNat
              .ok (agreedKey u (sharedSecret pair.secret u (enrolledKey identity salt.toNat)
                server)) := by
  simp only [Client.deriveKey, Client.ephemeral, Outcome.orFail_some, Outcome.ok_bind, Salt.toInt]
  by_cases hZero : server % modulus = 0
  · rw [if_pos hZero, if_pos hZero]
  rw [if_neg hZero, if_neg hZero]
  by_cases hServer : server < 0
  · rw [scrambling_of_neg _ hServer, if_pos hServer]
    rfl
  rw [if_neg hServer]
  obtain ⟨server, rfl⟩ := Int.eq_ofNat_of_zero_le (Int.not_lt.mp hServer)
  rw [scrambling_natCast, Outcome.ok_bind, Int.toNat_natCast]
  by_cases hScramble : scramble pair.shared server = 0
  · rw [if_pos hScramble, if_pos hScramble]
  rw [if_neg hScramble, if_neg hScramble]
  cases hText : Bytes.ofText? (identityText pool userId password) with
  | none => rw [passwordKey_of_no_text hText, Outcome.halt_bind]
  | some identity =>
      dsimp only
      by_cases hSalt : salt < 0
      · rw [passwordKey_of_neg hText hSalt, Outcome.halt_bind, if_pos hSalt]
      · obtain ⟨salt, rfl⟩ := Int.eq_ofNat_of_zero_le (Int.not_lt.mp hSalt)
        rw [passwordKey_natCast hText, Outcome.ok_bind, sessionKey_eq, if_neg hSalt,
          Int.toNat_natCast]

end ClientAuth.Srp
