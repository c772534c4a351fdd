import Mathlib.Data.Int.ModEq
import Mathlib.Data.Nat.ModEq
import Mathlib.Tactic.Ring
import ClientAuth.Proofs.KeyDerivation
import ClientAuth.Proofs.ModularPower

/-! Agreement on the session key. The service keeps a verifier of the password and
raises the client's public value with it, while the client takes the verifier out
of the service's value first. Both come to the same secret, so that both derive
the same key. -/
namespace ClientAuth.Srp

/-- The service's side of one exchange: the verifier that it keeps for a user, and
the exponent of the public value that it sends. -/
structure Verifier where
  value : Nat
  exponent : Nat

namespace Verifier

/-- The verifier of an identity in UTF-8 under a salt. -/
def enrol (identity : Bytes) (salt exponent : Nat) : Verifier :=
  ⟨generator ^ enrolledKey identity salt % modulus, exponent⟩

/-- The public value of the service. -/
def shared (verifier : Verifier) : Nat :=
  (multiplier * verifier.value + generator ^ verifier.exponent) % modulus

/-- The secret that the service computes from the client's public value. -/
def secret (verifier : Verifier) (client : Nat) : Nat :=
  (client * verifier.value ^ scramble client verifier.shared) ^ verifier.exponent % modulus

theorem shared_enrol_zero (identity : Bytes) (salt : Nat) :
    (enrol identity salt 0).shared =
      (multiplier * Modular.power modulus generator (enrolledKey identity salt) + 1) % modulus := by
  rw [Modular.power_eq, shared, enrol, pow_zero]

/-- The session key on the service's side. -/
def key (verifier : Verifier) (client : Nat) : Bytes :=
  agreedKey (scramble client verifier.shared) (verifier.secret client)

end Verifier

/-- Taking the verifier out of the service's value leaves the bare power, whether
the difference is negative before it is reduced or not. -/
theorem base_eq (k v r n : Nat) :
    ((((k * v + r) % n : Nat) : Int) - (k * v : Nat)) % n = (r % n : Nat) := by
  have hShared : (((k * v + r) % n : Nat) : Int) ≡ ((k * v + r : Nat) : Int) [ZMOD n] := by
    rw [Int.natCast_mod]
    exact Int.mod_modEq _ _
  have hBase := hShared.sub_right ((k * v : Nat) : Int)
  rw [Nat.cast_add, add_sub_cancel_left] at hBase
  rw [Int.natCast_mod]
  exact hBase

/-- The client's power of the bare base is the service's power of the product. -/
theorem power_agrees (g n a b x u : Nat) :
    (g ^ b % n) ^ (a + u * x) % n = (g ^ a % n * (g ^ x % n) ^ u) ^ b % n := by
  have hClient : (g ^ b % n) ^ (a + u * x) ≡ (g ^ b) ^ (a + u * x) [MOD n] :=
    (Nat.mod_modEq _ _).pow _
  have hService : (g ^ a % n * (g ^ x % n) ^ u) ^ b ≡ (g ^ a * (g ^ x) ^ u) ^ b [MOD n] :=
    ((Nat.mod_modEq _ _).mul ((Nat.mod_modEq _ _).pow _)).pow _
  have hPowers : (g ^ b) ^ (a + u * x) = (g ^ a * (g ^ x) ^ u) ^ b := by
    ring
  exact hClient.trans (hPowers ▸ hService.symm)

/-- Both sides compute the same secret. -/
theorem sharedSecret_eq_secret (identity : Bytes) (a b salt : Nat) :
    let verifier := Verifier.enrol identity salt b
    let client := generator ^ a % modulus
    sharedSecret a (scramble client verifier.shared) (enrolledKey identity salt) verifier.shared =
      verifier.secret client := by
  intro verifier client
  have hBase : ((verifier.shared : Int) - (multiplier * verifier.value : Nat)) % modulus =
      (generator ^ b % modulus : Nat) := base_eq multiplier verifier.value (generator ^ b) modulus
  simp only [sharedSecret, Modular.power_eq]
  change (((verifier.shared : Int) - (multiplier * verifier.value : Nat)) % modulus).toNat ^
    (a + scramble client verifier.shared * enrolledKey identity salt) % modulus = _
  rw [hBase, Int.toNat_natCast]
  exact power_agrees generator modulus a b (enrolledKey identity salt) _

/-- The client derives the service's key whenever the exchange is not degenerate:
for every pool, every user and password with a UTF-8 form, every salt, given as a
number or as a numeral, and all exponents. -/
theorem deriveKey_eq_verifier_key {pool userId password : String} {identity : Bytes}
    {salt : Salt} {saltValue : Nat} (a b : Nat)
    (hText : Bytes.ofText? (identityText pool userId password) = some identity)
    (hSalt : salt.toInt = .ok (saltValue : Int))
    (hShared : (Verifier.enrol identity saltValue b).shared % modulus ≠ 0)
    (hScramble : scramble (generator ^ a % modulus)
      (Verifier.enrol identity saltValue b).shared ≠ 0) :
    Client.deriveKey ⟨pool, some ⟨a, generator ^ a % modulus⟩⟩ userId password
        (Verifier.enrol identity saltValue b).shared salt =
      .ok ((Verifier.enrol identity saltValue b).key (generator ^ a % modulus)) := by
  have hResidue : ¬((Verifier.enrol identity saltValue b).shared : Int) % modulus = 0 := by
    exact_mod_cast hShared
  have hSecret := sharedSecret_eq_secret identity a b saltValue
  rw [deriveKey_of_salt _ _ _ _ hSalt, deriveKey_eq, if_neg hResidue, if_neg (by omega),
    Int.toNat_natCast, if_neg hScramble, hText]
  dsimp only at hSecret ⊢
  rw [if_neg (by omega), Int.toNat_natCast, hSecret]
  rfl

/-- One exchange of small numbers that is not degenerate. -/
theorem deriveKey_eq_verifier_key_small :
    Bytes.ofText? (identityText "P" "u" "p") = some [80, 117, 58, 112] ∧
      Salt.toInt (.numeral "ff") = .ok ((255 : Nat) : Int) ∧
      (Verifier.enrol [80, 117, 58, 112] 255 0).shared % modulus ≠ 0 ∧
      scramble (generator ^ 1 % modulus) (Verifier.enrol [80, 117, 58, 112] 255 0).shared ≠ 0 ∧
      Client.deriveKey ⟨"P", some ⟨1, generator ^ 1 % modulus⟩⟩ "u" "p"
          (Verifier.enrol [80, 117, 58, 112] 255 0).shared (.numeral "ff") =
        .ok ((Verifier.enrol [80, 117, 58, 112] 255 0).key (generator ^ 1 % modulus)) := by
  have hText : Bytes.ofText? (identityText "P" "u" "p") = some [80, 117, 58, 112] := by
    decide +kernel
  have hSalt : Salt.toInt (.numeral "ff") = .ok ((255 : Nat) : Int) := rfl
  -- Nothing is evaluated before the bare power is one of reduced squares.
  have hUsable : (Verifier.enrol [80, 117, 58, 112] 255 0).shared % modulus ≠ 0 ∧
      scramble (generator ^ 1 % modulus)
        (Verifier.enrol [80, 117, 58, 112] 255 0).shared ≠ 0 := by
    rw [Verifier.shared_enrol_zero]
    decide +kernel
  obtain ⟨hShared, hScramble⟩ := hUsable
  exact ⟨hText, hSalt, hShared, hScramble,
    deriveKey_eq_verifier_key 1 0 hText hSalt hShared hScramble⟩

/-- A password that is half of a surrogate pair has no bytes to be hashed: no key
comes of it, whatever the server sends. -/
theorem deriveKey_half_password :
    ¬∃ (server : Int) (key : Bytes),
      Client.deriveKey ⟨"TestPool", some ⟨1, generator⟩⟩ "user"
        (String.ofList (Text.ofCodes [0xD800])) server (.value 0) = .ok key := by
  rintro ⟨server, key, hKey⟩
  have hText : Bytes.ofText? (identityText "TestPool" "user"
      (String.ofList (Text.ofCodes [0xD800]))) = none := by decide
  rw [deriveKey_eq, hText] at hKey
  repeat' split at hKey
  all_goals contradiction

end ClientAuth.Srp
