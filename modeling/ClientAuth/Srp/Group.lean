import ClientAuth.Crypto.Hmac
import ClientAuth.Hex

/-! The group of the handshake: the 3072-bit MODP prime and its generator. -/
namespace ClientAuth.Srp

/-- The prime modulus. -/
def modulus : Nat :=
  0xFFFFFFFFFFFFFFFFC90FDAA22168C234C4C6628B80DC1CD129024E088A67CC74020BBEA63B139B22514A08798E3404DDEF9519B3CD3A431B302B0A6DF25F14374FE1356D6D51C245E485B576625E7EC6F44C42E9A637ED6B0BFF5CB6F406B7EDEE386BFB5A899FA5AE9F24117C4B1FE649286651ECE45B3DC2007CB8A163BF0598DA48361C55D39A69163FA8FD24CF5F83655D23DCA3AD961C62F356208552BB9ED529077096966D670C354E4ABC9804F1746C08CA18217C32905E462E36CE3BE39E772C180E86039B2783A2EC07A28FB5C55DF06F4C52C9DE2BCBF6955817183995497CEA956AE515D2261898FA051015728E5A8AAAC42DAD33170D04507A33A85521ABDF1CBA64ECFB850458DBEF0A8AEA71575D060C7DB3970F85A6E1E4C7ABF5AE8CDB0933D71E8C94E04A25619DCEE3D2261AD2EE6BF12FFA06D98A0864D87602733EC86A64521F2B18177B200CBBE117577A615D6C770988C0BAD946E208E24FA074E5AB3143DB5BFCE0FD108E4B82D120A93AD2CAFFFFFFFFFFFFFFFF

/-- The generator. -/
def generator : Nat := 2

/-- The multiplier: the hash of the modulus and the generator, each as bytes
with a leading zero bit. -/
def multiplier : Nat :=
  Bytes.toNat (Sha256.digest (0 :: Bytes.ofNat 384 modulus ++ [UInt8.ofNat generator]))

/-- The purpose under which session keys are derived. -/
def keyPurpose : Bytes := Bytes.ofAscii "Caldera Derived Key"

/-- The bytes requested for each ephemeral value. -/
def ephemeralBytes : Nat := 128

end ClientAuth.Srp
