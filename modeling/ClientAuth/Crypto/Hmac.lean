import ClientAuth.Crypto.Sha256

/-! HMAC and the single-block HKDF over SHA-256. -/
namespace ClientAuth

namespace Hmac

/-- A key as one block: a longer key is hashed first, then zeros follow. -/
def blockKey (key : Bytes) : Bytes :=
  let key := if 64 < key.length then Sha256.digest key else key
  key ++ List.replicate (64 - key.length) 0

/-- HMAC-SHA256 of a message, 32 bytes. -/
def tag (key message : Bytes) : Bytes :=
  let key := blockKey key
  Sha256.digest (key.map (· ^^^ 0x5c) ++ Sha256.digest (key.map (· ^^^ 0x36) ++ message))

@[simp] theorem length_tag (key message : Bytes) : (tag key message).length = 32 := rfl

theorem length_blockKey (key : Bytes) : (blockKey key).length = 64 := by
  unfold blockKey
  split
  · simp
  · simp
    omega

end Hmac

namespace Hkdf

/-- A key of `width ≤ 32` bytes: extract with the salt, then expand one block
under the given purpose. -/
def derive (width : Nat) (purpose salt material : Bytes) : Bytes :=
  (Hmac.tag (Hmac.tag salt material) (purpose ++ [1])).take width

theorem length_derive {width : Nat} (h : width ≤ 32) (purpose salt material : Bytes) :
    (derive width purpose salt material).length = width := by
  simp [derive, h]

end Hkdf
end ClientAuth
