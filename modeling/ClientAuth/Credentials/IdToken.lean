import ClientAuth.Base64
import ClientAuth.Json.Reader
import ClientAuth.Text.Encoding

/-! The claims of an identity token. The signature is not checked, but every
part of the token must be readable. -/
namespace ClientAuth.IdToken

/-- Splits at the first and the last dot, which are different ones. -/
def parts? (token : List Char) : Option (List Char × List Char × List Char) :=
  let header := token.takeWhile (· ≠ '.')
  let rest := token.dropWhile (· ≠ '.')
  let back := rest.reverse
  let signature := (back.takeWhile (· ≠ '.')).reverse
  let middle := ((back.dropWhile (· ≠ '.')).drop 1).reverse
  match middle with
  | '.' :: payload => some (header, payload, signature)
  | _ => none

/-- The object that the bytes of a part hold. -/
def objectOf (bytes : Bytes) : Except Json.ReadFault (List (String × Json)) :=
  match Text.ofUtf8? bytes with
  | none => .error .malformed
  | some text =>
      match Json.readDocument text with
      | .ok (.object members) => .ok members
      | .ok _ => .error .malformed
      | .error fault => .error fault

/-- The bytes of the claims, if the rest of the token can be read. The parts
are measured in bytes. -/
def claimBytes? (token : String) : Option Bytes := do
  let bytes := (← Bytes.ofText? token).map fun byte => Char.ofNat byte.toNat
  let (header, payload, signature) ← parts? bytes
  let _ ← (objectOf (← Base64.decodeLoose? header)).toOption
  let _ ← Base64.decodeLoose? signature
  Base64.decodeLoose? payload

/-- The claims of a token. Claims that are nested too deep are told from others
that cannot be read. -/
def claims (token : String) : Except Json.ReadFault (List (String × Json)) :=
  match claimBytes? token with
  | some bytes => objectOf bytes
  | none => .error .malformed

/-- The claims about the user that callers are given. -/
structure User where
  userId : Json
  username : Json
  email : Json
  expiry : Json

/-- The user that claims describe. A user name of the pool is preferred to a
plain one. -/
def User.ofClaims (claims : List (String × Json)) : User :=
  let claim (name : String) : Json := (Json.lookup? name claims).getD .null
  let pooled := claim "cognito:username"
  ⟨claim "sub", if pooled.isVacuous then claim "username" else pooled, claim "email", claim "exp"⟩

/-- The user as an object. -/
def User.toJson (user : User) : Json :=
  .object [("user_id", user.userId), ("username", user.username), ("email", user.email),
    ("exp", user.expiry)]

/-- A claim read as a point in time. -/
inductive Expiry
  | moment (time : Binary64)
  | unusable
  | beyondDouble

/-- Reads a claim as a point in time. Numbers, truth values and numerals are
times; a number too large for a double is neither. -/
def Expiry.ofJson : Json → Expiry
  | .int value =>
      match Binary64.ofInt? value with
      | some time => moment time
      | none => beyondDouble
  | .float value => moment value
  | .bool value => moment (Binary64.ofRatio false (if value then 1 else 0) 1)
  | .text value =>
      match Numeral.readLoose? value with
      | some numeral => moment numeral.toBinary64
      | none => unusable
  | _ => unusable

end ClientAuth.IdToken
