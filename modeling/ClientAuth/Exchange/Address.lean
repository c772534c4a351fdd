import ClientAuth.Api.Url
import ClientAuth.Fault

/-! The address that a call is posted to. -/
namespace ClientAuth

/-- The text of an address, and whether it names a scheme and a host. -/
structure Address where
  url : String
  isAbsolute : Bool
deriving DecidableEq, Repr

namespace Address

/-- The address that a URL stands for. Without a scheme or a host only path and
query are left of it, after a single slash. -/
def ofUrl (url : Url) : Address :=
  if url.scheme ≠ "" && url.host ≠ "" then ⟨url.text, true⟩
  else
    let path := if url.path = "" then "/" else url.path
    let tail := path ++ (url.query.map ("?" ++ ·)).getD ""
    ⟨String.ofList ('/' :: tail.toList.dropWhile (· = '/')), false⟩

@[simp] theorem isAbsolute_ofUrl (url : Url) :
    (ofUrl url).isAbsolute = (url.scheme ≠ "" && url.host ≠ "") := by
  unfold ofUrl
  split
  next h => exact h.symm
  next h => simpa using h

end Address
end ClientAuth
